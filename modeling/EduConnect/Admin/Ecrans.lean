import EduConnect.Admin.Coefficients
import EduConnect.Admin.Creations
import EduConnect.Admin.DialogueMatiere
import EduConnect.Admin.FicheEleve
import EduConnect.Admin.ParClasse
import EduConnect.Admin.Parents
import EduConnect.Admin.Profil
import EduConnect.Admin.Retraits
import EduConnect.SuperAdmin.Administrateurs
import EduConnect.Typage

/-!
# The screens of an administrator, under the contract

What each screen sends fits the schema of the store.
-/

namespace EduConnect.Admin

open Lib Prog Donnees SuperAdmin

/-! ## Accounts -/

section Comptes

theorem utilisateurData_complets (p : AjoutEleve) (u r : String) (fileId : Option String) :
    Complets .utilisateurs (p.utilisateurData u r fileId) := by
  refine ⟨?_, List.forall_mem_nil _⟩
  simp [AjoutEleve.utilisateurData]
  exact fits_mapOption List.not_mem_nil rfl

theorem eleveData_complets (u : String) (c : Option String) :
    Complets .eleves (AjoutEleve.eleveData u c) := by
  refine ⟨?_, List.forall_mem_nil _⟩
  simp [AjoutEleve.eleveData]
  exact fits_texteOption List.not_mem_nil rfl

/-- The list of the class, read as a typed field, is written back with one more string. -/
theorem ajouterALaClasse_contrat (c u : String) : (AjoutEleve.ajouterALaClasse c u).Within contrat := by
  unfold AjoutEleve.ajouterALaClasse
  refine under_bind.mpr (under_lire.mpr ⟨fun doc hdoc => ?_, fun _ _ => trivial⟩)
  rcases doc with _ | d
  · trivial
  · refine under_bind.mpr (under_ofExcept.mpr ⟨fun l hl => ?_, fun _ _ => trivial⟩)
    refine .ite trivial ?_
    have hlist := arrayOf_of_accepts (hdoc d rfl .elevesIds) rfl
    rw [arrayOf_of_orList hl] at hlist
    obtain ⟨ids, rfl⟩ := hlist
    refine within_update ?_
    rw [show ids.map Value.str ++ [Value.str u] = (ids ++ [u]).map Value.str by simp]
    exact modifiables_cons.mpr ⟨⟨FieldOp.fits_strs.mpr rfl, rfl⟩, modifiables_nil⟩

/-- A button that creates accounts, whose documents are under the contract. -/
theorem Flux.enregistrer_contrat {σ : Type} {F : Flux σ}
    (hF : ∀ u r fileId, (F.documents u r fileId).Within contrat) : F.enregistrer.Within contrat := by
  have hchercher : F.chercherRole.Within contrat := .bind within_query fun _ => trivial
  have hrole : F.recupererRoleId.Within contrat := by
    unfold recupererRoleId
    split
    · refine .catching hchercher fun _ => ?_
      exact .bind trivial fun _ => trivial
    · exact hchercher
  have hphoto : F.televerserPhoto.Within contrat := by
    refine .bind (fun _ => trivial) fun p => ?_
    split
    · exact .catching (.bind (within_call ⟨trivial, trivial⟩) fun _ => trivial) fun _ => trivial
    · trivial
  have hcompte : F.creerUtilisateur.Within contrat :=
    .bind (fun _ => trivial) fun p => within_call ⟨trivial, trivial⟩
  have hfin : ∀ u r fileId, (F.terminer u r fileId).Within contrat := fun u r fileId =>
    .bind (hF u r fileId) fun _ => .bind trivial fun _ => trivial
  have hcreer : F.creer.Within contrat := by
    refine .bind hrole fun role => ?_
    rcases role with _ | r
    · exact .bind trivial fun _ => trivial
    · refine .ite (.bind hphoto fun fileId => .bind hcompte fun u => hfin u r fileId) ?_
      exact .bind hcompte fun u => .bind hphoto fun fileId => hfin u r fileId
  refine .bind trivial fun _ => .ensuring ?_ _
  exact .catching hcreer fun _ => trivial

theorem AjoutEleve.enregistrerDocuments_contrat (u r : String) (fileId : Option String) :
    (AjoutEleve.enregistrerDocuments u r fileId).Within contrat := by
  refine .bind (fun _ => trivial) fun p => .bind (within_set (utilisateurData_complets p u r fileId) rfl rfl)
    fun _ => .bind (fun _ => trivial) fun p => ?_
  refine .bind (within_set_nomme (eleveData_complets u _) rfl ?_) fun _ => .bind (fun _ => trivial) fun p => ?_
  · exact List.forall_mem_singleton.mpr fun _ => rfl
  cases p.classeIdSelectionne with
  | none => exact within_call ⟨trivial, trivial⟩
  | some c => exact ajouterALaClasse_contrat c u

theorem lienUtilisateur_complets {c : Collection} (hg : genreDans c .utilisateurId = .str)
    (hc : ∀ f ∈ requis c, f = .utilisateurId) (u : String) : Complets c (lienUtilisateur u) := by
  refine ⟨conformes_cons.mpr ⟨fits_texte.mpr hg, conformes_nil⟩, fun f hf => ?_⟩
  rw [hc f hf]
  exact List.mem_cons_self

/-- The record of a user, under his id. -/
theorem within_lien {c : Collection} (hp : pose c = true) (hn : nommes c = [.utilisateurId])
    (hg : genreDans c .utilisateurId = .str) (hc : ∀ f ∈ requis c, f = .utilisateurId) {Λ σ : Type}
    {l : Λ} (u : String) :
    (ecrire l (.set c u (lienUtilisateur u)) : Action Λ σ Unit).Within contrat := by
  refine within_set_nomme (lienUtilisateur_complets hg hc u) hp ?_
  rw [hn]
  exact List.forall_mem_singleton.mpr fun _ => rfl

theorem utilisateur_complets (u : UtilisateurModele) : Complets .utilisateurs u.toMap := by
  refine ⟨?_, List.forall_mem_nil _⟩
  simp [UtilisateurModele.toMap]
  exact fits_texteOption List.not_mem_nil rfl

theorem utilisateur_modifiables (u : UtilisateurModele) : Modifiables .utilisateurs u.toMap :=
  ⟨(utilisateur_complets u).1, fun _ _ => rfl⟩

theorem AjoutParent.enregistrerDocuments_contrat (u r : String) (fileId : Option String) :
    (AjoutParent.enregistrerDocuments u r fileId).Within contrat := by
  refine .bind (fun _ => trivial) fun p => .bind (within_set ⟨?_, List.forall_mem_nil _⟩ rfl rfl)
    fun _ => within_lien rfl rfl rfl (List.forall_mem_nil _) u
  simp [AjoutParent.utilisateurData]

theorem AjoutEnseignant.enregistrerDocuments_contrat (u r : String) (fileId : Option String) :
    (AjoutEnseignant.enregistrerDocuments u r fileId).Within contrat := by
  refine .bind (fun _ => trivial) fun p => .bind (within_set (utilisateur_complets _) rfl rfl) fun _ => ?_
  refine .bind (within_ajouter ?_ ⟨rfl, fun _ => trivial⟩) fun _ => trivial
  exact lienUtilisateur_complets rfl (List.forall_mem_nil _) u

theorem AjoutAdministrateur.enregistrerDocuments_contrat (u r : String) (fileId : Option String) :
    (AjoutAdministrateur.enregistrerDocuments u r fileId).Within contrat := by
  refine .bind (fun _ => trivial) fun p => .bind (within_ofExcept _) fun e =>
    .bind (within_set (utilisateur_complets _) rfl rfl) fun _ => ?_
  refine .bind within_query fun docs => .ite trivial (.bind (.bind within_lire fun doc => ?_)
    fun utilisateur => ?_)
  · rcases doc with _ | d
    · trivial
    · exact .bind (within_ofExcept _) fun _ => trivial
  · rcases utilisateur with _ | _
    · trivial
    · refine within_lien rfl rfl rfl ?_ u
      simp

theorem EcranAjout.enregistrer_contrat (e : EcranAjout) : e.enregistrer.Within contrat := by
  cases e with
  | eleve =>
    refine .bind (fun _ => trivial) fun p => .ite (.ite trivial (.ite trivial ?_)) trivial
    exact Flux.enregistrer_contrat (F := AjoutEleve.flux) AjoutEleve.enregistrerDocuments_contrat
  | parent =>
    refine .bind (fun _ => trivial) fun p => .ite ?_ trivial
    exact Flux.enregistrer_contrat AjoutParent.enregistrerDocuments_contrat
  | enseignant =>
    refine .bind (fun _ => trivial) fun p => .ite ?_ trivial
    exact Flux.enregistrer_contrat AjoutEnseignant.enregistrerDocuments_contrat
  | administrateur =>
    refine .bind (fun _ => trivial) fun p => .ite (.ite trivial ?_) trivial
    exact Flux.enregistrer_contrat AjoutAdministrateur.enregistrerDocuments_contrat

theorem EcranEdition.enregistrer_contrat (e : EcranEdition) : e.enregistrer.Within contrat := by
  have h : ∀ succes echec, (ModificationUtilisateur.enregistrer succes echec).Within contrat := by
    intro succes echec
    refine .bind (fun _ => trivial) fun p => .ite (.bind trivial fun _ => ?_) trivial
    refine .ensuring ?_ _
    refine .catching ?_ fun _ => trivial
    exact .bind (within_update (utilisateur_modifiables _)) fun _ => trivial
  cases e with
  | enseignant => exact h _ _
  | administrateur => exact h _ _

end Comptes

/-! ## Classes and subjects -/

section Classes

theorem fetchClasseDetails_contrat : ClasseDetail.fetchClasseDetails.Within contrat := by
  refine .catching ?_ fun _ => trivial
  exact .bind (fun _ => trivial) fun p => .bind within_lire fun data => trivial

theorem classe_complets (c : ClasseModele) : Complets .classes c.toMap := by
  refine ⟨?_, List.forall_mem_nil _⟩
  simp [ClasseModele.toMap]

theorem matiere_complets (m : MatiereModele) : Complets .matieres m.toMap := by
  refine ⟨?_, List.forall_mem_nil _⟩
  simp [MatiereModele.toMap]

theorem ListeClasse.genre_champ (l : Enseignant.ListeClasse) :
    genreDans .classes l.champ = .strs := by
  cases l <;> rfl

theorem toggleElement_contrat (l : Enseignant.ListeClasse) (elementId : String) (selected : Bool) :
    (ClasseDetail.toggleElement l.champ elementId selected).Within contrat := by
  refine .bind (fun _ => trivial) fun p => ?_
  split
  · trivial
  · refine .bind (within_ofExcept _) fun ids => .catching (.bind (within_update ?_) fun _ => ?_)
      fun _ => trivial
    · exact ⟨conformes_cons.mpr ⟨fits_textes.mpr (ListeClasse.genre_champ l), conformes_nil⟩,
        fun _ _ => rfl⟩
    · exact fetchClasseDetails_contrat

theorem resetClasse_contrat : ClasseDetail.resetClasse.Within contrat := by
  refine .catching ?_ fun _ => trivial
  refine .bind (fun _ => trivial) fun p => .bind (within_update ?_) fun _ => ?_
  · simp [ClasseDetail.listesVides]
  · exact fetchClasseDetails_contrat

theorem matiereEtEnseignant_modifiables (m t : String) :
    Modifiables .classes (matiereEtEnseignant m t) := by
  simp [matiereEtEnseignant]

theorem validerMatiere_contrat (m t : Option String) :
    (ClasseDetail.validerMatiere m t).Within contrat := by
  refine .bind (fun _ => trivial) fun p => ?_
  split
  · exact .bind (within_update (matiereEtEnseignant_modifiables _ _)) fun _ => fetchClasseDetails_contrat
  · trivial

theorem poserDoc_contrat {Λ σ : Type} {l : Λ} {c : Collection} {id : String} {fs : Champs}
    (h : Complets c fs) (hc : pose c = true) (hn : nommes c = []) :
    (poserDoc l c id fs : Action Λ σ Unit).Within contrat :=
  .ite trivial (within_set h hc hn)

theorem ajouterClasse_contrat {Λ : Type} (l : Λ) (id : String) :
    (AjouterClasse.ajouterClasse l id).Within contrat := by
  refine .bind (fun _ => trivial) fun p => .ite (.bind trivial fun _ => .ensuring ?_ _) trivial
  refine .catching ?_ fun _ => trivial
  refine .bind (within_ofExcept _) fun niveau => ?_
  exact .bind (poserDoc_contrat (classe_complets _) rfl rfl) fun _ => trivial

theorem chargerClasse_contrat : ModifierClasse.chargerClasse.Within contrat := by
  refine .ensuring ?_ _
  refine .catching ?_ fun _ => trivial
  refine .bind (fun _ => trivial) fun p => .bind within_lire fun doc => ?_
  rcases doc with _ | data
  · trivial
  · exact .bind (within_ofExcept _) fun modele => trivial

theorem modifierClasse_contrat : ModifierClasse.modifierClasse.Within contrat := by
  refine .bind (fun _ => trivial) fun p => ?_
  split
  · refine .ite (.bind trivial fun _ => .ensuring ?_ _) trivial
    refine .catching ?_ fun _ => trivial
    exact .bind (within_set (classe_complets _) rfl rfl) fun _ => trivial
  · trivial

/-- The frame of the controllers. -/
theorem siConnecte_contrat {Λ σ : Type} {l : Λ} {c : Collection}
    {introuvable E id refus contexte : String} {op : Action Λ σ Unit} (hop : op.Within contrat) :
    (siConnecte l c introuvable E id refus contexte op).Within contrat := by
  refine .catching ?_ fun _ => trivial
  refine .bind within_lireDoc fun doc => ?_
  rcases doc with _ | data
  · trivial
  · exact .ite hop trivial

theorem lireConnecte_contrat {Λ σ α : Type} {l : Λ} {E : String} {c : Collection} {id : String}
    {decode : Document → Except Err α} :
    (lireConnecte l E c id decode : Action Λ σ (Option α)).Within contrat := by
  refine .bind within_lireDoc fun doc => ?_
  rcases doc with _ | data
  · trivial
  · exact .ite (.bind (within_ofExcept _) fun _ => trivial) trivial

theorem ajouterMatiere_contrat {Λ σ : Type} (l : Λ) (E : String) (m : MatiereModele) :
    (MatiereController.ajouterMatiere l E m : Action Λ σ Unit).Within contrat :=
  .catching (poserDoc_contrat (matiere_complets _) rfl rfl) fun _ => trivial

theorem modifierMatiere_contrat {Λ σ : Type} (l : Λ) (E : String) (m : MatiereModele) :
    (MatiereController.modifierMatiere l E m : Action Λ σ Unit).Within contrat :=
  siConnecte_contrat (within_update ⟨(matiere_complets m).1, fun _ _ => rfl⟩)

theorem supprimerDocs_contrat {Λ σ : Type} (l : Λ) (docs : List (String × Document)) :
    (MatiereController.supprimerDocs l docs : Action Λ σ Unit).Within contrat :=
  under_loop (MatiereController.supprimerDocs l) rfl (fun _ _ => rfl) fun _ _ => within_delete rfl

theorem miseAJour_modifiables (nom niveau : Option String) :
    Modifiables .classes (ClasseController.miseAJour nom niveau) := by
  rcases nom with _ | nom <;> rcases niveau with _ | niveau <;>
    simp [ClasseController.miseAJour]

/-- Every call of the two controllers. -/
theorem AppelControleur.action_contrat (E : String) (a : AppelControleur) :
    (a.action E).Within contrat := by
  cases a with
  | ajouterClasse classe =>
    exact .catching (poserDoc_contrat (classe_complets _) rfl rfl) fun _ => trivial
  | getToutesLesClasses =>
    refine .bind (.catching ?_ fun _ => trivial) fun _ => trivial
    exact .bind within_query fun docs => within_ofExcept _
  | getClasseParId id =>
    exact .bind (.catching lireConnecte_contrat fun _ => trivial) fun _ => trivial
  | supprimerClasse id => exact siConnecte_contrat (within_delete rfl)
  | ajouterEleve c e => exact siConnecte_contrat (within_update (by simp))
  | supprimerEleve c e => exact siConnecte_contrat (within_update (by simp))
  | ajouterMatiereAClasse c m => exact siConnecte_contrat (within_update (by simp))
  | supprimerMatiereDeClasse c m =>
    exact siConnecte_contrat (within_update (by simp))
  | ajouterEnseignant c t => exact siConnecte_contrat (within_update (by simp))
  | supprimerEnseignant c t => exact siConnecte_contrat (within_update (by simp))
  | mettreAJourClasse c nom niveau =>
    exact siConnecte_contrat (.ite trivial (within_update (miseAJour_modifiables nom niveau)))
  | ajouterMatiere m => exact ajouterMatiere_contrat _ _ m
  | lireToutesLesMatieres =>
    refine .bind (.catching ?_ fun _ => trivial) fun _ => trivial
    exact .bind within_query fun docs => within_ofExcept _
  | lireMatiereParId id =>
    exact .bind (.catching lireConnecte_contrat fun _ => trivial) fun _ => trivial
  | modifierMatiere m => exact modifierMatiere_contrat _ _ m
  | supprimerMatiere id => exact siConnecte_contrat (within_delete rfl)
  | supprimerToutesLesMatieres =>
    refine .catching ?_ fun _ => trivial
    exact .bind within_query fun docs => supprimerDocs_contrat _ docs

theorem enregistrerMatiere_contrat {Λ : Type} (l : Λ) (id : String) :
    (AjoutMatiere.enregistrerMatiere l id).Within contrat := by
  have hmessage : ∀ titre message type,
      (AjoutMatiere.afficherMessage titre message type : Action Λ _ Unit).Within contrat :=
    fun _ _ _ => trivial
  have hfin : (ret () : Action Λ AjoutMatiere Unit).Within contrat := under_ret.mpr trivial
  refine .bind (fun _ => trivial) fun p => .ite (.catching ?_ fun _ => hmessage _ _ _) hfin
  refine .bind (within_ofExcept _) fun coefficient => ?_
  exact .bind (ajouterMatiere_contrat l _ _) fun _ => .bind (hmessage _ _ _) fun _ => trivial

theorem ModificationMatiere.modifierMatiere_contrat {Λ : Type} (l : Λ) :
    (ModificationMatiere.modifierMatiere l).Within contrat := by
  have hmessage : ∀ titre message type,
      (ModificationMatiere.afficherMessage titre message type : Action Λ _ Unit).Within contrat :=
    fun _ _ _ => trivial
  have hfin : (ret () : Action Λ ModificationMatiere Unit).Within contrat := under_ret.mpr trivial
  unfold ModificationMatiere.modifierMatiere
  refine .bind (fun _ => trivial) fun p => ?_
  generalize p.validate = valide
  generalize Double.tryParse (trim p.coefficient) = saisi
  refine .ite (.catching ?_ fun _ => hmessage _ _ _) hfin
  rcases saisi with _ | coefficient
  · exact hmessage _ _ _
  · refine .ite (hmessage _ _ _) (.bind ?_ fun _ => hmessage _ _ _)
    exact Admin.modifierMatiere_contrat l _ _

theorem supprimerClasse_contrat (docId : String) (confirmation : Bool) :
    (supprimerClasse docId confirmation).Within contrat := by
  refine .ite (.catching ?_ fun _ => trivial) trivial
  exact .bind (within_delete rfl) fun _ => trivial

theorem supprimerMatiere_contrat (docId : String) (confirmation : Bool) :
    (supprimerMatiere docId confirmation).Within contrat := by
  refine .ite (.catching ?_ fun _ => trivial) trivial
  exact .bind (within_delete rfl) fun _ => trivial

theorem dialogue_fetchClasseDetails_contrat : DialogueMatiere.fetchClasseDetails.Within contrat := by
  refine .catching ?_ fun _ => trivial
  refine .bind (fun _ => trivial) fun p => .bind within_lire fun doc => ?_
  rcases doc with _ | data
  · trivial
  · exact .bind (within_ofExcept _) fun _ => trivial

theorem loadEnseignants_contrat (appel : ℕ) (m : String) :
    (DialogueMatiere.loadEnseignants appel m).Within contrat := by
  refine .bind trivial fun _ => .catching ?_ fun _ => trivial
  refine .bind within_query fun enseignements => .ite trivial (.bind (within_ofExcept _) fun ids => ?_)
  refine .ite trivial (.bind within_query fun enseignants => .ite trivial ?_)
  refine .bind (within_ofExcept _) fun ids => .ite trivial (.bind within_query fun us => ?_)
  exact .ite trivial (.bind (within_ofExcept _) fun liste => trivial)

theorem DialogueMatiere.on_contrat {p : DialogueMatiere} {ev : DialogueMatiere.Evenement}
    {q : Action EtapeMatiere DialogueMatiere Unit} (h : p.on ev = some q) : q.Within contrat := by
  cases ev with
  | ouvrir =>
    obtain ⟨-, h⟩ := Option.ite_none_left_eq_some.mp h
    obtain rfl := Option.some.inj h
    refine .bind (fun _ => trivial) fun p => ?_
    split
    · trivial
    · refine .ite trivial (.bind within_query fun docs => .bind (fun _ => trivial) fun p => ?_)
      exact .ite trivial trivial
  | matiere n =>
    obtain ⟨-, h⟩ := Option.ite_none_right_eq_some.mp h
    obtain ⟨doc, -, rfl⟩ := Option.map_eq_some_iff.mp h
    exact .bind trivial fun _ => loadEnseignants_contrat p.appel doc.1
  | deplier =>
    obtain ⟨-, h⟩ := Option.ite_none_right_eq_some.mp h
    obtain rfl := Option.some.inj h
    trivial
  | enseignant n =>
    obtain ⟨e, -, rfl⟩ := Option.map_eq_some_iff.mp h
    exact .ite trivial trivial
  | replier =>
    obtain rfl := Option.some.inj h
    trivial
  | annuler =>
    obtain ⟨-, h⟩ := Option.ite_none_right_eq_some.mp h
    obtain rfl := Option.some.inj h
    trivial
  | valider =>
    obtain ⟨-, h⟩ := Option.ite_none_right_eq_some.mp h
    obtain rfl := Option.some.inj h
    refine .bind (fun _ => trivial) fun p => ?_
    split
    · refine .bind (within_update (matiereEtEnseignant_modifiables _ _)) fun _ => ?_
      exact .bind dialogue_fetchClasseDetails_contrat fun _ => trivial
    · trivial

theorem ajouterEleves_contrat : AjouterElevesClasse.ajouterEleves.Within contrat := by
  refine .bind (fun _ => trivial) fun p => .ite trivial (.ite trivial ?_)
  refine .bind within_lire fun doc => .bind (within_ofExcept _) fun ids => ?_
  refine .bind (fun _ => trivial) fun p' => .bind (within_commit fun w hw => ?_) fun _ => trivial
  rcases List.mem_append.mp hw with hw | hw
  · obtain ⟨e, -, rfl⟩ := List.mem_map.mp hw
    exact ⟨_, _, _, rfl, by simp⟩
  · obtain rfl := List.mem_singleton.mp hw
    exact ⟨_, _, _, rfl, by simp⟩

theorem fetchClasseData_contrat : AjouterElevesClasse.fetchClasseData.Within contrat := by
  refine .bind (fun _ => trivial) fun p => .bind within_lire fun doc => .bind trivial fun _ => ?_
  rcases doc with _ | data
  · trivial
  · exact .bind (within_ofExcept _) fun _ => trivial

end Classes

/-! ## Users and links -/

section Utilisateurs

theorem modifierDoc_contrat {σ : Type} {c : Collection} {id : String} {fs : Champs}
    (h : Modifiables c fs) : (modifierDoc c id fs : Action Unit σ Unit).Within contrat :=
  .ite trivial (within_update h)

theorem supprimerDoc_contrat {σ : Type} {c : Collection} {id : String} (hc : supprime c = true) :
    (supprimerDoc c id : Action Unit σ Unit).Within contrat := .ite trivial (within_delete hc)

theorem chargerInfos_contrat : ProfilUtilisateur.chargerInfos.Within contrat := by
  refine .bind (fun _ => trivial) fun p => .bind within_lire fun doc => ?_
  rcases doc with _ | data <;> trivial

theorem sansAttendre_contrat {p : Action Unit ProfilUtilisateur Unit} (hp : p.Within contrat) :
    (ProfilUtilisateur.sansAttendre p).Within contrat := .catching hp fun _ => trivial

theorem modifierInformations_contrat (nom prenom email : String) :
    (ProfilUtilisateur.modifierInformations nom prenom email).Within contrat := by
  refine .bind (fun _ => trivial) fun p => ?_
  split
  · trivial
  · refine .bind (within_ofExcept _) fun _ => .bind (within_ofExcept _) fun _ =>
      .bind (within_ofExcept _) fun _ => .bind (within_update ?_) fun _ => .bind trivial fun _ => ?_
    · simp [ProfilUtilisateur.informations]
    · exact sansAttendre_contrat chargerInfos_contrat

theorem modifierPhotoProfil_contrat (picked : Option String) :
    (ProfilUtilisateur.modifierPhotoProfil picked).Within contrat := by
  have henregistrer : ∀ filename, (ProfilUtilisateur.enregistrerPhoto filename).Within contrat := by
    intro filename
    refine .bind (within_call ⟨trivial, trivial⟩) fun id => .bind (fun _ => trivial) fun p => ?_
    refine .bind (within_update ?_) fun _ => sansAttendre_contrat chargerInfos_contrat
    simp
  rcases picked with _ | filename
  · trivial
  · refine .bind (fun _ => trivial) fun p => .bind (within_ofExcept _) fun ancien => ?_
    rcases ancien with _ | fileId
    · exact henregistrer filename
    · exact .bind (within_call ⟨trivial, trivial⟩) fun _ => henregistrer filename

theorem chargerDonneesEleve_contrat : FicheEleve.chargerDonneesEleve.Within contrat := by
  have hremplir : ∀ data, (FicheEleve.remplir data).Within contrat := fun data =>
    .bind (within_ofExcept _) fun _ => .bind trivial fun _ => .bind (within_ofExcept _) fun _ =>
    .bind trivial fun _ => .bind (within_ofExcept _) fun _ => .bind trivial fun _ =>
    .bind (within_ofExcept _) fun _ => .bind trivial fun _ => .bind (within_ofExcept _) fun _ => trivial
  have hcharger : FicheEleve.charger.Within contrat := by
    refine .bind (fun _ => trivial) fun p => .bind within_lire fun eleve => ?_
    rcases eleve with _ | eleveData
    · trivial
    refine .bind (within_ofExcept _) fun _ => .bind trivial fun _ => .bind (within_ofExcept _)
      fun u => .bind within_lireDoc fun utilisateur => ?_
    rcases utilisateur with _ | data
    · trivial
    refine .bind (hremplir data) fun _ => .bind (within_ofExcept _) fun E => ?_
    exact .bind within_query fun docs => trivial
  refine .bind trivial fun _ => .ensuring ?_ _
  exact .catching hcharger fun _ => trivial

theorem modifierEleve_contrat : ModificationEleve.modifierEleve.Within contrat := by
  refine .bind (fun _ => trivial) fun p => .ite ?_ trivial
  split
  · trivial
  · refine .bind trivial fun _ => .ensuring ?_ _
    refine .catching ?_ fun _ => trivial
    refine .bind (within_update ?_) fun _ => .bind (within_update ?_) fun _ => trivial
    all_goals simp [ModificationEleve.updatedData]

theorem ListeEleves.supprimerUtilisateur_contrat (u e : String) (confirmation : Bool) :
    (ListeEleves.supprimerUtilisateur u e confirmation).Within contrat := by
  refine .ite (.catching ?_ fun _ => trivial) trivial
  refine .bind (within_delete rfl) fun _ => .bind (within_delete rfl) fun _ => ?_
  exact .bind (within_of_lecture ListeEleves.chargerDonnees_lecture) fun _ => trivial

theorem ListeEnseignants.supprimerUtilisateur_contrat (u : String) (confirmation : Bool) :
    (ListeEnseignants.supprimerUtilisateur u confirmation).Within contrat := by
  refine .bind within_query fun docs => .ite (.catching ?_ fun _ => trivial) trivial
  refine .bind (within_delete rfl) fun _ => .bind ?_ fun _ => trivial
  rcases docs with _ | ⟨doc, docs⟩
  · trivial
  · exact within_delete rfl

theorem ListeUtilisateurs.supprimerUtilisateur_contrat (u : String) (confirm : Bool) :
    (ListeUtilisateurs.supprimerUtilisateur u confirm).Within contrat :=
  .ite (.bind (within_delete rfl) fun _ => trivial) trivial

theorem ListeParents.chargerDonnees_contrat : ListeParents.chargerDonnees.Within contrat := by
  refine .catching ?_ fun _ => trivial
  refine .bind trivial fun _ => .bind (fun _ => trivial) fun p => .bind within_query fun us => ?_
  refine .bind (within_ofExcept _) fun us => .bind trivial fun _ => .bind within_query fun ps => ?_
  exact .bind (within_ofExcept _) fun ps => .bind trivial fun _ => trivial

theorem ListeParents.supprimerParent_contrat (u p : String) (confirmation : Bool) :
    (ListeParents.supprimerParent u p confirmation).Within contrat := by
  refine .ite (.catching ?_ fun _ => trivial) trivial
  refine .bind (supprimerDoc_contrat rfl) fun _ => .bind (supprimerDoc_contrat rfl) fun _ => ?_
  exact .bind ListeParents.chargerDonnees_contrat fun _ => trivial

theorem ModifierParent.chargerDonneesParent_contrat :
    ModifierParent.chargerDonneesParent.Within contrat := by
  refine .bind trivial fun _ => .ensuring ?_ _
  refine .catching (.bind (fun _ => trivial) fun p => .bind within_lireDoc fun doc => ?_) fun _ => trivial
  rcases doc with _ | data
  · trivial
  · exact .bind (within_ofExcept _) fun _ => .bind trivial fun _ => .bind (within_ofExcept _) fun _ =>
      .bind trivial fun _ => .bind (within_ofExcept _) fun _ => .bind trivial fun _ =>
      .bind (within_ofExcept _) fun _ => .bind trivial fun _ => .bind (within_ofExcept _) fun _ => trivial

theorem ModifierParent.modifierParent_contrat : ModifierParent.modifierParent.Within contrat := by
  refine .bind (fun _ => trivial) fun p => .ite (.bind trivial fun _ => .ensuring ?_ _) trivial
  refine .catching (.bind (modifierDoc_contrat ?_) fun _ => trivial) fun _ => trivial
  simp [ModifierParent.updatedUser]

theorem ajouterRelation_contrat {σ : Type} (p e : String) :
    (DepotFamille.ajouterRelation p e : Action EtapeLien σ String).Within contrat := by
  refine .catching ?_ fun _ => trivial
  refine .bind within_query fun docs => ?_
  rcases docs with _ | ⟨doc, docs⟩
  · refine within_ajouter ⟨?_, List.forall_mem_nil _⟩ ⟨rfl, fun _ => trivial⟩
    simp [DepotFamille.nouvelle]
  · trivial

theorem LierParentEnfant.on_contrat {p : LierParentEnfant} {ev : LierParentEnfant.Evenement}
    {q : Action EtapeLien LierParentEnfant Unit} (h : p.on ev = some q) : q.Within contrat := by
  cases ev with
  | lier e =>
    obtain ⟨-, h⟩ := Option.ite_none_left_eq_some.mp h
    obtain rfl := Option.some.inj h
    refine .catching ?_ fun _ => trivial
    exact .bind (fun _ => trivial) fun p => .bind (ajouterRelation_contrat _ e) fun _ => trivial
  | ajouterRelation p' e =>
    obtain rfl := Option.some.inj h
    exact .bind (ajouterRelation_contrat p' e) fun _ => trivial
  | supprimerRelation r =>
    obtain rfl := Option.some.inj h
    refine .catching ?_ fun _ => trivial
    exact .ite trivial (within_delete rfl)

theorem lierMatiere_contrat (m : MatiereModele) : (LierEnseignantMatiere.lierMatiere m).Within contrat := by
  refine .catching ?_ fun _ => trivial
  refine .bind (fun _ => trivial) fun p => .bind within_query fun docs => ?_
  rcases docs with _ | ⟨doc, docs⟩
  · trivial
  · refine .bind (.bind (within_ajouter ⟨?_, List.forall_mem_nil _⟩ ⟨rfl, fun _ => trivial⟩)
      fun _ => trivial) fun _ => trivial
    simp [EnseignementDepot.enseignement]

end Utilisateurs

/-! ## The super administrator -/

section SuperAdministrateur

theorem role_complets (nom description : String) :
    Complets .roles (AjoutRole.roleData nom description) := by
  constructor
  · simp [AjoutRole.roleData]
  · simp [AjoutRole.roleData, texte]

theorem enregistrerRole_contrat : AjoutRole.enregistrerRole.Within contrat := by
  refine .bind (fun _ => trivial) fun p => .ite (.catching ?_ fun _ => trivial) trivial
  refine .bind ?_ fun _ => .bind trivial fun _ => trivial
  exact .bind (within_ajouter (role_complets _ _) ⟨rfl, fun _ => trivial⟩) fun _ => trivial

theorem enregistrerSuperAdministrateur_contrat :
    AjoutSuperAdministrateur.enregistrerSuperAdministrateur.Within contrat := by
  have hrole : AjoutSuperAdministrateur.chercherRole.Within contrat :=
    .bind within_query fun _ => trivial
  have hdocuments : ∀ u r, (AjoutSuperAdministrateur.enregistrerDocuments u r).Within contrat := by
    intro u r
    refine .bind (fun _ => trivial) fun p =>
      .bind (within_set ⟨?_, List.forall_mem_nil _⟩ rfl rfl) fun _ =>
      .bind (within_set ⟨?_, List.forall_mem_nil _⟩ rfl rfl) fun _ => .bind (fun _ => trivial) fun p =>
      within_set ⟨?_, List.forall_mem_nil _⟩ rfl rfl
    · simp [AjoutSuperAdministrateur.userData]
    · simp [AjoutSuperAdministrateur.userData]
    · simp [AjoutSuperAdministrateur.authentificationData]
  have hcreer : AjoutSuperAdministrateur.creer.Within contrat := by
    refine .bind hrole fun role => ?_
    rcases role with _ | r
    · exact .bind trivial fun _ => trivial
    · refine .bind (fun _ => trivial) fun p => .bind (within_call ⟨trivial, trivial⟩) fun u => ?_
      exact .bind (hdocuments u r) fun _ => trivial
  refine .bind (fun _ => trivial) fun p => .ite (.bind trivial fun _ => .ensuring ?_ _) trivial
  exact .catching hcreer fun _ => trivial

theorem etablissement_complets (e : EtablissementModele) : Complets .etablissements e.toMap := by
  refine ⟨?_, List.forall_mem_nil _⟩
  simp [EtablissementModele.toMap]

theorem etablissement_modifiables (e : EtablissementModele) :
    Modifiables .etablissements e.toMap := ⟨(etablissement_complets e).1, fun _ _ => rfl⟩

theorem supprimerRole_contrat (docId : String) (confirmation : Bool) :
    (supprimerRole docId confirmation).Within contrat :=
  .ite (.bind (supprimerDoc_contrat rfl) fun _ => trivial) trivial

theorem supprimerEtablissement_contrat (docId : String) (confirmation : Bool) :
    (supprimerEtablissement docId confirmation).Within contrat :=
  .ite (.bind (supprimerDoc_contrat rfl) fun _ => trivial) trivial

theorem ModifierRole.modifierRole_contrat : ModifierRole.modifierRole.Within contrat := by
  refine .bind (fun _ => trivial) fun p => .ite (.catching (.bind ?_ fun _ => trivial) fun _ => trivial)
    trivial
  exact .catching (modifierDoc_contrat (by simp)) fun _ => trivial

theorem enregistrerEtablissement_contrat : AjoutEtablissement.enregistrerEtablissement.Within contrat := by
  refine .bind (fun _ => trivial) fun p => .ite (.catching (.bind ?_ fun _ => ?_) fun _ => trivial) trivial
  · exact .bind (within_ajouter (etablissement_complets _) ⟨rfl, fun _ => trivial⟩) fun _ => trivial
  · exact .bind trivial fun _ => trivial

theorem ModifierEtablissement.modifierEtablissement_contrat :
    ModifierEtablissement.modifierEtablissement.Within contrat := by
  refine .bind (fun _ => trivial) fun p => .ite (.catching (.bind ?_ fun _ => trivial) fun _ => trivial)
    trivial
  exact modifierDoc_contrat (etablissement_modifiables _)

theorem fetchRoleAdministrateurId_contrat :
    ListeAdministrateurs.fetchRoleAdministrateurId.Within contrat := by
  refine .bind within_query fun docs => ?_
  rcases docs with _ | ⟨doc, docs⟩ <;> trivial

theorem supprimerAdministrateur_contrat (u : String) (confirmation : Bool) :
    (ListeAdministrateurs.supprimerAdministrateur u confirmation).Within contrat := by
  refine .ite (.catching (.bind (supprimerDoc_contrat rfl) fun _ => ?_) fun _ => trivial) trivial
  refine .bind within_query fun docs => .bind ?_ fun _ => trivial
  rcases docs with _ | ⟨doc, docs⟩
  · trivial
  · exact supprimerDoc_contrat rfl

end SuperAdministrateur

end EduConnect.Admin
