import EduConnect.Donnees.Objet

/-!
# The repositories are atomic

Each function of `AppelDepot` sends one request at most, and does to the tables what
`AppelDepot.regle` says.  Clients that call the functions, at any rate and with requests that are
lost, see nothing that they could not see of tables that answer at once.
-/

namespace EduConnect.Donnees

open Lib Prog Admin SuperAdmin Messagerie

/-! ## What the models hold -/

section Champs

variable {d : Document} {id : String}

theorem etablissementId_utilisateur {u : UtilisateurModele}
    (h : UtilisateurModele.fromMap d id = .ok u) :
    (d.get .etablissementId).orStr "" = .ok u.etablissementId := by
  iterate 8
    obtain ⟨_, -, h⟩ := bind_eq_ok_iff.mp h
  obtain ⟨_, hv, h⟩ := bind_eq_ok_iff.mp h
  obtain ⟨_, -, h⟩ := bind_eq_ok_iff.mp h
  obtain rfl := Except.ok.inj h
  exact hv

theorem classeId_eleve {e : EleveModele} (h : EleveModele.fromMap d id = .ok e) :
    (d.get .classeId).orStr "" = .ok e.classeId := by
  obtain ⟨_, -, h⟩ := bind_eq_ok_iff.mp h
  obtain ⟨_, hv, h⟩ := bind_eq_ok_iff.mp h
  obtain ⟨_, -, h⟩ := bind_eq_ok_iff.mp h
  obtain rfl := Except.ok.inj h
  exact hv

theorem enseignantId_matiere {m : Donnees.MatiereModele}
    (h : DepotMatiere.lireMatiere d id = .ok m) :
    (d.get .enseignantId).orStr "" = .ok m.enseignantId := by
  iterate 3
    obtain ⟨_, -, h⟩ := bind_eq_ok_iff.mp h
  obtain ⟨_, hv, h⟩ := bind_eq_ok_iff.mp h
  obtain rfl := Except.ok.inj h
  exact hv

theorem eleveId_note {n : NoteModele} (h : DepotNote.lireNote d id = .ok n) :
    (d.get .eleveId).orStr "" = .ok n.eleveId := by
  iterate 3
    obtain ⟨_, -, h⟩ := bind_eq_ok_iff.mp h
  obtain ⟨_, hv, h⟩ := bind_eq_ok_iff.mp h
  obtain ⟨_, -, h⟩ := bind_eq_ok_iff.mp h
  obtain ⟨_, -, h⟩ := bind_eq_ok_iff.mp h
  obtain rfl := Except.ok.inj h
  exact hv

theorem utilisateurId_parent {p : ParentModele} (h : ParentModele.fromMap d id = .ok p) :
    (d.get .utilisateurId).orStr "" = .ok p.utilisateurId := by
  obtain ⟨_, hv, h⟩ := bind_eq_ok_iff.mp h
  obtain rfl := Except.ok.inj h
  exact hv

theorem enseignantId_enseignement {e : EnseignementModele}
    (h : EnseignementModele.fromMap d id = .ok e) :
    (d.get .enseignantId).orStr "" = .ok e.enseignantId := by
  obtain ⟨_, hv, h⟩ := bind_eq_ok_iff.mp h
  obtain ⟨_, -, h⟩ := bind_eq_ok_iff.mp h
  obtain rfl := Except.ok.inj h
  exact hv

theorem matiereId_enseignement {e : EnseignementModele}
    (h : EnseignementModele.fromMap d id = .ok e) :
    (d.get .matiereId).orStr "" = .ok e.matiereId := by
  obtain ⟨_, -, h⟩ := bind_eq_ok_iff.mp h
  obtain ⟨_, hv, h⟩ := bind_eq_ok_iff.mp h
  obtain rfl := Except.ok.inj h
  exact hv

theorem parentId_famille {f : Enseignant.FamilleModele}
    (h : Enseignant.FamilleModele.fromMap d id = .ok f) :
    (d.get .parentId).orStr "" = .ok f.parentId := by
  obtain ⟨_, hv, h⟩ := bind_eq_ok_iff.mp h
  obtain ⟨_, -, h⟩ := bind_eq_ok_iff.mp h
  obtain rfl := Except.ok.inj h
  exact hv

/-- The fields of a roll call that queries ask for. -/
structure ChampsAppel (d : Document) (a : AppelModele) : Prop where
  classeId : (d.get .classeId).orStr "" = .ok a.classeId
  enseignantId : (d.get .enseignantId).orStr "" = .ok a.enseignantId
  elevesAbsents : (d.get .elevesAbsents).orStrs = .ok a.elevesAbsents
  date : d .date = some (.stamp a.date)

theorem champs_appel {a : AppelModele} (h : AppelModele.fromMap d id = .ok a) :
    ChampsAppel d a := by
  obtain ⟨_, hclasse, h⟩ := bind_eq_ok_iff.mp h
  obtain ⟨_, -, h⟩ := bind_eq_ok_iff.mp h
  obtain ⟨_, -, h⟩ := bind_eq_ok_iff.mp h
  obtain ⟨_, henseignant, h⟩ := bind_eq_ok_iff.mp h
  obtain ⟨_, -, h⟩ := bind_eq_ok_iff.mp h
  obtain ⟨_, habsents, h⟩ := bind_eq_ok_iff.mp h
  obtain ⟨date, hdate, h⟩ := bind_eq_ok_iff.mp h
  obtain ⟨_, -, h⟩ := bind_eq_ok_iff.mp h
  obtain rfl := Except.ok.inj h
  refine ⟨hclasse, henseignant, habsents, ?_⟩
  unfold Doc.get at hdate
  rcases hd : d .date with _ | v
  · rw [hd] at hdate
    cases hdate
  · rw [hd] at hdate
    cases v <;> cases hdate
    rfl

end Champs

/-! ## What the queries find -/

section Requetes

variable {M : Type} {C : Codec Collection Champ M} {f : Champ}

theorem finding_tous : World.Finding C [] (fun _ => True) fun _ => True :=
  ⟨fun _ _ _ _ _ => trivial, fun _ _ _ _ _ _ h => absurd h List.not_mem_nil, fun _ => rfl⟩

/-- A text that is not empty is the one of the document. -/
theorem finding_avec {cle : M → String} {v : String}
    (hcle : ∀ id d m, C.read d id = .ok m → (d.get f).orStr "" = .ok (cle m)) :
    World.Finding C [.isEqualTo f (.str v)] (fun m => cle m = v ∧ v ≠ "") fun m => cle m = v where
  sound id d m hm hsat := by
    have hd := Filter.sat_isEqualTo_str.mp (hsat _ List.mem_cons_self)
    have hget := hcle id d m hm
    rw [Doc.get, hd] at hget
    exact (Except.ok.inj hget).symm
  full id d m hm hv := by
    rintro _ hf
    obtain rfl := List.mem_singleton.mp hf
    refine Filter.sat_isEqualTo_str.mpr ?_
    have hget := hcle id d m hm
    rw [hv.1, Doc.get] at hget
    rcases hd : d f with _ | w
    · rw [hd] at hget
      exact absurd (Except.ok.inj hget).symm hv.2
    · rw [hd] at hget
      cases w with
      | str s => rw [Except.ok.inj hget]
      | null => exact absurd (Except.ok.inj hget).symm hv.2
      | _ => cases hget
  accepted _ := rfl

theorem finding_contient {cle : M → List String} {v : String}
    (hcle : ∀ id d m, C.read d id = .ok m → (d.get f).orStrs = .ok (cle m)) :
    World.Finding C [.arrayContains f v] (fun m => v ∈ cle m) fun m => v ∈ cle m where
  sound id d m hm hsat := by
    have hd := Filter.sat_arrayContains.mp (hsat _ List.mem_cons_self)
    rwa [strsOf_of_orStrs (hcle id d m hm)] at hd
  full id d m hm hv := by
    rintro _ hf
    obtain rfl := List.mem_singleton.mp hf
    refine Filter.sat_arrayContains.mpr ?_
    rwa [strsOf_of_orStrs (hcle id d m hm)]
  accepted _ := rfl

end Requetes

/-! ## What the functions are made of -/

section Formes

variable {σ α : Type} {S : Server}

/-- The program does to the tables what `P` says, in one request at most. -/
abbrev Fait (S : Server) (P : Monde → Except Err α → Monde → Prop) (p : Action Unit σ α) : Prop :=
  p.Atomic S.handler .unavailable (World.Shows codec) P

variable {P : Monde → Except Err α → Monde → Prop} {p : Action Unit σ α} {e : Entite} {id : String}

theorem ofExcept_map {β : Type} (o : Except Err α) (f : α → β) :
    (Prog.ofExcept o : Action Unit σ α).bind (fun a => ret (f a)) = Prog.ofExcept (o.map f) := by
  cases o <;> rfl

theorem fait_lecture (contexte : String) (hp : Fait S P p) :
    Fait S (Sous contexte P) (lecture contexte p) :=
  Prog.Atomic.rethrow (g := fun e => .exception (contexte ++ texteErreur e)) hp (fun _ => rfl)
    fun _ o _ h => ⟨o, h, rfl⟩

theorem fait_relancer (hp : Fait S P p) : Fait S P (relancer p) :=
  Prog.Atomic.rethrow (g := id) hp (fun _ => rfl) fun _ o _ h => by cases o <;> exact h

theorem fait_poserDoc (m : e.Modele) : Fait S (Pose e id ((codec e).stored id m))
    (poserDoc () (codec e).coll id ((codec e).fields m) : Action Unit σ Unit) := by
  refine Prog.Atomic.ite (fun hid => ?_) fun hid => World.atomic_set codec_kept hid
  subst hid
  exact fun w => .inr (World.fails_empty w)

theorem fait_modifierDoc (m : e.Modele) : Fait S (Change e id ((codec e).stored id m))
    (modifierDoc (codec e).coll id ((codec e).fields m) : Action Unit σ Unit) := by
  refine Prog.Atomic.ite (fun hid => ?_) fun hid => World.atomic_update codec_kept hid
  subst hid
  exact fun w => .inr (.inr (World.fails_empty w))

theorem fait_supprimerDoc (e : Entite) (id : String) :
    Fait S (Ote e id) (supprimerDoc (codec e).coll id : Action Unit σ Unit) := by
  refine Prog.Atomic.ite (fun hid => ?_) fun hid => World.atomic_delete codec_kept hid
  subst hid
  exact fun w => .inr (World.fails_empty w)

theorem fait_ajouter (m : e.Modele) : Fait S (Ajoute e fun id => (codec e).stored id m)
    (ajouter () (codec e).coll ((codec e).fields m) : Action Unit σ String) :=
  World.atomic_add codec_kept

theorem fait_ajouterDoc (m : e.Modele) :
    Fait S (SansRetour (Ajoute e fun id => (codec e).stored id m))
      (ajouterDoc (codec e).coll ((codec e).fields m) : Action Unit σ Unit) :=
  Prog.Atomic.bind (g := fun _ => .ok ()) (fait_ajouter m) (fun _ => rfl)
    fun _ o _ h => ⟨o, h, by cases o <;> rfl⟩

theorem fait_chargerModele (e : Entite) (id : String) : Fait S (Trouve e id)
    (chargerModele (codec e).coll id (codec e).read : Action Unit σ (Option e.Modele)) := by
  by_cases hid : id = ""
  · subst hid
    exact fun w => .inr (World.fails_empty w)
  · have hform : (chargerModele (codec e).coll id (codec e).read : Action Unit σ _) =
        (Prog.call () (Req.get (codec e).coll id) : Action Unit σ (Option Document)).bind fun doc =>
          Prog.ofExcept (doc.elim (.ok none) fun d => ((codec e).read d id).map some) := by
      have hlire : (lireDoc () (codec e).coll id : Action Unit σ _) = lire () (codec e).coll id :=
        if_neg hid
      unfold chargerModele
      rw [hlire]
      refine congrArg (Prog.bind _) (funext fun doc => ?_)
      rcases doc with _ | d
      · rfl
      · exact ofExcept_map _ some
    rw [hform]
    exact World.atomic_get hid

theorem fait_chargerModeles {fs : List (Lib.Filter Champ)} {must may : e.Modele → Prop}
    (hfs : World.Finding (codec e) fs must may) : Fait S (World.Lists e must may fun _ _ => True)
      (chargerModeles () (codec e).coll fs (codec e).read : Action Unit σ (List e.Modele)) :=
  World.atomic_query hfs

theorem fait_chargerRecents {fs : List (Lib.Filter Champ)} {must may : AppelModele → Prop}
    (hfs : World.Finding (codec .appel) fs must may) :
    Fait S (World.Lists Entite.appel must may plusRecents)
      (chargerRecents .appels fs AppelModele.fromMap : Action Unit σ (List AppelModele)) :=
  World.atomic_query_desc (e := Entite.appel) hfs fun _ _ _ hm => (champs_appel hm).date

theorem fait_chargerPremier {fs : List (Lib.Filter Champ)} {must may : e.Modele → Prop}
    (hfs : World.Finding (codec e) fs must may) : Fait S (World.First e must may)
      (chargerPremier (codec e).coll fs (codec e).read : Action Unit σ (Option e.Modele)) := by
  have hform : (chargerPremier (codec e).coll fs (codec e).read : Action Unit σ _) =
      (chercherPremier () (codec e).coll fs).bind fun docs => Prog.ofExcept
        (docs.head?.elim (.ok none) fun doc => ((codec e).read doc.2 doc.1).map some) := by
    refine congrArg (Prog.bind _) (funext fun docs => ?_)
    rcases docs with _ | ⟨doc, docs⟩
    · rfl
    · exact ofExcept_map _ some
  rw [hform]
  exact World.atomic_first hfs

end Formes

/-! ## Every function -/

/-- **Every function does what its rule says.** -/
theorem AppelDepot.fait {σ : Type} (S : Server) (x : AppelDepot) :
    Fait S x.regle (x.programme : Action Unit σ x.Resultat) := by
  cases x with
  | ajouterUtilisateur u => exact fait_poserDoc (e := .utilisateur) u
  | modifierUtilisateur id u => exact fait_modifierDoc (e := .utilisateur) u
  | supprimerUtilisateur id => exact fait_supprimerDoc .utilisateur id
  | getTousLesUtilisateurs => exact fait_chargerModeles (e := .utilisateur) finding_tous
  | getUtilisateurParId id => exact fait_chargerModele .utilisateur id
  | getUtilisateursParEtablissement v =>
    exact fait_chargerModeles (e := .utilisateur)
      (finding_avec fun _ _ _ => etablissementId_utilisateur)
  | ajouterEleve e => exact fait_lecture _ (fait_poserDoc (e := .eleve) e)
  | modifierEleve id e => exact fait_lecture _ (fait_modifierDoc (e := .eleve) e)
  | supprimerEleve id => exact fait_lecture _ (fait_supprimerDoc .eleve id)
  | rechercherEleveParId id => exact fait_lecture _ (fait_chargerModele .eleve id)
  | rechercherElevesParClasse v =>
    exact fait_lecture _ (fait_chargerModeles (e := .eleve) (finding_avec fun _ _ _ => classeId_eleve))
  | recupererTousLesEleves => exact fait_lecture _ (fait_chargerModeles (e := .eleve) finding_tous)
  | ajouterClasse c => exact fait_poserDoc (e := .classe) c
  | modifierClasse id c => exact fait_modifierDoc (e := .classe) c
  | supprimerClasse id => exact fait_supprimerDoc .classe id
  | getToutesLesClasses => exact fait_chargerModeles (e := .classe) finding_tous
  | getClasseParId id => exact fait_chargerModele .classe id
  | ajouterMatiere m => exact fait_poserDoc (e := .matiere) m
  | modifierMatiere id m => exact fait_modifierDoc (e := .matiere) m
  | supprimerMatiere id => exact fait_supprimerDoc .matiere id
  | getToutesLesMatieres => exact fait_chargerModeles (e := .matiere) finding_tous
  | getMatiereParId id => exact fait_chargerModele .matiere id
  | getMatieresParEnseignant v =>
    exact fait_chargerModeles (e := .matiere) (finding_avec fun _ _ _ => enseignantId_matiere)
  | ajouterNote n => exact fait_ajouterDoc (e := .note) n
  | modifierNote id n => exact fait_modifierDoc (e := .note) n
  | supprimerNote id => exact fait_supprimerDoc .note id
  | getToutesLesNotes => exact fait_chargerModeles (e := .note) finding_tous
  | getNotesParEleve v =>
    exact fait_chargerModeles (e := .note) (finding_avec fun id d n => @eleveId_note d id n)
  | ajouterEtablissement e => exact fait_ajouterDoc (e := .etablissement) e
  | modifierEtablissement id e => exact fait_modifierDoc (e := .etablissement) e
  | supprimerEtablissement id => exact fait_supprimerDoc .etablissement id
  | getTousLesEtablissements => exact fait_chargerModeles (e := .etablissement) finding_tous
  | getEtablissementParId id => exact fait_chargerModele .etablissement id
  | ajouterEnseignant e => exact fait_ajouterDoc (e := .enseignant) e
  | modifierEnseignant id e => exact fait_modifierDoc (e := .enseignant) e
  | supprimerEnseignant id => exact fait_supprimerDoc .enseignant id
  | getEnseignant id => exact fait_chargerModele .enseignant id
  | getTousLesEnseignants => exact fait_chargerModeles (e := .enseignant) finding_tous
  | ajouterParent p => exact fait_lecture _ (fait_ajouter (e := .parent) p)
  | getParentParId id => exact fait_lecture _ (fait_chargerModele .parent id)
  | supprimerParent id => exact fait_lecture _ (fait_supprimerDoc .parent id)
  | getTousLesParentsStream => exact fait_chargerModeles (e := .parent) finding_tous
  | getParentParUtilisateurId v =>
    exact fait_lecture _ (fait_chargerPremier (e := .parent)
      (finding_avec fun _ _ _ => utilisateurId_parent))
  | getTousLesRoles => exact fait_chargerModeles (e := .role) finding_tous
  | getRoleParId id => exact fait_chargerModele .role id
  | modifierRole id nom description =>
    exact fait_lecture _ (fait_modifierDoc (e := .role) ⟨id, nom, description⟩)
  | ajouterRole nom description => exact fait_ajouterDoc (e := .role) ⟨"", nom, description⟩
  | ajouterEnseignement e m => exact fait_ajouterDoc (e := .enseignement) ⟨"", e, m⟩
  | supprimerEnseignement id => exact fait_supprimerDoc .enseignement id
  | getEnseignementsPourEnseignant v =>
    exact fait_chargerModeles (e := .enseignement)
      (finding_avec fun _ _ _ => enseignantId_enseignement)
  | getEnseignementsPourMatiere v =>
    exact fait_chargerModeles (e := .enseignement)
      (finding_avec fun _ _ _ => matiereId_enseignement)
  | modifierAdministrateur a => exact fait_modifierDoc (e := .administrateur) a
  | supprimerAdministrateur id => exact fait_supprimerDoc .administrateur id
  | creerAppel a => exact fait_relancer (fait_ajouterDoc (e := .appel) a)
  | getAppelParId id => exact fait_relancer (fait_chargerModele .appel id)
  | getAppelsParClasse v =>
    exact fait_relancer (fait_chargerRecents (finding_avec fun _ _ _ h => (champs_appel h).classeId))
  | getAppelsParEnseignant v =>
    exact fait_relancer
      (fait_chargerRecents (finding_avec fun _ _ _ h => (champs_appel h).enseignantId))
  | getAbsencesParEleve v =>
    exact fait_relancer
      (fait_chargerRecents (finding_contient fun _ _ _ h => (champs_appel h).elevesAbsents))
  | supprimerAppel id => exact fait_relancer (fait_supprimerDoc .appel id)
  | supprimerRelation id => exact fait_lecture _ (fait_supprimerDoc .famille id)
  | getRelationsParParent v =>
    exact fait_chargerModeles (e := .famille) (finding_avec fun _ _ _ => parentId_famille)

/-- Clients that call the repositories and keep what they return. -/
def clients (ι : Type) (S : Server) :
    Spec ι Unit Requete Req.Ans Err (List (Outcome AppelDepot AppelDepot.Resultat Err)) Base
      AppelDepot :=
  calls S.handler .unavailable AppelDepot.programme

/-- **Whatever clients of these functions do, and whatever is lost, what they see is what tables of
models, which answer each call at one moment between its start and its end, could have shown them;
and the documents are those of the tables.** -/
theorem depots_atomiques {ι : Type} [DecidableEq ι] (S : Server) {b : Base} {w : Monde}
    (hb : w.Shows codec b) {as : List (Act ι AppelDepot Base)}
    {s : Sys ι Unit Requete Req.Ans Err (List (Outcome AppelDepot AppelDepot.Resultat Err)) Base}
    (hrun : as.foldlM (Sys.closedStep (clients ι S)) (Sys.init b fun _ => []) = some s) :
    ∃ t, Ideal.Run AppelDepot.regle ⟨w, []⟩
        ((Sys.init b fun _ => []).history S.handler .unavailable AppelDepot.programme as) t ∧
      t.world.Shows codec s.base := by
  obtain ⟨t, hrun', hs⟩ := Sys.history_ideal (fun x => AppelDepot.fait S x)
    (Sys.Stands.init hb fun _ => []) hrun
  exact ⟨t, hrun', hs.world⟩

theorem vide_shows : World.Shows codec (fun _ _ => none : Monde) baseVide := fun _ _ => rfl

/-- A role is added while the roles are listed. -/
theorem depots_atomiques_deux_clients :
    ∃ s, ([.event true (.ajouterRole "eleve" "Un élève"), .event false .getTousLesRoles, .serve 0,
        .serve 1, .resume 1, .resume 0] : List (Act Bool AppelDepot Base)).foldlM
          (Sys.closedStep (clients Bool (Server.longest 30))) (Sys.init baseVide fun _ => []) = some s ∧
      ∃ t, Ideal.Run AppelDepot.regle ⟨fun _ _ => none, []⟩
        ((Sys.init baseVide fun _ => []).history (Server.longest 30).handler .unavailable
          AppelDepot.programme [.event true (.ajouterRole "eleve" "Un élève"),
            .event false .getTousLesRoles, .serve 0, .serve 1, .resume 1, .resume 0]) t ∧
        t.world.Shows codec s.base :=
  ⟨_, rfl, depots_atomiques (Server.longest 30) vide_shows rfl⟩

end EduConnect.Donnees
