import EduConnect.Admin.Inscriptions
import EduConnect.Admin.Liens
import EduConnect.Admin.ParClasse
import EduConnect.Enseignant.Matieres
import EduConnect.Lib.References
import EduConnect.Lib.Runs

/-!
# Deletions, and what still refers to what was deleted

`ListeEleves`, `ListeEnseignants`, `ListeUtilisateurs` and `MatieresPage` delete the documents of a
student, a teacher, a user and a subject.  None of them looks for documents that refer to these
(`renvois` lists the references), so a run keeps the references exactly if nothing refers to what
it deletes.
-/

namespace EduConnect.Admin

open Lib Prog Enseignant

/-! ## ListeEnseignants and ListeUtilisateurs -/

/-- The document found for the teacher is deleted. -/
def ListeEnseignants.supprimerPremier :
    List (String × Document) → Action Etape (List String) Unit
  | [] => ret ()
  | doc :: _ => ecrire .autre (.delete .enseignants doc.1)

/-- `_supprimerUtilisateur`, whose dialog answers `confirmation`; the document of the teacher is
looked for before the dialog is shown. -/
def ListeEnseignants.supprimerUtilisateur (utilisateurId : String) (confirmation : Bool) :
    Action Etape (List String) Unit := do
  let enseignantSnap ← chercherPremier .autre .enseignants
    [.isEqualTo .utilisateurId (.str utilisateurId)]
  if confirmation then
    catching (do
      ecrire .autre (.delete .utilisateurs utilisateurId)
      supprimerPremier enseignantSnap
      setState fun m => m ++ ["Enseignant supprimé avec succès"]) fun e =>
    setState fun m => m ++ ["Erreur lors de la suppression : " ++ texteErreur e]
  else ret ()

/-- `_supprimerUtilisateur`, once the dialog has answered `confirm`. -/
def ListeUtilisateurs.supprimerUtilisateur (userId : String) (confirm : Bool) :
    Action Etape (List String) Unit :=
  if confirm then do
    ecrire .autre (.delete .utilisateurs userId)
    setState fun m => m ++ ["Utilisateur supprimé avec succès"]
  else ret ()

/-! ## References -/

/-- The documents that a list of a class names. -/
def cible : ListeClasse → Collection
  | .matieres => .matieres
  | .eleves => .eleves
  | .enseignants => .enseignants

/-- The references in a document. -/
def renvois : Collection → Document → List (Ref Collection Champ)
  | .eleves, d | .parents, d | .enseignants, d | .administrateurs, d =>
    [(.utilisateurs, d.get .utilisateurId)]
  | .classes, d => [ListeClasse.matieres, .eleves, .enseignants].flatMap fun liste =>
    (arrayOf (d liste.champ)).map fun v => (cible liste, v)
  | .famille, d => [(.parents, d.get .parentId), (.eleves, d.get .eleveId)]
  | .enseignements, d => [(.enseignants, d.get .enseignantId), (.matieres, d.get .matiereId)]
  | .notes, d => [(.eleves, d.get .eleveId), (.matieres, d.get .matiereId)]
  | _, _ => []

/-- The collections whose documents have references. -/
def referentes : List Collection :=
  [.eleves, .parents, .enseignants, .administrateurs, .classes, .famille, .enseignements, .notes]

theorem renvois_eq_nil (c : Collection) (d : Document) (hc : c ∉ referentes) : renvois c d = [] := by
  cases c <;> first | rfl | exact absurd (by decide) hc

theorem mem_renvois_classes {d : Document} {r : Ref Collection Champ} :
    r ∈ renvois .classes d ↔ ∃ liste, ∃ v ∈ arrayOf (d (ListeClasse.champ liste)),
      r = (cible liste, v) := by
  simp only [renvois, List.mem_flatMap, List.mem_map]
  constructor
  · rintro ⟨liste, -, v, hv, rfl⟩
    exact ⟨liste, v, hv, rfl⟩
  · rintro ⟨liste, v, hv, rfl⟩
    exact ⟨liste, by cases liste <;> simp, v, hv, rfl⟩

/-- Every reference names a stored document. -/
abbrev RenvoisExistants (b : Base) : Prop := Closed renvois b

theorem renvoisExistants_baseVide : RenvoisExistants baseVide := by
  intro c id d hd
  cases hd

/-! ## What the screens do -/

/-- A creation, a link or a deletion.  A page comes with what it has loaded, a creation with the id
it gives. -/
inductive Mouvement where
  | creerCompte (e : EcranAjout) (p : e.Page)
  | ajouterClasse (p : AjouterClasse) (id : String)
  | enregistrerMatiere (p : AjoutMatiere) (id : String)
  | noter (p : NotesPage) (h : NotesPage.Horloge)
  | ajouterEleves (p : AjouterElevesClasse)
  | lierParentEleve (p : LierParentEnfant) (eleveDocId : String)
  | lierMatiere (p : LierEnseignantMatiere) (matiere : MatiereModele)
  | toggleElement (p : ClasseDetail) (liste : ListeClasse) (elementId : String) (selected : Bool)
  | validerMatiere (p : ClasseDetail) (matiere enseignant : Option String)
  | supprimerEleve (p : ListeEleves) (utilisateurId eleveId : String) (confirmation : Bool)
  | supprimerEnseignant (utilisateurId : String) (confirmation : Bool)
  | supprimerUtilisateur (userId : String) (confirm : Bool)
  | supprimerMatiere (docId : String) (confirmation : Bool)

namespace Mouvement

/-- The store after it, whether it succeeds or not. -/
def effet (S : Server) (b : Base) : Mouvement → Base
  | creerCompte e p => (e.enregistrer.exec S.handler p b).2.2
  | ajouterClasse p id => ((AjouterClasse.ajouterClasse () id).exec S.handler p b).2.2
  | enregistrerMatiere p id => ((AjoutMatiere.enregistrerMatiere () id).exec S.handler p b).2.2
  | noter p h => ((NotesPage.enregistrerNotes h).exec S.handler p b).2.2
  | ajouterEleves p => (AjouterElevesClasse.ajouterEleves.exec S.handler p b).2.2
  | lierParentEleve p eleveDocId =>
    ((LierParentEnfant.lierParentEleve eleveDocId).exec S.handler p b).2.2
  | lierMatiere p matiere => ((LierEnseignantMatiere.lierMatiere matiere).exec S.handler p b).2.2
  | toggleElement p liste elementId selected =>
    ((ClasseDetail.toggleElement liste.champ elementId selected).exec S.handler p b).2.2
  | validerMatiere p matiere enseignant =>
    ((ClasseDetail.validerMatiere matiere enseignant).exec S.handler p b).2.2
  | supprimerEleve p utilisateurId eleveId confirmation =>
    ((ListeEleves.supprimerUtilisateur utilisateurId eleveId confirmation).exec S.handler p b).2.2
  | supprimerEnseignant utilisateurId confirmation =>
    ((ListeEnseignants.supprimerUtilisateur utilisateurId confirmation).exec S.handler [] b).2.2
  | supprimerUtilisateur userId confirm =>
    ((ListeUtilisateurs.supprimerUtilisateur userId confirm).exec S.handler [] b).2.2
  | supprimerMatiere docId confirmation =>
    ((Admin.supprimerMatiere docId confirmation).exec S.handler [] b).2.2

/-- What it is asked to link is there: on a page that was loaded before a deletion, it may not be. -/
def Existant (b : Base) : Mouvement → Prop
  | noter p _ => ∀ m, p.matiereChoisieId = some m → (b.doc .matieres m).isSome = true
  | lierParentEleve p eleveDocId =>
    (b.doc .parents p.parentId).isSome = true ∧ (b.doc .eleves eleveDocId).isSome = true
  | lierMatiere _ matiere => (b.doc .matieres matiere.id).isSome = true
  | toggleElement p liste elementId selected => ∀ d ids, p.classeData = some d →
    (d.get liste.champ).orStrs = .ok ids → ∀ id ∈ ClasseDetail.basculer ids elementId selected,
      (b.doc (cible liste) id).isSome = true
  | validerMatiere _ matiere enseignant => (∀ m, matiere = some m → (b.doc .matieres m).isSome = true) ∧
    ∀ t, enseignant = some t → (b.doc .enseignants t).isSome = true
  | _ => True

/-- The documents it deletes. -/
def retires (b : Base) : Mouvement → List (Collection × String)
  | supprimerEleve _ utilisateurId eleveId true =>
    [(.eleves, eleveId), (.utilisateurs, utilisateurId)]
  | supprimerEnseignant utilisateurId true =>
    (.utilisateurs, utilisateurId) ::
      (enseignantDe b utilisateurId).toList.map fun id => (.enseignants, id)
  | supprimerUtilisateur userId true => [(.utilisateurs, userId)]
  | supprimerMatiere docId true => [(.matieres, docId)]
  | _ => []

/-- A step of a run. -/
def pas (S : Server) (b : Base) (m : Mouvement) : Option Base := some (m.effet S b)

end Mouvement

/-! ## Requests that link to what is there -/

section Liens

variable {S : Server} {b : Base}

/-- The request only adds references to documents of `b`. -/
abbrev Relie (b : Base) (r : Requete) : Prop := r.Links renvois b

theorem relie_lecture {r : Requete} (hr : Lecture r) : Relie b r := by
  cases r with
  | get | query | pause | currentUser => trivial
  | _ => exact hr.elim

theorem RenvoisExistants.ends {Λ σ α : Type} {p : Action Λ σ α} {s : σ}
    (hp : p.Issues fun _ r => Relie b r) (hb : RenvoisExistants b) :
    p.Ends S.handler (fun _ _ b' => Grown renvois b b') s b := by
  have hstep : ∀ (l : Λ) (r : Requete) (b₁ : Base), Relie b r → Grown renvois b b₁ →
      Grown renvois b (S.handler r b₁).2 := fun _ _ _ hr h => h.handler hr
  exact Issues.exec hstep hp (.refl hb)

/-- A document without references. -/
theorem relie_set {c : Collection} {id : String} {fs : Champs}
    (h : ∀ now, renvois c (newDoc now fs) = []) : Relie b (.write (.set c id fs)) := by
  intro now r hr
  rw [h now] at hr
  cases hr

/-- An update of a class whose lists only gain documents that are there. -/
theorem relie_update_classe {id : String} {fs : Champs} (h : ∀ now d liste,
    ∀ v ∈ arrayOf (writeFields now d fs (ListeClasse.champ liste)),
      v ∈ arrayOf (d liste.champ) ∨ Ref.Names b (cible liste, v)) :
    Relie b (.write (.update .classes id fs)) := by
  intro now d r hr
  obtain ⟨liste, v, hv, rfl⟩ := mem_renvois_classes.mp hr
  refine (h now d liste v hv).imp_left fun hold => ?_
  exact mem_renvois_classes.mpr ⟨liste, v, hold, rfl⟩

/-- The fields written are not those of a student's references. -/
theorem relie_update_eleve {id : String} {fs : Champs} (h : .utilisateurId ∉ fs.map Prod.fst) :
    Relie b (.write (.update .eleves id fs)) := by
  intro now d r hr
  have heq : renvois .eleves (writeFields now d fs) = renvois .eleves d := by
    simp only [renvois, Doc.get, writeFields_of_not_mem h]
  exact Or.inl (heq ▸ hr)

theorem mem_arrayOf_arrayUnion {now : ℤ} {old : Option Valeur} {e : String} {v : Valeur}
    (h : v ∈ arrayOf (some ((FieldOp.arrayUnion [e]).eval now old))) :
    v ∈ arrayOf old ∨ v = .str e := by
  rw [FieldOp.eval, arrayOf_list, List.foldl_cons, List.foldl_nil] at h
  by_cases he : (arrayOf old).any (Value.isStr e) = true
  · rw [if_pos he] at h
    exact Or.inl h
  · rw [if_neg he, List.mem_append, List.mem_singleton] at h
    exact h

/-! ## Creations and links -/

theorem relie_ajouterClasse (p : AjouterClasse) (id niveau : String) :
    Relie b (.write (.set .classes id (p.nouvelleClasse id niveau).toMap)) :=
  relie_set fun _ => rfl

theorem relies_ajouterClasse (id : String) :
    (AjouterClasse.ajouterClasse () id).Issues fun _ r => Relie b r := by
  refine .bind (fun _ => trivial) fun p => .ite (.bind trivial fun _ => ?_) trivial
  refine .ensuring (.catching (.bind (issues_ofExcept _) fun niveau => .bind ?_ fun _ => ?_) ?_) _
  · exact .ite trivial ((issues_ecrire _ _).mpr (relie_ajouterClasse p id niveau))
  · trivial
  · exact fun e => trivial

theorem relies_enregistrerMatiere (id : String) :
    (AjoutMatiere.enregistrerMatiere () id).Issues fun _ r => Relie b r := by
  refine .bind (fun _ => trivial) fun p => .ite (.catching ?_ fun e => trivial) trivial
  refine .bind (issues_ofExcept _) fun coefficient => .bind ?_ fun _ => .bind trivial fun _ => trivial
  refine .catching (.ite trivial ((issues_ecrire _ _).mpr ?_)) fun _ => trivial
  exact relie_set fun _ => rfl

theorem relies_ajouterEleves :
    AjouterElevesClasse.ajouterEleves.Issues fun _ r => Relie b r := by
  refine issues_ajouterEleves.mono fun _ r hr => ?_
  rcases hr with hr | ⟨ws, rfl, hws⟩
  · exact relie_lecture hr
  · intro w hw
    rcases hws w hw with ⟨e, c, rfl⟩ | ⟨c, l, rfl⟩
    · have hrelie : Relie b (.write (.update .eleves e [texte .classe c])) :=
        relie_update_eleve (by simp [texte])
      exact hrelie
    · have hrelie : Relie b (.write (.update .classes c [textes .eleves l])) := by
        refine relie_update_classe fun now d liste v hv => Or.inl ?_
        rwa [writeFields_of_not_mem (by cases liste <;> simp [textes, ListeClasse.champ])] at hv
      exact hrelie

theorem relies_ajouterRelation {p e : String} (hp : (b.doc .parents p).isSome = true)
    (he : (b.doc .eleves e).isSome = true) :
    (DepotFamille.ajouterRelation p e : Action EtapeLien LierParentEnfant String).Issues
      fun _ r => Relie b r := by
  refine .catching (.bind ((issues_chercherPremier _ _ _).mpr trivial) fun docs => ?_) fun _ => trivial
  rcases (docs : List (String × Document)) with _ | ⟨doc, docs⟩
  · refine (issues_ajouter _ _ _).mpr fun now r hr => ?_
    have hr : r ∈ [((.parents, .str p) : Ref Collection Champ), (.eleves, .str e)] := hr
    rcases List.mem_cons.mp hr with rfl | hr
    · exact hp
    · obtain rfl := List.mem_singleton.mp hr
      exact he
  · trivial

/-- The dialogs of a class. -/
theorem relies_toggle {classeId elementId : String} {liste : ListeClasse} {ids : List String}
    {selected : Bool} (h : ∀ id ∈ ClasseDetail.basculer ids elementId selected,
      (b.doc (cible liste) id).isSome = true) (l : Etape) :
    (ecrire l (.update .classes classeId
      [textes liste.champ (ClasseDetail.basculer ids elementId selected)]) :
        Action Etape ClasseDetail Unit).Issues fun _ r => Relie b r := by
  refine (issues_ecrire _ _).mpr (relie_update_classe fun now d liste' v hv => ?_)
  by_cases hl : liste' = liste
  · subst hl
    rw [textes, writeFields_cons, writeFields_nil, Function.update_self] at hv
    obtain ⟨id, hid, rfl⟩ := List.mem_map.mp hv
    exact Or.inr (h id hid)
  · have hne : liste'.champ ∉ [textes liste.champ (ClasseDetail.basculer ids elementId selected)].map
        Prod.fst := by
      rw [List.map_singleton, List.mem_singleton]
      exact fun heq => hl (ListeClasse.champ_injective heq)
    rw [writeFields_of_not_mem hne] at hv
    exact Or.inl hv

theorem relies_fetchClasseDetails :
    ClasseDetail.fetchClasseDetails.Issues fun _ r => Relie b r := by
  refine .catching (.bind (fun _ => trivial) fun p => .bind ?_ fun _ => trivial) fun e => trivial
  exact (issues_lire _ _ _).mpr trivial

theorem ends_toggleElement {p : ClasseDetail} {liste : ListeClasse} {elementId : String}
    {selected : Bool} (hb : RenvoisExistants b) (h : ∀ d ids, p.classeData = some d →
      (d.get liste.champ).orStrs = .ok ids → ∀ id ∈ ClasseDetail.basculer ids elementId selected,
        (b.doc (cible liste) id).isSome = true) :
    (ClasseDetail.toggleElement liste.champ elementId selected).Ends S.handler
      (fun _ _ b' => RenvoisExistants b') p b := by
  unfold ClasseDetail.toggleElement
  simp only [bind_eq]
  refine ends_page_bind.mpr ?_
  cases hd : p.classeData with
  | none => exact hb
  | some d =>
    refine Ends.mono (RenvoisExistants.ends (Issues.ofExcept_bind fun ids hids => ?_) hb)
      fun _ _ _ h => h.closed
    refine .catching (.bind (relies_toggle (h d ids hd hids) _) fun _ => ?_) fun e => trivial
    exact relies_fetchClasseDetails

theorem relies_validerMatiere {matiere enseignant : Option String}
    (hm : ∀ m, matiere = some m → (b.doc .matieres m).isSome = true)
    (ht : ∀ t, enseignant = some t → (b.doc .enseignants t).isSome = true) :
    (ClasseDetail.validerMatiere matiere enseignant).Issues fun _ r => Relie b r := by
  refine .bind (fun _ => trivial) fun p => ?_
  rcases matiere with _ | m
  · trivial
  rcases enseignant with _ | t
  · trivial
  refine .bind ((issues_ecrire _ _).mpr ?_) fun _ => relies_fetchClasseDetails
  refine relie_update_classe fun now d liste v hv => ?_
  rw [matiereEtEnseignant, writeFields_cons, writeFields_cons, writeFields_nil] at hv
  cases liste with
  | matieres =>
    refine (mem_arrayOf_arrayUnion hv).imp_right ?_
    rintro rfl
    exact hm m rfl
  | enseignants =>
    refine (mem_arrayOf_arrayUnion hv).imp_right ?_
    rintro rfl
    exact ht t rfl
  | eleves => exact Or.inl hv

theorem ends_lierParentEleve {p : LierParentEnfant} {eleveDocId : String}
    (hb : RenvoisExistants b) (hp : (b.doc .parents p.parentId).isSome = true)
    (he : (b.doc .eleves eleveDocId).isSome = true) :
    (LierParentEnfant.lierParentEleve eleveDocId).Ends S.handler
      (fun _ _ b' => RenvoisExistants b') p b := by
  refine ends_catching.mpr (ends_page_bind.mpr (ends_bind.mpr ?_))
  refine (RenvoisExistants.ends (relies_ajouterRelation hp he) hb).mono fun a p' b' hb' => ?_
  cases a with
  | error e => exact hb'.closed
  | ok id => exact hb'.closed

/-- The teacher is the one found for the user, if there is one. -/
theorem ends_lierMatiere {p : LierEnseignantMatiere} {matiere : MatiereModele}
    (hb : RenvoisExistants b) (hm : (b.doc .matieres matiere.id).isSome = true) :
    (LierEnseignantMatiere.lierMatiere matiere).Ends S.handler
      (fun _ _ b' => RenvoisExistants b') p b := by
  unfold LierEnseignantMatiere.lierMatiere
  refine ends_catching.mpr (ends_page_bind.mpr (ends_chercherPremier_bind (fun _ => ?_) fun _ => hb))
  rcases hrun : (⟨[.isEqualTo .utilisateurId (.str p.enseignantId)], none, some 1⟩ :
    Query Champ).run (b.docs .enseignants) with _ | ⟨doc, docs⟩
  · exact hb
  have hmem : doc ∈ (⟨[.isEqualTo .utilisateurId (.str p.enseignantId)], none, some 1⟩ :
      Query Champ).run (b.docs .enseignants) := hrun ▸ List.mem_cons_self
  have hdoc : (b.doc .enseignants doc.1).isSome = true :=
    Option.isSome_iff_exists.mpr ⟨doc.2, (Query.of_mem_run hmem).1⟩
  have hlien : (EnseignementDepot.ajouterEnseignement doc.1 matiere.id :
      Action Etape LierEnseignantMatiere Unit).Issues fun _ r => Relie b r := by
    refine .bind ((issues_ajouter _ _ _).mpr fun now r hr => ?_) fun _ => trivial
    have hr : r ∈ [((.enseignants, .str doc.1) : Ref Collection Champ),
      (.matieres, .str matiere.id)] := hr
    rcases List.mem_cons.mp hr with rfl | hr
    · exact hdoc
    · obtain rfl := List.mem_singleton.mp hr
      exact hm
  refine ends_bind.mpr ((RenvoisExistants.ends hlien hb).mono fun a p' b' hb' => ?_)
  cases a with
  | error e => exact hb'.closed
  | ok u => exact hb'.closed

/-! ### Grades -/

namespace Notes

open NotesPage

/-- The subject chosen is `m`. -/
def Choisie (m : String) (p : NotesPage) : Prop := p.matiereChoisieId = some m

theorem relies_note {p : NotesPage} {h : Horloge} {e m : String} {v : Double} {t : TypeNote}
    (he : (b.doc .eleves e).isSome = true) (hm : (b.doc .matieres m).isSome = true) :
    Relie b (.add .notes (p.note h e v t m)) := by
  intro now r hr
  have heleve : newDoc now (p.note h e v t m) .eleveId = some (.str e) := by
    rw [newDoc_note _ _ _ _ _ _ _ (by decide) (by decide)]
    rfl
  have hmatiere : newDoc now (p.note h e v t m) .matiereId = some (.str m) := by
    rw [newDoc_note _ _ _ _ _ _ _ (by decide) (by decide)]
    rfl
  simp only [renvois, Doc.get, heleve, hmatiere, Option.getD_some] at hr
  rcases List.mem_cons.mp hr with rfl | hr
  · exact he
  · obtain rfl := List.mem_singleton.mp hr
    exact hm

theorem relies_noter {m : String} (h : Horloge) {e : String} (he : (b.doc .eleves e).isSome = true)
    (hm : (b.doc .matieres m).isSome = true) :
    (NotesPage.noter h e).IssuesOn (Choisie m) fun _ r => Relie b r := by
  refine issuesOn_page_bind.mpr fun p hp => Issues.on ?_ (keeps_page_bind.mp (keeps_noter h e) p)
  refine Issues.bind (issues_ofExcept _) fun saisie => ?_
  rcases saisie with _ | noteVal
  · trivial
  refine .bind (issues_ofExcept _) fun type => .ofExcept_bind fun matiereId hmatiere => ?_
  obtain rfl : m = matiereId := by
    rw [show p.matiereChoisieId = some m from hp] at hmatiere
    exact Except.ok.inj hmatiere
  refine .bind ((issues_ajouter _ _ _).mpr (relies_note he hm)) fun noteId => ?_
  refine .bind ((issues_ecrire _ _).mpr (relie_update_eleve (by simp))) fun _ => trivial

/-- The turn of one student, who is there. -/
theorem ends_enregistrerEleve {m : String} (h : Horloge) (matiereNom : Valeur) (e : String)
    {p : NotesPage} (hp : Choisie m p) (hm : (b.doc .matieres m).isSome = true)
    (hb : RenvoisExistants b) : (enregistrerEleve h matiereNom e).Ends S.handler
      (fun _ p' b' => Choisie m p' ∧ Grown renvois b b') p b := by
  have hstep : ∀ (l : EtapeNotes) (r : Requete) (b₁ : Base), Relie b r → Grown renvois b b₁ →
      Grown renvois b (S.handler r b₁).2 := fun _ _ _ hr h => h.handler hr
  unfold enregistrerEleve lireDoc
  simp only [bind_eq]
  rw [ends_bind]
  by_cases hid : e = ""
  · rw [if_pos hid]
    exact ⟨hp, .refl hb⟩
  rw [if_neg hid, ends_lire]
  cases hd : b.doc .eleves e with
  | none => exact ⟨hp, .refl hb⟩
  | some eleve =>
    have he : (b.doc .eleves e).isSome = true := Option.isSome_iff_exists.mpr ⟨eleve, hd⟩
    have hnoms : (noms (eleve.get .utilisateurId)).IssuesOn (Choisie m) fun _ r => Relie b r :=
      Issues.on (issues_noms (fun _ => trivial) _) (keeps_noms _)
    refine IssuesOn.ends hstep (hnoms.bind ?_) hp (.refl hb)
    rintro ⟨prenom, nom⟩
    refine (relies_noter h he hm).bind fun note => Issues.on ?_ (keeps_avertir _ _ _ _)
    refine issues_avertir (fun _ => trivial) ?_ ?_
    · exact fun _ _ _ _ r hr => by cases hr
    · exact fun _ _ r hr => by cases hr

theorem ends_parcourir {m : String} (h : Horloge) (matiereNom : Valeur) (ids : List String)
    {p : NotesPage} (hp : Choisie m p) (hm : (b.doc .matieres m).isSome = true)
    (hb : RenvoisExistants b) : (parcourir h matiereNom ids).Ends S.handler
      (fun _ p' b' => Choisie m p' ∧ Grown renvois b b') p b := by
  induction ids generalizing p b with
  | nil => exact ⟨hp, .refl hb⟩
  | cons e ids ih =>
    refine ends_bind.mpr ((ends_enregistrerEleve h matiereNom e hp hm hb).mono ?_)
    rintro (err | u) p' b' ⟨hp', hb'⟩
    · exact ⟨hp', hb'⟩
    · refine (ih hp' (hb'.grows _ _ hm) hb'.closed).mono fun _ _ _ h => ?_
      exact ⟨h.1, hb'.trans h.2⟩

theorem ends_enregistrerNotes (h : Horloge) {p : NotesPage} (hb : RenvoisExistants b)
    (hm : ∀ m, p.matiereChoisieId = some m → (b.doc .matieres m).isSome = true) :
    (enregistrerNotes h).Ends S.handler (fun _ _ b' => RenvoisExistants b') p b := by
  unfold enregistrerNotes
  simp only [bind_eq]
  refine ends_page_bind.mpr ?_
  cases hclasse : p.classeChoisieId with
  | none => exact hb
  | some c =>
    cases hmatiere : p.matiereChoisieId with
    | none => exact hb
    | some m =>
      cases htype : p.typeNote with
      | none => exact hb
      | some t =>
        show Ends _ _ (if _ then _ else if _ then _ else _) _ _
        split_ifs
        · exact hb
        · refine ends_setState_bind.mpr (ends_ensuring.mpr (ends_catching.mpr ?_))
          have htous : (enregistrerTous h m).Ends S.handler (fun _ _ b' => RenvoisExistants b')
              (sur (fun c => { c with saving := true }) p) b := by
            unfold enregistrerTous lireDoc
            simp only [bind_eq]
            rw [ends_bind]
            by_cases hid : m = ""
            · rw [if_pos hid]
              exact hb
            rw [if_neg hid, ends_lire]
            refine ends_bind.mpr ((ends_ofExcept _).mpr ?_)
            rcases nomMatiere (b.doc .matieres m) with e | nom
            · exact hb
            · have hchoisie : Choisie m (sur (fun c => { c with saving := true }) p) := hmatiere
              refine ends_page_bind.mpr ((ends_parcourir h nom _ hchoisie (hm m hmatiere) hb).mono ?_)
              exact fun _ _ _ h => h.2.closed
          refine ends_bind.mpr (htous.mono fun a p' b' hb' => ?_)
          cases a with
          | error e => exact hb'
          | ok u => exact hb'
        · exact hb

end Notes

/-! ### Accounts -/

section Comptes

/-- The end of a creation: the document of the user is set, the others refer to it. -/
theorem ends_set_utilisateur {σ : Type} {u : String} {fs : Champs} {s : σ}
    {suite : Unit → Action Etape σ Unit} (hb : RenvoisExistants b)
    (h : ∀ b₁, RenvoisExistants b₁ → (b₁.doc .utilisateurs u).isSome = true →
      (suite ()).Ends S.handler (fun _ _ b' => RenvoisExistants b') s b₁) :
    (Prog.bind (ecrire .autre (.set .utilisateurs u fs)) suite).Ends S.handler
      (fun _ _ b' => RenvoisExistants b') s b := by
  refine ends_bind.mpr ((ends_ecrire _ _).mpr ?_)
  exact h _ (hb.putDoc fun r hr => by cases hr) (isSome_putDoc b _ u _)

/-- A document that refers to the user. -/
theorem relie_compte {u : String} (hu : (b.doc .utilisateurs u).isSome = true)
    {r : Ref Collection Champ} (hr : r ∈ [((.utilisateurs, .str u) : Ref Collection Champ)]) :
    r.Names b := by
  obtain rfl := List.mem_singleton.mp hr
  exact hu

/-- The list of the class is written back with the student, who is there. -/
theorem ends_ajouterALaClasse_renvois {c u : String} {p : AjoutEleve} (hb : RenvoisExistants b)
    (hu : (b.doc .eleves u).isSome = true) : (AjoutEleve.ajouterALaClasse c u).Ends S.handler
      (fun _ _ b' => RenvoisExistants b') p b := by
  unfold AjoutEleve.ajouterALaClasse
  simp only [bind_eq]
  rw [ends_bind, ends_lire]
  cases hd : b.doc .classes c with
  | none => exact hb
  | some d =>
    refine ends_bind.mpr ((ends_ofExcept _).mpr ?_)
    cases hl : (d.get .elevesIds).orList with
    | error e => exact hb
    | ok l =>
      show Ends _ _ (if _ then _ else _) _ _
      split_ifs
      · exact hb
      · have hliste : ∀ v ∈ l, Ref.Names b (.eleves, v) := by
          intro v hv
          refine hb .classes c d hd _ (mem_renvois_classes.mpr ⟨.eleves, v, ?_, rfl⟩)
          rwa [ListeClasse.champ, arrayOf_of_orList hl]
        have hrelie : Relie b (.write (.update .classes c
            [(.elevesIds, .put (.list (l ++ [.str u])))])) := by
          refine relie_update_classe fun now d' liste v hv => ?_
          cases liste with
          | eleves =>
            rcases List.mem_append.mp hv with hv | hv
            · exact Or.inr (hliste v hv)
            · obtain rfl := List.mem_singleton.mp hv
              exact Or.inr hu
          | matieres => exact Or.inl hv
          | enseignants => exact Or.inl hv
        refine Ends.mono (RenvoisExistants.ends ((issues_ecrire _ _).mpr hrelie) hb) ?_
        exact fun _ _ _ h => h.closed

theorem ends_documents_renvois (e : EcranAjout) (u r : String) (file : Option String)
    (p : e.Page) (hb : RenvoisExistants b) : (e.flux.documents u r file).Ends S.handler
      (fun _ _ b' => RenvoisExistants b') p b := by
  cases e with
  | eleve =>
    show (AjoutEleve.enregistrerDocuments u r file).Ends _ _ _ _
    unfold AjoutEleve.enregistrerDocuments
    simp only [bind_eq]
    refine ends_page_bind.mpr (ends_set_utilisateur hb fun b₁ hb₁ hu => ends_page_bind.mpr ?_)
    refine ends_bind.mpr ((ends_ecrire _ _).mpr ?_)
    have hb₂ : RenvoisExistants (b₁.putDoc .eleves u
        (newDoc b₁.clock (AjoutEleve.eleveData u p.classeIdSelectionne))) :=
      hb₁.putDoc fun r hr => relie_compte hu hr
    refine ends_page_bind.mpr ?_
    revert hb₂
    cases p.classeIdSelectionne with
    | none => exact fun hb₂ => (ends_attendre _).mpr hb₂
    | some c =>
      intro hb₂
      exact ends_ajouterALaClasse_renvois hb₂ (isSome_putDoc b₁ _ u _)
  | parent =>
    show (AjoutParent.enregistrerDocuments u r file).Ends _ _ _ _
    unfold AjoutParent.enregistrerDocuments
    simp only [bind_eq]
    refine ends_page_bind.mpr (ends_set_utilisateur hb fun b₁ hb₁ hu => (ends_ecrire _ _).mpr ?_)
    exact hb₁.putDoc fun r hr => relie_compte hu hr
  | enseignant =>
    show (AjoutEnseignant.enregistrerDocuments u r file).Ends _ _ _ _
    unfold AjoutEnseignant.enregistrerDocuments ajouterUtilisateur AjoutEnseignant.ajouterEnseignant
    simp only [bind_eq]
    refine ends_page_bind.mpr (ends_set_utilisateur hb fun b₁ hb₁ hu => ?_)
    have hlien : Relie b₁ (.add .enseignants (lienUtilisateur u)) :=
      fun now r hr => relie_compte hu hr
    refine Ends.mono (RenvoisExistants.ends (.bind ((issues_ajouter _ _ _).mpr hlien) fun _ => ?_) hb₁)
      fun _ _ _ h => h.closed
    trivial
  | administrateur =>
    show (AjoutAdministrateur.enregistrerDocuments u r file).Ends _ _ _ _
    unfold AjoutAdministrateur.enregistrerDocuments ajouterUtilisateur
      AjoutAdministrateur.ajouterAdministrateur AjoutAdministrateur.getUtilisateurParId
    simp only [bind_eq]
    refine ends_page_bind.mpr (ends_bind.mpr ((ends_ofExcept _).mpr ?_))
    cases idDeDocument p.etablissementIdSelectionne with
    | error e => exact hb
    | ok etablissementId =>
      refine ends_set_utilisateur hb fun b₁ hb₁ hu => ?_
      refine Ends.mono (RenvoisExistants.ends ?_ hb₁) fun _ _ _ h => h.closed
      refine .bind ((issues_chercherPremier _ _ _).mpr trivial) fun docs => .ite trivial (.bind ?_ ?_)
      · refine .bind ((issues_lire _ _ _).mpr trivial) fun doc => ?_
        cases doc with
        | none => trivial
        | some d => exact .bind (issues_ofExcept _) fun _ => trivial
      · intro utilisateur
        cases utilisateur with
        | none => trivial
        | some m => exact (issues_ecrire _ _).mpr fun now r hr => relie_compte hu hr

theorem ends_creerCompte_renvois (e : EcranAjout) (p : e.Page) (hb : RenvoisExistants b) :
    e.enregistrer.Ends S.handler (fun _ _ b' => RenvoisExistants b') p b := by
  refine EcranAjout.preserves_enregistrer (fun r b₁ hr hb₁ => ?_) e (fun u r file p b₁ hb₁ => ?_) p b hb
  · exact hb₁.congr (docs_handler_of_silent hr)
  · exact ends_documents_renvois e u r file p hb₁

end Comptes

end Liens

/-! ## Deletions -/

section Retraits

variable {S : Server} {b : Base}

theorem ends_supprimerEleve {p : ListeEleves} (utilisateurId eleveId : String) :
    (ListeEleves.supprimerUtilisateur utilisateurId eleveId true).Ends S.handler (fun _ _ b' =>
      b' = b.eraseDocs [(.eleves, eleveId), (.utilisateurs, utilisateurId)]) p b := by
  have hcharger : ∀ {p : ListeEleves} {b₁ : Base}, ListeEleves.chargerDonnees.Ends S.handler
      (fun _ _ b' => b' = b₁) p b₁ := fun {p b₁} => by
    have hstep : ∀ (l : Etape) (r : Requete) (b' : Base), Lecture r → b' = b₁ →
        (S.handler r b').2 = b₁ := fun _ _ _ hr hb => (handler_lecture hr).trans hb
    exact Issues.exec hstep ListeEleves.chargerDonnees_lecture rfl
  refine ends_catching.mpr (ends_bind.mpr ((ends_ecrire _ _).mpr ?_))
  refine ends_bind.mpr ((ends_ecrire _ _).mpr (ends_bind.mpr (hcharger.mono fun a p' b' hb' => ?_)))
  cases a with
  | error e => exact hb'
  | ok u => exact hb'

theorem ends_supprimerEnseignant (utilisateurId : String) (m : List String) :
    (ListeEnseignants.supprimerUtilisateur utilisateurId true).Ends S.handler (fun _ _ b' =>
      b' = b.eraseDocs ((.utilisateurs, utilisateurId) ::
        (enseignantDe b utilisateurId).toList.map fun id => (.enseignants, id))) m b := by
  refine ends_chercherPremier_bind (fun _ => ?_) fun hrefus => by cases hrefus
  show Ends _ _ (Prog.catching (Prog.bind (ecrire _ _) _) _) m b
  refine ends_catching.mpr (ends_bind.mpr ((ends_ecrire _ _).mpr (ends_bind.mpr ?_)))
  unfold enseignantDe
  rcases (⟨[.isEqualTo .utilisateurId (.str utilisateurId)], none, some 1⟩ : Query Champ).run
    (b.docs .enseignants) with _ | ⟨doc, docs⟩
  · rfl
  · exact (ends_ecrire _ _).mpr rfl

/-- A step other than a deletion keeps the references. -/
theorem Mouvement.renvois_of_existant {m : Mouvement} (hb : RenvoisExistants b)
    (hm : m.Existant b) (hretires : m.retires b = []) : RenvoisExistants (m.effet S b) := by
  cases m with
  | creerCompte e p => exact ends_creerCompte_renvois e p hb
  | ajouterClasse p id => exact (RenvoisExistants.ends (relies_ajouterClasse id) hb).closed
  | enregistrerMatiere p id =>
    exact (RenvoisExistants.ends (relies_enregistrerMatiere id) hb).closed
  | noter p h => exact Notes.ends_enregistrerNotes h hb hm
  | ajouterEleves p => exact (RenvoisExistants.ends relies_ajouterEleves hb).closed
  | lierParentEleve p eleveDocId => exact ends_lierParentEleve hb hm.1 hm.2
  | lierMatiere p matiere => exact ends_lierMatiere hb hm
  | toggleElement p liste elementId selected => exact ends_toggleElement hb hm
  | validerMatiere p matiere enseignant =>
    exact (RenvoisExistants.ends (relies_validerMatiere hm.1 hm.2) hb).closed
  | supprimerEleve p utilisateurId eleveId confirmation =>
    cases confirmation with
    | true => cases hretires
    | false => exact hb
  | supprimerEnseignant utilisateurId confirmation =>
    cases confirmation with
    | true => cases hretires
    | false =>
      have hends : (ListeEnseignants.supprimerUtilisateur utilisateurId false).Ends S.handler
          (fun _ _ b' => RenvoisExistants b') [] b :=
        ends_chercherPremier_bind (fun _ => hb) fun _ => hb
      exact hends
  | supprimerUtilisateur userId confirm =>
    cases confirm with
    | true => cases hretires
    | false => exact hb
  | supprimerMatiere docId confirmation =>
    cases confirmation with
    | true => cases hretires
    | false => exact hb

/-- A deletion erases the documents it says. -/
theorem Mouvement.effet_of_retires {m : Mouvement} (hretires : m.retires b ≠ []) :
    m.effet S b = b.eraseDocs (m.retires b) := by
  cases m with
  | supprimerEleve p utilisateurId eleveId confirmation =>
    cases confirmation with
    | true => exact ends_supprimerEleve utilisateurId eleveId
    | false => exact absurd rfl hretires
  | supprimerEnseignant utilisateurId confirmation =>
    cases confirmation with
    | true => exact ends_supprimerEnseignant utilisateurId []
    | false => exact absurd rfl hretires
  | supprimerUtilisateur userId confirm =>
    cases confirm with
    | true => rfl
    | false => exact absurd rfl hretires
  | supprimerMatiere docId confirmation =>
    cases confirmation with
    | true => rfl
    | false => exact absurd rfl hretires
  | _ => exact absurd rfl hretires

theorem unreferenced_nil : Unreferenced renvois [] b := fun _ _ _ _ _ _ _ _ hx => by cases hx

/-- One step keeps the references exactly if nothing else refers to what it deletes. -/
theorem Mouvement.renvois_effet_iff {m : Mouvement} (hb : RenvoisExistants b) (hm : m.Existant b) :
    RenvoisExistants (m.effet S b) ↔ Unreferenced renvois (m.retires b) b := by
  by_cases hretires : m.retires b = []
  · rw [hretires]
    exact iff_of_true (m.renvois_of_existant hb hm hretires) unreferenced_nil
  · rw [m.effet_of_retires hretires]
    exact closed_eraseDocs_iff hb (m.retires b)

end Retraits

/-- **No reference is left dangling.**  In a run of creations, links to what is there and deletions,
every reference names a stored document all along exactly if each deletion meets no other document
that refers to what it deletes. -/
theorem renvoisExistants_iff (S : Server) {b : Base} (hb : RenvoisExistants b)
    {ms : List Mouvement} (hms : AllMeet (Mouvement.pas S) Mouvement.Existant b ms) :
    Always (Mouvement.pas S) RenvoisExistants b ms ↔
      AllMeet (Mouvement.pas S) (fun b m => Unreferenced renvois (m.retires b) b) b ms := by
  refine always_iff_allMeet_of (fun b m b' hm hb hb' => ?_) hb hms
  obtain rfl := Option.some.inj hb'
  exact m.renvois_effet_iff hb hm

/-! ### A subject on the list of a class -/

/-- The form of a class, and those of two subjects. -/
def ouvertureClasse : List Mouvement :=
  [.ajouterClasse { etablissementId := "E", nom := "A", niveauSelectionne := some "6e" } "c",
    .enregistrerMatiere
      { etablissementId := "E", nom := "Maths", coefficient := "2", description := "M" } "m",
    .enregistrerMatiere
      { etablissementId := "E", nom := "Dessin", coefficient := "1", description := "D" } "n",
    .toggleElement pageClasse .matieres "m" true]

/-- A test of `Mouvement.Existant` for the steps of the runs below. -/
def existant (b : Base) : Mouvement → Bool
  | .toggleElement p liste elementId selected => match p.classeData with
    | none => true
    | some d => match (d.get liste.champ).orStrs with
      | .ok ids => (ClasseDetail.basculer ids elementId selected).all fun id =>
        (b.doc (cible liste) id).isSome
      | .error _ => true
  | .ajouterClasse _ _ | .enregistrerMatiere _ _ | .supprimerMatiere _ _ => true
  | _ => false

theorem existant_of_test (b : Base) (m : Mouvement) (h : existant b m = true) : m.Existant b := by
  cases m with
  | toggleElement p liste elementId selected =>
    intro d ids hd hids id hid
    simp only [existant, hd, hids] at h
    exact List.all_eq_true.mp h id hid
  | ajouterClasse | enregistrerMatiere | supprimerMatiere => trivial
  | _ => cases h

/-- The subject that is not taught is deleted. -/
theorem renvoisExistants_sansDessin : Always (Mouvement.pas (Server.longest 10)) RenvoisExistants
    baseVide (ouvertureClasse ++ [.supprimerMatiere "n" true]) :=
  (renvoisExistants_iff (Server.longest 10) renvoisExistants_baseVide
    (allMeet_of_checkAll existant existant_of_test (by decide +kernel))).mpr
    (allMeet_of_checkAll (fun b (m : Mouvement) => unreferenced renvois referentes (m.retires b) b)
      (fun _ _ h => unreferenced_of_test renvois_eq_nil h) (by decide +kernel))

/-- A test: the class names a subject that is not there. -/
def matierePerdue (b : Base) : Bool :=
  match b.doc .classes "c" with
  | some d => (strsOf (d .matieresIds)).any fun id => !(b.doc .matieres id).isSome
  | none => false

theorem not_renvoisExistants_of_perdue {b : Base} (h : matierePerdue b = true) :
    ¬RenvoisExistants b := by
  intro hb
  unfold matierePerdue at h
  cases hd : b.doc .classes "c" with
  | none =>
    rw [hd] at h
    cases h
  | some d =>
    rw [hd] at h
    obtain ⟨id, hid, hperdu⟩ := List.any_eq_true.mp h
    obtain ⟨v, hv, hstr⟩ := List.any_eq_true.mp (mem_strsOf.mp hid)
    have hnames := hb .classes "c" d hd _ (mem_renvois_classes.mpr ⟨.matieres, v, hv, rfl⟩)
    cases v with
    | str id' =>
      obtain rfl : id' = id := of_decide_eq_true hstr
      rw [Ref.names_str] at hnames
      rw [cible] at hnames
      rw [hnames] at hperdu
      cases hperdu
    | _ => cases hstr

/-- The subject of the class is deleted: the class still names it. -/
theorem renvoi_perdu : ¬Always (Mouvement.pas (Server.longest 10)) RenvoisExistants baseVide
    (ouvertureClasse ++ [.supprimerMatiere "m" true]) :=
  not_always_of_final matierePerdue (fun _ => not_renvoisExistants_of_perdue) (by decide +kernel)

end EduConnect.Admin
