import EduConnect.Admin.Creations
import EduConnect.Admin.Enseignements
import EduConnect.Enseignant.Devoirs
import EduConnect.Enseignant.Notes
import EduConnect.Lib.Stored
import EduConnect.Lignes
import Mathlib.Data.List.ReduceOption

/-!
# The subjects a teacher is offered

`AppelPage` and `NotesPage` go through the links of the teacher and read each subject,
`CreationDevoirPage` asks for the subjects of the class he is linked to in one query.  The three
agree when no link is repeated, none of them names a deleted subject, and the query is not too
long.
-/

namespace EduConnect.Enseignant

open Lib Prog Admin

/-! ## The school -/

/-- The lists of a class. -/
inductive ListeClasse where
  | matieres | eleves | enseignants
  deriving DecidableEq

def ListeClasse.champ : ListeClasse → Champ
  | matieres => .matieresIds
  | eleves => .elevesIds
  | enseignants => .enseignantsIds

theorem ListeClasse.champ_injective {l l' : ListeClasse} (h : l.champ = l'.champ) : l = l' := by
  cases l <;> cases l' <;> first | rfl | exact absurd h (by decide)

/-- What an administrator does to the links, the classes and the subjects.  A page comes with what
it has loaded, a creation with the id it gives, a controller with its establishment. -/
inductive Retouche where
  | ajouterEnseignement (enseignantId matiereId : String)
  | lierMatiere (p : LierEnseignantMatiere) (matiere : MatiereModele)
  | ajouterClasse (p : AjouterClasse) (id : String)
  | enregistrerMatiere (p : AjoutMatiere) (id : String)
  | toggleElement (p : ClasseDetail) (liste : ListeClasse) (elementId : String) (selected : Bool)
  | validerMatiere (p : ClasseDetail) (matiere enseignant : Option String)
  | resetClasse (p : ClasseDetail)
  | modifierClasse (p : ModifierClasse)
  | supprimerClasse (docId : String) (confirmation : Bool)
  | supprimerMatiere (docId : String) (confirmation : Bool)
  | controleur (etablissementId : String) (appel : AppelControleur)

/-- The store after an operation, failed or not. -/
def Retouche.effet (S : Server) (b : Base) : Retouche → Base
  | ajouterEnseignement enseignantId matiereId =>
    ((EnseignementDepot.ajouterEnseignement enseignantId matiereId).exec S.handler () b).2.2
  | lierMatiere p matiere => ((LierEnseignantMatiere.lierMatiere matiere).exec S.handler p b).2.2
  | ajouterClasse p id => ((AjouterClasse.ajouterClasse () id).exec S.handler p b).2.2
  | enregistrerMatiere p id => ((AjoutMatiere.enregistrerMatiere () id).exec S.handler p b).2.2
  | toggleElement p liste elementId selected =>
    ((ClasseDetail.toggleElement liste.champ elementId selected).exec S.handler p b).2.2
  | validerMatiere p matiere enseignant =>
    ((ClasseDetail.validerMatiere matiere enseignant).exec S.handler p b).2.2
  | resetClasse p => (ClasseDetail.resetClasse.exec S.handler p b).2.2
  | modifierClasse p => (ModifierClasse.modifierClasse.exec S.handler p b).2.2
  | supprimerClasse docId confirmation =>
    ((Admin.supprimerClasse docId confirmation).exec S.handler [] b).2.2
  | supprimerMatiere docId confirmation =>
    ((Admin.supprimerMatiere docId confirmation).exec S.handler [] b).2.2
  | controleur etablissementId appel =>
    ((appel.action etablissementId).exec S.handler () b).2.2

/-- The store after a run of operations. -/
def retoucher (S : Server) (b : Base) (rs : List Retouche) : Base := rs.foldl (Retouche.effet S) b

/-- A class the pages can read. -/
structure ClasseLisible (d : Document) : Prop where
  nom : ∃ s, d .nom = some (.str s)
  niveau : ∃ s, d .niveau = some (.str s)
  liste : ∀ l : ListeClasse, ∃ ids, d l.champ = some (.strs ids)

/-- What the screens that create classes, subjects and links store. -/
def DocLisible : Collection → String → Document → Prop
  | .classes, _, d => ClasseLisible d
  | .matieres, id, d => id ≠ "" ∧ ∃ s, d .nom = some (.str s)
  | .enseignements, _, d => ∃ m, d .matiereId = some (.str m)
  | _, _, _ => True

def EcoleLisible (b : Base) : Prop := ∀ c, Stored c (DocLisible c) b

/-- The request keeps the documents readable. -/
def Garde (r : Requete) : Prop := ∀ c, r.Sends c (DocLisible c)

theorem EcoleLisible.handler {S : Server} {b : Base} (hb : EcoleLisible b) {r : Requete}
    (hr : Garde r) : EcoleLisible (S.handler r b).2 := fun c => (hb c).handler (hr c)

theorem EcoleLisible.exec {S : Server} {b : Base} (hb : EcoleLisible b) {Λ σ α : Type}
    {a : Action Λ σ α} (ha : a.Issues fun _ r => Garde r) (p : σ) :
    EcoleLisible (a.exec S.handler p b).2.2 := by
  have hstep : ∀ (l : Λ) (r : Requete) (b : Base), Garde r → EcoleLisible b →
      EcoleLisible (S.handler r b).2 := fun _ _ _ hr hb => hb.handler hr
  exact Issues.exec hstep ha hb

theorem garde_update_classe {id : String} {fs : Champs}
    (h : ∀ now d, ClasseLisible d → ClasseLisible (writeFields now d fs)) :
    Garde (.write (.update .classes id fs)) := by
  rintro c rfl
  exact h

theorem garde_delete (c : Collection) (id : String) : Garde (.write (.delete c id)) :=
  fun _ => trivial

theorem garde_lecture {r : Requete} (hr : Lecture r) : Garde r := by
  intro c
  cases r with
  | get | query | pause | currentUser => trivial
  | _ => exact hr.elim

namespace ClasseLisible

variable {d : Document}

/-- A list of the class is written. -/
theorem update (h : ClasseLisible d) (l : ListeClasse) (ids : List String) :
    ClasseLisible (Function.update d l.champ (some (.strs ids))) where
  nom := by
    rw [Function.update_of_ne (by cases l <;> decide)]
    exact h.nom
  niveau := by
    rw [Function.update_of_ne (by cases l <;> decide)]
    exact h.niveau
  liste l' := by
    by_cases hl : l'.champ = l.champ
    · exact ⟨ids, by rw [hl, Function.update_self]⟩
    · rw [Function.update_of_ne hl]
      exact h.liste l'

theorem toMap (c : ClasseModele) (now : ℤ) : ClasseLisible (newDoc now c.toMap) where
  nom := ⟨c.nom, rfl⟩
  niveau := ⟨c.niveau, rfl⟩
  liste l := by
    cases l with
    | matieres => exact ⟨c.matieresIds, rfl⟩
    | eleves => exact ⟨c.elevesIds, rfl⟩
    | enseignants => exact ⟨c.enseignantsIds, rfl⟩

theorem toggleElement (h : ClasseLisible d) (l : ListeClasse) (ids : List String) (now : ℤ) :
    ClasseLisible (writeFields now d [textes l.champ ids]) := h.update l ids

theorem resetClasse (h : ClasseLisible d) (now : ℤ) :
    ClasseLisible (writeFields now d ClasseDetail.listesVides) :=
  ((h.update .matieres []).update .eleves []).update .enseignants []

theorem arrayUnion (h : ClasseLisible d) (l : ListeClasse) (e : String) (now : ℤ) :
    ClasseLisible (writeFields now d [(l.champ, .arrayUnion [e])]) := by
  obtain ⟨ids, hids⟩ := h.liste l
  rw [writeFields_cons, writeFields_nil, hids, eval_arrayUnion_strs]
  exact h.update l _

theorem arrayRemove (h : ClasseLisible d) (l : ListeClasse) (e : String) (now : ℤ) :
    ClasseLisible (writeFields now d [(l.champ, .arrayRemove [e])]) := by
  obtain ⟨ids, hids⟩ := h.liste l
  have hval : (FieldOp.arrayRemove [e]).eval now (d l.champ) =
      .strs (ids.filter fun x => !decide (x = e)) := by
    rw [hids, Value.strs, FieldOp.eval, arrayOf_list, Value.strs, List.filter_map]
    congr 2
    refine List.filter_congr fun x _ => ?_
    simp [Value.isStr]
  rw [writeFields_cons, writeFields_nil, hval]
  exact h.update l _

/-- The name and the level are written, or one of them, or none. -/
theorem miseAJour (h : ClasseLisible d) (nom niveau : Option String) (now : ℤ) :
    ClasseLisible (writeFields now d (ClasseController.miseAJour nom niveau)) := by
  have hnom : ∀ {d : Document}, ClasseLisible d → ∀ v : String,
      ClasseLisible (Function.update d .nom (some (.str v))) := fun h v =>
    ⟨⟨v, Function.update_self _ _ _⟩, h.niveau, fun l => by
      rw [Function.update_of_ne (by cases l <;> decide)]
      exact h.liste l⟩
  have hniveau : ∀ {d : Document}, ClasseLisible d → ∀ v : String,
      ClasseLisible (Function.update d .niveau (some (.str v))) := fun h v =>
    ⟨h.nom, ⟨v, Function.update_self _ _ _⟩, fun l => by
      rw [Function.update_of_ne (by cases l <;> decide)]
      exact h.liste l⟩
  cases nom with
  | none =>
    cases niveau with
    | none => exact h
    | some niveau => exact hniveau h niveau
  | some nom =>
    cases niveau with
    | none => exact hnom h nom
    | some niveau => exact hniveau (hnom h nom) niveau

end ClasseLisible

/-! ### The operations keep the school readable -/

theorem issues_ajouterEnseignement {σ : Type} (enseignantId matiereId : String) :
    (EnseignementDepot.ajouterEnseignement enseignantId matiereId : Action Etape σ Unit).Issues
      fun _ r => Garde r := by
  refine .bind ((issues_ajouter _ _ _).mpr ?_) fun _ => trivial
  rintro c rfl id now
  exact ⟨matiereId, rfl⟩

theorem issues_lierMatiere (matiere : MatiereModele) :
    (LierEnseignantMatiere.lierMatiere matiere).Issues fun _ r => Garde r := by
  refine .catching (.bind (fun _ => trivial) fun p => .bind ?_ fun docs => ?_) fun e => trivial
  · exact (issues_chercherPremier _ _ _).mpr (garde_lecture trivial)
  · rcases (docs : List (String × Document)) with _ | ⟨doc, docs⟩
    · trivial
    · exact .bind (issues_ajouterEnseignement _ _) fun _ => trivial

theorem issues_fetchClasseDetails :
    ClasseDetail.fetchClasseDetails.Issues fun _ r => Garde r := by
  refine .catching (.bind (fun _ => trivial) fun p => .bind ?_ fun _ => trivial) fun e => trivial
  exact (issues_lire _ _ _).mpr (garde_lecture trivial)

theorem issues_toggleElement (liste : ListeClasse) (elementId : String) (selected : Bool) :
    (ClasseDetail.toggleElement liste.champ elementId selected).Issues fun _ r => Garde r := by
  refine .bind (fun _ => trivial) fun p => ?_
  cases p.classeData with
  | none => trivial
  | some classeData =>
    refine .bind (issues_ofExcept _) fun ids => .catching (.bind ?_ fun _ => ?_) fun e => trivial
    · refine (issues_ecrire _ _).mpr (garde_update_classe fun now d hd => ?_)
      exact hd.toggleElement liste _ now
    · exact issues_fetchClasseDetails

theorem issues_validerMatiere (matiere enseignant : Option String) :
    (ClasseDetail.validerMatiere matiere enseignant).Issues fun _ r => Garde r := by
  refine .bind (fun _ => trivial) fun p => ?_
  rcases matiere with _ | m
  · trivial
  rcases enseignant with _ | t
  · trivial
  · refine .bind ((issues_ecrire _ _).mpr ?_) fun _ => issues_fetchClasseDetails
    exact garde_update_classe fun now d hd =>
      (hd.arrayUnion .matieres m now).arrayUnion .enseignants t now

theorem issues_resetClasse : ClasseDetail.resetClasse.Issues fun _ r => Garde r := by
  refine .catching (.bind (fun _ => trivial) fun p => .bind ?_ fun _ => ?_) fun e => trivial
  · exact (issues_ecrire _ _).mpr (garde_update_classe fun now d hd => hd.resetClasse now)
  · exact issues_fetchClasseDetails

theorem issues_modifierClasse : ModifierClasse.modifierClasse.Issues fun _ r => Garde r := by
  refine .bind (fun _ => trivial) fun p => ?_
  rcases p.classeModele with _ | modele
  · trivial
  rcases p.niveauSelectionne with _ | niveau
  · trivial
  refine .ite (.bind trivial fun _ => .ensuring (.catching (.bind ?_ fun _ => ?_) ?_) _) trivial
  · refine (issues_ecrire _ _).mpr ?_
    rintro c rfl now
    exact .toMap _ now
  · trivial
  · exact fun e => trivial

theorem issues_siConnecte {Λ σ : Type} {op : Action Λ σ Unit}
    (hop : op.Issues fun _ r => Garde r) (l : Λ) (c : Collection)
    (introuvable etablissementId id refus contexte : String) :
    (siConnecte l c introuvable etablissementId id refus contexte op).Issues fun _ r => Garde r := by
  refine .catching (.bind (issues_lireDoc (garde_lecture trivial)) fun doc => ?_) fun e => trivial
  cases doc with
  | none => trivial
  | some data => exact .ite hop trivial

/-- The updates of a class by the controller. -/
theorem issues_update_classe {Λ σ : Type} {fs : Champs}
    (h : ∀ now d, ClasseLisible d → ClasseLisible (writeFields now d fs)) (l l' : Λ)
    (introuvable etablissementId id refus contexte : String) :
    (siConnecte l .classes introuvable etablissementId id refus contexte
      (ecrire l' (.update .classes id fs)) : Action Λ σ Unit).Issues fun _ r => Garde r :=
  issues_siConnecte ((issues_ecrire _ _).mpr (garde_update_classe h)) _ _ _ _ _ _ _

theorem issues_poserDoc {Λ σ : Type} (l : Λ) {c : Collection} {id : String} {fs : Champs}
    (h : id ≠ "" → ∀ now, DocLisible c id (newDoc now fs)) :
    (poserDoc l c id fs : Action Λ σ Unit).Issues fun _ r => Garde r := by
  unfold poserDoc
  by_cases hid : id = ""
  · rw [if_pos hid]
    trivial
  · rw [if_neg hid]
    refine (issues_ecrire _ _).mpr ?_
    rintro c' rfl
    exact h hid

theorem issues_ajouterClasse {Λ : Type} (l : Λ) (id : String) :
    (AjouterClasse.ajouterClasse l id).Issues fun _ r => Garde r := by
  refine .bind (fun _ => trivial) fun p => .ite (.bind trivial fun _ => ?_) trivial
  refine .ensuring (.catching (.bind (issues_ofExcept _) fun niveau => .bind ?_ fun _ => ?_) ?_) _
  · exact issues_poserDoc l fun _ now => .toMap _ now
  · trivial
  · exact fun e => trivial

theorem issues_ajouterMatiere {Λ σ : Type} (l : Λ) (etablissementId : String)
    (matiere : MatiereModele) : (MatiereController.ajouterMatiere l etablissementId matiere :
      Action Λ σ Unit).Issues fun _ r => Garde r :=
  .catching (issues_poserDoc l fun hid _ => ⟨hid, matiere.nom, rfl⟩) fun _ => trivial

theorem issues_enregistrerMatiere {Λ : Type} (l : Λ) (id : String) :
    (AjoutMatiere.enregistrerMatiere l id).Issues fun _ r => Garde r := by
  refine .bind (fun _ => trivial) fun p => .ite (.catching ?_ fun e => trivial) trivial
  refine .bind (issues_ofExcept _) fun coefficient => ?_
  exact .bind (issues_ajouterMatiere l _ _) fun _ => .bind trivial fun _ => trivial

theorem issues_supprimerDocs {Λ σ : Type} (l : Λ) (docs : List (String × Document)) :
    (MatiereController.supprimerDocs l docs : Action Λ σ Unit).Issues fun _ r => Garde r := by
  induction docs with
  | nil => trivial
  | cons doc docs ih => exact .bind ((issues_ecrire _ _).mpr (garde_delete _ _)) fun _ => ih

theorem issues_lireConnecte {Λ σ α : Type} (l : Λ) (etablissementId : String) (c : Collection)
    (id : String) (decode : Document → Except Err α) :
    (lireConnecte l etablissementId c id decode : Action Λ σ _).Issues fun _ r => Garde r := by
  refine .bind (issues_lireDoc (garde_lecture trivial)) fun doc => ?_
  cases doc with
  | none => trivial
  | some data => exact .ite (.bind (issues_ofExcept _) fun _ => trivial) trivial

/-- Whatever is called, the documents stay readable. -/
theorem issues_controleur (etablissementId : String) (appel : AppelControleur) :
    (appel.action etablissementId).Issues fun _ r => Garde r := by
  cases appel with
  | ajouterClasse classe =>
    exact .catching (issues_poserDoc _ fun _ now => .toMap _ now) fun e => trivial
  | getToutesLesClasses | lireToutesLesMatieres =>
    refine .bind (.catching (.bind ?_ fun _ => issues_ofExcept _) fun e => trivial) fun _ => trivial
    exact (issues_chercher _ _ _).mpr (garde_lecture trivial)
  | getClasseParId id | lireMatiereParId id =>
    exact .bind (.catching (issues_lireConnecte _ _ _ _ _) fun e => trivial) fun _ => trivial
  | supprimerClasse id | supprimerMatiere id =>
    exact issues_siConnecte ((issues_ecrire _ _).mpr (garde_delete _ _)) _ _ _ _ _ _ _
  | ajouterEleve classeId eleveId =>
    exact issues_update_classe (fun now d hd => hd.arrayUnion .eleves eleveId now) _ _ _ _ _ _ _
  | supprimerEleve classeId eleveId =>
    exact issues_update_classe (fun now d hd => hd.arrayRemove .eleves eleveId now) _ _ _ _ _ _ _
  | ajouterMatiereAClasse classeId matiereId =>
    exact issues_update_classe (fun now d hd => hd.arrayUnion .matieres matiereId now) _ _ _ _ _ _ _
  | supprimerMatiereDeClasse classeId matiereId =>
    exact issues_update_classe (fun now d hd => hd.arrayRemove .matieres matiereId now)
      _ _ _ _ _ _ _
  | ajouterEnseignant classeId enseignantId =>
    exact issues_update_classe (fun now d hd => hd.arrayUnion .enseignants enseignantId now)
      _ _ _ _ _ _ _
  | supprimerEnseignant classeId enseignantId =>
    exact issues_update_classe (fun now d hd => hd.arrayRemove .enseignants enseignantId now)
      _ _ _ _ _ _ _
  | mettreAJourClasse classeId nom niveau =>
    refine issues_siConnecte (.ite ?_ ((issues_ecrire _ _).mpr ?_)) _ _ _ _ _ _ _
    · trivial
    · exact garde_update_classe fun now d hd => hd.miseAJour nom niveau now
  | ajouterMatiere matiere =>
    exact issues_ajouterMatiere _ etablissementId matiere
  | modifierMatiere matiere =>
    refine issues_siConnecte ((issues_ecrire _ _).mpr ?_) _ _ _ _ _ _ _
    rintro c rfl now d ⟨hid, -⟩
    exact ⟨hid, matiere.nom, rfl⟩
  | supprimerToutesLesMatieres =>
    refine .catching (.bind ?_ fun docs => issues_supprimerDocs _ docs) fun e => trivial
    exact (issues_chercher _ _ _).mpr (garde_lecture trivial)

theorem issues_supprimerClasse (docId : String) (confirmation : Bool) :
    (Admin.supprimerClasse docId confirmation).Issues fun _ r => Garde r := by
  refine .ite (.catching (.bind ?_ fun _ => ?_) fun e => ?_) trivial
  · exact (issues_ecrire _ _).mpr (garde_delete _ _)
  · trivial
  · trivial

theorem issues_supprimerMatiere (docId : String) (confirmation : Bool) :
    (Admin.supprimerMatiere docId confirmation).Issues fun _ r => Garde r := by
  refine .ite (.catching (.bind ?_ fun _ => ?_) fun e => ?_) trivial
  · exact (issues_ecrire _ _).mpr (garde_delete _ _)
  · trivial
  · trivial

theorem EcoleLisible.effet {S : Server} {b : Base} (hb : EcoleLisible b) (r : Retouche) :
    EcoleLisible (r.effet S b) := by
  cases r with
  | ajouterEnseignement enseignantId matiereId =>
    exact hb.exec (issues_ajouterEnseignement enseignantId matiereId) ()
  | lierMatiere p matiere => exact hb.exec (issues_lierMatiere matiere) p
  | ajouterClasse p id => exact hb.exec (issues_ajouterClasse () id) p
  | enregistrerMatiere p id => exact hb.exec (issues_enregistrerMatiere () id) p
  | toggleElement p liste elementId selected =>
    exact hb.exec (issues_toggleElement liste elementId selected) p
  | validerMatiere p matiere enseignant => exact hb.exec (issues_validerMatiere matiere enseignant) p
  | resetClasse p => exact hb.exec issues_resetClasse p
  | modifierClasse p => exact hb.exec issues_modifierClasse p
  | supprimerClasse docId confirmation =>
    exact hb.exec (issues_supprimerClasse docId confirmation) []
  | supprimerMatiere docId confirmation =>
    exact hb.exec (issues_supprimerMatiere docId confirmation) []
  | controleur etablissementId appel => exact hb.exec (issues_controleur etablissementId appel) ()

/-- A run of operations keeps the school readable. -/
theorem EcoleLisible.retoucher {S : Server} {b : Base} (hb : EcoleLisible b) (rs : List Retouche) :
    EcoleLisible (retoucher S b rs) := by
  induction rs generalizing b with
  | nil => exact hb
  | cons r rs ih => exact ih (hb.effet r)

/-! ## What is there to offer -/

/-- The teacher a user is; the first one. -/
def enseignantDe (b : Base) (utilisateurId : String) : Option String :=
  ((⟨[.isEqualTo .utilisateurId (.str utilisateurId)], none, some 1⟩ : Query Champ).run
    (b.docs .enseignants)).head?.map Prod.fst

/-- The class `c` of the establishment is one of the teacher `t`. -/
structure ClasseDe (b : Base) (etablissementId t c : String) : Prop where
  id : c ≠ ""
  doc : ∃ d, b.doc .classes c = some d ∧ d .etablissementId = some (.str etablissementId) ∧
    t ∈ strsOf (d .enseignantsIds)

/-- The subjects on the list of a class. -/
def matieresDeClasse (b : Base) (c : String) : List String :=
  match b.doc .classes c with
  | some d => strsOf (d .matieresIds)
  | none => []

def enseignementsDe (b : Base) (t : String) : List (String × Document) :=
  (⟨[.isEqualTo .enseignantId (.str t)], none, none⟩ : Query Champ).run (b.docs .enseignements)

/-- The subject of each link of a teacher. -/
def matieresLiees (b : Base) (t : String) : List String :=
  (enseignementsDe b t).map fun e => chaine e.2 .matiereId

/-- An existing subject of the class that the teacher teaches. -/
structure Offerte (b : Base) (t c m : String) : Prop where
  classe : m ∈ matieresDeClasse b c
  enseignee : m ∈ matieresLiees b t
  existe : (b.doc .matieres m).isSome

/-- A load has ended without error, with the subjects to offer, each once. -/
structure Charge (b : Base) (t c : String) (a : Except Err Unit) (matieres : List String) :
    Prop where
  fin : a = .ok ()
  nodup : matieres.Nodup
  mem_iff : ∀ m, m ∈ matieres ↔ Offerte b t c m

/-- The links of the teacher to the subjects of the class name existing subjects, each once, and
the database accepts a query for them. -/
structure Simples (maxIn : ℕ) (b : Base) (t c : String) : Prop where
  existe : ∀ m ∈ matieresLiees b t, m ∈ matieresDeClasse b c → (b.doc .matieres m).isSome
  nodup : ((matieresLiees b t).filter (· ∈ matieresDeClasse b c)).Nodup
  length_le : ((matieresDeClasse b c).filter (· ∈ matieresLiees b t)).length ≤ maxIn

theorem classeDe_iff {b : Base} {etablissementId t c : String} :
    ClasseDe b etablissementId t c ↔ c ≠ "" ∧ ((b.doc .classes c).any fun d =>
      (Filter.isEqualTo .etablissementId (.str etablissementId)).sat c d &&
        decide (t ∈ strsOf (d .enseignantsIds))) = true := by
  rw [Option.any_eq_true]
  constructor
  · rintro ⟨hid, d, hd, hecole, ht⟩
    refine ⟨hid, d, hd, ?_⟩
    rw [Bool.and_eq_true, Filter.sat_isEqualTo_str, decide_eq_true_eq]
    exact ⟨hecole, ht⟩
  · rintro ⟨hid, d, hd, h⟩
    rw [Bool.and_eq_true, Filter.sat_isEqualTo_str, decide_eq_true_eq] at h
    exact ⟨hid, d, hd, h⟩

instance (b : Base) (etablissementId t c : String) : Decidable (ClasseDe b etablissementId t c) :=
  decidable_of_iff _ classeDe_iff.symm

theorem simples_iff {n : ℕ} {b : Base} {t c : String} : Simples n b t c ↔
    (∀ m ∈ matieresLiees b t, m ∈ matieresDeClasse b c → (b.doc .matieres m).isSome) ∧
      ((matieresLiees b t).filter (· ∈ matieresDeClasse b c)).Nodup ∧
      ((matieresDeClasse b c).filter (· ∈ matieresLiees b t)).length ≤ n :=
  ⟨fun h => ⟨h.existe, h.nodup, h.length_le⟩, fun h => ⟨h.1, h.2.1, h.2.2⟩⟩

instance (n : ℕ) (b : Base) (t c : String) : Decidable (Simples n b t c) :=
  decidable_of_iff _ simples_iff.symm

/-! ## The pages that go through the links -/

section Liens

variable {Λ σ : Type} {choix : σ → Choix} {sur : (Choix → Choix) → σ → σ} {S : Server} {b : Base}
  {t c : String}

theorem orStrs_liste {d : Document} (h : ClasseLisible d) (l : ListeClasse) :
    (d.get l.champ).orStrs = .ok (strsOf (d l.champ)) := by
  obtain ⟨ids, hids⟩ := h.liste l
  rw [Doc.get, hids, strsOf_strs]
  exact Value.orStrs_strs ids

/-- The body of the loop over the classes, on a readable class. -/
theorem entree_eq {d : Document} (h : ClasseLisible d)
    (classe : String → Document → List String → Except Err ClasseAvecMatieres)
    (liees : List String) (id : String) :
    Choix.entree classe t liees (id, d) =
      if t ∉ strsOf (d .enseignantsIds) then .ok none
      else if (strsOf (d .matieresIds)).filter (· ∈ liees) = [] then .ok none
      else (classe id d ((strsOf (d .matieresIds)).filter (· ∈ liees))).map some := by
  have hens : (d.get .enseignantsIds).orStrs = .ok (strsOf (d .enseignantsIds)) :=
    orStrs_liste h .enseignants
  have hmats : (d.get .matieresIds).orStrs = .ok (strsOf (d .matieresIds)) :=
    orStrs_liste h .matieres
  unfold Choix.entree
  rw [hens]
  show (if t ∉ strsOf (d .enseignantsIds) then _ else _) = _
  by_cases ht : t ∉ strsOf (d .enseignantsIds)
  · rw [if_pos ht, if_pos ht]
    rfl
  rw [if_neg ht, if_neg ht, hmats]
  show (if (strsOf (d .matieresIds)).filter (· ∈ liees) = [] then _ else _) = _
  by_cases hvide : (strsOf (d .matieresIds)).filter (· ∈ liees) = []
  · rw [if_pos hvide, if_pos hvide]
    rfl
  · rw [if_neg hvide, if_neg hvide]
    cases classe id d ((strsOf (d .matieresIds)).filter (· ∈ liees)) <;> rfl

theorem entree_eq_some_iff {d : Document} (h : ClasseLisible d)
    {classe : String → Document → List String → Except Err ClasseAvecMatieres}
    {liees : List String} {id : String} {x : ClasseAvecMatieres} :
    Choix.entree classe t liees (id, d) = .ok (some x) ↔ t ∈ strsOf (d .enseignantsIds) ∧
      (strsOf (d .matieresIds)).filter (· ∈ liees) ≠ [] ∧
      classe id d ((strsOf (d .matieresIds)).filter (· ∈ liees)) = .ok x := by
  rw [entree_eq h]
  by_cases ht : t ∉ strsOf (d .enseignantsIds)
  · rw [if_pos ht]
    exact iff_of_false (fun h => by cases h) fun h => ht h.1
  rw [if_neg ht]
  by_cases hvide : (strsOf (d .matieresIds)).filter (· ∈ liees) = []
  · rw [if_pos hvide]
    exact iff_of_false (fun h => by cases h) fun h => h.2.1 hvide
  rw [if_neg hvide]
  refine Iff.trans ?_ (and_iff_right (not_not.mp ht)).symm
  refine Iff.trans ?_ (and_iff_right hvide).symm
  cases classe id d ((strsOf (d .matieresIds)).filter (· ∈ liees)) with
  | error e => exact iff_of_false (fun h => by cases h) fun h => by cases h
  | ok y => exact ⟨fun h => congrArg _ (Option.some.inj (Except.ok.inj h)), fun h => by
      rw [Except.ok.inj h]; rfl⟩

theorem exists_entrees (hb : EcoleLisible b)
    {classe : String → Document → List String → Except Err ClasseAvecMatieres}
    (hclasse : ∀ id d ids, ClasseLisible d → ∃ x, classe id d ids = .ok x) (liees : List String)
    (q : Query Champ) :
    ∃ temp, (q.run (b.docs .classes)).mapM (Choix.entree classe t liees) = Except.ok temp := by
  refine exists_mapM_run (fun id d hd => ?_) q
  have hl : ClasseLisible d := hb .classes id d hd
  rw [entree_eq hl]
  obtain ⟨x, hx⟩ := hclasse id d ((strsOf (d .matieresIds)).filter (· ∈ liees)) hl
  by_cases ht : t ∉ strsOf (d .enseignantsIds)
  · exact ⟨none, if_pos ht⟩
  rw [if_neg ht]
  by_cases hvide : (strsOf (d .matieresIds)).filter (· ∈ liees) = []
  · exact ⟨none, if_pos hvide⟩
  · rw [if_neg hvide, hx]
    exact ⟨some x, rfl⟩

theorem mapM_matiereId (hb : EcoleLisible b) (t : String) :
    (enseignementsDe b t).mapM (fun e => (e.2.field .matiereId).bind Value.asStr) =
      Except.ok (matieresLiees b t) := by
  refine mapM_eq_ok fun doc hdoc => ?_
  obtain ⟨m, hm⟩ := hb .enseignements doc.1 doc.2 (Query.of_mem_run hdoc).1
  rw [Doc.field, hm, chaine_of_str hm]
  rfl

/-- The teacher found for the user, whichever page asks. -/
theorem exists_premier {u : String} (h : enseignantDe b u = some t) :
    ∃ d docs, (⟨[.isEqualTo .utilisateurId (.str u)], none, some 1⟩ : Query Champ).run
      (b.docs .enseignants) = (t, d) :: docs := by
  unfold enseignantDe at h
  rcases hrun : (⟨[.isEqualTo .utilisateurId (.str u)], none, some 1⟩ : Query Champ).run
    (b.docs .enseignants) with _ | ⟨⟨t', d⟩, docs⟩
  · rw [hrun] at h
    cases h
  · rw [hrun] at h
    obtain rfl : t' = t := Option.some.inj h
    exact ⟨d, docs, rfl⟩

theorem ends_initData (hb : EcoleLisible b) (hsur : ∀ f s, choix (sur f s) = f (choix s)) (l : Λ)
    {classe : String → Document → List String → Except Err ClasseAvecMatieres}
    (hclasse : ∀ id d ids, ClasseLisible d → ∃ x, classe id d ids = .ok x)
    (introuvable : Action Λ σ Unit) (erreur : Err → Action Λ σ Unit) {s : σ}
    (ht : enseignantDe b (choix s).utilisateurId = some t) :
    (Choix.initData choix sur l classe introuvable erreur).Ends S.handler
      (fun a s' b' => a = .ok () ∧ (choix s').enseignantId = some t ∧ b' = b) s b := by
  obtain ⟨d, docs, hpremier⟩ := exists_premier ht
  unfold Choix.initData
  simp only [bind_eq]
  rw [ends_bind, ends_attendre]
  refine ends_catching.mpr (ends_page_bind.mpr ?_)
  refine ends_chercherPremier_bind (fun _ => ?_) fun hrefus => by cases hrefus
  rw [hpremier]
  refine ends_setState_bind.mpr (ends_chercher_bind (fun _ => ?_) fun hrefus => by cases hrefus)
  refine ends_chercher_bind (fun _ => ?_) fun hrefus => by cases hrefus
  obtain ⟨temp, htemp⟩ := exists_entrees (t := t) hb hclasse (matieresLiees b t)
    ⟨[.isEqualTo .etablissementId (.str (choix s).etablissementId)], none, none⟩
  show Ends _ _ (Prog.bind (ofExcept ((enseignementsDe b t).mapM _)) _) _ b
  rw [mapM_matiereId hb t, ofExcept_ok, bind_ret, htemp, ofExcept_ok, bind_ret, ends_setState]
  refine ⟨rfl, ?_, rfl⟩
  rw [hsur, hsur]

/-- The subjects named by the links `docs` among `ids`. -/
def choisies (ids : List String) (docs : List (String × Document)) : List String :=
  (docs.map fun e => chaine e.2 .matiereId).filter (· ∈ ids)

/-- Going on with the name of a subject, if it exists. -/
theorem ends_lire_matiere (hb : EcoleLisible b) {α : Type} {Q : Except Err α → σ → Base → Prop}
    {l : Λ} {m : String} {f : String → Action Λ σ α} {s : σ}
    (hok : (b.doc .matieres m).isSome → ∀ nom, (f nom).Ends S.handler Q s b)
    (habsente : ¬(b.doc .matieres m).isSome → ∀ e, Q (.error e) s b) :
    (Prog.bind (lireDoc l .matieres m) fun matDoc =>
      Prog.bind (ofExcept ((champ matDoc .nom).bind Value.asStr)) f).Ends S.handler Q s b := by
  unfold lireDoc
  by_cases hm : m = ""
  · rw [if_pos hm]
    refine habsente (fun hd => ?_) _
    obtain ⟨d, hd⟩ := Option.isSome_iff_exists.mp hd
    exact (hb .matieres m d hd).1 hm
  rw [if_neg hm, ends_bind, ends_lire]
  cases hd : b.doc .matieres m with
  | none => exact habsente (by rw [hd]; decide) _
  | some d =>
    obtain ⟨nom, hnom⟩ := (hb .matieres m d hd).2
    have hchamp : (champ (some d) .nom).bind Value.asStr = .ok nom := by
      rw [champ, Doc.field, hnom]
      rfl
    show Ends _ _ (Prog.bind (ofExcept ((champ (some d) .nom).bind Value.asStr)) f) _ _
    rw [hchamp]
    exact hok (by rw [hd]; rfl) nom

/-- The loop over the links adds a subject for each link to a subject of the class, and fails on
one that does not exist. -/
theorem ends_ajouterMatieres (hb : EcoleLisible b) (hsur : ∀ f s, choix (sur f s) = f (choix s))
    (l : Λ) (ids : List String) {docs : List (String × Document)}
    (hdocs : ∀ doc ∈ docs, ∃ m, doc.2 .matiereId = some (.str m)) (s : σ) :
    (Choix.ajouterMatieres sur l ids docs).Ends S.handler (fun a s' _ =>
      (∀ m ∈ choisies ids docs, (b.doc .matieres m).isSome) ∧ a = .ok () ∧
          (choix s').matieres.map Matiere.id =
            (choix s).matieres.map Matiere.id ++ choisies ids docs ∨
        ¬(∀ m ∈ choisies ids docs, (b.doc .matieres m).isSome) ∧ ∃ e, a = .error e) s b := by
  induction docs generalizing s with
  | nil =>
    refine Or.inl ⟨fun m hm => (by cases hm), rfl, ?_⟩
    show (choix (sur id s)).matieres.map Matiere.id = _
    rw [hsur, choisies, List.map_nil, List.filter_nil, List.append_nil]
    rfl
  | cons doc docs ih =>
    obtain ⟨m, hm⟩ := hdocs doc List.mem_cons_self
    have hrest : ∀ doc ∈ docs, ∃ m, doc.2 .matiereId = some (.str m) :=
      fun d hd => hdocs d (List.mem_cons_of_mem doc hd)
    have hfield : doc.2.field .matiereId = .ok (.str m) := by rw [Doc.field, hm]
    have hcons : choisies ids (doc :: docs) =
        if m ∈ ids then m :: choisies ids docs else choisies ids docs := by
      rw [choisies, List.map_cons, List.filter_cons, chaine_of_str hm]
      by_cases hmem : m ∈ ids
      · rw [if_pos (decide_eq_true hmem), if_pos hmem, choisies]
      · rw [if_neg (by simpa using hmem), if_neg hmem, choisies]
    unfold Choix.ajouterMatieres
    simp only [bind_eq]
    rw [hfield, ofExcept_ok, bind_ret, hcons]
    by_cases hmem : m ∈ ids
    · rw [if_pos hmem]
      show Ends _ _ (if m ∈ ids then _ else _) s b
      rw [if_pos hmem]
      refine ends_lire_matiere hb (fun hexiste nom => ?_) fun habsente e => ?_
      · refine ends_setState_bind.mpr ((ih hrest _).mono ?_)
        rintro a s' b' (⟨hall, rfl, hmap⟩ | ⟨hall, herr⟩)
        · refine Or.inl ⟨List.forall_mem_cons.mpr ⟨hexiste, hall⟩, rfl, ?_⟩
          rw [hmap, hsur, List.map_append, List.append_assoc]
          rfl
        · exact Or.inr ⟨fun h => hall (List.forall_mem_cons.mp h).2, herr⟩
      · exact Or.inr ⟨fun h => habsente (List.forall_mem_cons.mp h).1, e, rfl⟩
    · rw [if_neg hmem]
      show Ends _ _ (if m ∈ ids then _ else _) s b
      rw [if_neg hmem]
      exact ih hrest s

/-- `_chargerMatieres`, on a page that has found its teacher. -/
theorem ends_chargerMatieres (hb : EcoleLisible b) (hsur : ∀ f s, choix (sur f s) = f (choix s))
    (l : Λ) (hc : c ≠ "") {d : Document} (hd : b.doc .classes c = some d) {s : σ}
    (ht : (choix s).enseignantId = some t) :
    (Choix.chargerMatieres choix sur l c).Ends S.handler (fun a s' _ =>
      (∀ m ∈ choisies (matieresDeClasse b c) (enseignementsDe b t), (b.doc .matieres m).isSome) ∧
          a = .ok () ∧ (choix s').matieres.map Matiere.id =
            choisies (matieresDeClasse b c) (enseignementsDe b t) ∨
        ¬(∀ m ∈ choisies (matieresDeClasse b c) (enseignementsDe b t),
            (b.doc .matieres m).isSome) ∧ ∃ e, a = .error e) s b := by
  have hl : ClasseLisible d := hb .classes c d hd
  obtain ⟨ids, hids⟩ := hl.liste .matieres
  have hclasse : matieresDeClasse b c = ids := by
    unfold matieresDeClasse
    rw [hd]
    show strsOf (d .matieresIds) = ids
    rw [show d .matieresIds = some (.strs ids) from hids, strsOf_strs]
  have hchamp : (champ (some d) .matieresIds).bind Value.orStrs = .ok ids := by
    rw [champ, Doc.field, show d .matieresIds = some (.strs ids) from hids]
    exact Value.orStrs_strs ids
  unfold Choix.chargerMatieres lireDoc
  simp only [bind_eq]
  rw [ends_setState_bind, if_neg hc, ends_bind, ends_lire, hd]
  show Ends _ _ (Prog.bind (ofExcept ((champ (some d) .matieresIds).bind Value.orStrs)) _) _ _
  rw [hchamp, ofExcept_ok, bind_ret, ends_page_bind, hsur]
  show Ends _ _ (Prog.bind (chercher l .enseignements
    [Choix.egal .enseignantId (choix s).enseignantId]) _) _ _
  rw [ht]
  refine ends_chercher_bind (fun _ => ?_) fun hrefus => by cases hrefus
  have hdocs : ∀ doc ∈ enseignementsDe b t, ∃ m, doc.2 .matiereId = some (.str m) :=
    fun doc hdoc => hb .enseignements doc.1 doc.2 (Query.of_mem_run hdoc).1
  have hfin := ends_ajouterMatieres (S := S) hb hsur l ids hdocs
    (sur (fun c => { c with matieres := [] }) s)
  rw [hsur] at hfin
  rw [hclasse]
  exact hfin

/-- The page opened, then the class chosen. -/
theorem ends_ouvrir (hb : EcoleLisible b) (hsur : ∀ f s, choix (sur f s) = f (choix s)) (l : Λ)
    {classe : String → Document → List String → Except Err ClasseAvecMatieres}
    (hclasse : ∀ id d ids, ClasseLisible d → ∃ x, classe id d ids = .ok x)
    (introuvable : Action Λ σ Unit) (erreur : Err → Action Λ σ Unit) {s : σ}
    (ht : enseignantDe b (choix s).utilisateurId = some t) {etablissementId : String}
    (hc : ClasseDe b etablissementId t c) :
    (Prog.bind (Choix.initData choix sur l classe introuvable erreur) fun _ =>
      Choix.chargerMatieres choix sur l c).Ends S.handler (fun a s' _ =>
        Charge b t c a ((choix s').matieres.map Matiere.id) ↔
          (∀ m ∈ matieresLiees b t, m ∈ matieresDeClasse b c → (b.doc .matieres m).isSome) ∧
            ((matieresLiees b t).filter (· ∈ matieresDeClasse b c)).Nodup) s b := by
  obtain ⟨d, hd, -⟩ := hc.doc
  rw [ends_bind]
  refine (ends_initData hb hsur l hclasse introuvable erreur ht).mono ?_
  rintro a s' b' ⟨rfl, ht', rfl⟩
  refine (ends_chargerMatieres hb hsur l hc.id hd ht').mono fun a s'' _ h => ?_
  have hexiste : (∀ m ∈ choisies (matieresDeClasse b' c) (enseignementsDe b' t),
      (b'.doc .matieres m).isSome) ↔
      ∀ m ∈ matieresLiees b' t, m ∈ matieresDeClasse b' c → (b'.doc .matieres m).isSome := by
    simp only [choisies, matieresLiees, List.mem_filter, decide_eq_true_eq, and_imp]
  rw [hexiste] at h
  rcases h with ⟨hall, rfl, hmap⟩ | ⟨hall, e, rfl⟩
  · rw [hmap]
    refine ⟨fun h => ⟨hall, h.nodup⟩, fun h => ⟨rfl, h.2, fun m => ?_⟩⟩
    rw [choisies, List.mem_filter, decide_eq_true_eq]
    constructor
    · rintro ⟨hm, hclasse⟩
      exact ⟨hclasse, hm, hall m hm hclasse⟩
    · exact fun h => ⟨h.enseignee, h.classe⟩
  · exact iff_of_false (fun h => by cases h.fin) fun h => hall h.1

end Liens

/-- `AppelPage` opened by a user, then a class chosen. -/
def chargementAppel (S : Server) (b : Base) (etablissementId utilisateurId c : String) :
    Except Err Unit × AppelPage × Base :=
  (do AppelPage.initData; AppelPage.chargerMatieres c).exec S.handler
    { etablissementId := etablissementId, utilisateurId := utilisateurId } b

/-- `NotesPage` opened by a user, then a class chosen. -/
def chargementNotes (S : Server) (b : Base) (etablissementId utilisateurId c : String) :
    Except Err Unit × NotesPage × Base :=
  (do NotesPage.initData; NotesPage.chargerMatieres c).exec S.handler
    { etablissementId := etablissementId, utilisateurId := utilisateurId } b

theorem charge_appel_iff (S : Server) {b : Base} (hb : EcoleLisible b) {e u t c : String}
    (ht : enseignantDe b u = some t) (hc : ClasseDe b e t c) :
    Charge b t c (chargementAppel S b e u c).1
        ((chargementAppel S b e u c).2.1.matieres.map Matiere.id) ↔
      (∀ m ∈ matieresLiees b t, m ∈ matieresDeClasse b c → (b.doc .matieres m).isSome) ∧
        ((matieresLiees b t).filter (· ∈ matieresDeClasse b c)).Nodup := by
  have hsur : ∀ f (p : AppelPage), (AppelPage.sur f p).toChoix = f p.toChoix := fun _ _ => rfl
  refine ends_ouvrir hb hsur EtapeAppel.choix (fun id d ids hd => ?_) _ _ ht hc
  obtain ⟨nom, hnom⟩ := hd.nom
  obtain ⟨niveau, hniveau⟩ := hd.niveau
  rw [AppelPage.classe, Doc.get, Doc.get, hnom, hniveau]
  exact ⟨_, rfl⟩

theorem charge_notes_iff (S : Server) {b : Base} (hb : EcoleLisible b) {e u t c : String}
    (ht : enseignantDe b u = some t) (hc : ClasseDe b e t c) :
    Charge b t c (chargementNotes S b e u c).1
        ((chargementNotes S b e u c).2.1.matieres.map Matiere.id) ↔
      (∀ m ∈ matieresLiees b t, m ∈ matieresDeClasse b c → (b.doc .matieres m).isSome) ∧
        ((matieresLiees b t).filter (· ∈ matieresDeClasse b c)).Nodup := by
  have hsur : ∀ f (p : NotesPage), (NotesPage.sur f p).toChoix = f p.toChoix := fun _ _ => rfl
  refine ends_ouvrir hb hsur EtapeNotes.choix (fun id d ids hd => ?_) _ _ ht hc
  obtain ⟨nom, hnom⟩ := hd.nom
  obtain ⟨niveau, hniveau⟩ := hd.niveau
  have heleves : (d.get .elevesIds).orStrs = .ok (strsOf (d .elevesIds)) := orStrs_liste hd .eleves
  rw [NotesPage.classe, heleves, Doc.get, Doc.get, hnom, hniveau]
  exact ⟨_, rfl⟩

/-! ## The page that asks for the subjects of the class -/

/-- `CreationDevoirPage` opened by a user, then a class chosen. -/
def chargementDevoir (S : Server) (b : Base) (etablissementId utilisateurId c : String) :
    Except Err Unit × CreationDevoirPage × Base :=
  (do
    CreationDevoirPage.chargerEnseignantEtClasses
    CreationDevoirPage.chargerMatieresPourClasse c).exec S.handler
    { enseignantUtilisateurId := utilisateurId, etablissementId := etablissementId } b

section Devoir

variable {S : Server} {b : Base} {e u t c : String}

theorem exists_classe_devoir {d : Document} (hd : ClasseLisible d) (id : String)
    (ids : List String) : ∃ x, CreationDevoirPage.classe id d ids = .ok x := by
  obtain ⟨nom, hnom⟩ := hd.nom
  obtain ⟨niveau, hniveau⟩ := hd.niveau
  rw [CreationDevoirPage.classe, Doc.get, Doc.get, hnom, hniveau]
  exact ⟨_, rfl⟩

theorem classe_devoir_eq {id : String} {d : Document} {ids : List String} {x : ClasseAvecMatieres}
    (h : CreationDevoirPage.classe id d ids = .ok x) : x.classeId = id ∧ x.matieresIds = ids := by
  obtain ⟨nom, -, h⟩ := bind_eq_ok_iff.mp h
  obtain ⟨niveau, -, h⟩ := bind_eq_ok_iff.mp h
  obtain rfl := Except.ok.inj h
  exact ⟨rfl, rfl⟩

/-- The entry chosen among those of the classes has the subjects of the class that the teacher is
linked to. -/
theorem matieresIds_find (hb : EcoleLisible b) (hc : ClasseDe b e t c)
    {temp : List (Option ClasseAvecMatieres)}
    (htemp : ((⟨[.isEqualTo .etablissementId (.str e)], none, none⟩ : Query Champ).run
      (b.docs .classes)).mapM (Choix.entree CreationDevoirPage.classe t (matieresLiees b t)) =
        Except.ok temp) {q : CreationDevoirPage}
    (hq : q.classesAvecMatieres = temp.reduceOption) : (q.classeAvecMatieres c).matieresIds =
      (matieresDeClasse b c).filter (· ∈ matieresLiees b t) := by
  obtain ⟨d, hd, hecole, hens⟩ := hc.doc
  have hclasse : matieresDeClasse b c = strsOf (d .matieresIds) := by
    unfold matieresDeClasse
    rw [hd]
  have hrow : (c, d) ∈ (⟨[.isEqualTo .etablissementId (.str e)], none, none⟩ : Query Champ).run
      (b.docs .classes) :=
    Query.mem_run.mpr ⟨hd, List.forall_mem_singleton.mpr (Filter.sat_isEqualTo_str.mpr hecole)⟩
  unfold CreationDevoirPage.classeAvecMatieres
  rw [hq]
  cases hfind : temp.reduceOption.find? fun x => decide (x.classeId = c) with
  | some x =>
    -- the entry is that of the only class of that id
    have hxc : x.classeId = c := by simpa using List.find?_some hfind
    have hx : some x ∈ temp := List.reduceOption_mem_iff.mp (List.mem_of_find?_eq_some hfind)
    obtain ⟨⟨id, d'⟩, hdoc, hentree⟩ := exists_of_mem_mapM htemp hx
    have hd' : b.doc .classes id = some d' := (Query.of_mem_run hdoc).1
    obtain ⟨-, -, hx⟩ := (entree_eq_some_iff (hb .classes id d' hd')).mp hentree
    obtain ⟨hid, hids⟩ := classe_devoir_eq hx
    obtain rfl : id = c := hid.symm.trans hxc
    obtain rfl := Option.some.inj (hd.symm.trans hd')
    rw [hclasse]
    exact hids
  | none =>
    -- the class has no entry, so the teacher has no subject there
    by_cases hvide : (strsOf (d .matieresIds)).filter (· ∈ matieresLiees b t) = []
    · rw [hclasse, hvide]
      rfl
    obtain ⟨y, hy⟩ := exists_classe_devoir (hb .classes c d hd) c
      ((strsOf (d .matieresIds)).filter (· ∈ matieresLiees b t))
    obtain ⟨o, ho, hentree⟩ := exists_mem_of_mapM htemp hrow
    rw [(entree_eq_some_iff (hb .classes c d hd)).mpr ⟨hens, hvide, hy⟩] at hentree
    obtain rfl := Except.ok.inj hentree
    have hyc : y.classeId = c := (classe_devoir_eq hy).1
    have hmem : y ∈ temp.reduceOption := List.reduceOption_mem_iff.mpr ho
    exact absurd (decide_eq_true hyc) (List.find?_eq_none.mp hfind y hmem)

/-- The classes of the teacher with their subjects, and no message. -/
theorem ends_chargerEnseignantEtClasses (hb : EcoleLisible b) {p : CreationDevoirPage}
    (ht : enseignantDe b p.enseignantUtilisateurId = some t)
    (hc : ClasseDe b p.etablissementId t c) :
    CreationDevoirPage.chargerEnseignantEtClasses.Ends S.handler (fun a q b' => a = .ok () ∧
      q.messages = p.messages ∧ b' = b ∧ (q.classeAvecMatieres c).matieresIds =
        (matieresDeClasse b c).filter (· ∈ matieresLiees b t)) p b := by
  obtain ⟨d, docs, hpremier⟩ := exists_premier ht
  have hlies : (enseignementsDe b t).mapM (fun e => (e.2.get .matiereId).asStr) =
      Except.ok (matieresLiees b t) := by
    refine mapM_eq_ok fun doc hdoc => ?_
    obtain ⟨m, hm⟩ := hb .enseignements doc.1 doc.2 (Query.of_mem_run hdoc).1
    rw [Doc.get, hm, chaine_of_str hm]
    rfl
  obtain ⟨temp, htemp⟩ := exists_entrees (t := t) hb
    (fun id d ids hd => exists_classe_devoir hd id ids) (matieresLiees b t)
    ⟨[.isEqualTo .etablissementId (.str p.etablissementId)], none, none⟩
  unfold CreationDevoirPage.chargerEnseignantEtClasses
  simp only [bind_eq]
  refine ends_setState_bind.mpr (ends_catching.mpr (ends_page_bind.mpr ?_))
  refine ends_chercherPremier_bind (fun _ => ?_) fun hrefus => by cases hrefus
  rw [hpremier]
  refine ends_setState_bind.mpr (ends_chercher_bind (fun _ => ?_) fun hrefus => by cases hrefus)
  refine ends_chercher_bind (fun _ => ?_) fun hrefus => by cases hrefus
  show Ends _ _ (Prog.bind (ofExcept ((enseignementsDe b t).mapM _)) _) _ b
  rw [hlies, ofExcept_ok, bind_ret, htemp, ofExcept_ok, bind_ret, ends_setState]
  exact ⟨rfl, rfl, rfl, matieresIds_find hb hc htemp rfl⟩

/-- `_chargerMatieresPourClasse`: one query, refused when the class has too many subjects. -/
theorem ends_chargerMatieresPourClasse (p : CreationDevoirPage) :
    (CreationDevoirPage.chargerMatieresPourClasse c).Ends S.handler (fun a q _ => a = .ok () ∧
      ((p.classeAvecMatieres c).matieresIds.length ≤ S.maxIn ∧ q.messages = p.messages ∧
          (q.matieres.map Prod.fst).Nodup ∧ (∀ m, m ∈ q.matieres.map Prod.fst ↔
            m ∈ (p.classeAvecMatieres c).matieresIds ∧ (b.doc .matieres m).isSome) ∨
        S.maxIn < (p.classeAvecMatieres c).matieresIds.length ∧ q.messages ≠ [])) p b := by
  unfold CreationDevoirPage.chargerMatieresPourClasse
  simp only [bind_eq]
  refine ends_setState_bind.mpr (ends_catching.mpr (ends_page_bind.mpr ?_))
  show Ends _ _ (if (p.classeAvecMatieres c).matieresIds = [] then _ else _) _ _
  by_cases hvide : (p.classeAvecMatieres c).matieresIds = []
  · rw [if_pos hvide, hvide]
    refine ⟨rfl, Or.inl ⟨Nat.zero_le _, rfl, List.nodup_nil, fun m => ?_⟩⟩
    exact iff_of_false List.not_mem_nil fun h => List.not_mem_nil h.1
  rw [if_neg hvide]
  refine ends_chercher_bind (fun haccepte => ?_) fun hrefus => ?_
  · refine ⟨rfl, Or.inl ⟨(admise_of_accepted haccepte).2, rfl, Query.keys_run_nodup _ _, ?_⟩⟩
    intro m
    rw [List.mem_map]
    constructor
    · rintro ⟨⟨m, d⟩, hdoc, rfl⟩
      obtain ⟨hd, hsat⟩ := Query.mem_run.mp hdoc
      refine ⟨Filter.sat_idIn.mp (hsat _ List.mem_cons_self), ?_⟩
      rw [Option.isSome_iff_exists]
      exact ⟨d, hd⟩
    · rintro ⟨hm, hd⟩
      obtain ⟨d, hd⟩ := Option.isSome_iff_exists.mp hd
      refine ⟨(m, d), Query.mem_run.mpr ⟨hd, ?_⟩, rfl⟩
      exact List.forall_mem_singleton.mpr (Filter.sat_idIn.mpr hm)
  · have hlong := not_admise_of_refused hrefus rfl
    refine ⟨rfl, Or.inr ⟨lt_of_not_ge fun h => hlong ⟨hvide, h⟩, ?_⟩⟩
    exact List.append_ne_nil_of_right_ne_nil _ (List.cons_ne_nil _ _)

theorem charge_devoir_iff (S : Server) (hb : EcoleLisible b) (ht : enseignantDe b u = some t)
    (hc : ClasseDe b e t c) :
    ((chargementDevoir S b e u c).2.1.messages = [] ∧ Charge b t c (chargementDevoir S b e u c).1
        ((chargementDevoir S b e u c).2.1.matieres.map Prod.fst)) ↔
      ((matieresDeClasse b c).filter (· ∈ matieresLiees b t)).length ≤ S.maxIn := by
  let p : CreationDevoirPage := { enseignantUtilisateurId := u, etablissementId := e }
  have hfin : (Prog.bind CreationDevoirPage.chargerEnseignantEtClasses fun _ =>
      CreationDevoirPage.chargerMatieresPourClasse c).Ends S.handler (fun a q _ =>
        (q.messages = [] ∧ Charge b t c a (q.matieres.map Prod.fst)) ↔
          ((matieresDeClasse b c).filter (· ∈ matieresLiees b t)).length ≤ S.maxIn) p b := by
    rw [ends_bind]
    refine (ends_chargerEnseignantEtClasses (p := p) hb ht hc).mono ?_
    rintro a q b' ⟨rfl, hq, rfl, hids⟩
    rw [← hids]
    refine (ends_chargerMatieresPourClasse (S := S) (c := c) q).mono ?_
    rintro a r b'' ⟨rfl, ⟨hlen, hr, hnodup, hmem⟩ | ⟨hlen, hr⟩⟩
    · refine iff_of_true ⟨hr.trans hq, rfl, hnodup, fun m => ?_⟩ hlen
      rw [hmem, hids, List.mem_filter, decide_eq_true_eq]
      constructor
      · rintro ⟨⟨hclasse, hm⟩, hd⟩
        exact ⟨hclasse, hm, hd⟩
      · exact fun h => ⟨⟨h.classe, h.enseignee⟩, h.existe⟩
    · exact iff_of_false (fun h => hr h.1) (not_le_of_gt hlen)
  exact hfin

end Devoir

/-! ## The three pages -/

/-- The three pages offer the existing subjects of the class that the teacher teaches, each once,
and none of the loads fails. -/
structure MemesMatieres (S : Server) (b : Base) (e u t c : String) : Prop where
  appel : Charge b t c (chargementAppel S b e u c).1
    ((chargementAppel S b e u c).2.1.matieres.map Matiere.id)
  notes : Charge b t c (chargementNotes S b e u c).1
    ((chargementNotes S b e u c).2.1.matieres.map Matiere.id)
  devoir : Charge b t c (chargementDevoir S b e u c).1
    ((chargementDevoir S b e u c).2.1.matieres.map Prod.fst)
  sans_message : (chargementDevoir S b e u c).2.1.messages = []

theorem memesMatieres_iff (S : Server) {b : Base} (hb : EcoleLisible b) {e u t c : String}
    (ht : enseignantDe b u = some t) (hc : ClasseDe b e t c) :
    MemesMatieres S b e u t c ↔ Simples S.maxIn b t c := by
  have happel := charge_appel_iff S hb ht hc
  have hnotes := charge_notes_iff S hb ht hc
  have hdevoir := charge_devoir_iff S hb ht hc
  constructor
  · intro h
    obtain ⟨hexiste, hnodup⟩ := happel.mp h.appel
    exact ⟨hexiste, hnodup, hdevoir.mp ⟨h.sans_message, h.devoir⟩⟩
  · intro h
    obtain ⟨hmessages, hd⟩ := hdevoir.mpr h.length_le
    exact ⟨happel.mpr ⟨h.existe, h.nodup⟩, hnotes.mpr ⟨h.existe, h.nodup⟩, hd, hmessages⟩

/-- **The subjects of the three pages.**  Whatever has been linked, edited and deleted, the pages
offer a class of the teacher the same subjects exactly if his links to its subjects are simple. -/
theorem memesMatieres_retoucher_iff (S : Server) {b : Base} (hb : EcoleLisible b)
    (rs : List Retouche) {e u t c : String} (ht : enseignantDe (retoucher S b rs) u = some t)
    (hc : ClasseDe (retoucher S b rs) e t c) :
    MemesMatieres S (retoucher S b rs) e u t c ↔ Simples S.maxIn (retoucher S b rs) t c :=
  memesMatieres_iff S (hb.retoucher rs) ht hc

/-! ### A subject linked twice -/

/-- A school with one teacher. -/
def ecoleDuProf : Base := baseVide.putDoc .enseignants "t" (newDoc 0 [texte .utilisateurId "u"])

theorem lisible_ecoleDuProf : EcoleLisible ecoleDuProf := by
  have hvide : EcoleLisible baseVide := fun c id d hd => by cases hd
  exact fun c => (hvide c).putDoc fun hc => by subst hc; trivial

/-- The page of the class `c`, as it was created. -/
def pageClasse : ClasseDetail where
  classeId := "c"
  classeData := some (newDoc 0
    [texte .nom "A", texte .niveau "6e", texte .etablissementId "E", textes .matieresIds [],
      textes .elevesIds [], textes .enseignantsIds []])

/-- A class with a subject and the teacher. -/
def ouverture : List Retouche :=
  [.ajouterClasse { etablissementId := "E", nom := "A", niveauSelectionne := some "6e" } "c",
    .enregistrerMatiere
      { etablissementId := "E", nom := "Maths", coefficient := "2", description := "M" } "m",
    .toggleElement pageClasse .matieres "m" true, .toggleElement pageClasse .enseignants "t" true]

/-- The subject tapped in `LierEnseignantMatierePage`. -/
def lienMaths : Retouche :=
  .lierMatiere ⟨"u", []⟩ ⟨"m", "Maths", .finite 2, "M", "E"⟩

theorem memesMatieres_lienMaths : MemesMatieres (Server.longest 10)
    (retoucher (Server.longest 10) ecoleDuProf (ouverture ++ [lienMaths])) "E" "u" "t" "c" :=
  (memesMatieres_retoucher_iff (Server.longest 10) lisible_ecoleDuProf (ouverture ++ [lienMaths])
    (by decide +kernel) (by decide +kernel)).mpr (by decide +kernel)

/-- Two links to one subject: the roll-call page offers it twice. -/
theorem matiere_offerte_deux_fois :
    let b := retoucher (Server.longest 10) ecoleDuProf (ouverture ++ [lienMaths, lienMaths])
    enseignantDe b "u" = some "t" ∧ ClasseDe b "E" "t" "c" ∧
      ¬MemesMatieres (Server.longest 10) b "E" "u" "t" "c" := by
  refine ⟨by decide +kernel, by decide +kernel, fun h => ?_⟩
  have hmatieres : (chargementAppel (Server.longest 10) (retoucher (Server.longest 10) ecoleDuProf
      (ouverture ++ [lienMaths, lienMaths])) "E" "u" "c").2.1.matieres.map Matiere.id =
        ["m", "m"] := by
    decide +kernel
  have hnodup := h.appel.nodup
  rw [hmatieres] at hnodup
  exact absurd hnodup (by decide)

end EduConnect.Enseignant
