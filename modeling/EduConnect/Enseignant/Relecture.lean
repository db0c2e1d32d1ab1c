import EduConnect.Enseignant.Affichage

/-!
# Grades read back

`_enregistrerNotes` writes the documents of `notes` by hand, with the id of the subject in
`matiereId`.  `DepotNote` decodes them with `NoteModele.fromMap`, which wants the subject itself, as
a map in `matiere`.
-/

namespace EduConnect.Enseignant

open Lib Prog NotesPage Donnees

/-! ## The repository -/

namespace DepotNote

/-- `DepotNote.getNotesParEleve`. -/
def getNotesParEleve (eleveId : String) : Action Unit Unit (List NoteModele) := do
  let snapshot ← chercher () .notes [.isEqualTo .eleveId (.str eleveId)]
  ofExcept (snapshot.mapM fun doc => NoteModele.fromMap doc.2)

end DepotNote

/-- The grades stored for a student. -/
def notesDe (b : Base) (e : String) : List (String × Document) :=
  (b.docs .notes).rows.filter fun row => (row.2.get .eleveId).isStr e

/-- The model has what the document holds. -/
structure Lue (d : Document) (n : NoteModele) : Prop where
  valeur : d .valeur = some (.num n.valeur)
  type : d .type = some (.str n.type)
  mention : d .mention = some (.str n.mention)
  eleveId : d .eleveId = some (.str n.eleveId)
  matiere : d .matiereId = some (.str n.matiere.id)

/-- The grades of a student are read back, one model for each document. -/
def Relues (S : Server) (b : Base) (e : String) : Prop :=
  ∃ notes, ((DepotNote.getNotesParEleve e).exec S.handler () b).1 = .ok notes ∧
    ∃ rows, rows.Perm (notesDe b e) ∧ List.Forall₂ (fun row n => Lue row.2 n) rows notes

/-! ## What saves produce -/

/-- The data whose grades all come from saves that succeeded. -/
inductive Produite (S : Server) : Base → Prop
  | vide {b : Base} (hb : b.docs .notes = Table.empty) : Produite S b
  | enregistrer {b : Base} (p : NotesPage) (h : Horloge) (hb : Produite S b)
    (hok : Annonce p ((enregistrerNotes h).exec S.handler p b).2.1) :
    Produite S ((enregistrerNotes h).exec S.handler p b).2.2
  | autre {b b' : Base} (hb : Produite S b) (hnotes : b'.docs .notes = b.docs .notes) :
    Produite S b'

section Relectures

variable {S : Server} {b : Base} {e : String}

/-- No grade holds its subject. -/
theorem Produite.matiere_eq_none (hb : Produite S b) {id : String} {d : Document}
    (hd : b.doc .notes id = some d) : d .matiere = none := by
  induction hb generalizing id d with
  | vide hb =>
    unfold Data.doc at hd
    rw [hb, Table.find_empty] at hd
    cases hd
  | enregistrer p h hb hok ih =>
    obtain ⟨x, ts, -, -, -, -, hts⟩ := parcouru_of_annonce hok
    rcases hts.bilan.notes.doc_iff.mp hd with hold | hnew
    · exact ih hold
    · obtain ⟨t, -, v, id', -, hrow⟩ := mem_notes_effetsDe.mp hnew
      obtain ⟨rfl, rfl⟩ := Prod.mk.inj hrow
      rw [newDoc_note _ _ _ _ _ _ _ (by decide) (by decide)]
      exact writeFields_of_not_mem (by simp [texte])
  | autre hb hnotes ih =>
    unfold Data.doc at hd
    rw [hnotes] at hd
    exact ih hd

/-- A document without a subject is not decoded. -/
theorem fromMap_sans_matiere {d : Document} (hd : d .matiere = none) (n : NoteModele) :
    NoteModele.fromMap d ≠ .ok n := by
  have hget : d.get .matiere = .null := by
    unfold Doc.get
    rw [hd]
    rfl
  intro hn
  unfold NoteModele.fromMap at hn
  rw [hget] at hn
  rcases hvaleur : (d.get .valeur).orDouble (.finite 0) with e | valeur
  · rw [hvaleur] at hn
    cases hn
  rcases htype : (d.get .type).orStr "" with e | type
  · rw [hvaleur, htype] at hn
    cases hn
  rcases hmention : (d.get .mention).orStr "" with e | mention
  · rw [hvaleur, htype, hmention] at hn
    cases hn
  rcases heleve : (d.get .eleveId).orStr "" with e | eleveId
  · rw [hvaleur, htype, hmention, heleve] at hn
    cases hn
  · rw [hvaleur, htype, hmention, heleve] at hn
    cases hn

theorem getNotesParEleve_eq (S : Server) (b : Base) (e : String) :
    ((DepotNote.getNotesParEleve e).exec S.handler () b).1 =
      (notesDe b e).mapM fun doc => NoteModele.fromMap doc.2 := by
  have hrows : (⟨[.isEqualTo .eleveId (.str e)], none, none⟩ : Query Champ).run (b.docs .notes) =
      notesDe b e := by
    refine List.filter_congr fun row _ => Bool.eq_iff_iff.mpr ?_
    rw [List.all_cons, List.all_nil, Bool.and_true, Filter.sat_isEqualTo_str, Doc.isStr_get_iff]
  unfold DepotNote.getNotesParEleve
  rw [bind_eq, exec_bind, (runs_chercher_egal (S := S) (s := ()) (b := b) () .notes .eleveId
    (.str e)).exec, hrows]
  show (Prog.exec S.handler (Prog.ofExcept _) () b).1 = _
  generalize ((notesDe b e).mapM fun doc => NoteModele.fromMap doc.2) = notes
  cases notes <;> rfl

/-- **Grades read back.**  When all grades come from saves, those of a student are read back if and
only if he has none. -/
theorem relues_iff (hb : Produite S b) :
    Relues S b e ↔ ∀ id d, b.doc .notes id = some d → d .eleveId ≠ some (.str e) := by
  have hmem : ∀ id d, (id, d) ∈ notesDe b e ↔
      b.doc .notes id = some d ∧ d .eleveId = some (.str e) := by
    intro id d
    unfold notesDe Data.doc
    rw [List.mem_filter, Doc.isStr_get_iff, Table.find_eq_some_iff]
  unfold Relues
  rw [getNotesParEleve_eq]
  constructor
  · rintro ⟨notes, hnotes, -⟩ id d hd heleve
    obtain ⟨n, -, hn⟩ := exists_mem_of_mapM hnotes ((hmem id d).mpr ⟨hd, heleve⟩)
    exact fromMap_sans_matiere (hb.matiere_eq_none hd) n hn
  · intro hnone
    have hempty : notesDe b e = [] := by
      refine List.eq_nil_iff_forall_not_mem.mpr fun row hrow => ?_
      obtain ⟨hd, heleve⟩ := (hmem row.1 row.2).mp hrow
      exact hnone row.1 row.2 hd heleve
    rw [hempty]
    exact ⟨[], rfl, [], .refl _, .nil⟩

end Relectures

/-! ### One grade -/

/-- `a` got 12. -/
def uneNote : Base := ((enregistrerNotes horlogeZero).exec (Server.longest 10).handler
  (pageRemplie deuxEleves 0) deuxEleves).2.2

theorem produite_uneNote : Produite (Server.longest 10) uneNote := by
  refine .enregistrer (pageRemplie deuxEleves 0) horlogeZero (.vide rfl) ?_
  show _ = _
  decide +kernel

theorem relues_uneNote : Relues (Server.longest 10) uneNote "b" := by
  refine (relues_iff produite_uneNote).mpr fun id d hd heleve => ?_
  have hnone : ((uneNote.docs .notes).rows.all fun row => !(row.2.get .eleveId).isStr "b") = true := by
    decide +kernel
  have hrow := List.all_eq_true.mp hnone (id, d) (Table.find_eq_some_iff.mp hd)
  rw [Doc.isStr_get_iff.mpr heleve] at hrow
  cases hrow

/-- The grade of `a` is stored, and its decoding fails. -/
theorem not_relues_uneNote : Produite (Server.longest 10) uneNote ∧
    ¬Relues (Server.longest 10) uneNote "a" := by
  refine ⟨produite_uneNote, ?_⟩
  rintro ⟨notes, hnotes, -⟩
  have herror : (match ((DepotNote.getNotesParEleve "a").exec (Server.longest 10).handler ()
      uneNote).1 with
    | .ok _ => false
    | .error _ => true) = true := by
    decide +kernel
  rw [hnotes] at herror
  cases herror

end EduConnect.Enseignant
