import EduConnect.Enseignant.Notes
import EduConnect.Lignes
import Mathlib.Data.List.ReduceOption

/-!
# The whole class

`AppelPage._chargerEleves` and `NotesPage._chargerEleves` both load the students of the chosen
class, and each reads fields the other does not.  A student is shown when his record and the account
it names are stored; a field that is not there stops the load of the whole class.
-/

namespace EduConnect.Enseignant

open Lib Prog

/-! ## What the load of a student gives -/

/-- The record of a student, the account it names and the document of this account. -/
def compteDe (b : Base) (id : String) : Except Err (Option (Document × String × Document)) :=
  if id = "" then .error .invalidArgument
  else match b.doc .eleves id with
    | none => .ok none
    | some eDoc =>
      match (eDoc.field .utilisateurId).bind AppelPage.reference with
      | .error e => .error e
      | .ok none => .ok none
      | .ok (some uId) => .ok ((b.doc .utilisateurs uId).map fun uDoc => (eDoc, uId, uDoc))

/-- What a load answers for a student, whose row is made by `ligne`. -/
def lectureEleve {α : Type} (b : Base)
    (ligne : String → Document → String → Document → Except Err α) (id : String) :
    Except Err (Option α) :=
  match compteDe b id with
  | .error e => .error e
  | .ok none => .ok none
  | .ok (some (eDoc, uId, uDoc)) => (ligne id eDoc uId uDoc).map some

/-- The row of the roll call. -/
def AppelPage.ligne (id : String) (_eDoc : Document) (_uId : String) (uDoc : Document) :
    Except Err Eleve := do
  let prenom ← uDoc.field .prenom
  let nom ← uDoc.field .nom
  let _ ← uDoc.field .photo
  return ⟨id, prenom, nom⟩

/-- The row of the grades. -/
def NotesPage.ligne (id : String) (eDoc : Document) (uId : String) (uDoc : Document) :
    Except Err EleveAvecNom := do
  let nom ← (uDoc.field .nom).bind (Value.orStr "Nom inconnu")
  let prenom ← (uDoc.field .prenom).bind (Value.orStr "")
  let notesIds ← (eDoc.field .notesIds).bind Value.orStrs
  return ⟨id, uId, nom, prenom, notesIds⟩

/-- The record of the student and the account it names are both stored. -/
def estPresent (b : Base) (id : String) : Bool :=
  match b.doc .eleves id with
  | none => false
  | some eDoc =>
    match eDoc .utilisateurId with
    | some (.str uId) => (b.doc .utilisateurs uId).isSome
    | _ => false

/-- The students of the roster that a page is to show, in its order. -/
def presentsDeClasse (b : Base) (classeId : String) : List String :=
  (elevesDeClasse b classeId).filter (estPresent b)

section Compte

variable {b : Base} {id : String} {v : Valeur}

theorem reference_eq_none : AppelPage.reference v = .ok none ↔ v = .null := by
  unfold AppelPage.reference
  split <;> simp_all

theorem reference_eq_some {uId : String} :
    AppelPage.reference v = .ok (some uId) ↔ uId ≠ "" ∧ v = .str uId := by
  unfold AppelPage.reference
  split
  · simp
  · refine iff_of_false (fun h => nomatch h) fun h => ?_
    exact h.1 (Value.str.inj h.2).symm
  · rename_i s hs
    constructor
    · intro h
      obtain rfl := Option.some.inj (Except.ok.inj h)
      exact ⟨fun hvide => hs (hvide ▸ rfl), rfl⟩
    · rintro ⟨-, h⟩
      rw [Value.str.inj h]
  · rename_i hs
    exact iff_of_false (fun h => nomatch h) fun h => hs uId h.2

/-- What the load of a student finds when it goes through. -/
inductive CompteTrouve (b : Base) (id : String) : Option (Document × String × Document) → Prop where
  | inconnu : b.doc .eleves id = none → CompteTrouve b id none
  | sansCompte {eDoc : Document} : b.doc .eleves id = some eDoc →
      eDoc .utilisateurId = some .null → CompteTrouve b id none
  | compte {eDoc : Document} {uId : String} : b.doc .eleves id = some eDoc → uId ≠ "" →
      eDoc .utilisateurId = some (.str uId) →
        CompteTrouve b id ((b.doc .utilisateurs uId).map fun uDoc => (eDoc, uId, uDoc))

theorem compteDe_eq_ok_iff {r : Option (Document × String × Document)} :
    compteDe b id = .ok r ↔ id ≠ "" ∧ CompteTrouve b id r := by
  unfold compteDe
  by_cases hid : id = ""
  · rw [if_pos hid]
    exact iff_of_false (fun h => nomatch h) fun h => h.1 hid
  rw [if_neg hid, and_iff_right hid]
  constructor
  · intro h
    rcases hd : b.doc .eleves id with _ | eDoc
    · rw [hd] at h
      obtain rfl := Except.ok.inj h
      exact .inconnu hd
    rw [hd] at h
    dsimp only [Doc.field] at h
    rcases hu : eDoc .utilisateurId with _ | v
    · rw [hu] at h
      cases h
    rw [hu] at h
    dsimp only [Except.bind] at h
    rcases href : AppelPage.reference v with e | _ | uId
    · rw [href] at h
      cases h
    · rw [href] at h
      obtain rfl := Except.ok.inj h
      rw [reference_eq_none.mp href] at hu
      exact .sansCompte hd hu
    · rw [href] at h
      obtain rfl := Except.ok.inj h
      obtain ⟨hne, rfl⟩ := reference_eq_some.mp href
      exact .compte hd hne hu
  · rintro (hd | ⟨hd, hu⟩ | ⟨hd, hne, hu⟩)
    · rw [hd]
    · rw [hd]
      dsimp only [Doc.field]
      rw [hu]
      rfl
    · rw [hd]
      dsimp only [Doc.field]
      rw [hu]
      dsimp only [Except.bind]
      rw [reference_eq_some.mpr ⟨hne, rfl⟩]

/-- A student is shown when his record and his account are stored. -/
theorem isSome_compteDe {r : Option (Document × String × Document)} (h : compteDe b id = .ok r) :
    r.isSome = estPresent b id := by
  unfold estPresent
  rcases (compteDe_eq_ok_iff.mp h).2 with hd | ⟨hd, hu⟩ | ⟨hd, -, hu⟩
  · rw [hd]
    rfl
  · rw [hd]
    dsimp only
    rw [hu]
    rfl
  · rw [hd]
    dsimp only
    rw [hu, Option.isSome_map]

end Compte

section Lecture

variable {b : Base} {id : String} {α : Type}
  {ligne : String → Document → String → Document → Except Err α}

theorem exists_lectureEleve_iff : (∃ r, lectureEleve b ligne id = .ok r) ↔
    (∃ r, compteDe b id = .ok r) ∧ ∀ eDoc uId uDoc, compteDe b id = .ok (some (eDoc, uId, uDoc)) →
      ∃ a, ligne id eDoc uId uDoc = .ok a := by
  unfold lectureEleve
  rcases compteDe b id with e | _ | ⟨eDoc, uId, uDoc⟩
  · exact iff_of_false (fun h => nomatch h) fun h => nomatch h.1
  · exact iff_of_true ⟨none, rfl⟩ ⟨⟨none, rfl⟩, fun _ _ _ h => nomatch h⟩
  · constructor
    · rintro ⟨r, hr⟩
      refine ⟨⟨_, rfl⟩, fun eDoc' uId' uDoc' h => ?_⟩
      cases h
      dsimp only at hr
      rcases ha : ligne id eDoc uId uDoc with e | a
      · rw [ha] at hr
        cases hr
      · exact ⟨a, rfl⟩
    · rintro ⟨-, h⟩
      obtain ⟨a, ha⟩ := h _ _ _ rfl
      refine ⟨some a, ?_⟩
      dsimp only
      rw [ha]
      rfl

theorem map_lectureEleve {clef : α → String}
    (hclef : ∀ id e u d a, ligne id e u d = .ok a → clef a = id) {r : Option α}
    (h : lectureEleve b ligne id = .ok r) :
    r.map clef = if estPresent b id then some id else none := by
  unfold lectureEleve at h
  rcases hc : compteDe b id with e | c
  · rw [hc] at h
    cases h
  rw [hc] at h
  rw [← isSome_compteDe hc]
  rcases c with _ | ⟨eDoc, uId, uDoc⟩
  · obtain rfl := Except.ok.inj h
    rfl
  · dsimp only at h
    rcases ha : ligne id eDoc uId uDoc with e | a
    · rw [ha] at h
      cases h
    · rw [ha] at h
      obtain rfl := Except.ok.inj h
      exact congrArg some (hclef _ _ _ _ _ ha)

/-- The rows of a roster that is loaded are those of the students to show. -/
theorem map_reduceOption_lectures {clef : α → String}
    (hclef : ∀ id e u d a, ligne id e u d = .ok a → clef a = id) {ids : List String}
    {rs : List (Option α)} (h : ids.mapM (lectureEleve b ligne) = .ok rs) :
    rs.reduceOption.map clef = ids.filter (estPresent b) := by
  induction ids generalizing rs with
  | nil =>
    obtain rfl := Except.ok.inj h
    rfl
  | cons id ids ih =>
    obtain ⟨r, rs', hr, hrs, rfl⟩ := mapM_cons_eq_ok_iff.mp h
    have hmap := map_lectureEleve hclef hr
    rcases r with _ | a
    · rw [List.reduceOption_cons_of_none, ih hrs]
      by_cases hp : estPresent b id = true
      · rw [if_pos hp] at hmap
        cases hmap
      · rw [List.filter_cons_of_neg hp]
    · rw [List.reduceOption_cons_of_some, List.map_cons, ih hrs]
      by_cases hp : estPresent b id = true
      · rw [if_pos hp] at hmap
        rw [List.filter_cons_of_pos hp, Option.some.inj hmap]
      · rw [if_neg hp] at hmap
        cases hmap

end Lecture

/-! ## The two loads -/

section Chargements

variable {S : Server} {b : Base} {id : String}

/-- The load of a student, up to the fields of which `suite` makes his row. -/
def lireEleve {Λ σ α : Type} (l l' : Λ) (suite : Document → String → Document → Action Λ σ (Option α))
    (id : String) : Action Λ σ (Option α) := do
  match ← lireDoc l .eleves id with
  | none => return none
  | some eDoc =>
    match ← ofExcept ((eDoc.field .utilisateurId).bind AppelPage.reference) with
    | none => return none
    | some uId =>
      match ← lire l' .utilisateurs uId with
      | none => return none
      | some uDoc => suite eDoc uId uDoc

theorem exec_lireEleve {Λ σ α : Type} {l l' : Λ}
    {suite : Document → String → Document → Action Λ σ (Option α)}
    {ligne : String → Document → String → Document → Except Err α} {p : σ}
    (hsuite : ∀ eDoc uId uDoc,
      (suite eDoc uId uDoc).exec S.handler p b = ((ligne id eDoc uId uDoc).map some, p, b)) :
    (lireEleve l l' suite id).exec S.handler p b = (lectureEleve b ligne id, p, b) := by
  unfold lireEleve lectureEleve compteDe lireDoc
  by_cases hid : id = ""
  · rw [if_pos hid, if_pos hid]
    rfl
  rw [if_neg hid, if_neg hid, Prog.bind_eq, exec_lire_bind]
  rcases b.doc .eleves id with _ | eDoc
  · rfl
  dsimp only
  rw [Prog.bind_eq, exec_ofExcept_bind]
  rcases (eDoc.field .utilisateurId).bind AppelPage.reference with e | _ | uId
  · rfl
  · rfl
  dsimp only
  rw [Prog.bind_eq, exec_lire_bind]
  rcases b.doc .utilisateurs uId with _ | uDoc
  · rfl
  · exact hsuite eDoc uId uDoc

theorem exec_chargerEleve_appel (classeId : String) (p : AppelPage) :
    (AppelPage.chargerEleve classeId id).exec S.handler p b =
      (lectureEleve b AppelPage.ligne id, p, b) := by
  refine exec_lireEleve fun eDoc uId uDoc => ?_
  unfold AppelPage.ligne
  rcases uDoc.field .prenom with e | prenom
  · rfl
  rcases uDoc.field .nom with e | nom
  · rfl
  rcases uDoc.field .photo with e | photo <;> rfl

theorem exec_chargerEleve_notes (p : NotesPage) :
    (NotesPage.chargerEleve id).exec S.handler p b =
      (lectureEleve b NotesPage.ligne id, p, b) := by
  refine exec_lireEleve fun eDoc uId uDoc => ?_
  unfold NotesPage.ligne
  rcases (uDoc.field .nom).bind (Value.orStr "Nom inconnu") with e | nom
  · rfl
  rcases (uDoc.field .prenom).bind (Value.orStr "") with e | prenom
  · rfl
  rcases (eDoc.field .notesIds).bind Value.orStrs with e | notesIds <;> rfl

theorem exec_chargerTous_appel (classeId : String) (ids : List String) (p : AppelPage) :
    (AppelPage.chargerTous classeId ids).exec S.handler p b =
      (ids.mapM (lectureEleve b AppelPage.ligne), p, b) :=
  exec_mapM (AppelPage.chargerTous classeId) rfl (fun _ _ => rfl)
    (fun _ => exec_chargerEleve_appel classeId p) ids

theorem exec_chargerTous_notes (ids : List String) (p : NotesPage) :
    (NotesPage.chargerTous ids).exec S.handler p b =
      (ids.mapM (lectureEleve b NotesPage.ligne), p, b) :=
  exec_mapM NotesPage.chargerTous rfl (fun _ _ => rfl) (fun _ => exec_chargerEleve_notes p) ids

/-! What the documents must have. -/

/-- The field is there, a string or null. -/
def TexteLu (d : Document) (f : Champ) : Prop :=
  ∃ v, d f = some v ∧ (v = .null ∨ ∃ s, v = .str s)

/-- The field is there, a list of strings or null. -/
def ListeLue (d : Document) (f : Champ) : Prop :=
  ∃ v, d f = some v ∧ (v = .null ∨ ∃ l, v = .strs l)

/-- The record of a student and the document of his account have what the two pages show. -/
structure FicheComplete (eDoc uDoc : Document) : Prop where
  prenom : TexteLu uDoc .prenom
  nom : TexteLu uDoc .nom
  photo : (uDoc .photo).isSome
  notesIds : ListeLue eDoc .notesIds

/-- A student of a roster who stops neither load. -/
structure EleveLisible (b : Base) (id : String) : Prop where
  nomme : id ≠ ""
  compte : ∀ eDoc, b.doc .eleves id = some eDoc → eDoc .utilisateurId = some .null ∨
    ∃ uId, uId ≠ "" ∧ eDoc .utilisateurId = some (.str uId)
  fiche : ∀ eDoc uId uDoc, b.doc .eleves id = some eDoc → eDoc .utilisateurId = some (.str uId) →
    b.doc .utilisateurs uId = some uDoc → FicheComplete eDoc uDoc

/-- The class is stored, with its roster. -/
def AvecRoster (b : Base) (classeId : String) : Prop :=
  classeId ≠ "" ∧ ∃ d, b.doc .classes classeId = some d ∧ ListeLue d .elevesIds

theorem exists_field_orStrs_iff {d : Document} {f : Champ} :
    (∃ l, (d.field f).bind Value.orStrs = .ok l) ↔ ListeLue d f := by
  unfold Doc.field ListeLue
  rcases d f with _ | v
  · exact iff_of_false (fun h => nomatch h) fun h => nomatch h
  · refine exists_orStrs_iff.trans ⟨fun h => ⟨v, rfl, h⟩, ?_⟩
    rintro ⟨w, hw, h⟩
    obtain rfl := Option.some.inj hw
    exact h

theorem exists_field_orStr_iff {d : Document} {f : Champ} (defaut : String) :
    (∃ s, (d.field f).bind (Value.orStr defaut) = .ok s) ↔ TexteLu d f := by
  unfold Doc.field TexteLu
  rcases d f with _ | v
  · exact iff_of_false (fun h => nomatch h) fun h => nomatch h
  constructor
  · rintro ⟨s, hs⟩
    refine ⟨v, rfl, ?_⟩
    cases v with
    | null => exact .inl rfl
    | str t => exact .inr ⟨t, rfl⟩
    | _ => cases hs
  · rintro ⟨w, hw, h⟩
    obtain rfl := Option.some.inj hw
    rcases h with rfl | ⟨t, rfl⟩
    · exact ⟨defaut, rfl⟩
    · exact ⟨t, rfl⟩

theorem exists_ligne_appel_iff {eDoc uDoc : Document} {uId : String} :
    (∃ a, AppelPage.ligne id eDoc uId uDoc = .ok a) ↔
      (uDoc .prenom).isSome ∧ (uDoc .nom).isSome ∧ (uDoc .photo).isSome := by
  unfold AppelPage.ligne Doc.field
  rcases uDoc .prenom with _ | prenom
  · exact iff_of_false (fun h => nomatch h) fun h => nomatch h.1
  rcases uDoc .nom with _ | nom
  · exact iff_of_false (fun h => nomatch h) fun h => nomatch h.2.1
  rcases uDoc .photo with _ | photo
  · exact iff_of_false (fun h => nomatch h) fun h => nomatch h.2.2
  · exact iff_of_true ⟨_, rfl⟩ ⟨rfl, rfl, rfl⟩

theorem eleveId_ligne_appel {eDoc uDoc : Document} {uId : String} {a : Eleve}
    (h : AppelPage.ligne id eDoc uId uDoc = .ok a) : a.eleveId = id := by
  unfold AppelPage.ligne at h
  obtain ⟨prenom, -, h⟩ := bind_eq_ok_iff.mp h
  obtain ⟨nom, -, h⟩ := bind_eq_ok_iff.mp h
  obtain ⟨photo, -, h⟩ := bind_eq_ok_iff.mp h
  obtain rfl := Except.ok.inj h
  rfl

theorem eleveId_ligne_notes {eDoc uDoc : Document} {uId : String} {a : EleveAvecNom}
    (h : NotesPage.ligne id eDoc uId uDoc = .ok a) : a.eleveId = id := by
  unfold NotesPage.ligne at h
  obtain ⟨nom, -, h⟩ := bind_eq_ok_iff.mp h
  obtain ⟨prenom, -, h⟩ := bind_eq_ok_iff.mp h
  obtain ⟨notesIds, -, h⟩ := bind_eq_ok_iff.mp h
  obtain rfl := Except.ok.inj h
  rfl

theorem exists_ligne_notes_iff {eDoc uDoc : Document} {uId : String} :
    (∃ a, NotesPage.ligne id eDoc uId uDoc = .ok a) ↔
      TexteLu uDoc .nom ∧ TexteLu uDoc .prenom ∧ ListeLue eDoc .notesIds := by
  unfold NotesPage.ligne
  rw [← exists_field_orStr_iff "Nom inconnu", ← exists_field_orStr_iff "",
    ← exists_field_orStrs_iff]
  rcases (uDoc.field .nom).bind (Value.orStr "Nom inconnu") with e | nom
  · exact iff_of_false (fun h => nomatch h) fun h => nomatch h.1
  rcases (uDoc.field .prenom).bind (Value.orStr "") with e | prenom
  · exact iff_of_false (fun h => nomatch h) fun h => nomatch h.2.1
  rcases (eDoc.field .notesIds).bind Value.orStrs with e | notesIds
  · exact iff_of_false (fun h => nomatch h) fun h => nomatch h.2.2
  · exact iff_of_true ⟨_, rfl⟩ ⟨⟨_, rfl⟩, ⟨_, rfl⟩, ⟨_, rfl⟩⟩

theorem exists_compteDe_iff : (∃ r, compteDe b id = .ok r) ↔ id ≠ "" ∧ ∀ eDoc,
    b.doc .eleves id = some eDoc → eDoc .utilisateurId = some .null ∨
      ∃ uId, uId ≠ "" ∧ eDoc .utilisateurId = some (.str uId) := by
  constructor
  · rintro ⟨r, hr⟩
    obtain ⟨hid, h⟩ := compteDe_eq_ok_iff.mp hr
    refine ⟨hid, fun eDoc hd => ?_⟩
    rcases h with hd' | ⟨hd', hu⟩ | ⟨hd', hne, hu⟩
    · cases hd.symm.trans hd'
    · cases hd.symm.trans hd'
      exact .inl hu
    · cases hd.symm.trans hd'
      exact .inr ⟨_, hne, hu⟩
  · rintro ⟨hid, h⟩
    rcases hd : b.doc .eleves id with _ | eDoc
    · exact ⟨none, compteDe_eq_ok_iff.mpr ⟨hid, .inconnu hd⟩⟩
    · rcases h eDoc hd with hu | ⟨uId, hne, hu⟩
      · exact ⟨none, compteDe_eq_ok_iff.mpr ⟨hid, .sansCompte hd hu⟩⟩
      · exact ⟨_, compteDe_eq_ok_iff.mpr ⟨hid, .compte hd hne hu⟩⟩

theorem compteDe_eq_some_iff {eDoc uDoc : Document} {uId : String} :
    compteDe b id = .ok (some (eDoc, uId, uDoc)) ↔ id ≠ "" ∧ b.doc .eleves id = some eDoc ∧
      uId ≠ "" ∧ eDoc .utilisateurId = some (.str uId) ∧ b.doc .utilisateurs uId = some uDoc := by
  rw [compteDe_eq_ok_iff]
  refine and_congr_right fun _ => ?_
  constructor
  · intro h
    generalize hr : some (eDoc, uId, uDoc) = r at h
    rcases h with hd | ⟨hd, hu⟩ | ⟨hd, hne, hu⟩
    · cases hr
    · cases hr
    · obtain ⟨d, hdoc, heq⟩ := Option.map_eq_some_iff.mp hr.symm
      cases heq
      exact ⟨hd, hne, hu, hdoc⟩
  · rintro ⟨hd, hne, hu, hdoc⟩
    have h := CompteTrouve.compte hd hne hu
    rw [hdoc] at h
    exact h

/-- Neither load stops at a student exactly when his documents have what the pages show. -/
theorem eleveLisible_iff : EleveLisible b id ↔ (∃ r, lectureEleve b AppelPage.ligne id = .ok r) ∧
    ∃ r, lectureEleve b NotesPage.ligne id = .ok r := by
  rw [exists_lectureEleve_iff, exists_lectureEleve_iff, exists_compteDe_iff]
  constructor
  · rintro ⟨hid, hcompte, hfiche⟩
    refine ⟨⟨⟨hid, hcompte⟩, fun eDoc uId uDoc h => ?_⟩, ⟨hid, hcompte⟩, fun eDoc uId uDoc h => ?_⟩
    · obtain ⟨-, hd, -, hu, hdoc⟩ := compteDe_eq_some_iff.mp h
      obtain ⟨⟨_, hprenom, -⟩, ⟨_, hnom, -⟩, hphoto, -⟩ := hfiche _ _ _ hd hu hdoc
      refine exists_ligne_appel_iff.mpr ⟨?_, ?_, hphoto⟩
      · rw [hprenom]
        rfl
      · rw [hnom]
        rfl
    · obtain ⟨-, hd, -, hu, hdoc⟩ := compteDe_eq_some_iff.mp h
      obtain ⟨hprenom, hnom, -, hnotes⟩ := hfiche _ _ _ hd hu hdoc
      exact exists_ligne_notes_iff.mpr ⟨hnom, hprenom, hnotes⟩
  · rintro ⟨⟨⟨hid, hcompte⟩, happel⟩, -, hnotes⟩
    refine ⟨hid, hcompte, fun eDoc uId uDoc hd hu hdoc => ?_⟩
    have hne : uId ≠ "" := by
      rcases hcompte eDoc hd with h | ⟨u, hne, h⟩
      · cases hu.symm.trans h
      · cases hu.symm.trans h
        exact hne
    have hc := compteDe_eq_some_iff.mpr ⟨hid, hd, hne, hu, hdoc⟩
    obtain ⟨-, -, hphoto⟩ := exists_ligne_appel_iff.mp (happel _ _ _ hc)
    obtain ⟨hnom, hprenom, hlues⟩ := exists_ligne_notes_iff.mp (hnotes _ _ _ hc)
    exact ⟨hprenom, hnom, hphoto, hlues⟩

theorem exists_elevesIds_iff {classeId : String} :
    (∃ ids, AppelPage.elevesIds (b.doc .classes classeId) = .ok ids) ↔
      ∃ d, b.doc .classes classeId = some d ∧ ListeLue d .elevesIds := by
  unfold AppelPage.elevesIds champ
  rcases b.doc .classes classeId with _ | d
  · exact iff_of_false (fun h => nomatch h) fun h => nomatch h
  · refine exists_field_orStrs_iff.trans ⟨fun h => ⟨d, rfl, h⟩, ?_⟩
    rintro ⟨d', hd, h⟩
    obtain rfl := Option.some.inj hd
    exact h

theorem elevesIds_eq {classeId : String} {ids : List String}
    (h : AppelPage.elevesIds (b.doc .classes classeId) = .ok ids) :
    ids = elevesDeClasse b classeId := by
  unfold AppelPage.elevesIds champ at h
  rcases hd : b.doc .classes classeId with _ | d
  · rw [hd] at h
    cases h
  rw [hd] at h
  rw [elevesDeClasse_of_doc hd]
  dsimp only [Doc.field] at h
  rcases hf : d .elevesIds with _ | v
  · rw [hf] at h
    cases h
  · rw [hf] at h
    rw [← hf]
    refine (strsOf_of_orStrs ?_).symm
    rw [Doc.get, hf]
    exact h

/-- A load of a class ends, and shows the students it is to show. -/
theorem ends_chargerEleves_iff {Λ σ α : Type} {l : Λ} {classeId : String} {p : σ}
    {charger : List String → Action Λ σ (List (Option α))} {fin : List (Option α) → Action Λ σ Unit}
    {ligne : String → Document → String → Document → Except Err α} {clef : α → String}
    {eleves : σ → List α} (hclef : ∀ id e u d a, ligne id e u d = .ok a → clef a = id)
    (hcharger : ∀ ids, (charger ids).exec S.handler p b =
      (ids.mapM (lectureEleve b ligne), p, b))
    (hfin : ∀ rs, (fin rs).Ends S.handler (fun r p' _ => r = .ok () ∧ eleves p' = rs.reduceOption)
      p b) :
    (do
      let doc ← lireDoc l .classes classeId
      let ids ← ofExcept (AppelPage.elevesIds doc)
      let results ← charger ids
      fin results : Action Λ σ Unit).Ends S.handler (fun r p' _ => r = .ok () ∧
        (eleves p').map clef = presentsDeClasse b classeId) p b ↔
      AvecRoster b classeId ∧
        ∀ id ∈ elevesDeClasse b classeId, ∃ r, lectureEleve b ligne id = .ok r := by
  unfold lireDoc AvecRoster
  by_cases hid : classeId = ""
  · rw [if_pos hid]
    exact iff_of_false (fun h => nomatch h.1) fun h => h.1.1 hid
  rw [if_neg hid, and_iff_right hid, Prog.bind_eq, ends_bind, ends_lire]
  dsimp only
  rw [Prog.bind_eq, ends_bind, ends_ofExcept, ← exists_elevesIds_iff]
  rcases hids : AppelPage.elevesIds (b.doc .classes classeId) with e | ids
  · exact iff_of_false (fun h => nomatch h.1) fun h => nomatch h.1
  rw [and_iff_right ⟨ids, rfl⟩, ← elevesIds_eq hids, ← exists_mapM_iff]
  dsimp only
  rw [Prog.bind_eq]
  have hexec := hcharger ids
  rcases hrs : ids.mapM (lectureEleve b ligne) with e | rs
  · rw [hrs] at hexec
    rw [ends_bind_of_exec_error hexec]
    exact iff_of_false (fun h => nomatch h.1) fun h => nomatch h
  · rw [hrs] at hexec
    rw [ends_bind_of_exec hexec]
    refine iff_of_true ((hfin rs).mono ?_) ⟨rs, rfl⟩
    rintro r p' _ ⟨hr, heleves⟩
    rw [heleves, presentsDeClasse, ← elevesIds_eq hids]
    exact ⟨hr, map_reduceOption_lectures hclef hrs⟩

/-- The load of the roll call ends, and shows the students it is to show. -/
theorem ends_chargerEleves_appel_iff {classeId : String} {p : AppelPage} :
    (AppelPage.chargerEleves classeId).Ends S.handler (fun r p' _ => r = .ok () ∧
        p'.eleves.map Eleve.eleveId = presentsDeClasse b classeId) p b ↔
      AvecRoster b classeId ∧
        ∀ id ∈ elevesDeClasse b classeId, ∃ r, lectureEleve b AppelPage.ligne id = .ok r :=
  ends_chargerEleves_iff (fun _ _ _ _ _ => eleveId_ligne_appel)
    (fun ids => exec_chargerTous_appel classeId ids p) fun _ => ⟨rfl, rfl⟩

/-- The load of the grades ends, and shows the students it is to show. -/
theorem ends_chargerEleves_notes_iff {classeId : String} {p : NotesPage} :
    (NotesPage.chargerEleves classeId).Ends S.handler (fun r p' _ => r = .ok () ∧
        p'.eleves.map EleveAvecNom.eleveId = presentsDeClasse b classeId) p b ↔
      AvecRoster b classeId ∧
        ∀ id ∈ elevesDeClasse b classeId, ∃ r, lectureEleve b NotesPage.ligne id = .ok r :=
  ends_chargerEleves_iff (fun _ _ _ _ _ => eleveId_ligne_notes)
    (fun ids => exec_chargerTous_notes ids p) fun _ => ⟨rfl, rfl⟩

end Chargements

/-! ## The two pages on one class -/

section Classe

variable {S : Server} {b : Base} {classeId : String} {p : AppelPage} {q : NotesPage}

/-- Both loads end without an error and show the students of the roster that are stored. -/
def MemeClasse (S : Server) (b : Base) (classeId : String) (p : AppelPage) (q : NotesPage) : Prop :=
  (AppelPage.chargerEleves classeId).Ends S.handler (fun r p' _ => r = .ok () ∧
      p'.eleves.map Eleve.eleveId = presentsDeClasse b classeId) p b ∧
    (NotesPage.chargerEleves classeId).Ends S.handler (fun r q' _ => r = .ok () ∧
      q'.eleves.map EleveAvecNom.eleveId = presentsDeClasse b classeId) q b

/-- **The whole class.**  Roll call and grades show the same students exactly when the class has a
roster and no document of a student on it lacks a field that one of the two pages reads. -/
theorem memeClasse_iff (S : Server) (b : Base) (classeId : String) (p : AppelPage)
    (q : NotesPage) : MemeClasse S b classeId p q ↔
      AvecRoster b classeId ∧ ∀ id ∈ elevesDeClasse b classeId, EleveLisible b id := by
  unfold MemeClasse
  rw [ends_chargerEleves_appel_iff, ends_chargerEleves_notes_iff]
  constructor
  · rintro ⟨⟨hroster, happel⟩, -, hnotes⟩
    exact ⟨hroster, fun id hid => eleveLisible_iff.mpr ⟨happel id hid, hnotes id hid⟩⟩
  · rintro ⟨hroster, h⟩
    exact ⟨⟨hroster, fun id hid => (eleveLisible_iff.mp (h id hid)).1⟩, hroster,
      fun id hid => (eleveLisible_iff.mp (h id hid)).2⟩

/-- Two students, the account of the second without a photo. -/
def classeSansPhoto : Base :=
  ((((baseVide.putDoc .classes "c" (newDoc 0 [textes .elevesIds ["e1", "e2"]])).putDoc .eleves "e1"
    (newDoc 0 [texte .utilisateurId "e1", textes .notesIds []])).putDoc .eleves "e2"
      (newDoc 0 [texte .utilisateurId "e2", textes .notesIds []])).putDoc .utilisateurs "e1"
        (newDoc 0 [texte .nom "A", texte .prenom "B", texte .photo ""])).putDoc .utilisateurs "e2"
          (newDoc 0 [texte .nom "C", texte .prenom "D"])

/-- The roll call shows neither of them. -/
theorem not_memeClasse_sansPhoto : ¬MemeClasse (Server.longest 10) classeSansPhoto "c"
    { etablissementId := "e", utilisateurId := "t" }
    { etablissementId := "e", utilisateurId := "t" } := by
  rintro ⟨⟨hok, -⟩, -⟩
  have hexec : ((AppelPage.chargerEleves "c").exec (Server.longest 10).handler
      { etablissementId := "e", utilisateurId := "t" } classeSansPhoto).1 = .error .type := by
    decide +kernel
  cases hexec.symm.trans hok

end Classe

end EduConnect.Enseignant
