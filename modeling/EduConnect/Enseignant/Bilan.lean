import EduConnect.Enseignant.Valeurs
import EduConnect.Lib.Additions
import EduConnect.Lib.Cuts

/-!
# What a save writes

`Bilan b E b'`: the data `b'` are `b` with the effects `E` of a save, whole or cut short: grades and
notifications added, and ids of grades entered in the records of students.  A save that succeeds
goes through the students of the roster one by one, and each `Passage` has effects of its own.
-/

namespace EduConnect.Enseignant

open Lib Prog

/-! ## Effects -/

structure Effets where
  /-- The documents added to `notes`. -/
  notes : List (String × Document) := []
  /-- The students whose `notesIds` gained an id, with this id. -/
  dossiers : List (String × String) := []
  /-- The documents added to `notifications`. -/
  notifications : List (String × Document) := []

instance : Append Effets where
  append E E' := ⟨E.notes ++ E'.notes, E.dossiers ++ E'.dossiers, E.notifications ++ E'.notifications⟩

@[simp] theorem Effets.notes_append (E E' : Effets) : (E ++ E').notes = E.notes ++ E'.notes := rfl

@[simp] theorem Effets.dossiers_append (E E' : Effets) :
    (E ++ E').dossiers = E.dossiers ++ E'.dossiers := rfl

@[simp] theorem Effets.notifications_append (E E' : Effets) :
    (E ++ E').notifications = E.notifications ++ E'.notifications := rfl

/-- The record of the student `e`, before and after. -/
def Suivi (E : Effets) (e : String) (d d' : Document) : Prop :=
  (∀ f, f ≠ .notesIds → d' f = d f) ∧
    ∀ x, x ∈ strsOf (d' .notesIds) ↔ x ∈ strsOf (d .notesIds) ∨ (e, x) ∈ E.dossiers

structure Bilan (b : Base) (E : Effets) (b' : Base) : Prop where
  clock : b'.clock = b.clock
  autres : ∀ c, c ≠ .notes → c ≠ .notifications → c ≠ .eleves → b'.docs c = b.docs c
  notes : Adds .notes E.notes b b'
  notifications : Adds .notifications E.notifications b b'
  eleves : ∀ e, Option.Rel (Suivi E e) (b.doc .eleves e) (b'.doc .eleves e)

theorem Suivi.refl {E : Effets} (hE : E.dossiers = []) (e : String) (d : Document) :
    Suivi E e d d := by
  refine ⟨fun f _ => rfl, fun x => ?_⟩
  rw [hE]
  exact ⟨Or.inl, fun h => h.elim id fun h => absurd h (by simp)⟩

theorem Suivi.trans {E E' : Effets} {e : String} {d d₁ d' : Document} (h : Suivi E e d d₁)
    (h' : Suivi E' e d₁ d') : Suivi (E ++ E') e d d' := by
  refine ⟨fun f hf => (h'.1 f hf).trans (h.1 f hf), fun x => ?_⟩
  rw [h'.2 x, h.2 x, Effets.dossiers_append, List.mem_append, or_assoc]

/-- The records of students that no write touched. -/
theorem suivis_of_eq {E : Effets} (hE : E.dossiers = []) {b b' : Base}
    (h : b'.docs .eleves = b.docs .eleves) (e : String) :
    Option.Rel (Suivi E e) (b.doc .eleves e) (b'.doc .eleves e) := by
  have hdoc : b'.doc .eleves e = b.doc .eleves e := congrArg (fun t => t.find e) h
  rw [hdoc]
  rcases b.doc .eleves e with _ | d
  · exact .none
  · exact .some (.refl hE e d)

namespace Bilan

variable {b b₁ b' : Base} {E E' : Effets}

theorem refl (b : Base) : Bilan b {} b :=
  ⟨rfl, fun _ _ _ _ => rfl, .refl _ b, .refl _ b, suivis_of_eq rfl rfl⟩

theorem trans (h : Bilan b E b₁) (h' : Bilan b₁ E' b') : Bilan b (E ++ E') b' where
  clock := h'.clock.trans h.clock
  autres c h₁ h₂ h₃ := (h'.autres c h₁ h₂ h₃).trans (h.autres c h₁ h₂ h₃)
  notes := h.notes.trans h'.notes
  notifications := h.notifications.trans h'.notifications
  eleves e := by
    have hfirst := h.eleves e
    have hsecond := h'.eleves e
    rcases hd : b.doc .eleves e with _ | d
    · rw [hd] at hfirst
      rcases hd₁ : b₁.doc .eleves e with _ | d₁
      · rw [hd₁] at hsecond
        rcases hd' : b'.doc .eleves e with _ | d'
        · exact .none
        · rw [hd'] at hsecond
          cases hsecond
      · rw [hd₁] at hfirst
        cases hfirst
    · rw [hd] at hfirst
      rcases hd₁ : b₁.doc .eleves e with _ | d₁
      · rw [hd₁] at hfirst
        cases hfirst
      · rw [hd₁] at hfirst hsecond
        rcases hd' : b'.doc .eleves e with _ | d'
        · rw [hd'] at hsecond
          cases hsecond
        · rw [hd'] at hsecond
          obtain ⟨h₁⟩ | _ := hfirst
          obtain ⟨h₂⟩ | _ := hsecond
          exact .some (h₁.trans h₂)

/-- A record that is there before is there after. -/
theorem eleve_of_some (h : Bilan b E b') {e : String} {d : Document}
    (hd : b.doc .eleves e = some d) : ∃ d', b'.doc .eleves e = some d' ∧ Suivi E e d d' := by
  have hrel := h.eleves e
  rw [hd] at hrel
  rcases hd' : b'.doc .eleves e with _ | d'
  · rw [hd'] at hrel
    cases hrel
  · rw [hd'] at hrel
    obtain ⟨hs⟩ | _ := hrel
    exact ⟨d', rfl, hs⟩

/-- A record that is there after was there before. -/
theorem eleve_of_some' (h : Bilan b E b') {e : String} {d' : Document}
    (hd' : b'.doc .eleves e = some d') : ∃ d, b.doc .eleves e = some d ∧ Suivi E e d d' := by
  have hrel := h.eleves e
  rw [hd'] at hrel
  rcases hd : b.doc .eleves e with _ | d
  · rw [hd] at hrel
    cases hrel
  · rw [hd] at hrel
    obtain ⟨hs⟩ | _ := hrel
    exact ⟨d, rfl, hs⟩

theorem eleve_eq_none_iff (h : Bilan b E b') (e : String) :
    b'.doc .eleves e = none ↔ b.doc .eleves e = none := by
  have hrel := h.eleves e
  rcases hd : b.doc .eleves e with _ | d
  · rw [hd] at hrel
    rcases hd' : b'.doc .eleves e with _ | d'
    · exact Iff.rfl
    · rw [hd'] at hrel
      cases hrel
  · obtain ⟨d', hd', -⟩ := h.eleve_of_some hd
    rw [hd']
    exact iff_of_false (Option.some_ne_none d') (Option.some_ne_none d)

/-- A grade is added. -/
theorem note (S : Server) (b : Base) (fs : Champs) :
    Bilan b { notes := [(S.newDocId b .notes, newDoc b.clock fs)] } (S.addDoc .notes b fs) where
  clock := rfl
  autres _ hc _ _ := S.docs_addDoc_ne hc b fs
  notes := adds_addDoc S .notes b fs
  notifications := .of_eq (S.docs_addDoc_ne (by decide) b fs)
  eleves := suivis_of_eq rfl (S.docs_addDoc_ne (by decide) b fs)

/-- A notification is added. -/
theorem notification (S : Server) (b : Base) (fs : Champs) :
    Bilan b { notifications := [(S.newDocId b .notifications, newDoc b.clock fs)] }
      (S.addDoc .notifications b fs) where
  clock := rfl
  autres _ _ hc _ := S.docs_addDoc_ne hc b fs
  notes := .of_eq (S.docs_addDoc_ne (by decide) b fs)
  notifications := adds_addDoc S .notifications b fs
  eleves := suivis_of_eq rfl (S.docs_addDoc_ne (by decide) b fs)

/-- The id of a grade is entered in the record of a student. -/
theorem dossier {e : String} {d : Document} (hd : b.doc .eleves e = some d) (noteId : String) :
    Bilan b { dossiers := [(e, noteId)] }
      (b.putDoc .eleves e (writeFields b.clock d [(.notesIds, .arrayUnion [noteId])])) where
  clock := rfl
  autres _ _ _ hc := Data.docs_putDoc_ne b hc e _
  notes := .of_eq (Data.docs_putDoc_ne b (by decide) e _)
  notifications := .of_eq (Data.docs_putDoc_ne b (by decide) e _)
  eleves e' := by
    rw [Data.doc_putDoc]
    by_cases he : e' = e
    · subst he
      rw [if_pos ⟨rfl, rfl⟩, hd]
      refine .some ⟨fun f hf => ?_, fun x => ?_⟩
      · exact writeFields_of_not_mem (by simpa using hf)
      · have hfield : writeFields b.clock d [(.notesIds, .arrayUnion [noteId])] .notesIds =
          some ((FieldOp.arrayUnion [noteId]).eval b.clock (d .notesIds)) := by
          rw [writeFields_cons, writeFields_nil, Function.update_self]
        rw [hfield, mem_strsOf_arrayUnion]
        refine or_congr_right ?_
        simp
    · rw [if_neg fun h => he h.2]
      rcases b.doc .eleves e' with _ | d'
      · exact .none
      · refine .some ⟨fun f _ => rfl, fun x => ?_⟩
        have hnot : (e', x) ∉ [(e, noteId)] := by simp [he]
        exact ⟨Or.inl, fun h => h.elim id fun h => absurd h hnot⟩

end Bilan

theorem bilan_of_lecture (S : Server) {r : Requete} (hr : Lecture r) (b : Base) :
    Bilan b {} (S.handler r b).2 := by
  rw [handler_lecture hr]
  exact .refl b

/-- Every request of a save has effects of a save. -/
theorem bilan_handler (S : Server) {r : Requete} (hr : NotesPage.Permise r) (b : Base) :
    ∃ E, Bilan b E (S.handler r b).2 := by
  rcases r with _ | _ | ⟨c, fs⟩ | w | _ | _ | _ | _ | _ | _ | _ | _ | _
  case add =>
    rcases hr with rfl | rfl
    · exact ⟨_, .note S b fs⟩
    · exact ⟨_, .notification S b fs⟩
  case write =>
    rcases w with _ | ⟨c, e, fs⟩ | _
    · exact hr.elim
    · obtain ⟨rfl, noteId, rfl⟩ := hr
      rcases hd : b.doc .eleves e with _ | d
      · have hrefus : (S.handler (.write (.update .eleves e
          [(.notesIds, .arrayUnion [noteId])]) : Requete) b).2 = b := by
          simp only [Server.handler, Write.apply, hd, Option.map_none]
        rw [hrefus]
        exact ⟨_, .refl b⟩
      · have happlique : (S.handler (.write (.update .eleves e
          [(.notesIds, .arrayUnion [noteId])]) : Requete) b).2 =
            b.putDoc .eleves e (writeFields b.clock d [(.notesIds, .arrayUnion [noteId])]) := by
          simp only [Server.handler, Write.apply, hd, Option.map_some]
        rw [happlique]
        exact ⟨_, .dossier hd noteId⟩
    · exact hr.elim
  all_goals first
    | exact hr.elim
    | exact ⟨_, bilan_of_lecture S (by exact hr) b⟩

end EduConnect.Enseignant
