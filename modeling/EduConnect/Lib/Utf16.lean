import Mathlib.Data.List.Basic

/-!
# Texts in UTF-16

A text is a list of code units.  A character beyond the basic plane is two of them, a high surrogate
and a low one; a text is well-formed when no surrogate stands outside such a pair.
-/

namespace Lib

namespace Utf16

/-- The first half of a pair. -/
def isHigh (u : UInt16) : Bool := 0xD800 ≤ u && u ≤ 0xDBFF

/-- The second half of a pair. -/
def isLow (u : UInt16) : Bool := 0xDC00 ≤ u && u ≤ 0xDFFF

theorem isLow_of_isHigh {u : UInt16} (h : isHigh u = true) : isLow u = false := by
  simp only [isHigh, isLow, Bool.and_eq_true, Bool.and_eq_false_iff, decide_eq_true_eq,
    decide_eq_false_iff_not, UInt16.le_iff_toNat_le] at h ⊢
  have hmax : (0xDBFF : UInt16).toNat < (0xDC00 : UInt16).toNat := by decide
  omega

/-- Characters of one unit, and pairs. -/
inductive WellFormed : List UInt16 → Prop
  | nil : WellFormed []
  | single (u : UInt16) (l : List UInt16) : isHigh u = false → isLow u = false → WellFormed l →
      WellFormed (u :: l)
  | pair (u v : UInt16) (l : List UInt16) : isHigh u = true → isLow v = true → WellFormed l →
      WellFormed (u :: v :: l)

/-- Half a pair is no text. -/
theorem not_wellFormed_of_isHigh {u : UInt16} (h : isHigh u = true) : ¬ WellFormed [u] := by
  intro hu
  cases hu with
  | single _ _ hhigh => rw [h] at hhigh; cases hhigh

namespace WellFormed

theorem append {l m : List UInt16} (hl : WellFormed l) (hm : WellFormed m) :
    WellFormed (l ++ m) := by
  induction hl with
  | nil => exact hm
  | single u l hhigh hlow _ ih => exact .single u _ hhigh hlow ih
  | pair u v l hu hv _ ih => exact .pair u v _ hu hv ih

/-- **A cut is clean** exactly if the unit after it is not the second half of a pair. -/
theorem cut_iff {l m : List UInt16} {w : UInt16} (h : WellFormed (l ++ w :: m)) :
    WellFormed l ↔ isLow w = false := by
  generalize htext : l ++ w :: m = text at h
  induction h generalizing l with
  | nil => simp at htext
  | single u rest hhigh hlow hrest ih =>
    rcases l with _ | ⟨u', l⟩
    · obtain ⟨rfl, -⟩ := List.cons.inj htext
      exact ⟨fun _ => hlow, fun _ => .nil⟩
    · obtain ⟨rfl, htail⟩ := List.cons.inj htext
      rw [← ih htail]
      refine ⟨fun hl => ?_, fun hl => .single u' l hhigh hlow hl⟩
      cases hl with
      | single _ _ _ _ hl => exact hl
      | pair _ _ _ hu => rw [hhigh] at hu; cases hu
  | pair u v rest hu hv hrest ih =>
    rcases l with _ | ⟨u', _ | ⟨v', l⟩⟩
    · obtain ⟨rfl, -⟩ := List.cons.inj htext
      exact ⟨fun _ => isLow_of_isHigh hu, fun _ => .nil⟩
    · -- the cut falls between the two halves
      obtain ⟨rfl, htail⟩ := List.cons.inj htext
      obtain ⟨rfl, -⟩ := List.cons.inj htail
      rw [hv]
      exact ⟨fun hl => absurd hl (not_wellFormed_of_isHigh hu), fun hl => by cases hl⟩
    · obtain ⟨rfl, hsuite⟩ := List.cons.inj htext
      obtain ⟨rfl, htail⟩ := List.cons.inj hsuite
      rw [← ih htail]
      refine ⟨fun hl => ?_, fun hl => .pair u' v' l hu hv hl⟩
      cases hl with
      | single _ _ hhigh => rw [hu] at hhigh; cases hhigh
      | pair _ _ _ _ _ hl => exact hl

/-- The first `n` units of a longer text. -/
theorem take_iff {l : List UInt16} (h : WellFormed l) {n : ℕ} {w : UInt16} (hn : l[n]? = some w) :
    WellFormed (l.take n) ↔ isLow w = false := by
  obtain ⟨hlt, rfl⟩ := List.getElem?_eq_some_iff.mp hn
  have hsplit : l.take n ++ l[n] :: l.drop (n + 1) = l := by
    rw [← List.drop_eq_getElem_cons hlt, List.take_append_drop]
  rw [← hsplit] at h
  exact h.cut_iff

/-- What starts with a character may follow a well-formed text only. -/
theorem append_iff {l m : List UInt16} {w : UInt16} (hw : isLow w = false)
    (hm : WellFormed (w :: m)) : WellFormed (l ++ w :: m) ↔ WellFormed l :=
  ⟨fun h => h.cut_iff.mpr hw, fun h => h.append hm⟩

end WellFormed

end Utf16

end Lib
