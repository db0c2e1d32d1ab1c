import Mathlib.Computability.Language

/-!
# Patterns

A pattern denotes the language of the texts it matches.  The pieces here are one symbol of a class
and one or more of them; `*` is concatenation.  A pattern held at the start of the text only is
matched by any text with a prefix in the language.
-/

namespace Lib

namespace Motif

open scoped Computability

variable {α : Type*} {p : α → Prop} {w : List α}

/-- One symbol of the class. -/
def un (p : α → Prop) : Language α := {w | ∃ c, p c ∧ w = [c]}

/-- One or more symbols of the class. -/
def plus (p : α → Prop) : Language α := un p * (un p)∗

/-- A match of the pattern at the start of the text. -/
def Debute (L : Language α) (w : List α) : Prop := ∃ u v, w = u ++ v ∧ u ∈ L

@[simp] theorem mem_un : w ∈ un p ↔ ∃ c, p c ∧ w = [c] := Iff.rfl

theorem singleton_mem_un {c : α} : [c] ∈ un p ↔ p c := by
  refine ⟨?_, fun h => ⟨c, h, rfl⟩⟩
  rintro ⟨d, hd, hcd⟩
  rwa [List.singleton_inj.mp hcd]

theorem mem_un_eq {c : α} : w ∈ un (· = c) ↔ w = [c] := by
  rw [mem_un]
  refine ⟨?_, fun h => ⟨c, rfl, h⟩⟩
  rintro ⟨d, rfl, h⟩
  exact h

theorem mem_kstar_un : w ∈ (un p)∗ ↔ ∀ c ∈ w, p c := by
  rw [Language.mem_kstar]
  constructor
  · rintro ⟨L, rfl, hL⟩ c hc
    obtain ⟨u, hu, hcu⟩ := List.mem_flatten.mp hc
    obtain ⟨d, hd, rfl⟩ := hL u hu
    rwa [List.mem_singleton.mp hcu]
  · intro h
    refine ⟨w.map fun c => [c], ?_, fun u hu => ?_⟩
    · rw [← List.flatMap_def, List.flatMap_singleton']
    · obtain ⟨c, hc, rfl⟩ := List.mem_map.mp hu
      exact singleton_mem_un.mpr (h c hc)

theorem mem_plus : w ∈ plus p ↔ w ≠ [] ∧ ∀ c ∈ w, p c := by
  rw [plus, Language.mem_mul]
  constructor
  · rintro ⟨_, ⟨c, hc, rfl⟩, v, hv, rfl⟩
    refine ⟨List.cons_ne_nil _ _, fun d hd => ?_⟩
    rcases List.mem_cons.mp hd with rfl | hd
    · exact hc
    · exact mem_kstar_un.mp hv d hd
  · rintro ⟨hne, h⟩
    obtain ⟨c, v, rfl⟩ := List.exists_cons_of_ne_nil hne
    refine ⟨[c], singleton_mem_un.mpr (h c List.mem_cons_self), v, ?_, rfl⟩
    exact mem_kstar_un.mpr fun d hd => h d (List.mem_cons_of_mem c hd)

end Motif

end Lib
