import Mathlib.Data.List.Basic

/-!
# Runs of a partial step function

A machine is a partial step function `step : σ → α → Option σ`; a run is `as.foldlM step s`.
`Always` says that a property holds in every state a run goes through, `AllMeet` that every step
of it is taken in a state meeting a condition.
-/

namespace Lib

variable {σ α : Type} (step : σ → α → Option σ)

/-- `P` holds in `s` and in every state reached from it along `as`. -/
def Always (P : σ → Prop) : σ → List α → Prop
  | s, [] => P s
  | s, a :: as => P s ∧ ∀ s', step s a = some s' → Always P s' as

/-- Every step taken in the run of `as` from `s` is taken in a state meeting `cond`. -/
def AllMeet (cond : σ → α → Prop) : σ → List α → Prop
  | _, [] => True
  | s, a :: as => ∀ s', step s a = some s' → cond s a ∧ AllMeet cond s' as

variable {step}

theorem Always.start {P : σ → Prop} {s : σ} {as : List α} (h : Always step P s as) : P s := by
  cases as with
  | nil => exact h
  | cons a as => exact h.1

theorem foldlM_cons_eq_some {s s' : σ} {a : α} {as : List α} :
    (a :: as).foldlM step s = some s' ↔ ∃ t, step s a = some t ∧ as.foldlM step t = some s' := by
  simp [List.foldlM_cons, Option.bind_eq_some_iff]

theorem foldlM_concat_eq_some {s s' : σ} {a : α} {as : List α} :
    (as ++ [a]).foldlM step s = some s' ↔ ∃ t, as.foldlM step s = some t ∧ step t a = some s' := by
  simp [List.foldlM_append, Option.bind_eq_some_iff]

/-- A property that always holds holds at the end of the run. -/
theorem Always.final {P : σ → Prop} {s s' : σ} {as : List α} (h : Always step P s as)
    (hrun : as.foldlM step s = some s') : P s' := by
  induction as generalizing s with
  | nil =>
    obtain rfl : s = s' := by simpa using hrun
    exact h
  | cons a as ih =>
    obtain ⟨t, ht, hrest⟩ := foldlM_cons_eq_some.mp hrun
    exact ih (h.2 t ht) hrest

/-- A property that always holds holds at the end of every beginning of the run. -/
theorem Always.at_prefix {P : σ → Prop} {s s' : σ} {as bs : List α} (h : Always step P s as)
    (hpre : bs <+: as) (hrun : bs.foldlM step s = some s') : P s' := by
  induction bs generalizing s as with
  | nil =>
    obtain rfl : s = s' := by simpa using hrun
    exact h.start
  | cons b bs ih =>
    obtain ⟨cs, rfl⟩ := hpre
    obtain ⟨t, ht, hrest⟩ := foldlM_cons_eq_some.mp hrun
    exact ih (h.2 t ht) (List.prefix_append bs cs) hrest

/-- A run to a bad state refutes what is bad about it. -/
theorem not_always_of_final {P : σ → Prop} {s : σ} {as : List α} (bad : σ → Bool)
    (hbad : ∀ s, bad s = true → ¬P s) (h : (as.foldlM step s).any bad = true) :
    ¬Always step P s as := by
  intro hall
  cases hrun : as.foldlM step s with
  | none => simp [hrun] at h
  | some s' => exact hbad s' (by simpa [hrun] using h) (hall.final hrun)

theorem Always.mono {P Q : σ → Prop} (hPQ : ∀ s, P s → Q s) {s : σ} {as : List α}
    (h : Always step P s as) : Always step Q s as := by
  induction as generalizing s with
  | nil => exact hPQ _ h
  | cons a as ih => exact ⟨hPQ _ h.1, fun s' hs' => ih (h.2 s' hs')⟩

/-- Run rule: what every conditioned step preserves holds all along a run meeting the condition. -/
theorem always_of_allMeet {P : σ → Prop} {cond : σ → α → Prop}
    (hstep : ∀ s a s', P s → cond s a → step s a = some s' → P s')
    {s : σ} {as : List α} (hs : P s) (h : AllMeet step cond s as) : Always step P s as := by
  induction as generalizing s with
  | nil => exact hs
  | cons a as ih =>
    refine ⟨hs, fun s' hs' => ?_⟩
    obtain ⟨hc, hrest⟩ := h s' hs'
    exact ih (hstep s a s' hs hc hs') hrest

/-- A test of the steps of a run. -/
def checkAll (step : σ → α → Option σ) (ok : σ → α → Bool) : σ → List α → Bool
  | _, [] => true
  | s, a :: as =>
    match step s a with
    | some s' => ok s a && checkAll step ok s' as
    | none => true

/-- A condition that a test decides holds of a run whose steps pass the test. -/
theorem allMeet_of_checkAll {cond : σ → α → Prop} (ok : σ → α → Bool)
    (hok : ∀ s a, ok s a = true → cond s a) {s : σ} {as : List α}
    (h : checkAll step ok s as = true) : AllMeet step cond s as := by
  induction as generalizing s with
  | nil => trivial
  | cons a as ih =>
    intro s' hs'
    simp only [checkAll, hs', Bool.and_eq_true] at h
    exact ⟨hok s a h.1, ih h.2⟩

/-- A test that every state of a run passes. -/
theorem always_of_checkAll (good : σ → Bool) {s : σ} {as : List α} (hs : good s = true)
    (h : checkAll step (fun s a => (step s a).all good) s as = true) :
    Always step (fun s => good s = true) s as := by
  refine always_of_allMeet (fun s a s' _ hc hst => ?_) hs
    (allMeet_of_checkAll (fun s a => (step s a).all good) (fun _ _ h => h) h)
  rwa [hst, Option.all_some] at hc

theorem AllMeet.mono {cond cond' : σ → α → Prop} (hc : ∀ s a, cond s a → cond' s a) {s : σ}
    {as : List α} (h : AllMeet step cond s as) : AllMeet step cond' s as := by
  induction as generalizing s with
  | nil => trivial
  | cons a as ih => exact fun s' hs' => ⟨hc s a (h s' hs').1, ih (h s' hs').2⟩

theorem AllMeet.and {cond cond' : σ → α → Prop} {s : σ} {as : List α} (h : AllMeet step cond s as)
    (h' : AllMeet step cond' s as) : AllMeet step (fun s a => cond s a ∧ cond' s a) s as := by
  induction as generalizing s with
  | nil => trivial
  | cons a as ih =>
    intro s' hs'
    obtain ⟨hc, hrest⟩ := h s' hs'
    obtain ⟨hc', hrest'⟩ := h' s' hs'
    exact ⟨⟨hc, hc'⟩, ih hrest hrest'⟩

/-- A condition that an invariant implies is met by every step. -/
theorem allMeet_of_invariant {I : σ → Prop} {cond : σ → α → Prop}
    (hstep : ∀ s a s', I s → step s a = some s' → I s') (hcond : ∀ s a, I s → cond s a) {s : σ}
    (hs : I s) (as : List α) : AllMeet step cond s as := by
  induction as generalizing s with
  | nil => trivial
  | cons a as ih => exact fun s' hs' => ⟨hcond s a hs, ih (hstep s a s' hs hs')⟩

/-- Equivalent conditions on the steps of a run. -/
theorem allMeet_congr {cond cond' : σ → α → Prop} (h : ∀ s a, cond s a ↔ cond' s a) {s : σ}
    {as : List α} : AllMeet step cond s as ↔ AllMeet step cond' s as := by
  induction as generalizing s with
  | nil => exact Iff.rfl
  | cons a as ih => exact forall₂_congr fun s' _ => and_congr (h s a) ih

/-- Run rule without a condition. -/
theorem always_of_step {P : σ → Prop} (hstep : ∀ s a s', P s → step s a = some s' → P s')
    {s : σ} (hs : P s) (as : List α) : Always step P s as := by
  induction as generalizing s with
  | nil => exact hs
  | cons a as ih => exact ⟨hs, fun s' hs' => ih (hstep s a s' hs hs')⟩

/-- Where the last element of a history stands when the history is cut at an element. -/
theorem snoc_eq_append_cons {w w₁ w₂ : List α} {x z : α} : w ++ [z] = w₁ ++ x :: w₂ ↔
    (w₂ = [] ∧ x = z ∧ w₁ = w) ∨ ∃ w₃, w₂ = w₃ ++ [z] ∧ w = w₁ ++ x :: w₃ := by
  constructor
  · intro h
    rcases List.eq_nil_or_concat w₂ with rfl | ⟨w₃, y, rfl⟩
    · obtain ⟨rfl, hx⟩ := List.append_inj' h rfl
      exact Or.inl ⟨rfl, (List.cons.inj hx).1.symm, rfl⟩
    · rw [List.concat_eq_append, ← List.cons_append, ← List.append_assoc] at h
      obtain ⟨hw, hy⟩ := List.append_inj' h rfl
      obtain rfl := (List.cons.inj hy).1
      exact Or.inr ⟨w₃, List.concat_eq_append, hw⟩
  · rintro (⟨rfl, rfl, rfl⟩ | ⟨w₃, rfl, rfl⟩)
    · rfl
    · rw [List.append_assoc, List.cons_append]

/-- Under an invariant `I`, when a step from a good state leads to a good state exactly if it meets
`cond`, a run stays good exactly if all its steps meet `cond`. -/
theorem always_iff_allMeet {I P : σ → Prop} {cond : σ → α → Prop}
    (hinv : ∀ s a s', I s → step s a = some s' → I s')
    (hstep : ∀ s a s', I s → P s → step s a = some s' → (P s' ↔ cond s a))
    {s : σ} (hI : I s) (hs : P s) (as : List α) : Always step P s as ↔ AllMeet step cond s as := by
  induction as generalizing s with
  | nil => exact ⟨fun _ => trivial, fun _ => hs⟩
  | cons a as ih =>
    constructor
    · rintro ⟨-, h⟩ s' hs'
      have hP : P s' := (h s' hs').start
      exact ⟨(hstep s a s' hI hs hs').mp hP, (ih (hinv s a s' hI hs') hP).mp (h s' hs')⟩
    · intro h
      refine ⟨hs, fun s' hs' => ?_⟩
      obtain ⟨hc, hrest⟩ := h s' hs'
      exact (ih (hinv s a s' hI hs') ((hstep s a s' hI hs hs').mpr hc)).mpr hrest

/-- The same where the steps also meet a side condition. -/
theorem always_iff_allMeet_of {P : σ → Prop} {side cond : σ → α → Prop}
    (hstep : ∀ s a s', side s a → P s → step s a = some s' → (P s' ↔ cond s a))
    {s : σ} (hs : P s) {as : List α} (hside : AllMeet step side s as) :
    Always step P s as ↔ AllMeet step cond s as := by
  induction as generalizing s with
  | nil => exact ⟨fun _ => trivial, fun _ => hs⟩
  | cons a as ih =>
    constructor
    · rintro ⟨-, h⟩ s' hs'
      obtain ⟨ha, hrest⟩ := hside s' hs'
      have hP : P s' := (h s' hs').start
      exact ⟨(hstep s a s' ha hs hs').mp hP, (ih hP hrest).mp (h s' hs')⟩
    · intro h
      refine ⟨hs, fun s' hs' => ?_⟩
      obtain ⟨ha, hrest⟩ := hside s' hs'
      obtain ⟨hc, hrest'⟩ := h s' hs'
      exact (ih ((hstep s a s' ha hs hs').mpr hc) hrest).mpr hrest'

/-- The same where a state `Q`, which has the property, stays so while the steps meet `cond`, and the
first step that does not meet it loses the property. -/
theorem always_iff_allMeet_of_loss {P Q : σ → Prop} {cond : σ → α → Prop} (hQP : ∀ s, Q s → P s)
    (hkeep : ∀ s a s', Q s → step s a = some s' → cond s a → Q s')
    (hloss : ∀ s a s', Q s → step s a = some s' → ¬cond s a → ¬P s')
    {s : σ} (hs : Q s) (as : List α) : Always step P s as ↔ AllMeet step cond s as := by
  induction as generalizing s with
  | nil => exact ⟨fun _ => trivial, fun _ => hQP s hs⟩
  | cons a as ih =>
    constructor
    · rintro ⟨-, h⟩ s' hs'
      have hc : cond s a := by
        by_contra hc
        exact hloss s a s' hs hs' hc (h s' hs').start
      exact ⟨hc, (ih (hkeep s a s' hs hs' hc)).mp (h s' hs')⟩
    · intro h
      refine ⟨hQP s hs, fun s' hs' => ?_⟩
      obtain ⟨hc, hrest⟩ := h s' hs'
      exact (ih (hkeep s a s' hs hs' hc)).mpr hrest

/-! ## Runs seen through a map

`f` commutes with the steps in the states where the invariant `I` holds. -/

section Maps

variable {I : σ → Prop} {f : σ → σ}
  (hinv : ∀ s a s', I s → step s a = some s' → I s')
  (hf : ∀ s a, I s → step (f s) a = (step s a).map f)
include hinv hf

theorem allMeet_map {cond cond' : σ → α → Prop} (hcond : ∀ s a, cond s a → cond' (f s) a) {s : σ}
    (hs : I s) {as : List α} (h : AllMeet step cond s as) : AllMeet step cond' (f s) as := by
  induction as generalizing s with
  | nil => trivial
  | cons a as ih =>
    intro t ht
    rw [hf s a hs] at ht
    obtain ⟨s', hs', rfl⟩ := Option.map_eq_some_iff.mp ht
    obtain ⟨hc, hrest⟩ := h s' hs'
    exact ⟨hcond s a hc, ih (hinv s a s' hs hs') hrest⟩

theorem always_of_map {P : σ → Prop} {s : σ} (hs : I s) {as : List α}
    (h : Always step P (f s) as) : Always step (fun s => P (f s)) s as := by
  induction as generalizing s with
  | nil => exact h
  | cons a as ih =>
    refine ⟨h.1, fun s' hs' => ih (hinv s a s' hs hs') (h.2 (f s') ?_)⟩
    rw [hf s a hs, hs']
    rfl

end Maps

end Lib
