import EduConnect.Lib.Sched
import Mathlib.Data.List.Perm.Basic

/-!
# A flag that disables a button

A page raises a flag before the first await of a program and lowers it at the end, and no event
starts the program while the flag is up.  Then at most one such program is suspended on a page, and
it always finds the flag up when it is resumed (`Sys.allMeet_held`).
-/

namespace Lib

variable {ι Λ R : Type} {A : R → Type} {ε σ β Ev α : Type} (held : σ → Bool) (inside : Λ → Prop)

/-- What holds of any two elements of a list holds of one of them and the others. -/
theorem pairwise_eraseIdx {R : α → α → Prop} (hsymm : ∀ {a b}, R a b → R b a) {l : List α} {n : ℕ}
    {a : α} (ha : l[n]? = some a) (h : l.Pairwise R) :
    (∀ b ∈ l.eraseIdx n, R a b) ∧ (l.eraseIdx n).Pairwise R := by
  obtain ⟨hn, rfl⟩ := List.getElem?_eq_some_iff.mp ha
  have hperm := (List.getElem_cons_eraseIdx_perm hn).symm
  exact List.pairwise_cons.mp ((hperm.pairwise_iff hsymm).mp h)

theorem eq_or_mem_eraseIdx {l : List α} {n : ℕ} {a b : α} (ha : l[n]? = some a) (hb : b ∈ l) :
    b = a ∨ b ∈ l.eraseIdx n := by
  obtain ⟨m, hm⟩ := List.mem_iff_getElem?.mp hb
  by_cases hmn : m = n
  · subst hmn
    exact Or.inl (Option.some.inj (hm.symm.trans ha))
  · exact Or.inr (List.mem_eraseIdx_iff_getElem?.mpr ⟨m, hmn, hm⟩)

namespace Prog

/-! ## Programs and the flag -/

/-- A program that leaves the flag alone and has no await inside. -/
structure Outside (p : Prog Λ R A ε σ α) : Prop where
  keeps : ∀ b, p.Keeps fun s => held s = b
  issues : p.Issues fun l _ => ¬inside l

/-- A program run from the page `s`: all its awaits are inside, with the flag up, and it ends with
the flag down. -/
def Inside : Prog Λ R A ε σ α → σ → Prop
  | ret _, s => held s = false
  | fail _, s => held s = false
  | read k, s => (k s).Inside s
  | write f p, s => p.Inside (f s)
  | await l _ k, s => held s = true ∧ inside l ∧ ∀ a s', held s' = true → (k a).Inside s'

/-- A body that keeps the flag up, followed by what lowers it. -/
theorem inside_ensuring {p : Prog Λ R A ε σ α} {f : σ → σ} (hp : p.Keeps fun s => held s = true)
    (hi : p.Issues fun l _ => inside l) (hf : ∀ s, held (f s) = false) {s : σ}
    (hs : held s = true) : (p.ensuring f).Inside held inside s := by
  induction p generalizing s with
  | ret a => exact hf s
  | fail e => exact hf s
  | read k ih => exact ih s (hp s) (hi s) hs
  | write g p ih => exact ih hp.2 hi (hp.1 s hs)
  | await l r k ih => exact ⟨hs, hi.1, fun a s' hs' => ih a (hp a) (hi.2 a) hs'⟩

variable {held inside}

theorem Outside.seg {i : ι} {p : Prog Λ R A ε σ Unit} (hp : p.Outside held inside) (s : σ) :
    held (p.seg i s).1 = held s ∧ ∀ t ∈ (p.seg i s).2, t.who = i ∧ ¬inside t.lab ∧
      ∀ a, (t.k a).Outside held inside := by
  refine ⟨((hp.keeps (held s)).seg s).1 rfl, fun t ht => ?_⟩
  obtain ⟨hwho, -, hout, hissues⟩ := hp.issues.seg s t ht
  exact ⟨hwho, hout, fun a => ⟨fun b => ((hp.keeps b).seg s).2 t ht a, hissues a⟩⟩

theorem Inside.seg {i : ι} {p : Prog Λ R A ε σ Unit} {s : σ} (hp : p.Inside held inside s) :
    ((p.seg i s).2 = none ∧ held (p.seg i s).1 = false) ∨
      ∃ t, (p.seg i s).2 = some t ∧ held (p.seg i s).1 = true ∧ t.who = i ∧ inside t.lab ∧
        ∀ a s', held s' = true → (t.k a).Inside held inside s' := by
  induction p generalizing s with
  | ret a => exact Or.inl ⟨rfl, hp⟩
  | fail e => exact Or.inl ⟨rfl, hp⟩
  | read k ih => exact ih s hp
  | write f p ih => exact ih hp
  | await l r k ih => exact Or.inr ⟨⟨i, l, r, k, none⟩, rfl, hp.1, rfl, hp.2.1, hp.2.2⟩

end Prog

variable {held inside}

/-! ## Systems -/

section Systems

variable (held inside)

/-- A suspended program, and what it may do with the flag. -/
structure Task.Held (pages : ι → σ) (t : Task ι Λ R A ε σ) : Prop where
  up : inside t.lab → held (pages t.who) = true
  goesOn : inside t.lab → ∀ a s', held s' = true → (t.k a).Inside held inside s'
  apart : ¬inside t.lab → ∀ a, (t.k a).Outside held inside

/-- Two tasks that are not both inside on one page. -/
def Apart (t t' : Task ι Λ R A ε σ) : Prop := inside t.lab → inside t'.lab → t.who ≠ t'.who

/-- The invariant: one task inside a page at most, and the flag up as long as there is one. -/
structure Sys.Held (s : Sys ι Λ R A ε σ β) : Prop where
  task : ∀ t ∈ s.tasks, t.Held held inside s.pages
  apart : s.tasks.Pairwise (Apart inside)

variable {held inside}

theorem Apart.symm {t t' : Task ι Λ R A ε σ} (h : Apart inside t t') : Apart inside t' t :=
  fun ht' ht => (h ht ht').symm

/-- The `n`-th task is apart from the others. -/
theorem Sys.Held.others {s : Sys ι Λ R A ε σ β} (h : s.Held held inside) {n : ℕ}
    {t : Task ι Λ R A ε σ} (ht : s.tasks[n]? = some t) :
    (∀ t' ∈ s.tasks.eraseIdx n, Apart inside t t') ∧
      (s.tasks.eraseIdx n).Pairwise (Apart inside) :=
  pairwise_eraseIdx Apart.symm ht h.apart

theorem Sys.Held.eraseIdx {s : Sys ι Λ R A ε σ β} (h : s.Held held inside) {n : ℕ}
    {t : Task ι Λ R A ε σ} (ht : s.tasks[n]? = some t) :
    Sys.Held held inside { s with tasks := s.tasks.eraseIdx n } :=
  ⟨fun t' ht' => h.task t' (List.mem_of_mem_eraseIdx ht'), (h.others ht).2⟩

/-- Recording an answer changes neither the page nor the place of a task. -/
theorem Sys.Held.answer {s : Sys ι Λ R A ε σ β} (h : s.Held held inside) {n : ℕ}
    {t : Task ι Λ R A ε σ} (ht : s.tasks[n]? = some t) (a : Except ε (A t.req)) :
    (s.answer n t a).Held held inside := by
  have htask := h.task t (List.mem_of_getElem? ht)
  obtain ⟨hfirst, hrest⟩ := h.others ht
  obtain ⟨hn, -⟩ := List.getElem?_eq_some_iff.mp ht
  refine ⟨fun t' ht' => ?_, ?_⟩
  · rcases List.mem_or_eq_of_mem_set ht' with ht' | rfl
    · exact h.task t' ht'
    · exact ⟨htask.up, htask.goesOn, htask.apart⟩
  · refine ((List.set_perm_cons_eraseIdx hn _).pairwise_iff Apart.symm).mpr ?_
    exact List.pairwise_cons.mpr ⟨hfirst, hrest⟩

theorem Sys.Held.init (b : β) (pages : ι → σ) :
    (Sys.init b pages : Sys ι Λ R A ε σ β).Held held inside :=
  ⟨fun t ht => absurd ht (by simp [Sys.init]), List.Pairwise.nil⟩

section Steps

variable [DecidableEq ι]

/-- A program that leaves the flag alone starts or goes on. -/
theorem Sys.Held.start_outside {s : Sys ι Λ R A ε σ β} (h : s.Held held inside) {i : ι}
    {p : Prog Λ R A ε σ Unit} (hp : p.Outside held inside) : (s.start i p).Held held inside := by
  obtain ⟨hpage, hnew⟩ := hp.seg (i := i) (s.pages i)
  have hflag : ∀ j, held ((s.start i p).pages j) = held (s.pages j) := by
    intro j
    by_cases hj : j = i
    · subst hj
      simpa [Sys.start] using hpage
    · simp [Sys.start, Function.update_of_ne hj]
  refine ⟨fun t ht => ?_, ?_⟩
  · rcases List.mem_append.mp ht with ht | ht
    · have hold := h.task t ht
      exact ⟨fun hin => (hflag t.who).trans (hold.up hin), hold.goesOn, hold.apart⟩
    · obtain ⟨-, hout, hk⟩ := hnew t (Option.mem_toList.mp ht)
      exact ⟨fun hin => absurd hin hout, fun hin => absurd hin hout, fun _ => hk⟩
  · refine List.pairwise_append.mpr ⟨h.apart, ?_, fun t _ t' ht' _ hin => ?_⟩
    · rcases (p.seg i (s.pages i)).2 with _ | t
      · exact List.Pairwise.nil
      · exact List.pairwise_singleton _ _
    · exact absurd hin (hnew t' (Option.mem_toList.mp ht')).2.1

/-- The program starts or goes on, on a page where no other is suspended inside. -/
theorem Sys.Held.start_inside {s : Sys ι Λ R A ε σ β} (h : s.Held held inside) {i : ι}
    (halone : ∀ t ∈ s.tasks, inside t.lab → t.who ≠ i) {p : Prog Λ R A ε σ Unit}
    (hp : p.Inside held inside (s.pages i)) : (s.start i p).Held held inside := by
  have hold : ∀ t ∈ s.tasks, t.Held held inside (s.start i p).pages := by
    intro t ht
    have htask := h.task t ht
    refine ⟨fun hin => ?_, htask.goesOn, htask.apart⟩
    have hne := halone t ht hin
    simpa [Sys.start, Function.update_of_ne hne] using htask.up hin
  rcases hp.seg (i := i) with ⟨hnone, -⟩ | ⟨t, hsome, hup, hwho, hin, hk⟩
  · have htasks : (s.start i p).tasks = s.tasks := by simp [Sys.start, hnone]
    exact ⟨by rwa [htasks], by rw [htasks]; exact h.apart⟩
  · have htasks : (s.start i p).tasks = s.tasks ++ [t] := by simp [Sys.start, hsome]
    refine ⟨fun t' ht' => ?_, ?_⟩
    · rw [htasks] at ht'
      rcases List.mem_append.mp ht' with ht' | ht'
      · exact hold t' ht'
      · obtain rfl := List.mem_singleton.mp ht'
        refine ⟨fun _ => ?_, fun _ => hk, fun hout => absurd hin hout⟩
        rw [hwho]
        simpa [Sys.start] using hup
    · rw [htasks]
      refine List.pairwise_append.mpr ⟨h.apart, List.pairwise_singleton _ _, ?_⟩
      intro t' ht' t'' ht'' hin' _
      rw [List.mem_singleton.mp ht'', hwho]
      exact halone t' ht' hin'

theorem Sys.Held.step (S : Spec ι Λ R A ε σ β Ev)
    (hon : ∀ i ev s p, S.on i ev s = some p →
      p.Outside held inside ∨ held s = false ∧ p.Inside held inside s)
    {s s' : Sys ι Λ R A ε σ β} {a : Act ι Ev β} (h : s.Held held inside)
    (hs : s.step S a = some s') : s'.Held held inside := by
  cases Sys.step_cases hs with
  | @event i ev p hp =>
    rcases hon _ _ _ _ hp with hout | ⟨hdown, hin⟩
    · exact h.start_outside hout
    · refine h.start_inside (fun t ht hin' hwho => ?_) hin
      have hup := (h.task t ht).up hin'
      rw [hwho, hdown] at hup
      cases hup
  | serve ht _ =>
    have hans := h.answer ht (S.handler _ s.base).1
    exact ⟨hans.task, hans.apart⟩
  | lose ht _ => exact h.answer ht _
  | @resume n t a ht hans =>
    have htask := h.task t (List.mem_of_getElem? ht)
    have hrest := h.eraseIdx ht
    by_cases hin : inside t.lab
    · refine hrest.start_inside (fun t' ht' hin' => ?_) (htask.goesOn hin a _ (htask.up hin))
      exact ((h.others ht).1 t' ht' hin hin').symm
    · exact hrest.start_outside (htask.apart hin a)
  | other b => exact ⟨h.task, h.apart⟩

/-- A task inside finds the flag up whenever it is resumed. -/
theorem Sys.allMeet_held (S : Spec ι Λ R A ε σ β Ev)
    (hon : ∀ i ev s p, S.on i ev s = some p →
      p.Outside held inside ∨ held s = false ∧ p.Inside held inside s)
    {s : Sys ι Λ R A ε σ β} (h : s.Held held inside) (as : List (Act ι Ev β)) :
    AllMeet (Sys.step S) (Sys.Resumes fun _ x p => inside x.lab → held p = true) s as := by
  refine allMeet_of_invariant (fun s a s' hs hst => hs.step S hon hst) (fun s a hs => ?_) h as
  cases a with
  | resume n => exact fun t ht a _ hin => (hs.task t (List.mem_of_getElem? ht)).up hin
  | _ => trivial

/-! The programs that are suspended outside. -/

variable (inside) in
/-- Those suspended outside go on as programs of the kind `N`. -/
def Sys.Bystanders (N : Prog Λ R A ε σ Unit → Prop) (s : Sys ι Λ R A ε σ β) : Prop :=
  ∀ t ∈ s.tasks, ¬inside t.lab → ∀ a, N (t.k a)

omit [DecidableEq ι] in
theorem Sys.Bystanders.init {N : Prog Λ R A ε σ Unit → Prop} (b : β) (pages : ι → σ) :
    (Sys.init b pages : Sys ι Λ R A ε σ β).Bystanders inside N :=
  fun _ ht => absurd ht List.not_mem_nil

theorem Sys.Bystanders.start {N : Prog Λ R A ε σ Unit → Prop} {s : Sys ι Λ R A ε σ β}
    (h : s.Bystanders inside N) {i : ι} {p : Prog Λ R A ε σ Unit}
    (hp : ∀ t ∈ (p.seg i (s.pages i)).2, ¬inside t.lab → ∀ a, N (t.k a)) :
    (s.start i p).Bystanders inside N := by
  intro t ht
  rcases List.mem_append.mp ht with ht | ht
  · exact h t ht
  · exact hp t (Option.mem_toList.mp ht)

theorem Sys.Bystanders.step (S : Spec ι Λ R A ε σ β Ev) {N : Prog Λ R A ε σ Unit → Prop}
    (hN : ∀ (i : ι) p s, N p → ∀ t ∈ (p.seg i s).2, ∀ a, N (t.k a))
    (hon : ∀ i ev s p, S.on i ev s = some p → N p ∨ p.Inside held inside s)
    {s s' : Sys ι Λ R A ε σ β} {a : Act ι Ev β} (h : s.Bystanders inside N)
    (hheld : s.Held held inside) (hs : s.step S a = some s') :
    s'.Bystanders inside N := by
  have hinside : ∀ (i : ι) (p : Prog Λ R A ε σ Unit) s, p.Inside held inside s →
      ∀ t ∈ (p.seg i s).2, ¬inside t.lab → ∀ a, N (t.k a) := by
    intro i p s hp t ht hout
    rcases hp.seg (i := i) with ⟨hnone, -⟩ | ⟨t', hsome, -, -, hin, -⟩
    · rw [hnone] at ht
      cases ht
    · rw [hsome] at ht
      exact absurd (Option.some.inj ht ▸ hin) hout
  cases Sys.step_cases hs with
  | @event i ev p hp =>
    rcases hon _ _ _ _ hp with hout | hin
    · exact h.start fun t ht _ => hN i p _ hout t ht
    · exact h.start (hinside i p _ hin)
  | @serve n t ht _ =>
    intro t' ht'
    rcases List.mem_or_eq_of_mem_set ht' with ht' | rfl
    · exact h t' ht'
    · exact h t (List.mem_of_getElem? ht)
  | @lose n t ht _ =>
    intro t' ht'
    rcases List.mem_or_eq_of_mem_set ht' with ht' | rfl
    · exact h t' ht'
    · exact h t (List.mem_of_getElem? ht)
  | @resume n t a ht hans =>
    have hmem := List.mem_of_getElem? ht
    have hrest : Sys.Bystanders inside N { s with tasks := s.tasks.eraseIdx n } :=
      fun t' ht' => h t' (List.mem_of_mem_eraseIdx ht')
    by_cases hin : inside t.lab
    · exact hrest.start (hinside t.who _ _ ((hheld.task t hmem).goesOn hin a _
        ((hheld.task t hmem).up hin)))
    · exact hrest.start fun t' ht' _ => hN t.who _ _ (h t hmem hin a) t' ht'
  | other b => exact h

end Steps

end Systems

end Lib
