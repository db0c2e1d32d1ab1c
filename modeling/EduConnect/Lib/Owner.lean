import EduConnect.Lib.Lock

/-!
# A program that has a part of its page to itself

A program whose awaits are `inside` is started only when no other such program is suspended on the
page, and the programs outside move the page along a relation `rely` only.  Then a program inside
may assume, when it is resumed, that the page has moved along `rely` since it was suspended
(`Prog.Owns`), and a page with no program suspended inside is as the last one has left it, up to
`rely` (`Sys.always_owned`).
-/

namespace Lib

variable {ι Λ R : Type} {A : R → Type} {ε σ β Ev α : Type} (rely : σ → σ → Prop)
  (inside : Λ → Prop) (C : Exchange ι Λ R A ε → Prop)
  (Post : List (Exchange ι Λ R A ε) → ι → σ → Prop)

namespace Prog

/-- A program that moves the page along `rely` and has no await inside. -/
structure Yields (p : Prog Λ R A ε σ α) : Prop where
  keeps : ∀ s, p.Keeps (rely s)
  issues : p.Issues fun l _ => ¬inside l

/-- From page `s` and log `w` on, `p` run by client `i` awaits inside only and ends in `Q`, if its
answers meet `C` and the page moves along `rely` while it is suspended. -/
def Owns (i : ι) (Q : Except ε α → List (Exchange ι Λ R A ε) → σ → Prop) :
    Prog Λ R A ε σ α → List (Exchange ι Λ R A ε) → σ → Prop
  | ret a, w, s => Q (.ok a) w s
  | fail e, w, s => Q (.error e) w s
  | read k, w, s => (k s).Owns i Q w s
  | write f p, w, s => p.Owns i Q w (f s)
  | await l r k, w, s => inside l ∧ ∀ a w' s', w <+: w' → ⟨i, l, r, a⟩ ∈ w' → C ⟨i, l, r, a⟩ →
      rely s s' → (k a).Owns i Q w' s'

variable {rely inside C} {i : ι} {w : List (Exchange ι Λ R A ε)} {s : σ} {γ : Type}

theorem owns_fail {e : ε} {Q : Except ε α → List (Exchange ι Λ R A ε) → σ → Prop} :
    (fail e : Prog Λ R A ε σ α).Owns rely inside C i Q w s ↔ Q (.error e) w s := Iff.rfl

theorem owns_page {f : σ → Prog Λ R A ε σ α}
    {Q : Except ε α → List (Exchange ι Λ R A ε) → σ → Prop} :
    (page.bind f).Owns rely inside C i Q w s ↔ (f s).Owns rely inside C i Q w s := Iff.rfl

theorem owns_setState {g : σ → σ} {f : Unit → Prog Λ R A ε σ α}
    {Q : Except ε α → List (Exchange ι Λ R A ε) → σ → Prop} :
    ((setState g).bind f).Owns rely inside C i Q w s ↔ (f ()).Owns rely inside C i Q w (g s) :=
  Iff.rfl

theorem owns_setState_ret {g : σ → σ}
    {Q : Except ε Unit → List (Exchange ι Λ R A ε) → σ → Prop} :
    (setState g : Prog Λ R A ε σ Unit).Owns rely inside C i Q w s ↔ Q (.ok ()) w (g s) := Iff.rfl

theorem owns_ofExcept_bind {a : Except ε α} {f : α → Prog Λ R A ε σ γ}
    {Q : Except ε γ → List (Exchange ι Λ R A ε) → σ → Prop} :
    ((ofExcept a).bind f).Owns rely inside C i Q w s ↔ match a with
      | .ok a => (f a).Owns rely inside C i Q w s
      | .error e => Q (.error e) w s := by
  cases a <;> rfl

/-- Awaiting an answer and going on with it. -/
theorem owns_call_bind {l : Λ} {r : R} {f : A r → Prog Λ R A ε σ α}
    {Q : Except ε α → List (Exchange ι Λ R A ε) → σ → Prop} :
    ((call l r).bind f).Owns rely inside C i Q w s ↔
      inside l ∧ ∀ a w' s', w <+: w' → ⟨i, l, r, a⟩ ∈ w' → C ⟨i, l, r, a⟩ → rely s s' →
        match a with
          | .ok a => (f a).Owns rely inside C i Q w' s'
          | .error e => Q (.error e) w' s' := by
  refine and_congr_right fun _ => forall_congr' fun a => ?_
  cases a <;> rfl

/-- A program inside that moves the page along `rely` only. -/
theorem Keeps.owns {Q : List (Exchange ι Λ R A ε) → σ → Prop}
    (hQ : ∀ w w' s, w <+: w' → Q w s → Q w' s) (hstable : ∀ w s s', rely s s' → Q w s → Q w s')
    (hrefl : ∀ s, rely s s) {p : Prog Λ R A ε σ α} (hp : ∀ s, p.Keeps (rely s))
    (hi : p.Issues fun l _ => inside l) (h : Q w s) :
    p.Owns rely inside C i (fun _ v x => Q v x) w s := by
  induction p generalizing w s with
  | ret a => exact h
  | fail e => exact h
  | read k ih => exact ih s (fun s₀ => hp s₀ s) (hi s) h
  | write f p ih =>
    exact ih (fun s₀ => (hp s₀).2) hi (hstable w s (f s) ((hp s).1 s (hrefl s)) h)
  | await l r k ih =>
    refine ⟨hi.1, fun a w' s' hw _ _ hs => ?_⟩
    exact ih a (fun s₀ => hp s₀ a) (hi.2 a) (hstable w' s s' hs (hQ w w' s hw h))

theorem Yields.seg (hrefl : ∀ s, rely s s) {p : Prog Λ R A ε σ Unit}
    (hp : p.Yields rely inside) (s : σ) :
    rely s (p.seg i s).1 ∧ ∀ t ∈ (p.seg i s).2, t.who = i ∧ t.ans = none ∧ ¬inside t.lab ∧
      ∀ a, (t.k a).Yields rely inside := by
  refine ⟨((hp.keeps s).seg s).1 (hrefl s), fun t ht => ?_⟩
  obtain ⟨hwho, hans, hout, hissues⟩ := hp.issues.seg s t ht
  exact ⟨hwho, hans, hout, fun a => ⟨fun s₀ => ((hp.keeps s₀).seg s).2 t ht a, hissues a⟩⟩

theorem Owns.seg {Q : Except ε Unit → List (Exchange ι Λ R A ε) → σ → Prop}
    {p : Prog Λ R A ε σ Unit} (hp : p.Owns rely inside C i Q w s) :
    ((p.seg i s).2 = none ∧ ∃ a, Q a w (p.seg i s).1) ∨
      ∃ t, (p.seg i s).2 = some t ∧ t.who = i ∧ t.ans = none ∧ inside t.lab ∧
        ∀ a w' s', w <+: w' → ⟨i, t.lab, t.req, a⟩ ∈ w' → C ⟨i, t.lab, t.req, a⟩ →
          rely (p.seg i s).1 s' → (t.k a).Owns rely inside C i Q w' s' := by
  induction p generalizing s with
  | ret a => exact Or.inl ⟨rfl, .ok a, hp⟩
  | fail e => exact Or.inl ⟨rfl, .error e, hp⟩
  | read k ih => exact ih s hp
  | write f p ih => exact ih hp
  | await l r k ih => exact Or.inr ⟨⟨i, l, r, k, none⟩, rfl, rfl, rfl, hp.1, hp.2⟩

end Prog

/-! ## Systems -/

/-- A suspended program: one inside goes on from the page as it left it, moved along `rely`. -/
structure Task.Owned (w : List (Exchange ι Λ R A ε)) (pages : ι → σ) (t : Task ι Λ R A ε σ) :
    Prop where
  logged : ∀ a, t.ans = some a → ⟨t.who, t.lab, t.req, a⟩ ∈ w
  owner : inside t.lab → ∃ s₀, rely s₀ (pages t.who) ∧ ∀ a w' s', w <+: w' →
    ⟨t.who, t.lab, t.req, a⟩ ∈ w' → C ⟨t.who, t.lab, t.req, a⟩ → rely s₀ s' →
    (t.k a).Owns rely inside C t.who (fun _ v x => Post v t.who x) w' s'
  other : ¬inside t.lab → ∀ a, (t.k a).Yields rely inside

/-- The invariant: a page without a program inside is in `Post`, the others have one. -/
structure Sys.Owned (s : Sys ι Λ R A ε σ β) : Prop where
  task : ∀ t ∈ s.tasks, t.Owned rely inside C Post s.log s.pages
  apart : s.tasks.Pairwise (Apart inside)
  page : ∀ i, (∀ t ∈ s.tasks, t.who = i → ¬inside t.lab) → Post s.log i (s.pages i)

/-- The condition on an event of the kind `E`: no program is suspended inside on the page. -/
def Sys.Alone (E : Ev → Prop) (s : Sys ι Λ R A ε σ β) : Act ι Ev β → Prop
  | .event i ev => E ev → ∀ t ∈ s.tasks, t.who = i → ¬inside t.lab
  | _ => True

variable {rely inside C Post}

section Steps

variable (hrefl : ∀ s, rely s s) (htrans : ∀ s s' s'', rely s s' → rely s' s'' → rely s s'')
  (hmono : ∀ w w' i s, w <+: w' → Post w i s → Post w' i s)
  (hstable : ∀ w i s s', rely s s' → Post w i s → Post w i s')

theorem Sys.Owned.eraseIdx_apart {s : Sys ι Λ R A ε σ β} (h : s.Owned rely inside C Post) {n : ℕ}
    {t : Task ι Λ R A ε σ} (ht : s.tasks[n]? = some t) :
    (∀ t' ∈ s.tasks.eraseIdx n, Apart inside t t') ∧
      (s.tasks.eraseIdx n).Pairwise (Apart inside) :=
  pairwise_eraseIdx Apart.symm ht h.apart

include hmono in
/-- Recording an answer lets the log grow. -/
theorem Sys.Owned.answer {s : Sys ι Λ R A ε σ β} (h : s.Owned rely inside C Post) {n : ℕ}
    {t : Task ι Λ R A ε σ} (ht : s.tasks[n]? = some t) (a : Except ε (A t.req)) :
    (s.answer n t a).Owned rely inside C Post := by
  have hw : s.log <+: (s.answer n t a).log := List.prefix_append _ _
  have htask := h.task t (List.mem_of_getElem? ht)
  obtain ⟨hfirst, hrest⟩ := h.eraseIdx_apart ht
  obtain ⟨hn, -⟩ := List.getElem?_eq_some_iff.mp ht
  have hperm := List.set_perm_cons_eraseIdx hn { t with ans := some a }
  refine ⟨fun t' ht' => ?_, ?_, fun i hi => ?_⟩
  · rcases List.mem_or_eq_of_mem_set ht' with ht' | rfl
    · have hold := h.task t' ht'
      refine ⟨fun a ha => hw.subset (hold.logged a ha), fun hin => ?_, hold.other⟩
      obtain ⟨s₀, hs₀, hgo⟩ := hold.owner hin
      exact ⟨s₀, hs₀, fun a w' s' hw' => hgo a w' s' (hw.trans hw')⟩
    · refine ⟨fun b hb => ?_, fun hin => ?_, htask.other⟩
      · obtain rfl : a = b := by simpa using hb
        simp [Sys.answer]
      · obtain ⟨s₀, hs₀, hgo⟩ := htask.owner hin
        exact ⟨s₀, hs₀, fun a w' s' hw' => hgo a w' s' (hw.trans hw')⟩
  · refine (hperm.pairwise_iff Apart.symm).mpr ?_
    exact List.pairwise_cons.mpr ⟨hfirst, hrest⟩
  · refine hmono _ _ _ _ hw (h.page i fun t' ht' hwho => ?_)
    rcases eq_or_mem_eraseIdx ht ht' with rfl | hmem
    · exact hi { t' with ans := some a } (hperm.mem_iff.mpr List.mem_cons_self) hwho
    · exact hi t' (hperm.mem_iff.mpr (List.mem_cons_of_mem _ hmem)) hwho

theorem Sys.Owned.init {pages : ι → σ} (h : ∀ i, Post [] i (pages i)) (b : β) :
    (Sys.init b pages : Sys ι Λ R A ε σ β).Owned rely inside C Post :=
  ⟨fun _ ht => absurd ht List.not_mem_nil, List.Pairwise.nil, fun i _ => h i⟩

variable [DecidableEq ι]

include hrefl htrans hstable in
/-- A program outside starts or goes on. -/
theorem Sys.Owned.start_yields {s : Sys ι Λ R A ε σ β} (h : s.Owned rely inside C Post) {i : ι}
    {p : Prog Λ R A ε σ Unit} (hp : p.Yields rely inside) :
    (s.start i p).Owned rely inside C Post := by
  obtain ⟨hpage, hnew⟩ := hp.seg (i := i) hrefl (s.pages i)
  have hmoved : ∀ j, rely (s.pages j) ((s.start i p).pages j) := by
    intro j
    by_cases hj : j = i
    · subst hj
      simpa [Sys.start] using hpage
    · simpa [Sys.start, Function.update_of_ne hj] using hrefl (s.pages j)
  refine ⟨fun t ht => ?_, ?_, fun j hj => ?_⟩
  · rcases List.mem_append.mp ht with ht | ht
    · have hold := h.task t ht
      refine ⟨hold.logged, fun hin => ?_, hold.other⟩
      obtain ⟨s₀, hs₀, hgo⟩ := hold.owner hin
      exact ⟨s₀, htrans _ _ _ hs₀ (hmoved t.who), hgo⟩
    · obtain ⟨-, hans, hout, hk⟩ := hnew t (Option.mem_toList.mp ht)
      refine ⟨fun a ha => ?_, fun hin => absurd hin hout, fun _ => hk⟩
      rw [hans] at ha
      cases ha
  · refine List.pairwise_append.mpr ⟨h.apart, ?_, fun t _ t' ht' _ hin => ?_⟩
    · rcases (p.seg i (s.pages i)).2 with _ | t
      · exact List.Pairwise.nil
      · exact List.pairwise_singleton _ _
    · exact absurd hin (hnew t' (Option.mem_toList.mp ht')).2.2.1
  · refine hstable _ _ _ _ (hmoved j) (h.page j fun t ht hwho => ?_)
    exact hj t (List.mem_append_left _ ht) hwho

/-- A program inside starts or goes on, on a page where no other is suspended. -/
theorem Sys.Owned.start_owns (hrefl : ∀ s, rely s s) {s : Sys ι Λ R A ε σ β} {i : ι}
    (htask : ∀ t ∈ s.tasks, t.Owned rely inside C Post s.log s.pages)
    (hapart : s.tasks.Pairwise (Apart inside))
    (hpage : ∀ j, j ≠ i → (∀ t ∈ s.tasks, t.who = j → ¬inside t.lab) → Post s.log j (s.pages j))
    (halone : ∀ t ∈ s.tasks, t.who = i → ¬inside t.lab) {p : Prog Λ R A ε σ Unit}
    (hp : p.Owns rely inside C i (fun _ v x => Post v i x) s.log (s.pages i)) :
    (s.start i p).Owned rely inside C Post := by
  have hold : ∀ t ∈ s.tasks, t.Owned rely inside C Post s.log (s.start i p).pages := by
    intro t ht
    refine ⟨(htask t ht).logged, fun hin => ?_, (htask t ht).other⟩
    have hne : t.who ≠ i := fun hwho => halone t ht hwho hin
    simpa [Sys.start, Function.update_of_ne hne] using (htask t ht).owner hin
  have hothers : ∀ j, j ≠ i → (∀ t ∈ s.tasks, t.who = j → ¬inside t.lab) →
      Post s.log j ((s.start i p).pages j) := by
    intro j hne hj
    simpa [Sys.start, Function.update_of_ne hne] using hpage j hne hj
  rcases hp.seg with ⟨hnone, -, hpost⟩ | ⟨t, hsome, hwho, hans, hin, hk⟩
  · have htasks : (s.start i p).tasks = s.tasks := by simp [Sys.start, hnone]
    refine ⟨by rwa [htasks], by rwa [htasks], fun j hj => ?_⟩
    rw [htasks] at hj
    by_cases hne : j = i
    · subst hne
      simpa [Sys.start] using hpost
    · exact hothers j hne hj
  · have htasks : (s.start i p).tasks = s.tasks ++ [t] := by simp [Sys.start, hsome]
    refine ⟨fun t' ht' => ?_, ?_, fun j hj => ?_⟩
    · rw [htasks] at ht'
      rcases List.mem_append.mp ht' with ht' | ht'
      · exact hold t' ht'
      obtain rfl := List.mem_singleton.mp ht'
      refine ⟨fun a ha => ?_, fun _ => ?_, fun hout => absurd hin hout⟩
      · rw [hans] at ha
        cases ha
      · rw [hwho]
        exact ⟨_, hrefl _, fun a w' s' hw hmem hC hs => hk a w' s' hw hmem hC
          (by simpa [Sys.start] using hs)⟩
    · rw [htasks]
      refine List.pairwise_append.mpr ⟨hapart, List.pairwise_singleton _ _, ?_⟩
      intro t' ht' t'' ht'' hin' _ heq
      rw [List.mem_singleton.mp ht'', hwho] at heq
      exact halone t' ht' heq hin'
    · rw [htasks] at hj
      have hne : j ≠ i := by
        rintro rfl
        exact hj t (List.mem_append_right _ List.mem_cons_self) hwho hin
      exact hothers j hne fun t' ht' => hj t' (List.mem_append_left _ ht')

include hrefl htrans hmono hstable in
/-- **Step rule**: an event starts a program outside, or one inside on a page without another. -/
theorem Sys.Owned.step (S : Spec ι Λ R A ε σ β Ev) {E : Ev → Prop}
    (hon : ∀ w i ev s p, S.on i ev s = some p → p.Yields rely inside ∨
      E ev ∧ (Post w i s → p.Owns rely inside C i (fun _ v x => Post v i x) w s))
    {s s' : Sys ι Λ R A ε σ β} {a : Act ι Ev β} (h : s.Owned rely inside C Post)
    (halone : s.Alone inside E a) (hC : s.Resumes (fun _ x _ => C x) a)
    (hs : s.step S a = some s') : s'.Owned rely inside C Post := by
  cases Sys.step_cases hs with
  | @event i ev p hp =>
    rcases hon s.log _ _ _ _ hp with hout | ⟨hE, hin⟩
    · exact h.start_yields hrefl htrans hstable hout
    · exact Sys.Owned.start_owns hrefl h.task h.apart (fun j _ => h.page j) (halone hE)
        (hin (h.page i (halone hE)))
  | serve ht _ =>
    have hans := h.answer hmono ht (S.handler _ s.base).1
    exact ⟨hans.task, hans.apart, hans.page⟩
  | lose ht _ => exact h.answer hmono ht _
  | @resume n t a ht hans =>
    have hmem := List.mem_of_getElem? ht
    have htask := h.task t hmem
    obtain ⟨hfirst, hapart⟩ := h.eraseIdx_apart ht
    have hrest : ∀ t' ∈ s.tasks.eraseIdx n, t'.Owned rely inside C Post s.log s.pages :=
      fun t' ht' => h.task t' (List.mem_of_mem_eraseIdx ht')
    by_cases hin : inside t.lab
    · obtain ⟨s₀, hs₀, hgo⟩ := htask.owner hin
      refine Sys.Owned.start_owns (s := { s with tasks := s.tasks.eraseIdx n }) hrefl hrest hapart
        (fun j hne hj => h.page j fun t' ht' hwho => ?_) (fun t' ht' hwho hin' => ?_)
        (hgo a _ _ (List.prefix_refl _) (htask.logged a hans) (hC t ht a hans) hs₀)
      · rcases eq_or_mem_eraseIdx ht ht' with rfl | hmem'
        · exact absurd hwho.symm hne
        · exact hj t' hmem' hwho
      · exact hfirst t' ht' hin hin' hwho.symm
    · have hsys : Sys.Owned rely inside C Post { s with tasks := s.tasks.eraseIdx n } := by
        refine ⟨hrest, hapart, fun j hj => h.page j fun t' ht' hwho => ?_⟩
        rcases eq_or_mem_eraseIdx ht ht' with rfl | hmem'
        · exact hin
        · exact hj t' hmem' hwho
      exact hsys.start_yields hrefl htrans hstable (htask.other hin a)
  | other b => exact ⟨h.task, h.apart, h.page⟩

include hrefl htrans hmono hstable in
/-- **Run rule**: along a run whose events of the kind `E` find no program inside on their page and
whose answers meet `C`, the invariant holds in every state. -/
theorem Sys.always_owned (S : Spec ι Λ R A ε σ β Ev) {E : Ev → Prop}
    (hon : ∀ w i ev s p, S.on i ev s = some p → p.Yields rely inside ∨
      E ev ∧ (Post w i s → p.Owns rely inside C i (fun _ v x => Post v i x) w s))
    {s : Sys ι Λ R A ε σ β} (h : s.Owned rely inside C Post) {as : List (Act ι Ev β)}
    (halone : AllMeet (Sys.step S) (Sys.Alone inside E) s as)
    (hC : AllMeet (Sys.step S) (Sys.Resumes fun _ x _ => C x) s as) :
    Always (Sys.step S) (Sys.Owned rely inside C Post) s as :=
  always_of_allMeet (fun _ _ _ hs hc hst => hs.step hrefl htrans hmono hstable S hon hc.1 hc.2 hst)
    h (halone.and hC)

end Steps

/-! Outside this file programs inside are taken apart by the rules only. -/

attribute [irreducible] Prog.Owns

end Lib
