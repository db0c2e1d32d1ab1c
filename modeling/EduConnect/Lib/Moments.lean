import EduConnect.Lib.Lock

/-!
# Requests and the page of their moment

A program reads its page again after an await, whatever has happened to it since: `Prog.IssuesAt`
says that each request goes with the page it is sent from, and `Sys.sent_of_step` that a step sends
the request its program has reached and no other.
-/

namespace Lib

variable {ι Λ R : Type} {A : R → Type} {ε σ β Ev α γ : Type}

namespace Prog

/-- Every request is issued under `G` of the page it is sent from; at an await the page may become
any other. -/
def IssuesAt (G : σ → Λ → R → Prop) : Prog Λ R A ε σ α → σ → Prop
  | ret _, _ => True
  | fail _, _ => True
  | read k, s => (k s).IssuesAt G s
  | write f p, s => p.IssuesAt G (f s)
  | await l r k, s => G s l r ∧ ∀ a s', (k a).IssuesAt G s'

section Rules

variable {G : σ → Λ → R → Prop} {H : Λ → R → Prop} {p : Prog Λ R A ε σ α} {s : σ}

theorem Issues.issuesAt (hp : p.Issues H) (hG : ∀ s l r, H l r → G s l r) : p.IssuesAt G s := by
  induction p generalizing s with
  | ret a => trivial
  | fail e => trivial
  | read k ih => exact ih s (hp s)
  | write f p ih => exact ih hp
  | await l r k ih => exact ⟨hG s l r hp.1, fun a s' => ih a (hp.2 a)⟩

theorem IssuesAt.bind {f : α → Prog Λ R A ε σ γ} (hp : p.IssuesAt G s)
    (hf : ∀ a s', (f a).IssuesAt G s') : (p.bind f).IssuesAt G s := by
  induction p generalizing s with
  | ret a => exact hf a s
  | fail e => trivial
  | read k ih => exact ih s hp
  | write g p ih => exact ih hp
  | await l r k ih => exact ⟨hp.1, fun a s' => ih a (hp.2 a s')⟩

theorem IssuesAt.catching {c : ε → Prog Λ R A ε σ α} (hp : p.IssuesAt G s)
    (hc : ∀ e s', (c e).IssuesAt G s') : (p.catching c).IssuesAt G s := by
  induction p generalizing s with
  | ret a => trivial
  | fail e => exact hc e s
  | read k ih => exact ih s hp
  | write g p ih => exact ih hp
  | await l r k ih => exact ⟨hp.1, fun a s' => ih a (hp.2 a s')⟩

theorem IssuesAt.ensuring (hp : p.IssuesAt G s) (f : σ → σ) : (p.ensuring f).IssuesAt G s := by
  induction p generalizing s with
  | ret a => trivial
  | fail e => trivial
  | read k ih => exact ih s hp
  | write g p ih => exact ih hp
  | await l r k ih => exact ⟨hp.1, fun a s' => ih a (hp.2 a s')⟩

theorem IssuesAt.ite {c : Prop} [Decidable c] {q : Prog Λ R A ε σ α} (hp : p.IssuesAt G s)
    (hq : q.IssuesAt G s) : (if c then p else q).IssuesAt G s := by
  by_cases hc : c
  · rwa [if_pos hc]
  · rwa [if_neg hc]

theorem issuesAt_call {l : Λ} {r : R} :
    (call l r : Prog Λ R A ε σ (A r)).IssuesAt G s ↔ G s l r := by
  refine and_iff_left fun a s' => ?_
  cases a <;> trivial

theorem issuesAt_page_bind {f : σ → Prog Λ R A ε σ γ} :
    (page.bind f).IssuesAt G s ↔ (f s).IssuesAt G s := Iff.rfl

theorem IssuesAt.ofExcept_bind {x : Except ε α} {f : α → Prog Λ R A ε σ γ}
    (h : ∀ a, x = .ok a → (f a).IssuesAt G s) : ((ofExcept x).bind f).IssuesAt G s := by
  cases x with
  | error e => trivial
  | ok a => exact h a rfl

/-- The request the synchronous part of a program leads to, if any, is issued under `G`. -/
theorem IssuesAt.seg {i : ι} {p : Prog Λ R A ε σ Unit} (hp : p.IssuesAt G s) :
    ∀ t ∈ (p.seg i s).2, G (p.seg i s).1 t.lab t.req ∧ ∀ a s', (t.k a).IssuesAt G s' := by
  induction p generalizing s with
  | ret a => simp [Prog.seg]
  | fail e => simp [Prog.seg]
  | read k ih => exact ih s hp
  | write f p ih => exact ih hp
  | await l r k ih =>
    intro t ht
    obtain rfl : ⟨i, l, r, k, none⟩ = t := by simpa [Prog.seg] using ht
    exact hp

end Rules

theorem ans_of_seg {i : ι} {p : Prog Λ R A ε σ Unit} {s : σ} {t : Task ι Λ R A ε σ}
    (ht : t ∈ (p.seg i s).2) : t.ans = none := by
  induction p generalizing s with
  | ret a => simp [Prog.seg] at ht
  | fail e => simp [Prog.seg] at ht
  | read k ih => exact ih s ht
  | write f p ih => exact ih ht
  | await l r k ih =>
    obtain rfl : ⟨i, l, r, k, none⟩ = t := by simpa [Prog.seg] using ht
    rfl

/-- The synchronous part of a program leads to an await of the label. -/
def Reaches (l : Λ) (p : Prog Λ R A ε σ Unit) (s : σ) : Prop :=
  match p with
  | ret _ => False
  | fail _ => False
  | read k => (k s).Reaches l s
  | write f p => p.Reaches l (f s)
  | await l' _ _ => l' = l

theorem reaches_iff (i : ι) {l : Λ} {p : Prog Λ R A ε σ Unit} {s : σ} :
    p.Reaches l s ↔ ∃ t ∈ (p.seg i s).2, t.lab = l := by
  induction p generalizing s with
  | ret a => simp [Prog.seg, Reaches]
  | fail e => simp [Prog.seg, Reaches]
  | read k ih => exact ih s
  | write f p ih => exact ih
  | await l' r k ih => simp [Prog.seg, Reaches]

end Prog

namespace Sys

/-- The program a step runs, and on whose page. -/
def runs (S : Spec ι Λ R A ε σ β Ev) (s : Sys ι Λ R A ε σ β) :
    Act ι Ev β → Option (ι × Prog Λ R A ε σ Unit)
  | .event i ev => (S.on i ev (s.pages i)).map fun p => (i, p)
  | .resume n =>
    match s.tasks[n]? with
    | some ⟨i, _, _, k, some a⟩ => some (i, k a)
    | _ => none
  | _ => none

/-- An event that happens runs a program on its page. -/
theorem runs_of_step_event [DecidableEq ι] {S : Spec ι Λ R A ε σ β Ev} {s s' : Sys ι Λ R A ε σ β}
    {i : ι} {ev : Ev} (h : s.step S (.event i ev) = some s') :
    ∃ p, s.runs S (.event i ev) = some (i, p) := by
  obtain ⟨p, hp, -⟩ := Option.map_eq_some_iff.mp h
  exact ⟨p, by rw [runs, hp]; rfl⟩

/-- How a step comes to run a program. -/
theorem step_of_runs [DecidableEq ι] {S : Spec ι Λ R A ε σ β Ev} {s s' : Sys ι Λ R A ε σ β}
    {a : Act ι Ev β} {i : ι} {p : Prog Λ R A ε σ Unit} (h : s.step S a = some s')
    (hruns : s.runs S a = some (i, p)) :
    (∃ ev, a = .event i ev ∧ S.on i ev (s.pages i) = some p ∧ s' = s.start i p) ∨
      ∃ n t b, s.tasks[n]? = some t ∧ i = t.who ∧ p = t.k b ∧
        s' = ({ s with tasks := s.tasks.eraseIdx n } : Sys ι Λ R A ε σ β).start t.who (t.k b) := by
  cases step_cases h with
  | @event j ev q hq =>
    rw [runs, hq] at hruns
    obtain ⟨rfl, rfl⟩ := Prod.mk.inj (Option.some.inj hruns)
    exact Or.inl ⟨ev, rfl, hq, rfl⟩
  | serve | lose | other => cases hruns
  | @resume n t b ht hans =>
    obtain ⟨j, l, r, k, _ | c⟩ := t
    · cases hans
    · obtain rfl : c = b := Option.some.inj hans
      rw [runs, ht] at hruns
      obtain ⟨rfl, rfl⟩ := Prod.mk.inj (Option.some.inj hruns)
      exact Or.inr ⟨n, _, c, ht, rfl, rfl, rfl⟩

/-- The request has been sent. -/
def Sent (r : R) (s : Sys ι Λ R A ε σ β) : Prop :=
  (∃ t ∈ s.tasks, t.req = r) ∨ ∃ x ∈ s.log, x.req = r

/-- Answered tasks are in the log, and what is suspended goes on as a program of the kind `N`. -/
structure Kind (N : Prog Λ R A ε σ Unit → Prop) (s : Sys ι Λ R A ε σ β) : Prop where
  logged : ∀ t ∈ s.tasks, ∀ a, t.ans = some a → ∃ x ∈ s.log, x.req = t.req
  kind : ∀ t ∈ s.tasks, ∀ a, N (t.k a)

/-- What a step does: it runs a program on a page and sends the request it leads to, or leaves the
pages and the requests alone. -/
inductive Moves (N : Prog Λ R A ε σ Unit → Prop) (S : Spec ι Λ R A ε σ β Ev) [DecidableEq ι]
    (s s' : Sys ι Λ R A ε σ β) (a : Act ι Ev β) : Prop where
  | stays (hruns : s.runs S a = none) (hpages : s'.pages = s.pages)
    (hsent : ∀ r, s'.Sent r ↔ s.Sent r)
  | runs (i : ι) (p : Prog Λ R A ε σ Unit) (hruns : s.runs S a = some (i, p))
    (hp : (∃ ev, a = .event i ev ∧ S.on i ev (s.pages i) = some p) ∨ ((∃ n, a = .resume n) ∧ N p))
    (hpages : s'.pages = Function.update s.pages i (p.seg i (s.pages i)).1)
    (hsent : ∀ r, s'.Sent r ↔ s.Sent r ∨ ∃ t ∈ (p.seg i (s.pages i)).2, t.req = r)

section Steps

variable [DecidableEq ι] {N : Prog Λ R A ε σ Unit → Prop} {S : Spec ι Λ R A ε σ β Ev}
  {s s' : Sys ι Λ R A ε σ β} {a : Act ι Ev β}

omit [DecidableEq ι] in
theorem Kind.init (b : β) (pages : ι → σ) : (Sys.init b pages : Sys ι Λ R A ε σ β).Kind N :=
  ⟨by simp [Sys.init], by simp [Sys.init]⟩

theorem sent_start {i : ι} {p : Prog Λ R A ε σ Unit} (r : R) :
    (s.start i p).Sent r ↔ s.Sent r ∨ ∃ t ∈ (p.seg i (s.pages i)).2, t.req = r := by
  show (∃ t ∈ s.tasks ++ _, t.req = r) ∨ (∃ x ∈ s.log, x.req = r) ↔ _
  simp only [List.mem_append, Option.mem_toList, or_and_right, exists_or]
  exact or_right_comm

omit [DecidableEq ι] in
/-- An answer logs a request that was sent. -/
theorem sent_answer {n : ℕ} {t : Task ι Λ R A ε σ} (ht : s.tasks[n]? = some t)
    (b : Except ε (A t.req)) (r : R) : (s.answer n t b).Sent r ↔ s.Sent r := by
  have hmem : t ∈ s.tasks := List.mem_of_getElem? ht
  constructor
  · rintro (⟨u, hu, rfl⟩ | ⟨x, hx, rfl⟩)
    · rcases List.mem_or_eq_of_mem_set hu with hu | rfl
      · exact Or.inl ⟨u, hu, rfl⟩
      · exact Or.inl ⟨t, hmem, rfl⟩
    · rcases List.mem_append.mp hx with hx | hx
      · exact Or.inr ⟨x, hx, rfl⟩
      · obtain rfl := List.mem_singleton.mp hx
        exact Or.inl ⟨t, hmem, rfl⟩
  · rintro (⟨u, hu, rfl⟩ | ⟨x, hx, rfl⟩)
    · obtain ⟨m, hm⟩ := List.mem_iff_getElem?.mp hu
      by_cases hnm : n = m
      · subst hnm
        obtain rfl := Option.some.inj (ht.symm.trans hm)
        exact Or.inr ⟨_, List.mem_append_right _ (List.mem_singleton_self _), rfl⟩
      · refine Or.inl ⟨u, List.mem_iff_getElem?.mpr ⟨m, ?_⟩, rfl⟩
        exact (List.getElem?_set_ne hnm).trans hm
    · exact Or.inr ⟨x, List.mem_append_left _ hx, rfl⟩

omit [DecidableEq ι] in
/-- An answered task may go: its request is in the log. -/
theorem sent_eraseIdx (h : s.Kind N) {n : ℕ} {t : Task ι Λ R A ε σ} {b : Except ε (A t.req)}
    (ht : s.tasks[n]? = some t) (hans : t.ans = some b) (r : R) :
    Sent r { s with tasks := s.tasks.eraseIdx n } ↔ s.Sent r := by
  constructor
  · rintro (⟨u, hu, rfl⟩ | hx)
    · exact Or.inl ⟨u, List.mem_of_mem_eraseIdx hu, rfl⟩
    · exact Or.inr hx
  · rintro (⟨u, hu, rfl⟩ | hx)
    · rcases eq_or_mem_eraseIdx ht hu with rfl | hmem
      · exact Or.inr (h.logged u hu b hans)
      · exact Or.inl ⟨u, hmem, rfl⟩
    · exact Or.inr hx

theorem Kind.moves (h : s.Kind N) (hstep : s.step S a = some s') : Moves N S s s' a := by
  cases step_cases hstep with
  | @event i ev p hp =>
    refine .runs i p ?_ (Or.inl ⟨ev, rfl, hp⟩) rfl fun r => sent_start r
    rw [runs, hp]
    rfl
  | serve ht hans => exact .stays rfl rfl fun r => sent_answer ht _ r
  | lose ht hans => exact .stays rfl rfl fun r => sent_answer ht _ r
  | @resume n t b ht hans =>
    have hN : N (t.k b) := h.kind t (List.mem_of_getElem? ht) b
    refine .runs t.who (t.k b) ?_ (Or.inr ⟨⟨n, rfl⟩, hN⟩) rfl fun r => ?_
    · obtain ⟨i, l, r, k, _ | c⟩ := t
      · cases hans
      · obtain rfl : c = b := Option.some.inj hans
        rw [runs, ht]
    · rw [sent_start, sent_eraseIdx h ht hans]
  | other b => exact .stays rfl rfl fun _ => Iff.rfl

theorem Kind.start (h : s.Kind N) {i : ι} {p : Prog Λ R A ε σ Unit}
    (hp : ∀ t ∈ (p.seg i (s.pages i)).2, t.ans = none ∧ ∀ b, N (t.k b)) : (s.start i p).Kind N := by
  refine ⟨fun t ht b hb => ?_, fun t ht b => ?_⟩
  · rcases List.mem_append.mp ht with ht | ht
    · exact h.logged t ht b hb
    · rw [(hp t (Option.mem_toList.mp ht)).1] at hb
      cases hb
  · rcases List.mem_append.mp ht with ht | ht
    · exact h.kind t ht b
    · exact (hp t (Option.mem_toList.mp ht)).2 b

omit [DecidableEq ι] in
theorem Kind.answer (h : s.Kind N) {n : ℕ} {t : Task ι Λ R A ε σ} (ht : s.tasks[n]? = some t)
    (b : Except ε (A t.req)) : (s.answer n t b).Kind N := by
  refine ⟨fun u hu c hc => ?_, fun u hu c => ?_⟩
  · rcases List.mem_or_eq_of_mem_set hu with hu | rfl
    · obtain ⟨x, hx, hreq⟩ := h.logged u hu c hc
      exact ⟨x, List.mem_append_left _ hx, hreq⟩
    · exact ⟨_, List.mem_append_right _ (List.mem_singleton_self _), rfl⟩
  · rcases List.mem_or_eq_of_mem_set hu with hu | rfl
    · exact h.kind u hu c
    · exact h.kind t (List.mem_of_getElem? ht) c

/-- **Step rule**: what is suspended stays of the kind `N`. -/
theorem Kind.step (hN : ∀ (i : ι) p x, N p → ∀ t ∈ (p.seg i x).2, ∀ b, N (t.k b))
    (hon : ∀ i ev x p, S.on i ev x = some p → ∀ t ∈ (p.seg i x).2, ∀ b, N (t.k b))
    (h : s.Kind N) (hstep : s.step S a = some s') : s'.Kind N := by
  cases step_cases hstep with
  | @event i ev p hp => exact h.start fun t ht => ⟨Prog.ans_of_seg ht, hon i ev _ p hp t ht⟩
  | serve ht hans =>
    have hans := h.answer ht (S.handler _ s.base).1
    exact ⟨hans.logged, hans.kind⟩
  | lose ht hans => exact h.answer ht _
  | @resume n t b ht hans =>
    have hrest : Sys.Kind N { s with tasks := s.tasks.eraseIdx n } :=
      ⟨fun u hu => h.logged u (List.mem_of_mem_eraseIdx hu),
        fun u hu => h.kind u (List.mem_of_mem_eraseIdx hu)⟩
    have hk : N (t.k b) := h.kind t (List.mem_of_getElem? ht) b
    exact hrest.start fun u hu => ⟨Prog.ans_of_seg hu, hN _ _ _ hk u hu⟩
  | other b => exact ⟨h.logged, h.kind⟩

end Steps

end Sys

end Lib
