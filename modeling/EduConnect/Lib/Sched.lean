import EduConnect.Lib.Prog
import EduConnect.Lib.Runs
import Mathlib.Data.List.Induction

/-!
# Interleaved execution of asynchronous programs

Any number of clients, each with its own page, run programs against one backend.  An event starts
a program on a page and runs it to its first await; a pending request is served by the backend (or
lost) at any later time, and its program is resumed with the answer at any time after that.  Every
exchange with the backend is logged.

`Prog.Ok` is the rely–guarantee rule: `I` is kept by every uninterrupted segment, every request is
issued under `G`, and a program may assume `C` when it is resumed.  `Sys.step_ok` carries it to all
interleavings.
-/

namespace Lib

/-- One exchange with the backend: who asked what at which await, and the answer. -/
structure Exchange (ι Λ R : Type) (A : R → Type) (ε : Type) where
  who : ι
  lab : Λ
  req : R
  ans : Except ε (A req)

/-- A program suspended at an await; `ans` is the answer once the request has been served. -/
structure Task (ι Λ R : Type) (A : R → Type) (ε σ : Type) where
  who : ι
  lab : Λ
  req : R
  k : Except ε (A req) → Prog Λ R A ε σ Unit
  ans : Option (Except ε (A req))

structure Sys (ι Λ R : Type) (A : R → Type) (ε σ β : Type) where
  base : β
  pages : ι → σ
  tasks : List (Task ι Λ R A ε σ)
  log : List (Exchange ι Λ R A ε)

inductive Act (ι Ev β : Type) where
  /-- A user event on the page of `i`. -/
  | event (i : ι) (ev : Ev)
  /-- The backend answers the request of the `n`-th task. -/
  | serve (n : ℕ)
  /-- The request of the `n`-th task is lost, without effect. -/
  | lose (n : ℕ)
  /-- The `n`-th task receives its answer. -/
  | resume (n : ℕ)
  /-- Somebody else changes the data of the backend to `b`. -/
  | other (b : β)

variable {ι Λ R : Type} {A : R → Type} {ε σ β Ev α : Type}

namespace Prog

/-- The first await of a program started in `s`, after its synchronous part; `none` at the end. -/
def seg (i : ι) : Prog Λ R A ε σ Unit → σ → σ × Option (Task ι Λ R A ε σ)
  | ret _, s => (s, none)
  | fail _, s => (s, none)
  | read k, s => (k s).seg i s
  | write f p, s => p.seg i (f s)
  | await l r k, s => (s, some ⟨i, l, r, k, none⟩)

end Prog

theorem Prog.Keeps.seg {i : ι} {J : σ → Prop} {p : Prog Λ R A ε σ Unit} (hp : p.Keeps J) (s : σ) :
    (J s → J (p.seg i s).1) ∧ ∀ t ∈ (p.seg i s).2, ∀ a, (t.k a).Keeps J := by
  induction p generalizing s with
  | ret a => exact ⟨id, by simp [Prog.seg]⟩
  | fail e => exact ⟨id, by simp [Prog.seg]⟩
  | read k ih => exact ih s (hp s) s
  | write f p ih => exact ⟨fun hs => (ih hp.2 (f s)).1 (hp.1 s hs), (ih hp.2 (f s)).2⟩
  | await l r k ih =>
    refine ⟨id, fun t ht => ?_⟩
    obtain rfl : ⟨i, l, r, k, none⟩ = t := by simpa [Prog.seg] using ht
    exact hp

theorem Prog.Issues.seg {i : ι} {G : Λ → R → Prop} {p : Prog Λ R A ε σ Unit} (hp : p.Issues G)
    (s : σ) : ∀ t ∈ (p.seg i s).2, t.who = i ∧ t.ans = none ∧ G t.lab t.req ∧
      ∀ a, (t.k a).Issues G := by
  induction p generalizing s with
  | ret a => simp [Prog.seg]
  | fail e => simp [Prog.seg]
  | read k ih => exact ih s (hp s) s
  | write f p ih => exact ih hp (f s)
  | await l r k ih =>
    intro t ht
    obtain rfl : ⟨i, l, r, k, none⟩ = t := by simpa [Prog.seg] using ht
    exact ⟨rfl, rfl, hp⟩

/-- The clients' programs, the backend and the error of a lost request. -/
structure Spec (ι Λ R : Type) (A : R → Type) (ε σ β Ev : Type) where
  handler : (r : R) → β → Except ε (A r) × β
  lost : ε
  /-- The program an event starts, if the page lets it happen. -/
  on : ι → Ev → σ → Option (Prog Λ R A ε σ Unit)

namespace Sys

variable [DecidableEq ι]

/-- Run `p` on the page of `i` up to its first await. -/
def start (i : ι) (p : Prog Λ R A ε σ Unit) (s : Sys ι Λ R A ε σ β) : Sys ι Λ R A ε σ β :=
  { s with
    pages := Function.update s.pages i (p.seg i (s.pages i)).1
    tasks := s.tasks ++ (p.seg i (s.pages i)).2.toList }

/-- Record the answer `a` of the `n`-th task, `t`. -/
def answer (n : ℕ) (t : Task ι Λ R A ε σ) (a : Except ε (A t.req)) (s : Sys ι Λ R A ε σ β) :
    Sys ι Λ R A ε σ β :=
  { s with
    tasks := s.tasks.set n { t with ans := some a }
    log := s.log ++ [⟨t.who, t.lab, t.req, a⟩] }

/-- One step of the interleaving; `none` when the action is not possible. -/
def step (S : Spec ι Λ R A ε σ β Ev) (s : Sys ι Λ R A ε σ β) :
    Act ι Ev β → Option (Sys ι Λ R A ε σ β)
  | .event i ev => (S.on i ev (s.pages i)).map fun p => s.start i p
  | .serve n =>
    match s.tasks[n]? with
    | some ⟨i, l, r, k, none⟩ =>
      some { s.answer n ⟨i, l, r, k, none⟩ (S.handler r s.base).1 with
        base := (S.handler r s.base).2 }
    | _ => none
  | .lose n =>
    match s.tasks[n]? with
    | some ⟨i, l, r, k, none⟩ => some (s.answer n ⟨i, l, r, k, none⟩ (.error S.lost))
    | _ => none
  | .resume n =>
    match s.tasks[n]? with
    | some ⟨i, _, _, k, some a⟩ => some ({ s with tasks := s.tasks.eraseIdx n }.start i (k a))
    | _ => none
  | .other b => some { s with base := b }

/-- The steps, one constructor each. -/
inductive Step (S : Spec ι Λ R A ε σ β Ev) (s : Sys ι Λ R A ε σ β) :
    Act ι Ev β → Sys ι Λ R A ε σ β → Prop where
  | event {i : ι} {ev : Ev} {p : Prog Λ R A ε σ Unit} (hp : S.on i ev (s.pages i) = some p) :
    Step S s (.event i ev) (s.start i p)
  | serve {n : ℕ} {t : Task ι Λ R A ε σ} (ht : s.tasks[n]? = some t) (hans : t.ans = none) :
    Step S s (.serve n) { s.answer n t (S.handler t.req s.base).1 with
      base := (S.handler t.req s.base).2 }
  | lose {n : ℕ} {t : Task ι Λ R A ε σ} (ht : s.tasks[n]? = some t) (hans : t.ans = none) :
    Step S s (.lose n) (s.answer n t (.error S.lost))
  | resume {n : ℕ} {t : Task ι Λ R A ε σ} {a : Except ε (A t.req)} (ht : s.tasks[n]? = some t)
    (hans : t.ans = some a) :
    Step S s (.resume n) ({ s with tasks := s.tasks.eraseIdx n }.start t.who (t.k a))
  | other (b : β) : Step S s (.other b) { s with base := b }

theorem step_cases {S : Spec ι Λ R A ε σ β Ev} {s s' : Sys ι Λ R A ε σ β} {a : Act ι Ev β}
    (h : s.step S a = some s') : Step S s a s' := by
  cases a with
  | event i ev =>
    obtain ⟨p, hp, rfl⟩ := Option.map_eq_some_iff.mp h
    exact .event hp
  | serve n =>
    simp only [step] at h
    split at h
    · rename_i hn
      obtain rfl := Option.some.inj h
      exact .serve hn rfl
    · cases h
  | lose n =>
    simp only [step] at h
    split at h
    · rename_i hn
      obtain rfl := Option.some.inj h
      exact .lose hn rfl
    · cases h
  | resume n =>
    simp only [step] at h
    split at h
    · rename_i a hn
      obtain rfl := Option.some.inj h
      exact .resume hn rfl
    · cases h
  | other b =>
    obtain rfl := Option.some.inj h
    exact .other b

/-- A step of the clients alone: nobody else changes the data. -/
def closedStep (S : Spec ι Λ R A ε σ β Ev) (s : Sys ι Λ R A ε σ β) :
    Act ι Ev β → Option (Sys ι Λ R A ε σ β)
  | .other _ => none
  | a => s.step S a

theorem step_of_closedStep {S : Spec ι Λ R A ε σ β Ev} {s s' : Sys ι Λ R A ε σ β}
    {a : Act ι Ev β} (h : s.closedStep S a = some s') : s.step S a = some s' := by
  cases a <;> first | exact h | cases h

/-- The system before any event. -/
def init (b : β) (pages : ι → σ) : Sys ι Λ R A ε σ β := ⟨b, pages, [], []⟩

/-! What happens does not depend on the log: another may stand in the place of its beginning. -/

/-- The system with `w` in the place of the first `m` exchanges. -/
def since (w : List (Exchange ι Λ R A ε)) (m : ℕ) (s : Sys ι Λ R A ε σ β) : Sys ι Λ R A ε σ β :=
  { s with log := w ++ s.log.drop m }

/-- The answers that have not been received yet. -/
def answered (s : Sys ι Λ R A ε σ β) : List (Exchange ι Λ R A ε) :=
  s.tasks.filterMap fun t => t.ans.map fun a => ⟨t.who, t.lab, t.req, a⟩

omit [DecidableEq ι] in
theorem since_answer (w : List (Exchange ι Λ R A ε)) {m : ℕ} {s : Sys ι Λ R A ε σ β}
    (hm : m ≤ s.log.length) (n : ℕ) (t : Task ι Λ R A ε σ) (a : Except ε (A t.req)) :
    (s.since w m).answer n t a = (s.answer n t a).since w m := by
  have hlog : ∀ x : Exchange ι Λ R A ε, w ++ s.log.drop m ++ [x] = w ++ (s.log ++ [x]).drop m := by
    intro x
    rw [List.drop_append_of_le_length hm, List.append_assoc]
  simp only [answer, since, hlog]

theorem step_since (S : Spec ι Λ R A ε σ β Ev) (w : List (Exchange ι Λ R A ε)) {m : ℕ}
    {s : Sys ι Λ R A ε σ β} (hm : m ≤ s.log.length) (a : Act ι Ev β) :
    (s.since w m).step S a = (s.step S a).map (since w m) := by
  cases a with
  | event i ev => exact (Option.map_map (since w m) (fun p => s.start i p) _).symm
  | serve n =>
    simp only [step, since]
    rcases s.tasks[n]? with _ | ⟨i, l, r, k, _ | ans⟩
    · rfl
    · exact congrArg (fun u => some { u with base := (S.handler r s.base).2 })
        (since_answer w hm n _ _)
    · rfl
  | lose n =>
    simp only [step, since]
    rcases s.tasks[n]? with _ | ⟨i, l, r, k, _ | ans⟩
    · rfl
    · exact congrArg some (since_answer w hm n _ _)
    · rfl
  | resume n =>
    simp only [step, since]
    rcases s.tasks[n]? with _ | ⟨i, l, r, k, _ | ans⟩ <;> rfl
  | other b => rfl

theorem log_prefix_of_step (S : Spec ι Λ R A ε σ β Ev) {s s' : Sys ι Λ R A ε σ β} {a : Act ι Ev β}
    (h : s.step S a = some s') : s.log <+: s'.log := by
  cases step_cases h with
  | event hp => exact List.prefix_refl _
  | serve ht hans => exact List.prefix_append _ _
  | lose ht hans => exact List.prefix_append _ _
  | resume ht hans => exact List.prefix_refl _
  | other b => exact List.prefix_refl _

end Sys

/-! ## The rely–guarantee rule -/

section Rule

variable (I : List (Exchange ι Λ R A ε) → ι → σ → Prop)
  (G : List (Exchange ι Λ R A ε) → ι → Λ → R → Prop)
  (C : List (Exchange ι Λ R A ε) → Exchange ι Λ R A ε → σ → Prop)

/-- From page `s` and log `w` on, `p` run by client `i` keeps `I` at every await, issues its
requests under `G`, may assume `C` of every answer when it is resumed, and ends in `Q`. -/
def Prog.Ok (i : ι) (Q : Except ε α → List (Exchange ι Λ R A ε) → σ → Prop) :
    Prog Λ R A ε σ α → List (Exchange ι Λ R A ε) → σ → Prop
  | ret a, w, s => Q (.ok a) w s
  | fail e, w, s => Q (.error e) w s
  | read k, w, s => (k s).Ok i Q w s
  | write f p, w, s => p.Ok i Q w (f s)
  | await l r k, w, s => I w i s ∧ G w i l r ∧ ∀ a w' s', w <+: w' → ⟨i, l, r, a⟩ ∈ w' →
      I w' i s' → C w' ⟨i, l, r, a⟩ s' → (k a).Ok i Q w' s'

/-- A suspended program that will go on under the rule whatever has happened since. -/
structure Task.Ok (w : List (Exchange ι Λ R A ε)) (t : Task ι Λ R A ε σ) : Prop where
  issued : G w t.who t.lab t.req
  logged : ∀ a, t.ans = some a → ⟨t.who, t.lab, t.req, a⟩ ∈ w
  resumed : ∀ a w' s', w <+: w' → ⟨t.who, t.lab, t.req, a⟩ ∈ w' → I w' t.who s' →
    C w' ⟨t.who, t.lab, t.req, a⟩ s' →
    (t.k a).Ok I G C t.who (fun _ v x => I v t.who x) w' s'

/-- The rule's invariant of a system. -/
structure Sys.Ok (s : Sys ι Λ R A ε σ β) : Prop where
  page : ∀ i, I s.log i (s.pages i)
  task : ∀ t ∈ s.tasks, t.Ok I G C s.log
  sent : ∀ x ∈ s.log, G s.log x.who x.lab x.req

/-- The condition of the rule on a step: a resumed task finds `C`. -/
def Sys.Resumes (s : Sys ι Λ R A ε σ β) : Act ι Ev β → Prop
  | .resume n => ∀ t, s.tasks[n]? = some t → ∀ a, t.ans = some a →
      C s.log ⟨t.who, t.lab, t.req, a⟩ (s.pages t.who)
  | _ => True

variable {I G C}

theorem Task.Ok.mono (hG : ∀ w w' i l r, w <+: w' → G w i l r → G w' i l r)
    {w w' : List (Exchange ι Λ R A ε)} (hw : w <+: w') {t : Task ι Λ R A ε σ}
    (h : t.Ok I G C w) : t.Ok I G C w' where
  issued := hG _ _ _ _ _ hw h.issued
  logged a ha := hw.subset (h.logged a ha)
  resumed a v s' hv := h.resumed a v s' (hw.trans hv)

namespace Prog

/-! Rules for the constructs programs are written with. -/

variable {i : ι} {w : List (Exchange ι Λ R A ε)} {s : σ} {γ : Type}

theorem ok_bind {Q : Except ε γ → List (Exchange ι Λ R A ε) → σ → Prop} {p : Prog Λ R A ε σ α}
    {f : α → Prog Λ R A ε σ γ} : (p.bind f).Ok I G C i Q w s ↔
      p.Ok I G C i (fun a v x => match a with
        | .ok a => (f a).Ok I G C i Q v x
        | .error e => Q (.error e) v x) w s := by
  induction p generalizing w s with
  | ret a => rfl
  | fail e => rfl
  | read k ih => exact ih s
  | write g p ih => exact ih
  | await l r k ih => simp only [bind_await, Ok, ih]

theorem ok_catching {Q : Except ε α → List (Exchange ι Λ R A ε) → σ → Prop}
    {p : Prog Λ R A ε σ α} {c : ε → Prog Λ R A ε σ α} : (p.catching c).Ok I G C i Q w s ↔
      p.Ok I G C i (fun a v x => match a with
        | .ok a => Q (.ok a) v x
        | .error e => (c e).Ok I G C i Q v x) w s := by
  induction p generalizing w s with
  | ret a => rfl
  | fail e => rfl
  | read k ih => exact ih s
  | write g p ih => exact ih
  | await l r k ih => simp only [catching, Ok, ih]

theorem ok_ensuring {Q : Except ε α → List (Exchange ι Λ R A ε) → σ → Prop}
    {p : Prog Λ R A ε σ α} {f : σ → σ} : (p.ensuring f).Ok I G C i Q w s ↔
      p.Ok I G C i (fun a v x => Q a v (f x)) w s := by
  induction p generalizing w s with
  | ret a => rfl
  | fail e => rfl
  | read k ih => exact ih s
  | write g p ih => exact ih
  | await l r k ih => simp only [ensuring, Ok, ih]

theorem ok_ofExcept {a : Except ε α} {Q : Except ε α → List (Exchange ι Λ R A ε) → σ → Prop} :
    (ofExcept a : Prog Λ R A ε σ α).Ok I G C i Q w s ↔ Q a w s := by
  cases a <;> rfl

theorem ok_call {l : Λ} {r : R} {Q : Except ε (A r) → List (Exchange ι Λ R A ε) → σ → Prop} :
    (call l r : Prog Λ R A ε σ (A r)).Ok I G C i Q w s ↔
      I w i s ∧ G w i l r ∧ ∀ a w' s', w <+: w' → ⟨i, l, r, a⟩ ∈ w' → I w' i s' →
        C w' ⟨i, l, r, a⟩ s' → Q a w' s' := by
  simp only [call, Ok, ok_ofExcept]

theorem ok_ret {a : α} {Q : Except ε α → List (Exchange ι Λ R A ε) → σ → Prop} :
    (ret a : Prog Λ R A ε σ α).Ok I G C i Q w s ↔ Q (.ok a) w s := Iff.rfl

theorem ok_fail {e : ε} {Q : Except ε α → List (Exchange ι Λ R A ε) → σ → Prop} :
    (fail e : Prog Λ R A ε σ α).Ok I G C i Q w s ↔ Q (.error e) w s := Iff.rfl

theorem ok_setState_ret {g : σ → σ} {Q : Except ε Unit → List (Exchange ι Λ R A ε) → σ → Prop} :
    (setState g : Prog Λ R A ε σ Unit).Ok I G C i Q w s ↔ Q (.ok ()) w (g s) := Iff.rfl

theorem ok_page {f : σ → Prog Λ R A ε σ α} {Q : Except ε α → List (Exchange ι Λ R A ε) → σ → Prop} :
    (page.bind f).Ok I G C i Q w s ↔ (f s).Ok I G C i Q w s := Iff.rfl

theorem ok_setState {g : σ → σ} {f : Unit → Prog Λ R A ε σ α}
    {Q : Except ε α → List (Exchange ι Λ R A ε) → σ → Prop} :
    ((setState g).bind f).Ok I G C i Q w s ↔ (f ()).Ok I G C i Q w (g s) := Iff.rfl

/-- Awaiting an answer and going on with it. -/
theorem ok_call_bind {l : Λ} {r : R} {f : A r → Prog Λ R A ε σ α}
    {Q : Except ε α → List (Exchange ι Λ R A ε) → σ → Prop} :
    ((call l r).bind f).Ok I G C i Q w s ↔
      I w i s ∧ G w i l r ∧ ∀ a w' s', w <+: w' → ⟨i, l, r, a⟩ ∈ w' → I w' i s' →
        C w' ⟨i, l, r, a⟩ s' → match a with
          | .ok a => (f a).Ok I G C i Q w' s'
          | .error e => Q (.error e) w' s' := by
  rw [ok_bind, ok_call]
  refine and_congr_right fun _ => and_congr_right fun _ => forall_congr' fun a => ?_
  cases a <;> rfl

/-- A weaker postcondition. -/
theorem Ok.mono {Q Q' : Except ε α → List (Exchange ι Λ R A ε) → σ → Prop}
    {p : Prog Λ R A ε σ α} (h : p.Ok I G C i Q w s) (hQ : ∀ a w' s', Q a w' s' → Q' a w' s') :
    p.Ok I G C i Q' w s := by
  induction p generalizing w s with
  | ret a => exact hQ _ _ _ h
  | fail e => exact hQ _ _ _ h
  | read k ih => exact ih s h
  | write g p ih => exact ih h
  | await l r k ih =>
    exact ⟨h.1, h.2.1, fun a w' s' hw hmem hI hC => ih a (h.2.2 a w' s' hw hmem hI hC)⟩

end Prog

/-- The synchronous part of a program under the rule. -/
theorem Prog.Ok.seg {i : ι} {p : Prog Λ R A ε σ Unit} {w : List (Exchange ι Λ R A ε)} {s : σ}
    (h : p.Ok I G C i (fun _ v x => I v i x) w s) :
    I w i (p.seg i s).1 ∧ ∀ t ∈ (p.seg i s).2, t.Ok I G C w ∧ t.who = i := by
  induction p generalizing s with
  | ret a => exact ⟨h, by simp [Prog.seg]⟩
  | fail e => exact ⟨h, by simp [Prog.seg]⟩
  | read k ih => exact ih s h
  | write f p ih => exact ih h
  | await l r k ih =>
    obtain ⟨hI, hG, hk⟩ := h
    refine ⟨hI, ?_⟩
    rintro t ht
    obtain rfl : ⟨i, l, r, k, none⟩ = t := by simpa [Prog.seg] using ht
    exact ⟨⟨hG, by simp, hk⟩, rfl⟩

/-- Answering a pending task keeps the invariant: the log grows by that exchange. -/
theorem Sys.Ok.answer (hI : ∀ w w' i s, w <+: w' → I w i s → I w' i s)
    (hG : ∀ w w' i l r, w <+: w' → G w i l r → G w' i l r)
    {s : Sys ι Λ R A ε σ β} (h : s.Ok I G C) {n : ℕ} {t : Task ι Λ R A ε σ}
    (ht : s.tasks[n]? = some t) (a : Except ε (A t.req)) : (s.answer n t a).Ok I G C := by
  have hw : s.log <+: (s.answer n t a).log := List.prefix_append _ _
  have htask : t.Ok I G C s.log := h.task t (List.mem_of_getElem? ht)
  refine ⟨fun i => hI _ _ _ _ hw (h.page i), fun t' ht' => ?_, fun x hx => ?_⟩
  · rcases List.mem_or_eq_of_mem_set ht' with ht' | rfl
    · exact (h.task t' ht').mono hG hw
    · refine ⟨hG _ _ _ _ _ hw htask.issued, ?_, fun b v s' hv => htask.resumed b v s' (hw.trans hv)⟩
      rintro b hb
      obtain rfl : a = b := by simpa using hb
      simp [Sys.answer]
  · rcases List.mem_append.mp hx with hx | hx
    · exact hG _ _ _ _ _ hw (h.sent x hx)
    · obtain rfl : x = ⟨t.who, t.lab, t.req, a⟩ := by simpa using hx
      exact hG _ _ _ _ _ hw htask.issued

theorem Sys.Ok.init {pages : ι → σ} (h : ∀ i, I [] i (pages i)) (b : β) :
    (Sys.init b pages : Sys ι Λ R A ε σ β).Ok I G C :=
  ⟨h, by simp [Sys.init], by simp [Sys.init]⟩

section Steps

variable [DecidableEq ι]

theorem Sys.Ok.start {s : Sys ι Λ R A ε σ β} (h : s.Ok I G C) {i : ι} {p : Prog Λ R A ε σ Unit}
    (hp : p.Ok I G C i (fun _ v x => I v i x) s.log (s.pages i)) : (s.start i p).Ok I G C where
  page j := by
    by_cases hj : j = i
    · subst hj
      simpa [Sys.start] using hp.seg.1
    · simpa [Sys.start, Function.update_of_ne hj] using h.page j
  task t ht := by
    rcases List.mem_append.mp ht with ht | ht
    · exact h.task t ht
    · exact (hp.seg.2 t (Option.mem_toList.mp ht)).1
  sent := h.sent

/-- Every step keeps the invariant; an event has to start a program that follows the rule. -/
theorem Sys.Ok.step_of (S : Spec ι Λ R A ε σ β Ev)
    (hI : ∀ w w' i s, w <+: w' → I w i s → I w' i s)
    (hG : ∀ w w' i l r, w <+: w' → G w i l r → G w' i l r)
    {s s' : Sys ι Λ R A ε σ β} {a : Act ι Ev β} (h : s.Ok I G C)
    (hon : ∀ i ev p, a = .event i ev → S.on i ev (s.pages i) = some p →
      p.Ok I G C i (fun _ v x => I v i x) s.log (s.pages i))
    (hC : s.Resumes C a) (hs : s.step S a = some s') : s'.Ok I G C := by
  cases Sys.step_cases hs with
  | event hp => exact h.start (hon _ _ _ rfl hp)
  | serve ht _ =>
    have hans := h.answer hI hG ht (S.handler _ s.base).1
    exact ⟨hans.page, hans.task, hans.sent⟩
  | lose ht _ => exact h.answer hI hG ht _
  | @resume n t a ht hans =>
    have htask := h.task t (List.mem_of_getElem? ht)
    have hrest : Sys.Ok I G C { s with tasks := s.tasks.eraseIdx n } :=
      ⟨h.page, fun t ht => h.task t (List.mem_of_mem_eraseIdx ht), h.sent⟩
    exact hrest.start (htask.resumed _ _ _ (List.prefix_refl _) (htask.logged _ hans)
      (h.page _) (hC _ ht _ hans))
  | other b => exact ⟨h.page, h.task, h.sent⟩

/-- **Step rule**: every step of the interleaving keeps the invariant. -/
theorem Sys.Ok.step (S : Spec ι Λ R A ε σ β Ev)
    (hI : ∀ w w' i s, w <+: w' → I w i s → I w' i s)
    (hG : ∀ w w' i l r, w <+: w' → G w i l r → G w' i l r)
    (hon : ∀ w i ev s p, S.on i ev s = some p → I w i s →
      p.Ok I G C i (fun _ v x => I v i x) w s)
    {s s' : Sys ι Λ R A ε σ β} {a : Act ι Ev β} (h : s.Ok I G C) (hC : s.Resumes C a)
    (hs : s.step S a = some s') : s'.Ok I G C :=
  h.step_of S hI hG (fun i ev p _ hp => hon _ i ev _ p hp (h.page i)) hC hs

/-- **Run rule**: along a run in which every resumed task finds `C`, the invariant holds in every
state. -/
theorem Sys.always_ok (S : Spec ι Λ R A ε σ β Ev)
    (hI : ∀ w w' i s, w <+: w' → I w i s → I w' i s)
    (hG : ∀ w w' i l r, w <+: w' → G w i l r → G w' i l r)
    (hon : ∀ w i ev s p, S.on i ev s = some p → I w i s →
      p.Ok I G C i (fun _ v x => I v i x) w s)
    {s : Sys ι Λ R A ε σ β} (h : s.Ok I G C) {as : List (Act ι Ev β)}
    (hC : AllMeet (Sys.step S) (Sys.Resumes C) s as) : Always (Sys.step S) (Sys.Ok I G C) s as :=
  always_of_allMeet (fun _ _ _ hs hc hst => hs.step S hI hG hon hc hst) h hC

/-- A condition on the events, in the page they happen on. -/
def Sys.Admits (E : Ev → σ → Prop) (s : Sys ι Λ R A ε σ β) : Act ι Ev β → Prop
  | .event i ev => E ev (s.pages i)
  | _ => True

/-- **Run rule**: along a run whose events all meet `E` and whose resumed tasks all find `C`, the
invariant holds in every state. -/
theorem Sys.always_ok_admits (S : Spec ι Λ R A ε σ β Ev) {E : Ev → σ → Prop}
    (hI : ∀ w w' i s, w <+: w' → I w i s → I w' i s)
    (hG : ∀ w w' i l r, w <+: w' → G w i l r → G w' i l r)
    (hon : ∀ w i ev s p, E ev s → S.on i ev s = some p → I w i s →
      p.Ok I G C i (fun _ v x => I v i x) w s)
    {s : Sys ι Λ R A ε σ β} (h : s.Ok I G C) {as : List (Act ι Ev β)}
    (hE : AllMeet (Sys.step S) (Sys.Admits E) s as)
    (hC : AllMeet (Sys.step S) (Sys.Resumes C) s as) : Always (Sys.step S) (Sys.Ok I G C) s as := by
  refine always_of_allMeet (fun s a s' hs hc hst => ?_) h (hE.and hC)
  refine hs.step_of S hI hG ?_ hc.2 hst
  rintro i ev p rfl hp
  exact hon _ i ev _ p hc.1 hp (hs.page i)

end Steps

end Rule

/-! ## Requests of all programs

The rule for a condition that links each request to its label only. -/

section Issues

variable {H : Λ → R → Prop}

theorem Prog.Issues.ok {p : Prog Λ R A ε σ α} (hp : p.Issues H) {i : ι}
    {Q : Except ε α → List (Exchange ι Λ R A ε) → σ → Prop} (hQ : ∀ a w s, Q a w s)
    {w : List (Exchange ι Λ R A ε)} {s : σ} :
    p.Ok (fun _ _ _ => True) (fun _ _ l r => H l r) (fun _ _ _ => True) i Q w s := by
  induction p generalizing w s with
  | ret a => exact hQ _ _ _
  | fail e => exact hQ _ _ _
  | read k ih => exact ih s (hp s)
  | write f p ih => exact ih hp
  | await l r k ih => exact ⟨trivial, hp.1, fun a w' s' _ _ _ _ => ih a (hp.2 a)⟩

/-- Where nothing is asked of a client, every program of his follows the rule. -/
theorem Prog.ok_of_free {I : List (Exchange ι Λ R A ε) → ι → σ → Prop}
    {G : List (Exchange ι Λ R A ε) → ι → Λ → R → Prop}
    {C : List (Exchange ι Λ R A ε) → Exchange ι Λ R A ε → σ → Prop} {i : ι}
    {Q : Except ε α → List (Exchange ι Λ R A ε) → σ → Prop} (hI : ∀ w s, I w i s)
    (hG : ∀ w l r, G w i l r) (hQ : ∀ a w s, Q a w s) (p : Prog Λ R A ε σ α)
    (w : List (Exchange ι Λ R A ε)) (s : σ) : p.Ok I G C i Q w s := by
  induction p generalizing w s with
  | ret a => exact hQ _ _ _
  | fail e => exact hQ _ _ _
  | read k ih => exact ih s w s
  | write f p ih => exact ih w (f s)
  | await l r k ih => exact ⟨hI w s, hG w l r, fun a w' s' _ _ _ _ => ih a w' s'⟩

/-- A program that keeps `J`, which is stronger than `I` and comes back with every answer, and whose
requests all meet `G` follows the rule. -/
theorem Prog.Keeps.ok_of {I J : List (Exchange ι Λ R A ε) → ι → σ → Prop}
    {G : List (Exchange ι Λ R A ε) → ι → Λ → R → Prop}
    {C : List (Exchange ι Λ R A ε) → Exchange ι Λ R A ε → σ → Prop} {p : Prog Λ R A ε σ α} {i : ι}
    (hJ : ∀ w s, J w i s → I w i s)
    (hC : ∀ w s l r a, H l r → I w i s → C w ⟨i, l, r, a⟩ s → J w i s)
    (hp : ∀ w, p.Keeps (J w i)) (hr : p.Issues H) (hG : ∀ w l r, H l r → G w i l r)
    {w : List (Exchange ι Λ R A ε)} {s : σ} (hs : J w i s) :
    p.Ok I G C i (fun _ v x => J v i x) w s := by
  induction p generalizing w s with
  | ret a => exact hs
  | fail e => exact hs
  | read k ih => exact ih s (fun w => hp w s) (hr s) hs
  | write f p ih => exact ih (fun w => (hp w).2) hr ((hp w).1 s hs)
  | await l r k ih =>
    refine ⟨hJ w s hs, hG w l r hr.1, fun a w' s' _ _ hI hans => ?_⟩
    exact ih a (fun w => hp w a) (hr.2 a) (hC w' s' l r a hr.1 hI hans)

/-- A program that updates nothing `I` speaks of and whose requests all meet `G` follows the rule. -/
theorem Prog.Keeps.ok {I : List (Exchange ι Λ R A ε) → ι → σ → Prop}
    {G : List (Exchange ι Λ R A ε) → ι → Λ → R → Prop}
    {C : List (Exchange ι Λ R A ε) → Exchange ι Λ R A ε → σ → Prop} {p : Prog Λ R A ε σ α} {i : ι}
    (hp : ∀ w, p.Keeps (I w i)) (hr : p.Issues H) (hG : ∀ w l r, H l r → G w i l r)
    {w : List (Exchange ι Λ R A ε)} {s : σ} (hs : I w i s) :
    p.Ok I G C i (fun _ v x => I v i x) w s :=
  Prog.Keeps.ok_of (fun _ _ h => h) (fun _ _ _ _ _ _ h _ => h) hp hr hG hs

/-- Every request sent or pending, and every request its program may still send, meets `H`; an
answered task is in the log. -/
abbrev Sys.Issued (H : Λ → R → Prop) (s : Sys ι Λ R A ε σ β) : Prop :=
  s.Ok (fun _ _ _ => True) (fun _ _ l r => H l r) (fun _ _ _ => True)

theorem Sys.Issued.init (b : β) (pages : ι → σ) :
    (Sys.init b pages : Sys ι Λ R A ε σ β).Issued H :=
  Sys.Ok.init (fun _ => trivial) b

theorem Sys.Issued.step [DecidableEq ι] (S : Spec ι Λ R A ε σ β Ev)
    (hon : ∀ i ev s p, S.on i ev s = some p → p.Issues H) {s s' : Sys ι Λ R A ε σ β}
    {a : Act ι Ev β} (h : s.Issued H) (hs : s.step S a = some s') : s'.Issued H := by
  refine Sys.Ok.step S (fun _ _ _ _ _ _ => trivial) (fun _ _ _ _ _ _ hr => hr) ?_ h ?_ hs
  · exact fun w i ev s p hp _ => (hon i ev s p hp).ok fun _ _ _ => trivial
  · cases a <;> simp [Sys.Resumes]

end Issues

/-! ## Where the answers come from -/

section Served

variable [DecidableEq ι]

/-- In the run of `as` from `s` the backend has given the answer of `x`. -/
def Sys.Served (S : Spec ι Λ R A ε σ β Ev) (s : Sys ι Λ R A ε σ β) (as : List (Act ι Ev β))
    (x : Exchange ι Λ R A ε) : Prop :=
  ∃ as₀ n s₀ t, as₀ ++ [.serve n] <+: as ∧ as₀.foldlM (Sys.step S) s = some s₀ ∧
    s₀.tasks[n]? = some t ∧ x = ⟨t.who, t.lab, t.req, (S.handler t.req s₀.base).1⟩

theorem Sys.Served.mono {S : Spec ι Λ R A ε σ β Ev} {s : Sys ι Λ R A ε σ β}
    {as bs : List (Act ι Ev β)} (h : as <+: bs) {x : Exchange ι Λ R A ε} (hx : s.Served S as x) :
    s.Served S bs x := by
  obtain ⟨as₀, n, s₀, t, hpre, hrest⟩ := hx
  exact ⟨as₀, n, s₀, t, hpre.trans h, hrest⟩

/-- A served exchange holds the backend's answer on the data of that moment. -/
theorem Sys.Served.exists_answer {S : Spec ι Λ R A ε σ β Ev} {s : Sys ι Λ R A ε σ β}
    {as : List (Act ι Ev β)} {x : Exchange ι Λ R A ε} (h : s.Served S as x) :
    ∃ as₀ n s₀ t, as₀ ++ [.serve n] <+: as ∧ as₀.foldlM (Sys.step S) s = some s₀ ∧
      s₀.tasks[n]? = some t ∧ t.who = x.who ∧ t.lab = x.lab ∧
      (S.handler x.req s₀.base).1 = x.ans := by
  obtain ⟨as₀, n, s₀, t, hpre, hrun, ht, rfl⟩ := h
  exact ⟨as₀, n, s₀, t, hpre, hrun, ht, rfl, rfl, rfl⟩

/-- Every exchange of a run has been served in it, or lost. -/
theorem Sys.served_or_lost (S : Spec ι Λ R A ε σ β Ev) {b : β} {pages : ι → σ}
    {as : List (Act ι Ev β)} {s : Sys ι Λ R A ε σ β}
    (hrun : as.foldlM (Sys.step S) (Sys.init b pages) = some s) {x : Exchange ι Λ R A ε}
    (hx : x ∈ s.log) : (Sys.init b pages).Served S as x ∨ x.ans = .error S.lost := by
  induction as using List.reverseRecOn generalizing s with
  | nil =>
    obtain rfl : Sys.init b pages = s := by simpa using hrun
    exact absurd hx List.not_mem_nil
  | append_singleton as a ih =>
    obtain ⟨s₀, h₀, hstep⟩ := foldlM_concat_eq_some.mp hrun
    have hold : x ∈ s₀.log →
        (Sys.init b pages).Served S (as ++ [a]) x ∨ x.ans = .error S.lost := fun hx₀ =>
      (ih h₀ hx₀).imp_left (Sys.Served.mono (List.prefix_append as [a]))
    cases Sys.step_cases hstep with
    | event hp => exact hold hx
    | @serve n t ht hans =>
      rcases List.mem_append.mp hx with hx | hx
      · exact hold hx
      · exact Or.inl ⟨as, n, s₀, t, List.prefix_refl _, h₀, ht, List.mem_singleton.mp hx⟩
    | lose ht hans =>
      rcases List.mem_append.mp hx with hx | hx
      · exact hold hx
      · rw [List.mem_singleton.mp hx]
        exact Or.inr rfl
    | resume ht hans => exact hold hx
    | other b => exact hold hx

end Served

/-! Outside this file programs are taken apart by the rules only. -/

attribute [irreducible] Prog.Ok

end Lib
