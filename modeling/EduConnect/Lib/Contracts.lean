import EduConnect.Lib.Sched

/-!
# Contracts between programs and their backend

A contract says which requests may be sent, what their answers are then worth and which errors may
come instead.  `Prog.Under K Q E`: the program only sends such requests, as long as it is answered
under `K`, and then returns in `Q` or throws in `E`.  A backend that honours the contract on the
data with `J` keeps `J`, whatever programs run on it, alone or interleaved, and whatever is lost.
-/

namespace Lib

variable {ι Λ Λ' R : Type} {A : R → Type} {ε σ τ β Ev α γ : Type}

/-- The requests that may be sent, what their answers satisfy and how they may fail. -/
structure Contract (R : Type) (A : R → Type) (ε : Type) where
  asks : R → Prop
  gives : (r : R) → A r → Prop
  fails : ε → Prop

namespace Contract

variable (K : Contract R A ε)

/-- An answer under the contract. -/
structure Allows (r : R) (a : Except ε (A r)) : Prop where
  ok : ∀ x, a = .ok x → K.gives r x
  error : ∀ e, a = .error e → K.fails e

variable {K}

theorem allows_ok {r : R} {x : A r} (hx : K.gives r x) : K.Allows r (.ok x) where
  ok y hy := by
    cases hy
    exact hx
  error e he := by cases he

theorem allows_error {r : R} {e : ε} (he : K.fails e) : K.Allows r (.error e) where
  ok x hx := by cases hx
  error e' he' := by
    cases he'
    exact he

variable (K)

/-- On data with `J` the backend answers under the contract, and keeps `J`. -/
def Honours (h : (r : R) → β → Except ε (A r) × β) (J : β → Prop) : Prop :=
  ∀ r b, K.asks r → J b → J (h r b).2 ∧ K.Allows r (h r b).1

/-- Of the requests of the contract only those with `P` may be sent. -/
def restrict (P : R → Prop) : Contract R A ε where
  asks r := K.asks r ∧ P r
  gives := K.gives
  fails := K.fails

variable {K}

/-- What these requests keep is kept too. -/
theorem Honours.restrict {h : (r : R) → β → Except ε (A r) × β} {J J' : β → Prop}
    (hK : K.Honours h J) {P : R → Prop} (hP : ∀ r b, P r → J' b → J' (h r b).2) :
    (K.restrict P).Honours h fun b => J b ∧ J' b := by
  rintro r b ⟨hr, hPr⟩ ⟨hb, hb'⟩
  obtain ⟨hJ, ha⟩ := hK r b hr hb
  exact ⟨⟨hJ, hP r b hPr hb'⟩, ⟨ha.ok, ha.error⟩⟩

end Contract

namespace Prog

variable (K : Contract R A ε)

/-- Answered under `K`, the program only sends requests `K` asks for, and returns in `Q` or throws
in `E`. -/
def Under (Q : α → Prop) (E : ε → Prop) : Prog Λ R A ε σ α → Prop
  | ret a => Q a
  | fail e => E e
  | read k => ∀ s, (k s).Under Q E
  | write _ p => p.Under Q E
  | await _ r k => K.asks r ∧ ∀ a, K.Allows r a → (k a).Under Q E

variable {K} {Q Q' : α → Prop} {E E' : ε → Prop}

/-! ## Rules -/

@[simp] theorem under_ret {a : α} : (ret a : Prog Λ R A ε σ α).Under K Q E ↔ Q a := Iff.rfl

@[simp] theorem under_fail {e : ε} : (fail e : Prog Λ R A ε σ α).Under K Q E ↔ E e := Iff.rfl

@[simp] theorem under_page {Q : σ → Prop} :
    (page : Prog Λ R A ε σ σ).Under K Q E ↔ ∀ s, Q s := Iff.rfl

@[simp] theorem under_setState {f : σ → σ} {Q : Unit → Prop} :
    (setState f : Prog Λ R A ε σ Unit).Under K Q E ↔ Q () := Iff.rfl

@[simp] theorem under_ofExcept {x : Except ε α} : (ofExcept x : Prog Λ R A ε σ α).Under K Q E ↔
    (∀ a, x = .ok a → Q a) ∧ ∀ e, x = .error e → E e := by
  cases x <;> simp

/-- Waiting for an answer, of which the contract tells. -/
theorem under_call {l : Λ} {r : R} {Q : A r → Prop} :
    (call l r : Prog Λ R A ε σ (A r)).Under K Q E ↔
      K.asks r ∧ (∀ x, K.gives r x → Q x) ∧ ∀ e, K.fails e → E e := by
  refine and_congr_right fun _ => ?_
  constructor
  · intro h
    exact ⟨fun x hx => h (.ok x) (Contract.allows_ok hx),
      fun e he => h (.error e) (Contract.allows_error he)⟩
  · rintro ⟨hQ, hE⟩ a ha
    exact under_ofExcept.mpr ⟨fun x hx => hQ x (ha.ok x hx), fun e he => hE e (ha.error e he)⟩

@[simp] theorem under_bind {Q : γ → Prop} {p : Prog Λ R A ε σ α} {f : α → Prog Λ R A ε σ γ} :
    (p.bind f).Under K Q E ↔ p.Under K (fun a => (f a).Under K Q E) E := by
  induction p with
  | ret a => rfl
  | fail e => rfl
  | read k ih => exact forall_congr' ih
  | write g p ih => exact ih
  | await l r k ih => exact and_congr_right fun _ => forall₂_congr fun a _ => ih a

@[simp] theorem under_catching {p : Prog Λ R A ε σ α} {c : ε → Prog Λ R A ε σ α} :
    (p.catching c).Under K Q E ↔ p.Under K Q fun e => (c e).Under K Q E := by
  induction p with
  | ret a => rfl
  | fail e => rfl
  | read k ih => exact forall_congr' ih
  | write g p ih => exact ih
  | await l r k ih => exact and_congr_right fun _ => forall₂_congr fun a _ => ih a

@[simp] theorem under_ensuring {p : Prog Λ R A ε σ α} {f : σ → σ} :
    (p.ensuring f).Under K Q E ↔ p.Under K Q E := by
  induction p with
  | ret a => rfl
  | fail e => rfl
  | read k ih => exact forall_congr' ih
  | write g p ih => exact ih
  | await l r k ih => exact and_congr_right fun _ => forall₂_congr fun a _ => ih a

theorem Under.mono {p : Prog Λ R A ε σ α} (hp : p.Under K Q E) (hQ : ∀ a, Q a → Q' a)
    (hE : ∀ e, E e → E' e) : p.Under K Q' E' := by
  induction p with
  | ret a => exact hQ a hp
  | fail e => exact hE e hp
  | read k ih => exact fun s => ih s (hp s)
  | write g p ih => exact ih hp
  | await l r k ih => exact ⟨hp.1, fun a ha => ih a (hp.2 a ha)⟩

theorem Under.ite {c : Prop} [Decidable c] {p q : Prog Λ R A ε σ α} (hp : p.Under K Q E)
    (hq : q.Under K Q E) : (if c then p else q).Under K Q E := by
  by_cases hc : c
  · rwa [if_pos hc]
  · rwa [if_neg hc]

/-- A loop whose turns are under the contract. -/
theorem under_loop {turn : γ → Prog Λ R A ε σ α} (loop : List γ → Prog Λ R A ε σ Unit)
    (hnil : loop [] = ret ()) (hcons : ∀ x l, loop (x :: l) = (turn x).bind fun _ => loop l)
    {l : List γ} (hturn : ∀ x ∈ l, (turn x).Under K (fun _ => True) E) :
    (loop l).Under K (fun _ => True) E := by
  induction l with
  | nil =>
    rw [hnil]
    trivial
  | cons x l ih =>
    rw [hcons, under_bind]
    refine (hturn x List.mem_cons_self).mono (fun _ _ => ih fun y hy => ?_) fun _ he => he
    exact hturn y (List.mem_cons_of_mem x hy)

/-! ## Programs that may fail in any way -/

/-- The program is under the contract, however it ends. -/
abbrev Within (K : Contract R A ε) (p : Prog Λ R A ε σ α) : Prop :=
  p.Under K (fun _ => True) fun _ => True

theorem Within.bind {p : Prog Λ R A ε σ α} {f : α → Prog Λ R A ε σ γ} (hp : p.Within K)
    (hf : ∀ a, (f a).Within K) : (p.bind f).Within K :=
  under_bind.mpr (hp.mono (fun a _ => hf a) fun _ _ => trivial)

theorem Within.catching {p : Prog Λ R A ε σ α} {c : ε → Prog Λ R A ε σ α} (hp : p.Within K)
    (hc : ∀ e, (c e).Within K) : (p.catching c).Within K :=
  under_catching.mpr (hp.mono (fun _ _ => trivial) fun e _ => hc e)

theorem Within.ensuring {p : Prog Λ R A ε σ α} (hp : p.Within K) (f : σ → σ) :
    (p.ensuring f).Within K := under_ensuring.mpr hp

theorem Within.ite {c : Prop} [Decidable c] {p q : Prog Λ R A ε σ α} (hp : p.Within K)
    (hq : q.Within K) : (if c then p else q).Within K := Under.ite hp hq

theorem within_ofExcept (x : Except ε α) : (ofExcept x : Prog Λ R A ε σ α).Within K :=
  under_ofExcept.mpr ⟨fun _ _ => trivial, fun _ _ => trivial⟩

theorem within_call {l : Λ} {r : R} (hr : K.asks r) :
    (call l r : Prog Λ R A ε σ (A r)).Within K :=
  under_call.mpr ⟨hr, fun _ _ => trivial, fun _ _ => trivial⟩

/-- Requests the contract asks for whatever has been answered. -/
theorem Issues.within {p : Prog Λ R A ε σ α} (hp : p.Issues fun _ r => K.asks r) : p.Within K := by
  induction p with
  | ret a => trivial
  | fail e => trivial
  | read k ih => exact fun s => ih s (hp s)
  | write g p ih => exact ih hp
  | await l r k ih => exact ⟨hp.1, fun a _ => ih a (hp.2 a)⟩

/-! ## Other pages and labels -/

/-- The program with other labels. -/
def relabel (f : Λ → Λ') : Prog Λ R A ε σ α → Prog Λ' R A ε σ α
  | ret a => ret a
  | fail e => fail e
  | read k => read fun s => (k s).relabel f
  | write g p => write g (p.relabel f)
  | await l r k => await (f l) r fun a => (k a).relabel f

theorem Under.relabel {p : Prog Λ R A ε σ α} (hp : p.Under K Q E) (f : Λ → Λ') :
    (p.relabel f).Under K Q E := by
  induction p with
  | ret a => exact hp
  | fail e => exact hp
  | read k ih => exact fun s => ih s (hp s)
  | write g p ih => exact ih hp
  | await l r k ih => exact ⟨hp.1, fun a ha => ih a (hp.2 a ha)⟩

theorem Under.zoom {p : Prog Λ R A ε σ α} (hp : p.Under K Q E) (get : τ → σ) (put : σ → τ → τ) :
    (p.zoom get put).Under K Q E := by
  induction p with
  | ret a => exact hp
  | fail e => exact hp
  | read k ih => exact fun t => ih _ (hp _)
  | write g p ih => exact ih hp
  | await l r k ih => exact ⟨hp.1, fun a ha => ih a (hp.2 a ha)⟩

/-! ## First awaits -/

/-- The first await of a program under the contract. -/
theorem Under.seg {i : ι} {Q : Unit → Prop} {p : Prog Λ R A ε σ Unit} (hp : p.Under K Q E) (s : σ) :
    ∀ t ∈ (p.seg i s).2, t.ans = none ∧ K.asks t.req ∧
      ∀ a, K.Allows t.req a → (t.k a).Under K Q E := by
  induction p generalizing s with
  | ret a => simp [Prog.seg]
  | fail e => simp [Prog.seg]
  | read k ih => exact ih s (hp s) s
  | write f p ih => exact ih hp (f s)
  | await l r k ih =>
    intro t ht
    obtain rfl : ⟨i, l, r, k, none⟩ = t := by simpa [Prog.seg] using ht
    exact ⟨rfl, hp⟩

end Prog

/-! ## Interleavings -/

/-- A suspended program under the contract. -/
structure Task.Under (K : Contract R A ε) (t : Task ι Λ R A ε σ) : Prop where
  asked : K.asks t.req
  answered : ∀ a, t.ans = some a → K.Allows t.req a
  resumed : ∀ a, K.Allows t.req a → (t.k a).Within K

/-- The data have `J` and every suspended program is under the contract. -/
structure Sys.Under (K : Contract R A ε) (J : β → Prop) (s : Sys ι Λ R A ε σ β) : Prop where
  base : J s.base
  task : ∀ t ∈ s.tasks, t.Under K

section Runs

variable {K : Contract R A ε} {J : β → Prop} {s s' : Sys ι Λ R A ε σ β}

theorem Sys.Under.init {b : β} (hb : J b) (pages : ι → σ) :
    (Sys.init b pages : Sys ι Λ R A ε σ β).Under K J where
  base := hb
  task _ ht := absurd ht List.not_mem_nil

theorem Sys.Under.answer (hs : s.Under K J) {n : ℕ} {t : Task ι Λ R A ε σ}
    (ht : s.tasks[n]? = some t) {a : Except ε (A t.req)} (ha : K.Allows t.req a) :
    ∀ t' ∈ (s.answer n t a).tasks, t'.Under K := by
  intro t' ht'
  rcases List.mem_or_eq_of_mem_set ht' with ht' | rfl
  · exact hs.task t' ht'
  · have htask := hs.task t (List.mem_of_getElem? ht)
    refine ⟨htask.asked, fun a' ha' => ?_, htask.resumed⟩
    obtain rfl := Option.some.inj ha'
    exact ha

variable [DecidableEq ι]

theorem Sys.Under.start (hs : s.Under K J) {i : ι} {p : Prog Λ R A ε σ Unit} (hp : p.Within K) :
    (s.start i p).Under K J := by
  refine ⟨hs.base, fun t ht => ?_⟩
  rcases List.mem_append.mp ht with ht | ht
  · exact hs.task t ht
  · obtain ⟨hans, hasked, hresumed⟩ := hp.seg (s.pages i) t (Option.mem_toList.mp ht)
    refine ⟨hasked, fun a ha => ?_, hresumed⟩
    rw [hans] at ha
    cases ha

/-- **Step rule**: the clients' programs being under a contract that the backend honours, every step
keeps `J` and leaves every suspended program under the contract. -/
theorem Sys.Under.step {S : Spec ι Λ R A ε σ β Ev} (hK : K.Honours S.handler J)
    (hlost : K.fails S.lost) (hon : ∀ i ev x p, S.on i ev x = some p → p.Within K)
    {a : Act ι Ev β} (hs : s.Under K J) (hother : ∀ b, a = .other b → J b)
    (h : s.step S a = some s') : s'.Under K J := by
  cases Sys.step_cases h with
  | event hp => exact hs.start (hon _ _ _ _ hp)
  | @serve n t ht hans =>
    have htask := hs.task t (List.mem_of_getElem? ht)
    obtain ⟨hb, ha⟩ := hK t.req s.base htask.asked hs.base
    exact ⟨hb, hs.answer ht ha⟩
  | @lose n t ht hans => exact ⟨hs.base, hs.answer ht (Contract.allows_error hlost)⟩
  | @resume n t a ht hans =>
    have htask := hs.task t (List.mem_of_getElem? ht)
    have hrest : Sys.Under K J { s with tasks := s.tasks.eraseIdx n } :=
      ⟨hs.base, fun t' ht' => hs.task t' (List.mem_of_mem_eraseIdx ht')⟩
    exact hrest.start (htask.resumed a (htask.answered a hans))
  | other b => exact ⟨hother b rfl, hs.task⟩

/-- A step moves the data along `T`, if each request of the contract does. -/
theorem Sys.Under.moves {S : Spec ι Λ R A ε σ β Ev} {T : β → β → Prop} (hrefl : ∀ b, T b b)
    (hmove : ∀ r b, K.asks r → J b → T b (S.handler r b).2) {a : Act ι Ev β} (hs : s.Under K J)
    (h : s.closedStep S a = some s') : T s.base s'.base := by
  cases Sys.step_cases (Sys.step_of_closedStep h) with
  | event hp => exact hrefl _
  | @serve n t ht hans => exact hmove _ _ (hs.task t (List.mem_of_getElem? ht)).asked hs.base
  | lose ht hans => exact hrefl _
  | resume ht hans => exact hrefl _
  | other b => cases h

/-- **Run rule**: in a closed system it stays so in every run. -/
theorem Sys.always_under {S : Spec ι Λ R A ε σ β Ev} (hK : K.Honours S.handler J)
    (hlost : K.fails S.lost) (hon : ∀ i ev x p, S.on i ev x = some p → p.Within K)
    (hs : s.Under K J) (as : List (Act ι Ev β)) :
    Always (Sys.closedStep S) (Sys.Under K J) s as := by
  refine always_of_step (fun s a s' hs h => ?_) hs as
  refine hs.step hK hlost hon ?_ (Sys.step_of_closedStep h)
  rintro b rfl
  cases h

/-- **Run rule** for what a run does to the data. -/
theorem Sys.Under.run {S : Spec ι Λ R A ε σ β Ev} (hK : K.Honours S.handler J)
    (hlost : K.fails S.lost) (hon : ∀ i ev x p, S.on i ev x = some p → p.Within K)
    {T : β → β → Prop} (hrefl : ∀ b, T b b) (htrans : ∀ b b₁ b', T b b₁ → T b₁ b' → T b b')
    (hmove : ∀ r b, K.asks r → J b → T b (S.handler r b).2) {as : List (Act ι Ev β)}
    (hs : s.Under K J) (h : as.foldlM (Sys.closedStep S) s = some s') :
    s'.Under K J ∧ T s.base s'.base := by
  induction as generalizing s with
  | nil =>
    obtain rfl := Option.some.inj h
    exact ⟨hs, hrefl _⟩
  | cons a as ih =>
    obtain ⟨s₁, hs₁, hrest⟩ := foldlM_cons_eq_some.mp h
    have hnext : s₁.Under K J := hs.step hK hlost hon
      (by rintro b rfl; cases hs₁) (Sys.step_of_closedStep hs₁)
    obtain ⟨hs', hrel⟩ := ih hnext hrest
    exact ⟨hs', htrans _ _ _ (hs.moves hrefl hmove hs₁) hrel⟩

end Runs

/-! ## Screens -/

/-- A screen of a client: its state, the labels of its awaits, what can happen to it and the program
that starts. -/
structure Screen (R : Type) (A : R → Type) (ε : Type) where
  Page : Type
  Label : Type
  Ev : Type
  on : Ev → Page → Option (Prog Label R A ε Page Unit)

namespace Screen

variable {Ω : Type}

/-- A screen whose functions can be called at any time, and whose state its user can set. -/
def ofActions {π Λ Γ : Type} (p : Γ → Prog Λ R A ε π Unit) : Screen R A ε where
  Page := π
  Label := Λ
  Ev := π ⊕ Γ
  on ev _ := some (ev.elim (fun x => Prog.setState fun _ => x) p)

/-- A screen on which an event starts a program, if its state lets it happen. -/
def ofEvents {π Λ Ev : Type} (on : π → Ev → Option (Prog Λ R A ε π Unit)) : Screen R A ε where
  Page := π
  Label := Λ
  Ev := Ev
  on ev x := on x ev

/-- The programs of the screen are under the contract. -/
def Within (K : Contract R A ε) (S : Screen R A ε) : Prop :=
  ∀ ev x p, S.on ev x = some p → p.Within K

theorem within_ofActions {K : Contract R A ε} {π Λ Γ : Type} {p : Γ → Prog Λ R A ε π Unit}
    (hp : ∀ a, (p a).Within K) : (ofActions p).Within K := by
  rintro (x | a) _ q hq
  · obtain rfl := Option.some.inj hq
    trivial
  · obtain rfl := Option.some.inj hq
    exact hp a

theorem within_ofEvents {K : Contract R A ε} {π Λ Ev : Type}
    {on : π → Ev → Option (Prog Λ R A ε π Unit)}
    (hon : ∀ x ev p, on x ev = some p → p.Within K) : (ofEvents on).Within K :=
  fun ev x p hp => hon x ev p hp

variable [DecidableEq Ω]

/-- Clients with the screens of a family, of one backend. -/
def spec (h : (r : R) → β → Except ε (A r) × β) (lost : ε) (S : Ω → Screen R A ε) :
    Spec ι Unit R A ε ((o : Ω) → (S o).Page) β (Σ o, (S o).Ev) where
  handler := h
  lost := lost
  on _ ev x := ((S ev.1).on ev.2 (x ev.1)).map fun p =>
    (p.relabel fun _ => ()).zoom (fun x => x ev.1) fun s x => Function.update x ev.1 s

/-- The programs of the screens are under the contract. -/
theorem spec_within {K : Contract R A ε} {h : (r : R) → β → Except ε (A r) × β} {lost : ε}
    {S : Ω → Screen R A ε} (hS : ∀ o, (S o).Within K) (i : ι) (ev : Σ o, (S o).Ev)
    (x : (o : Ω) → (S o).Page) (p : Prog Unit R A ε ((o : Ω) → (S o).Page) Unit)
    (hp : (spec h lost S).on i ev x = some p) : p.Within K := by
  obtain ⟨q, hq, rfl⟩ := Option.map_eq_some_iff.mp hp
  exact ((hS ev.1 ev.2 (x ev.1) q hq).relabel _).zoom _ _

/-- **Run rule** for screens under a contract that the backend honours. -/
theorem always_of_within [DecidableEq ι] {K : Contract R A ε} {J : β → Prop}
    {h : (r : R) → β → Except ε (A r) × β} (hK : K.Honours h J) {lost : ε} (hlost : K.fails lost)
    {S : Ω → Screen R A ε} (hS : ∀ o, (S o).Within K) {b : β} (hb : J b)
    (pages : ι → (o : Ω) → (S o).Page) (as : List (Act ι (Σ o, (S o).Ev) β)) :
    Always (Sys.closedStep (spec h lost S)) (fun s => J s.base) (Sys.init b pages) as :=
  Always.mono (fun _ hs => hs.base)
    (Sys.always_under hK hlost (spec_within hS) (Sys.Under.init hb pages) as)

/-- **Run rule** for what happens between two states of a run. -/
theorem run_of_within [DecidableEq ι] {K : Contract R A ε} {J : β → Prop}
    {h : (r : R) → β → Except ε (A r) × β} (hK : K.Honours h J) {lost : ε} (hlost : K.fails lost)
    {S : Ω → Screen R A ε} (hS : ∀ o, (S o).Within K) {T : β → β → Prop} (hrefl : ∀ b, T b b)
    (htrans : ∀ b b₁ b', T b b₁ → T b₁ b' → T b b')
    (hmove : ∀ r b, K.asks r → J b → T b (h r b).2) {b : β} (hb : J b)
    {pages : ι → (o : Ω) → (S o).Page} {as as' : List (Act ι (Σ o, (S o).Ev) β)}
    {s s' : Sys ι Unit R A ε ((o : Ω) → (S o).Page) β}
    (hs : as.foldlM (Sys.closedStep (spec h lost S)) (Sys.init b pages) = some s)
    (hs' : as'.foldlM (Sys.closedStep (spec h lost S)) s = some s') :
    J s.base ∧ T s.base s'.base := by
  have hunder := Sys.Under.run (S := spec h lost S) hK hlost (spec_within hS) hrefl htrans hmove
    (Sys.Under.init hb pages) hs
  exact ⟨hunder.1.base, (hunder.1.run hK hlost (spec_within hS) hrefl htrans hmove hs').2⟩

end Screen

end Lib
