import EduConnect.Lib.Sched
import Mathlib.Data.List.Forall2

/-!
# Calls of one request

An object answers calls at once: `Rule` says what a call may answer in a world and what world it
leaves.  `Ideal` is a system of clients of such an object, whose calls take effect at one moment
between their start and their end.  A program that sends at most one request (`Prog.Atomic`)
implements a call of it, and every history of clients of these programs is one of the object
(`Sys.history_ideal`): it can be linearized.
-/

namespace Lib

variable {ι C : Type} {B : C → Type} {ε W : Type}

/-! ## The object -/

/-- A call that has ended. -/
structure Outcome (C : Type) (B : C → Type) (ε : Type) where
  call : C
  result : Except ε (B call)

/-- A call that has started; `result` is there once it has taken effect. -/
structure Pending (ι C : Type) (B : C → Type) (ε : Type) where
  who : ι
  call : C
  result : Option (Except ε (B call))

/-- What clients see. -/
inductive Obs (ι C : Type) (B : C → Type) (ε : Type) where
  | call (i : ι) (c : C)
  | done (i : ι) (x : Outcome C B ε)

structure Ideal (ι C : Type) (B : C → Type) (ε W : Type) where
  world : W
  pending : List (Pending ι C B ε)

namespace Ideal

variable (P : (c : C) → W → Except ε (B c) → W → Prop)

/-- A step and what it shows. -/
inductive Step (t : Ideal ι C B ε W) : Option (Obs ι C B ε) → Ideal ι C B ε W → Prop where
  | call (i : ι) (c : C) : Step t (some (.call i c)) { t with pending := t.pending ++ [⟨i, c, none⟩] }
  | effect {n : ℕ} {i : ι} {c : C} {o : Except ε (B c)} {w : W}
    (hn : t.pending[n]? = some ⟨i, c, none⟩) (ho : P c t.world o w) :
    Step t none ⟨w, t.pending.set n ⟨i, c, some o⟩⟩
  | done {n : ℕ} {i : ι} {c : C} {o : Except ε (B c)} (hn : t.pending[n]? = some ⟨i, c, some o⟩) :
    Step t (some (.done i ⟨c, o⟩)) { t with pending := t.pending.eraseIdx n }

/-- A run and its history. -/
inductive Run (t : Ideal ι C B ε W) : List (Obs ι C B ε) → Ideal ι C B ε W → Prop where
  | nil : Run t [] t
  | tail {h : List (Obs ι C B ε)} {u v : Ideal ι C B ε W} {o : Option (Obs ι C B ε)}
    (hr : Run t h u) (hs : Step P u o v) : Run t (h ++ o.toList) v

variable {P} {t u v : Ideal ι C B ε W} {h h' : List (Obs ι C B ε)}

theorem Step.run {o : Option (Obs ι C B ε)} (hs : Step P t o u) : Run P t o.toList u := by
  have hrun := Run.tail (.nil (P := P) (t := t)) hs
  rwa [List.nil_append] at hrun

theorem Run.trans (h₁ : Run P t h u) (h₂ : Run P u h' v) : Run P t (h ++ h') v := by
  induction h₂ with
  | nil => rwa [List.append_nil]
  | tail hr hs ih =>
    rw [← List.append_assoc]
    exact ih.tail hs

/-- A call that takes effect and ends as it starts. -/
theorem run_call {i : ι} {c : C} {o : Except ε (B c)} {w : W} (ho : P c t.world o w) :
    Run P t [.call i c, .done i ⟨c, o⟩] ⟨w, t.pending⟩ := by
  have hlast : ∀ q : Pending ι C B ε, (t.pending ++ [q])[t.pending.length]? = some q :=
    fun q => List.getElem?_concat_length
  have hset : ∀ q q' : Pending ι C B ε,
      (t.pending ++ [q]).set t.pending.length q' = t.pending ++ [q'] := fun q q' => by simp
  have herase : ∀ q : Pending ι C B ε,
      (t.pending ++ [q]).eraseIdx t.pending.length = t.pending := fun q => by
    simp [List.eraseIdx_append_of_length_le]
  have hcall : Run P t [.call i c] ⟨t.world, t.pending ++ [⟨i, c, none⟩]⟩ := (Step.call i c).run
  have heffect : Step P ⟨t.world, t.pending ++ [⟨i, c, none⟩]⟩ none
      ⟨w, t.pending ++ [⟨i, c, some o⟩]⟩ := by
    have hstep := Step.effect (t := ⟨t.world, t.pending ++ [⟨i, c, none⟩]⟩) (hlast ⟨i, c, none⟩) ho
    rwa [hset] at hstep
  have hdone : Step P ⟨w, t.pending ++ [⟨i, c, some o⟩]⟩ (some (.done i ⟨c, o⟩))
      ⟨w, t.pending⟩ := by
    have hstep := Step.done (P := P) (t := ⟨w, t.pending ++ [⟨i, c, some o⟩]⟩)
      (hlast ⟨i, c, some o⟩)
    rwa [herase] at hstep
  exact (hcall.tail heffect).tail hdone

end Ideal

/-! ## Programs of one request -/

variable {Λ R : Type} {A : R → Type} {σ β α γ Ev : Type}

namespace Prog

/-- The program sends at most one request, and then ends at once; `Rep` links the object to the data
of the backend.  A lost request leaves the object as it is. -/
def Atomic (h : (r : R) → β → Except ε (A r) × β) (lost : ε) (Rep : W → β → Prop)
    (P : W → Except ε α → W → Prop) : Prog Λ R A ε σ α → Prop
  | ret a => ∀ w, P w (.ok a) w
  | fail e => ∀ w, P w (.error e) w
  | read _ => False
  | write _ _ => False
  | await _ r k => ∀ w b, Rep w b →
    (∃ o w', k (h r b).1 = ofExcept o ∧ P w o w' ∧ Rep w' (h r b).2) ∧
      ∃ o, k (.error lost) = ofExcept o ∧ P w o w

section Rules

variable {h : (r : R) → β → Except ε (A r) × β} {lost : ε} {Rep : W → β → Prop}
  {P : W → Except ε α → W → Prop} {p : Prog Λ R A ε σ α}

theorem atomic_call {l : Λ} {r : R} {P : W → Except ε (A r) → W → Prop}
    (hr : ∀ w b, Rep w b → ∃ w', P w (h r b).1 w' ∧ Rep w' (h r b).2)
    (hlost : ∀ w, P w (.error lost) w) : (call l r : Prog Λ R A ε σ (A r)).Atomic h lost Rep P := by
  intro w b hb
  obtain ⟨w', hw'⟩ := hr w b hb
  exact ⟨⟨_, w', rfl, hw'⟩, _, rfl, hlost w⟩

theorem Atomic.ite {c : Prop} [Decidable c] {q : Prog Λ R A ε σ α}
    (hp : c → p.Atomic h lost Rep P) (hq : ¬c → q.Atomic h lost Rep P) :
    (if c then p else q).Atomic h lost Rep P := by
  by_cases hc : c
  · rw [if_pos hc]
    exact hp hc
  · rw [if_neg hc]
    exact hq hc

/-- The result is worked out from the answer. -/
theorem Atomic.bind {Q : W → Except ε γ → W → Prop} {f : α → Prog Λ R A ε σ γ}
    {g : α → Except ε γ} (hp : p.Atomic h lost Rep P) (hf : ∀ a, f a = ofExcept (g a))
    (hQ : ∀ w o w', P w o w' → Q w (o.bind g) w') : (p.bind f).Atomic h lost Rep Q := by
  have hbind : ∀ o : Except ε α, (ofExcept o : Prog Λ R A ε σ α).bind f = ofExcept (o.bind g) := by
    intro o
    cases o with
    | error e => rfl
    | ok a => exact hf a
  cases p with
  | ret a =>
    show (f a).Atomic h lost Rep Q
    have ha : ∀ w, Q w (g a) w := fun w => hQ _ _ _ (hp w)
    rw [hf a]
    cases hga : g a <;> rw [hga] at ha <;> exact ha
  | fail e => exact fun w => hQ _ _ _ (hp w)
  | read k => exact hp.elim
  | write g p => exact hp.elim
  | await l r k =>
    intro w b hb
    obtain ⟨⟨o, w', hk, hP, hb'⟩, o', hk', hP'⟩ := hp w b hb
    refine ⟨⟨o.bind g, w', ?_, hQ _ _ _ hP, hb'⟩, o'.bind g, ?_, hQ _ _ _ hP'⟩
    · exact (congrArg (fun q => q.bind f) hk).trans (hbind o)
    · exact (congrArg (fun q => q.bind f) hk').trans (hbind o')

/-- Errors are thrown again under another form. -/
theorem Atomic.rethrow {Q : W → Except ε α → W → Prop} {c : ε → Prog Λ R A ε σ α} {g : ε → ε}
    (hp : p.Atomic h lost Rep P) (hc : ∀ e, c e = fail (g e))
    (hQ : ∀ w o w', P w o w' → Q w (o.mapError g) w') : (p.catching c).Atomic h lost Rep Q := by
  have hcatch : ∀ o : Except ε α,
      (ofExcept o : Prog Λ R A ε σ α).catching c = ofExcept (o.mapError g) := by
    intro o
    cases o with
    | error e => exact hc e
    | ok a => rfl
  cases p with
  | ret a => exact fun w => hQ _ _ _ (hp w)
  | fail e =>
    show (c e).Atomic h lost Rep Q
    rw [hc e]
    exact fun w => hQ _ _ _ (hp w)
  | read k => exact hp.elim
  | write g p => exact hp.elim
  | await l r k =>
    intro w b hb
    obtain ⟨⟨o, w', hk, hP, hb'⟩, o', hk', hP'⟩ := hp w b hb
    refine ⟨⟨o.mapError g, w', ?_, hQ _ _ _ hP, hb'⟩, o'.mapError g, ?_, hQ _ _ _ hP'⟩
    · exact (congrArg (fun q => q.catching c) hk).trans (hcatch o)
    · exact (congrArg (fun q => q.catching c) hk').trans (hcatch o')

end Rules

/-- The outcome of a program, errors included. -/
def attempt (p : Prog Λ R A ε σ α) : Prog Λ R A ε σ (Except ε α) :=
  (p.bind fun a => ret (.ok a)).catching fun e => ret (.error e)

/-- A call whose client writes its outcome down. -/
def recorded (c : C) (p : Prog Λ R A ε (List (Outcome C B ε)) (B c)) :
    Prog Λ R A ε (List (Outcome C B ε)) Unit :=
  p.attempt.bind fun o => setState fun s => s ++ [⟨c, o⟩]

theorem seg_recorded_ofExcept (i : ι) {c : C} (o : Except ε (B c)) (s : List (Outcome C B ε)) :
    (recorded c (ofExcept o : Prog Λ R A ε _ (B c))).seg i s = (s ++ [⟨c, o⟩], none) := by
  cases o <;> rfl

theorem seg_recorded_await (i : ι) {c : C} {l : Λ} {r : R}
    (k : Except ε (A r) → Prog Λ R A ε (List (Outcome C B ε)) (B c)) (s : List (Outcome C B ε)) :
    (recorded c (await l r k)).seg i s = (s, some ⟨i, l, r, fun a => recorded c (k a), none⟩) := rfl

end Prog

/-! ## Clients of the programs -/

section Clients

variable [DecidableEq ι] (h : (r : R) → β → Except ε (A r) × β) (lost : ε)
  (prog : (c : C) → Prog Λ R A ε (List (Outcome C B ε)) (B c))

/-- Clients that make calls, each with the list of the outcomes it has received. -/
def calls : Spec ι Λ R A ε (List (Outcome C B ε)) β C :=
  ⟨h, lost, fun _ c _ => some (Prog.recorded c (prog c))⟩

/-- The outcomes `i` receives between two states. -/
def Sys.received (i : ι) (s s' : Sys ι Λ R A ε (List (Outcome C B ε)) β) : List (Obs ι C B ε) :=
  ((s'.pages i).drop (s.pages i).length).map (.done i)

/-- What a step shows. -/
def Sys.shows (s s' : Sys ι Λ R A ε (List (Outcome C B ε)) β) :
    Act ι C β → List (Obs ι C B ε)
  | .event i c => .call i c :: received i s s'
  | .resume n =>
    match s.tasks[n]? with
    | some t => received t.who s s'
    | none => []
  | _ => []

/-- What a run shows. -/
def Sys.history (s : Sys ι Λ R A ε (List (Outcome C B ε)) β) :
    List (Act ι C β) → List (Obs ι C B ε)
  | [] => []
  | a :: as =>
    match s.closedStep (calls h lost prog) a with
    | some s' => s.shows s' a ++ s'.history as
    | none => []

variable {h lost prog} {Rep : W → β → Prop} {P : (c : C) → W → Except ε (B c) → W → Prop}

/-- A suspended program and the call it stands for. -/
inductive Linked (h : (r : R) → β → Except ε (A r) × β) (lost : ε) (Rep : W → β → Prop)
    (P : (c : C) → W → Except ε (B c) → W → Prop) :
    Task ι Λ R A ε (List (Outcome C B ε)) → Pending ι C B ε → Prop where
  | waiting {i : ι} {c : C} {l : Λ} {r : R}
    {k : Except ε (A r) → Prog Λ R A ε (List (Outcome C B ε)) (B c)}
    (hk : (Prog.await l r k).Atomic h lost Rep (P c)) :
    Linked h lost Rep P ⟨i, l, r, fun a => Prog.recorded c (k a), none⟩ ⟨i, c, none⟩
  | served {i : ι} {c : C} {l : Λ} {r : R}
    {k : Except ε (A r) → Prog Λ R A ε (List (Outcome C B ε)) (B c)} {a : Except ε (A r)}
    {o : Except ε (B c)} (hk : k a = Prog.ofExcept o) :
    Linked h lost Rep P ⟨i, l, r, fun a => Prog.recorded c (k a), some a⟩ ⟨i, c, some o⟩

/-- The system stands for the ideal one. -/
structure Sys.Stands (h : (r : R) → β → Except ε (A r) × β) (lost : ε) (Rep : W → β → Prop)
    (P : (c : C) → W → Except ε (B c) → W → Prop)
    (s : Sys ι Λ R A ε (List (Outcome C B ε)) β) (t : Ideal ι C B ε W) : Prop where
  world : Rep t.world s.base
  tasks : List.Forall₂ (Linked h lost Rep P) s.tasks t.pending

theorem forall₂_getElem? {α β : Type} {r : α → β → Prop} {l : List α} {m : List β}
    (hl : List.Forall₂ r l m) {n : ℕ} {a : α} (ha : l[n]? = some a) : ∃ b, m[n]? = some b ∧ r a b := by
  induction hl generalizing n with
  | nil => cases ha
  | cons hab hl ih =>
    cases n with
    | zero =>
      obtain rfl := Option.some.inj ha
      exact ⟨_, rfl, hab⟩
    | succ n => exact ih ha

theorem forall₂_set {α β : Type} {r : α → β → Prop} {l : List α} {m : List β}
    (hl : List.Forall₂ r l m) {a : α} {b : β} (hab : r a b) (n : ℕ) :
    List.Forall₂ r (l.set n a) (m.set n b) := by
  induction hl generalizing n with
  | nil => exact .nil
  | cons hcd hl ih =>
    cases n with
    | zero => exact .cons hab hl
    | succ n => exact .cons hcd (ih n)

theorem forall₂_eraseIdx {α β : Type} {r : α → β → Prop} {l : List α} {m : List β}
    (hl : List.Forall₂ r l m) (n : ℕ) : List.Forall₂ r (l.eraseIdx n) (m.eraseIdx n) := by
  induction hl generalizing n with
  | nil => exact .nil
  | cons hcd hl ih =>
    cases n with
    | zero => exact hl
    | succ n => exact .cons hcd (ih n)

variable {s s' : Sys ι Λ R A ε (List (Outcome C B ε)) β} {t : Ideal ι C B ε W}

theorem Sys.received_start (i : ι) {p : Prog Λ R A ε (List (Outcome C B ε)) Unit}
    {xs : List (Outcome C B ε)} (hp : (p.seg i (s.pages i)).1 = s.pages i ++ xs) :
    received i s (s.start i p) = xs.map (.done i) := by
  have hpage : (s.start i p).pages i = s.pages i ++ xs := (Function.update_self ..).trans hp
  unfold received
  rw [hpage, List.drop_left]

/-- A call that starts. -/
theorem Sys.Stands.event (hs : s.Stands h lost Rep P t) (i : ι) {c : C}
    (hc : (prog c).Atomic h lost Rep (P c)) : ∃ t', Ideal.Run P t
      (.call i c :: received i s (s.start i (Prog.recorded c (prog c)))) t' ∧
      (s.start i (Prog.recorded c (prog c))).Stands h lost Rep P t' := by
  have hends : ∀ o : Except ε (B c), (∀ w, P c w o w) → prog c = Prog.ofExcept o →
      ∃ t', Ideal.Run P t
        (.call i c :: received i s (s.start i (Prog.recorded c (prog c)))) t' ∧
        (s.start i (Prog.recorded c (prog c))).Stands h lost Rep P t' := by
    intro o ho hprog
    have hseg := Prog.seg_recorded_ofExcept (Λ := Λ) (R := R) (A := A) i (c := c) o (s.pages i)
    rw [hprog, received_start i (congrArg Prod.fst hseg)]
    refine ⟨t, Ideal.run_call (ho t.world), hs.world, ?_⟩
    have htasks : (s.start i (Prog.recorded c (Prog.ofExcept o))).tasks = s.tasks := by
      unfold start
      rw [hseg]
      exact List.append_nil _
    rw [htasks]
    exact hs.tasks
  cases hprog : prog c with
  | ret a =>
    rw [hprog] at hc hends
    exact hends (.ok a) hc rfl
  | fail e =>
    rw [hprog] at hc hends
    exact hends (.error e) hc rfl
  | read k =>
    rw [hprog] at hc
    exact hc.elim
  | write f p =>
    rw [hprog] at hc
    exact hc.elim
  | await l r k =>
    rw [hprog] at hc
    have hseg := Prog.seg_recorded_await i (c := c) (l := l) k (s.pages i)
    have hsame := (congrArg Prod.fst hseg).trans (List.append_nil (s.pages i)).symm
    rw [received_start i hsame]
    refine ⟨_, (Ideal.Step.call i c).run, hs.world, ?_⟩
    exact List.rel_append hs.tasks (.cons (.waiting hc) .nil)

omit [DecidableEq ι] in
/-- A request that is answered, or lost. -/
theorem Sys.Stands.answer (hs : s.Stands h lost Rep P t) {n : ℕ}
    {u : Task ι Λ R A ε (List (Outcome C B ε))} (hu : s.tasks[n]? = some u) (hans : u.ans = none) :
    (∃ t', Ideal.Run P t [] t' ∧ Sys.Stands h lost Rep P
      { s.answer n u (h u.req s.base).1 with base := (h u.req s.base).2 } t') ∧
    ∃ t', Ideal.Run P t [] t' ∧ (s.answer n u (.error lost)).Stands h lost Rep P t' := by
  obtain ⟨q, hq, hlink⟩ := forall₂_getElem? hs.tasks hu
  cases hlink with
  | served hk => cases hans
  | waiting hk =>
    obtain ⟨⟨o, w', ho, hP, hw'⟩, o', ho', hP'⟩ := hk _ _ hs.world
    exact ⟨⟨_, (Ideal.Step.effect hq hP).run, hw', forall₂_set hs.tasks (.served ho) n⟩,
      _, (Ideal.Step.effect hq hP').run, hs.world, forall₂_set hs.tasks (.served ho') n⟩

/-- An answer that is received. -/
theorem Sys.Stands.resume (hs : s.Stands h lost Rep P t) {n : ℕ}
    {u : Task ι Λ R A ε (List (Outcome C B ε))} (hu : s.tasks[n]? = some u)
    {a : Except ε (A u.req)} (hans : u.ans = some a) :
    ∃ t', Ideal.Run P t
      (received u.who s (Sys.start u.who (u.k a) { s with tasks := s.tasks.eraseIdx n })) t' ∧
      (Sys.start u.who (u.k a) { s with tasks := s.tasks.eraseIdx n }).Stands h lost Rep P t' := by
  obtain ⟨q, hq, hlink⟩ := forall₂_getElem? hs.tasks hu
  cases hlink with
  | waiting hk => cases hans
  | @served i c l r k a' o hk =>
    obtain rfl := Option.some.inj hans
    have hseg := Prog.seg_recorded_ofExcept (Λ := Λ) (R := R) (A := A) i (c := c) o (s.pages i)
    rw [← hk] at hseg
    have hrecv : received i s (Sys.start i (Prog.recorded c (k a'))
        { s with tasks := s.tasks.eraseIdx n }) = [.done i ⟨c, o⟩] :=
      received_start (s := { s with tasks := s.tasks.eraseIdx n }) i (congrArg Prod.fst hseg)
    refine ⟨⟨t.world, t.pending.eraseIdx n⟩, ?_, hs.world, ?_⟩
    · rw [hrecv]
      exact (Ideal.Step.done hq).run
    · have htasks : (Sys.start i (Prog.recorded c (k a'))
          { s with tasks := s.tasks.eraseIdx n }).tasks = s.tasks.eraseIdx n := by
        unfold start
        rw [hseg]
        exact List.append_nil _
      rw [htasks]
      exact forall₂_eraseIdx hs.tasks n

/-- **Step lemma**: what a step shows, the ideal system may show. -/
theorem Sys.Stands.step (hprog : ∀ c, (prog c).Atomic h lost Rep (P c))
    (hs : s.Stands h lost Rep P t) {a : Act ι C β}
    (hstep : s.closedStep (calls h lost prog) a = some s') :
    ∃ t', Ideal.Run P t (s.shows s' a) t' ∧ s'.Stands h lost Rep P t' := by
  cases Sys.step_cases (step_of_closedStep hstep) with
  | event hp =>
    obtain rfl := Option.some.inj hp
    exact hs.event _ (hprog _)
  | serve hu hans => exact (hs.answer hu hans).1
  | lose hu hans => exact (hs.answer hu hans).2
  | @resume n u a hu hans =>
    have hshows : ∀ s'', s.shows s'' (.resume n) = received u.who s s'' := fun s'' => by
      simp only [shows, hu]
    rw [hshows]
    exact hs.resume hu hans
  | other b => cases hstep

/-- **Run lemma**: a history of the clients is a history of the ideal system. -/
theorem Sys.history_ideal (hprog : ∀ c, (prog c).Atomic h lost Rep (P c))
    (hs : s.Stands h lost Rep P t) {as : List (Act ι C β)}
    (hrun : as.foldlM (closedStep (calls h lost prog)) s = some s') :
    ∃ t', Ideal.Run P t (s.history h lost prog as) t' ∧ s'.Stands h lost Rep P t' := by
  induction as generalizing s t with
  | nil =>
    obtain rfl := Option.some.inj hrun
    exact ⟨t, .nil, hs⟩
  | cons a as ih =>
    obtain ⟨s₁, h₁, hrun⟩ := Option.bind_eq_some_iff.mp hrun
    obtain ⟨t₁, hrun₁, hs₁⟩ := hs.step hprog h₁
    obtain ⟨t', hrun', hs'⟩ := ih hs₁ hrun
    refine ⟨t', ?_, hs'⟩
    simp only [history, h₁]
    exact hrun₁.trans hrun'

omit [DecidableEq ι] in
/-- Nobody has called yet. -/
theorem Sys.Stands.init {w : W} {b : β} (hb : Rep w b) (pages : ι → List (Outcome C B ε)) :
    (Sys.init b pages : Sys ι Λ R A ε _ β).Stands h lost Rep P ⟨w, []⟩ := ⟨hb, .nil⟩

end Clients

end Lib
