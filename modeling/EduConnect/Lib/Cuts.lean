import EduConnect.Lib.Faults

/-!
# Runs cut by a fault

A program that does not catch the errors of the backend stops at the first lost request.  The
backend is then as it was when this request was sent: `Prog.states` lists these states along the run
without faults, one a request.
-/

namespace Lib

variable {Λ R : Type} {A : R → Type} {ε σ β α γ : Type}

namespace Prog

/-- Every error of the backend is thrown. -/
def Direct : Prog Λ R A ε σ α → Prop
  | ret _ => True
  | fail _ => True
  | read k => ∀ s, (k s).Direct
  | write _ p => p.Direct
  | await _ _ k => (∀ e, k (.error e) = .fail e) ∧ ∀ a, (k a).Direct

section Direct

@[simp] theorem direct_ofExcept (a : Except ε α) :
    (ofExcept a : Prog Λ R A ε σ α).Direct := by
  cases a <;> trivial

@[simp] theorem direct_call (l : Λ) (r : R) : (call l r : Prog Λ R A ε σ (A r)).Direct :=
  ⟨fun _ => rfl, direct_ofExcept⟩

@[simp] theorem direct_page : (page : Prog Λ R A ε σ σ).Direct := fun _ => trivial

@[simp] theorem direct_setState (f : σ → σ) : (setState f : Prog Λ R A ε σ Unit).Direct := trivial

theorem Direct.bind {p : Prog Λ R A ε σ α} {f : α → Prog Λ R A ε σ γ} (hp : p.Direct)
    (hf : ∀ a, (f a).Direct) : (p.bind f).Direct := by
  induction p with
  | ret a => exact hf a
  | fail e => trivial
  | read k ih => exact fun s => ih s (hp s)
  | write g p ih => exact ih hp
  | await l r k ih =>
    refine ⟨fun e => ?_, fun a => ih a (hp.2 a)⟩
    show (k (.error e)).bind f = .fail e
    rw [hp.1 e]
    rfl

theorem Direct.ite {c : Prop} [Decidable c] {p q : Prog Λ R A ε σ α} (hp : p.Direct)
    (hq : q.Direct) : (if c then p else q).Direct := by
  by_cases hc : c
  · rwa [if_pos hc]
  · rwa [if_neg hc]

end Direct

/-! ## The states of the backend -/

section States

variable (h : (r : R) → β → Except ε (A r) × β)

/-- The backend at each request of the run of `p`. -/
def states : Prog Λ R A ε σ α → σ → β → List β
  | ret _, _, _ => []
  | fail _, _, _ => []
  | read k, s, b => (k s).states s b
  | write f p, s, b => p.states (f s) b
  | await _ r k, s, b => b :: (k (h r b).1).states s (h r b).2

variable {h}

@[simp] theorem states_ret (a : α) (s : σ) (b : β) :
    (ret a : Prog Λ R A ε σ α).states h s b = [] := rfl

@[simp] theorem states_ofExcept (a : Except ε α) (s : σ) (b : β) :
    (ofExcept a : Prog Λ R A ε σ α).states h s b = [] := by
  cases a <;> rfl

@[simp] theorem states_call (l : Λ) (r : R) (s : σ) (b : β) :
    (call l r : Prog Λ R A ε σ (A r)).states h s b = [b] := by
  simp [call, states]

theorem states_bind (p : Prog Λ R A ε σ α) (f : α → Prog Λ R A ε σ γ) (s : σ) (b : β) :
    (p.bind f).states h s b = p.states h s b ++ match p.exec h s b with
      | (.ok a, s', b') => (f a).states h s' b'
      | (.error _, _, _) => [] := by
  induction p generalizing s b with
  | ret a => rfl
  | fail e => rfl
  | read k ih => exact ih s s b
  | write g p ih => exact ih (g s) b
  | await l r k ih =>
    show b :: ((k (h r b).1).bind f).states h s (h r b).2 = _
    rw [ih (h r b).1 s (h r b).2]
    rfl

/-- A run that ends well: its result, the page and the backend after it, and the backend at each of
its requests. -/
structure Runs (h : (r : R) → β → Except ε (A r) × β) (p : Prog Λ R A ε σ α) (s : σ) (b : β) (a : α)
    (s' : σ) (b' : β) (l : List β) : Prop where
  exec : p.exec h s b = (.ok a, s', b')
  states : p.states h s b = l

theorem Runs.bind {p : Prog Λ R A ε σ α} {f : α → Prog Λ R A ε σ γ} {s s₁ s' : σ} {b b₁ b' : β}
    {a : α} {c : γ} {l l' : List β} (hp : p.Runs h s b a s₁ b₁ l)
    (hf : (f a).Runs h s₁ b₁ c s' b' l') : (p.bind f).Runs h s b c s' b' (l ++ l') := by
  refine ⟨?_, ?_⟩
  · rw [exec_bind, hp.exec]
    exact hf.exec
  · rw [states_bind, hp.exec, hp.states]
    exact congrArg (l ++ ·) hf.states

theorem runs_ret (a : α) (s : σ) (b : β) :
    (ret a : Prog Λ R A ε σ α).Runs h s b a s b [] := ⟨rfl, rfl⟩

theorem runs_page (s : σ) (b : β) : (page : Prog Λ R A ε σ σ).Runs h s b s s b [] := ⟨rfl, rfl⟩

theorem runs_ofExcept {x : Except ε α} {a : α} (hx : x = .ok a) (s : σ) (b : β) :
    (ofExcept x : Prog Λ R A ε σ α).Runs h s b a s b [] := by
  rw [hx]
  exact runs_ret a s b

theorem runs_call {l : Λ} {r : R} {a : A r} {b b' : β} (hr : h r b = (.ok a, b')) (s : σ) :
    (call l r : Prog Λ R A ε σ (A r)).Runs h s b a s b' [b] := by
  refine ⟨?_, states_call l r s b⟩
  unfold call
  rw [exec_await, hr]
  rfl

/-- A program that ends well has a first part that does. -/
theorem exec_bind_eq_ok {p : Prog Λ R A ε σ α} {f : α → Prog Λ R A ε σ γ} {s : σ} {b : β} {c : γ}
    (h' : ((p.bind f).exec h s b).1 = .ok c) :
    ∃ a s₁ b₁, p.exec h s b = (.ok a, s₁, b₁) ∧ ((f a).exec h s₁ b₁).1 = .ok c := by
  rw [exec_bind] at h'
  rcases hp : p.exec h s b with ⟨e | a, s₁, b₁⟩
  · rw [hp] at h'
    cases h'
  · rw [hp] at h'
    exact ⟨a, s₁, b₁, rfl, h'⟩

/-! ## Cuts -/

/-- The number of requests served before the first fault. -/
def firstFault (f : List (Option ε)) : ℕ := f.findIdx Option.isSome

/-- A fault stops the run: the backend is as it was when the lost request was sent. -/
theorem exec_faulty_of_fault {p : Prog Λ R A ε σ α} (hp : p.Direct) {f : List (Option ε)}
    (hf : firstFault f < f.length) {s : σ} {b : β} (hk : firstFault f < (p.states h s b).length) :
    ∃ e s' f', p.exec (faulty h) s (b, f) =
      (.error e, s', ((p.states h s b)[firstFault f], f')) := by
  induction p generalizing s b f with
  | ret a => exact absurd hk (by simp)
  | fail e => exact absurd hk (by simp [Prog.states])
  | read k ih => exact ih s (hp s) hf hk
  | write g p ih => exact ih hp hf hk
  | await l r k ih =>
    rcases f with _ | ⟨x, f⟩
    · exact absurd hf (by simp [firstFault])
    rcases x with _ | e
    · have hfirst : firstFault (none :: f) = firstFault f + 1 := by simp [firstFault, List.findIdx_cons]
      have hf' : firstFault f < f.length := by
        rw [hfirst, List.length_cons] at hf
        omega
      have hk' : firstFault f < ((k (h r b).1).states h s (h r b).2).length := by
        have hlen : firstFault (none :: f) <
          ((k (h r b).1).states h s (h r b).2).length + 1 := hk
        omega
      obtain ⟨e, s', f', hex⟩ := ih (h r b).1 (hp.2 _) hf' hk'
      refine ⟨e, s', f', ?_⟩
      show (k (faulty h r (b, none :: f)).1).exec (faulty h) s (faulty h r (b, none :: f)).2 = _
      rw [faulty_of_none rfl]
      refine hex.trans ?_
      simp only [hfirst]
      rfl
    · have hfirst : firstFault (some e :: f) = 0 := by simp [firstFault, List.findIdx_cons]
      refine ⟨e, s, f, ?_⟩
      show (k (faulty h r (b, some e :: f)).1).exec (faulty h) s (faulty h r (b, some e :: f)).2 = _
      rw [faulty_of_fault rfl, hp.1 e]
      simp only [hfirst]
      rfl

/-- Without a fault among its requests, a program runs as on `h`. -/
theorem exec_faulty_of_le {p : Prog Λ R A ε σ α} {f : List (Option ε)} {s : σ} {b : β}
    (hk : f.length ≤ firstFault f ∨ (p.states h s b).length ≤ firstFault f) :
    ∃ f', p.exec (faulty h) s (b, f) =
      ((p.exec h s b).1, (p.exec h s b).2.1, ((p.exec h s b).2.2, f')) := by
  induction p generalizing s b f with
  | ret a => exact ⟨f, rfl⟩
  | fail e => exact ⟨f, rfl⟩
  | read k ih => exact ih s hk
  | write g p ih => exact ih hk
  | await l r k ih =>
    have hnone : nextFault f = none := by
      rcases f with _ | ⟨_ | e, f⟩
      · rfl
      · rfl
      · have hfirst : firstFault (some e :: f) = 0 := by simp [firstFault, List.findIdx_cons]
        rw [hfirst] at hk
        rcases hk with hk | hk
        · exact absurd hk (by simp)
        · exact absurd hk (by simp [Prog.states])
    have hrest : f.tail.length ≤ firstFault f.tail ∨
        ((k (h r b).1).states h s (h r b).2).length ≤ firstFault f.tail := by
      rcases f with _ | ⟨x, f⟩
      · exact Or.inl (Nat.zero_le _)
      · obtain rfl : x = none := hnone
        have hfirst : firstFault (none :: f) = firstFault f + 1 := by
          simp [firstFault, List.findIdx_cons]
        rw [hfirst] at hk
        refine hk.imp (fun hk => ?_) fun hk => ?_
        · exact Nat.le_of_succ_le_succ hk
        · have hlen : ((k (h r b).1).states h s (h r b).2).length + 1 ≤ firstFault f + 1 := hk
          exact Nat.le_of_succ_le_succ hlen
    obtain ⟨f', hex⟩ := ih (h r b).1 hrest
    refine ⟨f', ?_⟩
    show (k (faulty h r (b, f)).1).exec (faulty h) s (faulty h r (b, f)).2 = _
    rw [faulty_of_none hnone]
    exact hex

end States

end Prog

end Lib
