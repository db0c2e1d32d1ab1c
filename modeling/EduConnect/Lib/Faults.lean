import EduConnect.Lib.Prog

/-!
# A backend that fails

`faulty h` is the backend `h` behind a connection whose faults are given in advance: the `n`-th
entry of the list says whether the `n`-th request is lost, and with which error.  A lost request has
no effect; requests past the end of the list are served.
-/

namespace Lib

variable {Λ R : Type} {A : R → Type} {ε σ β α : Type}

/-- The error the next request meets, if it is lost. -/
def nextFault (f : List (Option ε)) : Option ε := f.head?.join

@[simp] theorem nextFault_nil : nextFault ([] : List (Option ε)) = none := rfl

@[simp] theorem nextFault_cons (x : Option ε) (f : List (Option ε)) : nextFault (x :: f) = x := rfl

/-- The backend `h` with faults. -/
def faulty (h : (r : R) → β → Except ε (A r) × β) (r : R) (x : β × List (Option ε)) :
    Except ε (A r) × (β × List (Option ε)) :=
  match nextFault x.2 with
  | some e => (.error e, (x.1, x.2.tail))
  | none => ((h r x.1).1, ((h r x.1).2, x.2.tail))

variable {h : (r : R) → β → Except ε (A r) × β}

theorem faulty_of_fault {r : R} {b : β} {f : List (Option ε)} {e : ε} (hf : nextFault f = some e) :
    faulty h r (b, f) = (.error e, (b, f.tail)) := by
  simp only [faulty, hf]

theorem faulty_of_none {r : R} {b : β} {f : List (Option ε)} (hf : nextFault f = none) :
    faulty h r (b, f) = ((h r b).1, ((h r b).2, f.tail)) := by
  simp only [faulty, hf]

/-- A request either fails without effect or is served. -/
theorem faulty_cases {P : Except ε (A r) × (β × List (Option ε)) → Prop} {b : β}
    {f : List (Option ε)} (hlost : ∀ e, nextFault f = some e → P (.error e, (b, f.tail)))
    (hserved : nextFault f = none → P ((h r b).1, ((h r b).2, f.tail))) :
    P (faulty h r (b, f)) := by
  rcases hf : nextFault f with _ | e
  · rw [faulty_of_none hf]
    exact hserved hf
  · rw [faulty_of_fault hf]
    exact hlost e hf

/-- The backend `h` with faults, where the requests in `loc` do not go through the connection. -/
def faultyBut (loc : R → Bool) (h : (r : R) → β → Except ε (A r) × β) (r : R)
    (x : β × List (Option ε)) : Except ε (A r) × (β × List (Option ε)) :=
  if loc r then ((h r x.1).1, ((h r x.1).2, x.2)) else faulty h r x

namespace Prog

variable {loc : R → Bool}

theorem ends_call_local {l : Λ} {r : R} {Q : Except ε (A r) → σ → β × List (Option ε) → Prop}
    {s : σ} {b : β} {f : List (Option ε)} (hr : loc r = true) :
    (call l r : Prog Λ R A ε σ (A r)).Ends (faultyBut loc h) Q s (b, f) ↔
      Q (h r b).1 s ((h r b).2, f) := by
  rw [ends_call, faultyBut, if_pos hr]

theorem ends_call_not_local {l : Λ} {r : R} {Q : Except ε (A r) → σ → β × List (Option ε) → Prop}
    {s : σ} {x : β × List (Option ε)} (hr : loc r = false) :
    (call l r : Prog Λ R A ε σ (A r)).Ends (faultyBut loc h) Q s x ↔
      (call l r : Prog Λ R A ε σ (A r)).Ends (faulty h) Q s x := by
  rw [ends_call, ends_call, faultyBut, if_neg (by simp [hr])]

/-- Rule for a request that may be lost. -/
theorem ends_call_faulty {l : Λ} {r : R} {Q : Except ε (A r) → σ → β × List (Option ε) → Prop}
    {s : σ} {b : β} {f : List (Option ε)} :
    (call l r : Prog Λ R A ε σ (A r)).Ends (faulty h) Q s (b, f) ↔
      (∀ e, nextFault f = some e → Q (.error e) s (b, f.tail)) ∧
        (nextFault f = none → Q (h r b).1 s ((h r b).2, f.tail)) := by
  rw [ends_call]
  rcases hf : nextFault f with _ | e
  · rw [faulty_of_none hf]
    simp
  · rw [faulty_of_fault hf]
    simp

/-- Without faults, a program runs as on `h`. -/
theorem exec_faulty_nil (p : Prog Λ R A ε σ α) (s : σ) (b : β) :
    p.exec (faulty h) s (b, []) =
      ((p.exec h s b).1, (p.exec h s b).2.1, ((p.exec h s b).2.2, [])) := by
  induction p generalizing s b with
  | ret a => rfl
  | fail e => rfl
  | read k ih => exact ih s s b
  | write g p ih => exact ih (g s) b
  | await l r k ih => exact ih (h r b).1 s (h r b).2

end Prog

/-! ## Reads that fail -/

/-- The backend `h` whose `n`-th read is lost with the error `plan n`, if that is one.  The number
of reads so far comes with the data. -/
def losing (read : R → Bool) (plan : ℕ → Option ε) (h : (r : R) → β → Except ε (A r) × β) (r : R)
    (x : β × ℕ) : Except ε (A r) × (β × ℕ) :=
  if read r then
    match plan x.2 with
    | some e => (.error e, (x.1, x.2 + 1))
    | none => ((h r x.1).1, ((h r x.1).2, x.2 + 1))
  else ((h r x.1).1, ((h r x.1).2, x.2))

section Losing

variable {read : R → Bool} {plan : ℕ → Option ε} {r : R} {b : β} {n : ℕ}

theorem losing_of_fault {e : ε} (hr : read r = true) (he : plan n = some e) :
    losing read plan h r (b, n) = (.error e, (b, n + 1)) := by
  simp only [losing, hr, he, if_true]

theorem losing_of_none (hr : read r = true) (he : plan n = none) :
    losing read plan h r (b, n) = ((h r b).1, ((h r b).2, n + 1)) := by
  simp only [losing, hr, he, if_true]

end Losing

end Lib
