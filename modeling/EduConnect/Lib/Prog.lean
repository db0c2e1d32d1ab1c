import Mathlib.Logic.Basic
import Mathlib.Data.List.Basic

/-!
# Asynchronous programs

`Prog Λ R A ε σ α` is an asynchronous function over a page state `σ`: between two awaits it reads
and writes the page without interruption, and at an await it sends a request `r : R` to a backend
and is suspended until the answer `A r`, or an error, comes back.  Every await carries a label
`l : Λ`, its place in the text with the local variables of interest there.

Two executions without interference are defined here: `exec` follows the errors of the backend,
`clean` is defined only while no request fails.  `EduConnect.Lib.Sched` interleaves programs.
-/

namespace Lib

/-- Asynchronous programs with labels `Λ`, requests `R` answered in `A`, errors `ε`, page `σ`. -/
inductive Prog (Λ R : Type) (A : R → Type) (ε σ α : Type) : Type where
  | ret (a : α)
  | fail (e : ε)
  | read (k : σ → Prog Λ R A ε σ α)
  | write (f : σ → σ) (p : Prog Λ R A ε σ α)
  | await (l : Λ) (r : R) (k : Except ε (A r) → Prog Λ R A ε σ α)

namespace Prog

variable {Λ R : Type} {A : R → Type} {ε σ α γ β : Type}

/-! ## Building programs -/

def bind : Prog Λ R A ε σ α → (α → Prog Λ R A ε σ γ) → Prog Λ R A ε σ γ
  | ret a, f => f a
  | fail e, _ => fail e
  | read k, f => read fun s => (k s).bind f
  | write g p, f => write g (p.bind f)
  | await l r k, f => await l r fun a => (k a).bind f

instance : Monad (Prog Λ R A ε σ) where
  pure := ret
  bind := bind

/-- `try { p } catch (e) { h e }`. -/
def catching : Prog Λ R A ε σ α → (ε → Prog Λ R A ε σ α) → Prog Λ R A ε σ α
  | ret a, _ => ret a
  | fail e, h => h e
  | read k, h => read fun s => (k s).catching h
  | write g p, h => write g (p.catching h)
  | await l r k, h => await l r fun a => (k a).catching h

/-- `try { p } finally { f }` for an `f` that only updates the page. -/
def ensuring : Prog Λ R A ε σ α → (σ → σ) → Prog Λ R A ε σ α
  | ret a, f => write f (ret a)
  | fail e, f => write f (fail e)
  | read k, f => read fun s => (k s).ensuring f
  | write g p, f => write g (p.ensuring f)
  | await l r k, f => await l r fun a => (k a).ensuring f

/-- A result, thrown when it is an error. -/
def ofExcept : Except ε α → Prog Λ R A ε σ α
  | .ok a => ret a
  | .error e => fail e

/-- Wait for the answer to `r`; an error of the backend is thrown here. -/
def call (l : Λ) (r : R) : Prog Λ R A ε σ (A r) := await l r ofExcept

/-- The page as it is now. -/
def page : Prog Λ R A ε σ σ := read ret

/-- `setState(() { f })`. -/
def setState (f : σ → σ) : Prog Λ R A ε σ Unit := write f (ret ())

@[simp] theorem pure_eq (a : α) : (pure a : Prog Λ R A ε σ α) = ret a := rfl

@[simp] theorem bind_eq (p : Prog Λ R A ε σ α) (f : α → Prog Λ R A ε σ γ) : p >>= f = p.bind f :=
  rfl

@[simp] theorem ofExcept_ok (a : α) : (ofExcept (.ok a) : Prog Λ R A ε σ α) = ret a := rfl

@[simp] theorem ofExcept_error (e : ε) : (ofExcept (.error e) : Prog Λ R A ε σ α) = fail e := rfl

@[simp] theorem bind_ret (a : α) (f : α → Prog Λ R A ε σ γ) : (ret a).bind f = f a := rfl

@[simp] theorem bind_fail (e : ε) (f : α → Prog Λ R A ε σ γ) :
    (fail e : Prog Λ R A ε σ α).bind f = fail e := rfl

@[simp] theorem bind_read (k : σ → Prog Λ R A ε σ α) (f : α → Prog Λ R A ε σ γ) :
    (read k).bind f = read fun s => (k s).bind f := rfl

@[simp] theorem bind_write (g : σ → σ) (p : Prog Λ R A ε σ α) (f : α → Prog Λ R A ε σ γ) :
    (write g p).bind f = write g (p.bind f) := rfl

@[simp] theorem bind_await (l : Λ) (r : R) (k : Except ε (A r) → Prog Λ R A ε σ α)
    (f : α → Prog Λ R A ε σ γ) : (await l r k).bind f = await l r fun a => (k a).bind f := rfl

theorem bind_assoc (p : Prog Λ R A ε σ α) (f : α → Prog Λ R A ε σ γ) (g : γ → Prog Λ R A ε σ β) :
    (p.bind f).bind g = p.bind fun a => (f a).bind g := by
  induction p with
  | ret a => rfl
  | fail e => rfl
  | read k ih => simp only [bind_read, ih]
  | write h p ih => simp only [bind_write, ih]
  | await l r k ih => simp only [bind_await, ih]

/-! ## Execution alone -/

section Exec

variable (h : (r : R) → β → Except ε (A r) × β)

/-- Run `p` alone: the backend `h` answers every request at once. -/
def exec : Prog Λ R A ε σ α → σ → β → Except ε α × σ × β
  | ret a, s, b => (.ok a, s, b)
  | fail e, s, b => (.error e, s, b)
  | read k, s, b => (k s).exec s b
  | write f p, s, b => p.exec (f s) b
  | await _ r k, s, b => (k (h r b).1).exec s (h r b).2

/-- Run `p` alone as long as no request fails; errors thrown by `p` itself are followed. -/
def clean : Prog Λ R A ε σ α → σ → β → Option (Except ε α × σ × β)
  | ret a, s, b => some (.ok a, s, b)
  | fail e, s, b => some (.error e, s, b)
  | read k, s, b => (k s).clean s b
  | write f p, s, b => p.clean (f s) b
  | await _ r k, s, b =>
    match h r b with
    | (.ok a, b') => (k (.ok a)).clean s b'
    | (.error _, _) => none

variable {h}

@[simp] theorem exec_ret (a : α) (s : σ) (b : β) :
    (ret a : Prog Λ R A ε σ α).exec h s b = (.ok a, s, b) := rfl

@[simp] theorem exec_fail (e : ε) (s : σ) (b : β) :
    (fail e : Prog Λ R A ε σ α).exec h s b = (.error e, s, b) := rfl

@[simp] theorem exec_read (k : σ → Prog Λ R A ε σ α) (s : σ) (b : β) :
    (read k).exec h s b = (k s).exec h s b := rfl

@[simp] theorem exec_write (f : σ → σ) (p : Prog Λ R A ε σ α) (s : σ) (b : β) :
    (write f p).exec h s b = p.exec h (f s) b := rfl

theorem exec_await (l : Λ) (r : R) (k : Except ε (A r) → Prog Λ R A ε σ α) (s : σ) (b : β) :
    (await l r k).exec h s b = (k (h r b).1).exec h s (h r b).2 := rfl

theorem exec_call (l : Λ) (r : R) (s : σ) (b : β) :
    (call l r : Prog Λ R A ε σ (A r)).exec h s b = ((h r b).1, s, (h r b).2) := by
  show (ofExcept (h r b).1).exec h s (h r b).2 = _
  cases (h r b).1 <;> rfl

/-- Sequencing: an error of `p` skips `f`. -/
theorem exec_bind (p : Prog Λ R A ε σ α) (f : α → Prog Λ R A ε σ γ) (s : σ) (b : β) :
    (p.bind f).exec h s b =
      match p.exec h s b with
      | (.ok a, s', b') => (f a).exec h s' b'
      | (.error e, s', b') => (.error e, s', b') := by
  induction p generalizing s b with
  | ret a => rfl
  | fail e => rfl
  | read k ih => exact ih s s b
  | write g p ih => exact ih (g s) b
  | await l r k ih => exact ih _ s _

theorem exec_ofExcept_bind (x : Except ε α) (f : α → Prog Λ R A ε σ γ) (s : σ) (b : β) :
    ((ofExcept x).bind f).exec h s b =
      match x with
      | .ok a => (f a).exec h s b
      | .error e => (.error e, s, b) := by
  cases x <;> rfl

theorem exec_catching (p : Prog Λ R A ε σ α) (c : ε → Prog Λ R A ε σ α) (s : σ) (b : β) :
    (p.catching c).exec h s b =
      match p.exec h s b with
      | (.ok a, s', b') => (.ok a, s', b')
      | (.error e, s', b') => (c e).exec h s' b' := by
  induction p generalizing s b with
  | ret a => rfl
  | fail e => rfl
  | read k ih => exact ih s s b
  | write g p ih => exact ih (g s) b
  | await l r k ih => exact ih _ s _

theorem exec_ensuring (p : Prog Λ R A ε σ α) (f : σ → σ) (s : σ) (b : β) :
    (p.ensuring f).exec h s b =
      match p.exec h s b with
      | (a, s', b') => (a, f s', b') := by
  induction p generalizing s b with
  | ret a => rfl
  | fail e => rfl
  | read k ih => exact ih s s b
  | write g p ih => exact ih (g s) b
  | await l r k ih => exact ih _ s _

/-- A loop whose turns leave page and backend alone answers what its turns answer. -/
theorem exec_mapM {γ : Type} {turn : γ → Prog Λ R A ε σ α}
    (loop : List γ → Prog Λ R A ε σ (List α)) {g : γ → Except ε α} {s : σ} {b : β} (hnil : loop [] = ret [])
    (hcons : ∀ x l, loop (x :: l) = (turn x).bind fun a => (loop l).bind fun as => ret (a :: as))
    (hturn : ∀ x, (turn x).exec h s b = (g x, s, b)) (l : List γ) :
    (loop l).exec h s b = (l.mapM g, s, b) := by
  induction l with
  | nil =>
    rw [hnil]
    rfl
  | cons x l ih =>
    rw [hcons, exec_bind, hturn, List.mapM_cons]
    rcases g x with e | a
    · rfl
    · dsimp only
      rw [exec_bind, ih]
      rcases l.mapM g with e | as <;> rfl

@[simp] theorem clean_ret (a : α) (s : σ) (b : β) :
    (ret a : Prog Λ R A ε σ α).clean h s b = some (.ok a, s, b) := rfl

@[simp] theorem clean_fail (e : ε) (s : σ) (b : β) :
    (fail e : Prog Λ R A ε σ α).clean h s b = some (.error e, s, b) := rfl

@[simp] theorem clean_read (k : σ → Prog Λ R A ε σ α) (s : σ) (b : β) :
    (read k).clean h s b = (k s).clean h s b := rfl

@[simp] theorem clean_write (f : σ → σ) (p : Prog Λ R A ε σ α) (s : σ) (b : β) :
    (write f p).clean h s b = p.clean h (f s) b := rfl

@[simp] theorem clean_page (s : σ) (b : β) :
    (page : Prog Λ R A ε σ σ).clean h s b = some (.ok s, s, b) := rfl

@[simp] theorem clean_setState (f : σ → σ) (s : σ) (b : β) :
    (setState f : Prog Λ R A ε σ Unit).clean h s b = some (.ok (), f s, b) := rfl

@[simp] theorem clean_ofExcept (x : Except ε α) (s : σ) (b : β) :
    (ofExcept x : Prog Λ R A ε σ α).clean h s b = some (x, s, b) := by
  cases x <;> rfl

/-- Inversion at an await: the request was answered and the rest ran cleanly. -/
theorem clean_await_eq_some {l : Λ} {r : R} {k : Except ε (A r) → Prog Λ R A ε σ α} {s : σ} {b : β}
    {x : Except ε α × σ × β} : (await l r k).clean h s b = some x ↔
      ∃ a b', h r b = (.ok a, b') ∧ (k (.ok a)).clean h s b' = some x := by
  constructor
  · intro hx
    unfold clean at hx
    split at hx
    · rename_i a b' hr
      exact ⟨a, b', hr, hx⟩
    · exact absurd hx (by simp)
  · rintro ⟨a, b', hr, hk⟩
    simp only [clean, hr, hk]

theorem clean_call (l : Λ) (r : R) (s : σ) (b : β) :
    (call l r : Prog Λ R A ε σ (A r)).clean h s b =
      match h r b with
      | (.ok a, b') => some (.ok a, s, b')
      | (.error _, _) => none := by
  unfold call clean
  split <;> rename_i hr <;> simp

/-- Sequencing, as long as no request fails. -/
theorem clean_bind (p : Prog Λ R A ε σ α) (f : α → Prog Λ R A ε σ γ) (s : σ) (b : β) :
    (p.bind f).clean h s b = (p.clean h s b).bind fun
      | (.ok a, s', b') => (f a).clean h s' b'
      | (.error e, s', b') => some (.error e, s', b') := by
  induction p generalizing s b with
  | ret a => rfl
  | fail e => rfl
  | read k ih => exact ih s s b
  | write g p ih => exact ih (g s) b
  | await l r k ih =>
    simp only [bind_await, clean]
    split
    · exact ih _ s _
    · rfl

theorem clean_catching (p : Prog Λ R A ε σ α) (c : ε → Prog Λ R A ε σ α) (s : σ) (b : β) :
    (p.catching c).clean h s b = (p.clean h s b).bind fun
      | (.ok a, s', b') => some (.ok a, s', b')
      | (.error e, s', b') => (c e).clean h s' b' := by
  induction p generalizing s b with
  | ret a => rfl
  | fail e => rfl
  | read k ih => exact ih s s b
  | write g p ih => exact ih (g s) b
  | await l r k ih =>
    simp only [catching, clean]
    split
    · exact ih _ s _
    · rfl

theorem clean_ensuring (p : Prog Λ R A ε σ α) (f : σ → σ) (s : σ) (b : β) :
    (p.ensuring f).clean h s b = (p.clean h s b).map fun x => (x.1, f x.2.1, x.2.2) := by
  induction p generalizing s b with
  | ret a => rfl
  | fail e => rfl
  | read k ih => exact ih s s b
  | write g p ih => exact ih (g s) b
  | await l r k ih =>
    simp only [ensuring, clean]
    split
    · exact ih _ s _
    · rfl

/-! ### Postconditions of clean runs -/

/-- Whenever `p` runs cleanly from `s` and `b`, it ends in `Q`. -/
def Post (h : (r : R) → β → Except ε (A r) × β) (Q : Except ε α → σ → β → Prop)
    (p : Prog Λ R A ε σ α) (s : σ) (b : β) : Prop :=
  ∀ a s' b', p.clean h s b = some (a, s', b') → Q a s' b'

section Post

variable {Q : Except ε α → σ → β → Prop} {s : σ} {b : β}

@[simp] theorem post_ret (a : α) : (ret a : Prog Λ R A ε σ α).Post h Q s b ↔ Q (.ok a) s b := by
  simp [Post]

@[simp] theorem post_fail (e : ε) : (fail e : Prog Λ R A ε σ α).Post h Q s b ↔ Q (.error e) s b := by
  simp [Post]

@[simp] theorem post_page {Q : Except ε σ → σ → β → Prop} :
    (page : Prog Λ R A ε σ σ).Post h Q s b ↔ Q (.ok s) s b := by
  simp [Post]

@[simp] theorem post_setState {Q : Except ε Unit → σ → β → Prop} (f : σ → σ) :
    (setState f : Prog Λ R A ε σ Unit).Post h Q s b ↔ Q (.ok ()) (f s) b := by
  simp [Post]

theorem post_call_of_ok {l : Λ} {r : R} {a : A r} {b' : β} {Q : Except ε (A r) → σ → β → Prop}
    (hr : h r b = (.ok a, b')) :
    (call l r : Prog Λ R A ε σ (A r)).Post h Q s b ↔ Q (.ok a) s b' := by
  simp [Post, clean_call, hr]

theorem post_call_of_error {l : Λ} {r : R} {e : ε} {b' : β} {Q : Except ε (A r) → σ → β → Prop}
    (hr : h r b = (.error e, b')) : (call l r : Prog Λ R A ε σ (A r)).Post h Q s b := by
  simp [Post, clean_call, hr]

@[simp] theorem post_ofExcept (x : Except ε α) :
    (ofExcept x : Prog Λ R A ε σ α).Post h Q s b ↔ Q x s b := by
  simp [Post]

@[simp] theorem post_bind {Q : Except ε γ → σ → β → Prop} {p : Prog Λ R A ε σ α}
    {f : α → Prog Λ R A ε σ γ} : (p.bind f).Post h Q s b ↔
      p.Post h (fun a s b => match a with
        | .ok a => (f a).Post h Q s b
        | .error e => Q (.error e) s b) s b := by
  constructor
  · rintro hp (e | a) s' b' hx
    · exact hp _ _ _ (by rw [clean_bind, hx]; rfl)
    · exact fun a' s'' b'' hx' => hp _ _ _ (by rw [clean_bind, hx]; exact hx')
  · intro hp a' s'' b'' hx
    rw [clean_bind, Option.bind_eq_some_iff] at hx
    obtain ⟨⟨e | a, s', b'⟩, hx, hx'⟩ := hx
    · cases hx'
      exact hp _ _ _ hx
    · exact hp _ _ _ hx _ _ _ hx'

@[simp] theorem post_catching {p : Prog Λ R A ε σ α} {c : ε → Prog Λ R A ε σ α} :
    (p.catching c).Post h Q s b ↔
      p.Post h (fun a s b => match a with
        | .ok a => Q (.ok a) s b
        | .error e => (c e).Post h Q s b) s b := by
  constructor
  · rintro hp (e | a) s' b' hx
    · exact fun a' s'' b'' hx' => hp _ _ _ (by rw [clean_catching, hx]; exact hx')
    · exact hp _ _ _ (by rw [clean_catching, hx]; rfl)
  · intro hp a' s'' b'' hx
    rw [clean_catching, Option.bind_eq_some_iff] at hx
    obtain ⟨⟨e | a, s', b'⟩, hx, hx'⟩ := hx
    · exact hp _ _ _ hx _ _ _ hx'
    · cases hx'
      exact hp _ _ _ hx

@[simp] theorem post_ensuring {p : Prog Λ R A ε σ α} {f : σ → σ} :
    (p.ensuring f).Post h Q s b ↔ p.Post h (fun a s b => Q a (f s) b) s b := by
  constructor
  · intro hp a s' b' hx
    exact hp a (f s') b' (by rw [clean_ensuring, hx]; rfl)
  · intro hp a s' b' hx
    rw [clean_ensuring, Option.map_eq_some_iff] at hx
    obtain ⟨x, hx, hx'⟩ := hx
    cases hx'
    exact hp _ _ _ hx

/-- A stronger postcondition. -/
theorem Post.mono {Q' : Except ε α → σ → β → Prop} {p : Prog Λ R A ε σ α}
    (hp : p.Post h Q s b) (hQ : ∀ a s b, Q a s b → Q' a s b) : p.Post h Q' s b :=
  fun a s' b' hx => hQ _ _ _ (hp a s' b' hx)

end Post

/-- A clean run is the run of `exec`. -/
theorem exec_of_clean {p : Prog Λ R A ε σ α} {s : σ} {b : β} {x : Except ε α × σ × β}
    (hp : p.clean h s b = some x) : p.exec h s b = x := by
  induction p generalizing s b with
  | ret a => simpa using hp
  | fail e => simpa using hp
  | read k ih => exact ih s hp
  | write g p ih => exact ih hp
  | await l r k ih =>
    obtain ⟨a', b₁, hr, hk⟩ := clean_await_eq_some.mp hp
    rw [exec_await, hr]
    exact ih _ hk

/-! ### Postconditions of executions -/

/-- The execution of `p` from `s` and `b` ends in `Q`. -/
def Ends (h : (r : R) → β → Except ε (A r) × β) (Q : Except ε α → σ → β → Prop)
    (p : Prog Λ R A ε σ α) (s : σ) (b : β) : Prop :=
  Q (p.exec h s b).1 (p.exec h s b).2.1 (p.exec h s b).2.2

section Ends

variable {Q : Except ε α → σ → β → Prop} {s : σ} {b : β}

@[simp] theorem ends_ret (a : α) : (ret a : Prog Λ R A ε σ α).Ends h Q s b ↔ Q (.ok a) s b := Iff.rfl

@[simp] theorem ends_fail (e : ε) : (fail e : Prog Λ R A ε σ α).Ends h Q s b ↔ Q (.error e) s b :=
  Iff.rfl

@[simp] theorem ends_page {Q : Except ε σ → σ → β → Prop} :
    (page : Prog Λ R A ε σ σ).Ends h Q s b ↔ Q (.ok s) s b := Iff.rfl

@[simp] theorem ends_setState {Q : Except ε Unit → σ → β → Prop} (f : σ → σ) :
    (setState f : Prog Λ R A ε σ Unit).Ends h Q s b ↔ Q (.ok ()) (f s) b := Iff.rfl

@[simp] theorem ends_ofExcept (x : Except ε α) :
    (ofExcept x : Prog Λ R A ε σ α).Ends h Q s b ↔ Q x s b := by
  cases x <;> rfl

/-- Going on with a value that was computed, or with its error. -/
theorem ends_ofExcept_bind {Q : Except ε γ → σ → β → Prop} {x : Except ε α}
    {f : α → Prog Λ R A ε σ γ} (hok : ∀ a, x = .ok a → (f a).Ends h Q s b)
    (herror : ∀ e, x = .error e → Q (.error e) s b) : ((ofExcept x).bind f).Ends h Q s b := by
  cases x with
  | error e => exact herror e rfl
  | ok a => exact hok a rfl

theorem ends_call {l : Λ} {r : R} {Q : Except ε (A r) → σ → β → Prop} :
    (call l r : Prog Λ R A ε σ (A r)).Ends h Q s b ↔ Q (h r b).1 s (h r b).2 := by
  unfold Ends call
  rw [exec_await]
  exact ends_ofExcept (h := h) (Q := Q) (h r b).1

@[simp] theorem ends_bind {Q : Except ε γ → σ → β → Prop} {p : Prog Λ R A ε σ α}
    {f : α → Prog Λ R A ε σ γ} : (p.bind f).Ends h Q s b ↔
      p.Ends h (fun a s b => match a with
        | .ok a => (f a).Ends h Q s b
        | .error e => Q (.error e) s b) s b := by
  unfold Ends
  rw [exec_bind]
  rcases p.exec h s b with ⟨e | a, s', b'⟩ <;> rfl

/-- Going on with what a program is known to return. -/
theorem ends_bind_of_exec {Q : Except ε γ → σ → β → Prop} {p : Prog Λ R A ε σ α}
    {f : α → Prog Λ R A ε σ γ} {a : α} {s' : σ} {b' : β} (hp : p.exec h s b = (.ok a, s', b')) :
    (p.bind f).Ends h Q s b ↔ (f a).Ends h Q s' b' := by
  unfold Ends
  rw [exec_bind, hp]

theorem ends_bind_of_exec_error {Q : Except ε γ → σ → β → Prop} {p : Prog Λ R A ε σ α}
    {f : α → Prog Λ R A ε σ γ} {e : ε} {s' : σ} {b' : β} (hp : p.exec h s b = (.error e, s', b')) :
    (p.bind f).Ends h Q s b ↔ Q (.error e) s' b' := by
  unfold Ends
  rw [exec_bind, hp]

theorem ends_page_bind {f : σ → Prog Λ R A ε σ α} :
    (page.bind f).Ends h Q s b ↔ (f s).Ends h Q s b := Iff.rfl

theorem ends_setState_bind {g : σ → σ} {f : Unit → Prog Λ R A ε σ α} :
    ((setState g).bind f).Ends h Q s b ↔ (f ()).Ends h Q (g s) b := Iff.rfl

@[simp] theorem ends_catching {p : Prog Λ R A ε σ α} {c : ε → Prog Λ R A ε σ α} :
    (p.catching c).Ends h Q s b ↔
      p.Ends h (fun a s b => match a with
        | .ok a => Q (.ok a) s b
        | .error e => (c e).Ends h Q s b) s b := by
  unfold Ends
  rw [exec_catching]
  rcases p.exec h s b with ⟨e | a, s', b'⟩ <;> rfl

@[simp] theorem ends_ensuring {p : Prog Λ R A ε σ α} {g : σ → σ} :
    (p.ensuring g).Ends h Q s b ↔ p.Ends h (fun a s b => Q a (g s) b) s b := by
  unfold Ends
  rw [exec_ensuring]

/-- What holds of the data whatever the outcome is not changed by throwing errors again. -/
theorem ends_rethrow {P : β → Prop} {p : Prog Λ R A ε σ α} {g : ε → ε} :
    (p.catching fun e => fail (g e)).Ends h (fun _ _ b => P b) s b ↔
      p.Ends h (fun _ _ b => P b) s b := by
  rw [ends_catching]
  unfold Ends
  rcases p.exec h s b with ⟨e | a, s', b'⟩ <;> rfl

/-- A stronger postcondition. -/
theorem Ends.mono {Q' : Except ε α → σ → β → Prop} {p : Prog Λ R A ε σ α}
    (hp : p.Ends h Q s b) (hQ : ∀ a s b, Q a s b → Q' a s b) : p.Ends h Q' s b :=
  hQ _ _ _ hp

end Ends

end Exec

/-! ## The page updates of a program -/

/-- Every page update of the program keeps `J`, whatever the answers and the page. -/
def Keeps (J : σ → Prop) : Prog Λ R A ε σ α → Prop
  | ret _ => True
  | fail _ => True
  | read k => ∀ s, (k s).Keeps J
  | write f p => (∀ s, J s → J (f s)) ∧ p.Keeps J
  | await _ _ k => ∀ a, (k a).Keeps J

section Keeps

variable {J : σ → Prop}

@[simp] theorem keeps_ret (a : α) : (ret a : Prog Λ R A ε σ α).Keeps J := trivial

@[simp] theorem keeps_fail (e : ε) : (fail e : Prog Λ R A ε σ α).Keeps J := trivial

@[simp] theorem keeps_page : (page : Prog Λ R A ε σ σ).Keeps J := fun _ => trivial

@[simp] theorem keeps_setState (f : σ → σ) :
    (setState f : Prog Λ R A ε σ Unit).Keeps J ↔ ∀ s, J s → J (f s) := and_iff_left trivial

@[simp] theorem keeps_ofExcept (a : Except ε α) : (ofExcept a : Prog Λ R A ε σ α).Keeps J := by
  cases a <;> trivial

@[simp] theorem keeps_call (l : Λ) (r : R) : (call l r : Prog Λ R A ε σ (A r)).Keeps J :=
  fun a => keeps_ofExcept a

theorem keeps_page_bind {f : σ → Prog Λ R A ε σ α} :
    (page.bind f).Keeps J ↔ ∀ s, (f s).Keeps J := Iff.rfl

theorem Keeps.bind {p : Prog Λ R A ε σ α} {f : α → Prog Λ R A ε σ γ} (hp : p.Keeps J)
    (hf : ∀ a, (f a).Keeps J) : (p.bind f).Keeps J := by
  induction p with
  | ret a => exact hf a
  | fail e => trivial
  | read k ih => exact fun s => ih s (hp s)
  | write g p ih => exact ⟨hp.1, ih hp.2⟩
  | await l r k ih => exact fun a => ih a (hp a)

theorem Keeps.catching {p : Prog Λ R A ε σ α} {c : ε → Prog Λ R A ε σ α} (hp : p.Keeps J)
    (hc : ∀ e, (c e).Keeps J) : (p.catching c).Keeps J := by
  induction p with
  | ret a => trivial
  | fail e => exact hc e
  | read k ih => exact fun s => ih s (hp s)
  | write g p ih => exact ⟨hp.1, ih hp.2⟩
  | await l r k ih => exact fun a => ih a (hp a)

theorem Keeps.ensuring {p : Prog Λ R A ε σ α} (hp : p.Keeps J) {f : σ → σ}
    (hf : ∀ s, J s → J (f s)) : (p.ensuring f).Keeps J := by
  induction p with
  | ret a => exact ⟨hf, trivial⟩
  | fail e => exact ⟨hf, trivial⟩
  | read k ih => exact fun s => ih s (hp s)
  | write g p ih => exact ⟨hp.1, ih hp.2⟩
  | await l r k ih => exact fun a => ih a (hp a)

theorem Keeps.ite {c : Prop} [Decidable c] {p q : Prog Λ R A ε σ α} (hp : p.Keeps J)
    (hq : q.Keeps J) : (if c then p else q).Keeps J := by
  by_cases hc : c
  · rwa [if_pos hc]
  · rwa [if_neg hc]

/-- What only depends on a part of the state that the program leaves alone. -/
theorem Keeps.of_view {V : Type} {f : σ → V} {p : Prog Λ R A ε σ α}
    (hp : ∀ v, p.Keeps fun s => f s = v) (P : V → Prop) : p.Keeps fun s => P (f s) := by
  induction p with
  | ret a => trivial
  | fail e => trivial
  | read k ih => exact fun s => ih s fun v => hp v s
  | write g p ih =>
    refine ⟨fun s hs => ?_, ih fun v => (hp v).2⟩
    have hview : f (g s) = f s := (hp (f s)).1 s rfl
    show P (f (g s))
    rw [hview]
    exact hs
  | await l r k ih => exact fun a => ih a fun v => hp v a

/-- Invariance: a property of the page kept by every update is kept by a whole execution. -/
theorem Keeps.ends {h : (r : R) → β → Except ε (A r) × β} {p : Prog Λ R A ε σ α} (hp : p.Keeps J)
    {s : σ} {b : β} (hs : J s) : p.Ends h (fun _ s _ => J s) s b := by
  induction p generalizing s b with
  | ret a => exact hs
  | fail e => exact hs
  | read k ih => exact ih s (hp s) hs
  | write g p ih => exact ih hp.2 (hp.1 s hs)
  | await l r k ih => exact ih _ (hp _) hs

/-- The rest of a program keeps what its beginning ends in. -/
theorem Ends.bind_keeps {h : (r : R) → β → Except ε (A r) × β} {p : Prog Λ R A ε σ α}
    {f : α → Prog Λ R A ε σ γ} {s : σ} {b : β} (hp : p.Ends h (fun _ s _ => J s) s b)
    (hf : ∀ a, (f a).Keeps J) : (p.bind f).Ends h (fun _ s _ => J s) s b := by
  refine ends_bind.mpr (hp.mono fun a s b hs => ?_)
  cases a with
  | error e => exact hs
  | ok a => exact (hf a).ends hs

/-- A `catch` keeps what the `try` ends in. -/
theorem Ends.catching_keeps {h : (r : R) → β → Except ε (A r) × β} {p : Prog Λ R A ε σ α}
    {c : ε → Prog Λ R A ε σ α} {s : σ} {b : β} (hp : p.Ends h (fun _ s _ => J s) s b)
    (hc : ∀ e, (c e).Keeps J) : (p.catching c).Ends h (fun _ s _ => J s) s b := by
  refine ends_catching.mpr (hp.mono fun a s b hs => ?_)
  cases a with
  | error e => exact (hc e).ends hs
  | ok a => exact hs

end Keeps

/-! ## The requests of a program -/

/-- Every request of the program, whatever the answers and the page, is issued under `G`. -/
def Issues (G : Λ → R → Prop) : Prog Λ R A ε σ α → Prop
  | ret _ => True
  | fail _ => True
  | read k => ∀ s, (k s).Issues G
  | write _ p => p.Issues G
  | await l r k => G l r ∧ ∀ a, (k a).Issues G

variable {G : Λ → R → Prop}

@[simp] theorem issues_ret (a : α) : (ret a : Prog Λ R A ε σ α).Issues G := trivial

@[simp] theorem issues_fail (e : ε) : (fail e : Prog Λ R A ε σ α).Issues G := trivial

@[simp] theorem issues_read (k : σ → Prog Λ R A ε σ α) :
    (read k).Issues G ↔ ∀ s, (k s).Issues G := Iff.rfl

@[simp] theorem issues_write (f : σ → σ) (p : Prog Λ R A ε σ α) :
    (write f p).Issues G ↔ p.Issues G := Iff.rfl

@[simp] theorem issues_ofExcept (a : Except ε α) :
    (ofExcept a : Prog Λ R A ε σ α).Issues G := by
  cases a <;> trivial

@[simp] theorem issues_call (l : Λ) (r : R) :
    (call l r : Prog Λ R A ε σ (A r)).Issues G ↔ G l r := by
  simp [call, Issues]

theorem Issues.bind {p : Prog Λ R A ε σ α} {f : α → Prog Λ R A ε σ γ} (hp : p.Issues G)
    (hf : ∀ a, (f a).Issues G) : (p.bind f).Issues G := by
  induction p with
  | ret a => exact hf a
  | fail e => trivial
  | read k ih => exact fun s => ih s (hp s)
  | write g p ih => exact ih hp
  | await l r k ih => exact ⟨hp.1, fun a => ih a (hp.2 a)⟩

/-- A fallible computation followed by what uses its result. -/
theorem Issues.ofExcept_bind {x : Except ε α} {f : α → Prog Λ R A ε σ γ}
    (h : ∀ a, x = .ok a → (f a).Issues G) : ((ofExcept x).bind f).Issues G := by
  cases x with
  | error e => trivial
  | ok a => exact h a rfl

theorem Issues.catching {p : Prog Λ R A ε σ α} {c : ε → Prog Λ R A ε σ α} (hp : p.Issues G)
    (hc : ∀ e, (c e).Issues G) : (p.catching c).Issues G := by
  induction p with
  | ret a => trivial
  | fail e => exact hc e
  | read k ih => exact fun s => ih s (hp s)
  | write g p ih => exact ih hp
  | await l r k ih => exact ⟨hp.1, fun a => ih a (hp.2 a)⟩

theorem Issues.ensuring {p : Prog Λ R A ε σ α} (hp : p.Issues G) (f : σ → σ) :
    (p.ensuring f).Issues G := by
  induction p with
  | ret a => trivial
  | fail e => trivial
  | read k ih => exact fun s => ih s (hp s)
  | write g p ih => exact ih hp
  | await l r k ih => exact ⟨hp.1, fun a => ih a (hp.2 a)⟩

theorem Issues.ite {c : Prop} [Decidable c] {p q : Prog Λ R A ε σ α} (hp : p.Issues G)
    (hq : q.Issues G) : (if c then p else q).Issues G := by
  by_cases hc : c
  · rwa [if_pos hc]
  · rwa [if_neg hc]

theorem Issues.mono {G' : Λ → R → Prop} (hG : ∀ l r, G l r → G' l r) {p : Prog Λ R A ε σ α}
    (hp : p.Issues G) : p.Issues G' := by
  induction p with
  | ret a => trivial
  | fail e => trivial
  | read k ih => exact fun s => ih s (hp s)
  | write g p ih => exact ih hp
  | await l r k ih => exact ⟨hG l r hp.1, fun a => ih a (hp.2 a)⟩

/-- Invariance: a property of the data kept by every request issued under `G` is kept by a whole
execution. -/
theorem Issues.exec {h : (r : R) → β → Except ε (A r) × β} {P : β → Prop}
    (hP : ∀ l r b, G l r → P b → P (h r b).2) {p : Prog Λ R A ε σ α} (hp : p.Issues G) {s : σ}
    {b : β} (hb : P b) : P (p.exec h s b).2.2 := by
  induction p generalizing s b with
  | ret a => exact hb
  | fail e => exact hb
  | read k ih => exact ih s (hp s) hb
  | write g p ih => exact ih hp hb
  | await l r k ih => exact ih _ (hp.2 _) (hP l r b hp.1 hb)

/-- On pages with the property `J`, which the program keeps, its requests are issued under `G`. -/
def IssuesOn (J : σ → Prop) (G : Λ → R → Prop) : Prog Λ R A ε σ α → Prop
  | ret _ => True
  | fail _ => True
  | read k => ∀ s, J s → (k s).IssuesOn J G
  | write f p => (∀ s, J s → J (f s)) ∧ p.IssuesOn J G
  | await l r k => G l r ∧ ∀ a, (k a).IssuesOn J G

section IssuesOn

variable {J : σ → Prop} {p : Prog Λ R A ε σ α}

theorem Issues.on (hp : p.Issues G) (hJ : p.Keeps J) : p.IssuesOn J G := by
  induction p with
  | ret a => trivial
  | fail e => trivial
  | read k ih => exact fun s _ => ih s (hp s) (hJ s)
  | write f p ih => exact ⟨hJ.1, ih hp hJ.2⟩
  | await l r k ih => exact ⟨hp.1, fun a => ih a (hp.2 a) (hJ a)⟩

theorem issuesOn_page_bind {f : σ → Prog Λ R A ε σ α} :
    (page.bind f).IssuesOn J G ↔ ∀ s, J s → (f s).IssuesOn J G := Iff.rfl

theorem IssuesOn.bind {f : α → Prog Λ R A ε σ γ} (hp : p.IssuesOn J G)
    (hf : ∀ a, (f a).IssuesOn J G) : (p.bind f).IssuesOn J G := by
  induction p with
  | ret a => exact hf a
  | fail e => trivial
  | read k ih => exact fun s hs => ih s (hp s hs)
  | write g p ih => exact ⟨hp.1, ih hp.2⟩
  | await l r k ih => exact ⟨hp.1, fun a => ih a (hp.2 a)⟩

/-- Such a program keeps what its requests keep, and `J`. -/
theorem IssuesOn.ends {h : (r : R) → β → Except ε (A r) × β} {P : β → Prop}
    (hP : ∀ l r b, G l r → P b → P (h r b).2) (hp : p.IssuesOn J G) {s : σ} {b : β} (hs : J s)
    (hb : P b) : p.Ends h (fun _ s b => J s ∧ P b) s b := by
  induction p generalizing s b with
  | ret a => exact ⟨hs, hb⟩
  | fail e => exact ⟨hs, hb⟩
  | read k ih => exact ih s (hp s hs) hs hb
  | write g p ih => exact ih hp.2 (hp.1 s hs) hb
  | await l r k ih => exact ih _ (hp.2 _) hs (hP l r b hp.1 hb)

end IssuesOn

/-- Every execution keeps the property `P` of the data. -/
def Preserves (h : (r : R) → β → Except ε (A r) × β) (P : β → Prop) (p : Prog Λ R A ε σ α) : Prop :=
  ∀ s b, P b → p.Ends h (fun _ _ b' => P b') s b

section Preserves

variable {h : (r : R) → β → Except ε (A r) × β} {P : β → Prop} {p : Prog Λ R A ε σ α}

theorem Issues.preserves (hP : ∀ l r b, G l r → P b → P (h r b).2) (hp : p.Issues G) :
    p.Preserves h P := fun _ _ hb => hp.exec hP hb

theorem Preserves.bind {f : α → Prog Λ R A ε σ γ} (hp : p.Preserves h P)
    (hf : ∀ a, (f a).Preserves h P) : (p.bind f).Preserves h P := by
  intro s b hb
  refine ends_bind.mpr ((hp s b hb).mono fun a s' b' hb' => ?_)
  cases a with
  | error e => exact hb'
  | ok a => exact hf a s' b' hb'

theorem Preserves.catching {c : ε → Prog Λ R A ε σ α} (hp : p.Preserves h P)
    (hc : ∀ e, (c e).Preserves h P) : (p.catching c).Preserves h P := by
  intro s b hb
  refine ends_catching.mpr ((hp s b hb).mono fun a s' b' hb' => ?_)
  cases a with
  | error e => exact hc e s' b' hb'
  | ok a => exact hb'

theorem Preserves.ensuring (hp : p.Preserves h P) (g : σ → σ) : (p.ensuring g).Preserves h P :=
  fun s b hb => ends_ensuring.mpr (hp s b hb)

end Preserves

/-- A program whose requests all keep `P` ends, if it runs cleanly, in `P`. -/
theorem Issues.post {h : (r : R) → β → Except ε (A r) × β} {P : β → Prop}
    (hP : ∀ l r b, G l r → P b → P (h r b).2) {p : Prog Λ R A ε σ α} (hp : p.Issues G) {s : σ}
    {b : β} (hb : P b) : p.Post h (fun _ _ b => P b) s b := by
  intro a s' b' hx
  have hexec := hp.exec (h := h) (s := s) hP hb
  rw [exec_of_clean hx] at hexec
  exact hexec

/-! ## Programs of a part of the page -/

/-- Run `p` on the part of a larger page that `get` reads and `put` replaces. -/
def zoom {τ : Type} (get : τ → σ) (put : σ → τ → τ) : Prog Λ R A ε σ α → Prog Λ R A ε τ α
  | ret a => ret a
  | fail e => fail e
  | read k => read fun t => (k (get t)).zoom get put
  | write f p => write (fun t => put (f (get t)) t) (p.zoom get put)
  | await l r k => await l r fun a => (k a).zoom get put

theorem Issues.zoom {τ : Type} {get : τ → σ} {put : σ → τ → τ} {p : Prog Λ R A ε σ α}
    (hp : p.Issues G) : (p.zoom get put).Issues G := by
  induction p with
  | ret a => trivial
  | fail e => trivial
  | read k ih => exact fun t => ih _ (hp _)
  | write g p ih => exact ih hp
  | await l r k ih => exact ⟨hp.1, fun a => ih a (hp.2 a)⟩

section Zoom

variable {τ : Type} {get : τ → σ} {put : σ → τ → τ}

theorem zoom_bind (p : Prog Λ R A ε σ α) (f : α → Prog Λ R A ε σ γ) :
    (p.bind f).zoom get put = (p.zoom get put).bind fun a => (f a).zoom get put := by
  induction p with
  | ret a => rfl
  | fail e => rfl
  | read k ih => exact congrArg read (funext fun t => ih (get t))
  | write g p ih => exact congrArg (write _) ih
  | await l r k ih => exact congrArg (await l r) (funext fun a => ih a)

theorem zoom_catching (p : Prog Λ R A ε σ α) (c : ε → Prog Λ R A ε σ α) :
    (p.catching c).zoom get put = (p.zoom get put).catching fun e => (c e).zoom get put := by
  induction p with
  | ret a => rfl
  | fail e => rfl
  | read k ih => exact congrArg read (funext fun t => ih (get t))
  | write g p ih => exact congrArg (write _) ih
  | await l r k ih => exact congrArg (await l r) (funext fun a => ih a)

theorem zoom_ensuring (p : Prog Λ R A ε σ α) (f : σ → σ) :
    (p.ensuring f).zoom get put = (p.zoom get put).ensuring fun t => put (f (get t)) t := by
  induction p with
  | ret a => rfl
  | fail e => rfl
  | read k ih => exact congrArg read (funext fun t => ih (get t))
  | write g p ih => exact congrArg (write _) ih
  | await l r k ih => exact congrArg (await l r) (funext fun a => ih a)

end Zoom

/-- The part runs as it does alone, and the rest of the page stays. -/
theorem exec_zoom {τ : Type} (get : τ → σ) (put : σ → τ → τ) (hput : ∀ t, put (get t) t = t)
    (hget : ∀ x t, get (put x t) = x) (hputput : ∀ x y t, put x (put y t) = put x t)
    {h : (r : R) → β → Except ε (A r) × β} (p : Prog Λ R A ε σ α) (t : τ) (b : β) :
    (p.zoom get put).exec h t b =
      ((p.exec h (get t) b).1, put (p.exec h (get t) b).2.1 t, (p.exec h (get t) b).2.2) := by
  induction p generalizing t b with
  | ret a => exact congrArg (fun u => (Except.ok a, u, b)) (hput t).symm
  | fail e => exact congrArg (fun u => (Except.error e, u, b)) (hput t).symm
  | read k ih => exact ih (get t) t b
  | write g p ih =>
    have hrest := ih (put (g (get t)) t) b
    rw [hget] at hrest
    simp only [hputput] at hrest
    exact hrest
  | await l r k ih => exact ih _ t _

/-- What the part keeps, seen on the larger page. -/
theorem Keeps.zoom {τ : Type} {get : τ → σ} {put : σ → τ → τ} {J : σ → Prop} {K : τ → Prop}
    {p : Prog Λ R A ε σ α} (hp : p.Keeps J) (hJ : ∀ t, K t → J (get t))
    (hK : ∀ t x, K t → J x → K (put x t)) : (p.zoom get put).Keeps K := by
  induction p with
  | ret a => trivial
  | fail e => trivial
  | read k ih => exact fun t => ih _ (hp _)
  | write g p ih => exact ⟨fun t ht => hK t _ ht (hp.1 _ (hJ t ht)), ih hp.2⟩
  | await l r k ih => exact fun a => ih a (hp a)

end Prog

end Lib
