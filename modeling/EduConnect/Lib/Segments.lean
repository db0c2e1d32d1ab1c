import EduConnect.Lib.Sched

/-!
# Segments

Between two awaits a program runs without interruption.  `Prog.Segs Q Post` says that each segment
which ends at an await moves the page along `Q`, whatever page the segment started on, and that the
last one ends in `Post`.
-/

namespace Lib

variable {ι Λ R : Type} {A : R → Type} {ε σ β Ev α γ : Type}

namespace Prog

/-- Started on the page `s₀`, the segment has come to the page `s`. -/
def Segs (Q : σ → σ → Prop) (Post : Except ε α → σ → σ → Prop) :
    Prog Λ R A ε σ α → σ → σ → Prop
  | ret a, s₀, s => Post (.ok a) s₀ s
  | fail e, s₀, s => Post (.error e) s₀ s
  | read k, s₀, s => (k s).Segs Q Post s₀ s
  | write f p, s₀, s => p.Segs Q Post s₀ (f s)
  | await _ _ k, s₀, s => Q s₀ s ∧ ∀ a s', (k a).Segs Q Post s' s'

section Rules

variable {Q : σ → σ → Prop} {s₀ s : σ}

theorem Segs.mono {Post Post' : Except ε α → σ → σ → Prop} {p : Prog Λ R A ε σ α}
    (hp : p.Segs Q Post s₀ s) (h : ∀ a s₀ s, Post a s₀ s → Post' a s₀ s) :
    p.Segs Q Post' s₀ s := by
  induction p generalizing s₀ s with
  | ret a => exact h _ _ _ hp
  | fail e => exact h _ _ _ hp
  | read k ih => exact ih s hp
  | write f p ih => exact ih hp
  | await l r k ih => exact ⟨hp.1, fun a s' => ih a (hp.2 a s')⟩

theorem segs_bind {Post : Except ε γ → σ → σ → Prop} {p : Prog Λ R A ε σ α}
    {f : α → Prog Λ R A ε σ γ} : (p.bind f).Segs Q Post s₀ s ↔
      p.Segs Q (fun a s₀ s => match a with
        | .ok a => (f a).Segs Q Post s₀ s
        | .error e => Post (.error e) s₀ s) s₀ s := by
  induction p generalizing s₀ s with
  | ret a => exact Iff.rfl
  | fail e => exact Iff.rfl
  | read k ih => exact ih s
  | write g p ih => exact ih
  | await l r k ih => exact and_congr_right' (forall_congr' fun a => forall_congr' fun s' => ih a)

theorem segs_catching {Post : Except ε α → σ → σ → Prop} {p : Prog Λ R A ε σ α}
    {c : ε → Prog Λ R A ε σ α} : (p.catching c).Segs Q Post s₀ s ↔
      p.Segs Q (fun a s₀ s => match a with
        | .ok a => Post (.ok a) s₀ s
        | .error e => (c e).Segs Q Post s₀ s) s₀ s := by
  induction p generalizing s₀ s with
  | ret a => exact Iff.rfl
  | fail e => exact Iff.rfl
  | read k ih => exact ih s
  | write g p ih => exact ih
  | await l r k ih => exact and_congr_right' (forall_congr' fun a => forall_congr' fun s' => ih a)

theorem segs_page_bind {Post : Except ε γ → σ → σ → Prop} {f : σ → Prog Λ R A ε σ γ} :
    (page.bind f).Segs Q Post s₀ s ↔ (f s).Segs Q Post s₀ s := Iff.rfl

theorem segs_setState_bind {Post : Except ε γ → σ → σ → Prop} {g : σ → σ}
    {f : Unit → Prog Λ R A ε σ γ} :
    ((setState g).bind f).Segs Q Post s₀ s ↔ (f ()).Segs Q Post s₀ (g s) := Iff.rfl

theorem Segs.ofExcept_bind {Post : Except ε γ → σ → σ → Prop} {x : Except ε α}
    {f : α → Prog Λ R A ε σ γ} (hok : ∀ a, x = .ok a → (f a).Segs Q Post s₀ s)
    (herr : ∀ e, x = .error e → Post (.error e) s₀ s) :
    ((ofExcept x).bind f).Segs Q Post s₀ s := by
  cases x with
  | error e => exact herr e rfl
  | ok a => exact hok a rfl

/-- A program that leaves alone the part `f` of the page. -/
theorem Keeps.segs {V : Type} {f : σ → V} {Post : Except ε α → σ → σ → Prop}
    {p : Prog Λ R A ε σ α} (hp : ∀ v, p.Keeps fun s => f s = v)
    (hPost : ∀ a s₀ s, f s = f s₀ → Post a s₀ s) (h : f s = f s₀) :
    p.Segs (fun x y => f y = f x) Post s₀ s := by
  induction p generalizing s₀ s with
  | ret a => exact hPost _ _ _ h
  | fail e => exact hPost _ _ _ h
  | read k ih => exact ih s (fun v => hp v s) h
  | write g p ih => exact ih (fun v => (hp v).2) (((hp (f s)).1 s rfl).trans h)
  | await l r k ih => exact ⟨h, fun a s' => ih a (fun v => hp v a) rfl⟩

/-- A program that has left `f` alone goes on after a silent part. -/
theorem Keeps.segs_bind {V : Type} {f : σ → V} {Post : Except ε γ → σ → σ → Prop}
    {p : Prog Λ R A ε σ α} {k : α → Prog Λ R A ε σ γ} (hp : ∀ v, p.Keeps fun s => f s = v)
    (h : f s = f s₀) (herr : ∀ e s₀ s, f s = f s₀ → Post (.error e) s₀ s)
    (hk : ∀ a s₀ s, f s = f s₀ → (k a).Segs (fun x y => f y = f x) Post s₀ s) :
    (p.bind k).Segs (fun x y => f y = f x) Post s₀ s := by
  refine Prog.segs_bind.mpr (Keeps.segs hp (fun a s₀ s h => ?_) h)
  cases a with
  | error e => exact herr e s₀ s h
  | ok a => exact hk a s₀ s h

/-- The segment of a program ends in `Post`, or at an await it goes on from. -/
theorem Segs.seg {Post : Except ε Unit → σ → σ → Prop} {i : ι} {p : Prog Λ R A ε σ Unit}
    (hp : p.Segs Q Post s₀ s) :
    ((p.seg i s).2 = none ∧ ∃ a, Post a s₀ (p.seg i s).1) ∨
      ∃ t, (p.seg i s).2 = some t ∧ t.who = i ∧ Q s₀ (p.seg i s).1 ∧
        ∀ a s', (t.k a).Segs Q Post s' s' := by
  induction p generalizing s₀ s with
  | ret a => exact Or.inl ⟨rfl, _, hp⟩
  | fail e => exact Or.inl ⟨rfl, _, hp⟩
  | read k ih => exact ih s hp
  | write f p ih => exact ih hp
  | await l r k ih => exact Or.inr ⟨_, rfl, rfl, hp⟩

end Rules

end Prog

end Lib
