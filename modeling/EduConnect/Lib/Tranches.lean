import EduConnect.Lib.Lots
import EduConnect.Lib.Prog
import EduConnect.Lib.Backend
import Mathlib.Data.List.Defs

/-!
# Loops over consecutive slices

`for (i = 0; i < n; i += k)` with `l.sublist(i, i + k > n ? n : i + k)` in its body.  The loop ends,
its slices are in range, and they are the batches of `EduConnect.Lib.Lots`; queries on the batches of a
list without repetition find what one query on the list would.
-/

namespace Lib

variable {α : Type}

/-! ## Slices -/

/-- `l.sublist(debut, fin)`, which throws when the range is not one of `l`. -/
def sublist (l : List α) (debut fin : ℕ) : Option (List α) :=
  if debut ≤ fin ∧ fin ≤ l.length then some ((l.take fin).drop debut) else none

/-- `i + k > n ? n : i + k`. -/
def finTranche (k n i : ℕ) : ℕ := if i + k > n then n else i + k

/-- The values of `i` from `i` on, in at most `tours` turns. -/
def debutsDepuis (k n : ℕ) : ℕ → ℕ → List ℕ
  | 0, _ => []
  | tours + 1, i => if i < n then i :: debutsDepuis k n tours (i + k) else []

/-- The values of `i` in the loop. -/
def debuts (k n : ℕ) : List ℕ := debutsDepuis k n n 0

theorem mem_debutsDepuis {k n : ℕ} (hk : 0 < k) {tours i j : ℕ} (h : n ≤ tours + i) :
    j ∈ debutsDepuis k n tours i ↔ i ≤ j ∧ j < n ∧ k ∣ j - i := by
  induction tours generalizing i with
  | zero =>
    refine iff_of_false List.not_mem_nil ?_
    omega
  | succ tours ih =>
    unfold debutsDepuis
    by_cases hi : i < n
    · rw [if_pos hi, List.mem_cons, ih (by omega)]
      constructor
      · rintro (rfl | ⟨hij, hjn, hdvd⟩)
        · exact ⟨le_rfl, hi, by simp⟩
        · refine ⟨by omega, hjn, ?_⟩
          rw [show j - i = j - (i + k) + k by omega]
          exact (Nat.dvd_add_right hdvd).mpr dvd_rfl
      · rintro ⟨hij, hjn, hdvd⟩
        by_cases heq : j = i
        · exact .inl heq
        · have hle : k ≤ j - i := Nat.le_of_dvd (by omega) hdvd
          refine .inr ⟨by omega, hjn, ?_⟩
          rw [show j - (i + k) = j - i - k by omega]
          exact Nat.dvd_sub hdvd dvd_rfl
    · rw [if_neg hi]
      refine iff_of_false List.not_mem_nil ?_
      omega

/-- The loop ends after the last multiple of `k` below `n`. -/
theorem mem_debuts {k n : ℕ} (hk : 0 < k) {j : ℕ} : j ∈ debuts k n ↔ j < n ∧ k ∣ j := by
  rw [debuts, mem_debutsDepuis hk (by omega)]
  simp

/-- A slice of the loop is in range. -/
theorem sublist_finTranche (k : ℕ) {l : List α} {i : ℕ} (hi : i < l.length) :
    sublist l i (finTranche k l.length i) = some ((l.drop i).take k) := by
  unfold sublist finTranche
  by_cases h : i + k > l.length
  · rw [if_pos h, if_pos ⟨hi.le, le_rfl⟩, List.take_length,
      List.take_of_length_le (by rw [List.length_drop]; omega)]
  · rw [if_neg h, if_pos ⟨by omega, by omega⟩, List.drop_take]
    simp

/-! ## The batches of a list -/

/-- Turns past the last batch make none. -/
theorem premiersLots_of_le {k : ℕ} (hk : 0 < k) {n m : ℕ} {l : List α} (hn : l.length ≤ n)
    (hm : l.length ≤ m) : premiersLots k n l = premiersLots k m l := by
  induction n generalizing m l with
  | zero =>
    obtain rfl := List.length_eq_zero_iff.mp (Nat.le_zero.mp hn)
    cases m <;> rfl
  | succ n ih =>
    cases l with
    | nil => cases m <;> rfl
    | cons a l =>
      cases m with
      | zero => cases hm
      | succ m =>
        rw [List.length_cons] at hn hm
        have hdrop : ((a :: l).drop k).length ≤ l.length := by
          rw [List.length_drop, List.length_cons]
          omega
        unfold premiersLots
        rw [ih (m := m) (by omega) (by omega)]

theorem lots_cons {k : ℕ} (hk : 0 < k) {l : List α} (hl : l ≠ []) :
    lots k l = l.take k :: lots k (l.drop k) := by
  cases l with
  | nil => exact absurd rfl hl
  | cons a l =>
    unfold lots
    rw [List.length_cons, premiersLots]
    refine congrArg _ (premiersLots_of_le hk ?_ le_rfl)
    rw [List.length_drop, List.length_cons]
    omega

/-- The `j`-th batch starts at `j * k`. -/
theorem getElem?_lots {k : ℕ} (hk : 0 < k) (l : List α) (j : ℕ) : (lots k l)[j]? =
    if j * k < l.length then some ((l.drop (j * k)).take k) else none := by
  induction j generalizing l with
  | zero =>
    by_cases hl : l = []
    · subst hl
      rfl
    · have hpos : 0 < l.length := List.length_pos_iff.mpr hl
      rw [lots_cons hk hl]
      simp [hpos]
  | succ j ih =>
    by_cases hl : l = []
    · subst hl
      simp [lots, premiersLots]
    · rw [lots_cons hk hl, List.getElem?_cons_succ, ih, List.drop_drop, List.length_drop]
      have hmul : (j + 1) * k = k + j * k := by
        rw [Nat.add_mul, Nat.one_mul, Nat.add_comm]
      have hiff : j * k < l.length - k ↔ (j + 1) * k < l.length := by omega
      rw [hmul]
      by_cases h : j * k < l.length - k
      · rw [if_pos h, if_pos (by omega)]
      · rw [if_neg h, if_neg (by omega)]

theorem mapM_cons_eq_some_iff {β : Type} {f : α → Option β} {a : α} {l : List α} {bs : List β} :
    (a :: l).mapM f = some bs ↔ ∃ b cs, f a = some b ∧ l.mapM f = some cs ∧ b :: cs = bs := by
  rw [List.mapM_cons, Option.bind_eq_bind, Option.bind_eq_some_iff]
  refine exists_congr fun b => ?_
  rw [Option.bind_eq_bind, Option.bind_eq_some_iff, ← exists_and_left]
  refine exists_congr fun cs => and_congr_right fun _ => and_congr_right fun _ => ?_
  exact Option.some_inj

/-- The slices of the loop are the batches. -/
theorem mapM_sublist_debuts {k : ℕ} (hk : 0 < k) (l : List α) :
    (debuts k l.length).mapM (fun i => sublist l i (finTranche k l.length i)) = some (lots k l) := by
  have hdepuis : ∀ tours i, l.length ≤ tours + i →
      (debutsDepuis k l.length tours i).mapM (fun i => sublist l i (finTranche k l.length i)) =
        some (lots k (l.drop i)) := by
    intro tours
    induction tours with
    | zero =>
      intro i hi
      rw [List.drop_eq_nil_of_le (by omega)]
      rfl
    | succ tours ih =>
      intro i hi
      unfold debutsDepuis
      by_cases hlt : i < l.length
      · have hne : l.drop i ≠ [] := by
          rw [Ne, List.drop_eq_nil_iff]
          omega
        rw [if_pos hlt, List.mapM_cons, sublist_finTranche k hlt, ih (i + k) (by omega),
          lots_cons hk hne, List.drop_drop]
        rfl
      · rw [if_neg hlt, List.drop_eq_nil_of_le (by omega)]
        rfl
  exact hdepuis l.length 0 (by omega)

/-- `toChunks` makes the same batches. -/
theorem toChunks_eq_lots {k : ℕ} (hk : 0 < k) (l : List α) : l.toChunks k = lots k l := by
  have hgo : ∀ (xs : List α) (lot : Array α) (faits : Array (List α)), 0 < lot.size →
      lot.size ≤ k → List.toChunks.go k xs lot faits = faits.toList ++ lots k (lot.toList ++ xs) := by
    intro xs
    induction xs with
    | nil =>
      intro lot faits hpos hle
      have hne : lot.toList ≠ [] := List.length_pos_iff.mp (by simpa using hpos)
      rw [List.append_nil, lots_cons hk hne, List.take_of_length_le (by simpa using hle),
        List.drop_eq_nil_of_le (by simpa using hle)]
      simp [List.toChunks.go, lots, premiersLots]
    | cons x xs ih =>
      intro lot faits hpos hle
      unfold List.toChunks.go
      by_cases hplein : lot.size = k
      · rw [if_pos (beq_iff_eq.mpr hplein), ih _ _ (by simp) (by simp; omega)]
        have hlen : lot.toList.length = k := by simpa using hplein
        have hne : lot.toList ++ x :: xs ≠ [] := by simp
        rw [lots_cons hk hne, List.take_left' hlen, List.drop_left' hlen]
        simp
      · rw [if_neg (by simpa using hplein), ih _ _ (by simp) (by simp; omega)]
        simp
  cases l with
  | nil => cases k <;> rfl
  | cons x xs =>
    cases k with
    | zero => cases hk
    | succ k =>
      have h := hgo xs #[x] #[] (by simp) (by simp)
      simpa [List.toChunks] using h

/-! ## A fallible loop over the slices -/

section Boucle

variable {Λ R : Type} {A : R → Type} {ε σ β γ : Type}

/-- Run `p` on one batch after the other, and collect the results. -/
def parLots (p : List α → Prog Λ R A ε σ (List γ)) : List (List α) → Prog Λ R A ε σ (List γ)
  | [] => .ret []
  | lot :: suite => (p lot).bind fun xs => (parLots p suite).bind fun ys => .ret (xs ++ ys)

/-- Run `p` on the slices of `l` that start at the given places; `hors` is the error of a slice out of
range. -/
def parTranches (hors : ε) (k : ℕ) (l : List α) (p : List α → Prog Λ R A ε σ (List γ)) :
    List ℕ → Prog Λ R A ε σ (List γ)
  | [] => .ret []
  | i :: suite =>
    match sublist l i (finTranche k l.length i) with
    | none => .fail hors
    | some lot =>
      (p lot).bind fun xs => (parTranches hors k l p suite).bind fun ys => .ret (xs ++ ys)

variable {p : List α → Prog Λ R A ε σ (List γ)}

/-- The loop runs over the batches; no slice is out of range. -/
theorem parTranches_debuts (hors : ε) {k : ℕ} (hk : 0 < k) (l : List α) :
    parTranches hors k l p (debuts k l.length) = parLots p (lots k l) := by
  have hsuite : ∀ is ls, is.mapM (fun i => sublist l i (finTranche k l.length i)) = some ls →
      parTranches hors k l p is = parLots p ls := by
    intro is
    induction is with
    | nil =>
      intro ls hls
      obtain rfl : [] = ls := Option.some.inj hls
      rfl
    | cons i is ih =>
      intro ls hls
      obtain ⟨lot, suite, hlot, hsuite, rfl⟩ := mapM_cons_eq_some_iff.mp hls
      unfold parTranches parLots
      rw [hlot, ih suite hsuite]
  exact hsuite _ _ (mapM_sublist_debuts hk l)

/-- When each turn only answers, so does the loop. -/
theorem exec_parLots {h : (r : R) → β → Except ε (A r) × β} {g : List α → Except ε (List γ)}
    {s : σ} {b : β} {ls : List (List α)} (hp : ∀ lot ∈ ls, (p lot).exec h s b = (g lot, s, b)) :
    (parLots p ls).exec h s b = ((ls.mapM g).map List.flatten, s, b) := by
  induction ls with
  | nil => rfl
  | cons lot ls ih =>
    unfold parLots
    rw [Prog.exec_bind, hp lot List.mem_cons_self, List.mapM_cons]
    rcases g lot with e | xs
    · rfl
    · dsimp only
      rw [Prog.exec_bind, ih fun lot' h' => hp lot' (List.mem_cons_of_mem _ h')]
      rcases ls.mapM g with e | ys <;> rfl

theorem issues_parLots {G : Λ → R → Prop} {ls : List (List α)}
    (hp : ∀ lot ∈ ls, (p lot).Issues G) : (parLots p ls).Issues G := by
  induction ls with
  | nil => trivial
  | cons lot ls ih =>
    refine .bind (hp lot List.mem_cons_self) fun xs => ?_
    exact .bind (ih fun lot' h' => hp lot' (List.mem_cons_of_mem _ h')) fun _ => trivial

end Boucle

/-! ## Queries on batches -/

/-- Batches of a list without repetition have no element in common. -/
theorem lot_unique {k : ℕ} (hk : 0 < k) {l : List α} (hl : l.Nodup) :
    (lots k l).Nodup ∧
      ∀ lot ∈ lots k l, ∀ lot' ∈ lots k l, ∀ a ∈ lot, a ∈ lot' → lot = lot' := by
  rw [← flatten_lots hk l, List.nodup_flatten] at hl
  obtain ⟨-, hdisjoint⟩ := hl
  constructor
  · refine hdisjoint.imp_of_mem ?_
    rintro lot lot' hlot - hd rfl
    obtain ⟨a, ha⟩ := List.exists_mem_of_ne_nil _ (length_of_mem_lots hk hlot).1
    exact hd ha ha
  · intro lot hlot lot' hlot' a ha ha'
    by_contra hne
    have hsym : Std.Symm (@List.Disjoint α) := ⟨fun _ _ h => h.symm⟩
    exact hdisjoint.forall hlot hlot' hne ha ha'

/-- A batch holds the elements whose places have the same quotient. -/
theorem mem_getElem_lots {k : ℕ} (hk : 0 < k) {l : List α} {j : ℕ} (hj : j < (lots k l).length)
    {a : α} : a ∈ (lots k l)[j] ↔ ∃ i, i / k = j ∧ l[i]? = some a := by
  have hlot := getElem?_lots hk l j
  rw [List.getElem?_eq_getElem hj] at hlot
  by_cases hlen : j * k < l.length
  · rw [if_pos hlen, Option.some.injEq] at hlot
    rw [hlot, List.mem_iff_getElem?]
    constructor
    · rintro ⟨n, hn⟩
      rw [List.getElem?_take, List.getElem?_drop] at hn
      split_ifs at hn with hlt
      refine ⟨j * k + n, ?_, hn⟩
      rw [Nat.add_comm, Nat.add_mul_div_right _ _ hk, Nat.div_eq_of_lt hlt, Nat.zero_add]
    · rintro ⟨i, rfl, hi⟩
      refine ⟨i % k, ?_⟩
      rw [List.getElem?_take, if_pos (Nat.mod_lt i hk), List.getElem?_drop, Nat.mul_comm,
        Nat.div_add_mod]
      exact hi
  · rw [if_neg hlen] at hlot
    exact nomatch hlot

/-- Results found batch by batch repeat exactly the elements that are in two batches. -/
theorem nodup_flatMap_lots {k : ℕ} (hk : 0 < k) {l : List α} {P : α → Prop} {f : List α → List α}
    (hnodup : ∀ lot, (f lot).Nodup) (hmem : ∀ lot a, a ∈ f lot ↔ a ∈ lot ∧ P a) :
    ((lots k l).flatMap f).Nodup ↔
      ∀ i j a, l[i]? = some a → l[j]? = some a → P a → i / k = j / k := by
  rw [List.nodup_flatMap, List.pairwise_iff_getElem, and_iff_right fun lot _ => hnodup lot]
  constructor
  · intro h i j a hi hj ha
    have hlieu : ∀ n, l[n]? = some a → ∃ hn : n / k < (lots k l).length,
        a ∈ (lots k l)[n / k] := by
      intro n hn
      have hlt : n / k < (lots k l).length := by
        have hlot := getElem?_lots hk l (n / k)
        have hle : n / k * k ≤ n := Nat.div_mul_le_self n k
        have hn' : n < l.length := (List.getElem?_eq_some_iff.mp hn).1
        rw [if_pos (by omega)] at hlot
        exact (List.getElem?_eq_some_iff.mp hlot).1
      exact ⟨hlt, (mem_getElem_lots hk hlt).mpr ⟨n, rfl, hn⟩⟩
    obtain ⟨hi', hai⟩ := hlieu i hi
    obtain ⟨hj', haj⟩ := hlieu j hj
    rcases lt_trichotomy (i / k) (j / k) with hlt | heq | hlt
    · exact absurd ((hmem _ a).mpr ⟨haj, ha⟩) (h _ _ hi' hj' hlt ((hmem _ a).mpr ⟨hai, ha⟩))
    · exact heq
    · exact absurd ((hmem _ a).mpr ⟨hai, ha⟩) (h _ _ hj' hi' hlt ((hmem _ a).mpr ⟨haj, ha⟩))
  · intro h m n hm hn hlt a ham han
    obtain ⟨ham, ha⟩ := (hmem _ a).mp ham
    obtain ⟨han, -⟩ := (hmem _ a).mp han
    obtain ⟨i, rfl, hi⟩ := (mem_getElem_lots hk hm).mp ham
    obtain ⟨j, rfl, hj⟩ := (mem_getElem_lots hk hn).mp han
    have heq := h i j a hi hj ha
    omega

/-- Decoding the rows batch by batch, or all together. -/
theorem mapM_mapM_flatten {ε β γ : Type} (f : β → Except ε γ) (rows : List α → List β)
    (ls : List (List α)) :
    (ls.mapM fun lot => (rows lot).mapM f).map List.flatten = (ls.flatMap rows).mapM f := by
  induction ls with
  | nil => rfl
  | cons lot ls ih =>
    rw [List.flatMap_cons, List.mapM_append, ← ih, List.mapM_cons]
    rcases (rows lot).mapM f with e | xs
    · rfl
    · rcases ls.mapM fun lot => (rows lot).mapM f with e | ys <;> rfl

theorem Query.run_whereIn_lots {φ : Type} {k : ℕ} (hk : 0 < k) {ids : List String} (hids : ids.Nodup)
    (f : φ) (fs : List (Filter φ)) (t : Table String (Doc φ)) :
    ((lots k ids).flatMap fun lot => (⟨.whereIn f lot :: fs, none, none⟩ : Query φ).run t).Perm
      ((⟨.whereIn f ids :: fs, none, none⟩ : Query φ).run t) := by
  obtain ⟨hnodup, hunique⟩ := lot_unique hk hids
  have hiff : ∀ a : String × Doc φ,
      ((lots k ids).any fun lot => (Filter.whereIn f lot :: fs).all fun c => c.sat a.1 a.2) =
        ((Filter.whereIn f ids :: fs).all fun c => c.sat a.1 a.2) := by
    intro a
    rw [Bool.eq_iff_iff, List.any_eq_true]
    simp only [List.all_cons, Bool.and_eq_true, Filter.sat_whereIn]
    constructor
    · rintro ⟨lot, hlot, ⟨s, hs, hfield⟩, hfs⟩
      refine ⟨⟨s, ?_, hfield⟩, hfs⟩
      rw [← flatten_lots hk ids]
      exact List.mem_flatten_of_mem hlot hs
    · rintro ⟨⟨s, hs, hfield⟩, hfs⟩
      rw [← flatten_lots hk ids] at hs
      obtain ⟨lot, hlot, hmem⟩ := List.mem_flatten.mp hs
      exact ⟨lot, hlot, ⟨s, hmem, hfield⟩, hfs⟩
  have hperm := flatMap_filter_perm hnodup (l := t.rows)
    (p := fun lot a => (Filter.whereIn f lot :: fs).all fun c => c.sat a.1 a.2) ?_
  · simp only [hiff] at hperm
    exact hperm
  · -- the value of the field is in one batch only
    intro a _ lot hlot lot' hlot' hp hp'
    rw [List.all_cons, Bool.and_eq_true, Filter.sat_whereIn] at hp hp'
    obtain ⟨⟨s, hs, hfield⟩, -⟩ := hp
    obtain ⟨⟨s', hs', hfield'⟩, -⟩ := hp'
    obtain rfl := Value.str.inj (Option.some.inj (hfield.symm.trans hfield'))
    exact hunique lot hlot lot' hlot' s hs hs'

end Lib
