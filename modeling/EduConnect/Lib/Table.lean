import Mathlib.Order.Lattice
import Mathlib.Data.List.Basic

/-!
# Sorted association tables

`Table ι δ` is a finite map from keys to values kept as a list sorted by key, so that it can be
enumerated in key order (as a document database does when no order is asked for) and two tables
with the same lookups are equal (`Table.ext_find`).
-/

namespace Lib

variable {ι δ : Type} [LinearOrder ι]

/-! ## Rows -/

/-- The value stored under `k`. -/
def lookupRow (k : ι) : List (ι × δ) → Option δ
  | [] => none
  | (k', d) :: t => if k = k' then some d else lookupRow k t

/-- Insert or replace the row of `k`, keeping the keys increasing. -/
def putRow (k : ι) (d : δ) : List (ι × δ) → List (ι × δ)
  | [] => [(k, d)]
  | (k', d') :: t =>
    if k < k' then (k, d) :: (k', d') :: t
    else if k = k' then (k, d) :: t
    else (k', d') :: putRow k d t

/-- Keys strictly increasing. -/
def SortedRows (l : List (ι × δ)) : Prop := l.Pairwise fun a b => a.1 < b.1

theorem SortedRows.nodup {l : List (ι × δ)} (hl : SortedRows l) : l.Nodup :=
  hl.imp fun h => by rintro rfl; exact lt_irrefl _ h

theorem lookupRow_eq_some_iff {l : List (ι × δ)} (hl : SortedRows l) {k : ι} {d : δ} :
    lookupRow k l = some d ↔ (k, d) ∈ l := by
  induction l with
  | nil => simp [lookupRow]
  | cons a t ih =>
    obtain ⟨k', d'⟩ := a
    obtain ⟨hlt, ht⟩ := List.pairwise_cons.mp hl
    by_cases hk : k = k'
    · subst hk
      have hnot : (k, d) ∉ t := fun h => lt_irrefl k (hlt (k, d) h)
      simp [lookupRow, hnot, eq_comm]
    · simp [lookupRow, hk, ih ht]

theorem lookupRow_putRow_self (k : ι) (d : δ) (l : List (ι × δ)) :
    lookupRow k (putRow k d l) = some d := by
  induction l with
  | nil => simp [putRow, lookupRow]
  | cons a t ih =>
    obtain ⟨k', d'⟩ := a
    unfold putRow
    split_ifs with h1 h2
    · simp [lookupRow]
    · simp [lookupRow]
    · simp [lookupRow, h2, ih]

theorem lookupRow_putRow_ne {k j : ι} (h : j ≠ k) (d : δ) (l : List (ι × δ)) :
    lookupRow j (putRow k d l) = lookupRow j l := by
  induction l with
  | nil => simp [putRow, lookupRow, h]
  | cons a t ih =>
    obtain ⟨k', d'⟩ := a
    unfold putRow
    split_ifs with h1 h2
    · simp [lookupRow, h]
    · subst h2; simp [lookupRow, h]
    · simp [lookupRow, ih]

theorem mem_putRow {k : ι} {d : δ} {l : List (ι × δ)} {a : ι × δ} (h : a ∈ putRow k d l) :
    a = (k, d) ∨ a ∈ l := by
  induction l with
  | nil => simpa [putRow] using h
  | cons b t ih =>
    obtain ⟨k', d'⟩ := b
    unfold putRow at h
    split_ifs at h with h1 h2
    · simpa using h
    · rcases List.mem_cons.mp h with h | h
      · exact Or.inl h
      · exact Or.inr (List.mem_cons_of_mem _ h)
    · rcases List.mem_cons.mp h with h | h
      · exact Or.inr (h ▸ List.mem_cons_self)
      · exact (ih h).imp_right (List.mem_cons_of_mem _)

/-- A row put under a new key is one row more. -/
theorem putRow_perm {k : ι} {l : List (ι × δ)} (h : lookupRow k l = none) (d : δ) :
    (putRow k d l).Perm (l ++ [(k, d)]) := by
  induction l with
  | nil => exact List.Perm.refl _
  | cons a t ih =>
    obtain ⟨k', d'⟩ := a
    unfold lookupRow at h
    by_cases hk : k = k'
    · rw [if_pos hk] at h
      cases h
    rw [if_neg hk] at h
    unfold putRow
    split_ifs
    · exact (List.perm_append_singleton (k, d) ((k', d') :: t)).symm
    · exact (ih h).cons (k', d')

theorem sortedRows_putRow (k : ι) (d : δ) {l : List (ι × δ)} (hl : SortedRows l) :
    SortedRows (putRow k d l) := by
  induction l with
  | nil => simp [putRow, SortedRows]
  | cons a t ih =>
    obtain ⟨k', d'⟩ := a
    obtain ⟨hlt, ht⟩ := List.pairwise_cons.mp hl
    unfold putRow
    split_ifs with h1 h2
    · refine List.pairwise_cons.mpr ⟨fun b hb => ?_, hl⟩
      rcases List.mem_cons.mp hb with rfl | hb
      · exact h1
      · exact lt_trans h1 (hlt b hb)
    · subst h2
      exact List.pairwise_cons.mpr ⟨hlt, ht⟩
    · refine List.pairwise_cons.mpr ⟨fun b hb => ?_, ih ht⟩
      rcases mem_putRow hb with rfl | hb
      · exact lt_of_le_of_ne (not_lt.mp h1) (Ne.symm h2)
      · exact hlt b hb

/-! ## Tables -/

/-- A finite map whose rows are sorted by key. -/
structure Table (ι δ : Type) [LinearOrder ι] where
  rows : List (ι × δ)
  sorted : SortedRows rows

namespace Table

/-- The table with no row. -/
def empty : Table ι δ := ⟨[], List.Pairwise.nil⟩

instance : Inhabited (Table ι δ) := ⟨empty⟩

def find (t : Table ι δ) (k : ι) : Option δ := lookupRow k t.rows

def put (t : Table ι δ) (k : ι) (d : δ) : Table ι δ :=
  ⟨putRow k d t.rows, sortedRows_putRow k d t.sorted⟩

def erase (t : Table ι δ) (k : ι) : Table ι δ :=
  ⟨t.rows.filter fun a => a.1 ≠ k, t.sorted.filter _⟩

/-- The table of the rows of `l`, the last row of a key being kept. -/
def ofRows (l : List (ι × δ)) : Table ι δ := l.foldl (fun t a => t.put a.1 a.2) empty

@[simp] theorem find_empty (k : ι) : (empty : Table ι δ).find k = none := rfl

@[simp] theorem find_put_self (t : Table ι δ) (k : ι) (d : δ) : (t.put k d).find k = some d :=
  lookupRow_putRow_self k d t.rows

@[simp] theorem find_put_ne (t : Table ι δ) {k j : ι} (h : j ≠ k) (d : δ) :
    (t.put k d).find j = t.find j :=
  lookupRow_putRow_ne h d t.rows

theorem find_put (t : Table ι δ) (k j : ι) (d : δ) :
    (t.put k d).find j = if j = k then some d else t.find j := by
  by_cases h : j = k
  · subst h; simp
  · simp [h]

theorem find_eq_some_iff {t : Table ι δ} {k : ι} {d : δ} : t.find k = some d ↔ (k, d) ∈ t.rows :=
  lookupRow_eq_some_iff t.sorted

theorem find_eq_none_iff {t : Table ι δ} {k : ι} : t.find k = none ↔ ∀ d, (k, d) ∉ t.rows := by
  rw [Option.eq_none_iff_forall_ne_some]
  exact forall_congr' fun d => not_congr find_eq_some_iff

theorem find_erase (t : Table ι δ) (k j : ι) :
    (t.erase k).find j = if j = k then none else t.find j := by
  by_cases h : j = k
  · subst h
    rw [if_pos rfl, find_eq_none_iff]
    intro d hd
    simp [erase] at hd
  · rw [if_neg h]
    refine Option.ext fun d => ?_
    rw [find_eq_some_iff, find_eq_some_iff]
    simp [erase, h]

@[simp] theorem find_erase_self (t : Table ι δ) (k : ι) : (t.erase k).find k = none := by
  simp [find_erase]

@[simp] theorem find_erase_ne (t : Table ι δ) {k j : ι} (h : j ≠ k) :
    (t.erase k).find j = t.find j := by
  simp [find_erase, h]

/-- Rows of two tables with the same lookups coincide. -/
theorem rows_eq_of_find {l l' : List (ι × δ)} (hl : SortedRows l) (hl' : SortedRows l')
    (h : ∀ a, a ∈ l ↔ a ∈ l') : l = l' := by
  refine List.Perm.eq_of_pairwise (fun _ _ _ _ hab hba => absurd hba (lt_asymm hab)) hl hl' ?_
  exact (List.perm_ext_iff_of_nodup hl.nodup hl'.nodup).mpr h

/-- Tables are determined by their lookups. -/
theorem ext_find {t t' : Table ι δ} (h : ∀ k, t.find k = t'.find k) : t = t' := by
  obtain ⟨l, hl⟩ := t
  obtain ⟨l', hl'⟩ := t'
  have : l = l' := rows_eq_of_find hl hl' fun ⟨k, d⟩ => by
    rw [← find_eq_some_iff (t := ⟨l, hl⟩), ← find_eq_some_iff (t := ⟨l', hl'⟩), h]
  subst this
  rfl

theorem rows_put_perm {t : Table ι δ} {k : ι} (h : t.find k = none) (d : δ) :
    (t.put k d).rows.Perm (t.rows ++ [(k, d)]) :=
  putRow_perm h d

theorem keys_nodup (t : Table ι δ) : (t.rows.map Prod.fst).Nodup :=
  List.pairwise_map.mpr (t.sorted.imp ne_of_lt)

theorem rows_nodup (t : Table ι δ) : t.rows.Nodup := t.sorted.nodup

end Table

end Lib
