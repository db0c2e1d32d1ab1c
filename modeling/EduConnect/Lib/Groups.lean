import Mathlib.Data.List.Forall2
import Mathlib.Data.List.Induction
import Mathlib.Data.List.Nodup

/-!
# Groups

Elements collected under their keys in a map that keeps the order of insertion: one group for each
key, holding the elements of that key in order (`isGrouping_groups`).
-/

namespace Lib

variable {κ β : Type} [DecidableEq κ]

/-- `map.putIfAbsent(k, () => []); map[k]!.add(x);` -/
def addGroup (k : κ) (x : β) : List (κ × List β) → List (κ × List β)
  | [] => [(k, [x])]
  | g :: gs => if g.1 = k then (k, g.2 ++ [x]) :: gs else g :: addGroup k x gs

/-- The groups of `l`. -/
def groups (l : List (κ × β)) : List (κ × List β) := l.foldl (fun gs a => addGroup a.1 a.2 gs) []

/-- One group for each key of `l`, with the elements of that key. -/
structure IsGrouping (l : List (κ × β)) (gs : List (κ × List β)) : Prop where
  nodup : (gs.map Prod.fst).Nodup
  mem_keys : ∀ k, k ∈ gs.map Prod.fst ↔ k ∈ l.map Prod.fst
  elements : ∀ g ∈ gs, g.2 = (l.filter fun a => a.1 = g.1).map Prod.snd

variable {k : κ} {x : β} {l : List (κ × β)} {gs : List (κ × List β)}

theorem map_fst_addGroup (k : κ) (x : β) (gs : List (κ × List β)) :
    (addGroup k x gs).map Prod.fst =
      if k ∈ gs.map Prod.fst then gs.map Prod.fst else gs.map Prod.fst ++ [k] := by
  induction gs with
  | nil => rfl
  | cons g gs ih =>
    by_cases hk : g.1 = k
    · have hmem : k ∈ (g :: gs).map Prod.fst := by simp [hk]
      rw [addGroup, if_pos hk, if_pos hmem, List.map_cons, List.map_cons, hk]
    · have hmem : k ∈ (g :: gs).map Prod.fst ↔ k ∈ gs.map Prod.fst := by
        rw [List.map_cons, List.mem_cons]
        exact ⟨fun h => h.resolve_left (Ne.symm hk), Or.inr⟩
      rw [addGroup, if_neg hk, List.map_cons, ih]
      by_cases hgs : k ∈ gs.map Prod.fst
      · rw [if_pos hgs, if_pos (hmem.mpr hgs), List.map_cons]
      · rw [if_neg hgs, if_neg (mt hmem.mp hgs), List.map_cons, List.cons_append]

/-- A group is one that was there, or the one of the new element. -/
theorem mem_addGroup (hgs : (gs.map Prod.fst).Nodup) {g : κ × List β}
    (hg : g ∈ addGroup k x gs) :
    (g ∈ gs ∧ g.1 ≠ k) ∨ (g.1 = k ∧ ((∃ g' ∈ gs, g'.1 = k ∧ g.2 = g'.2 ++ [x]) ∨
      (k ∉ gs.map Prod.fst ∧ g.2 = [x]))) := by
  induction gs with
  | nil =>
    obtain rfl := List.mem_singleton.mp hg
    exact Or.inr ⟨rfl, Or.inr ⟨List.not_mem_nil, rfl⟩⟩
  | cons g₀ gs ih =>
    obtain ⟨hnot, hrest⟩ := List.nodup_cons.mp hgs
    by_cases hk : g₀.1 = k
    · rw [addGroup, if_pos hk] at hg
      rcases List.mem_cons.mp hg with rfl | hg
      · exact Or.inr ⟨rfl, Or.inl ⟨g₀, List.mem_cons_self, hk, rfl⟩⟩
      · refine Or.inl ⟨List.mem_cons_of_mem g₀ hg, fun hgk => hnot ?_⟩
        rw [hk, ← hgk]
        exact List.mem_map_of_mem hg
    · rw [addGroup, if_neg hk] at hg
      rcases List.mem_cons.mp hg with rfl | hg
      · exact Or.inl ⟨List.mem_cons_self, hk⟩
      · rcases ih hrest hg with ⟨hmem, hne⟩ | ⟨hgk, ⟨g', hg', hk', hval⟩ | ⟨hnew, hval⟩⟩
        · exact Or.inl ⟨List.mem_cons_of_mem g₀ hmem, hne⟩
        · exact Or.inr ⟨hgk, Or.inl ⟨g', List.mem_cons_of_mem g₀ hg', hk', hval⟩⟩
        · refine Or.inr ⟨hgk, Or.inr ⟨?_, hval⟩⟩
          rw [List.map_cons, List.mem_cons]
          exact fun h => h.elim (Ne.symm hk) hnew

/-- One more element. -/
theorem IsGrouping.add (h : IsGrouping l gs) (k : κ) (x : β) :
    IsGrouping (l ++ [(k, x)]) (addGroup k x gs) := by
  have hkeys : ∀ k', k' ∈ (addGroup k x gs).map Prod.fst ↔ k' ∈ gs.map Prod.fst ∨ k' = k := by
    intro k'
    rw [map_fst_addGroup]
    by_cases hk : k ∈ gs.map Prod.fst
    · rw [if_pos hk]
      exact ⟨Or.inl, fun h => h.elim id fun heq => heq ▸ hk⟩
    · rw [if_neg hk, List.mem_append, List.mem_singleton]
  refine ⟨?_, fun k' => ?_, fun g hg => ?_⟩
  · rw [map_fst_addGroup]
    by_cases hk : k ∈ gs.map Prod.fst
    · rw [if_pos hk]
      exact h.nodup
    · rw [if_neg hk, ← List.concat_eq_append]
      exact h.nodup.concat hk
  · rw [hkeys, h.mem_keys, List.map_append, List.mem_append, List.map_cons, List.map_nil,
      List.mem_singleton]
  · rw [List.filter_append, List.map_append]
    rcases mem_addGroup h.nodup hg with ⟨hmem, hne⟩ | ⟨hgk, hcas⟩
    · rw [List.filter_cons_of_neg (by simpa using Ne.symm hne), h.elements g hmem]
      simp
    · have hlast : [(k, x)].filter (fun a => a.1 = g.1) = [(k, x)] := by simp [hgk]
      rw [hlast]
      rcases hcas with ⟨g', hg', hk', hval⟩ | ⟨hnew, hval⟩
      · rw [hval, h.elements g' hg', hk', hgk]
        rfl
      · have hnone : l.filter (fun a => a.1 = g.1) = [] := by
          rw [List.filter_eq_nil_iff]
          intro a ha hak
          rw [h.mem_keys] at hnew
          refine hnew ?_
          rw [← hgk, ← of_decide_eq_true hak]
          exact List.mem_map_of_mem ha
        rw [hval, hnone]
        rfl

theorem isGrouping_groups (l : List (κ × β)) : IsGrouping l (groups l) := by
  have hrun : ∀ (m : List (κ × β)) (done : List (κ × β)) (gs : List (κ × List β)),
      IsGrouping done gs →
        IsGrouping (done ++ m) (m.foldl (fun gs a => addGroup a.1 a.2 gs) gs) := by
    intro m
    induction m with
    | nil =>
      intro done gs h
      rwa [List.append_nil]
    | cons a m ih =>
      intro done gs h
      have hnext := ih (done ++ [a]) _ (h.add a.1 a.2)
      rwa [List.append_assoc] at hnext
  exact hrun l [] [] ⟨List.nodup_nil, fun _ => Iff.rfl, fun g hg => absurd hg List.not_mem_nil⟩

/-! ## Occurrences

The keys of a list with their numbers of occurrences, in a map that keeps the order of insertion. -/

section Tally

/-- `map[k] = (map[k] ?? 0) + 1;` -/
def addOne (k : κ) : List (κ × ℕ) → List (κ × ℕ)
  | [] => [(k, 1)]
  | e :: es => if e.1 = k then (k, e.2 + 1) :: es else e :: addOne k es

/-- The occurrences of each key of `l`. -/
def tally (l : List κ) : List (κ × ℕ) := l.foldl (fun es k => addOne k es) []

theorem filter_addOne_self (k : κ) (es : List (κ × ℕ)) :
    (addOne k es).filter (fun e => e.1 = k) = addOne k (es.filter fun e => e.1 = k) := by
  induction es with
  | nil => simp [addOne]
  | cons e es ih =>
    by_cases he : e.1 = k
    · simp [addOne, he]
    · simp [addOne, he, ih]

theorem filter_addOne_ne {k a : κ} (h : a ≠ k) (es : List (κ × ℕ)) :
    (addOne a es).filter (fun e => e.1 = k) = es.filter fun e => e.1 = k := by
  induction es with
  | nil => simp [addOne, h]
  | cons e es ih =>
    by_cases he : e.1 = a
    · have hk : e.1 ≠ k := fun heq => h (he.symm.trans heq)
      rw [addOne, if_pos he, List.filter_cons_of_neg (by simpa using h),
        List.filter_cons_of_neg (by simpa using hk)]
    · rw [addOne, if_neg he, List.filter_cons, List.filter_cons, ih]

/-- A key that occurs has one entry. -/
theorem filter_tally (k : κ) (l : List κ) :
    (tally l).filter (fun e => e.1 = k) = if l.count k = 0 then [] else [(k, l.count k)] := by
  induction l using List.reverseRecOn with
  | nil => rfl
  | append_singleton l a ih =>
    have hsnoc : tally (l ++ [a]) = addOne a (tally l) := by
      rw [tally, List.foldl_append]
      rfl
    rw [hsnoc, List.count_append]
    by_cases ha : a = k
    · subst ha
      have hpos : ¬l.count a + 1 = 0 := Nat.succ_ne_zero _
      rw [filter_addOne_self, ih, List.count_singleton_self, if_neg hpos]
      by_cases hl : l.count a = 0
      · simp [hl, addOne]
      · simp [hl, addOne]
    · have hzero : [a].count k = 0 := List.count_eq_zero.mpr (by simpa using Ne.symm ha)
      rw [filter_addOne_ne ha, ih, hzero, Nat.add_zero]

end Tally

/-! ## Keys as labels

Where each thing has one label at most and the labels of a list of things are distinct, so are the
things, and a label tells them apart. -/

section Labels

variable {α ι : Type} {T : α → ι → Prop} {as : List α} {ks : List ι}

theorem exists_label (h : List.Forall₂ T as ks) {a : α} (ha : a ∈ as) : ∃ k ∈ ks, T a k := by
  induction h with
  | nil => cases ha
  | cons hak _ ih =>
    rcases List.mem_cons.mp ha with rfl | ha
    · exact ⟨_, List.mem_cons_self, hak⟩
    · obtain ⟨k, hk, hT⟩ := ih ha
      exact ⟨k, List.mem_cons_of_mem _ hk, hT⟩

theorem exists_thing (h : List.Forall₂ T as ks) {k : ι} (hk : k ∈ ks) : ∃ a ∈ as, T a k := by
  induction h with
  | nil => cases hk
  | cons hak _ ih =>
    rcases List.mem_cons.mp hk with rfl | hk
    · exact ⟨_, List.mem_cons_self, hak⟩
    · obtain ⟨a, ha, hT⟩ := ih hk
      exact ⟨a, List.mem_cons_of_mem _ ha, hT⟩

/-- Each label is that of a thing. -/
theorem exists_labelled {R : α → ι → Prop} {ks : List ι} (h : ∀ k ∈ ks, ∃ a, R a k) :
    ∃ as, List.Forall₂ R as ks := by
  induction ks with
  | nil => exact ⟨[], .nil⟩
  | cons k ks ih =>
    obtain ⟨a, ha⟩ := h k List.mem_cons_self
    obtain ⟨as, has⟩ := ih fun k hk => h k (List.mem_cons_of_mem _ hk)
    exact ⟨a :: as, .cons ha has⟩

theorem nodup_of_labels (hT : ∀ a k k', T a k → T a k' → k = k') (h : List.Forall₂ T as ks)
    (hks : ks.Nodup) : as.Nodup := by
  induction h with
  | nil => exact List.nodup_nil
  | @cons a k as ks hak hrest ih =>
    obtain ⟨hnot, hks⟩ := List.nodup_cons.mp hks
    refine List.nodup_cons.mpr ⟨fun ha => hnot ?_, ih hks⟩
    obtain ⟨k', hk', hak'⟩ := exists_label hrest ha
    exact hT a k k' hak hak' ▸ hk'

theorem eq_of_label (hT : ∀ a k k', T a k → T a k' → k = k') (h : List.Forall₂ T as ks)
    (hks : ks.Nodup) {a a' : α} {k : ι} (ha : a ∈ as) (ha' : a' ∈ as) (hk : T a k)
    (hk' : T a' k) : a = a' := by
  induction h with
  | nil => cases ha
  | @cons a₀ k₀ as ks hk₀ hrest ih =>
    obtain ⟨hnot, hks⟩ := List.nodup_cons.mp hks
    have hlabel : ∀ x, x ∈ as → T x k → k ∈ ks := by
      intro x hx hxk
      obtain ⟨k', hk', hxk'⟩ := exists_label hrest hx
      exact hT x k k' hxk hxk' ▸ hk'
    rcases List.mem_cons.mp ha with rfl | hmem
    · rcases List.mem_cons.mp ha' with rfl | hmem'
      · rfl
      · exact absurd (hT a k₀ k hk₀ hk ▸ hlabel a' hmem' hk') hnot
    · rcases List.mem_cons.mp ha' with rfl | hmem'
      · exact absurd (hT a' k₀ k hk₀ hk' ▸ hlabel a hmem hk) hnot
      · exact ih hks hmem hmem'

end Labels

end Lib
