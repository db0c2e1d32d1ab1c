import Mathlib.Algebra.BigOperators.Group.List.Lemmas
import Mathlib.Algebra.GroupWithZero.Nat
import Mathlib.Data.List.Count
import Mathlib.Data.List.Nodup

/-!
# Batches and counts by key

`lots k l` cuts a list in consecutive batches of at most `k` elements, as a loop stepping by `k`
does.  `sum_countP_key` adds up, over a list of keys, the elements counted under each key, and
`addUnder` collects elements under their keys.
-/

namespace Lib

variable {α κ : Type}

/-! ## Batches -/

/-- The first `n` batches of `l`. -/
def premiersLots (k : ℕ) : ℕ → List α → List (List α)
  | 0, _ => []
  | _ + 1, [] => []
  | n + 1, a :: l => (a :: l).take k :: premiersLots k n ((a :: l).drop k)

/-- The batches of `l`, of `k` elements each but the last. -/
def lots (k : ℕ) (l : List α) : List (List α) := premiersLots k l.length l

theorem flatten_premiersLots {k : ℕ} (hk : 0 < k) (n : ℕ) (l : List α) (h : l.length ≤ n) :
    (premiersLots k n l).flatten = l := by
  induction n generalizing l with
  | zero => rw [List.length_eq_zero_iff.mp (Nat.le_zero.mp h)]; rfl
  | succ n ih =>
    cases l with
    | nil => rfl
    | cons a l =>
      have hlen : ((a :: l).drop k).length ≤ n := by
        rw [List.length_drop, List.length_cons]
        rw [List.length_cons] at h
        omega
      unfold premiersLots
      rw [List.flatten_cons, ih _ hlen, List.take_append_drop]

/-- No element is lost or taken twice. -/
theorem flatten_lots {k : ℕ} (hk : 0 < k) (l : List α) : (lots k l).flatten = l :=
  flatten_premiersLots hk l.length l le_rfl

theorem exists_lot_iff {k : ℕ} (hk : 0 < k) {l : List α} {a : α} :
    (∃ lot ∈ lots k l, a ∈ lot) ↔ a ∈ l := by
  rw [← List.mem_flatten, flatten_lots hk]

/-- A batch has an element, and no more than `k`. -/
theorem length_of_mem_lots {k : ℕ} (hk : 0 < k) {l lot : List α} (h : lot ∈ lots k l) :
    lot ≠ [] ∧ lot.length ≤ k := by
  unfold lots at h
  generalize l.length = n at h
  induction n generalizing l with
  | zero => cases h
  | succ n ih =>
    cases l with
    | nil => cases h
    | cons a l =>
      rcases List.mem_cons.mp h with rfl | h
      · refine ⟨fun hnil => ?_, List.length_take_le k _⟩
        rcases List.take_eq_nil_iff.mp hnil with h0 | h0
        · exact absurd h0 hk.ne'
        · cases h0
      · exact ih h

/-- `toSet().toList()` keeps one of each. -/
theorem nodup_eraseDups [BEq α] [LawfulBEq α] (l : List α) : l.eraseDups.Nodup := by
  induction h : l.length using Nat.strongRecOn generalizing l with
  | ind n ih =>
    cases l with
    | nil => exact List.nodup_nil
    | cons a l =>
      have hlen : (l.filter fun b => !b == a).length < n := by
        have := List.length_filter_le (fun b => !b == a) l
        rw [List.length_cons] at h
        omega
      rw [List.eraseDups_cons, List.nodup_cons]
      refine ⟨fun ha => ?_, ih _ hlen _ rfl⟩
      simpa using (List.mem_filter.mp (List.mem_eraseDups.mp ha)).2

/-! ## Fallible loops that do not fail -/

/-- Two computations in a row succeed when both do. -/
theorem bind_eq_ok_iff {ε α β : Type} {x : Except ε α} {f : α → Except ε β} {b : β} :
    x >>= f = .ok b ↔ ∃ a, x = .ok a ∧ f a = .ok b := by
  cases x with
  | error e => exact ⟨fun h => (by cases h), fun ⟨_, h, _⟩ => (by cases h)⟩
  | ok a =>
    refine ⟨fun h => ⟨a, rfl, h⟩, ?_⟩
    rintro ⟨a', ha, hf⟩
    obtain rfl := Except.ok.inj ha
    exact hf

theorem mapM_eq_ok {ε β : Type} {f : α → Except ε β} {g : α → β} {l : List α}
    (h : ∀ a ∈ l, f a = .ok (g a)) : l.mapM f = .ok (l.map g) := by
  induction l with
  | nil => rfl
  | cons a l ih =>
    rw [List.mapM_cons, h a (by simp), ih fun b hb => h b (by simp [hb])]
    rfl

theorem mapM_congr_of_mem {ε β : Type} {f g : α → Except ε β} {l : List α}
    (h : ∀ a ∈ l, f a = g a) : l.mapM f = l.mapM g := by
  induction l with
  | nil => rfl
  | cons a l ih =>
    rw [List.mapM_cons, List.mapM_cons, h a List.mem_cons_self,
      ih fun b hb => h b (List.mem_cons_of_mem a hb)]

theorem mapM_cons_eq_ok_iff {ε β : Type} {f : α → Except ε β} {a : α} {l : List α} {bs : List β} :
    (a :: l).mapM f = .ok bs ↔ ∃ b cs, f a = .ok b ∧ l.mapM f = .ok cs ∧ b :: cs = bs := by
  rw [List.mapM_cons, bind_eq_ok_iff]
  refine exists_congr fun b => ?_
  rw [bind_eq_ok_iff, ← exists_and_left]
  refine exists_congr fun cs => and_congr_right fun _ => and_congr_right fun _ => ?_
  exact ⟨Except.ok.inj, congrArg _⟩

/-- The results of a loop that does not fail. -/
theorem mapM_eq_ok_iff {ε β : Type} {f : α → Except ε β} {l : List α} {bs : List β} :
    l.mapM f = .ok bs ↔ l.map f = bs.map .ok := by
  induction l generalizing bs with
  | nil =>
    constructor
    · intro h
      obtain rfl : [] = bs := Except.ok.inj h
      rfl
    · intro h
      rw [List.map_eq_nil_iff.mp h.symm]
      rfl
  | cons a l ih =>
    rw [mapM_cons_eq_ok_iff, List.map_cons]
    constructor
    · rintro ⟨b, cs, ha, hl, rfl⟩
      rw [List.map_cons, ha, ih.mp hl]
    · intro h
      obtain ⟨b, cs, rfl, hb, hcs⟩ := List.map_eq_cons_iff.mp h.symm
      exact ⟨b, cs, hb.symm, ih.mpr hcs.symm, rfl⟩

/-- A key that the results have from the elements. -/
theorem map_key_of_mapM {ε β γ : Type} {f : α → Except ε β} {k : α → γ} {k' : β → γ}
    (hk : ∀ a b, f a = .ok b → k' b = k a) {l : List α} {bs : List β} (h : l.mapM f = .ok bs) :
    bs.map k' = l.map k := by
  induction l generalizing bs with
  | nil =>
    obtain rfl : [] = bs := Except.ok.inj h
    rfl
  | cons a l ih =>
    obtain ⟨b, cs, hb, hcs, rfl⟩ := mapM_cons_eq_ok_iff.mp h
    rw [List.map_cons, List.map_cons, hk a b hb, ih hcs]

/-- The results of two loops in a row. -/
theorem mapM_append_eq_ok {ε β : Type} {f : α → Except ε β} {l l' : List α} {bs bs' : List β}
    (h : l.mapM f = .ok bs) (h' : l'.mapM f = .ok bs') : (l ++ l').mapM f = .ok (bs ++ bs') := by
  rw [mapM_eq_ok_iff] at h h' ⊢
  rw [List.map_append, List.map_append, h, h']

/-- The order of the elements only changes that of the results. -/
theorem mapM_perm {ε β : Type} {f : α → Except ε β} {l l' : List α} {bs bs' : List β}
    (h : l.mapM f = .ok bs) (h' : l'.mapM f = .ok bs') (hl : l.Perm l') : bs.Perm bs' := by
  have hmap := hl.map f
  rw [mapM_eq_ok_iff.mp h, mapM_eq_ok_iff.mp h'] at hmap
  exact (List.map_perm_map_iff fun _ _ => Except.ok.inj).mp hmap

theorem exists_mapM_of_forall {ε β : Type} {f : α → Except ε β} {R : α → β → Prop} {l : List α}
    (h : ∀ a ∈ l, ∃ b, f a = .ok b ∧ R a b) :
    ∃ bs, l.mapM f = .ok bs ∧ List.Forall₂ (fun a b => f a = .ok b ∧ R a b) l bs := by
  induction l with
  | nil => exact ⟨[], rfl, .nil⟩
  | cons a l ih =>
    obtain ⟨b, hb, hR⟩ := h a List.mem_cons_self
    obtain ⟨bs, hbs, hall⟩ := ih fun a ha => h a (List.mem_cons_of_mem _ ha)
    refine ⟨b :: bs, ?_, .cons ⟨hb, hR⟩ hall⟩
    rw [List.mapM_cons, hb, hbs]
    rfl

/-- What a loop returns, it returned for an element. -/
theorem exists_of_mem_mapM {ε β : Type} {f : α → Except ε β} {l : List α} {bs : List β}
    (h : l.mapM f = .ok bs) {b : β} (hb : b ∈ bs) : ∃ a ∈ l, f a = .ok b := by
  have hmem : (.ok b : Except ε β) ∈ bs.map .ok := List.mem_map_of_mem hb
  rw [← mapM_eq_ok_iff.mp h] at hmem
  exact List.mem_map.mp hmem

/-- A loop that does not fail does not fail on any element. -/
theorem exists_mem_of_mapM {ε β : Type} {f : α → Except ε β} {l : List α} {bs : List β}
    (h : l.mapM f = .ok bs) {a : α} (ha : a ∈ l) : ∃ b ∈ bs, f a = .ok b := by
  have hmem : f a ∈ l.map f := List.mem_map_of_mem ha
  rw [mapM_eq_ok_iff.mp h] at hmem
  obtain ⟨b, hb, hba⟩ := List.mem_map.mp hmem
  exact ⟨b, hb, hba.symm⟩

/-- Lists put one after the other keep their keys distinct, when a key tells the element of the loop
it comes from. -/
theorem nodup_flatten_of_mapM {ε β γ κ : Type} {f : α → Except ε (List β)} {l : List α}
    {bss : List (List β)} {g : α → γ} {o : β → γ} {k : β → κ} (h : l.mapM f = .ok bss)
    (hl : (l.map g).Nodup) (hk : ∀ x y, k x = k y → o x = o y)
    (hf : ∀ a bs, f a = .ok bs → (bs.map k).Nodup ∧ ∀ x ∈ bs, o x = g a) :
    (bss.flatten.map k).Nodup := by
  induction l generalizing bss with
  | nil =>
    obtain rfl : [] = bss := Except.ok.inj h
    exact List.nodup_nil
  | cons a l ih =>
    obtain ⟨hnot, hrest⟩ := List.nodup_cons.mp hl
    obtain ⟨bs, css, hbs, hcss, rfl⟩ := mapM_cons_eq_ok_iff.mp h
    obtain ⟨hnodup, horigine⟩ := hf a bs hbs
    rw [List.flatten_cons, List.map_append]
    refine List.nodup_append.mpr ⟨hnodup, ih hcss hrest, ?_⟩
    intro c hc c' hc' hcc'
    obtain ⟨x, hx, hxc⟩ := List.mem_map.mp hc
    obtain ⟨y, hy, hyc⟩ := List.mem_map.mp hc'
    obtain ⟨cs, hcs, hycs⟩ := List.mem_flatten.mp hy
    obtain ⟨a', ha', hfa'⟩ := exists_of_mem_mapM hcss hcs
    refine hnot ?_
    rw [← horigine x hx, hk x y ((hxc.trans hcc').trans hyc.symm), (hf a' cs hfa').2 y hycs]
    exact List.mem_map_of_mem ha'

/-- The first result that passes a test is that of the first element that passes it. -/
theorem find_mapM {ε β : Type} {f : α → Except ε β} {l : List α} {bs : List β}
    (h : l.mapM f = .ok bs) {p : α → Bool} {q : β → Bool} (hpq : ∀ a b, f a = .ok b → q b = p a) :
    bs.find? q = (l.find? p).bind fun a => (f a).toOption := by
  induction l generalizing bs with
  | nil =>
    obtain rfl : [] = bs := Except.ok.inj h
    rfl
  | cons a l ih =>
    obtain ⟨b, cs, hb, hcs, rfl⟩ := mapM_cons_eq_ok_iff.mp h
    rw [List.find?_cons, List.find?_cons, hpq a b hb, ih hcs]
    cases p a with
    | false => rfl
    | true => simp [hb, Except.toOption]

/-- A loop with only one error ends with it as soon as one element gives it. -/
theorem mapM_eq_ite {ε β : Type} {f : α → Except ε β} {c : α → Bool} {g : α → β} {e : ε}
    {l : List α} (h : ∀ a ∈ l, f a = if c a then .ok (g a) else .error e) :
    l.mapM f = if l.all c then .ok (l.map g) else .error e := by
  induction l with
  | nil => rfl
  | cons a l ih =>
    rw [List.mapM_cons, h a List.mem_cons_self, ih fun b hb => h b (List.mem_cons_of_mem a hb),
      List.all_cons]
    cases c a with
    | false => rfl
    | true =>
      rw [Bool.true_and]
      cases l.all c <;> rfl

theorem foldlM_eq_ok {ε β : Type} {f : β → α → Except ε β} {g : β → α → β} {l : List α}
    (h : ∀ b, ∀ a ∈ l, f b a = .ok (g b a)) (b : β) : l.foldlM f b = .ok (l.foldl g b) := by
  induction l generalizing b with
  | nil => rfl
  | cons a l ih =>
    rw [List.foldlM_cons, h b a List.mem_cons_self]
    exact ih (fun b a ha => h b a (List.mem_cons_of_mem _ ha)) (g b a)

theorem countP_forall₂ {β : Type} {R : α → β → Prop} {p : α → Bool} {q : β → Bool}
    (hR : ∀ a b, R a b → p a = q b) {l : List α} {bs : List β} (h : List.Forall₂ R l bs) :
    l.countP p = bs.countP q := by
  induction h with
  | nil => rfl
  | cons hab _ ih => rw [List.countP_cons, List.countP_cons, ih, hR _ _ hab]

/-- A part of a list that is as long as a larger one is the larger one. -/
theorem of_countP_eq {p q : α → Bool} {l : List α}
    (hpq : ∀ a ∈ l, p a = true → q a = true) (h : l.countP p = l.countP q) :
    ∀ a ∈ l, q a = true → p a = true := by
  induction l with
  | nil => exact fun a ha => absurd ha List.not_mem_nil
  | cons x l ih =>
    have hle : l.countP p ≤ l.countP q :=
      List.countP_mono_left fun a ha => hpq a (List.mem_cons_of_mem x ha)
    have hx := hpq x List.mem_cons_self
    rw [List.countP_cons, List.countP_cons] at h
    have hegal : l.countP p = l.countP q := by
      split_ifs at h with hp hq hq
      · omega
      · exact absurd (hx hp) hq
      · omega
      · exact h
    intro a ha hqa
    rcases List.mem_cons.mp ha with rfl | ha
    · by_contra hpa
      rw [hegal, if_neg hpa, if_pos hqa] at h
      omega
    · exact ih (fun a ha => hpq a (List.mem_cons_of_mem x ha)) hegal a ha hqa

/-- Elements counted under each key of a list without repetition are those whose key is listed. -/
theorem sum_countP_key [DecidableEq κ] {keys : List κ} (hkeys : keys.Nodup) (key : α → κ)
    (p : α → Bool) (l : List α) :
    (keys.map fun k => l.countP fun a => decide (key a = k) && p a).sum =
      l.countP fun a => decide (key a ∈ keys) && p a := by
  induction keys with
  | nil => simp
  | cons k keys ih =>
    obtain ⟨hk, hkeys⟩ := List.nodup_cons.mp hkeys
    rw [List.map_cons, List.sum_cons, ih hkeys]
    clear ih
    induction l with
    | nil => rfl
    | cons a l ih =>
      simp only [List.countP_cons]
      rw [← ih]
      by_cases ha : key a = k
      · subst ha
        simp [hk]
        omega
      · simp [ha]
        omega

/-! ## Numbers under keys -/

section Numbers

variable [DecidableEq κ]

/-- Add `c k` to the number under each key of a list, 0 if there is none. -/
def addCounts (c : κ → ℕ) (keys : List κ) (m : κ → Option ℕ) : κ → Option ℕ :=
  keys.foldl (fun m k => Function.update m k (some ((m k).getD 0 + c k))) m

theorem addCounts_append (c : κ → ℕ) (keys keys' : List κ) (m : κ → Option ℕ) :
    addCounts c (keys ++ keys') m = addCounts c keys' (addCounts c keys m) :=
  List.foldl_append

/-- Without repetition each key gets its own number; the keys still to come are the absent ones. -/
theorem addCounts_of_nodup {c : κ → ℕ} {keys : List κ} (hkeys : keys.Nodup) {m : κ → Option ℕ}
    (hm : ∀ k ∈ keys, m k = none) :
    addCounts c keys m = fun k => if k ∈ keys then some (c k) else m k := by
  induction keys generalizing m with
  | nil => simp [addCounts]
  | cons a keys ih =>
    obtain ⟨ha, hkeys⟩ := List.nodup_cons.mp hkeys
    have hcons : addCounts c (a :: keys) m =
        addCounts c keys (Function.update m a (some ((m a).getD 0 + c a))) := rfl
    have hreste : ∀ k ∈ keys, Function.update m a (some ((m a).getD 0 + c a)) k = none := by
      intro k hk
      have hne : k ≠ a := fun h => ha (h ▸ hk)
      rw [Function.update_of_ne hne]
      exact hm k (List.mem_cons_of_mem a hk)
    rw [hcons, ih hkeys hreste, hm a List.mem_cons_self]
    funext k
    by_cases hk : k = a
    · subst hk
      simp [ha]
    · simp [hk]

end Numbers

/-! ## Lists under keys -/

theorem eraseDups_eq_nil_iff [DecidableEq κ] {l : List κ} : l.eraseDups = [] ↔ l = [] := by
  cases l with
  | nil => exact iff_of_true rfl rfl
  | cons k l =>
    rw [List.eraseDups_cons]
    exact iff_of_false (List.cons_ne_nil _ _) (List.cons_ne_nil _ _)

theorem length_eraseDups_le [DecidableEq κ] (l : List κ) : l.eraseDups.length ≤ l.length := by
  induction hn : l.length using Nat.strong_induction_on generalizing l with
  | _ n ih =>
    subst hn
    cases l with
    | nil => exact Nat.le_refl 0
    | cons k l =>
      rw [List.eraseDups_cons, List.length_cons, List.length_cons]
      have hlen : (l.filter fun x => !x == k).length ≤ l.length := List.length_filter_le _ _
      have hdups := ih _ (Nat.lt_succ_of_le hlen) _ rfl
      omega

section Under

variable [DecidableEq κ] {β : Type}

theorem lookup_eq_find? (l : List (κ × β)) (k : κ) :
    l.lookup k = (l.find? fun x => x.1 = k).map Prod.snd := by
  induction l with
  | nil => rfl
  | cons x l ih =>
    rw [List.lookup_cons, List.find?_cons, ih]
    by_cases h : x.1 = k
    · simp [h]
    · have hk : (k == x.1) = false := beq_false_of_ne (Ne.symm h)
      simp [h, hk]

/-- Add `b` at the end of the list under `k`, a new one if there is none. -/
def addUnder (m : κ → Option (List β)) (k : κ) (b : β) : κ → Option (List β) :=
  Function.update m k (some ((m k).getD [] ++ [b]))

theorem getD_addUnder (m : κ → Option (List β)) (k : κ) (b : β) (k' : κ) :
    (addUnder m k b k').getD [] = (m k').getD [] ++ if k = k' then [b] else [] := by
  unfold addUnder
  by_cases h : k = k'
  · subst h
    rw [Function.update_self, Option.getD_some, if_pos rfl]
  · rw [Function.update_of_ne (Ne.symm h), if_neg h, List.append_nil]

/-- The list under `k` after a loop that adds at most one element a turn. -/
theorem getD_foldl_addUnder (f : α → Option (κ × β)) (l : List α) (m : κ → Option (List β))
    (k : κ) :
    (l.foldl (fun m a => ((f a).map fun x => addUnder m x.1 x.2).getD m) m k).getD [] =
      (m k).getD [] ++ l.filterMap fun a => (f a).bind fun x =>
        if x.1 = k then some x.2 else none := by
  induction l generalizing m with
  | nil => simp
  | cons a l ih =>
    rw [List.foldl_cons, ih]
    rcases hf : f a with _ | x
    · rw [List.filterMap_cons_none (by simp [hf])]
      rfl
    · rw [Option.map_some, Option.getD_some, getD_addUnder, List.append_assoc]
      by_cases hk : x.1 = k
      · rw [if_pos hk, List.filterMap_cons_some (b := x.2) (by simp [hf, hk])]
        rfl
      · rw [if_neg hk, List.filterMap_cons_none (by simp [hf, hk])]
        rfl

end Under

/-! ## Elements by key -/

/-- The elements of two exclusive kinds. -/
theorem filter_append_filter_perm {p q : α → Bool} {l : List α}
    (h : ∀ a ∈ l, p a = true → q a = false) :
    (l.filter p ++ l.filter q).Perm (l.filter fun a => p a || q a) := by
  induction l with
  | nil => exact .refl _
  | cons a l ih =>
    have hl := ih fun b hb => h b (List.mem_cons_of_mem a hb)
    by_cases hp : p a = true
    · have hq := h a List.mem_cons_self hp
      rw [List.filter_cons_of_pos hp, List.filter_cons_of_neg (by simp [hq]),
        List.filter_cons_of_pos (by simp [hp])]
      exact hl.cons a
    · by_cases hq : q a = true
      · rw [List.filter_cons_of_neg hp, List.filter_cons_of_pos hq,
          List.filter_cons_of_pos (by simp [hq])]
        exact List.perm_middle.trans (hl.cons a)
      · rw [List.filter_cons_of_neg hp, List.filter_cons_of_neg hq,
          List.filter_cons_of_neg (by simp [hp, hq])]
        exact hl

/-- One element of each key. -/
theorem flatMap_ite_key [DecidableEq κ] {β : Type} {key : α → κ} {f : α → β} {l : List α}
    (hl : (l.map key).Nodup) {a : α} (ha : a ∈ l) :
    (l.flatMap fun b => if key b = key a then [f b] else []) = [f a] := by
  induction l with
  | nil => cases ha
  | cons b l ih =>
    obtain ⟨hb, hl⟩ := List.nodup_cons.mp hl
    rw [List.flatMap_cons]
    rcases List.mem_cons.mp ha with rfl | ha
    · have hrest : ∀ c ∈ l, (if key c = key a then [f c] else []) = [] := by
        intro c hc
        refine if_neg fun heq => hb ?_
        rw [← heq]
        exact List.mem_map_of_mem hc
      rw [if_pos rfl, List.flatMap_eq_nil_iff.mpr hrest, List.append_nil]
    · have hne : key b ≠ key a := by
        intro heq
        rw [heq] at hb
        exact hb (List.mem_map_of_mem ha)
      rw [if_neg hne, List.nil_append, ih hl ha]

/-- The elements of each key of a list without repetition are those of all its keys. -/
theorem flatMap_filter_perm {keys : List κ} (hkeys : keys.Nodup) {p : κ → α → Bool} {l : List α}
    (h : ∀ a ∈ l, ∀ k ∈ keys, ∀ k' ∈ keys, p k a = true → p k' a = true → k = k') :
    (keys.flatMap fun k => l.filter (p k)).Perm (l.filter fun a => keys.any fun k => p k a) := by
  induction keys with
  | nil => simp
  | cons k keys ih =>
    obtain ⟨hk, hkeys⟩ := List.nodup_cons.mp hkeys
    have hsuite := ih hkeys fun a ha k₁ h₁ k₂ h₂ =>
      h a ha k₁ (List.mem_cons_of_mem k h₁) k₂ (List.mem_cons_of_mem k h₂)
    rw [List.flatMap_cons]
    refine (hsuite.append_left _).trans (filter_append_filter_perm fun a ha hp => ?_)
    rw [List.any_eq_false]
    intro k' hk' hp'
    exact hk (h a ha k List.mem_cons_self k' (List.mem_cons_of_mem k hk') hp hp' ▸ hk')

end Lib
