import EduConnect.Lib.Backend
import Mathlib.Order.WithBot

/-!
# Ordered queries

Sorting is stable, so the rows of an ordered query can be filtered before or after they are sorted
(`Query.run_orderBy_eq_filter`).  Values of all types are ordered, so the rows come in that order
(`Query.pairwise_run_desc`).
-/

namespace Lib

variable {α : Type}

/-! ## Insertion sort -/

section Stable

variable {r : α → α → Prop} [DecidableRel r]

theorem orderedInsert_of_forall {a : α} {l : List α} (h : ∀ b ∈ l, r a b) :
    l.orderedInsert r a = a :: l := by
  cases l with
  | nil => rfl
  | cons b l => exact List.orderedInsert_cons_of_le r l (h b List.mem_cons_self)

theorem filter_orderedInsert [IsTrans α r] {l : List α} (hl : l.Pairwise r) (a : α) (p : α → Bool) :
    (l.orderedInsert r a).filter p =
      if p a then (l.filter p).orderedInsert r a else l.filter p := by
  induction l with
  | nil =>
    by_cases ha : p a = true
    · simp [ha]
    · simp [ha]
  | cons b l ih =>
    obtain ⟨hb, hl⟩ := List.pairwise_cons.mp hl
    by_cases hab : r a b
    · rw [List.orderedInsert_cons_of_le r l hab, List.filter_cons]
      by_cases ha : p a = true
      · have hall : ∀ x ∈ (b :: l).filter p, r a x := by
          intro x hx
          rcases List.mem_cons.mp (List.mem_of_mem_filter hx) with rfl | hx
          · exact hab
          · exact IsTrans.trans a b x hab (hb x hx)
        rw [if_pos ha, if_pos ha, orderedInsert_of_forall hall]
      · rw [if_neg ha, if_neg ha]
    · rw [List.orderedInsert_of_not_le r l hab, List.filter_cons, ih hl, List.filter_cons]
      by_cases hpb : p b = true
      · rw [if_pos hpb, if_pos hpb]
        by_cases ha : p a = true
        · rw [if_pos ha, if_pos ha, List.orderedInsert_of_not_le r _ hab]
        · rw [if_neg ha, if_neg ha]
      · rw [if_neg hpb, if_neg hpb]

/-- Sorting is stable: it commutes with filtering. -/
theorem filter_insertionSort [IsTrans α r] [Std.Total r] (l : List α) (p : α → Bool) :
    (l.insertionSort r).filter p = (l.filter p).insertionSort r := by
  induction l with
  | nil => rfl
  | cons a l ih =>
    rw [List.insertionSort_cons, filter_orderedInsert (List.pairwise_insertionSort r l), ih,
      List.filter_cons]
    by_cases ha : p a = true
    · rw [if_pos ha, if_pos ha, List.insertionSort_cons]
    · rw [if_neg ha, if_neg ha]

/-- The same for a relation that compares keys, on the elements sorted. -/
theorem filter_insertionSort_key (key : α → ℤ) {l : List α}
    (hl : ∀ a ∈ l, ∀ b ∈ l, r a b ↔ key a ≤ key b) (p : α → Bool) :
    (l.insertionSort r).filter p = (l.filter p).insertionSort r := by
  let le : α → α → Prop := fun a b => key a ≤ key b
  have hsort : ∀ {m : List α}, m.Sublist l → m.insertionSort r = m.insertionSort le := by
    intro m hm
    have hmap := List.map_insertionSort r le id m fun a ha b hb =>
      hl a (hm.subset ha) b (hm.subset hb)
    rwa [List.map_id, List.map_id] at hmap
  have htrans : IsTrans α le := ⟨fun _ _ _ => le_trans⟩
  have htotal : Std.Total le := ⟨fun a b => le_total (key a) (key b)⟩
  rw [hsort (List.Sublist.refl l), hsort List.filter_sublist, filter_insertionSort]

end Stable

/-! ## Rows -/

variable {φ : Type}

/-- The stamp of a field, 0 when it has none. -/
def stampKey (f : φ) (a : String × Doc φ) : ℤ :=
  match a.2 f with
  | some (.stamp τ) => τ
  | _ => 0

/-- Where every document holds a time in the field `f`, sorting by `f` commutes with filters. -/
theorem Query.run_orderBy_eq_filter {t : Table String (Doc φ)} {f : φ}
    (ht : ∀ id d, t.find id = some d → ∃ τ, d f = some (.stamp τ)) (fs : List (Filter φ)) :
    (⟨fs, some (f, false), none⟩ : Query φ).run t =
      ((⟨[], some (f, false), none⟩ : Query φ).run t).filter
        fun a => fs.all fun c => c.sat a.1 a.2 := by
  have hstamp : ∀ a ∈ t.rows, ∃ τ, a.2 f = some (.stamp τ) := fun a ha =>
    ht a.1 a.2 (Table.find_eq_some_iff.mpr ha)
  have hsome : ∀ {l : List (String × Doc φ)}, l.Sublist t.rows →
      l.filter (fun a => (a.2 f).isSome) = l := by
    intro l hl
    refine List.filter_eq_self.mpr fun a ha => ?_
    obtain ⟨τ, hτ⟩ := hstamp a (hl.subset ha)
    rw [hτ]
    rfl
  have htrue : (t.rows.filter fun a => ([] : List (Filter φ)).all fun c => c.sat a.1 a.2) =
      t.rows := List.filter_eq_self.mpr fun _ _ => rfl
  show sortBy f false _ = (sortBy f false _).filter _
  rw [htrue]
  show ((t.rows.filter _).filter _).insertionSort _ = ((t.rows.filter _).insertionSort _).filter _
  rw [hsome List.filter_sublist, hsome (List.Sublist.refl _)]
  refine (filter_insertionSort_key (stampKey f) (fun a ha b hb => ?_) _).symm
  obtain ⟨τ, hτ⟩ := hstamp a ha
  obtain ⟨τ', hτ'⟩ := hstamp b hb
  simp only [stampKey, Doc.get, hτ, hτ', Option.getD_some, Value.le, decide_eq_true_eq]

/-! ## The order of values -/

/-- A double by its place in the order of `orderBy`: NaN comes first, the two zeros are one. -/
def Double.place : Double → WithBot (WithBot (WithTop ℚ))
  | .nan => ⊥
  | .infinity true => ((⊥ : WithBot (WithTop ℚ)) : WithBot (WithBot (WithTop ℚ)))
  | .infinity false => (((⊤ : WithTop ℚ) : WithBot (WithTop ℚ)) : WithBot (WithBot (WithTop ℚ)))
  | .negZero => ((((0 : ℚ) : WithTop ℚ) : WithBot (WithTop ℚ)) : WithBot (WithBot (WithTop ℚ)))
  | .finite q => (((q : WithTop ℚ) : WithBot (WithTop ℚ)) : WithBot (WithBot (WithTop ℚ)))

namespace Value

theorem num_le_iff {x y : Double} :
    (Value.num x : Value φ).le (.num y) = true ↔ x.place ≤ y.place := by
  rcases x with _ | (_ | _) | _ | a <;> rcases y with _ | (_ | _) | _ | b <;>
    simp only [le, Double.lt, Double.place] <;> generalize (0 : ℚ) = z <;>
    simp [WithBot.coe_le_coe, WithTop.coe_le_coe]

/-- Values of different types are ordered by type. -/
theorem rank_le_of_le {a b : Value φ} (h : a.le b = true) : a.rank ≤ b.rank := by
  cases a <;> cases b <;> first | exact le_rfl | exact of_decide_eq_true h

theorem le_of_rank_lt {a b : Value φ} (h : a.rank < b.rank) : a.le b = true := by
  cases a <;> cases b <;> first | exact absurd h (lt_irrefl _) | exact decide_eq_true h.le

theorem total_le (a b : Value φ) : a.le b = true ∨ b.le a = true := by
  rcases lt_trichotomy a.rank b.rank with hlt | heq | hlt
  · exact Or.inl (le_of_rank_lt hlt)
  · cases a <;> cases b <;> cases heq
    case bool.bool.refl x y => cases x <;> cases y <;> simp [le]
    case num.num.refl x y => simpa only [num_le_iff] using le_total x.place y.place
    case stamp.stamp.refl s t => simpa [le] using le_total s t
    case str.str.refl s t => simpa [le] using le_total s t
    all_goals exact Or.inl rfl
  · exact Or.inr (le_of_rank_lt hlt)

theorem trans_le {a b c : Value φ} (hab : a.le b = true) (hbc : b.le c = true) :
    a.le c = true := by
  have hrab := rank_le_of_le hab
  have hrbc := rank_le_of_le hbc
  rcases Nat.lt_or_ge a.rank c.rank with hlt | hge
  · exact le_of_rank_lt hlt
  · have hb : a.rank = b.rank := by omega
    have hc : a.rank = c.rank := by omega
    cases a <;> cases b <;> cases hb
    all_goals cases c <;> cases hc
    case bool.bool.refl.bool.refl x y z => cases x <;> cases y <;> cases z <;> simp_all [le]
    case num.num.refl.num.refl x y z =>
      rw [num_le_iff] at hab hbc ⊢
      exact hab.trans hbc
    case stamp.stamp.refl.stamp.refl s t u =>
      simp only [le, decide_eq_true_eq] at hab hbc ⊢
      omega
    case str.str.refl.str.refl s t u =>
      simp only [le, decide_eq_true_eq] at hab hbc ⊢
      exact hab.trans hbc
    all_goals rfl
end Value

/-- The rows of a query in descending order. -/
theorem Query.pairwise_run_desc (fs : List (Filter φ)) (f : φ) (t : Table String (Doc φ)) :
    ((⟨fs, some (f, true), none⟩ : Query φ).run t).Pairwise
      fun a b => (b.2.get f).le (a.2.get f) = true := by
  let r : String × Doc φ → String × Doc φ → Prop := fun a b => (a.2.get f).le (b.2.get f) = true
  have htrans : IsTrans (String × Doc φ) r := ⟨fun _ _ _ => Value.trans_le⟩
  have htotal : Std.Total r := ⟨fun a b => Value.total_le (a.2.get f) (b.2.get f)⟩
  show ((List.insertionSort r _).reverse).Pairwise _
  rw [List.pairwise_reverse]
  exact List.pairwise_insertionSort r _

/-- Documents that come later go between the rows of an ordered query. -/
theorem Query.run_desc_eq_filter {t t' : Table String (Doc φ)}
    (ht : ∀ id d, t.find id = some d → t'.find id = some d) (fs : List (Filter φ)) (f : φ) :
    (⟨fs, some (f, true), none⟩ : Query φ).run t =
      ((⟨fs, some (f, true), none⟩ : Query φ).run t').filter fun a => (t.find a.1).isSome := by
  let r : String × Doc φ → String × Doc φ → Prop := fun a b => (a.2.get f).le (b.2.get f) = true
  have htrans : IsTrans (String × Doc φ) r := ⟨fun _ _ _ => Value.trans_le⟩
  have htotal : Std.Total r := ⟨fun a b => Value.total_le (a.2.get f) (b.2.get f)⟩
  have hrows : t'.rows.filter (fun a => (t.find a.1).isSome) = t.rows := by
    refine Table.rows_eq_of_find (t'.sorted.filter _) t.sorted fun ⟨id, d⟩ => ?_
    rw [List.mem_filter, ← Table.find_eq_some_iff, ← Table.find_eq_some_iff]
    constructor
    · rintro ⟨hd, hsome⟩
      obtain ⟨e, he⟩ := Option.isSome_iff_exists.mp hsome
      obtain rfl := Option.some.inj (hd.symm.trans (ht id e he))
      exact he
    · exact fun hd => ⟨ht id d hd, Option.isSome_of_eq_some hd⟩
  show (List.insertionSort r _).reverse = ((List.insertionSort r _).reverse).filter _
  rw [List.filter_reverse, filter_insertionSort, ← hrows]
  refine congrArg (fun l => (List.insertionSort r l).reverse) ?_
  simp only [List.filter_filter]
  refine List.filter_congr fun a _ => ?_
  rw [← Bool.and_assoc, Bool.and_comm]

end Lib
