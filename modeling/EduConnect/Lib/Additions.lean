import EduConnect.Lib.Backend
import Mathlib.Data.List.Perm.Basic
import Mathlib.Data.List.Nodup

/-!
# Documents added to a collection

`Adds c l b b'`: between `b` and `b'` the collection `c` has gained the rows `l` and is otherwise as
it was.  Additions compose, and what a query returns gains the added rows that pass its filters.
-/

namespace Lib

variable {κ φ : Type}

/-- The collection `c` of `b'` is that of `b` with the rows `l` more. -/
def Adds (c : κ) (l : List (String × Doc φ)) (b b' : Data κ φ) : Prop :=
  (b'.docs c).rows.Perm ((b.docs c).rows ++ l)

namespace Adds

variable {c : κ} {l l' : List (String × Doc φ)} {b b₁ b' : Data κ φ}

/-- A collection that does not change. -/
theorem of_eq (h : b'.docs c = b.docs c) : Adds c [] b b' := by
  unfold Adds
  rw [h, List.append_nil]

theorem refl (c : κ) (b : Data κ φ) : Adds c [] b b := of_eq rfl

theorem trans (h : Adds c l b b₁) (h' : Adds c l' b₁ b') : Adds c (l ++ l') b b' := by
  have hrows := (List.Perm.trans h' (h.append_right l'))
  rwa [List.append_assoc] at hrows

theorem of_put {id : String} {d : Doc φ} (hnew : b.doc c id = none)
    (hput : b'.docs c = (b.docs c).put id d) : Adds c [(id, d)] b b' := by
  unfold Adds
  rw [hput]
  exact Table.rows_put_perm hnew d

variable (h : Adds c l b b')
include h

theorem doc_iff {id : String} {d : Doc φ} :
    b'.doc c id = some d ↔ b.doc c id = some d ∨ (id, d) ∈ l := by
  unfold Data.doc
  rw [Table.find_eq_some_iff, Table.find_eq_some_iff, List.Perm.mem_iff h, List.mem_append]

/-- The ids added are new, and no two are the same. -/
theorem keys_nodup : (((b.docs c).rows.map Prod.fst) ++ l.map Prod.fst).Nodup := by
  rw [← List.map_append]
  exact ((h.map Prod.fst).nodup_iff).mp (Table.keys_nodup (b'.docs c))

theorem nodup : l.Nodup :=
  List.Nodup.of_map Prod.fst (List.nodup_append.mp h.keys_nodup).2.1

theorem doc_eq_none {id : String} {d : Doc φ} (hmem : (id, d) ∈ l) : b.doc c id = none := by
  refine Table.find_eq_none_iff.mpr fun d' hd' => ?_
  have hdisjoint := (List.nodup_append.mp h.keys_nodup).2.2
  have hold : id ∈ (b.docs c).rows.map Prod.fst := List.mem_map_of_mem (f := Prod.fst) hd'
  have hnew : id ∈ l.map Prod.fst := List.mem_map_of_mem (f := Prod.fst) hmem
  exact hdisjoint id hold id hnew rfl

/-- The documents that were not there before. -/
theorem new_iff {id : String} {d : Doc φ} :
    b.doc c id = none ∧ b'.doc c id = some d ↔ (id, d) ∈ l := by
  constructor
  · rintro ⟨hnone, hsome⟩
    rcases h.doc_iff.mp hsome with hold | hnew
    · rw [hnone] at hold
      cases hold
    · exact hnew
  · intro hmem
    exact ⟨h.doc_eq_none hmem, h.doc_iff.mpr (Or.inr hmem)⟩

/-- The document of an id that was there before. -/
theorem doc_of_some {id : String} {d : Doc φ} (hd : b.doc c id = some d) : b'.doc c id = some d :=
  h.doc_iff.mpr (Or.inl hd)

/-- One document of a kind was added. -/
theorem countP_eq_one_iff (p : Doc φ → Bool) : l.countP (fun row => p row.2) = 1 ↔
    ∃! id, b.doc c id = none ∧ ∃ d, b'.doc c id = some d ∧ p d = true := by
  have hmem : ∀ id d, (id, d) ∈ l.filter (fun row => p row.2) ↔
      (b.doc c id = none ∧ b'.doc c id = some d) ∧ p d = true := fun id d => by
    rw [List.mem_filter, h.new_iff]
  rw [List.countP_eq_length_filter]
  constructor
  · intro hone
    obtain ⟨⟨id, d⟩, hrow⟩ := List.length_eq_one_iff.mp hone
    rw [hrow] at hmem
    obtain ⟨⟨hnone, hsome⟩, hp⟩ := (hmem id d).mp (List.mem_singleton_self _)
    refine ⟨id, ⟨hnone, d, hsome, hp⟩, ?_⟩
    rintro id' ⟨hnone', d', hsome', hp'⟩
    exact (Prod.mk.inj (List.mem_singleton.mp ((hmem id' d').mpr ⟨⟨hnone', hsome'⟩, hp'⟩))).1
  · rintro ⟨id, ⟨hnone, d, hsome, hp⟩, huniq⟩
    have hperm : (l.filter fun row => p row.2).Perm [(id, d)] := by
      refine (List.perm_ext_iff_of_nodup (h.nodup.filter _) (List.nodup_singleton _)).mpr ?_
      rintro ⟨id', d'⟩
      rw [hmem, List.mem_singleton]
      constructor
      · rintro ⟨⟨hnone', hsome'⟩, hp'⟩
        obtain rfl := huniq id' ⟨hnone', d', hsome', hp'⟩
        rw [Option.some.inj (hsome'.symm.trans hsome)]
      · intro hrow
        obtain ⟨rfl, rfl⟩ := Prod.mk.inj hrow
        exact ⟨⟨hnone, hsome⟩, hp⟩
    exact hperm.length_eq

/-! What queries return. -/

/-- Rows of a kind that was not added. -/
theorem filter_rows_eq {p : String × Doc φ → Bool} (hp : ∀ row ∈ l, p row = false) :
    (b'.docs c).rows.filter p = (b.docs c).rows.filter p := by
  have hsorted := (b.docs c).sorted.filter p
  refine Table.rows_eq_of_find ((b'.docs c).sorted.filter p) hsorted fun row => ?_
  rw [List.mem_filter, List.mem_filter, List.Perm.mem_iff h, List.mem_append, or_and_right]
  refine or_iff_left ?_
  rintro ⟨hrow, hpos⟩
  rw [hp row hrow] at hpos
  cases hpos

/-- A query that no added document passes. -/
theorem run_eq {q : Query φ} (hq : ∀ row ∈ l, q.filters.all (fun f => f.sat row.1 row.2) = false) :
    q.run (b'.docs c) = q.run (b.docs c) := by
  unfold Query.run
  rw [h.filter_rows_eq hq]

/-- An ordered query returns the added documents that pass its filters. -/
theorem run_perm {fs : List (Filter φ)} {f : φ} {desc : Bool} :
    ((⟨fs, some (f, desc), none⟩ : Query φ).run (b'.docs c)).Perm
      ((⟨fs, some (f, desc), none⟩ : Query φ).run (b.docs c) ++
        (l.filter fun row => fs.all fun g => g.sat row.1 row.2).filter fun row =>
          (row.2 f).isSome) := by
  refine (Query.run_orderBy_perm _).trans (.trans ?_ ((Query.run_orderBy_perm _).symm.append_right _))
  have hrows := List.Perm.filter (fun row => (row.2 f).isSome)
    (List.Perm.filter (fun row => fs.all fun g => g.sat row.1 row.2) h)
  rwa [List.filter_append, List.filter_append] at hrows

end Adds

variable [DecidableEq κ] [DecidableEq φ]

/-! A document added by the server, to its collection and to another. -/

theorem Server.docs_addDoc_ne (S : Server) {c c' : κ} (hc : c' ≠ c) (b : Data κ φ)
    (fs : List (φ × FieldOp φ)) : (S.addDoc c b fs).docs c' = b.docs c' := by
  unfold Server.addDoc
  rw [Data.issue_docs, Data.docs_putDoc_ne b hc]

theorem adds_addDoc (S : Server) (c : κ) (b : Data κ φ) (fs : List (φ × FieldOp φ)) :
    Adds c [(S.newDocId b c, newDoc b.clock fs)] b (S.addDoc c b fs) := by
  refine Adds.of_put (S.doc_newDocId b c) ?_
  simp [Server.addDoc, Data.putDoc]

@[simp] theorem Server.addDoc_clock (S : Server) (c : κ) (b : Data κ φ)
    (fs : List (φ × FieldOp φ)) : (S.addDoc c b fs).clock = b.clock := rfl

/-- Documents made of the elements of a list, each under the id of its element. -/
theorem exists_adds_of_map {α : Type} (S : Server) (c : κ) {l : List α} (hl : l.Nodup)
    (f : α → List (φ × FieldOp φ)) (b : Data κ φ) :
    ∃ key : α → String, Adds c (l.map fun a => (key a, newDoc b.clock (f a))) b
      ((l.map f).foldl (S.addDoc c) b) := by
  classical
  induction l generalizing b with
  | nil => exact ⟨fun _ => "", Adds.refl c b⟩
  | cons a l ih =>
    obtain ⟨ha, hl⟩ := List.nodup_cons.mp hl
    obtain ⟨key, hadds⟩ := ih hl (S.addDoc c b (f a))
    refine ⟨Function.update key a (S.newDocId b c), ?_⟩
    have htail : (l.map fun x => (Function.update key a (S.newDocId b c) x, newDoc b.clock (f x))) =
        l.map fun x => (key x, newDoc b.clock (f x)) := by
      refine List.map_congr_left fun x hx => ?_
      have hne : x ≠ a := fun h => ha (h ▸ hx)
      rw [Function.update_of_ne hne]
    rw [List.map_cons, htail, Function.update_self]
    exact (adds_addDoc S c b (f a)).trans hadds

end Lib
