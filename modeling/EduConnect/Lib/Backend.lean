import EduConnect.Lib.Table
import EduConnect.Lib.Text
import Mathlib.Data.String.Basic
import Mathlib.Data.List.Sort
import Mathlib.Algebra.Order.BigOperators.Group.List
import Mathlib.Logic.Function.Basic

/-!
# A document database with accounts and files

The part of Firestore, Firebase Auth and Appwrite storage that client code sees, over a type `κ` of
collections and a type `φ` of field names.  `Server.handler` answers a request: an update of a
missing document fails, a batch is applied as a whole or not at all, and a `whereIn` on no value or
on more than `maxIn` values is refused.  Ids given to new documents, accounts and files are not in
use, and a document's id is never given twice (`Server.fresh`).
-/

namespace Lib

/-! ## Documents -/

inductive Value (φ : Type) where
  | null
  | bool (b : Bool)
  | num (x : Double)
  | str (s : String)
  | stamp (t : ℤ)
  | list (l : List (Value φ))
  | map (m : φ → Option (Value φ))

/-- The fields of a document; an absent field is `none`. -/
abbrev Doc (φ : Type) := φ → Option (Value φ)

/-- Errors a client can meet. -/
inductive Err where
  | unavailable
  | notFound
  | invalidArgument
  | auth (code : String) (message : Option String)
  | type
  /-- A text that is not a number. -/
  | format (source : String)
  | exception (message : String)
  deriving DecidableEq

variable {κ φ : Type}

namespace Value

def isStr (s : String) : Value φ → Bool
  | str t => t = s
  | _ => false

/-- `v as String`. -/
def asStr : Value φ → Except Err String
  | str s => .ok s
  | _ => .error .type

/-- `v ?? d` used as a `String`. -/
def orStr (d : String) : Value φ → Except Err String
  | null => .ok d
  | v => v.asStr

/-- `v` used as a `String?`. -/
def optStr : Value φ → Except Err (Option String)
  | null => .ok none
  | v => v.asStr.map some

/-- `v ?? d` used as a `bool`. -/
def orBool (d : Bool) : Value φ → Except Err Bool
  | null => .ok d
  | bool b => .ok b
  | _ => .error .type

/-- `v ?? []` used as a `List<dynamic>`. -/
def orList : Value φ → Except Err (List (Value φ))
  | null => .ok []
  | list l => .ok l
  | _ => .error .type

/-- `List<String>.from(v)`. -/
def asStrs : Value φ → Except Err (List String)
  | list l => l.mapM asStr
  | _ => .error .type

/-- `v as bool`. -/
def asBool : Value φ → Except Err Bool
  | bool b => .ok b
  | _ => .error .type

/-- `v as Timestamp`. -/
def asStamp : Value φ → Except Err ℤ
  | stamp t => .ok t
  | _ => .error .type

/-- `v?.toDouble() ?? d`. -/
def orDouble (d : Double) : Value φ → Except Err Double
  | null => .ok d
  | num x => .ok x
  | _ => .error .type

/-- `v as Map<String, dynamic>`. -/
def asMap : Value φ → Except Err (φ → Option (Value φ))
  | map m => .ok m
  | _ => .error .type

/-- `v != null ? Map<String, dynamic>.from(v) : null`. -/
def optMap : Value φ → Except Err (Option (φ → Option (Value φ)))
  | null => .ok none
  | v => v.asMap.map some

/-- `List<String>.from(v ?? [])`. -/
def orStrs (v : Value φ) : Except Err (List String) := do (← v.orList).mapM asStr

/-- A list of strings as a field value. -/
def strs (l : List String) : Value φ := list (l.map str)

@[simp] theorem mapM_asStr_str (l : List String) :
    (l.map (str (φ := φ))).mapM asStr = Except.ok l := by
  induction l with
  | nil => rfl
  | cons a l ih => simp [List.mapM_cons, asStr, ih, bind, Except.bind, pure, Except.pure]

@[simp] theorem asStrs_strs (l : List String) : (strs l : Value φ).asStrs = .ok l :=
  mapM_asStr_str l

@[simp] theorem orStrs_strs (l : List String) : (strs l : Value φ).orStrs = .ok l :=
  mapM_asStr_str l

@[simp] theorem orStrs_null : (null : Value φ).orStrs = .ok [] := rfl

theorem isStr_iff {s : String} {v : Value φ} : v.isStr s = true ↔ v = .str s := by
  cases v <;> simp [isStr]

@[simp] theorem any_isStr_map_str (l : List String) (s : String) :
    (l.map (str (φ := φ))).any (isStr s) = decide (s ∈ l) := by
  induction l with
  | nil => rfl
  | cons a l ih =>
    rw [List.map_cons, List.any_cons, ih]
    simp [isStr, eq_comm]

/-- Values a query can compare with. -/
inductive Scalar where
  | bool (b : Bool)
  | str (s : String)
  deriving DecidableEq

def scalar : Value φ → Option Scalar
  | bool b => some (.bool b)
  | str s => some (.str s)
  | _ => none

def rank : Value φ → ℕ
  | null => 0
  | bool _ => 1
  | num _ => 2
  | stamp _ => 3
  | str _ => 4
  | list _ => 5
  | map _ => 6

/-- The order of `orderBy`: by type, then by value. -/
def le : Value φ → Value φ → Bool
  | bool a, bool b => !a || b
  | num a, num b => a = .nan || (b ≠ .nan && !b.lt a)
  | stamp a, stamp b => a ≤ b
  | str a, str b => a ≤ b
  | a, b => a.rank ≤ b.rank

end Value

namespace Doc

/-- `data['f']`. -/
def get (d : Doc φ) (f : φ) : Value φ := (d f).getD .null

/-- `doc['f']` on a snapshot, which throws on an absent field. -/
def field (d : Doc φ) (f : φ) : Except Err (Value φ) :=
  match d f with
  | some v => .ok v
  | none => .error .type

end Doc

theorem Doc.isStr_get_iff {d : Doc φ} {f : φ} {s : String} :
    (d.get f).isStr s = true ↔ d f = some (.str s) := by
  unfold Doc.get
  rcases d f with _ | v
  · simp [Value.isStr]
  · exact Value.isStr_iff.trans (by simp)

/-- A field read as a string; an absent or null field is no string. -/
theorem Doc.asStr_get_iff {d : Doc φ} {f : φ} {s : String} :
    (d.get f).asStr = .ok s ↔ d f = some (.str s) := by
  unfold Doc.get
  rcases d f with _ | v
  · exact iff_of_false nofun nofun
  · rw [Option.getD_some, Option.some.injEq]
    cases v with
    | str t => exact ⟨fun h => congrArg _ (Except.ok.inj h), fun h => congrArg _ (Value.str.inj h)⟩
    | _ => exact iff_of_false nofun nofun

/-- What a write puts in a field. -/
inductive FieldOp (φ : Type) where
  | put (v : Value φ)
  | serverTimestamp
  | arrayUnion (ids : List String)
  | arrayRemove (ids : List String)

/-- The elements of an array field; none if the field holds no array. -/
def arrayOf : Option (Value φ) → List (Value φ)
  | some (.list l) => l
  | _ => []

@[simp] theorem arrayOf_list (l : List (Value φ)) : arrayOf (some (.list l)) = l := rfl

/-- The strings in an array field. -/
def strsOf (v : Option (Value φ)) : List String :=
  (arrayOf v).filterMap fun
    | .str s => some s
    | _ => none

/-- A field read as a list, null standing for the empty one. -/
theorem arrayOf_of_orList {d : Doc φ} {f : φ} {l : List (Value φ)}
    (h : (d.get f).orList = .ok l) : arrayOf (d f) = l := by
  unfold Doc.get at h
  cases hd : d f with
  | none =>
    rw [hd] at h
    exact Except.ok.inj h
  | some v =>
    rw [hd] at h
    cases v <;> simp_all [Value.orList, arrayOf]

/-- A field read as a list of strings, null standing for the empty one. -/
theorem strsOf_of_orStrs {d : Doc φ} {f : φ} {ids : List String}
    (h : (d.get f).orStrs = .ok ids) : strsOf (d f) = ids := by
  unfold Value.orStrs at h
  rcases hl : (d.get f).orList with e | l
  · rw [hl] at h
    cases h
  rw [hl] at h
  unfold strsOf
  rw [arrayOf_of_orList hl]
  clear hl
  replace h : l.mapM Value.asStr = Except.ok ids := h
  induction l generalizing ids with
  | nil => exact Except.ok.inj h
  | cons v l ih =>
    rw [List.mapM_cons] at h
    cases v with
    | str s =>
      rcases hrest : l.mapM Value.asStr with e | rest
      · rw [hrest] at h
        cases h
      · rw [hrest] at h
        obtain rfl : s :: rest = ids := Except.ok.inj h
        exact congrArg (s :: ·) (ih hrest)
    | _ => cases h

@[simp] theorem strsOf_none : strsOf (none : Option (Value φ)) = [] := rfl

@[simp] theorem strsOf_strs (l : List String) : strsOf (some (Value.strs l : Value φ)) = l := by
  simp [strsOf, Value.strs, List.filterMap_map]

theorem mem_strsOf {v : Option (Value φ)} {s : String} :
    s ∈ strsOf v ↔ (arrayOf v).any (Value.isStr s) = true := by
  simp only [strsOf, List.mem_filterMap, List.any_eq_true]
  refine exists_congr fun x => and_congr_right fun _ => ?_
  cases x <;> simp [Value.isStr]

def FieldOp.eval (now : ℤ) (old : Option (Value φ)) : FieldOp φ → Value φ
  | put v => v
  | serverTimestamp => .stamp now
  | arrayUnion ids =>
    .list (ids.foldl (fun l s => if l.any (Value.isStr s) then l else l ++ [.str s]) (arrayOf old))
  | arrayRemove ids => .list ((arrayOf old).filter fun v => !ids.any fun s => v.isStr s)

/-- `arrayUnion` of one string adds it. -/
theorem mem_strsOf_arrayUnion {now : ℤ} {old : Option (Value φ)} {s t : String} :
    s ∈ strsOf (some ((FieldOp.arrayUnion [t]).eval now old)) ↔ s ∈ strsOf old ∨ s = t := by
  rw [mem_strsOf, mem_strsOf]
  by_cases ht : (arrayOf old).any (Value.isStr t) = true
  · simp only [FieldOp.eval, List.foldl_cons, List.foldl_nil, ht, if_true, arrayOf_list]
    exact ⟨Or.inl, fun h => h.elim id fun hst => hst ▸ ht⟩
  · simp only [FieldOp.eval, List.foldl_cons, List.foldl_nil, if_neg ht, arrayOf_list,
      List.any_append, Bool.or_eq_true]
    refine or_congr_right ?_
    simp only [List.any_cons, List.any_nil, Bool.or_false, Value.isStr, decide_eq_true_eq]
    exact eq_comm

/-- `arrayUnion` of one string on a list of strings. -/
theorem eval_arrayUnion_strs {now : ℤ} {l : List String} {t : String} :
    (FieldOp.arrayUnion [t]).eval now (some (Value.strs l : Value φ)) =
      .strs (if t ∈ l then l else l ++ [t]) := by
  rw [Value.strs, FieldOp.eval, arrayOf_list, List.foldl_cons, List.foldl_nil,
    Value.any_isStr_map_str]
  by_cases ht : t ∈ l
  · rw [if_pos (decide_eq_true ht), if_pos ht, Value.strs]
  · rw [if_neg (by simpa using ht), if_neg ht, Value.strs, List.map_append]
    rfl

/-- One `arrayUnion` after the other. -/
def arrayUnions (now : ℤ) (v : Option (Value φ)) (l : List String) : Option (Value φ) :=
  l.foldl (fun v s => some ((FieldOp.arrayUnion [s]).eval now v)) v

theorem mem_strsOf_arrayUnions {now : ℤ} {v : Option (Value φ)} {l : List String} {s : String} :
    s ∈ strsOf (arrayUnions now v l) ↔ s ∈ strsOf v ∨ s ∈ l := by
  induction l generalizing v with
  | nil => simp [arrayUnions]
  | cons t l ih =>
    show s ∈ strsOf (arrayUnions now _ l) ↔ _
    rw [ih, mem_strsOf_arrayUnion, List.mem_cons, or_assoc]

/-- `arrayRemove` of one string removes all its occurrences. -/
theorem mem_strsOf_arrayRemove {now : ℤ} {old : Option (Value φ)} {s t : String} :
    s ∈ strsOf (some ((FieldOp.arrayRemove [t]).eval now old)) ↔ s ∈ strsOf old ∧ s ≠ t := by
  rw [mem_strsOf, mem_strsOf]
  simp only [FieldOp.eval, arrayOf_list, List.any_eq_true, List.mem_filter]
  constructor
  · rintro ⟨v, ⟨hv, hne⟩, hs⟩
    refine ⟨⟨v, hv, hs⟩, ?_⟩
    rintro rfl
    simp [hs] at hne
  · rintro ⟨⟨v, hv, hs⟩, hne⟩
    refine ⟨v, ⟨hv, ?_⟩, hs⟩
    cases v <;> simp_all [Value.isStr]

section Doc

variable [DecidableEq φ]

/-- Apply the fields of a write to `d`. -/
def writeFields (now : ℤ) (d : Doc φ) (fs : List (φ × FieldOp φ)) : Doc φ :=
  fs.foldl (fun d f => Function.update d f.1 (some (f.2.eval now (d f.1)))) d

/-- The document with exactly the fields of `fs`. -/
def newDoc (now : ℤ) (fs : List (φ × FieldOp φ)) : Doc φ := writeFields now (fun _ => none) fs

@[simp] theorem writeFields_nil (now : ℤ) (d : Doc φ) : writeFields now d [] = d := rfl

@[simp] theorem writeFields_cons (now : ℤ) (d : Doc φ) (f : φ) (o : FieldOp φ)
    (fs : List (φ × FieldOp φ)) : writeFields now d ((f, o) :: fs) =
      writeFields now (Function.update d f (some (o.eval now (d f)))) fs := rfl

/-- A write leaves the fields it does not name as they were. -/
theorem writeFields_of_not_mem {now : ℤ} {d : Doc φ} {fs : List (φ × FieldOp φ)} {f : φ}
    (h : f ∉ fs.map Prod.fst) : writeFields now d fs f = d f := by
  induction fs generalizing d with
  | nil => rfl
  | cons a fs ih =>
    obtain ⟨g, o⟩ := a
    simp only [List.map_cons, List.mem_cons, not_or] at h
    rw [writeFields_cons, ih h.2, Function.update_of_ne h.1]

/-- The fields written last hide the others only where they name them. -/
theorem newDoc_append_of_not_mem {now : ℤ} {fs gs : List (φ × FieldOp φ)} {f : φ}
    (h : f ∉ gs.map Prod.fst) : newDoc now (fs ++ gs) f = newDoc now fs f := by
  unfold newDoc
  rw [show writeFields now (fun _ => none) (fs ++ gs) =
    writeFields now (writeFields now (fun _ => none) fs) gs from List.foldl_append]
  exact writeFields_of_not_mem h

end Doc

/-! ## Queries -/

inductive Filter (φ : Type) where
  | isEqualTo (f : φ) (v : Value.Scalar)
  | isNull (f : φ)
  | arrayContains (f : φ) (s : String)
  | whereIn (f : φ) (ids : List String)
  | idIn (ids : List String)

namespace Filter

/-- A document without the field matches no filter on it. -/
def sat (id : String) (d : Doc φ) : Filter φ → Bool
  | isEqualTo f v => (d f).bind Value.scalar = some v
  | isNull f => match d f with
    | some .null => true
    | _ => false
  | arrayContains f s => match d f with
    | some (.list l) => l.any (Value.isStr s)
    | _ => false
  | whereIn f ids => match d f with
    | some (.str s) => s ∈ ids
    | _ => false
  | idIn ids => id ∈ ids

theorem sat_isEqualTo_str {id : String} {d : Doc φ} {f : φ} {s : String} :
    (isEqualTo f (.str s)).sat id d = true ↔ d f = some (.str s) := by
  unfold sat
  rw [decide_eq_true_iff]
  rcases d f with _ | v
  · simp
  · cases v <;> simp [Value.scalar]

theorem sat_isEqualTo_bool {id : String} {d : Doc φ} {f : φ} {v : Bool} :
    (isEqualTo f (.bool v)).sat id d = true ↔ d f = some (.bool v) := by
  unfold sat
  rw [decide_eq_true_iff]
  rcases d f with _ | w
  · simp
  · cases w <;> simp [Value.scalar]

theorem sat_whereIn {id : String} {d : Doc φ} {f : φ} {ids : List String} :
    (whereIn f ids).sat id d = true ↔ ∃ s ∈ ids, d f = some (.str s) := by
  show (match d f with
    | some (.str s) => decide (s ∈ ids)
    | _ => false) = true ↔ _
  generalize d f = v
  rcases v with _ | v
  · simp
  · cases v <;> simp

theorem sat_idIn {id : String} {d : Doc φ} {ids : List String} :
    (idIn ids).sat id d = true ↔ id ∈ ids := decide_eq_true_iff

theorem sat_arrayContains {id : String} {d : Doc φ} {f : φ} {s : String} :
    (arrayContains f s).sat id d = true ↔ s ∈ strsOf (d f) := by
  rw [mem_strsOf]
  show (match d f with
    | some (.list l) => l.any (Value.isStr s)
    | _ => false) = true ↔ _
  generalize d f = v
  rcases v with _ | v
  · simp [arrayOf]
  · cases v <;> simp [arrayOf]

/-- The database refuses the filter. -/
def refused (maxIn : ℕ) : Filter φ → Bool
  | whereIn _ ids => ids = [] || maxIn < ids.length
  | idIn ids => ids = [] || maxIn < ids.length
  | _ => false

end Filter

structure Query (φ : Type) where
  filters : List (Filter φ)
  /-- The field to sort by, and whether in descending order. -/
  orderBy : Option (φ × Bool) := none
  limit : Option ℕ := none

namespace Query

/-- Rows sorted by field `f`, equal fields by id; rows without the field are left out. -/
def sortBy (f : φ) (desc : Bool) (rows : List (String × Doc φ)) : List (String × Doc φ) :=
  let asc := (rows.filter fun a => (a.2 f).isSome).insertionSort
    fun a b => (a.2.get f).le (b.2.get f) = true
  if desc then asc.reverse else asc

/-- The rows a query returns, in order. -/
def run (q : Query φ) (t : Table String (Doc φ)) : List (String × Doc φ) :=
  let rows := t.rows.filter fun a => q.filters.all fun c => c.sat a.1 a.2
  let rows := match q.orderBy with
    | some (f, desc) => sortBy f desc rows
    | none => rows
  match q.limit with
  | some n => rows.take n
  | none => rows

theorem mem_sortBy {f : φ} {desc : Bool} {rows : List (String × Doc φ)} {a : String × Doc φ} :
    a ∈ sortBy f desc rows ↔ a ∈ rows ∧ (a.2 f).isSome := by
  cases desc <;> simp [sortBy]

/-- An ordered query returns, in some order, the documents that pass its filters and have the
field. -/
theorem run_orderBy_perm {fs : List (Filter φ)} {f : φ} {desc : Bool} (t : Table String (Doc φ)) :
    ((⟨fs, some (f, desc), none⟩ : Query φ).run t).Perm
      ((t.rows.filter fun a => fs.all fun c => c.sat a.1 a.2).filter fun a => (a.2 f).isSome) := by
  show (sortBy f desc _).Perm _
  unfold sortBy
  cases desc
  · exact List.perm_insertionSort _ _
  · exact (List.reverse_perm _).trans (List.perm_insertionSort _ _)

/-- Whatever its order and limit, a query returns stored documents that pass its filters. -/
theorem of_mem_run {q : Query φ} {t : Table String (Doc φ)} {a : String × Doc φ}
    (h : a ∈ q.run t) : t.find a.1 = some a.2 ∧ ∀ c ∈ q.filters, c.sat a.1 a.2 = true := by
  have hrows : a ∈ t.rows.filter fun a => q.filters.all fun c => c.sat a.1 a.2 := by
    unfold run at h
    obtain ⟨fs, o, n⟩ := q
    rcases n with _ | n
    · rcases o with _ | ⟨f, desc⟩
      · exact h
      · exact (mem_sortBy.mp h).1
    · rcases o with _ | ⟨f, desc⟩
      · exact List.mem_of_mem_take h
      · exact (mem_sortBy.mp (List.mem_of_mem_take h)).1
  obtain ⟨hmem, hall⟩ := List.mem_filter.mp hrows
  exact ⟨Table.find_eq_some_iff.mpr hmem, List.all_eq_true.mp hall⟩

/-- Membership in an unlimited, unordered query. -/
theorem mem_run {fs : List (Filter φ)} {t : Table String (Doc φ)} {id : String} {d : Doc φ} :
    (id, d) ∈ (⟨fs, none, none⟩ : Query φ).run t ↔
      t.find id = some d ∧ ∀ c ∈ fs, c.sat id d = true := by
  simp [run, Table.find_eq_some_iff]

/-- The rows with a given text in a field. -/
theorem mem_run_isEqualTo {t : Table String (Doc φ)} {f : φ} {s id : String} {d : Doc φ} :
    (id, d) ∈ (⟨[.isEqualTo f (.str s)], none, none⟩ : Query φ).run t ↔
      t.find id = some d ∧ d f = some (.str s) := by
  rw [mem_run, List.forall_mem_singleton, Filter.sat_isEqualTo_str]

/-- An unlimited, unordered query returns each id once. -/
theorem keys_run_nodup (fs : List (Filter φ)) (t : Table String (Doc φ)) :
    (((⟨fs, none, none⟩ : Query φ).run t).map Prod.fst).Nodup :=
  t.keys_nodup.sublist (List.filter_sublist.map Prod.fst)

/-- A query on ids returns no more rows than ids. -/
theorem length_run_idIn_le (ids : List String) (t : Table String (Doc φ)) :
    ((⟨[.idIn ids], none, none⟩ : Query φ).run t).length ≤ ids.length := by
  have hsub : (((⟨[.idIn ids], none, none⟩ : Query φ).run t).map Prod.fst) ⊆ ids := by
    intro id hid
    obtain ⟨a, ha, rfl⟩ := List.mem_map.mp hid
    exact Filter.sat_idIn.mp ((of_mem_run ha).2 (.idIn ids) List.mem_cons_self)
  have hlen := (List.subperm_of_subset (keys_run_nodup [.idIn ids] t) hsub).length_le
  rwa [List.length_map] at hlen

/-- The row of an id in an unlimited, unordered query. -/
theorem find_run {fs : List (Filter φ)} {t : Table String (Doc φ)} {id : String} :
    ((⟨fs, none, none⟩ : Query φ).run t).find? (fun a => a.1 = id) =
      ((t.find id).filter fun d => fs.all fun c => c.sat id d).map fun d => (id, d) := by
  cases hf : ((⟨fs, none, none⟩ : Query φ).run t).find? fun a => decide (a.1 = id) with
  | some a =>
    obtain ⟨id', d⟩ := a
    have hid := List.find?_some hf
    obtain rfl : id' = id := by simpa using hid
    obtain ⟨hd, hsat⟩ := mem_run.mp (List.mem_of_find?_eq_some hf)
    rw [hd, Option.filter_some, if_pos (List.all_eq_true.mpr hsat)]
    rfl
  | none =>
    cases hd : t.find id with
    | none => rfl
    | some d =>
      have hsat : ¬(fs.all fun c => c.sat id d) = true := by
        intro hsat
        have hmem : (id, d) ∈ (⟨fs, none, none⟩ : Query φ).run t :=
          mem_run.mpr ⟨hd, List.all_eq_true.mp hsat⟩
        exact absurd (decide_eq_true rfl) (List.find?_eq_none.mp hf _ hmem)
      rw [Option.filter_some, if_neg hsat]
      rfl

/-- Where every document holds its id in the field `f`, the query for an id finds the document of
that id. -/
theorem run_premier_of_id {t : Table String (Doc φ)} {f : φ}
    (ht : ∀ id d, t.find id = some d → d f = some (.str id)) (u : String) :
    (⟨[.isEqualTo f (.str u)], none, some 1⟩ : Query φ).run t =
      ((t.find u).map fun d => (u, d)).toList := by
  let found : List (String × Doc φ) := ((t.find u).map fun d => (u, d)).toList
  have hsorted : SortedRows found := by
    show SortedRows ((t.find u).map fun d => (u, d)).toList
    rcases t.find u with _ | d
    · exact .nil
    · exact List.pairwise_singleton _ _
  have hrows : (t.rows.filter fun a =>
      [Filter.isEqualTo f (.str u)].all fun c => c.sat a.1 a.2) = found := by
    refine Table.rows_eq_of_find (t.sorted.filter _) hsorted fun a => ?_
    obtain ⟨id, d⟩ := a
    rw [List.mem_filter, List.all_cons, List.all_nil, Bool.and_true, ← Table.find_eq_some_iff,
      Filter.sat_isEqualTo_str, Option.mem_toList, Option.map_eq_some_iff]
    constructor
    · rintro ⟨hd, hf⟩
      have hid : some (Value.str id) = some (.str u) := (ht id d hd).symm.trans hf
      cases hid
      exact ⟨d, hd, rfl⟩
    · rintro ⟨d', hd', heq⟩
      cases heq
      exact ⟨hd', ht u d hd'⟩
  show List.take 1 (t.rows.filter _) = found
  rw [hrows]
  refine List.take_of_length_le ?_
  show ((t.find u).map fun d => (u, d)).toList.length ≤ 1
  rcases t.find u with _ | d <;> simp

/-- Membership in an ordered query: the field it sorts by must be there. -/
theorem mem_run_orderBy {fs : List (Filter φ)} {f : φ} {desc : Bool} {t : Table String (Doc φ)}
    {id : String} {d : Doc φ} : (id, d) ∈ (⟨fs, some (f, desc), none⟩ : Query φ).run t ↔
      t.find id = some d ∧ (∀ c ∈ fs, c.sat id d = true) ∧ (d f).isSome := by
  simp [run, mem_sortBy, Table.find_eq_some_iff, and_assoc]

end Query

/-! ## Requests and the server -/

inductive Write (κ φ : Type) where
  | set (c : κ) (id : String) (fs : List (φ × FieldOp φ))
  | update (c : κ) (id : String) (fs : List (φ × FieldOp φ))
  | delete (c : κ) (id : String)

inductive Req (κ φ : Type) where
  | get (c : κ) (id : String)
  | query (c : κ) (q : Query φ)
  | add (c : κ) (fs : List (φ × FieldOp φ))
  | write (w : Write κ φ)
  | commit (ws : List (Write κ φ))
  /-- A batch that sets new documents under ids it gives itself. -/
  | addAll (c : κ) (ds : List (List (φ × FieldOp φ)))
  | createUser (email password : String)
  | signIn (email password : String)
  | signOut
  | createFile (name : String)
  | deleteFile (id : String)
  /-- An await on something else than the backend, such as `Future.wait`. -/
  | pause
  /-- The user of the session, which the client knows by itself. -/
  | currentUser

/-- The answer to a request. -/
def Req.Ans : Req κ φ → Type
  | get _ _ => Option (Doc φ)
  | query _ _ => List (String × Doc φ)
  | add _ _ => String
  | write _ => Unit
  | commit _ => Unit
  | addAll _ _ => Unit
  | createUser _ _ => String
  | signIn _ _ => String
  | signOut => Unit
  | createFile _ => String
  | deleteFile _ => Unit
  | pause => Unit
  | currentUser => Option String

/-- What the backend stores. -/
structure Data (κ φ : Type) where
  docs : κ → Table String (Doc φ)
  /-- Email and password of each account. -/
  accounts : Table String (String × String) := Table.empty
  session : Option String := none
  files : Table String Unit := Table.empty
  clock : ℤ := 0
  /-- Ids given to documents so far, deleted ones included. -/
  issued : List String := []

namespace Data

def doc (b : Data κ φ) (c : κ) (id : String) : Option (Doc φ) := (b.docs c).find id

/-- Record that the id was given. -/
def issue (b : Data κ φ) (id : String) : Data κ φ := { b with issued := id :: b.issued }

@[simp] theorem issue_docs (b : Data κ φ) (id : String) : (b.issue id).docs = b.docs := rfl

@[simp] theorem doc_issue (b : Data κ φ) (c : κ) (id id' : String) :
    (b.issue id).doc c id' = b.doc c id' := rfl

@[simp] theorem issue_issued (b : Data κ φ) (id : String) :
    (b.issue id).issued = id :: b.issued := rfl

end Data

/-- The server: its limit on `whereIn`, and how it names what it creates. -/
structure Server where
  maxIn : ℕ
  fresh : List String → String
  fresh_not_mem : ∀ l, fresh l ∉ l

namespace Server

variable (S : Server)

/-- The id given to the next row of `t`. -/
def newId {δ : Type} (t : Table String δ) : String := S.fresh (t.rows.map Prod.fst)

theorem find_newId {δ : Type} (t : Table String δ) : t.find (S.newId t) = none :=
  Table.find_eq_none_iff.mpr fun _ hd =>
    S.fresh_not_mem _ (List.mem_map_of_mem (f := Prod.fst) hd)

/-- The id given to the next document of `c`. -/
def newDocId (b : Data κ φ) (c : κ) : String :=
  S.fresh ((b.docs c).rows.map Prod.fst ++ b.issued)

theorem doc_newDocId (b : Data κ φ) (c : κ) : b.doc c (S.newDocId b c) = none :=
  Table.find_eq_none_iff.mpr fun _ hd =>
    S.fresh_not_mem _ (List.mem_append_left _ (List.mem_map_of_mem (f := Prod.fst) hd))

theorem newDocId_not_mem_issued (b : Data κ φ) (c : κ) : S.newDocId b c ∉ b.issued :=
  fun h => S.fresh_not_mem _ (List.mem_append_right _ h)

end Server

section Data

variable [DecidableEq κ]

namespace Data

def putDoc (b : Data κ φ) (c : κ) (id : String) (d : Doc φ) : Data κ φ :=
  { b with docs := Function.update b.docs c ((b.docs c).put id d) }

def eraseDoc (b : Data κ φ) (c : κ) (id : String) : Data κ φ :=
  { b with docs := Function.update b.docs c ((b.docs c).erase id) }

@[simp] theorem putDoc_clock (b : Data κ φ) (c : κ) (id : String) (d : Doc φ) :
    (b.putDoc c id d).clock = b.clock := rfl

@[simp] theorem putDoc_accounts (b : Data κ φ) (c : κ) (id : String) (d : Doc φ) :
    (b.putDoc c id d).accounts = b.accounts := rfl

@[simp] theorem putDoc_issued (b : Data κ φ) (c : κ) (id : String) (d : Doc φ) :
    (b.putDoc c id d).issued = b.issued := rfl

@[simp] theorem eraseDoc_issued (b : Data κ φ) (c : κ) (id : String) :
    (b.eraseDoc c id).issued = b.issued := rfl

@[simp] theorem eraseDoc_clock (b : Data κ φ) (c : κ) (id : String) :
    (b.eraseDoc c id).clock = b.clock := rfl

@[simp] theorem eraseDoc_accounts (b : Data κ φ) (c : κ) (id : String) :
    (b.eraseDoc c id).accounts = b.accounts := rfl

theorem docs_putDoc_ne (b : Data κ φ) {c c' : κ} (h : c' ≠ c) (id : String) (d : Doc φ) :
    (b.putDoc c id d).docs c' = b.docs c' := by
  simp [putDoc, h]

theorem docs_eraseDoc_ne (b : Data κ φ) {c c' : κ} (h : c' ≠ c) (id : String) :
    (b.eraseDoc c id).docs c' = b.docs c' := by
  simp [eraseDoc, h]

theorem doc_putDoc (b : Data κ φ) (c c' : κ) (id id' : String) (d : Doc φ) :
    (b.putDoc c id d).doc c' id' = if c' = c ∧ id' = id then some d else b.doc c' id' := by
  by_cases hc : c' = c
  · subst hc
    by_cases hi : id' = id
    · subst hi; simp [doc, putDoc]
    · simp [doc, putDoc, hi]
  · simp [doc, docs_putDoc_ne b hc, hc]

theorem doc_eraseDoc (b : Data κ φ) (c c' : κ) (id id' : String) :
    (b.eraseDoc c id).doc c' id' = if c' = c ∧ id' = id then none else b.doc c' id' := by
  by_cases hc : c' = c
  · subst hc
    by_cases hi : id' = id
    · subst hi; simp [doc, eraseDoc]
    · simp [doc, eraseDoc, hi]
  · simp [doc, docs_eraseDoc_ne b hc, hc]

end Data

variable [DecidableEq φ]

/-- A write on the data, `none` when it is refused. -/
def Write.apply (b : Data κ φ) : Write κ φ → Option (Data κ φ)
  | set c id fs => some (b.putDoc c id (newDoc b.clock fs))
  | update c id fs => (b.doc c id).map fun d => b.putDoc c id (writeFields b.clock d fs)
  | delete c id => some (b.eraseDoc c id)

namespace Server

variable (S : Server)

/-- A document is added under a new id. -/
def addDoc (c : κ) (b : Data κ φ) (fs : List (φ × FieldOp φ)) : Data κ φ :=
  (b.putDoc c (S.newDocId b c) (newDoc b.clock fs)).issue (S.newDocId b c)

/-- The answer to a request and the data after it. -/
def handler : (r : Req κ φ) → Data κ φ → Except Err r.Ans × Data κ φ
  | .get c id, b => (.ok (b.doc c id), b)
  | .query c q, b =>
    if q.filters.any (Filter.refused S.maxIn) then (.error .invalidArgument, b)
    else (.ok (q.run (b.docs c)), b)
  | .add c fs, b => (.ok (S.newDocId b c), S.addDoc c b fs)
  | .write w, b =>
    match w.apply b with
    | some b' => (.ok (), b')
    | none => (.error .notFound, b)
  | .commit ws, b =>
    match ws.foldlM Write.apply b with
    | some b' => (.ok (), b')
    | none => (.error .notFound, b)
  | .addAll c ds, b => (.ok (), ds.foldl (S.addDoc c) b)
  | .createUser email password, b =>
    if b.accounts.rows.any fun a => a.2.1 = email then
      (.error (.auth "email-already-in-use" none), b)
    else if password.length < 6 then (.error (.auth "weak-password" none), b)
    else (.ok (S.newId b.accounts),
      { b with
        accounts := b.accounts.put (S.newId b.accounts) (email, password)
        session := some (S.newId b.accounts) })
  | .signIn email password, b =>
    match b.accounts.rows.find? fun a => a.2 = (email, password) with
    | some a => (.ok a.1, { b with session := some a.1 })
    | none => (.error (.auth "invalid-credential" none), b)
  | .signOut, b => (.ok (), { b with session := none })
  | .createFile _, b => (.ok (S.newId b.files), { b with files := b.files.put (S.newId b.files) () })
  | .deleteFile id, b =>
    match b.files.find id with
    | some _ => (.ok (), { b with files := b.files.erase id })
    | none => (.error .notFound, b)
  | .pause, b => (.ok (), b)
  | .currentUser, b => (.ok b.session, b)

/-- A server naming what it creates by a string longer than all names in use. -/
def longest (maxIn : ℕ) : Server where
  maxIn := maxIn
  fresh l := String.ofList (List.replicate ((l.map String.length).sum + 1) 'x')
  fresh_not_mem l h := by
    have := List.single_le_sum (l := l.map String.length) (by simp) _ (List.mem_map_of_mem h)
    simp at this

end Server

end Data

end Lib
