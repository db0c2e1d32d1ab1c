import EduConnect.Lib.Sorted
import EduConnect.Lib.Lots
import EduConnect.Lib.Atomic

/-!
# Repositories

A repository keeps the models of several kinds, each under its id (`World`), in the collections of a
document database; `Codec` says how one kind is written and read.  The rules of this file say what
the operations of a repository do to the world, whatever is stored: `Puts`, `Changes`, `Removes`,
`Adds`, `Finds`, `Lists` and `First`.  The requests of the database keep `Shows`, which links the
two, and answer as the rules say.
-/

namespace Lib

variable {κ φ E : Type} {M : E → Type}

/-- How models of one kind are kept in a collection. -/
structure Codec (κ φ M : Type) where
  coll : κ
  fields : M → List (φ × FieldOp φ)
  read : Doc φ → String → Except Err M
  /-- The model as it is read again. -/
  stored : String → M → M

/-- The fields say all that is read, whatever they are written on. -/
def Codec.Lawful [DecidableEq φ] {M : Type} (C : Codec κ φ M) : Prop :=
  ∀ now d id m, C.read (writeFields now d (C.fields m)) id = .ok (C.stored id m)

/-! ## The world -/

/-- The models of each kind, by id. -/
abbrev World (M : E → Type) : Type := (e : E) → String → Option (M e)

/-- `o` in the place of the model `id`. -/
def World.put [DecidableEq E] (w : World M) (e : E) (id : String) (o : Option (M e)) : World M :=
  Function.update w e (Function.update (w e) id o)

/-- The database shows the world. -/
def World.Shows (Γ : (e : E) → Codec κ φ (M e)) (w : World M) (b : Data κ φ) : Prop :=
  ∀ e id, (b.doc (Γ e).coll id).map (fun d => (Γ e).read d id) = (w e id).map .ok

/-- An order of a list is one of what is read from it. -/
theorem pairwise_of_mapM {ε α β : Type} {f : α → Except ε β} {r : α → α → Prop} {r' : β → β → Prop}
    {l : List α} {bs : List β} (hbs : l.mapM f = .ok bs) (hl : l.Pairwise r)
    (hr : ∀ a a' b b', r a a' → f a = .ok b → f a' = .ok b' → r' b b') : bs.Pairwise r' := by
  induction l generalizing bs with
  | nil =>
    obtain rfl := Except.ok.inj hbs
    exact .nil
  | cons a l ih =>
    obtain ⟨b, bs', hb, hbs', rfl⟩ := mapM_cons_eq_ok_iff.mp hbs
    obtain ⟨ha, hl⟩ := List.pairwise_cons.mp hl
    refine List.pairwise_cons.mpr ⟨fun b' hb' => ?_, ih hbs' hl⟩
    obtain ⟨a', ha', hval⟩ := exists_of_mem_mapM hbs' hb'
    exact hr a a' b b' (ha a' ha') hb hval

namespace World

/-! ### What operations do -/

section Rules

variable {e : E} {id : String} {α : Type} {w w' : World M}

/-- An operation fails with `x` and changes nothing. -/
def Fails (x : Err) (w : World M) (o : Except Err α) (w' : World M) : Prop := o = .error x ∧ w' = w

/-- What is thrown when a document is not reached: `doc` refuses an empty id. -/
def unreached (id : String) : Err := if id = "" then .invalidArgument else .unavailable

theorem fails_lost (hid : id ≠ "") (w : World M) :
    Fails (unreached id) w (.error .unavailable : Except Err α) w := by
  rw [unreached, if_neg hid]
  exact ⟨rfl, rfl⟩

theorem fails_empty (w : World M) : Fails (unreached "") w (.error .invalidArgument : Except Err α) w :=
  ⟨rfl, rfl⟩

/-- The model is stored under the id. -/
def Puts [DecidableEq E] (e : E) (id : String) (m : M e) (w : World M) (o : Except Err Unit)
    (w' : World M) : Prop :=
  (id ≠ "" ∧ o = .ok () ∧ w' = w.put e id (some m)) ∨ Fails (unreached id) w o w'

/-- The model takes the place of the one that is there. -/
def Changes [DecidableEq E] (e : E) (id : String) (m : M e) (w : World M) (o : Except Err Unit)
    (w' : World M) : Prop :=
  (id ≠ "" ∧ (w e id).isSome ∧ o = .ok () ∧ w' = w.put e id (some m)) ∨
    (id ≠ "" ∧ w e id = none ∧ Fails .notFound w o w') ∨ Fails (unreached id) w o w'

/-- There is no model of that id any more. -/
def Removes [DecidableEq E] (e : E) (id : String) (w : World M) (o : Except Err Unit)
    (w' : World M) : Prop :=
  (id ≠ "" ∧ o = .ok () ∧ w' = w.put e id none) ∨ Fails (unreached id) w o w'

/-- The model is stored under an id that no other has. -/
def Adds [DecidableEq E] (e : E) (m : String → M e) (w : World M) (o : Except Err String)
    (w' : World M) : Prop :=
  (∃ id, w e id = none ∧ o = .ok id ∧ w' = w.put e id (some (m id))) ∨ Fails .unavailable w o w'

/-- The model of that id, if there is one. -/
def Finds (e : E) (id : String) (w : World M) (o : Except Err (Option (M e))) (w' : World M) :
    Prop :=
  (id ≠ "" ∧ o = .ok (w e id) ∧ w' = w) ∨ Fails (unreached id) w o w'

/-- `ms` are models with `may`, each once, all those with `must` among them. -/
structure Selection (w : World M) (e : E) (must may : M e → Prop) (ids : List String)
    (ms : List (M e)) : Prop where
  found : ids.map (w e) = ms.map some
  nodup : ids.Nodup
  sound : ∀ m ∈ ms, may m
  full : ∀ id m, w e id = some m → must m → id ∈ ids

/-- The models that are asked for, in the order `le`. -/
def Lists (e : E) (must may : M e → Prop) (le : M e → M e → Prop) (w : World M)
    (o : Except Err (List (M e))) (w' : World M) : Prop :=
  (∃ ids ms, Selection w e must may ids ms ∧ ms.Pairwise le ∧ o = .ok ms ∧ w' = w) ∨
    Fails .unavailable w o w'

/-- One of the models that are asked for, if there is one. -/
def First (e : E) (must may : M e → Prop) (w : World M) (o : Except Err (Option (M e)))
    (w' : World M) : Prop :=
  (∃ r, o = .ok r ∧ (∀ m ∈ r, may m ∧ ∃ id, w e id = some m) ∧
    (r = none → ∀ id m, w e id = some m → ¬must m) ∧ w' = w) ∨ Fails .unavailable w o w'

end Rules

/-! ### What the database shows -/

section Documents

variable {Γ : (e : E) → Codec κ φ (M e)} {w : World M} {b : Data κ φ} {e : E} {id : String}

theorem Shows.isSome (hb : w.Shows Γ b) : (b.doc (Γ e).coll id).isSome = (w e id).isSome := by
  have h := congrArg Option.isSome (hb e id)
  rwa [Option.isSome_map, Option.isSome_map] at h

/-- The model of a document. -/
theorem Shows.of_doc (hb : w.Shows Γ b) {d : Doc φ} (hd : b.doc (Γ e).coll id = some d) :
    ∃ m, (Γ e).read d id = .ok m ∧ w e id = some m := by
  have h := hb e id
  rw [hd] at h
  obtain ⟨m, hm, heq⟩ := Option.map_eq_some_iff.mp h.symm
  exact ⟨m, heq.symm, hm⟩

theorem Shows.eq_none (hb : w.Shows Γ b) (hd : b.doc (Γ e).coll id = none) : w e id = none := by
  have h : (b.doc (Γ e).coll id).isSome = (w e id).isSome := hb.isSome
  rw [hd, Option.isSome_none] at h
  exact Option.not_isSome_iff_eq_none.mp (Bool.eq_false_iff.mp h.symm)

/-- The document of a model. -/
theorem Shows.of_model (hb : w.Shows Γ b) {m : M e} (hm : w e id = some m) :
    ∃ d, b.doc (Γ e).coll id = some d ∧ (Γ e).read d id = .ok m := by
  have h := hb e id
  rw [hm] at h
  exact Option.map_eq_some_iff.mp h

/-- A document is read as the model of its id. -/
theorem Shows.read_doc (hb : w.Shows Γ b) (id : String) :
    (b.doc (Γ e).coll id).elim (.ok none) (fun d => ((Γ e).read d id).map some) = .ok (w e id) := by
  cases hd : b.doc (Γ e).coll id with
  | none =>
    rw [hb.eq_none hd]
    rfl
  | some d =>
    obtain ⟨m, hread, hm⟩ := hb.of_doc hd
    rw [hm, Option.elim_some, hread]
    rfl

/-- The models of the rows of a query. -/
theorem Shows.selection (hb : w.Shows Γ b) {rows : List (String × Doc φ)}
    {Q : String → Doc φ → Prop} {must may : M e → Prop}
    (hrows : ∀ id d, (id, d) ∈ rows ↔ b.doc (Γ e).coll id = some d ∧ Q id d)
    (hnodup : (rows.map Prod.fst).Nodup)
    (hmay : ∀ id d m, (Γ e).read d id = .ok m → Q id d → may m)
    (hmust : ∀ id d m, (Γ e).read d id = .ok m → must m → Q id d) :
    ∃ ms, (rows.mapM fun doc => (Γ e).read doc.2 doc.1) = .ok ms ∧
      Selection w e must may (rows.map Prod.fst) ms := by
  have hread : ∀ doc ∈ rows, ∃ m, (Γ e).read doc.2 doc.1 = .ok m ∧ w e doc.1 = some m :=
    fun doc hdoc => hb.of_doc ((hrows doc.1 doc.2).mp hdoc).1
  obtain ⟨ms, hms, hall⟩ := exists_mapM_of_forall hread
  refine ⟨ms, hms, ?_, hnodup, fun m hm => ?_, fun id m hw hm => ?_⟩
  · have hmap : List.Forall₂ (fun x y => x = y) ((rows.map Prod.fst).map (w e)) (ms.map some) := by
      rw [List.map_map]
      exact List.forall₂_map_left_iff.mpr (List.forall₂_map_right_iff.mpr
        (hall.imp fun _ _ h => h.2))
    rwa [List.forall₂_eq_eq_eq] at hmap
  · obtain ⟨doc, hdoc, hval⟩ := exists_of_mem_mapM hms hm
    exact hmay _ _ _ hval ((hrows doc.1 doc.2).mp hdoc).2
  · obtain ⟨d, hd, hval⟩ := hb.of_model hw
    exact List.mem_map_of_mem (f := Prod.fst) ((hrows id d).mpr ⟨hd, hmust id d m hval hm⟩)

end Documents

/-! ### What requests do -/

section Requests

variable [DecidableEq κ] [DecidableEq E] {Γ : (e : E) → Codec κ φ (M e)} {w : World M}
  {b b' : Data κ φ} {e : E} {id : String}

/-- One document is changed, and the model of its id with it. -/
theorem Shows.put (hb : w.Shows Γ b) (hcoll : ∀ e', (Γ e').coll = (Γ e).coll → e' = e)
    {d : Option (Doc φ)} {o : Option (M e)}
    (hdoc : ∀ c id', b'.doc c id' = if c = (Γ e).coll ∧ id' = id then d else b.doc c id')
    (ho : d.map (fun d => (Γ e).read d id) = o.map .ok) : (w.put e id o).Shows Γ b' := by
  intro e' id'
  rw [hdoc]
  unfold World.put
  by_cases he : e' = e
  · subst he
    rw [Function.update_self]
    by_cases hid : id' = id
    · subst hid
      rw [if_pos ⟨rfl, rfl⟩, Function.update_self]
      exact ho
    · rw [if_neg fun h => hid h.2, Function.update_of_ne hid]
      exact hb e' id'
  · rw [if_neg fun h => he (hcoll _ h.1), Function.update_of_ne he]
    exact hb e' id'

/-- Each kind has a collection of its own, and what is written is read again. -/
structure Kept [DecidableEq φ] (Γ : (e : E) → Codec κ φ (M e)) : Prop where
  coll : ∀ e e', (Γ e').coll = (Γ e).coll → e' = e
  lawful : ∀ e, (Γ e).Lawful

variable [DecidableEq φ] {S : Server} {Λ σ : Type} {l : Λ} {m : M e}

theorem atomic_set (hΓ : Kept Γ) (hid : id ≠ "") :
    (Prog.call l (Req.write (.set (Γ e).coll id ((Γ e).fields m))) :
      Prog Λ (Req κ φ) Req.Ans Err σ Unit).Atomic S.handler .unavailable (Shows Γ)
      (Puts e id ((Γ e).stored id m)) := by
  refine Prog.atomic_call (r := (.write (.set (Γ e).coll id ((Γ e).fields m)) : Req κ φ))
    (fun w b hb => ⟨_, .inl ⟨hid, rfl, rfl⟩, ?_⟩) fun w => .inr (fails_lost hid w)
  exact hb.put (hΓ.coll e) (fun c id' => Data.doc_putDoc ..) (congrArg some (hΓ.lawful e _ _ _ _))

theorem atomic_update (hΓ : Kept Γ) (hid : id ≠ "") :
    (Prog.call l (Req.write (.update (Γ e).coll id ((Γ e).fields m))) :
      Prog Λ (Req κ φ) Req.Ans Err σ Unit).Atomic S.handler .unavailable (Shows Γ)
      (Changes e id ((Γ e).stored id m)) := by
  refine Prog.atomic_call (r := (.write (.update (Γ e).coll id ((Γ e).fields m)) : Req κ φ))
    (fun w b hb => ?_) fun w => .inr (.inr (fails_lost hid w))
  cases hd : b.doc (Γ e).coll id with
  | none =>
    have hreq : S.handler (.write (.update (Γ e).coll id ((Γ e).fields m))) b =
        (.error .notFound, b) := by
      simp only [Server.handler, Write.apply, hd, Option.map_none]
    rw [hreq]
    exact ⟨w, .inr (.inl ⟨hid, hb.eq_none hd, rfl, rfl⟩), hb⟩
  | some d =>
    obtain ⟨m', -, hm'⟩ := hb.of_doc hd
    have hreq : S.handler (.write (.update (Γ e).coll id ((Γ e).fields m))) b =
        (.ok (), b.putDoc (Γ e).coll id (writeFields b.clock d ((Γ e).fields m))) := by
      simp only [Server.handler, Write.apply, hd, Option.map_some]
    rw [hreq]
    refine ⟨_, .inl ⟨hid, Option.isSome_of_eq_some hm', rfl, rfl⟩, ?_⟩
    exact hb.put (hΓ.coll e) (fun c id' => Data.doc_putDoc ..)
      (congrArg some (hΓ.lawful e _ _ _ _))

theorem atomic_delete (hΓ : Kept Γ) (hid : id ≠ "") :
    (Prog.call l (Req.write (.delete (Γ e).coll id)) :
      Prog Λ (Req κ φ) Req.Ans Err σ Unit).Atomic S.handler .unavailable (Shows Γ)
      (Removes e id) := by
  refine Prog.atomic_call (r := (.write (.delete (Γ e).coll id) : Req κ φ))
    (fun w b hb => ⟨_, .inl ⟨hid, rfl, rfl⟩, ?_⟩) fun w => .inr (fails_lost hid w)
  exact hb.put (hΓ.coll e) (fun c id' => Data.doc_eraseDoc ..) rfl

theorem atomic_add (hΓ : Kept Γ) :
    (Prog.call l (Req.add (Γ e).coll ((Γ e).fields m)) :
      Prog Λ (Req κ φ) Req.Ans Err σ String).Atomic S.handler .unavailable (Shows Γ)
      (Adds e fun id => (Γ e).stored id m) := by
  refine Prog.atomic_call (r := (.add (Γ e).coll ((Γ e).fields m) : Req κ φ))
    (fun w b hb => ⟨_, .inl ⟨S.newDocId b (Γ e).coll, ?_, rfl, rfl⟩, ?_⟩) fun w => .inr ⟨rfl, rfl⟩
  · exact hb.eq_none (S.doc_newDocId b (Γ e).coll)
  · exact hb.put (hΓ.coll e) (fun c id' => Data.doc_putDoc ..)
      (congrArg some (hΓ.lawful e _ _ _ _))

omit [DecidableEq E] in
/-- A document is read, and its model is returned. -/
theorem atomic_get (hid : id ≠ "") :
    ((Prog.call l (Req.get (Γ e).coll id) :
      Prog Λ (Req κ φ) Req.Ans Err σ (Option (Doc φ))).bind fun doc =>
        Prog.ofExcept (doc.elim (.ok none) fun d => ((Γ e).read d id).map some)).Atomic
      S.handler .unavailable (Shows Γ) (Finds e id) := by
  let found : World M → Except Err (Option (Doc φ)) → World M → Prop := fun w o w' =>
    (∃ d, o = .ok d ∧ d.elim (.ok none) (fun d => ((Γ e).read d id).map some) = .ok (w e id) ∧
      w' = w) ∨ Fails .unavailable w o w'
  have hcall : (Prog.call l (Req.get (Γ e).coll id) :
      Prog Λ (Req κ φ) Req.Ans Err σ (Option (Doc φ))).Atomic S.handler .unavailable (Shows Γ)
      found :=
    Prog.atomic_call (r := (.get (Γ e).coll id : Req κ φ))
      (fun w b hb => ⟨w, .inl ⟨_, rfl, hb.read_doc id, rfl⟩, hb⟩) fun w => .inr ⟨rfl, rfl⟩
  refine hcall.bind (fun doc => rfl) ?_
  rintro w o w' (⟨d, rfl, hd, rfl⟩ | ⟨rfl, rfl⟩)
  · exact .inl ⟨hid, hd, rfl⟩
  · exact .inr (fails_lost hid w')

end Requests

/-! ### What queries do -/

section Queries

variable [DecidableEq κ] [DecidableEq φ] {Γ : (e : E) → Codec κ φ (M e)} {e : E} {S : Server}
  {Λ σ γ : Type} {l : Λ} {fs : List (Filter φ)} {must may : M e → Prop}

/-- The filters find models with `may`, and all those with `must`; they are never refused. -/
structure Finding {M : Type} (C : Codec κ φ M) (fs : List (Filter φ)) (must may : M → Prop) :
    Prop where
  sound : ∀ id d m, C.read d id = .ok m → (∀ f ∈ fs, f.sat id d = true) → may m
  full : ∀ id d m, C.read d id = .ok m → must m → ∀ f ∈ fs, f.sat id d = true
  accepted : ∀ n, fs.any (Filter.refused n) = false

/-- Something is worked out from the rows of a query. -/
theorem atomic_rows {q : Query φ} {g : List (String × Doc φ) → Except Err γ}
    {P : World M → Except Err γ → World M → Prop}
    (hq : ∀ n, q.filters.any (Filter.refused n) = false)
    (hrows : ∀ w b, w.Shows Γ b → P w (g (q.run (b.docs (Γ e).coll))) w)
    (hlost : ∀ w, P w (.error .unavailable) w) :
    ((Prog.call l (Req.query (Γ e).coll q) :
      Prog Λ (Req κ φ) Req.Ans Err σ (List (String × Doc φ))).bind fun rows =>
        Prog.ofExcept (g rows)).Atomic S.handler .unavailable (Shows Γ) P := by
  let served : World M → Except Err (List (String × Doc φ)) → World M → Prop := fun w o w' =>
    P w (o.bind g) w' ∧ w' = w
  have hcall : (Prog.call l (Req.query (Γ e).coll q) :
      Prog Λ (Req κ φ) Req.Ans Err σ (List (String × Doc φ))).Atomic S.handler .unavailable
      (Shows Γ) served := by
    refine Prog.atomic_call (r := (.query (Γ e).coll q : Req κ φ)) (fun w b hb => ⟨w, ?_⟩)
      fun w => ⟨hlost w, rfl⟩
    have hreq : S.handler (.query (Γ e).coll q) b = (.ok (q.run (b.docs (Γ e).coll)), b) := by
      simp only [Server.handler, hq, Bool.false_eq_true, if_false]
    rw [hreq]
    exact ⟨⟨hrows w b hb, rfl⟩, hb⟩
  exact hcall.bind (fun rows => rfl) fun w o w' h => h.1

theorem atomic_query (hfs : Finding (Γ e) fs must may) :
    ((Prog.call l (Req.query (Γ e).coll ⟨fs, none, none⟩) :
      Prog Λ (Req κ φ) Req.Ans Err σ (List (String × Doc φ))).bind fun rows =>
        Prog.ofExcept (rows.mapM fun doc => (Γ e).read doc.2 doc.1)).Atomic
      S.handler .unavailable (Shows Γ) (Lists e must may fun _ _ => True) := by
  refine atomic_rows hfs.accepted (fun w b hb => ?_) fun w => .inr ⟨rfl, rfl⟩
  obtain ⟨ms, hms, hsel⟩ := hb.selection (fun id d => Query.mem_run)
    (Query.keys_run_nodup fs (b.docs (Γ e).coll)) hfs.sound hfs.full
  exact .inl ⟨_, ms, hsel, List.pairwise_of_forall fun _ _ => trivial, hms, rfl⟩

/-- A query in descending order of the stamp `key`. -/
theorem atomic_query_desc {f : φ} {key : M e → ℤ} (hfs : Finding (Γ e) fs must may)
    (hkey : ∀ id d m, (Γ e).read d id = .ok m → d f = some (.stamp (key m))) :
    ((Prog.call l (Req.query (Γ e).coll ⟨fs, some (f, true), none⟩) :
      Prog Λ (Req κ φ) Req.Ans Err σ (List (String × Doc φ))).bind fun rows =>
        Prog.ofExcept (rows.mapM fun doc => (Γ e).read doc.2 doc.1)).Atomic
      S.handler .unavailable (Shows Γ) (Lists e must may fun m m' => key m' ≤ key m) := by
  refine atomic_rows hfs.accepted (fun w b hb => ?_) fun w => .inr ⟨rfl, rfl⟩
  have hnodup : (((⟨fs, some (f, true), none⟩ : Query φ).run (b.docs (Γ e).coll)).map
      Prod.fst).Nodup := by
    refine ((Query.run_orderBy_perm _).map Prod.fst).nodup_iff.mpr ?_
    exact (b.docs (Γ e).coll).keys_nodup.sublist
      ((List.filter_sublist.trans List.filter_sublist).map Prod.fst)
  obtain ⟨ms, hms, hsel⟩ := hb.selection
    (Q := fun id d => (∀ c ∈ fs, c.sat id d = true) ∧ (d f).isSome)
    (fun id d => Query.mem_run_orderBy) hnodup (fun id d m hm hQ => hfs.sound id d m hm hQ.1)
    fun id d m hm hmust => ⟨hfs.full id d m hm hmust, by rw [hkey id d m hm]; rfl⟩
  refine .inl ⟨_, ms, hsel, ?_, hms, rfl⟩
  refine pairwise_of_mapM hms (Query.pairwise_run_desc fs f _) fun a a' m m' hle ha ha' => ?_
  rw [Doc.get, Doc.get, hkey _ _ _ ha, hkey _ _ _ ha'] at hle
  exact of_decide_eq_true hle

/-- A query for one document. -/
theorem atomic_first (hfs : Finding (Γ e) fs must may) :
    ((Prog.call l (Req.query (Γ e).coll ⟨fs, none, some 1⟩) :
      Prog Λ (Req κ φ) Req.Ans Err σ (List (String × Doc φ))).bind fun rows =>
        Prog.ofExcept (rows.head?.elim (.ok none) fun doc =>
          ((Γ e).read doc.2 doc.1).map some)).Atomic
      S.handler .unavailable (Shows Γ) (First e must may) := by
  refine atomic_rows hfs.accepted (fun w b hb => ?_) fun w => .inr ⟨rfl, rfl⟩
  have hrows : (⟨fs, none, some 1⟩ : Query φ).run (b.docs (Γ e).coll) =
      ((⟨fs, none, none⟩ : Query φ).run (b.docs (Γ e).coll)).take 1 := rfl
  rw [hrows, List.head?_take, if_neg one_ne_zero]
  cases hh : ((⟨fs, none, none⟩ : Query φ).run (b.docs (Γ e).coll)).head? with
  | none =>
    refine .inl ⟨none, rfl, fun m hm => absurd hm (by simp), fun _ id m hw hm => ?_, rfl⟩
    obtain ⟨d, hd, hval⟩ := hb.of_model hw
    have hmem := Query.mem_run.mpr ⟨hd, hfs.full id d m hval hm⟩
    rw [List.head?_eq_none_iff.mp hh] at hmem
    exact List.not_mem_nil hmem
  | some doc =>
    obtain ⟨hd, hsat⟩ := Query.of_mem_run (List.mem_of_mem_head? hh)
    obtain ⟨m, hval, hw⟩ := hb.of_doc hd
    refine .inl ⟨some m, ?_, ?_, fun h => absurd h (Option.some_ne_none m), rfl⟩
    · rw [Option.elim_some, hval]
      rfl
    · rintro m' hm'
      obtain rfl := Option.some.inj hm'
      exact ⟨hfs.sound _ _ _ hval hsat, _, hw⟩

end Queries

end World

end Lib
