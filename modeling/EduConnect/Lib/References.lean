import EduConnect.Lib.Stored

/-!
# References between documents

`refs c d` are the references of a document `d` of the collection `c`: the collection they point
into and the value that should name a document there.  A store is `Closed` when all of them do.
Requests that only send references to documents that are there (`Req.Links`) keep a store closed;
`closed_eraseDocs_iff` says which documents can be erased.
-/

namespace Lib

variable {κ φ : Type}

/-- A reference: where it points, and what it holds. -/
abbrev Ref (κ φ : Type) := κ × Value φ

/-- The reference names a stored document. -/
def Ref.Names (b : Data κ φ) (r : Ref κ φ) : Prop :=
  match r.2 with
  | .str id => (b.doc r.1 id).isSome = true
  | _ => False

instance (b : Data κ φ) : (r : Ref κ φ) → Decidable (r.Names b)
  | (c, .str id) => inferInstanceAs (Decidable ((b.doc c id).isSome = true))
  | (_, .null) | (_, .bool _) | (_, .num _) | (_, .stamp _) | (_, .list _) | (_, .map _) =>
    inferInstanceAs (Decidable False)

theorem Ref.names_str {b : Data κ φ} {c : κ} {id : String} :
    Ref.Names b (c, .str id) ↔ (b.doc c id).isSome = true := Iff.rfl

/-- The reference is to the document `x`. -/
def Ref.To (r : Ref κ φ) (x : κ × String) : Prop := r.1 = x.1 ∧ r.2.isStr x.2 = true

/-- What is stored in `b` is still stored in `b'`. -/
def Extends (b b' : Data κ φ) : Prop := ∀ c id, (b.doc c id).isSome = true → (b'.doc c id).isSome = true

theorem Extends.refl (b : Data κ φ) : Extends b b := fun _ _ h => h

theorem Extends.trans {b b₁ b' : Data κ φ} (h : Extends b b₁) (h' : Extends b₁ b') : Extends b b' :=
  fun c id hd => h' c id (h c id hd)

theorem Ref.Names.extends {b b' : Data κ φ} (h : Extends b b') {r : Ref κ φ} (hr : r.Names b) :
    r.Names b' := by
  obtain ⟨c, v⟩ := r
  cases v with
  | str id => exact h c id hr
  | _ => exact hr.elim

/-- Every reference of a stored document names a stored document. -/
def Closed (refs : κ → Doc φ → List (Ref κ φ)) (b : Data κ φ) : Prop :=
  ∀ c id d, b.doc c id = some d → ∀ r ∈ refs c d, r.Names b

/-- Nothing but the documents `xs` refers to one of them. -/
def Unreferenced (refs : κ → Doc φ → List (Ref κ φ)) (xs : List (κ × String)) (b : Data κ φ) :
    Prop :=
  ∀ c id d, (c, id) ∉ xs → b.doc c id = some d → ∀ r ∈ refs c d, ∀ x ∈ xs, ¬r.To x

variable {refs : κ → Doc φ → List (Ref κ φ)} {b b' b₀ : Data κ φ}

theorem Closed.congr (hb : Closed refs b) (h : b'.docs = b.docs) : Closed refs b' := by
  have hdoc : ∀ c id, b'.doc c id = b.doc c id := fun c id => by rw [Data.doc, h, Data.doc]
  intro c id d hd r hr
  rw [hdoc] at hd
  exact (hb c id d hd r hr).extends fun c id h => by rwa [hdoc]

/-- The store is closed and has grown out of `b₀`. -/
structure Grown (refs : κ → Doc φ → List (Ref κ φ)) (b₀ b : Data κ φ) : Prop where
  closed : Closed refs b
  grows : Extends b₀ b

theorem Grown.refl (hb : Closed refs b) : Grown refs b b := ⟨hb, .refl b⟩

theorem Grown.trans {b₁ : Data κ φ} (h : Grown refs b₀ b₁) (h' : Grown refs b₁ b) :
    Grown refs b₀ b := ⟨h'.closed, h.grows.trans h'.grows⟩

theorem Grown.congr (h : Grown refs b₀ b) (hdocs : b'.docs = b.docs) : Grown refs b₀ b' :=
  ⟨h.closed.congr hdocs, fun c id hd => by
    rw [Data.doc, hdocs]
    exact h.grows c id hd⟩

section Store

variable [DecidableEq κ]

theorem Extends.putDoc (b : Data κ φ) (c : κ) (id : String) (d : Doc φ) :
    Extends b (b.putDoc c id d) := by
  intro c' id' h
  rw [Data.doc_putDoc]
  split_ifs
  · rfl
  · exact h

theorem isSome_putDoc (b : Data κ φ) (c : κ) (id : String) (d : Doc φ) :
    ((b.putDoc c id d).doc c id).isSome = true := by
  rw [Data.doc_putDoc, if_pos ⟨rfl, rfl⟩]
  rfl

/-- A document is put whose references name stored documents. -/
theorem Closed.putDoc (hb : Closed refs b) {c : κ} {id : String} {d : Doc φ}
    (hd : ∀ r ∈ refs c d, r.Names b) : Closed refs (b.putDoc c id d) := by
  have hext := Extends.putDoc b c id d
  intro c' id' d' hd' r hr
  rw [Data.doc_putDoc] at hd'
  by_cases h : c' = c ∧ id' = id
  · rw [if_pos h] at hd'
    obtain rfl := Option.some.inj hd'
    exact (hd r (h.1 ▸ hr)).extends hext
  · rw [if_neg h] at hd'
    exact (hb c' id' d' hd' r hr).extends hext

theorem Grown.putDoc (h : Grown refs b₀ b) {c : κ} {id : String} {d : Doc φ}
    (hd : ∀ r ∈ refs c d, r.Names b) : Grown refs b₀ (b.putDoc c id d) :=
  ⟨h.closed.putDoc hd, h.grows.trans (.putDoc b c id d)⟩

/-- The documents `xs` are erased. -/
def Data.eraseDocs (b : Data κ φ) (xs : List (κ × String)) : Data κ φ :=
  xs.foldl (fun b x => b.eraseDoc x.1 x.2) b

theorem doc_eraseDocs (b : Data κ φ) (xs : List (κ × String)) (c : κ) (id : String) :
    (b.eraseDocs xs).doc c id = if (c, id) ∈ xs then none else b.doc c id := by
  induction xs generalizing b with
  | nil => rfl
  | cons x xs ih =>
    show ((b.eraseDoc x.1 x.2).eraseDocs xs).doc c id = _
    rw [ih, Data.doc_eraseDoc]
    by_cases hxs : (c, id) ∈ xs
    · rw [if_pos hxs, if_pos (List.mem_cons_of_mem x hxs)]
    · rw [if_neg hxs]
      by_cases hx : c = x.1 ∧ id = x.2
      · have hmem : (c, id) ∈ x :: xs := by
          rw [hx.1, hx.2]
          exact List.mem_cons_self
        rw [if_pos hx, if_pos hmem]
      · have hnot : (c, id) ∉ x :: xs := by
          rintro hmem
          rcases List.mem_cons.mp hmem with rfl | hmem
          · exact hx ⟨rfl, rfl⟩
          · exact hxs hmem
        rw [if_neg hx, if_neg hnot]

/-- A test of `Unreferenced`, which looks into the collections `cs`. -/
def unreferenced (refs : κ → Doc φ → List (Ref κ φ)) (cs : List κ) (xs : List (κ × String))
    (b : Data κ φ) : Bool :=
  cs.all fun c => (b.docs c).rows.all fun row => decide ((c, row.1) ∈ xs) ||
    (refs c row.2).all fun r => xs.all fun x => !(decide (r.1 = x.1) && r.2.isStr x.2)

/-- The test is enough where the other collections have no references. -/
theorem unreferenced_of_test {cs : List κ} {xs : List (κ × String)}
    (hcs : ∀ c d, c ∉ cs → refs c d = []) (h : unreferenced refs cs xs b = true) :
    Unreferenced refs xs b := by
  intro c id d hnot hd r hr x hx hto
  by_cases hc : c ∈ cs
  · have hrow := List.all_eq_true.mp (List.all_eq_true.mp h c hc) (id, d)
      (Table.find_eq_some_iff.mp hd)
    rw [Bool.or_eq_true, decide_eq_true_eq] at hrow
    have hall := List.all_eq_true.mp (hrow.resolve_left hnot) r hr
    have hne := List.all_eq_true.mp hall x hx
    rw [hto.1, hto.2, decide_eq_true rfl] at hne
    cases hne
  · rw [hcs c d hc] at hr
    cases hr

/-- **Documents can be erased exactly if nothing else refers to them.** -/
theorem closed_eraseDocs_iff (hb : Closed refs b) (xs : List (κ × String)) :
    Closed refs (b.eraseDocs xs) ↔ Unreferenced refs xs b := by
  constructor
  · intro h c id d hnot hd r hr x hx hto
    have hd' : (b.eraseDocs xs).doc c id = some d := by rw [doc_eraseDocs, if_neg hnot, hd]
    have hnames := h c id d hd' r hr
    obtain ⟨c', v⟩ := r
    obtain ⟨rfl, hv⟩ := hto
    cases v with
    | str id' =>
      obtain rfl : id' = x.2 := of_decide_eq_true hv
      rw [Ref.names_str, doc_eraseDocs, if_pos hx] at hnames
      cases hnames
    | _ => exact hnames
  · intro h c id d hd r hr
    rw [doc_eraseDocs] at hd
    by_cases hnot : (c, id) ∈ xs
    · rw [if_pos hnot] at hd
      cases hd
    · rw [if_neg hnot] at hd
      have hnames := hb c id d hd r hr
      obtain ⟨c', v⟩ := r
      cases v with
      | str id' =>
        have hkept : (c', id') ∉ xs := fun hx =>
          h c id d hnot hd _ hr _ hx ⟨rfl, decide_eq_true rfl⟩
        rw [Ref.names_str, doc_eraseDocs, if_neg hkept]
        exact hnames
      | _ => exact hnames

end Store

/-! ## Requests that link to what is there -/

section Requests

variable [DecidableEq κ] [DecidableEq φ]

/-- The write only adds references to documents of `b₀`. -/
def Write.Links (refs : κ → Doc φ → List (Ref κ φ)) (b₀ : Data κ φ) : Write κ φ → Prop
  | set c _ fs => ∀ now, ∀ r ∈ refs c (newDoc now fs), r.Names b₀
  | update c _ fs => ∀ now d, ∀ r ∈ refs c (writeFields now d fs), r ∈ refs c d ∨ r.Names b₀
  | delete _ _ => False

/-- The request only adds references to documents of `b₀`. -/
def Req.Links (refs : κ → Doc φ → List (Ref κ φ)) (b₀ : Data κ φ) : Req κ φ → Prop
  | add c fs => ∀ now, ∀ r ∈ refs c (newDoc now fs), r.Names b₀
  | write w => w.Links refs b₀
  | commit ws => ∀ w ∈ ws, w.Links refs b₀
  | addAll c ds => ∀ fs ∈ ds, ∀ now, ∀ r ∈ refs c (newDoc now fs), r.Names b₀
  | _ => True

theorem Grown.addDoc (h : Grown refs b₀ b) {S : Server} {c : κ} {fs : List (φ × FieldOp φ)}
    (hfs : ∀ r ∈ refs c (newDoc b.clock fs), r.Names b) : Grown refs b₀ (S.addDoc c b fs) := by
  have hput : Grown refs b₀ (b.putDoc c (S.newDocId b c) (newDoc b.clock fs)) := h.putDoc hfs
  exact hput.congr rfl

/-- One write. -/
theorem Grown.apply (h : Grown refs b₀ b) {w : Write κ φ} (hw : w.Links refs b₀)
    (hb' : w.apply b = some b') : Grown refs b₀ b' := by
  cases w with
  | set c id fs =>
    obtain rfl := Option.some.inj hb'
    exact h.putDoc fun r hr => (hw b.clock r hr).extends h.grows
  | update c id fs =>
    obtain ⟨d, hd, rfl⟩ := Option.map_eq_some_iff.mp hb'
    refine h.putDoc fun r hr => ?_
    rcases hw b.clock d r hr with hold | hnew
    · exact h.closed c id d hd r hold
    · exact hnew.extends h.grows
  | delete c id => exact hw.elim

/-- A batch. -/
theorem Grown.foldlM_apply (h : Grown refs b₀ b) {ws : List (Write κ φ)}
    (hws : ∀ w ∈ ws, w.Links refs b₀) (hb' : ws.foldlM Write.apply b = some b') :
    Grown refs b₀ b' := by
  induction ws generalizing b with
  | nil =>
    obtain rfl := Option.some.inj hb'
    exact h
  | cons w ws ih =>
    rw [List.foldlM_cons] at hb'
    obtain ⟨b₁, hb₁, hb'⟩ := Option.bind_eq_some_iff.mp hb'
    have hfirst := h.apply (hws w List.mem_cons_self) hb₁
    exact ih hfirst (fun w' hw' => hws w' (List.mem_cons_of_mem w hw')) hb'

/-- **A request that links to what is there keeps the store closed.** -/
theorem Grown.handler (h : Grown refs b₀ b) {S : Server} {r : Req κ φ} (hr : r.Links refs b₀) :
    Grown refs b₀ (S.handler r b).2 := by
  cases r with
  | query c q =>
    simp only [Server.handler]
    split_ifs <;> exact h
  | add c fs => exact h.addDoc fun r hr' => (hr b.clock r hr').extends h.grows
  | write w =>
    simp only [Server.handler]
    cases hw : w.apply b with
    | none => exact h
    | some b' => exact h.apply hr hw
  | commit ws =>
    simp only [Server.handler]
    cases hws : ws.foldlM Write.apply b with
    | none => exact h
    | some b' => exact h.foldlM_apply hr hws
  | addAll c ds =>
    simp only [Server.handler]
    induction ds generalizing b with
    | nil => exact h
    | cons fs ds ih =>
      refine ih (h.addDoc fun r hr' => ?_) fun fs' hfs' => hr fs' (List.mem_cons_of_mem fs hfs')
      exact (hr fs List.mem_cons_self b.clock r hr').extends h.grows
  | createUser email password =>
    simp only [Server.handler]
    split_ifs
    · exact h
    · exact h
    · exact h.congr rfl
  | signIn email password =>
    simp only [Server.handler]
    split
    · exact h.congr rfl
    · exact h
  | deleteFile id =>
    simp only [Server.handler]
    split
    · exact h.congr rfl
    · exact h
  | signOut | createFile => exact h.congr rfl
  | get | pause | currentUser => exact h

end Requests

end Lib
