import EduConnect.Lib.Contracts
import EduConnect.Lib.Stored

/-!
# Typed documents

A database without a schema takes whatever its clients send.  `Slot` says what a field may hold,
`Doc.Typed Γ` that every field of a document is as `Γ` says, and `typing Γ` is the contract of
programs that only send such documents: the answers they get are typed too, so what they read and
send back stays typed.
-/

namespace Lib

/-! ## Fields -/

/-- What a field may hold. -/
inductive Kind where
  | bool | num | str | stamp | strs | map
  deriving DecidableEq

/-- The type of a field; where it is not required, it may be absent or null. -/
structure Slot where
  kind : Kind
  required : Bool := false
  deriving DecidableEq

variable {κ φ : Type}

namespace Value

/-- The value is of that kind. -/
def Is : Kind → Value φ → Prop
  | .bool, v => ∃ b, v = .bool b
  | .num, v => ∃ x, v = .num x
  | .str, v => ∃ s, v = .str s
  | .stamp, v => ∃ t, v = .stamp t
  | .strs, v => ∃ l, v = strs l
  | .map, v => ∃ m, v = .map m

end Value

namespace Slot

variable {t : Slot} {o : Option (Value φ)}

/-- What may stand in the field. -/
def Accepts (t : Slot) (o : Option (Value φ)) : Prop :=
  t.required = false ∧ o.getD .null = .null ∨ ∃ v, o = some v ∧ v.Is t.kind

/-- The same, where it may be missing. -/
def optional (t : Slot) : Slot := { t with required := false }

theorem Accepts.optional (h : t.Accepts o) : t.optional.Accepts o := by
  rcases h with ⟨-, hnull⟩ | hv
  · exact .inl ⟨rfl, hnull⟩
  · exact .inr hv

theorem accepts_none (ht : t.required = false) : t.Accepts (none : Option (Value φ)) :=
  .inl ⟨ht, rfl⟩

theorem accepts_of_is {v : Value φ} (hv : v.Is t.kind) : t.Accepts (some v) := .inr ⟨v, rfl, hv⟩

/-- A required field is there. -/
theorem Accepts.of_required (h : t.Accepts o) (ht : t.required = true) :
    ∃ v, o = some v ∧ v.Is t.kind := by
  rcases h with ⟨hf, -⟩ | hv
  · rw [ht] at hf
    cases hf
  · exact hv

end Slot

/-! ## Reading a field -/

section Reading

variable {d : Doc φ} {f : φ} {r : Bool}

/-- A field that is accepted is null, or of the kind. -/
theorem Slot.Accepts.get {t : Slot} (h : t.Accepts (d f)) :
    d.get f = .null ∨ (d.get f).Is t.kind := by
  rcases h with ⟨-, hnull⟩ | ⟨v, hv, his⟩
  · exact .inl hnull
  · refine .inr ?_
    rw [Doc.get, hv]
    exact his

theorem Slot.Accepts.orStr (h : Slot.Accepts ⟨.str, r⟩ (d f)) (x : String) :
    ∃ s, (d.get f).orStr x = .ok s := by
  rcases h.get with hnull | ⟨s, hs⟩
  · exact ⟨x, by rw [hnull]; rfl⟩
  · exact ⟨s, by rw [hs]; rfl⟩

theorem Slot.Accepts.asStr (h : Slot.Accepts ⟨.str, true⟩ (d f)) :
    ∃ s, (d.get f).asStr = .ok s := by
  obtain ⟨v, hv, s, rfl⟩ := h.of_required rfl
  exact ⟨s, Doc.asStr_get_iff.mpr hv⟩

theorem Slot.Accepts.optStr (h : Slot.Accepts ⟨.str, r⟩ (d f)) :
    ∃ s, (d.get f).optStr = .ok s := by
  rcases h.get with hnull | ⟨s, hs⟩
  · exact ⟨none, by rw [hnull]; rfl⟩
  · exact ⟨some s, by rw [hs]; rfl⟩

theorem Slot.Accepts.orBool (h : Slot.Accepts ⟨.bool, r⟩ (d f)) (x : Bool) :
    ∃ y, (d.get f).orBool x = .ok y := by
  rcases h.get with hnull | ⟨y, hy⟩
  · exact ⟨x, by rw [hnull]; rfl⟩
  · exact ⟨y, by rw [hy]; rfl⟩

theorem Slot.Accepts.orDouble (h : Slot.Accepts ⟨.num, r⟩ (d f)) (x : Double) :
    ∃ y, (d.get f).orDouble x = .ok y := by
  rcases h.get with hnull | ⟨y, hy⟩
  · exact ⟨x, by rw [hnull]; rfl⟩
  · exact ⟨y, by rw [hy]; rfl⟩

theorem Slot.Accepts.orStrs (h : Slot.Accepts ⟨.strs, r⟩ (d f)) :
    ∃ l, (d.get f).orStrs = .ok l := by
  rcases h.get with hnull | ⟨l, hl⟩
  · exact ⟨[], by rw [hnull]; rfl⟩
  · exact ⟨l, by rw [hl, Value.orStrs_strs]⟩

theorem Slot.Accepts.optMap (h : Slot.Accepts ⟨.map, r⟩ (d f)) :
    ∃ m, (d.get f).optMap = .ok m := by
  rcases h.get with hnull | ⟨m, hm⟩
  · exact ⟨none, by rw [hnull]; rfl⟩
  · exact ⟨some m, by rw [hm]; rfl⟩

theorem Slot.Accepts.asStamp (h : Slot.Accepts ⟨.stamp, true⟩ (d f)) :
    ∃ t, (d.get f).asStamp = .ok t := by
  obtain ⟨v, hv, t, rfl⟩ := h.of_required rfl
  exact ⟨t, by rw [Doc.get, hv]; rfl⟩

end Reading

/-! ## Writing fields -/

namespace FieldOp

/-- What the write puts in the field is accepted there. -/
def Fits (t : Slot) : FieldOp φ → Prop
  | put v => t.Accepts (some v)
  | serverTimestamp => t.kind = .stamp
  | arrayUnion _ => t.kind = .strs
  | arrayRemove _ => t.kind = .strs

section Fits

variable {t : Slot}

theorem fits_put {v : Value φ} (hv : v ≠ .null) : (put v).Fits t ↔ v.Is t.kind := by
  constructor
  · rintro (⟨-, hnull⟩ | ⟨w, hw, his⟩)
    · exact absurd hnull hv
    · rwa [← Option.some.inj hw] at his
  · exact Slot.accepts_of_is

@[simp] theorem fits_bool {b : Bool} : (put (.bool b) : FieldOp φ).Fits t ↔ t.kind = .bool := by
  rw [fits_put (by simp)]
  cases t.kind <;> simp [Value.Is, Value.strs]

@[simp] theorem fits_num {x : Double} : (put (.num x) : FieldOp φ).Fits t ↔ t.kind = .num := by
  rw [fits_put (by simp)]
  cases t.kind <;> simp [Value.Is, Value.strs]

@[simp] theorem fits_str {s : String} : (put (.str s) : FieldOp φ).Fits t ↔ t.kind = .str := by
  rw [fits_put (by simp)]
  cases t.kind <;> simp [Value.Is, Value.strs]

@[simp] theorem fits_stamp {x : ℤ} : (put (.stamp x) : FieldOp φ).Fits t ↔ t.kind = .stamp := by
  rw [fits_put (by simp)]
  cases t.kind <;> simp [Value.Is, Value.strs]

@[simp] theorem fits_strs {l : List String} :
    (put (.strs l) : FieldOp φ).Fits t ↔ t.kind = .strs := by
  rw [fits_put (by simp [Value.strs])]
  cases t.kind <;> simp [Value.Is, Value.strs]

@[simp] theorem fits_map {m : φ → Option (Value φ)} : (put (.map m)).Fits t ↔ t.kind = .map := by
  rw [fits_put (by simp)]
  cases t.kind <;> simp [Value.Is, Value.strs]

@[simp] theorem fits_null : (put .null : FieldOp φ).Fits t ↔ t.required = false := by
  constructor
  · rintro (⟨ht, -⟩ | ⟨v, hv, his⟩)
    · exact ht
    · rw [← Option.some.inj hv] at his
      cases hk : t.kind <;> simp [Value.Is, Value.strs, hk] at his
  · exact fun ht => .inl ⟨ht, rfl⟩

@[simp] theorem fits_serverTimestamp :
    (serverTimestamp : FieldOp φ).Fits t ↔ t.kind = .stamp := Iff.rfl

@[simp] theorem fits_arrayUnion {ids : List String} :
    (arrayUnion ids : FieldOp φ).Fits t ↔ t.kind = .strs := Iff.rfl

@[simp] theorem fits_arrayRemove {ids : List String} :
    (arrayRemove ids : FieldOp φ).Fits t ↔ t.kind = .strs := Iff.rfl

/-- What was read from a typed field of another document. -/
theorem fits_get {d : Doc φ} {f : φ} (h : t.Accepts (d f)) :
    (put (d.get f)).Fits t.optional := by
  rcases h.get with hnull | his
  · exact .inl ⟨rfl, hnull⟩
  · exact Slot.accepts_of_is his

end Fits

end FieldOp

/-- The strings of a typed field of strings. -/
theorem arrayOf_of_accepts {t : Slot} {o : Option (Value φ)} (h : t.Accepts o)
    (ht : t.kind = .strs) : ∃ l : List String, arrayOf o = l.map Value.str := by
  rcases h with ⟨-, hnull⟩ | ⟨v, rfl, hv⟩
  · refine ⟨[], ?_⟩
    rcases o with _ | v
    · rfl
    · have hv : v = .null := hnull
      rw [hv]
      rfl
  · rw [ht] at hv
    obtain ⟨l, rfl⟩ := hv
    exact ⟨l, rfl⟩

theorem arrayUnion_strs (ids l : List String) : ∃ l' : List String,
    ids.foldl (fun (l : List (Value φ)) s => if l.any (Value.isStr s) then l else l ++ [.str s])
      (l.map Value.str) = l'.map Value.str := by
  induction ids generalizing l with
  | nil => exact ⟨l, rfl⟩
  | cons s ids ih =>
    rw [List.foldl_cons]
    split_ifs with hs
    · exact ih l
    · have hadd : l.map (Value.str (φ := φ)) ++ [.str s] = (l ++ [s]).map .str := by
        rw [List.map_append, List.map_singleton]
      rw [hadd]
      exact ih (l ++ [s])

/-- A write on a field that may be missing leaves an accepted one. -/
theorem FieldOp.Fits.eval {t : Slot} {o : FieldOp φ} (ho : o.Fits t) {old : Option (Value φ)}
    (hold : t.optional.Accepts old) (now : ℤ) : t.Accepts (some (o.eval now old)) := by
  cases o with
  | put v => exact ho
  | serverTimestamp =>
    refine Slot.accepts_of_is ?_
    rw [show t.kind = .stamp from ho]
    exact ⟨now, rfl⟩
  | arrayUnion ids =>
    refine Slot.accepts_of_is ?_
    obtain ⟨l, hl⟩ := arrayOf_of_accepts hold ho
    rw [show t.kind = .strs from ho, FieldOp.eval, hl]
    obtain ⟨l', hl'⟩ := arrayUnion_strs (φ := φ) ids l
    exact ⟨l', congrArg Value.list hl'⟩
  | arrayRemove ids =>
    refine Slot.accepts_of_is ?_
    obtain ⟨l, hl⟩ := arrayOf_of_accepts hold ho
    rw [show t.kind = .strs from ho, FieldOp.eval, hl, List.filter_map]
    exact ⟨_, rfl⟩

/-! ## Documents -/

/-- Every field of the document is as `Γ` says. -/
def Doc.Typed (Γ : φ → Slot) (d : Doc φ) : Prop := ∀ f, (Γ f).Accepts (d f)

/-- Every write of the list is accepted. -/
def FitsAll (Γ : φ → Slot) (fs : List (φ × FieldOp φ)) : Prop := ∀ x ∈ fs, x.2.Fits (Γ x.1)

@[simp] theorem fitsAll_nil {Γ : φ → Slot} : FitsAll Γ [] := fun _ hx => absurd hx List.not_mem_nil

@[simp] theorem fitsAll_cons {Γ : φ → Slot} {x : φ × FieldOp φ} {fs : List (φ × FieldOp φ)} :
    FitsAll Γ (x :: fs) ↔ x.2.Fits (Γ x.1) ∧ FitsAll Γ fs := List.forall_mem_cons

@[simp] theorem fitsAll_append {Γ : φ → Slot} {fs gs : List (φ × FieldOp φ)} :
    FitsAll Γ (fs ++ gs) ↔ FitsAll Γ fs ∧ FitsAll Γ gs := List.forall_mem_append

/-- No required field is left out. -/
def Complete (Γ : φ → Slot) (fs : List (φ × FieldOp φ)) : Prop :=
  ∀ f, (Γ f).required = true → f ∈ fs.map Prod.fst

section Documents

variable [DecidableEq φ] {Γ : φ → Slot} {fs : List (φ × FieldOp φ)} {d : Doc φ} {now : ℤ}

/-- A field that was accepted, or is written, is accepted after the write. -/
theorem accepts_writeFields (hfs : FitsAll Γ fs) (hd : ∀ f, (Γ f).optional.Accepts (d f)) {f : φ}
    (hf : (Γ f).Accepts (d f) ∨ f ∈ fs.map Prod.fst) :
    (Γ f).Accepts (writeFields now d fs f) := by
  induction fs generalizing d with
  | nil => exact hf.resolve_right List.not_mem_nil
  | cons x fs ih =>
    obtain ⟨g, o⟩ := x
    have hg : (Γ g).Accepts (some (o.eval now (d g))) := (hfs _ List.mem_cons_self).eval (hd g) now
    rw [writeFields_cons]
    refine ih (fun x hx => hfs x (List.mem_cons_of_mem _ hx)) (fun f' => ?_) ?_
    · by_cases hfg : f' = g
      · subst hfg
        rw [Function.update_self]
        exact hg.optional
      · rw [Function.update_of_ne hfg]
        exact hd f'
    · by_cases hfg : f = g
      · subst hfg
        rw [Function.update_self]
        exact .inl hg
      · rw [Function.update_of_ne hfg]
        exact hf.imp_right fun hmem => (List.mem_cons.mp hmem).resolve_left hfg

/-- An update. -/
theorem Doc.Typed.writeFields (hd : d.Typed Γ) (hfs : FitsAll Γ fs) :
    (writeFields now d fs).Typed Γ := fun f =>
  accepts_writeFields hfs (fun f => (hd f).optional) (.inl (hd f))

/-- A new document. -/
theorem typed_newDoc (hfs : FitsAll Γ fs) (hc : Complete Γ fs) : (newDoc now fs).Typed Γ := by
  intro f
  refine accepts_writeFields hfs (fun f => Slot.accepts_none rfl) ?_
  cases hf : (Γ f).required with
  | false => exact .inl (Slot.accepts_none hf)
  | true => exact .inr (hc f hf)

end Documents

/-! ## The contract -/

variable {Γ : κ → φ → Slot}

/-- The write sends typed documents. -/
def Write.Fits (Γ : κ → φ → Slot) : Write κ φ → Prop
  | set c _ fs => FitsAll (Γ c) fs ∧ Complete (Γ c) fs
  | update c _ fs => FitsAll (Γ c) fs
  | delete _ _ => True

/-- The request sends typed documents. -/
def Req.Fits (Γ : κ → φ → Slot) : Req κ φ → Prop
  | add c fs => FitsAll (Γ c) fs ∧ Complete (Γ c) fs
  | write w => w.Fits Γ
  | commit ws => ∀ w ∈ ws, w.Fits Γ
  | addAll c ds => ∀ fs ∈ ds, FitsAll (Γ c) fs ∧ Complete (Γ c) fs
  | _ => True

/-- The rows hold typed documents. -/
def RowsTyped (Γ : φ → Slot) (rows : List (String × Doc φ)) : Prop :=
  ∀ id d, (id, d) ∈ rows → d.Typed Γ

/-- A document that was found is typed. -/
def FoundTyped (Γ : φ → Slot) (doc : Option (Doc φ)) : Prop := ∀ d, doc = some d → d.Typed Γ

/-- The answer holds typed documents. -/
def Req.Gives (Γ : κ → φ → Slot) : (r : Req κ φ) → r.Ans → Prop
  | .get c _, doc => FoundTyped (Γ c) doc
  | .query c _, rows => RowsTyped (Γ c) rows
  | _, _ => True

/-- The errors of the server and of the connection. -/
def Err.OfServer : Err → Prop
  | .unavailable => True
  | .notFound => True
  | .invalidArgument => True
  | .auth _ _ => True
  | _ => False

/-- Only typed documents are sent, and only such are received. -/
def typing (Γ : κ → φ → Slot) : Contract (Req κ φ) Req.Ans Err where
  asks := Req.Fits Γ
  gives := Req.Gives Γ
  fails := Err.OfServer

/-- Every stored document is typed. -/
def WellTyped (Γ : κ → φ → Slot) (b : Data κ φ) : Prop :=
  ∀ c, Stored c (fun _ d => d.Typed (Γ c)) b

variable [DecidableEq φ]

theorem Write.Fits.sends {w : Write κ φ} (hw : w.Fits Γ) (c : κ) :
    w.Sends c fun _ d => d.Typed (Γ c) := by
  cases w with
  | set c' id fs =>
    rintro rfl now
    exact typed_newDoc hw.1 hw.2
  | update c' id fs =>
    rintro rfl now d hd
    exact hd.writeFields hw
  | delete c' id => trivial

theorem Req.Fits.sends {r : Req κ φ} (hr : r.Fits Γ) (c : κ) :
    r.Sends c fun _ d => d.Typed (Γ c) := by
  cases r with
  | add c' fs =>
    rintro rfl id now
    exact typed_newDoc hr.1 hr.2
  | write w => exact Write.Fits.sends hr c
  | commit ws => exact fun w hw => (hr w hw).sends c
  | addAll c' ds =>
    rintro rfl fs hfs id now
    exact typed_newDoc (hr fs hfs).1 (hr fs hfs).2
  | _ => trivial

/-- The server only answers with errors of its own. -/
theorem ofServer_of_handler [DecidableEq κ] {S : Server} {r : Req κ φ} {b : Data κ φ} {e : Err}
    (h : (S.handler r b).1 = .error e) : e.OfServer := by
  cases r with
  | query c q =>
    simp only [Server.handler] at h
    split_ifs at h
    obtain rfl := Except.error.inj h
    trivial
  | createUser email password =>
    simp only [Server.handler] at h
    split_ifs at h
    all_goals
      obtain rfl := Except.error.inj h
      trivial
  | write w =>
    simp only [Server.handler] at h
    split at h
    · cases h
    · obtain rfl := Except.error.inj h
      trivial
  | commit ws =>
    simp only [Server.handler] at h
    split at h
    · cases h
    · obtain rfl := Except.error.inj h
      trivial
  | signIn email password =>
    simp only [Server.handler] at h
    split at h
    · cases h
    · obtain rfl := Except.error.inj h
      trivial
  | deleteFile id =>
    simp only [Server.handler] at h
    split at h
    · cases h
    · obtain rfl := Except.error.inj h
      trivial
  | _ => cases h

/-- **The server honours the contract** on typed data. -/
theorem typing_honours [DecidableEq κ] {S : Server} : (typing Γ).Honours S.handler (WellTyped Γ) := by
  intro r b hr hb
  refine ⟨fun c => (hb c).handler (Req.Fits.sends hr c), fun x hx => ?_, fun e => ofServer_of_handler⟩
  cases r with
  | get c id =>
    intro d hd
    exact hb c id d ((Except.ok.inj hx).trans hd)
  | query c q =>
    rintro id d hrow
    simp only [Server.handler] at hx
    split_ifs at hx
    obtain rfl := Except.ok.inj hx
    exact hb c id d (Query.of_mem_run hrow).1
  | _ => trivial

end Lib
