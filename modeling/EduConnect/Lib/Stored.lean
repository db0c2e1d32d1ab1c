import EduConnect.Lib.Faults
import EduConnect.Lib.Backend

/-!
# Properties of the documents of a collection

`Stored c P b`: every document of the collection `c` has the property `P`, which may speak of its
id.  A request that only sends documents with `P` to `c` (`Req.Sends`) keeps it, served or lost.
-/

namespace Lib

variable {κ φ : Type} {S : Server} {c : κ} {P : String → Doc φ → Prop} {b b' : Data κ φ}

/-- Every document of `c` has the property `P`. -/
def Stored (c : κ) (P : String → Doc φ → Prop) (b : Data κ φ) : Prop :=
  ∀ id d, b.doc c id = some d → P id d

theorem Stored.congr (hb : Stored c P b) (h : b'.docs c = b.docs c) : Stored c P b' := by
  intro id d hd
  unfold Data.doc at hd
  rw [h] at hd
  exact hb id d hd

section Stored

variable [DecidableEq κ]

theorem Stored.putDoc (hb : Stored c P b) {c' : κ} {id : String} {d : Doc φ}
    (hd : c' = c → P id d) : Stored c P (b.putDoc c' id d) := by
  intro id' d' hd'
  rw [Data.doc_putDoc] at hd'
  by_cases h : c = c' ∧ id' = id
  · rw [if_pos h] at hd'
    obtain rfl := Option.some.inj hd'
    rw [h.2]
    exact hd h.1.symm
  · rw [if_neg h] at hd'
    exact hb id' d' hd'

theorem Stored.eraseDoc (hb : Stored c P b) (c' : κ) (id : String) :
    Stored c P (b.eraseDoc c' id) := by
  intro id' d' hd'
  rw [Data.doc_eraseDoc] at hd'
  by_cases h : c = c' ∧ id' = id
  · rw [if_pos h] at hd'
    cases hd'
  · rw [if_neg h] at hd'
    exact hb id' d' hd'

end Stored

/-- The documents of `c` are the same as far as the field `f` goes. -/
def SameField (c : κ) (f : φ) (b b' : Data κ φ) : Prop :=
  ∀ id, (b'.doc c id).map (fun d => d f) = (b.doc c id).map fun d => d f

theorem SameField.trans {f : φ} {b₁ : Data κ φ} (h : SameField c f b b₁)
    (h' : SameField c f b₁ b') : SameField c f b b' := fun id => (h' id).trans (h id)

/-! ## Requests -/

variable [DecidableEq φ]

/-- The write leaves the property `P` on the documents of `c`. -/
def Write.Sends (c : κ) (P : String → Doc φ → Prop) : Write κ φ → Prop
  | set c' id fs => c' = c → ∀ now, P id (newDoc now fs)
  | update c' id fs => c' = c → ∀ now d, P id d → P id (writeFields now d fs)
  | delete _ _ => True

/-- The request leaves the property `P` on the documents of `c`. -/
def Req.Sends (c : κ) (P : String → Doc φ → Prop) : Req κ φ → Prop
  | add c' fs => c' = c → ∀ id now, P id (newDoc now fs)
  | write w => w.Sends c P
  | commit ws => ∀ w ∈ ws, w.Sends c P
  | addAll c' ds => c' = c → ∀ fs ∈ ds, ∀ id now, P id (newDoc now fs)
  | _ => True

/-- The collection a write goes to. -/
def Write.cible {κ φ : Type} : Write κ φ → κ
  | set c _ _ => c
  | update c _ _ => c
  | delete c _ => c

/-- The request does not write the collection `c`. -/
def Req.Avoids (c : κ) : Req κ φ → Prop
  | add c' _ => c' ≠ c
  | write w => w.cible ≠ c
  | commit ws => ∀ w ∈ ws, w.cible ≠ c
  | addAll c' _ => c' ≠ c
  | _ => True

/-- What a request avoids, it sends nothing to. -/
theorem Req.Avoids.sends {r : Req κ φ} (hr : r.Avoids c) : r.Sends c P := by
  cases r with
  | add c' fs => exact fun hc => absurd hc hr
  | write w => cases w with
    | set c' id fs => exact fun hc => absurd hc hr
    | update c' id fs => exact fun hc => absurd hc hr
    | delete c' id => trivial
  | commit ws =>
    intro w hw
    have hne := hr w hw
    cases w with
    | set c' id fs => exact fun hc => absurd hc hne
    | update c' id fs => exact fun hc => absurd hc hne
    | delete c' id => trivial
  | addAll c' ds => exact fun hc => absurd hc hr
  | _ => trivial

section Requests

variable [DecidableEq κ]

theorem Stored.addDoc (hb : Stored c P b) {c' : κ} {fs : List (φ × FieldOp φ)}
    (hfs : c' = c → ∀ id now, P id (newDoc now fs)) : Stored c P (S.addDoc c' b fs) :=
  (hb.putDoc fun hc => hfs hc (S.newDocId b c') b.clock).congr rfl

theorem Stored.foldl_addDoc (hb : Stored c P b) {c' : κ} {ds : List (List (φ × FieldOp φ))}
    (hds : c' = c → ∀ fs ∈ ds, ∀ id now, P id (newDoc now fs)) :
    Stored c P (ds.foldl (S.addDoc c') b) := by
  induction ds generalizing b with
  | nil => exact hb
  | cons fs ds ih =>
    refine ih (hb.addDoc fun hc => hds hc fs List.mem_cons_self) fun hc fs' hfs' => ?_
    exact hds hc fs' (List.mem_cons_of_mem fs hfs')

/-- One write. -/
theorem Stored.apply (hb : Stored c P b) {w : Write κ φ} (hw : w.Sends c P)
    (hb' : w.apply b = some b') : Stored c P b' := by
  cases w with
  | set c' id fs =>
    obtain rfl := Option.some.inj hb'
    exact hb.putDoc fun hc => hw hc b.clock
  | update c' id fs =>
    obtain ⟨d, hd, rfl⟩ := Option.map_eq_some_iff.mp hb'
    refine hb.putDoc fun hc => hw hc b.clock d ?_
    subst hc
    exact hb id d hd
  | delete c' id =>
    obtain rfl := Option.some.inj hb'
    exact hb.eraseDoc c' id

/-- A batch. -/
theorem Stored.foldlM_apply (hb : Stored c P b) {ws : List (Write κ φ)}
    (hws : ∀ w ∈ ws, w.Sends c P) (hb' : ws.foldlM Write.apply b = some b') : Stored c P b' := by
  induction ws generalizing b with
  | nil =>
    obtain rfl := Option.some.inj hb'
    exact hb
  | cons w ws ih =>
    rw [List.foldlM_cons] at hb'
    obtain ⟨b₁, hb₁, hb'⟩ := Option.bind_eq_some_iff.mp hb'
    have hfirst := hb.apply (hws w List.mem_cons_self) hb₁
    exact ih hfirst (fun w' hw' => hws w' (List.mem_cons_of_mem w hw')) hb'

/-- **A request keeps what it sends.** -/
theorem Stored.handler (hb : Stored c P b) {r : Req κ φ} (hr : r.Sends c P) :
    Stored c P (S.handler r b).2 := by
  cases r with
  | get c' id => exact hb
  | query c' q =>
    simp only [Server.handler]
    split_ifs <;> exact hb
  | add c' fs => exact hb.addDoc hr
  | write w =>
    simp only [Server.handler]
    rcases hw : w.apply b with _ | b'
    · exact hb
    · exact hb.apply hr hw
  | commit ws =>
    simp only [Server.handler]
    rcases hws : ws.foldlM Write.apply b with _ | b'
    · exact hb
    · exact hb.foldlM_apply hr hws
  | addAll c' ds => exact hb.foldl_addDoc hr
  | createUser email password =>
    simp only [Server.handler]
    split_ifs <;> exact hb
  | signIn email password =>
    simp only [Server.handler]
    split <;> exact hb
  | signOut => exact hb
  | createFile name => exact hb
  | deleteFile id =>
    simp only [Server.handler]
    split <;> exact hb
  | pause => exact hb
  | currentUser => exact hb

theorem Stored.faulty (hb : Stored c P b) {r : Req κ φ} (hr : r.Sends c P)
    (f : List (Option Err)) : Stored c P (faulty S.handler r (b, f)).2.1 :=
  faulty_cases (P := fun x => Stored c P x.2.1) (fun _ _ => hb) fun _ => hb.handler hr

/-! ## Collections that are not written -/

theorem docs_apply_of_ne {w : Write κ φ} (hw : w.cible ≠ c) (hb' : w.apply b = some b') :
    b'.docs c = b.docs c := by
  cases w with
  | set c' id fs =>
    obtain rfl := Option.some.inj hb'
    exact Data.docs_putDoc_ne b (Ne.symm hw) id _
  | update c' id fs =>
    obtain ⟨d, hd, rfl⟩ := Option.map_eq_some_iff.mp hb'
    exact Data.docs_putDoc_ne b (Ne.symm hw) id _
  | delete c' id =>
    obtain rfl := Option.some.inj hb'
    exact Data.docs_eraseDoc_ne b (Ne.symm hw) id

theorem docs_foldlM_of_ne {ws : List (Write κ φ)} (hws : ∀ w ∈ ws, w.cible ≠ c)
    (hb' : ws.foldlM Write.apply b = some b') : b'.docs c = b.docs c := by
  induction ws generalizing b with
  | nil =>
    obtain rfl := Option.some.inj hb'
    rfl
  | cons w ws ih =>
    rw [List.foldlM_cons] at hb'
    obtain ⟨b₁, hb₁, hb'⟩ := Option.bind_eq_some_iff.mp hb'
    have hfirst := docs_apply_of_ne (hws w List.mem_cons_self) hb₁
    exact (ih (fun w' hw' => hws w' (List.mem_cons_of_mem w hw')) hb').trans hfirst

/-- **A request leaves the collections it avoids.** -/
theorem docs_handler_of_avoids {r : Req κ φ} (hr : r.Avoids c) :
    (S.handler r b).2.docs c = b.docs c := by
  cases r with
  | query c' q =>
    simp only [Server.handler]
    split_ifs <;> rfl
  | add c' fs => exact Data.docs_putDoc_ne b (Ne.symm hr) _ _
  | write w =>
    simp only [Server.handler]
    cases hw : w.apply b with
    | none => rfl
    | some b' => exact docs_apply_of_ne hr hw
  | commit ws =>
    simp only [Server.handler]
    cases hws : ws.foldlM Write.apply b with
    | none => rfl
    | some b' => exact docs_foldlM_of_ne hr hws
  | addAll c' ds =>
    simp only [Server.handler]
    induction ds generalizing b with
    | nil => rfl
    | cons fs ds ih => exact (ih hr).trans (Data.docs_putDoc_ne b (Ne.symm hr) _ _)
  | createUser email password =>
    simp only [Server.handler]
    split_ifs <;> rfl
  | signIn email password =>
    simp only [Server.handler]
    split <;> rfl
  | deleteFile id =>
    simp only [Server.handler]
    split <;> rfl
  | get | signOut | createFile | pause | currentUser => rfl

/-- The request writes no document. -/
def Req.Silent (r : Req κ φ) : Prop := ∀ c, r.Avoids c

theorem docs_handler_of_silent {r : Req κ φ} (hr : r.Silent) :
    (S.handler r b).2.docs = b.docs := funext fun c => docs_handler_of_avoids (hr c)

/-! ## Fields that are not written -/

/-- The write leaves the field `f` of the documents of `c` alone. -/
def Write.Spares (c : κ) (f : φ) : Write κ φ → Prop
  | set c' _ _ => c' ≠ c
  | update c' _ fs => c' = c → f ∉ fs.map Prod.fst
  | delete c' _ => c' ≠ c

variable {f : φ}

theorem Write.Spares.apply {w : Write κ φ} (hw : w.Spares c f) (hb' : w.apply b = some b') :
    SameField c f b b' := by
  cases w with
  | set c' id fs =>
    obtain rfl := Option.some.inj hb'
    intro id'
    rw [Data.doc_putDoc, if_neg fun h => hw h.1.symm]
  | update c' id fs =>
    obtain ⟨d, hd, rfl⟩ := Option.map_eq_some_iff.mp hb'
    intro id'
    rw [Data.doc_putDoc]
    by_cases h : c = c' ∧ id' = id
    · obtain ⟨rfl, rfl⟩ := h
      rw [if_pos ⟨rfl, rfl⟩, hd, Option.map_some, Option.map_some,
        writeFields_of_not_mem (hw rfl)]
    · rw [if_neg h]
  | delete c' id =>
    obtain rfl := Option.some.inj hb'
    intro id'
    rw [Data.doc_eraseDoc, if_neg fun h => hw h.1.symm]

theorem sameField_foldlM {ws : List (Write κ φ)} (hws : ∀ w ∈ ws, w.Spares c f)
    (hb' : ws.foldlM Write.apply b = some b') : SameField c f b b' := by
  induction ws generalizing b with
  | nil =>
    obtain rfl := Option.some.inj hb'
    exact fun id => rfl
  | cons w ws ih =>
    rw [List.foldlM_cons] at hb'
    obtain ⟨b₁, hb₁, hb'⟩ := Option.bind_eq_some_iff.mp hb'
    have hfirst := (hws w List.mem_cons_self).apply hb₁
    exact hfirst.trans (ih (fun w' hw' => hws w' (List.mem_cons_of_mem w hw')) hb')

/-- A batch, applied or refused. -/
theorem sameField_commit {ws : List (Write κ φ)} (hws : ∀ w ∈ ws, w.Spares c f) :
    SameField c f b (S.handler (.commit ws) b).2 := by
  simp only [Server.handler]
  cases hb' : ws.foldlM Write.apply b with
  | none => exact fun id => rfl
  | some b' => exact sameField_foldlM hws hb'

end Requests

end Lib
