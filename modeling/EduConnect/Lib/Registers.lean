import EduConnect.Lib.Contracts
import EduConnect.Lib.Stored

/-!
# Registers

A policy says of each collection whether programs write documents at ids of their choice, whether
they delete documents, which fields their updates write and what the documents that they add satisfy.
Where they choose no id the collection is a register: a document stays as it was entered, up to the
edited fields, until it is deleted, and a deleted one never comes back (`Evolves`).  Where they do, a
document may have to hold its own id.
-/

namespace Lib

variable {κ φ : Type}

/-- What programs may do to the documents of each collection. -/
structure Policy (κ φ : Type) where
  /-- Documents are written at chosen ids. -/
  sets : κ → Bool
  deletes : κ → Bool
  /-- The fields that updates write. -/
  edits : κ → φ → Bool
  /-- The fields that hold the id of their document. -/
  names : κ → φ → Bool
  /-- What a document that is added satisfies. -/
  enters : κ → Doc φ → Prop

/-- The fields of a document written at the id are those the policy wants. -/
def Names (π : Policy κ φ) [DecidableEq φ] (c : κ) (id : String) (fs : List (φ × FieldOp φ)) : Prop :=
  ∀ f, π.names c f = true → ∀ now, newDoc now fs f = some (.str id)

/-- What a document that is added satisfies, edits leave as it is. -/
def Policy.Lasts (π : Policy κ φ) (c : κ) : Prop :=
  ∀ d d', (∀ f, π.edits c f = false → d' f = d f) → π.enters c d → π.enters c d'

/-- The update writes edited fields. -/
def Edits (π : Policy κ φ) (c : κ) (fs : List (φ × FieldOp φ)) : Prop :=
  ∀ x ∈ fs, π.edits c x.1 = true

@[simp] theorem edits_nil {π : Policy κ φ} {c : κ} : Edits π c [] := List.forall_mem_nil _

@[simp] theorem edits_cons {π : Policy κ φ} {c : κ} {x : φ × FieldOp φ} {fs : List (φ × FieldOp φ)} :
    Edits π c (x :: fs) ↔ π.edits c x.1 = true ∧ Edits π c fs := List.forall_mem_cons

section Requests

variable [DecidableEq φ]

def Write.Follows (π : Policy κ φ) : Write κ φ → Prop
  | set c id fs => π.sets c = true ∧ Names π c id fs
  | update c _ fs => Edits π c fs
  | delete c _ => π.deletes c = true

/-- The fields may be added. -/
def Enters (π : Policy κ φ) (c : κ) (fs : List (φ × FieldOp φ)) : Prop :=
  (∀ f, π.names c f = false) ∧ ∀ now, π.enters c (newDoc now fs)

/-- The request does what the policy allows. -/
def Req.Follows (π : Policy κ φ) : Req κ φ → Prop
  | add c fs => Enters π c fs
  | write w => w.Follows π
  | commit ws => ∀ w ∈ ws, w.Follows π
  | addAll c ds => ∀ fs ∈ ds, Enters π c fs
  | _ => True

end Requests

/-! ## What the policy leaves of a register -/

/-- Between `b` and `b'`, of the collection `c`: ids that were given stay so, documents stay where
none is deleted, and a document with an id that was given was there before, with the same fields up
to the edited ones. -/
structure Evolves (π : Policy κ φ) (c : κ) (b b' : Data κ φ) : Prop where
  issued : ∀ id ∈ b.issued, id ∈ b'.issued
  stays : π.deletes c = false → ∀ id d, b.doc c id = some d → ∃ d', b'.doc c id = some d'
  same : ∀ id ∈ b.issued, ∀ d', b'.doc c id = some d' →
    ∃ d, b.doc c id = some d ∧ ∀ f, π.edits c f = false → d' f = d f

/-- Every document of `c` has an id that was given. -/
def Registered (c : κ) (b : Data κ φ) : Prop := ∀ id d, b.doc c id = some d → id ∈ b.issued

section Evolution

variable {π : Policy κ φ} {c : κ} {b b₁ b' : Data κ φ}

theorem Evolves.of_eq (hdocs : b'.docs c = b.docs c) (hissued : ∀ id ∈ b.issued, id ∈ b'.issued) :
    Evolves π c b b' := by
  have hdoc : ∀ id, b'.doc c id = b.doc c id := fun id => congrArg (fun t => t.find id) hdocs
  refine ⟨hissued, fun _ id d hd => ⟨d, (hdoc id).trans hd⟩, fun id _ d' hd' => ?_⟩
  exact ⟨d', (hdoc id).symm.trans hd', fun _ _ => rfl⟩

theorem Evolves.refl (b : Data κ φ) : Evolves π c b b := .of_eq rfl fun _ h => h

theorem Evolves.trans (h : Evolves π c b b₁) (h' : Evolves π c b₁ b') : Evolves π c b b' where
  issued id hid := h'.issued id (h.issued id hid)
  stays hc id d hd := by
    obtain ⟨d₁, hd₁⟩ := h.stays hc id d hd
    exact h'.stays hc id d₁ hd₁
  same id hid d' hd' := by
    obtain ⟨d₁, hd₁, hsame'⟩ := h'.same id (h.issued id hid) d' hd'
    obtain ⟨d, hd, hsame⟩ := h.same id hid d₁ hd₁
    exact ⟨d, hd, fun f hf => (hsame' f hf).trans (hsame f hf)⟩

/-- A document of a register that is gone stays gone. -/
theorem Evolves.doc_eq_none (h : Evolves π c b b') {id : String} (hid : id ∈ b.issued)
    (hd : b.doc c id = none) : b'.doc c id = none := by
  cases hd' : b'.doc c id with
  | none => rfl
  | some d' =>
    obtain ⟨d, hsome, -⟩ := h.same id hid d' hd'
    rw [hd] at hsome
    cases hsome

theorem Registered.congr (hb : Registered c b) (hdocs : b'.docs c = b.docs c)
    (hissued : ∀ id ∈ b.issued, id ∈ b'.issued) : Registered c b' := by
  intro id d hd
  have hdoc : b'.doc c id = b.doc c id := congrArg (fun t => t.find id) hdocs
  exact hissued id (hb id d (hdoc.symm.trans hd))

end Evolution

/-! ## What requests do -/

section Steps

variable [DecidableEq κ] [DecidableEq φ] {S : Server} {π : Policy κ φ} {c : κ} {b b' : Data κ φ}

/-- A document is added under a new id. -/
theorem evolves_addDoc (c' : κ) (b : Data κ φ) (fs : List (φ × FieldOp φ)) :
    Evolves π c b (S.addDoc c' b fs) := by
  have hdoc : ∀ id, (S.addDoc c' b fs).doc c id = if c = c' ∧ id = S.newDocId b c' then
      some (newDoc b.clock fs) else b.doc c id := fun id => Data.doc_putDoc b c' c _ id _
  refine ⟨fun id hid => List.mem_cons_of_mem _ hid, fun _ id d hd => ?_, fun id hid d' hd' => ?_⟩
  · by_cases hnew : c = c' ∧ id = S.newDocId b c'
    · exact ⟨_, (hdoc id).trans (if_pos hnew)⟩
    · exact ⟨d, (hdoc id).trans ((if_neg hnew).trans hd)⟩
  · have hold : ¬(c = c' ∧ id = S.newDocId b c') := by
      rintro ⟨-, rfl⟩
      exact S.newDocId_not_mem_issued b c' hid
    exact ⟨d', ((hdoc id).trans (if_neg hold)).symm.trans hd', fun _ _ => rfl⟩

theorem Registered.addDoc (hb : Registered c b) (c' : κ) (fs : List (φ × FieldOp φ)) :
    Registered c (S.addDoc c' b fs) := by
  intro id d hd
  have hdoc : (S.addDoc c' b fs).doc c id = if c = c' ∧ id = S.newDocId b c' then
      some (newDoc b.clock fs) else b.doc c id := Data.doc_putDoc b c' c _ id _
  rw [hdoc] at hd
  by_cases hnew : c = c' ∧ id = S.newDocId b c'
  · rw [hnew.2]
    exact List.mem_cons_self
  · rw [if_neg hnew] at hd
    exact List.mem_cons_of_mem _ (hb id d hd)

omit [DecidableEq κ] in
/-- The fields an update does not edit. -/
theorem writeFields_of_edits {fs : List (φ × FieldOp φ)} (hfs : Edits π c fs) {f : φ}
    (hf : π.edits c f = false) (now : ℤ) (d : Doc φ) : writeFields now d fs f = d f := by
  refine writeFields_of_not_mem fun hmem => ?_
  obtain ⟨x, hx, rfl⟩ := List.mem_map.mp hmem
  rw [hfs x hx] at hf
  cases hf

/-- One write, of a register that has given its ids. -/
theorem evolves_apply (hc : π.sets c = false) (hb : Registered c b) {w : Write κ φ}
    (hw : w.Follows π) (hb' : w.apply b = some b') : Evolves π c b b' ∧ Registered c b' := by
  cases w with
  | set c' id fs =>
    obtain rfl := Option.some.inj hb'
    have hne : c ≠ c' := by
      rintro rfl
      rw [hw.1] at hc
      cases hc
    have hdocs := Data.docs_putDoc_ne b hne id (newDoc b.clock fs)
    exact ⟨.of_eq hdocs fun _ h => h, hb.congr hdocs fun _ h => h⟩
  | update c' id fs =>
    obtain ⟨d, hd, rfl⟩ := Option.map_eq_some_iff.mp hb'
    have hdoc := fun i => Data.doc_putDoc b c' c id i (writeFields b.clock d fs)
    refine ⟨⟨fun _ h => h, fun _ i e he => ?_, fun i _ e he => ?_⟩, fun i e he => ?_⟩
    · by_cases hi : c = c' ∧ i = id
      · exact ⟨_, (hdoc i).trans (if_pos hi)⟩
      · exact ⟨e, (hdoc i).trans ((if_neg hi).trans he)⟩
    · rw [hdoc] at he
      by_cases hi : c = c' ∧ i = id
      · obtain ⟨rfl, rfl⟩ := hi
        rw [if_pos ⟨rfl, rfl⟩] at he
        obtain rfl := Option.some.inj he
        exact ⟨d, hd, fun f hf => writeFields_of_edits hw hf b.clock d⟩
      · rw [if_neg hi] at he
        exact ⟨e, he, fun _ _ => rfl⟩
    · rw [hdoc] at he
      by_cases hi : c = c' ∧ i = id
      · obtain ⟨rfl, rfl⟩ := hi
        exact hb i d hd
      · rw [if_neg hi] at he
        exact hb i e he
  | delete c' id =>
    obtain rfl := Option.some.inj hb'
    have hdoc := fun i => Data.doc_eraseDoc b c' c id i
    refine ⟨⟨fun _ h => h, fun hkeep i e he => ?_, fun i _ e he => ?_⟩, fun i e he => ?_⟩
    · have hne : ¬(c = c' ∧ i = id) := by
        rintro ⟨rfl, -⟩
        rw [show π.deletes c = true from hw] at hkeep
        cases hkeep
      exact ⟨e, (hdoc i).trans ((if_neg hne).trans he)⟩
    all_goals
      rw [hdoc] at he
      by_cases hi : c = c' ∧ i = id
      · rw [if_pos hi] at he
        cases he
      rw [if_neg hi] at he
    · exact ⟨e, he, fun _ _ => rfl⟩
    · exact hb i e he

theorem evolves_foldlM_apply (hc : π.sets c = false) (hb : Registered c b) {ws : List (Write κ φ)}
    (hws : ∀ w ∈ ws, w.Follows π) (hb' : ws.foldlM Write.apply b = some b') :
    Evolves π c b b' ∧ Registered c b' := by
  induction ws generalizing b with
  | nil =>
    obtain rfl := Option.some.inj hb'
    exact ⟨.refl b, hb⟩
  | cons w ws ih =>
    rw [List.foldlM_cons] at hb'
    obtain ⟨b₁, hb₁, hb'⟩ := Option.bind_eq_some_iff.mp hb'
    obtain ⟨hfirst, hb₁⟩ := evolves_apply hc hb (hws w List.mem_cons_self) hb₁
    obtain ⟨hrest, hb'⟩ := ih hb₁ (fun w' hw' => hws w' (List.mem_cons_of_mem w hw')) hb'
    exact ⟨hfirst.trans hrest, hb'⟩

theorem evolves_foldl_addDoc (c' : κ) (ds : List (List (φ × FieldOp φ))) (hb : Registered c b) :
    Evolves π c b (ds.foldl (S.addDoc c') b) ∧ Registered c (ds.foldl (S.addDoc c') b) := by
  induction ds generalizing b with
  | nil => exact ⟨.refl b, hb⟩
  | cons fs ds ih =>
    obtain ⟨hrest, hb'⟩ := ih (hb.addDoc (S := S) c' fs)
    exact ⟨(evolves_addDoc c' b fs).trans hrest, hb'⟩

/-- **What a request that follows the policy does to a register.** -/
theorem evolves_handler (hc : π.sets c = false) (hb : Registered c b) {r : Req κ φ}
    (hr : r.Follows π) :
    Evolves π c b (S.handler r b).2 ∧ Registered c (S.handler r b).2 := by
  have hsame : ∀ b' : Data κ φ, b'.docs c = b.docs c → b'.issued = b.issued →
      Evolves π c b b' ∧ Registered c b' := fun b' hdocs hissued =>
    ⟨.of_eq hdocs fun _ h => hissued ▸ h, hb.congr hdocs fun _ h => hissued ▸ h⟩
  cases r with
  | get c' id => exact hsame _ rfl rfl
  | query c' q =>
    simp only [Server.handler]
    split_ifs <;> exact hsame _ rfl rfl
  | add c' fs => exact ⟨evolves_addDoc c' b fs, hb.addDoc c' fs⟩
  | write w =>
    simp only [Server.handler]
    rcases hw : w.apply b with _ | b'
    · exact hsame _ rfl rfl
    · exact evolves_apply hc hb hr hw
  | commit ws =>
    simp only [Server.handler]
    rcases hws : ws.foldlM Write.apply b with _ | b'
    · exact hsame _ rfl rfl
    · exact evolves_foldlM_apply hc hb hr hws
  | addAll c' ds => exact evolves_foldl_addDoc c' ds hb
  | createUser email password =>
    simp only [Server.handler]
    split_ifs <;> exact hsame _ rfl rfl
  | signIn email password =>
    simp only [Server.handler]
    split <;> exact hsame _ rfl rfl
  | signOut => exact hsame _ rfl rfl
  | createFile name => exact hsame _ rfl rfl
  | deleteFile id =>
    simp only [Server.handler]
    split <;> exact hsame _ rfl rfl
  | pause => exact hsame _ rfl rfl
  | currentUser => exact hsame _ rfl rfl

/-! ### What stored documents satisfy -/

omit [DecidableEq κ] in
theorem Write.Follows.sends_id {w : Write κ φ} (hw : w.Follows π) {f : φ} (hn : π.names c f = true)
    (he : π.edits c f = false) : w.Sends c fun id d => d f = some (.str id) := by
  cases w with
  | set c' id fs =>
    rintro rfl now
    exact hw.2 f hn now
  | update c' id fs =>
    rintro rfl now d hd
    exact (writeFields_of_edits hw he now d).trans hd
  | delete c' id => trivial

omit [DecidableEq κ] in
/-- A field that holds the id of its document, and that no update edits, keeps holding it. -/
theorem Req.Follows.sends_id {r : Req κ φ} (hr : r.Follows π) {f : φ} (hn : π.names c f = true)
    (he : π.edits c f = false) : r.Sends c fun id d => d f = some (.str id) := by
  have habsurd : ∀ c', (∀ g, π.names c' g = false) → c' ≠ c := by
    rintro c' hnone rfl
    rw [hnone f] at hn
    cases hn
  cases r with
  | add c' fs => exact fun h => absurd h (habsurd c' hr.1)
  | write w => exact Write.Follows.sends_id hr hn he
  | commit ws => exact fun w hw => (hr w hw).sends_id hn he
  | addAll c' ds => exact fun h fs hfs => absurd h (habsurd c' (hr fs hfs).1)
  | _ => trivial

omit [DecidableEq κ] in
theorem Write.Follows.sends_enters {w : Write κ φ} (hw : w.Follows π) (hc : π.sets c = false)
    (hlasts : π.Lasts c) : w.Sends c fun _ d => π.enters c d := by
  cases w with
  | set c' id fs =>
    rintro rfl
    rw [hw.1] at hc
    cases hc
  | update c' id fs =>
    rintro rfl now d hd
    exact hlasts d _ (fun f hf => writeFields_of_edits hw hf now d) hd
  | delete c' id => trivial

omit [DecidableEq κ] in
/-- What the added documents of a register satisfy, all its documents do. -/
theorem Req.Follows.sends_enters {r : Req κ φ} (hr : r.Follows π) (hc : π.sets c = false)
    (hlasts : π.Lasts c) : r.Sends c fun _ d => π.enters c d := by
  cases r with
  | add c' fs =>
    rintro rfl id now
    exact hr.2 now
  | write w => exact Write.Follows.sends_enters hr hc hlasts
  | commit ws => exact fun w hw => (hr w hw).sends_enters hc hlasts
  | addAll c' ds =>
    rintro rfl fs hfs id now
    exact (hr fs hfs).2 now
  | _ => trivial

end Steps

end Lib
