import EduConnect.Lib.Lots
import EduConnect.Messagerie.Conversation
import Mathlib.Data.Set.List

/-!
# The messages stored and what is done to them

`courrier` reads the messages collection as a map from ids to messages.  What the conversation pages
do to it is told by a history of facts (`Fait`): a message was sent, one end took it out of its own
view, its sender removed it.  `Effet` says what each served request does to the map.
-/

namespace EduConnect.Messagerie

open Lib

/-! ## The stored messages -/

/-- The message stored under an id. -/
def courrier (b : Base) (id : String) : Option MessageModele :=
  (b.doc .messages id).bind fun d => (MessageModele.fromMap id d).toOption

/-- Every stored message was written by `toMap`. -/
def Sain (b : Base) : Prop :=
  ∀ id d, b.doc .messages id = some d → ∃ m : MessageModele, d = m.document

variable {b b' : Base} {id : String} {m : MessageModele}

theorem courrier_of_doc (h : b.doc .messages id = some m.document) :
    courrier b id = some { m with id := id } := by
  unfold courrier
  rw [h, Option.bind_some, MessageModele.fromMap_document]
  rfl

theorem courrier_of_none (h : b.doc .messages id = none) : courrier b id = none := by
  unfold courrier
  rw [h]
  rfl

theorem Sain.doc_eq (hb : Sain b) (id : String) :
    b.doc .messages id = (courrier b id).map MessageModele.document := by
  cases hd : b.doc .messages id with
  | none => rw [courrier_of_none hd]; rfl
  | some d =>
    obtain ⟨m, rfl⟩ := hb id d hd
    rw [courrier_of_doc hd]
    rfl

theorem Sain.courrier_eq_none (hb : Sain b) : courrier b id = none ↔ b.doc .messages id = none := by
  rw [hb.doc_eq, Option.map_eq_none_iff]

theorem Sain.id_eq (hb : Sain b) (h : courrier b id = some m) : m.id = id := by
  cases hd : b.doc .messages id with
  | none => rw [courrier_of_none hd] at h; cases h
  | some d =>
    obtain ⟨m', rfl⟩ := hb id d hd
    rw [courrier_of_doc hd] at h
    cases h
    rfl

theorem Sain.congr (hb : Sain b) (h : b'.docs .messages = b.docs .messages) : Sain b' := by
  intro id d hd
  refine hb id d ?_
  simpa only [Data.doc, h] using hd

theorem courrier_putDoc (b : Base) (id : String) (m : MessageModele) :
    courrier (b.putDoc .messages id m.document) =
      Function.update (courrier b) id (some { m with id := id }) := by
  funext j
  by_cases hj : j = id
  · subst hj
    rw [Function.update_self]
    exact courrier_of_doc (by simp [Data.doc_putDoc])
  · rw [Function.update_of_ne hj]
    simp only [courrier, Data.doc_putDoc, hj, and_false, if_false]

theorem courrier_eraseDoc (b : Base) (id : String) :
    courrier (b.eraseDoc .messages id) = Function.update (courrier b) id none := by
  funext j
  by_cases hj : j = id
  · subst hj
    rw [Function.update_self]
    exact courrier_of_none (by simp [Data.doc_eraseDoc])
  · rw [Function.update_of_ne hj]
    simp only [courrier, Data.doc_eraseDoc, hj, and_false, if_false]

theorem Sain.putDoc (hb : Sain b) (id : String) (m : MessageModele) :
    Sain (b.putDoc .messages id m.document) := by
  intro j d hd
  rw [Data.doc_putDoc] at hd
  split_ifs at hd with h
  · exact ⟨m, (Option.some.inj hd).symm⟩
  · exact hb j d hd

theorem Sain.eraseDoc (hb : Sain b) (id : String) : Sain (b.eraseDoc .messages id) := by
  intro j d hd
  rw [Data.doc_eraseDoc] at hd
  split_ifs at hd with h
  exact hb j d hd

/-! ### Lists of stored messages -/

/-- The row of a message in a snapshot. -/
def MessageModele.ligne (m : MessageModele) : String × Document := (m.id, m.document)

theorem sat_participants (id : String) (m : MessageModele) (moi : String) :
    (Filter.arrayContains .participants moi).sat id m.document = true ↔ moi ∈ m.participants := by
  have hdoc : m.document .participants = some (.strs m.participants) := rfl
  simp only [Filter.sat, hdoc, Value.strs, Value.any_isStr_map_str, decide_eq_true_eq]

theorem lister_lignes (p : Conversation) (msgs : List MessageModele) :
    p.lister (msgs.map MessageModele.ligne) = .ok (msgs.filter p.garde) := by
  have hmap : (msgs.map MessageModele.ligne).mapM
      (fun doc => MessageModele.fromMap doc.1 doc.2) = Except.ok msgs := by
    rw [mapM_eq_ok_iff, List.map_map]
    exact List.map_congr_left fun m _ => MessageModele.fromMap_document m m.id
  unfold Conversation.lister
  rw [hmap]
  rfl

/-- The rows of a snapshot are rows of messages. -/
theorem Sain.lignes (hb : Sain b) {rows : List (String × Document)}
    (h : ∀ row ∈ rows, b.doc .messages row.1 = some row.2) :
    ∃ msgs : List MessageModele, rows = msgs.map MessageModele.ligne ∧
      ∀ m ∈ msgs, courrier b m.id = some m := by
  have hrange : rows ∈ Set.range (List.map MessageModele.ligne) := by
    rw [Set.range_list_map]
    rintro ⟨id, d⟩ hrow
    have hd := h _ hrow
    obtain ⟨m, rfl⟩ := hb _ _ hd
    exact ⟨{ m with id := id }, rfl⟩
  obtain ⟨msgs, rfl⟩ := hrange
  refine ⟨msgs, rfl, fun m hm => ?_⟩
  exact courrier_of_doc (h _ (List.mem_map_of_mem hm))

/-- A stored message whose row is in the snapshot is among its messages. -/
theorem mem_of_ligne_mem {rows : List (String × Document)} {msgs : List MessageModele}
    (hrows : rows = msgs.map MessageModele.ligne)
    (hmsgs : ∀ m ∈ msgs, courrier b m.id = some m) (hm : courrier b m.id = some m)
    (hrow : m.ligne ∈ rows) : m ∈ msgs := by
  rw [hrows] at hrow
  obtain ⟨m', hm', heq⟩ := List.mem_map.mp hrow
  have hsame := hmsgs m' hm'
  rw [show m'.id = m.id from congrArg Prod.fst heq, hm] at hsame
  exact Option.some.inj hsame ▸ hm'

/-! ### Updates of one field -/

theorem writeFields_contenu (now : ℤ) (m : MessageModele) (s : String) :
    writeFields now m.document [texte .contenu s] =
      ({ m with contenu := s } : MessageModele).document := by
  funext f
  cases f <;> rfl

theorem writeFields_lu (now : ℤ) (m : MessageModele) :
    writeFields now m.document [(.lu, .put (.bool true))] =
      ({ m with lu := true } : MessageModele).document := by
  funext f
  cases f <;> rfl

theorem writeFields_participants (now : ℤ) (m : MessageModele) (l : List String) :
    writeFields now m.document [textes .participants l] =
      ({ m with participants := l } : MessageModele).document := by
  funext f
  cases f <;> rfl

/-! ## Facts -/

/-- What a served request of a conversation page means for a message. -/
inductive Fait where
  | envoye (id emetteurId recepteurId : String)
  /-- `moi` took the message out of his view, from the snapshot `msg`. -/
  | retire (moi : String) (msg : MessageModele)
  /-- The message was removed for everybody. -/
  | efface (id : String)
  deriving DecidableEq

abbrev Echange (ι : Type) := Exchange ι Geste Requete Req.Ans Err

def fait {ι : Type} : Echange ι → Option Fait
  | ⟨_, .envoi emetteurId recepteurId _, .add _ _, .ok id⟩ =>
    some (.envoye id emetteurId recepteurId)
  | ⟨_, .pourMoi moi msg, _, .ok _⟩ => some (.retire moi msg)
  | ⟨_, .pourTous msg, _, .ok _⟩ => some (.efface msg.id)
  | _ => none

/-- A change that keeps who a message is from and for, and does not make it unread. -/
structure Retouche (f : MessageModele → MessageModele) : Prop where
  id m : (f m).id = m.id
  emetteurId m : (f m).emetteurId = m.emetteurId
  recepteurId m : (f m).recepteurId = m.recepteurId
  participants m : (f m).participants = m.participants
  lu m : m.lu = true → (f m).lu = true

theorem Retouche.refl : Retouche fun m => m :=
  ⟨fun _ => rfl, fun _ => rfl, fun _ => rfl, fun _ => rfl, fun _ h => h⟩

theorem Retouche.contenu (s : String) : Retouche fun m => { m with contenu := s } :=
  ⟨fun _ => rfl, fun _ => rfl, fun _ => rfl, fun _ => rfl, fun _ h => h⟩

theorem Retouche.lue : Retouche fun m => { m with lu := true } :=
  ⟨fun _ => rfl, fun _ => rfl, fun _ => rfl, fun _ => rfl, fun _ _ => rfl⟩

/-- A change of some messages only. -/
theorem Retouche.ite (c : MessageModele → Prop) [DecidablePred c]
    {f : MessageModele → MessageModele} (hf : Retouche f) :
    Retouche fun m => if c m then f m else m := by
  refine ⟨fun m => ?_, fun m => ?_, fun m => ?_, fun m => ?_, fun m hm => ?_⟩
  all_goals by_cases h : c m
  · rw [if_pos h, hf.id]
  · rw [if_neg h]
  · rw [if_pos h, hf.emetteurId]
  · rw [if_neg h]
  · rw [if_pos h, hf.recepteurId]
  · rw [if_neg h]
  · rw [if_pos h, hf.participants]
  · rw [if_neg h]
  · rw [if_pos h]
    exact hf.lu m hm
  · rw [if_neg h]
    exact hm

/-- The effect of a served request on the stored messages, by the fact it is. -/
inductive Effet (b : Base) : Option Fait → Base → Prop where
  | retouche {b' : Base} {f : MessageModele → MessageModele} (hf : Retouche f)
    (hc : ∀ id, courrier b' id = (courrier b id).map f) (hi : b'.issued = b.issued) :
    Effet b none b'
  | envoi {b' : Base} {m : MessageModele} (hm : m.id ∉ b.issued)
    (hp : m.participants = [m.emetteurId, m.recepteurId]) (hlu : m.lu = false)
    (hc : courrier b' = Function.update (courrier b) m.id (some m))
    (hi : b'.issued = m.id :: b.issued) :
    Effet b (some (.envoye m.id m.emetteurId m.recepteurId)) b'
  | retrait {b' : Base} {moi : String} {msg m : MessageModele} (hm : courrier b msg.id = some m)
    (hne : msg.participants.erase moi ≠ [])
    (hc : courrier b' = Function.update (courrier b) msg.id
      (some { m with participants := msg.participants.erase moi }))
    (hi : b'.issued = b.issued) : Effet b (some (.retire moi msg)) b'
  | dernier {b' : Base} {moi : String} {msg : MessageModele}
    (he : msg.participants.erase moi = [])
    (hc : courrier b' = Function.update (courrier b) msg.id none)
    (hi : b'.issued = b.issued) : Effet b (some (.retire moi msg)) b'
  | efface {b' : Base} {id : String} (hc : courrier b' = Function.update (courrier b) id none)
    (hi : b'.issued = b.issued) : Effet b (some (.efface id)) b'

/-- A request is the one its label says. -/
def Conforme : Geste → Requete → Prop
  | .lecture, r => ∃ q, r = .query .messages q
  | .envoi emetteurId recepteurId _, r => ∃ m : MessageModele, m.emetteurId = emetteurId ∧
    m.recepteurId = recepteurId ∧ m.participants = [emetteurId, recepteurId] ∧ m.lu = false ∧
    r = .add .messages m.toMap
  | .edition id contenu, r => r = .write (.update .messages id [texte .contenu contenu])
  | .marquage, r => ∃ moi messages, r = .commit (Conversation.marques moi messages)
  | .pourMoi moi msg, r => r = .write (Conversation.retrait moi msg)
  | .pourTous msg, r => r = .write (.delete .messages msg.id)

/-- An answer that changes no message. -/
theorem Effet.rien (h : courrier b' = courrier b) (hi : b'.issued = b.issued) :
    Effet b none b' :=
  .retouche .refl (fun id => by rw [h, Option.map_id']) hi

/-- A served batch of `_marquerMessagesCommeLus` marks exactly the messages it names. -/
theorem courrier_marques {moi : String} {messages : List MessageModele} {b b' : Base} (hb : Sain b)
    (h : (Conversation.marques moi messages).foldlM Write.apply b = some b') :
    Sain b' ∧ b'.issued = b.issued ∧ ∀ id, courrier b' id = (courrier b id).map fun m =>
      if ∃ msg ∈ messages, msg.id = m.id ∧ msg.recepteurId = moi ∧ msg.lu = false
      then { m with lu := true } else m := by
  induction messages generalizing b with
  | nil =>
    obtain rfl : b = b' := by simpa [Conversation.marques] using h
    exact ⟨hb, rfl, fun id => by simp⟩
  | cons a messages ih =>
    by_cases ha : a.recepteurId = moi ∧ a.lu = false
    · -- the first message is marked, then the others
      have hcons : Conversation.marques moi (a :: messages) =
          .update .messages a.id [(.lu, .put (.bool true))] :: Conversation.marques moi messages := by
        simp [Conversation.marques, ha.1, ha.2]
      rw [hcons, List.foldlM_cons, Option.bind_eq_bind, Option.bind_eq_some_iff] at h
      obtain ⟨b₁, h₁, h⟩ := h
      obtain ⟨d, hd, rfl⟩ := Option.map_eq_some_iff.mp h₁
      obtain ⟨m₀, rfl⟩ := hb _ _ hd
      rw [writeFields_lu] at h
      obtain ⟨hs, hi, hc⟩ := ih (hb.putDoc _ _) h
      refine ⟨hs, hi, fun id => ?_⟩
      rw [hc, courrier_putDoc]
      by_cases hid : id = a.id
      · subst hid
        rw [Function.update_self, courrier_of_doc hd]
        simp [ha.1, ha.2]
      · rw [Function.update_of_ne hid]
        refine Option.map_congr fun m hm => ?_
        have hne : a.id ≠ m.id := fun he => hid (by rw [he, hb.id_eq hm])
        simp [hne]
    · have hcons : Conversation.marques moi (a :: messages) = Conversation.marques moi messages := by
        have : (decide (a.recepteurId = moi) && !a.lu) = false := by simpa using ha
        simp [Conversation.marques, this]
      rw [hcons] at h
      obtain ⟨hs, hi, hc⟩ := ih hb h
      refine ⟨hs, hi, fun id => ?_⟩
      rw [hc]
      refine Option.map_congr fun m _ => ?_
      have hnot : ¬(a.id = m.id ∧ a.recepteurId = moi ∧ a.lu = false) := fun h => ha h.2
      simp only [List.exists_mem_cons_iff, hnot, false_or]

/-- The updates of stored messages are not refused. -/
theorem exists_marques {moi : String} {messages : List MessageModele} {b : Base} (hb : Sain b)
    (h : ∀ msg ∈ messages, (courrier b msg.id).isSome) :
    ∃ b', (Conversation.marques moi messages).foldlM Write.apply b = some b' := by
  induction messages generalizing b with
  | nil => exact ⟨b, rfl⟩
  | cons a messages ih =>
    cases ha : decide (a.recepteurId = moi) && !a.lu with
    | false =>
      have hcons : Conversation.marques moi (a :: messages) = Conversation.marques moi messages := by
        simp only [Conversation.marques, List.filter_cons, ha, Bool.false_eq_true, if_false]
      rw [hcons]
      exact ih hb fun msg hmsg => h msg (List.mem_cons_of_mem _ hmsg)
    | true =>
      have hcons : Conversation.marques moi (a :: messages) =
          .update .messages a.id [(.lu, .put (.bool true))] :: Conversation.marques moi messages := by
        simp only [Conversation.marques, List.filter_cons, ha, if_true, List.map_cons]
      obtain ⟨m, hm⟩ := Option.isSome_iff_exists.mp (h a List.mem_cons_self)
      have hdoc : b.doc .messages a.id = some m.document := by rw [hb.doc_eq, hm]; rfl
      rw [hcons, List.foldlM_cons]
      simp only [Write.apply, hdoc, Option.map_some, writeFields_lu, Option.bind_eq_bind,
        Option.bind_some]
      refine ih (hb.putDoc _ _) fun msg hmsg => ?_
      rw [courrier_putDoc]
      by_cases hid : msg.id = a.id
      · rw [hid, Function.update_self]
        rfl
      · rw [Function.update_of_ne hid]
        exact h msg (List.mem_cons_of_mem _ hmsg)

/-- An update of a message is refused, or changes the message. -/
theorem handler_update (S : Server) (hb : Sain b) (id : String)
    {ws : List (Champ × FieldOp Champ)} {f : MessageModele → MessageModele}
    (hws : ∀ m : MessageModele, writeFields b.clock m.document ws = (f m).document) :
    S.handler (.write (.update .messages id ws) : Requete) b = (.error .notFound, b) ∨
      ∃ m b', courrier b id = some { m with id := id } ∧
        S.handler (.write (.update .messages id ws) : Requete) b = (.ok (), b') ∧ Sain b' ∧
          b'.issued = b.issued ∧
            courrier b' = Function.update (courrier b) id (some { f m with id := id }) := by
  rcases hd : b.doc .messages id with _ | d
  · exact Or.inl (handler_write_of_none (by simp only [Write.apply, hd, Option.map_none]))
  · obtain ⟨m, rfl⟩ := hb _ _ hd
    refine Or.inr ⟨m, b.putDoc .messages id (f m).document, courrier_of_doc hd,
      handler_write_of_some ?_, hb.putDoc _ _, rfl, courrier_putDoc b _ _⟩
    simp only [Write.apply, hd, Option.map_some, hws]

theorem handler_delete (S : Server) (b : Base) (id : String) :
    S.handler (.write (.delete .messages id) : Requete) b = (.ok (), b.eraseDoc .messages id) :=
  handler_write_of_some rfl

/-- A batch of `_marquerMessagesCommeLus` is refused, or marks the messages it names. -/
theorem handler_marques (S : Server) (hb : Sain b) (moi : String) (messages : List MessageModele) :
    S.handler (.commit (Conversation.marques moi messages) : Requete) b =
      (.error .notFound, b) ∨
    ∃ b', S.handler (.commit (Conversation.marques moi messages) : Requete) b = (.ok (), b') ∧
      Sain b' ∧ b'.issued = b.issued ∧ ∀ id, courrier b' id = (courrier b id).map fun m =>
        if ∃ msg ∈ messages, msg.id = m.id ∧ msg.recepteurId = moi ∧ msg.lu = false
        then { m with lu := true } else m := by
  rcases hw : (Conversation.marques moi messages).foldlM Write.apply b with _ | b'
  · exact Or.inl (by simp only [Server.handler, hw])
  · exact Or.inr ⟨b', by simp only [Server.handler, hw], courrier_marques hb hw⟩

/-- **Effect of a request.**  The server turns a request of a conversation page into the effect of
the fact that its label and answer make. -/
theorem effet_handler {ι : Type} (S : Server) (hb : Sain b) {l : Geste} {r : Requete}
    (hr : Conforme l r) (i : ι) :
    Sain (S.handler r b).2 ∧
      Effet b (fait ⟨i, l, r, (S.handler r b).1⟩) (S.handler r b).2 := by
  cases l with
  | lecture =>
    obtain ⟨q, rfl⟩ := hr
    have hkeep : (S.handler (.query .messages q : Requete) b).2 = b := handler_lecture trivial
    rw [hkeep]
    exact ⟨hb, .rien rfl rfl⟩
  | envoi emetteurId recepteurId contenu =>
    obtain ⟨m, rfl, rfl, hp, hlu, rfl⟩ := hr
    refine ⟨?_, ?_⟩
    · exact (hb.putDoc (S.newDocId b .messages) m).congr rfl
    · refine Effet.envoi (m := { m with id := S.newDocId b .messages }) ?_ hp hlu ?_ rfl
      · exact S.newDocId_not_mem_issued b .messages
      · exact courrier_putDoc b _ m
  | edition id contenu =>
    obtain rfl := hr
    rcases handler_update S hb id fun m => writeFields_contenu b.clock m contenu with
      h | ⟨m, b', hm, h, hs, hi, hc⟩
    · rw [h]
      exact ⟨hb, .rien rfl rfl⟩
    · rw [h]
      refine ⟨hs, .retouche (.ite (fun x => x.id = id) (.contenu contenu)) (fun j => ?_) hi⟩
      rw [hc]
      by_cases hj : j = id
      · subst hj
        rw [Function.update_self, hm, Option.map_some, if_pos rfl]
      · rw [Function.update_of_ne hj]
        rcases hx : courrier b j with _ | x
        · rfl
        · have hne : x.id ≠ id := fun he => hj ((hb.id_eq hx).symm.trans he)
          rw [Option.map_some, if_neg hne]
  | marquage =>
    obtain ⟨moi, messages, rfl⟩ := hr
    rcases handler_marques S hb moi messages with h | ⟨b', h, hs, hi, hc⟩
    · rw [h]
      exact ⟨hb, .rien rfl rfl⟩
    · rw [h]
      exact ⟨hs, .retouche (.ite _ .lue) hc hi⟩
  | pourMoi moi msg =>
    obtain rfl := hr
    by_cases he : msg.participants.erase moi = []
    · have hw : Conversation.retrait moi msg = .delete .messages msg.id := if_pos he
      rw [hw, handler_delete]
      exact ⟨hb.eraseDoc _, .dernier he (courrier_eraseDoc b _) rfl⟩
    · have hw : Conversation.retrait moi msg = .update .messages msg.id
          [textes .participants (msg.participants.erase moi)] := if_neg he
      rw [hw]
      rcases handler_update S hb msg.id fun m => writeFields_participants b.clock m
        (msg.participants.erase moi) with h | ⟨m, b', hm, h, hs, hi, hc⟩
      · rw [h]
        exact ⟨hb, .rien rfl rfl⟩
      · rw [h]
        exact ⟨hs, .retrait hm he hc hi⟩
  | pourTous msg =>
    obtain rfl := hr
    rw [handler_delete]
    exact ⟨hb.eraseDoc _, .efface (courrier_eraseDoc b _) rfl⟩

end EduConnect.Messagerie
