import EduConnect.Lib.Runs
import EduConnect.Messagerie.Conversation

/-!
# Editing a message

The text a conversation page sends is that of the message being edited, or of a new message.  The
edit mode ends only when the update succeeds: once the message is deleted no text can be sent.
-/

namespace EduConnect.Messagerie

open Lib Prog

/-! ## Runs of a page -/

/-- A conversation page and the data. -/
structure Composition where
  page : Conversation
  base : Base

/-- An action on the page, or a change of the data made elsewhere. -/
inductive Manoeuvre where
  | page (ev : Evenement)
  | ailleurs (b : Base)

variable {S : Server} {s s' : Composition}

/-- The program of an action runs to its end. -/
def Composition.suivante (S : Server) (s : Composition) : Manoeuvre → Option Composition
  | .page ev => (s.page.on ev).map fun prog =>
      ⟨(prog.exec S.handler s.page s.base).2.1, (prog.exec S.handler s.page s.base).2.2⟩
  | .ailleurs b => some { s with base := b }

/-- The text sent is the content of the message being edited, which was stored. -/
def Editee (s s' : Composition) (contenu : String) : Prop :=
  ∃ m d, s.page.messageEnCoursEdition = some m ∧ (s.base.doc .messages m.id).isSome ∧
    s'.base.doc .messages m.id = some d ∧ d .contenu = some (.str contenu)

/-- The text sent is the content of a new message to the other end. -/
def Nouvelle (s s' : Composition) (contenu : String) : Prop :=
  ∃ id d, s.base.doc .messages id = none ∧ s'.base.doc .messages id = some d ∧
    d .contenu = some (.str contenu) ∧ d .emetteurId = some (.str s.page.moi) ∧
      d .recepteurId = some (.str s.page.interlocuteur)

/-- A text that is sent goes to a message, and the page is out of the edit mode. -/
def TexteDepose (S : Server) (s : Composition) (a : Manoeuvre) : Prop :=
  ∀ maintenant, a = .page (.envoyerMessage maintenant) → trim s.page.controller ≠ "" →
    ∀ s', s.suivante S a = some s' →
      (Editee s s' (trim s.page.controller) ∨ Nouvelle s s' (trim s.page.controller)) ∧
        s'.page.messageEnCoursEdition = none

/-- When a text is sent, the message being edited is still stored. -/
def EditionStockee (s : Composition) (a : Manoeuvre) : Prop :=
  ∀ maintenant, a = .page (.envoyerMessage maintenant) → trim s.page.controller ≠ "" →
    ∀ m, s.page.messageEnCoursEdition = some m → (s.base.doc .messages m.id).isSome

/-! ## One text -/

theorem forall_suivante_envoyer {maintenant : ℤ} {P : Composition → Prop} :
    (∀ s', s.suivante S (.page (.envoyerMessage maintenant)) = some s' → P s') ↔
      (Conversation.envoyerMessage maintenant).Ends S.handler (fun _ p b => P ⟨p, b⟩)
        s.page s.base := by
  have hs : s.suivante S (.page (.envoyerMessage maintenant)) = some
      ⟨((Conversation.envoyerMessage maintenant).exec S.handler s.page s.base).2.1,
        ((Conversation.envoyerMessage maintenant).exec S.handler s.page s.base).2.2⟩ := rfl
  rw [hs]
  unfold Ends
  constructor
  · exact fun h => h _ rfl
  · intro h s' hs'
    rw [← Option.some.inj hs']
    exact h

/-- Nothing is being edited: a new message is added. -/
theorem ends_envoyer_nouveau {p : Conversation} {b : Base} {maintenant : ℤ}
    {Q : Except Err Unit → Conversation → Base → Prop} (hcontenu : trim p.controller ≠ "")
    (hedition : p.messageEnCoursEdition = none) :
    (Conversation.envoyerMessage maintenant).Ends S.handler Q p b ↔
      Q (.ok ()) { p with messageEnReponse := none, controller := "" }
        (S.addDoc .messages b (p.nouveau (trim p.controller) maintenant).toMap) := by
  obtain ⟨role, moi, interlocuteur, controller, edition, reponse, messages, vus⟩ := p
  obtain rfl : edition = none := hedition
  unfold Conversation.envoyerMessage
  rw [ends_page_bind, if_neg hcontenu]
  exact Iff.rfl

/-- A message is being edited: it is updated if it is stored. -/
theorem ends_envoyer_edition {p : Conversation} {b : Base} {maintenant : ℤ} {m : MessageModele}
    {Q : Except Err Unit → Conversation → Base → Prop} (hcontenu : trim p.controller ≠ "")
    (hedition : p.messageEnCoursEdition = some m) :
    (Conversation.envoyerMessage maintenant).Ends S.handler Q p b ↔
      match b.doc .messages m.id with
      | some d => Q (.ok ())
          { p with messageEnCoursEdition := none, messageEnReponse := none, controller := "" }
          (b.putDoc .messages m.id (writeFields b.clock d [texte .contenu (trim p.controller)]))
      | none => Q (.error .notFound) p b := by
  unfold Conversation.envoyerMessage
  rw [ends_page_bind, if_neg hcontenu, ends_bind]
  unfold Conversation.deposer
  rw [hedition]
  dsimp only
  rw [ends_bind, ends_ecrire]
  rcases hd : b.doc .messages m.id with _ | d
  · have hw : Write.apply b (.update .messages m.id [texte .contenu (trim p.controller)]) = none := by
      simp [Write.apply, hd]
    rw [hw]
  · have hw : Write.apply b (.update .messages m.id [texte .contenu (trim p.controller)]) =
        some (b.putDoc .messages m.id
          (writeFields b.clock d [texte .contenu (trim p.controller)])) := by
      simp [Write.apply, hd]
    rw [hw]
    exact Iff.rfl

/-- A text that is sent goes where it should exactly when the message being edited is stored. -/
theorem texteDepose_iff (a : Manoeuvre) : TexteDepose S s a ↔ EditionStockee s a := by
  refine forall₃_congr fun maintenant ha hcontenu => ?_
  subst ha
  rw [forall_suivante_envoyer]
  rcases hedition : s.page.messageEnCoursEdition with _ | m
  · rw [ends_envoyer_nouveau hcontenu hedition]
    refine iff_of_true ⟨.inr ?_, hedition⟩ fun m hm => nomatch hm
    refine ⟨S.newDocId s.base .messages, newDoc s.base.clock
      (s.page.nouveau (trim s.page.controller) maintenant).toMap, S.doc_newDocId _ _, ?_, ?_⟩
    · show (S.addDoc .messages s.base _).doc .messages _ = _
      rw [Server.addDoc, Data.doc_issue, Data.doc_putDoc, if_pos ⟨rfl, rfl⟩]
    · exact ⟨rfl, rfl, rfl⟩
  · have hseul : (∀ m', some m = some m' → (s.base.doc .messages m'.id).isSome) ↔
        (s.base.doc .messages m.id).isSome :=
      ⟨fun h => h m rfl, fun h m' hm' => Option.some.inj hm' ▸ h⟩
    rw [hseul, ends_envoyer_edition hcontenu hedition]
    rcases hd : s.base.doc .messages m.id with _ | d
    · refine iff_of_false (fun h => ?_) fun h => nomatch h
      cases hedition.symm.trans h.2
    · refine iff_of_true ⟨.inl ⟨m, writeFields s.base.clock d
        [texte .contenu (trim s.page.controller)], hedition, ?_, ?_, rfl⟩, rfl⟩ rfl
      · rw [hd]
        rfl
      · show (s.base.putDoc .messages m.id _).doc .messages m.id = _
        rw [Data.doc_putDoc, if_pos ⟨rfl, rfl⟩]

/-- The page of a conversation, as it is opened. -/
def ouverte (bouts : Bouts) (b : Base) : Composition := ⟨bouts.ouvrir, b⟩

/-- **The composer.**  Along a run of a conversation page every text sent goes to a message, and
leaves the edit mode, exactly when the message being edited is stored at every text sent. -/
theorem texte_depose_iff (S : Server) (bouts : Bouts) (b : Base) (as : List Manoeuvre) :
    AllMeet (Composition.suivante S) (TexteDepose S) (ouverte bouts b) as ↔
      AllMeet (Composition.suivante S) EditionStockee (ouverte bouts b) as :=
  allMeet_congr fun _ a => texteDepose_iff a

/-- A message of `e` to `t`. -/
def unMessage : Base :=
  baseVide.putDoc .messages "m" (newDoc 0 [texte .emetteurId "e", texte .recepteurId "t",
    texte .contenu "a", (.dateEnvoi, .put (.stamp 0)), textes .participants ["e", "t"]])

/-- The message being edited is deleted, and two more texts are sent. -/
def editionPuisSuppression : List Manoeuvre :=
  [.page .recevoir, .page (.modifier 0), .page (.supprimerPourTous 0), .page (.saisir "b"),
    .page (.envoyerMessage 1), .page (.saisir "c"), .page (.envoyerMessage 2)]

/-- Neither text is sent. -/
theorem not_texteDepose_editionPuisSuppression :
    ¬AllMeet (Composition.suivante (.longest 10)) (TexteDepose (.longest 10))
      (ouverte ⟨.eleve, "e", "t"⟩ unMessage) editionPuisSuppression := by
  intro h
  obtain ⟨-, h⟩ := h _ rfl
  obtain ⟨-, h⟩ := h _ rfl
  obtain ⟨-, h⟩ := h _ rfl
  obtain ⟨-, h⟩ := h _ rfl
  obtain ⟨hdepose, -⟩ := h _ rfl
  have hstockee := (texteDepose_iff _).mp hdepose 1 rfl (by decide +kernel) _ rfl
  exact absurd hstockee (by decide +kernel)

end EduConnect.Messagerie
