import EduConnect.Lib.Sched
import EduConnect.Schema

/-!
# Conversations

The conversation pages of a teacher, a parent and a student: `PageMessageDetail`,
`PageMessageDetailParent` and `PageMessageDetailEleve`.  They are one page up to the ids of the two
ends and the filter of `getMessagesStream`.
-/

namespace EduConnect.Messagerie

open Lib

/-! ## Messages -/

structure MessageModele where
  id : String
  contenu : String
  emetteurId : String
  recepteurId : String
  dateEnvoi : ℤ
  lu : Bool
  participants : List String
  deriving DecidableEq

namespace MessageModele

def fromMap (id : String) (data : Document) : Except Err MessageModele := do
  let emetteurId ← (data.get .emetteurId).orStr ""
  let recepteurId ← (data.get .recepteurId).orStr ""
  return {
    id := id
    contenu := ← (data.get .contenu).orStr ""
    emetteurId := emetteurId
    recepteurId := recepteurId
    dateEnvoi := ← (data.get .dateEnvoi).asStamp
    lu := ← (data.get .lu).orBool false
    participants := ← match data .participants with
      | some v => v.asStrs
      | none => .ok [emetteurId, recepteurId] }

/-- The id is not stored. -/
def toMap (m : MessageModele) : Champs :=
  [texte .contenu m.contenu, texte .emetteurId m.emetteurId, texte .recepteurId m.recepteurId,
    (.dateEnvoi, .put (.stamp m.dateEnvoi)), (.lu, .put (.bool m.lu)),
    textes .participants m.participants]

/-- The document `toMap` makes. -/
def document (m : MessageModele) : Document := newDoc 0 m.toMap

theorem newDoc_toMap (m : MessageModele) (now : ℤ) : newDoc now m.toMap = m.document := rfl

/-- What `toMap` stores, `fromMap` reads back. -/
@[simp] theorem fromMap_document (m : MessageModele) (id : String) :
    fromMap id m.document = .ok { m with id := id } := by
  simp [fromMap, document, toMap, newDoc, texte, textes, Doc.get, FieldOp.eval, Value.orStr,
    Value.asStr, Value.asStamp, Value.orBool, bind, Except.bind, pure, Except.pure]

end MessageModele

/-! ## The pages -/

inductive Role where
  | enseignant | parent | eleve
  deriving DecidableEq

/-- What a conversation page awaits: `lecture` is an emission of its stream, the others are writes
with what they write. -/
inductive Geste where
  | lecture
  | envoi (emetteurId recepteurId contenu : String)
  | edition (id contenu : String)
  | marquage
  | pourMoi (moi : String) (msg : MessageModele)
  | pourTous (msg : MessageModele)
  deriving DecidableEq

/-- The state of a conversation page of `moi` with `interlocuteur`. -/
structure Conversation where
  role : Role
  moi : String
  interlocuteur : String
  controller : String := ""
  messageEnCoursEdition : Option MessageModele := none
  messageEnReponse : Option MessageModele := none
  /-- The list last received from the stream. -/
  messages : List MessageModele := []
  /-- Everything listed since the page was opened; a bubble or a sheet of actions may still hold
  a message that is no longer in `messages`. -/
  vus : List MessageModele := []
  deriving DecidableEq

/-- `modules/enseignant/vues/page_message_detail.dart`. -/
def pageMessageDetail (enseignantId : String) (parentId eleveId : Option String) : Conversation :=
  { role := .enseignant, moi := enseignantId
    interlocuteur := (parentId.orElse fun _ => eleveId).getD "" }

/-- `modules/parent/vues/page_message_detail.dart`. -/
def pageMessageDetailParent (parentId enseignantId : String) : Conversation :=
  { role := .parent, moi := parentId, interlocuteur := enseignantId }

/-- `modules/eleve/vues/page_message_detail.dart`. -/
def pageMessageDetailEleve (eleveId enseignantId : String) : Conversation :=
  { role := .eleve, moi := eleveId, interlocuteur := enseignantId }

/-- The two ends of a conversation page. -/
structure Bouts where
  role : Role
  moi : String
  interlocuteur : String
  deriving DecidableEq

/-- The page its owner opens. -/
def Bouts.ouvrir (c : Bouts) : Conversation :=
  match c.role with
  | .enseignant => pageMessageDetail c.moi (some c.interlocuteur) none
  | .parent => pageMessageDetailParent c.moi c.interlocuteur
  | .eleve => pageMessageDetailEleve c.moi c.interlocuteur

namespace Conversation

open Prog

/-- The `where` of `getMessagesStream` after the query. -/
def garde (p : Conversation) (msg : MessageModele) : Bool :=
  match p.role with
  | .enseignant => p.interlocuteur ∈ msg.participants
  | .parent => p.moi ∈ msg.participants && p.interlocuteur ∈ msg.participants
  | .eleve => p.interlocuteur ∈ msg.participants

/-- The query of `getMessagesStream`. -/
def requete (p : Conversation) : Query Champ :=
  ⟨[.arrayContains .participants p.moi], some (.dateEnvoi, false), none⟩

/-- The list made of the documents of a snapshot. -/
def lister (p : Conversation) (docs : List (String × Document)) :
    Except Err (List MessageModele) := do
  let msgs ← docs.mapM fun doc => MessageModele.fromMap doc.1 doc.2
  return msgs.filter p.garde

/-- One emission of `getMessagesStream`. -/
def getMessagesStream : Action Geste Conversation (List MessageModele) :=
  page.bind fun p =>
  (Prog.call .lecture (Req.query .messages p.requete)).bind fun docs =>
  ofExcept (p.lister docs)

/-- The message `_envoyerMessage` sends. -/
def nouveau (p : Conversation) (contenu : String) (maintenant : ℤ) : MessageModele where
  id := ""
  contenu := contenu
  emetteurId := p.moi
  recepteurId := p.interlocuteur
  dateEnvoi := maintenant
  lu := false
  participants := [p.moi, p.interlocuteur]

/-- The write of `_envoyerMessage`: the message being edited, or a new one. -/
def deposer (p : Conversation) (contenu : String) (maintenant : ℤ) :
    Action Geste Conversation Unit :=
  match p.messageEnCoursEdition with
  | some m =>
    (ecrire (.edition m.id contenu) (.update .messages m.id [texte .contenu contenu])).bind
      fun _ => setState fun p => { p with messageEnCoursEdition := none }
  | none =>
    (ajouter (.envoi p.moi p.interlocuteur contenu) .messages
      (p.nouveau contenu maintenant).toMap).bind fun _ => ret ()

/-- `_envoyerMessage`, called at the time `maintenant`. -/
def envoyerMessage (maintenant : ℤ) : Action Geste Conversation Unit :=
  page.bind fun p =>
  let contenu := trim p.controller
  if contenu = "" then ret ()
  else (p.deposer contenu maintenant).bind fun _ =>
    setState fun p => { p with messageEnReponse := none, controller := "" }

/-- The updates of `_marquerMessagesCommeLus`. -/
def marques (moi : String) (messages : List MessageModele) : List Ecriture :=
  (messages.filter fun msg => msg.recepteurId = moi && !msg.lu).map fun msg =>
    .update .messages msg.id [(.lu, .put (.bool true))]

def marquerMessagesCommeLus (messages : List MessageModele) : Action Geste Conversation Unit :=
  page.bind fun p => Prog.call .marquage (Req.commit (marques p.moi messages))

/-- A new snapshot arrives: the list is shown and its messages are marked as read. -/
def recevoir : Action Geste Conversation Unit :=
  getMessagesStream.bind fun messages =>
  (setState fun p => { p with messages := messages, vus := p.vus ++ messages }).bind fun _ =>
  marquerMessagesCommeLus messages

/-- The page is built again with the list it has. -/
def reconstruire : Action Geste Conversation Unit :=
  page.bind fun p => marquerMessagesCommeLus p.messages

/-- The write of `_supprimerPourMoi`. -/
def retrait (moi : String) (msg : MessageModele) : Ecriture :=
  let newParticipants := msg.participants.erase moi
  if newParticipants = [] then .delete .messages msg.id
  else .update .messages msg.id [textes .participants newParticipants]

def supprimerPourMoi (msg : MessageModele) : Action Geste Conversation Unit :=
  page.bind fun p => ecrire (.pourMoi p.moi msg) (retrait p.moi msg)

def supprimerPourTous (msg : MessageModele) : Action Geste Conversation Unit :=
  page.bind fun p =>
  if msg.emetteurId ≠ p.moi then ret ()
  else ecrire (.pourTous msg) (.delete .messages msg.id)

end Conversation

/-! ## What a user can do -/

inductive Evenement where
  | recevoir
  | reconstruire
  | saisir (contenu : String)
  | envoyerMessage (maintenant : ℤ)
  /-- The actions of the sheet opened on the `n`-th message seen. -/
  | repondre (n : ℕ)
  | annulerReponse
  | modifier (n : ℕ)
  | supprimerPourMoi (n : ℕ)
  | supprimerPourTous (n : ℕ)
  deriving DecidableEq

open Prog Conversation in
/-- The program an event starts. -/
def Conversation.on (p : Conversation) : Evenement → Option (Action Geste Conversation Unit)
  | .recevoir => some recevoir
  | .reconstruire => some reconstruire
  | .saisir contenu => some (setState fun p => { p with controller := contenu })
  | .envoyerMessage maintenant => some (envoyerMessage maintenant)
  | .repondre n => p.vus[n]?.map fun msg => setState fun p => { p with messageEnReponse := some msg }
  | .annulerReponse => some (setState fun p => { p with messageEnReponse := none })
  | .modifier n => (p.vus[n]?.filter fun msg => msg.emetteurId = p.moi).map fun msg =>
      setState fun p => { p with messageEnCoursEdition := some msg, controller := msg.contenu }
  | .supprimerPourMoi n => p.vus[n]?.map supprimerPourMoi
  | .supprimerPourTous n =>
    (p.vus[n]?.filter fun msg => msg.emetteurId = p.moi).map supprimerPourTous

end EduConnect.Messagerie
