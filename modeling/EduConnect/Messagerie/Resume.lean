import EduConnect.Lib.Latest
import EduConnect.Lignes
import EduConnect.Messagerie.Listes
import Mathlib.Algebra.Order.Ring.Int
import Mathlib.Data.Int.ConditionallyCompleteOrder
import Mathlib.Order.ConditionallyCompleteLattice.Basic

/-!
# The summaries of the conversations

The builder of `MessagerieParentPage` and `MessagerieElevePage` goes once through the messages of
the user, and shows for each teacher the last message, the number of unread ones and a place in the
list by the date of the last one.  `String.toLowerCase` is a parameter of the search.
-/

namespace EduConnect.Messagerie

open Lib Donnees

/-! ## The builder -/

/-- `0001-01-01T00:00:00Z`, the first instant of a `Timestamp`, in microseconds. -/
def premierInstant : ℤ := -62135596800000000

/-- `DateTime(0)` and `DateTime(2000)` in the local time of the device.  The first is a year and a
day before any `Timestamp`, up to the time zone. -/
structure Fuseau where
  an0 : ℤ
  an2000 : ℤ
  anterieur : an0 < premierInstant

/-- `v ?? defaut`. -/
def ouDefaut (v defaut : Valeur) : Valeur :=
  match v with
  | .null => defaut
  | v => v

/-- `(v as Timestamp?)?.toDate()`. -/
def toDate : Valeur → Except Err (Option ℤ)
  | .null => .ok none
  | .stamp t => .ok (some t)
  | _ => .error .type

/-- `dernierMessage`, as content and date, and `nbMessagesNonLus`. -/
structure Resume where
  dernierMessage : String → Option (Valeur × Option ℤ) := fun _ => none
  nbMessagesNonLus : String → Option ℕ := fun _ => none

namespace MessagerieFamille

/-- The test on the date of a message. -/
def remplace (f : Fuseau) (dernier : Option (Valeur × Option ℤ)) (date : Option ℤ) : Bool :=
  match dernier, date with
  | none, _ => true
  | some _, none => false
  | some (_, ancienne), some date => ancienne.getD f.an0 < date

def autreId (p : MessagerieFamille) (emetteurId recepteurId : Valeur) : Valeur :=
  if emetteurId.isStr p.moi then recepteurId else emetteurId

/-- `dernierMessage[autreId] = ..`, when the message replaces the one there. -/
def noterDernier (f : Fuseau) (r : Resume) (autre : String) (date : Option ℤ) (message : Valeur) :
    Resume :=
  if remplace f (r.dernierMessage autre) date then
    { r with dernierMessage := Function.update r.dernierMessage autre (some (message, date)) }
  else r

/-- `nbMessagesNonLus[autreId] = ..`. -/
def compterNonLu (r : Resume) (autre : String) : Resume :=
  { r with
    nbMessagesNonLus :=
      Function.update r.nbMessagesNonLus autre (some ((r.nbMessagesNonLus autre).getD 0 + 1)) }

/-- What the loop does with a message to or from the teacher `autre`. -/
def noter (f : Fuseau) (p : MessagerieFamille) (r : Resume) (autre : String) (recepteurId : Valeur)
    (date : Option ℤ) (message lu : Valeur) : Except Err Resume := do
  let r := noterDernier f r autre date message
  if recepteurId.isStr p.moi then
    if ← lu.asBool then return r
    else return compterNonLu r autre
  else return r

/-- The body of the loop over `docs`. -/
def ajouter (f : Fuseau) (p : MessagerieFamille) (r : Resume) (data : Document) :
    Except Err Resume := do
  let emetteurId := ouDefaut (data.get .emetteurId) (.str "")
  let recepteurId := ouDefaut (data.get .recepteurId) (.str "")
  let date ← toDate (data.get .dateEnvoi)
  let message := ouDefaut (data.get .contenu) (.str "")
  let lu := ouDefaut (data.get .lu) (.bool true)
  match p.autreId emetteurId recepteurId with
  | .str autre =>
    if p.enseignants.any fun e => e.id = autre then p.noter f r autre recepteurId date message lu
    else return r
  | _ => return r

end MessagerieFamille

/-- The date a teacher is sorted by. -/
def Resume.cle (f : Fuseau) (r : Resume) (e : EnseignantModele) : ℤ :=
  ((r.dernierMessage e.id).bind Prod.snd).getD f.an2000

/-- `lu`, true when it is missing. -/
def estLu (d : Document) : Bool :=
  match d .lu with
  | some (.bool v) => v
  | _ => true

def dateEnvoi (d : Document) : Option ℤ :=
  match d .dateEnvoi with
  | some (.stamp t) => some t
  | _ => none

/-- What the list shows of a message, and its date. -/
def vue (d : Document) : Valeur × Option ℤ := (.str (chaine d .contenu), dateEnvoi d)

section Lecture

variable {d : Document} {f : Champ}

end Lecture

/-! ## The loop -/

section Boucle

variable {f : Fuseau} {p : MessagerieFamille} {d : Document}

/-- The teacher at the other end of a message. -/
def autre (p : MessagerieFamille) (d : Document) : String :=
  if chaine d .emetteurId = p.moi then chaine d .recepteurId else chaine d .emetteurId

/-- The user received the message and has not read it. -/
def nonLu (p : MessagerieFamille) (d : Document) : Bool :=
  chaine d .recepteurId = p.moi && !estLu d

end Boucle

/-! ## The summary -/

section Exactitude

variable {f : Fuseau} {p : MessagerieFamille} {docs docs' : List Document} {r r' : Resume}

/-- A message between the user and `t`: from the user to `t`, or from `t`. -/
def Avec (moi t : String) (d : Document) : Prop :=
  (chaine d .emetteurId = moi ∧ chaine d .recepteurId = t) ∨
    (chaine d .emetteurId ≠ moi ∧ chaine d .emetteurId = t)

end Exactitude

end EduConnect.Messagerie
