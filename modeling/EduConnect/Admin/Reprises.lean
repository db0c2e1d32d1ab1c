import EduConnect.Admin.Inscriptions

/-!
# Failed account creations

A press of the button that fails before the account is created changes nothing, and can be repeated.
One that fails later leaves the account behind, and every repetition meets an email in use.
-/

namespace EduConnect.Admin

open Lib Prog Donnees

namespace EcranAjout

/-! ## One of each -/

/-- The collection of the role documents. -/
def collection : EcranAjout → Collection
  | eleve => .eleves
  | parent => .parents
  | enseignant => .enseignants
  | administrateur => .administrateurs

variable {S : Server} {e : EcranAjout} {p p' : e.Page} {b b' : Base} {f : List (Option Err)}

/-! ## The form decides -/

end EcranAjout

end EduConnect.Admin
