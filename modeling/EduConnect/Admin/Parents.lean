import EduConnect.Admin.ParEtablissement
import EduConnect.Messagerie.Listes
import EduConnect.SuperAdmin.Listes

/-!
# The parents of an establishment

`ListeParents` joins the `parents` documents with the users of the establishment and shows a card for
each pair.  A card opens `ModifierParent` on the id of the `parents` document, which is taken for the
id of the user, and its other button deletes both documents.
-/

namespace EduConnect.Admin

open Lib Prog Donnees Messagerie

/-! ## ListeParents -/

/-- `_ListeParentsState`. -/
structure ListeParents where
  etablissementId : String
  searchQuery : String := ""
  parents : List ParentModele := []
  utilisateursMap : List (String × UtilisateurModele) := []
  isLoading : Bool := true
  error : Option String := none
  messages : List String := []

namespace ListeParents

def utilisateur (p : ListeParents) (id : String) : Option UtilisateurModele :=
  (p.utilisateursMap.find? fun u => u.1 = id).map Prod.snd

def chargerDonnees : Action Unit ListeParents Unit :=
  catching (do
    setState fun p => { p with isLoading := true, error := none }
    let p ← page
    let usersSnapshot ← chercher () .utilisateurs
      [.isEqualTo .etablissementId (.str p.etablissementId)]
    let utilisateurs ← ofExcept (usersSnapshot.mapM fun doc => do
      return (doc.1, ← UtilisateurModele.fromMap doc.2 doc.1))
    setState fun p => { p with utilisateursMap := utilisateurs }
    let parentsSnapshot ← chercher () .parents []
    let parents ← ofExcept (parentsSnapshot.mapM fun doc => ParentModele.fromMap doc.2 doc.1)
    setState fun p =>
      { p with parents := parents.filter fun m => (p.utilisateur m.utilisateurId).isSome }
    setState fun p => { p with isLoading := false }) fun e =>
  setState fun p => { p with error := some (texteErreur e), isLoading := false }

def filtrerParents (toLowerCase : String → String) (p : ListeParents) : List ParentModele :=
  if p.searchQuery = "" then p.parents
  else p.parents.filter fun m =>
    match p.utilisateur m.utilisateurId with
    | none => false
    | some u => SuperAdmin.contient (toLowerCase (u.nom ++ " " ++ u.prenom))
        (toLowerCase p.searchQuery)

/-- The cards: each parent with his user. -/
def cartes (toLowerCase : String → String) (p : ListeParents) :
    List (ParentModele × UtilisateurModele) :=
  (p.filtrerParents toLowerCase).filterMap fun m => (p.utilisateur m.utilisateurId).map fun u => (m, u)

/-- `_supprimerParent`, once the dialog has answered `confirmation`. -/
def supprimerParent (utilisateurId parentId : String) (confirmation : Bool) :
    Action Unit ListeParents Unit :=
  if confirmation then
    catching (do
      supprimerDoc .parents parentId
      supprimerDoc .utilisateurs utilisateurId
      chargerDonnees
      setState fun p => { p with messages := p.messages ++ ["Parent supprimé avec succès"] })
      fun e => setState fun p =>
        { p with messages := p.messages ++ ["Erreur lors de la suppression : " ++ texteErreur e] }
  else return

end ListeParents

/-! ## ModifierParent -/

/-- `_ModifierParentState` with the texts of its form. -/
structure ModifierParent where
  parentId : String
  nom : String := ""
  prenom : String := ""
  email : String := ""
  telephone : String := ""
  adresse : String := ""
  loading : Bool := false
  messages : List Message := []

namespace ModifierParent

def afficherMessage (titre message : String) (type : DialogType) : Action Unit ModifierParent Unit :=
  setState fun p => { p with messages := p.messages ++ [⟨titre, message, type⟩] }

/-- Fill the controllers of the form. -/
def remplir (userData : Document) : Action Unit ModifierParent Unit := do
  let nom ← ofExcept ((userData.get .nom).orStr "")
  setState fun p => { p with nom := nom }
  let prenom ← ofExcept ((userData.get .prenom).orStr "")
  setState fun p => { p with prenom := prenom }
  let email ← ofExcept ((userData.get .email).orStr "")
  setState fun p => { p with email := email }
  let telephone ← ofExcept ((userData.get .numeroTelephone).orStr "")
  setState fun p => { p with telephone := telephone }
  let adresse ← ofExcept ((userData.get .adresse).orStr "")
  setState fun p => { p with adresse := adresse }

def chargerDonneesParent : Action Unit ModifierParent Unit := do
  setState fun p => { p with loading := true }
  ensuring (catching (do
    let p ← page
    let userDoc ← lireDoc () .utilisateurs p.parentId
    match userDoc with
    | none => afficherMessage "Erreur" "Parent introuvable" .error
    | some userData => remplir userData) fun e =>
    afficherMessage "Erreur" ("Erreur de chargement : " ++ texteErreur e) .error) fun p =>
      { p with loading := false }

/-- The validators of the form. -/
def validate (p : ModifierParent) : Bool :=
  [p.nom, p.prenom, p.email, p.telephone, p.adresse].all (· ≠ "")

def updatedUser (p : ModifierParent) : Champs :=
  [texte .nom (trim p.nom), texte .prenom (trim p.prenom), texte .email (trim p.email),
    texte .numeroTelephone (trim p.telephone), texte .adresse (trim p.adresse)]

def modifierParent : Action Unit ModifierParent Unit := do
  let p ← page
  if p.validate then
    setState fun p => { p with loading := true }
    ensuring (catching (do
      modifierDoc .utilisateurs p.parentId p.updatedUser
      afficherMessage "Succès" "Modification effectuée" .success) fun e =>
      afficherMessage "Erreur" ("Erreur : " ++ texteErreur e) .error) fun p =>
        { p with loading := false }
  else return

end ModifierParent

end EduConnect.Admin
