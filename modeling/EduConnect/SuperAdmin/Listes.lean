import EduConnect.Donnees.Depots
import EduConnect.SuperAdmin.Comptes

/-!
# The lists of the super administrator

`RolesPage`, `EtablissementsPage` and `ListeAdministrateurs` show what is stored, searched by name,
and open the forms that edit it.  `String.toLowerCase` is a parameter of the searches.
-/

namespace EduConnect.SuperAdmin

open Lib Prog Donnees Admin

/-- `text.contains(query)`. -/
def contient (text query : String) : Bool := decide (query.toList <:+: text.toList)

/-- The test of the lists of users on a search. -/
def correspond (toLowerCase : String → String) (searchQuery : String) (u : UtilisateurModele) : Bool :=
  contient (toLowerCase u.nom) searchQuery || contient (toLowerCase u.prenom) searchQuery ||
    contient (toLowerCase u.email) searchQuery

/-! ## RolesPage and ModifierRole -/

/-- `_supprimerRole`, once the dialog has answered `confirmation`. -/
def supprimerRole (docId : String) (confirmation : Bool) : Action Unit (List String) Unit :=
  if confirmation then do
    supprimerDoc .roles docId
    setState fun m => m ++ ["Rôle supprimé avec succès"]
  else return

structure ModifierRole where
  id : String
  nom : String
  description : String
  messages : List Message := []

namespace ModifierRole

def afficherMessage (titre message : String) (type : DialogType) : Action Unit ModifierRole Unit :=
  setState fun p => { p with messages := p.messages ++ [⟨titre, message, type⟩] }

/-- The validators of the form. -/
def validate (p : ModifierRole) : Bool := [p.nom, p.description].all (trim · ≠ "")

def modifierRole : Action Unit ModifierRole Unit := do
  let p ← page
  if p.validate then
    catching (do
      DepotRole.modifierRole p.id (trim p.nom) (trim p.description)
      afficherMessage "Succès" "Le rôle a été modifié avec succès." .success) fun e =>
      afficherMessage "Erreur" ("Échec de la modification du rôle : " ++ texteErreur e) .error
  else return

end ModifierRole

/-! ## EtablissementsPage and the forms of establishments -/

/-- `_supprimerEtablissement`, once the dialog has answered `confirmation`. -/
def supprimerEtablissement (docId : String) (confirmation : Bool) :
    Action Unit (List String) Unit :=
  if confirmation then do
    supprimerDoc .etablissements docId
    setState fun m => m ++ ["Établissement supprimé avec succès"]
  else return

/-- The texts of a form; the id is the one of the establishment that is edited, or the one made up
for a new establishment. -/
structure FormulaireEtablissement where
  etab : EtablissementModele
  messages : List Message := []

namespace FormulaireEtablissement

def afficherMessage (titre message : String) (type : DialogType) :
    Action Unit FormulaireEtablissement Unit :=
  setState fun p => { p with messages := p.messages ++ [⟨titre, message, type⟩] }

/-- The establishment with the trimmed texts. -/
def saisi (p : FormulaireEtablissement) : EtablissementModele where
  id := p.etab.id
  nom := trim p.etab.nom
  type := trim p.etab.type
  description := trim p.etab.description
  adresse := trim p.etab.adresse
  ville := trim p.etab.ville
  region := trim p.etab.region
  pays := trim p.etab.pays
  codePostal := trim p.etab.codePostal
  email := trim p.etab.email
  telephone := trim p.etab.telephone

end FormulaireEtablissement

namespace AjoutEtablissement

open FormulaireEtablissement

/-- The validators of the form. -/
def validate (p : FormulaireEtablissement) : Bool :=
  [p.etab.nom, p.etab.type, p.etab.description, p.etab.adresse, p.etab.ville, p.etab.region,
    p.etab.pays, p.etab.codePostal, p.etab.email, p.etab.telephone].all (· ≠ "")

/-- The form, its texts cleared. -/
def vider (p : FormulaireEtablissement) : FormulaireEtablissement :=
  { p with etab := ⟨p.etab.id, "", "", "", "", "", "", "", "", "", ""⟩ }

def enregistrerEtablissement : Action Unit FormulaireEtablissement Unit := do
  let p ← page
  if validate p then
    catching (do
      Donnees.DepotEtablissement.ajouterEtablissement p.saisi
      afficherMessage "Succès" "L'établissement a été ajouté avec succès" .success
      setState vider) fun e =>
      afficherMessage "Erreur" ("Échec de l'ajout de l'établissement : " ++ texteErreur e) .error
  else return

end AjoutEtablissement

namespace ModifierEtablissement

open FormulaireEtablissement

/-- The validators of the form. -/
def validate (p : FormulaireEtablissement) : Bool :=
  [p.etab.nom, p.etab.type, p.etab.adresse].all (trim · ≠ "") && contient p.etab.email "@"

def modifierEtablissement : Action Unit FormulaireEtablissement Unit := do
  let p ← page
  if validate p then
    catching (do
      Donnees.DepotEtablissement.modifierEtablissement p.etab.id p.saisi
      afficherMessage "Succès" "L’établissement a été modifié avec succès." .success) fun e =>
      afficherMessage "Erreur" ("Échec de la modification de l’établissement : " ++ texteErreur e)
        .error
  else return

end ModifierEtablissement

/-! ## ListeAdministrateurs -/

/-- `_ListeAdministrateursState`. -/
structure ListeAdministrateurs where
  searchQuery : String := ""
  roleAdministrateurId : Option String := none
  messages : List String := []

namespace ListeAdministrateurs

def fetchRoleAdministrateurId : Action Unit ListeAdministrateurs Unit := do
  let snapshot ← chercherPremier () .roles [.isEqualTo .nom (.str "administrateur")]
  match snapshot with
  | [] => return
  | doc :: _ => setState fun p => { p with roleAdministrateurId := some doc.1 }

/-- The list shown for a snapshot of the accounts with the role. -/
def admins (toLowerCase : String → String) (p : ListeAdministrateurs)
    (docs : List (String × Document)) : Except Err (List UtilisateurModele) := do
  return (← docs.mapM fun doc => UtilisateurModele.fromMap doc.2 doc.1).filter
    (correspond toLowerCase p.searchQuery)

/-- The record found for the account is deleted. -/
def supprimerPremier : List (String × Document) → Action Unit ListeAdministrateurs Unit
  | [] => return
  | doc :: _ => supprimerDoc .administrateurs doc.1

/-- `_supprimerAdministrateur`, once the dialog has answered `confirmation`. -/
def supprimerAdministrateur (utilisateurId : String) (confirmation : Bool) :
    Action Unit ListeAdministrateurs Unit :=
  if confirmation then
    catching (do
      supprimerDoc .utilisateurs utilisateurId
      let adminSnapshot ← chercherPremier () .administrateurs
        [.isEqualTo .utilisateurId (.str utilisateurId)]
      supprimerPremier adminSnapshot
      setState fun p => { p with messages := p.messages ++ ["Administrateur supprimé avec succès"] })
      fun e => setState fun p =>
        { p with messages := p.messages ++ ["Erreur lors de la suppression : " ++ texteErreur e] }
  else return

end ListeAdministrateurs

end EduConnect.SuperAdmin
