import EduConnect.Admin.Classes

/-!
# Subjects and those who teach them

`EnseignementDepot` links a teacher to a subject, without looking for an existing link;
`LierEnseignantMatierePage` calls it for the subject tapped.  A dialog of `ClasseDetailPage` puts a
subject and its teacher on a class.  `MatieresPage` deletes subjects.
-/

namespace EduConnect.Admin

open Lib Prog

/-! ## EnseignementDepot -/

namespace EnseignementDepot

variable {σ : Type}

/-- The document added for a link. -/
def enseignement (enseignantId matiereId : String) : Champs :=
  [texte .enseignantId enseignantId, texte .matiereId matiereId]

def ajouterEnseignement (enseignantId matiereId : String) : Action Etape σ Unit := do
  let _ ← ajouter .autre .enseignements (enseignement enseignantId matiereId)
  return

end EnseignementDepot

/-! ## LierEnseignantMatierePage -/

/-- `_LierEnseignantMatierePageState`, opened for the user `enseignantId`. -/
structure LierEnseignantMatiere where
  enseignantId : String
  messages : List String := []

namespace LierEnseignantMatiere

/-- `_lierMatiere`. -/
def lierMatiere (matiere : MatiereModele) : Action Etape LierEnseignantMatiere Unit :=
  let afficher (texte : String) : Action Etape LierEnseignantMatiere Unit :=
    setState fun p => { p with messages := p.messages ++ [texte] }
  catching (do
    let p ← page
    match ← chercherPremier .autre .enseignants
        [.isEqualTo .utilisateurId (.str p.enseignantId)] with
    | [] => afficher "Aucun enseignant trouvé pour cet utilisateur."
    | doc :: _ =>
      EnseignementDepot.ajouterEnseignement doc.1 matiere.id
      afficher ("La matière '" ++ matiere.nom ++ "' a été liée à l'enseignant."))
    fun e => afficher ("Erreur lors de la liaison : " ++ texteErreur e)

end LierEnseignantMatiere

/-! ## ClasseDetailPage -/

/-- What the button of the dialog "Ajouter une matière" writes. -/
def matiereEtEnseignant (matiere enseignant : String) : Champs :=
  [(.matieresIds, .arrayUnion [matiere]), (.enseignantsIds, .arrayUnion [enseignant])]

/-- The button, which does nothing but warn until both are chosen; its label plays no role. -/
def ClasseDetail.validerMatiere (matiereChoisie enseignantChoisi : Option String) :
    Action Etape ClasseDetail Unit := do
  let p ← page
  match matiereChoisie, enseignantChoisi with
  | some matiere, some enseignant =>
    ecrire .autre (.update .classes p.classeId (matiereEtEnseignant matiere enseignant))
    fetchClasseDetails
  | _, _ => return

/-! ## MatieresPage -/

/-- `_supprimerMatiere`, once the dialog has answered `confirmation`. -/
def supprimerMatiere (docId : String) (confirmation : Bool) : Action Etape (List String) Unit :=
  if confirmation then
    catching (do
      ecrire .autre (.delete .matieres docId)
      setState fun m => m ++ ["Matière supprimée avec succès"]) fun e =>
    setState fun m => m ++ ["Erreur lors de la suppression : " ++ texteErreur e]
  else ret ()

end EduConnect.Admin
