import EduConnect.Admin.Classes
import EduConnect.Pannes
import EduConnect.Lib.Runs

/-!
# The controllers of classes and subjects

The other operations of `ClasseController` and those of `MatiereController`, and whether they stay
within the connected establishment.  A creation writes under the id of its argument without looking,
and the edit of a subject writes the establishment of its argument.
-/

namespace EduConnect.Admin

open Lib Prog

/-! ## ClasseController -/

section Operations

variable {Λ σ : Type} (l : Λ) (etablissementId : String)

/-- `collection(c).doc(id).set(fs)`, where `doc` refuses an empty id. -/
def poserDoc (c : Collection) (id : String) (fs : Champs) : Action Λ σ Unit :=
  if id = "" then fail .invalidArgument else ecrire l (.set c id fs)

/-- A reading operation: its errors are thrown again under its own text. -/
def lecture {α : Type} (contexte : String) (p : Action Λ σ α) : Action Λ σ α :=
  catching p fun e => fail (.exception (contexte ++ texteErreur e))

/-- The document `id`, decoded, if it exists and belongs to the connected establishment. -/
def lireConnecte {α : Type} (c : Collection) (id : String) (decode : Document → Except Err α) :
    Action Λ σ (Option α) := do
  let doc ← lireDoc l c id
  match doc with
  | some data =>
    if (data .etablissementId).bind Value.scalar = some (.str etablissementId) then do
      return some (← ofExcept (decode data))
    else return none
  | none => return none

namespace ClasseController

def ajouterClasse (classe : ClasseModele) : Action Λ σ Unit :=
  lecture "Erreur lors de l'ajout de la classe : " (poserDoc l .classes classe.id
    ({ classe with etablissementId := etablissementId } : ClasseModele).toMap)

def getToutesLesClasses : Action Λ σ (List ClasseModele) :=
  lecture "Erreur lors de la lecture des classes : " (do
    let docs ← chercher l .classes [.isEqualTo .etablissementId (.str etablissementId)]
    ofExcept (docs.mapM fun doc => ClasseModele.fromMap doc.2 doc.1))

def getClasseParId (id : String) : Action Λ σ (Option ClasseModele) :=
  lecture "Erreur lors de la lecture de la classe : "
    (lireConnecte l etablissementId .classes id fun data => ClasseModele.fromMap data id)

/-- An update of a class of the connected establishment. -/
def modifier (classeId contexte : String) (fs : Champs) : Action Λ σ Unit :=
  siClasseConnectee l etablissementId classeId
    "Vous ne pouvez pas modifier une classe d'un autre établissement." contexte
    (ecrire l (.update .classes classeId fs))

def ajouterMatiere (classeId matiereId : String) : Action Λ σ Unit :=
  modifier l etablissementId classeId "Erreur lors de l'ajout de la matière : "
    [(.matieresIds, .arrayUnion [matiereId])]

def supprimerMatiere (classeId matiereId : String) : Action Λ σ Unit :=
  modifier l etablissementId classeId "Erreur lors de la suppression de la matière : "
    [(.matieresIds, .arrayRemove [matiereId])]

def ajouterEnseignant (classeId enseignantId : String) : Action Λ σ Unit :=
  modifier l etablissementId classeId "Erreur lors de l'ajout de l'enseignant : "
    [(.enseignantsIds, .arrayUnion [enseignantId])]

def supprimerEnseignant (classeId enseignantId : String) : Action Λ σ Unit :=
  modifier l etablissementId classeId "Erreur lors de la suppression de l'enseignant : "
    [(.enseignantsIds, .arrayRemove [enseignantId])]

/-- The fields `mettreAJourClasse` writes. -/
def miseAJour (nom niveau : Option String) : Champs :=
  (nom.map (texte .nom)).toList ++ (niveau.map (texte .niveau)).toList

def mettreAJourClasse (classeId : String) (nom niveau : Option String) : Action Λ σ Unit :=
  siClasseConnectee l etablissementId classeId
    "Vous ne pouvez pas modifier une classe d'un autre établissement."
    "Erreur lors de la mise à jour de la classe : "
    (if miseAJour nom niveau = [] then ret ()
      else ecrire l (.update .classes classeId (miseAJour nom niveau)))

end ClasseController

/-! ## MatiereController -/

namespace MatiereController

def ajouterMatiere (matiere : MatiereModele) : Action Λ σ Unit :=
  lecture "Erreur lors de l'ajout de la matière : " (poserDoc l .matieres matiere.id
    ({ matiere with etablissementId := etablissementId } : MatiereModele).toMap)

def lireToutesLesMatieres : Action Λ σ (List MatiereModele) :=
  lecture "Erreur lors de la lecture des matières : " (do
    let docs ← chercher l .matieres [.isEqualTo .etablissementId (.str etablissementId)]
    ofExcept (docs.mapM fun doc => MatiereModele.fromMap doc.2 (some doc.1)))

def lireMatiereParId (id : String) : Action Λ σ (Option MatiereModele) :=
  lecture "Erreur lors de la lecture de la matière : "
    (lireConnecte l etablissementId .matieres id fun data => MatiereModele.fromMap data (some id))

def modifierMatiere (matiere : MatiereModele) : Action Λ σ Unit :=
  siConnecte l .matieres "Matière non trouvée." etablissementId matiere.id
    "Vous ne pouvez pas modifier une matière d'un autre établissement."
    "Erreur lors de la modification de la matière : "
    (ecrire l (.update .matieres matiere.id matiere.toMap))

def supprimerMatiere (id : String) : Action Λ σ Unit :=
  siConnecte l .matieres "Matière non trouvée." etablissementId id
    "Vous ne pouvez pas supprimer une matière d'un autre établissement."
    "Erreur lors de la suppression de la matière : "
    (ecrire l (.delete .matieres id))

/-- The loop of `supprimerToutesLesMatieres`. -/
def supprimerDocs : List (String × Document) → Action Λ σ Unit
  | [] => ret ()
  | doc :: docs => do
    ecrire l (.delete .matieres doc.1)
    supprimerDocs docs

def supprimerToutesLesMatieres : Action Λ σ Unit :=
  lecture "Erreur lors de la suppression de toutes les matières : " (do
    let docs ← chercher l .matieres [.isEqualTo .etablissementId (.str etablissementId)]
    supprimerDocs l docs)

end MatiereController

end Operations

/-! ## Calls -/

/-- A call of one of the two controllers. -/
inductive AppelControleur where
  | ajouterClasse (classe : ClasseModele)
  | getToutesLesClasses
  | getClasseParId (id : String)
  | supprimerClasse (id : String)
  | ajouterEleve (classeId eleveId : String)
  | supprimerEleve (classeId eleveId : String)
  | ajouterMatiereAClasse (classeId matiereId : String)
  | supprimerMatiereDeClasse (classeId matiereId : String)
  | ajouterEnseignant (classeId enseignantId : String)
  | supprimerEnseignant (classeId enseignantId : String)
  | mettreAJourClasse (classeId : String) (nom niveau : Option String)
  | ajouterMatiere (matiere : MatiereModele)
  | lireToutesLesMatieres
  | lireMatiereParId (id : String)
  | modifierMatiere (matiere : MatiereModele)
  | supprimerMatiere (id : String)
  | supprimerToutesLesMatieres

/-- The program of a call, whatever it returns; the labels play no role when it runs alone. -/
def AppelControleur.action (etablissementId : String) : AppelControleur → Action Etape Unit Unit
  | ajouterClasse classe => ClasseController.ajouterClasse .autre etablissementId classe
  | getToutesLesClasses => do
    let _ ← ClasseController.getToutesLesClasses .autre etablissementId
  | getClasseParId id => do
    let _ ← ClasseController.getClasseParId .autre etablissementId id
  | supprimerClasse id => ClasseController.supprimerClasse etablissementId id
  | ajouterEleve classeId eleveId =>
    ClasseController.ajouterEleve etablissementId classeId eleveId
  | supprimerEleve classeId eleveId =>
    ClasseController.supprimerEleve etablissementId classeId eleveId
  | ajouterMatiereAClasse classeId matiereId =>
    ClasseController.ajouterMatiere .autre etablissementId classeId matiereId
  | supprimerMatiereDeClasse classeId matiereId =>
    ClasseController.supprimerMatiere .autre etablissementId classeId matiereId
  | ajouterEnseignant classeId enseignantId =>
    ClasseController.ajouterEnseignant .autre etablissementId classeId enseignantId
  | supprimerEnseignant classeId enseignantId =>
    ClasseController.supprimerEnseignant .autre etablissementId classeId enseignantId
  | mettreAJourClasse classeId nom niveau =>
    ClasseController.mettreAJourClasse .autre etablissementId classeId nom niveau
  | ajouterMatiere matiere => MatiereController.ajouterMatiere .autre etablissementId matiere
  | lireToutesLesMatieres => do
    let _ ← MatiereController.lireToutesLesMatieres .autre etablissementId
  | lireMatiereParId id => do
    let _ ← MatiereController.lireMatiereParId .autre etablissementId id
  | modifierMatiere matiere => MatiereController.modifierMatiere .autre etablissementId matiere
  | supprimerMatiere id => MatiereController.supprimerMatiere .autre etablissementId id
  | supprimerToutesLesMatieres =>
    MatiereController.supprimerToutesLesMatieres .autre etablissementId

/-- The data after a call whose requests meet the faults `pannes`. -/
def apresAppel (S : Server) (etablissementId : String) (b : Base)
    (a : AppelControleur × List (Option Err)) : Base :=
  ((a.1.action etablissementId).exec (faulty S.handler) () (b, a.2)).2.2.1

end EduConnect.Admin
