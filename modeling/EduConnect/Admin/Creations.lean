import EduConnect.Admin.Controleurs

/-!
# The screens that create classes and subjects

`AjouterClassePage` and `AjoutMatiereVue`.  Both name the new document by `Uuid().v4()`, which is an
argument here.
-/

namespace EduConnect.Admin

open Lib Prog

/-! ## AjouterClassePage -/

/-- `_AjouterClassePageState` with the text of its form. -/
structure AjouterClasse where
  etablissementId : String
  nom : String := ""
  niveauSelectionne : Option String := none
  isLoading : Bool := false
  messages : List String := []

namespace AjouterClasse

/-- The validators of the form. -/
def validate (p : AjouterClasse) : Bool :=
  trim p.nom ≠ "" && match p.niveauSelectionne with
    | some niveau => niveau ≠ ""
    | none => false

/-- The class as it is created. -/
def nouvelleClasse (p : AjouterClasse) (id niveau : String) : ClasseModele where
  id := id
  nom := trim p.nom
  niveau := niveau
  etablissementId := p.etablissementId
  matieresIds := []
  elevesIds := []
  enseignantsIds := []

def showSnackBar {Λ : Type} (texte : String) : Action Λ AjouterClasse Unit :=
  setState fun p => { p with messages := p.messages ++ [texte] }

def ajouterClasse {Λ : Type} (l : Λ) (id : String) : Action Λ AjouterClasse Unit := do
  let p ← page
  if p.validate then
    setState fun p => { p with isLoading := true }
    ensuring (catching (do
      -- `!` throws on null
      let niveau ← ofExcept (idDeDocument p.niveauSelectionne)
      poserDoc l .classes id (p.nouvelleClasse id niveau).toMap
      showSnackBar "Classe ajoutée avec succès") fun e =>
      showSnackBar ("Erreur lors de l'ajout : " ++ texteErreur e)) fun p =>
      { p with isLoading := false }
  else ret ()

end AjouterClasse

/-! ## AjoutMatiereVue -/

/-- `_AjoutMatiereVueState` with the texts of its form. -/
structure AjoutMatiere where
  etablissementId : String
  nom : String := ""
  coefficient : String := ""
  description : String := ""
  messages : List Message := []

/-- `double.parse(s)`. -/
@[irreducible] def parseDouble (s : String) : Except Err Double :=
  match Double.tryParse s with
  | some x => .ok x
  | none => .error (.format s)

namespace AjoutMatiere

def afficherMessage {Λ : Type} (titre message : String) (type : DialogType) :
    Action Λ AjoutMatiere Unit :=
  setState fun p => { p with messages := p.messages ++ [⟨titre, message, type⟩] }

/-- The validators of the form; a coefficient `NaN` passes. -/
def validate (p : AjoutMatiere) : Bool :=
  p.nom ≠ "" && (match Double.tryParse p.coefficient with
    | some parsed => !(Double.finite 0).ge parsed
    | none => false) && p.description ≠ ""

def enregistrerMatiere {Λ : Type} (l : Λ) (id : String) : Action Λ AjoutMatiere Unit := do
  let p ← page
  if p.validate then
    catching (do
      let coefficient ← ofExcept (parseDouble (trim p.coefficient))
      MatiereController.ajouterMatiere l p.etablissementId {
        id := id
        nom := trim p.nom
        coefficient := coefficient
        description := trim p.description
        etablissementId := p.etablissementId }
      afficherMessage "Succès" "La matière a été ajoutée avec succès" .success
      setState fun p => { p with nom := "", coefficient := "", description := "" }) fun e =>
      afficherMessage "Erreur" ("Échec de l'ajout de la matière : " ++ texteErreur e) .error
  else ret ()

end AjoutMatiere

end EduConnect.Admin
