import EduConnect.Modeles

/-!
# The screens that write classes

`ClasseDetailPage`, `ModifierClassePage`, `ClassesPage` and `ClasseController`.  An await that
writes a class is labelled by the write it sends (`Etape`), together with the copy of the class it
was computed from when there is one.
-/

namespace EduConnect.Admin

open Lib Prog

/-- The awaits of the administrator's screens. -/
inductive Etape where
  /-- A request that does not write `classes`. -/
  | autre
  /-- `_enregistrerEleve` writes back the list `lus` it has read, with `e` added. -/
  | ajoutListe (c : String) (lus : List Valeur) (e : String)
  /-- `toggleElement` writes the list `champ` of its copy with `e` added or removed. -/
  | bascule (c : String) (champ : Champ) (copie : List String) (e : String) (selected : Bool)
  | reinitialisation (c : String)
  /-- `_modifierClasse` writes its copy of the class with a new name and level. -/
  | edition (c : String) (copie : ClasseModele) (nom niveau : String)
  | suppression (c : String)
  | ajoutEleve (c e : String)
  | retraitEleve (c e : String)

/-! ## ClasseDetailPage -/

/-- `_ClasseDetailPageState`, without the lists it only displays. -/
structure ClasseDetail where
  classeId : String
  classeData : Option Document := none

namespace ClasseDetail

def fetchClasseDetails : Action Etape ClasseDetail Unit :=
  catching (do
    let p ← page
    let data ← lire .autre .classes p.classeId
    setState fun p => { p with classeData := data }) fun _ => ret ()

/-- `Set<String>.from(l)` with `elementId` added or removed. -/
def basculer (l : List String) (elementId : String) (selected : Bool) : List String :=
  if selected then
    if elementId ∈ l.eraseDups then l.eraseDups else l.eraseDups ++ [elementId]
  else l.eraseDups.filter (· ≠ elementId)

theorem mem_basculer {l : List String} {e x : String} {selected : Bool} :
    x ∈ basculer l e selected ↔ if selected then x ∈ l ∨ x = e else x ∈ l ∧ x ≠ e := by
  unfold basculer
  cases selected with
  | true =>
    by_cases he : e ∈ l
    · have hmem : x = e → x ∈ l := fun hx => hx ▸ he
      simpa [he] using hmem
    · simp [he]
  | false => simp

/-- The list called `type` in the source is `champ` here. -/
def toggleElement (champ : Champ) (elementId : String) (selected : Bool) :
    Action Etape ClasseDetail Unit := do
  let p ← page
  match p.classeData with
  | none => ret ()
  | some classeData =>
    -- outside the `try`: a list that is not made of strings throws
    let currentList ← ofExcept (classeData.get champ).orStrs
    catching (do
      ecrire (.bascule p.classeId champ currentList elementId selected)
        (.update .classes p.classeId [textes champ (basculer currentList elementId selected)])
      fetchClasseDetails) fun _ => ret ()

/-- What `resetClasse` writes. -/
def listesVides : Champs :=
  [textes .matieresIds [], textes .elevesIds [], textes .enseignantsIds []]

def resetClasse : Action Etape ClasseDetail Unit :=
  catching (do
    let p ← page
    ecrire (.reinitialisation p.classeId) (.update .classes p.classeId listesVides)
    fetchClasseDetails) fun _ => ret ()

theorem post_resetClasse {S : Server} {p : ClasseDetail} {b : Base} :
    resetClasse.Post S.handler (fun _ _ b' => ∃ d, b.doc .classes p.classeId = some d ∧
      b' = b.putDoc .classes p.classeId (writeFields b.clock d listesVides)) p b := by
  simp only [resetClasse, fetchClasseDetails, bind_eq, post_catching, post_bind, post_page,
    post_update, post_lire, post_setState]
  intro d hd
  exact ⟨d, hd, rfl⟩

end ClasseDetail

/-! ## ModifierClassePage -/

/-- `_ModifierClassePageState`. -/
structure ModifierClasse where
  idClasse : String
  nom : String := ""
  niveauSelectionne : Option String := none
  isLoading : Bool := false
  isFetching : Bool := true
  classeModele : Option ClasseModele := none
  messages : List String := []

namespace ModifierClasse

def showSnackBar (texte : String) : Action Etape ModifierClasse Unit :=
  setState fun p => { p with messages := p.messages ++ [texte] }

def chargerClasse : Action Etape ModifierClasse Unit :=
  ensuring (catching (do
    let p ← page
    let doc ← lire .autre .classes p.idClasse
    match doc with
    | none => ret ()
    | some data =>
      let modele ← ofExcept (ClasseModele.fromMap data p.idClasse)
      setState fun p => { p with
        classeModele := some modele
        nom := modele.nom
        niveauSelectionne := some modele.niveau }) fun e =>
    showSnackBar ("Erreur chargement: " ++ texteErreur e)) fun p =>
  { p with isFetching := false }

/-- The validators of the form. -/
def validate (p : ModifierClasse) : Bool :=
  trim p.nom ≠ "" && match p.niveauSelectionne with
    | some niveau => niveau ≠ ""
    | none => false

def modifierClasse : Action Etape ModifierClasse Unit := do
  let p ← page
  match p.classeModele, p.niveauSelectionne with
  | some modele, some niveau =>
    if p.validate then
      setState fun p => { p with isLoading := true }
      ensuring (catching (do
        let classeModifiee : ClasseModele := { modele with nom := trim p.nom, niveau := niveau }
        ecrire (.edition p.idClasse modele (trim p.nom) niveau)
          (.set .classes p.idClasse classeModifiee.toMap)
        showSnackBar "Classe modifiée avec succès") fun e =>
        showSnackBar ("Erreur : " ++ texteErreur e)) fun p => { p with isLoading := false }
    else ret ()
  -- without a level the form is not valid
  | _, _ => ret ()

end ModifierClasse

/-! ## ClassesPage -/

/-- `_supprimerClasse`, once the dialog has answered `confirmation`. -/
def supprimerClasse (docId : String) (confirmation : Bool) : Action Etape (List String) Unit :=
  if confirmation then
    catching (do
      ecrire (.suppression docId) (.delete .classes docId)
      setState fun m => m ++ ["Classe supprimée avec succès"]) fun e =>
    setState fun m => m ++ ["Erreur lors de la suppression : " ++ texteErreur e]
  else ret ()

/-! ## ClasseController -/

/-- The frame the operations of the controllers share: `op` on the document `id`, if it exists and
belongs to the connected establishment; any error is thrown again under the operation's own text. -/
def siConnecte {Λ σ : Type} (l : Λ) (c : Collection) (introuvable etablissementId id refus
    contexte : String) (op : Action Λ σ Unit) : Action Λ σ Unit :=
  catching (do
    let doc ← lireDoc l c id
    match doc with
    | some data =>
      if (data .etablissementId).bind Value.scalar = some (.str etablissementId) then op
      else fail (.exception refus)
    | none => fail (.exception introuvable)) fun e =>
  fail (.exception (contexte ++ texteErreur e))

/-- The frame of `ClasseController`. -/
def siClasseConnectee {Λ σ : Type} (l : Λ) (etablissementId classeId refus contexte : String)
    (op : Action Λ σ Unit) : Action Λ σ Unit :=
  siConnecte l .classes "Classe non trouvée." etablissementId classeId refus contexte op

namespace ClasseController

variable {σ : Type}

def ajouterEleve (etablissementId classeId eleveId : String) : Action Etape σ Unit :=
  siClasseConnectee .autre etablissementId classeId
    "Vous ne pouvez pas modifier une classe d'un autre établissement."
    "Erreur lors de l'ajout de l'élève : "
    (ecrire (.ajoutEleve classeId eleveId)
      (.update .classes classeId [(.elevesIds, .arrayUnion [eleveId])]))

def supprimerEleve (etablissementId classeId eleveId : String) : Action Etape σ Unit :=
  siClasseConnectee .autre etablissementId classeId
    "Vous ne pouvez pas modifier une classe d'un autre établissement."
    "Erreur lors de la suppression de l'élève : "
    (ecrire (.retraitEleve classeId eleveId)
      (.update .classes classeId [(.elevesIds, .arrayRemove [eleveId])]))

def supprimerClasse (etablissementId id : String) : Action Etape σ Unit :=
  siClasseConnectee .autre etablissementId id
    "Vous ne pouvez pas supprimer une classe d'un autre établissement."
    "Erreur lors de la suppression de la classe : "
    (ecrire (.suppression id) (.delete .classes id))

end ClasseController

end EduConnect.Admin
