import EduConnect.Enseignant.Appel
import EduConnect.Lib.Sorted

/-!
# The grades of a student

`NotesElevePage` looks up the record of the student who is signed in and shows his grades;
`NotesEnfantPage` shows a parent those of a child.  Both list the stream of `notes`, last first.
-/

namespace EduConnect.Familles

open Lib Prog

/-! ## The tiles -/

/-- A tile, but for the name of its subject. -/
structure LigneNote where
  matiereId : String
  valeur : String
  mention : String
  detail : String
  date : Option ℤ

namespace LigneNote

/-- `data['valeur']?.toString() ?? '-'`. -/
def valeurDe : Valeur → String
  | .null => "-"
  | v => Enseignant.interpoler v

/-- What follows the label, unless it is empty. -/
def libelle (label s : String) : String := if s = "" then "" else label ++ s

/-- The line of the exercise or of the sequence. -/
def detailDe (d : Document) : Except Err String :=
  if (d.get .type).isStr "Exercice" then
    return libelle "Exercice : " (← (d.get .description).orStr "")
  else if (d.get .type).isStr "Examen" then
    return libelle "Examen : " (← (d.get .sequence).orStr "")
  else return ""

/-- `data['date'] as Timestamp?`. -/
def dateDe : Valeur → Except Err (Option ℤ)
  | .null => .ok none
  | v => v.asStamp.map some

def fromDoc (d : Document) : Except Err LigneNote := do
  return {
    matiereId := ← (d.get .matiereId).orStr ""
    valeur := valeurDe (d.get .valeur)
    mention := ← (d.get .mention).orStr ""
    detail := ← detailDe d
    date := ← dateDe (d.get .date) }

def title (matiereNom : String) (l : LigneNote) : String :=
  matiereNom ++ " — Note : " ++ l.valeur ++ "/20"

def subtitle (formatDate : ℤ → String) (l : LigneNote) : List String :=
  [libelle "Mention : " l.mention, l.detail, (l.date.map fun t => "Date : " ++ formatDate t).getD ""].filter
    (· ≠ "")

end LigneNote

/-- `_getNomMatiere`. -/
def getNomMatiere {σ : Type} (matiereId : String) : Action Unit σ String :=
  catching (do
    match ← lireDoc () .matieres matiereId with
    | some doc => ofExcept ((doc.get .nom).orStr "Matière inconnue")
    | none => return "Matière inconnue") fun _ => return "Matière inconnue"

/-! ## The lists -/

/-- What the builder of the list last received from its stream. -/
inductive Emission where
  | attente
  | erreur
  | docs (l : List (String × Document))

/-- The body of a page: each tile is built on its own. -/
inductive Corps where
  | attente
  | texte (s : String)
  | liste (tuiles : List (String × Except Err LigneNote))

def Emission.corps : Emission → Corps
  | attente => .attente
  | erreur => .texte "Erreur lors du chargement des notes."
  | docs [] => .texte "Aucune note trouvée."
  | docs notes => .liste (notes.map fun doc => (doc.1, LigneNote.fromDoc doc.2))

def requeteNotes (eleveId : String) : Query Champ :=
  ⟨[.isEqualTo .eleveId (.str eleveId)], some (.date, true), none⟩

/-- An emission of the stream. -/
def snapshots {σ : Type} (eleveId : String) : Action Unit σ Emission :=
  catching (do
    let docs ← Prog.call () (Req.query .notes (requeteNotes eleveId))
    return .docs docs) fun _ => return .erreur

structure NotesEnfantPage where
  enfantId : String
  nomComplet : String
  notes : Emission := .attente

namespace NotesEnfantPage

def recevoir : Action Unit NotesEnfantPage Unit := do
  let p ← page
  let e ← snapshots p.enfantId
  setState fun p => { p with notes := e }

def body (p : NotesEnfantPage) : Corps := p.notes.corps

end NotesEnfantPage

/-- `_NotesElevePageState`. -/
structure NotesElevePage where
  utilisateurId : String
  eleveId : Option String := none
  nomComplet : String := ""
  loading : Bool := true
  notes : Emission := .attente

namespace NotesElevePage

/-- `_chargerInfosEleve`. -/
def chargerInfosEleve : Action Unit NotesElevePage Unit :=
  catching (do
    let p ← page
    match ← chercherPremier () .eleves [.isEqualTo .utilisateurId (.str p.utilisateurId)] with
    | [] => setState fun p => { p with loading := false }
    | doc :: _ => setState fun p => { p with
        eleveId := some doc.1
        nomComplet := Enseignant.interpoler (doc.2.get .nom) ++ " " ++
          Enseignant.interpoler (doc.2.get .prenom)
        loading := false }) fun _ => setState fun p => { p with loading := false }

def recevoir : Action Unit NotesElevePage Unit := do
  let p ← page
  match p.eleveId with
  | none => return
  | some eleveId =>
    let e ← snapshots eleveId
    setState fun p => { p with notes := e }

def body (p : NotesElevePage) : Corps :=
  if p.loading then .attente
  else match p.eleveId with
    | none => .texte "Élève non trouvé."
    | some _ => p.notes.corps

end NotesElevePage

end EduConnect.Familles
