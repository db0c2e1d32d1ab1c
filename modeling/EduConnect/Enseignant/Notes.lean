import EduConnect.Enseignant.Appel

/-!
# Grades

`NotesPage`: a teacher chooses a class and a subject, the students of the class are loaded, he types
their grades and saves.  Each student of the class, as it was when the page was opened, gets a
notification, and so does each family of his.
-/

namespace EduConnect.Enseignant

open Lib Prog

/-- `_EleveAvecNom`. -/
structure EleveAvecNom where
  eleveId : String
  utilisateurId : String
  nom : String
  prenom : String
  notesIds : List String
  deriving DecidableEq

/-- `typesNotes`. -/
inductive TypeNote where
  | exercice
  | examen
  deriving DecidableEq

def TypeNote.libelle : TypeNote → String
  | exercice => "Exercice"
  | examen => "Examen"

def sequences : List String :=
  ["Séquence 1", "Séquence 2", "Séquence 3", "Séquence 4", "Séquence 5", "Séquence 6"]

structure NotesPage extends Choix where
  eleves : List EleveAvecNom := []
  /-- The texts of the grade fields, by student. -/
  notesStr : Table String String := Table.empty
  descriptionExercice : String := ""
  typeNote : Option TypeNote := none
  sequenceChoisie : Option String := none
  messages : List String := []

/-- The awaits of the page. -/
inductive EtapeNotes where
  | choix
  | eleves
  | matiere
  | eleve
  | compte
  | note
  | notesIds
  | familles
  | parent
  | notification
  deriving DecidableEq

/-- `_getMention`. -/
def getMention (note : Double) : String :=
  if note.ge (.finite 16) then "Très bien"
  else if note.ge (.finite 14) then "Bien"
  else if note.ge (.finite 12) then "Assez bien"
  else if note.ge (.finite 10) then "Passable"
  else "Insuffisant"

/-- The text of a grade field as `double.parse` gets it. -/
def texteNote (texte : String) : String := replaceChar ',' '.' (trim texte)

/-- The test of `_enregistrerNotes` on an entry. -/
def noteAcceptee (texte : String) : Bool :=
  if trim texte = "" then true
  else match Double.tryParse (texteNote texte) with
    | none => false
    | some noteVal => !noteVal.lt (.finite 0) && !(Double.finite 20).lt noteVal

/-- `v!`, which throws on null. -/
def nonNul {α : Type} : Option α → Except Err α
  | some v => .ok v
  | none => .error .type

namespace NotesPage

def sur (f : Choix → Choix) (p : NotesPage) : NotesPage := { p with toChoix := f p.toChoix }

/-- A snack bar. -/
def afficher (texte : String) (p : NotesPage) : NotesPage :=
  { p with messages := p.messages ++ [texte] }

/-! ## The loads -/

/-- The entry of a class, with the students it has when the page is opened. -/
def classe (id : String) (data : Document) (matieresIds : List String) :
    Except Err ClasseAvecMatieres := do
  return {
    classeId := id
    nomClasse := ← (data.get .nom).orStr ""
    niveauClasse := ← (data.get .niveau).orStr ""
    matieresIds := matieresIds
    elevesIds := ← (data.get .elevesIds).orStrs }

/-- `_initData`. -/
def initData : Action EtapeNotes NotesPage Unit :=
  let fin (texte : String) : Action EtapeNotes NotesPage Unit :=
    setState fun p => sur (fun c => { c with loading := false }) (afficher texte p)
  Choix.initData toChoix sur .choix classe (fin "Enseignant introuvable.")
    fun e => fin ("Erreur: " ++ texteErreur e)

/-- `_chargerMatieres`. -/
def chargerMatieres (classeId : String) : Action EtapeNotes NotesPage Unit :=
  Choix.chargerMatieres toChoix sur .choix classeId

/-- One of the futures of `_chargerEleves`. -/
def chargerEleve (id : String) : Action EtapeNotes NotesPage (Option EleveAvecNom) := do
  match ← lireDoc .eleves .eleves id with
  | none => return none
  | some eleveDoc =>
    match ← ofExcept ((eleveDoc.field .utilisateurId).bind AppelPage.reference) with
    | none => return none
    | some utilisateurId =>
      match ← lire .eleves .utilisateurs utilisateurId with
      | none => return none
      | some userDoc =>
        let nom ← ofExcept ((userDoc.field .nom).bind (Value.orStr "Nom inconnu"))
        let prenom ← ofExcept ((userDoc.field .prenom).bind (Value.orStr ""))
        let notesIds ← ofExcept ((eleveDoc.field .notesIds).bind Value.orStrs)
        return some ⟨id, utilisateurId, nom, prenom, notesIds⟩

/-- The futures of `_chargerEleves`, which only read, in the order of the roster. -/
def chargerTous : List String → Action EtapeNotes NotesPage (List (Option EleveAvecNom))
  | [] => return []
  | id :: ids => do
    let eleve ← chargerEleve id
    return eleve :: (← chargerTous ids)

/-- `_chargerEleves`. -/
def chargerEleves (classeId : String) : Action EtapeNotes NotesPage Unit := do
  let doc ← lireDoc .eleves .classes classeId
  let ids ← ofExcept (AppelPage.elevesIds doc)
  let results ← chargerTous ids
  attendre .eleves
  setState fun p =>
    { p with eleves := results.reduceOption, notesStr := Table.empty, descriptionExercice := "" }

/-! ## What is written -/

/-- What `_enregistrerNotes` reads from the clock: the day, and the time of each document. -/
structure Horloge where
  jour : String
  note : String → ℤ
  parent : String → String → ℤ
  notification : String → ℤ

/-- The student whose turn it is. -/
structure Destinataire where
  eleveId : String
  utilisateurId : Valeur
  prenom : String
  nom : String

/-- The grade typed for a student, if any. -/
@[irreducible] def noteSaisie (p : NotesPage) (eleveId : String) : Except Err (Option Double) :=
  let texte := (p.notesStr.find eleveId).getD ""
  if trim texte = "" then .ok none
  else match Double.tryParse (texteNote texte) with
    | some noteVal => .ok (some noteVal)
    | none => .error (.format (texteNote texte))

/-- The fields only an exercise or only an exam has. -/
def complements (p : NotesPage) : Champs :=
  match p.typeNote with
  | some .exercice => [texte .description (trim p.descriptionExercice)]
  | some .examen => [texte .sequence (p.sequenceChoisie.getD "")]
  | none => []

/-- The document added to `notes`. -/
def note (p : NotesPage) (h : Horloge) (eleveId : String) (noteVal : Double) (type : TypeNote)
    (matiereId : String) : Champs :=
  [(.valeur, .put (.num noteVal)), texte .type type.libelle, texte .mention (getMention noteVal),
    texte .eleveId eleveId, texte .matiereId matiereId, (.date, .put (.stamp (h.note eleveId)))] ++
    p.complements

/-- The fields that both types of grade have. -/
theorem newDoc_note (p : NotesPage) (h : Horloge) (eleveId : String) (noteVal : Double)
    (type : TypeNote) (matiereId : String) (now : ℤ) {f : Champ} (hd : f ≠ .description)
    (hs : f ≠ .sequence) :
    newDoc now (p.note h eleveId noteVal type matiereId) f = newDoc now
      [(.valeur, .put (.num noteVal)), texte .type type.libelle, texte .mention (getMention noteVal),
        texte .eleveId eleveId, texte .matiereId matiereId,
        (.date, .put (.stamp (h.note eleveId)))] f := by
  refine newDoc_append_of_not_mem ?_
  unfold complements
  rcases p.typeNote with _ | _ | _
  · exact List.not_mem_nil
  · simpa [texte] using hd
  · simpa [texte] using hs

/-- `messageParent`. -/
def messageParent (p : NotesPage) (h : Horloge) (e : Destinataire) (matiereNom : Valeur) :
    Option Double → String
  | some noteVal =>
    "Le " ++ h.jour ++ ", " ++ e.prenom ++ " " ++ e.nom ++ " a reçu une nouvelle note (" ++
      noteVal.toText ++ ") en " ++ interpoler matiereNom ++ "." ++
      match p.typeNote with
      | some .exercice => " Exercice : \"" ++ p.descriptionExercice ++ "\"."
      | some .examen => " Examen : " ++ p.sequenceChoisie.getD "séquence inconnue" ++ "."
      | none => ""
  | none =>
    "Le " ++ h.jour ++ ", aucune note n'a été enregistrée pour votre enfant " ++ e.prenom ++ " " ++
      e.nom ++ " en " ++ interpoler matiereNom ++ "."

/-- `messageEleve`. -/
def messageEleve (h : Horloge) (matiereNom : Valeur) : Option Double → String
  | some noteVal =>
    "Tu as une nouvelle note (" ++ noteVal.toText ++ ") en " ++ interpoler matiereNom ++ "."
  | none =>
    "Le " ++ h.jour ++ ", aucune note n'a été enregistrée pour toi en " ++ interpoler matiereNom ++
      "."

/-- The id of the new grade, when there is one. -/
def idNote : Option (Double × String) → Champs
  | some note => [texte .noteId note.2]
  | none => []

/-- `metadata`. -/
def metadata (p : NotesPage) (matiereNom : Valeur) (note : Option (Double × String)) : Champs :=
  [(.note, .put (valeurOption (note.map fun n => .num n.1))), (.matiere, .put matiereNom),
    (.typeNote, .put (valeurOption (p.typeNote.map fun t => .str t.libelle)))] ++ p.complements ++
    idNote note

/-- The notification of the parent in a family document. -/
def notificationParent (p : NotesPage) (h : Horloge) (e : Destinataire) (matiereNom : Valeur)
    (note : Option (Double × String)) (message : String) (famille : String × Document) : Champs :=
  [texte .eleveId e.eleveId, (.parentId, .put (famille.2.get .parentId)),
    texte .expediteurRole "enseignant", texte .etablissementId p.etablissementId,
    texte .titre ("Nouvelle note en " ++ interpoler matiereNom), texte .message message,
    (.lu, .put (.bool false)), (.createdAt, .put (.stamp (h.parent e.eleveId famille.1))),
    texte .type "note", (.metadata, .put (.map (newDoc 0 (p.metadata matiereNom note))))]

/-- The notification of the student. -/
def notificationEleve (h : Horloge) (e : Destinataire) (note : Option (Double × String))
    (message : String) : Champs :=
  [(.destinataireId, .put e.utilisateurId), texte .type "note", texte .message message,
    (.date, .put (.stamp (h.notification e.eleveId))), (.vu, .put (.bool false)),
    texte .eleveId e.eleveId] ++ idNote note

/-! ## Saving -/

/-- The first name and the name of an account. -/
def noms (utilisateurId : Valeur) : Action EtapeNotes NotesPage (String × String) := do
  match ← ofExcept (AppelPage.reference utilisateurId) with
  | none => return ("Prénom", "Nom")
  | some id =>
    match ← lire .compte .utilisateurs id with
    | none => return ("Prénom", "Nom")
    | some utilisateur =>
      let prenom ← ofExcept ((utilisateur.get .prenom).orStr "Prénom")
      let nom ← ofExcept ((utilisateur.get .nom).orStr "Nom")
      return (prenom, nom)

/-- The grade typed for a student is stored. -/
def noter (h : Horloge) (eleveId : String) :
    Action EtapeNotes NotesPage (Option (Double × String)) := do
  let p ← page
  match ← ofExcept (p.noteSaisie eleveId) with
  | none => return none
  | some noteVal =>
    let type ← ofExcept (nonNul p.typeNote)
    let matiereId ← ofExcept (nonNul p.matiereChoisieId)
    let noteId ← ajouter .note .notes (p.note h eleveId noteVal type matiereId)
    ecrire .notesIds (.update .eleves eleveId [(.notesIds, .arrayUnion [noteId])])
    return some (noteVal, noteId)

/-- The loop over the families of a student; the page is read again at each turn. -/
def notifierFamilles (h : Horloge) (e : Destinataire) (matiereNom : Valeur)
    (note : Option (Double × String)) (message : String) :
    List (String × Document) → Action EtapeNotes NotesPage Unit
  | [] => return
  | famille :: familles => do
    let p ← page
    let _ ← ajouter .parent .notifications
      (p.notificationParent h e matiereNom note message famille)
    notifierFamilles h e matiereNom note message familles

/-- The end of a turn: the families of the student, then the student, are notified. -/
def avertir (h : Horloge) (matiereNom : Valeur) (e : Destinataire)
    (note : Option (Double × String)) : Action EtapeNotes NotesPage Unit := do
  let p ← page
  let familles ← chercher .familles .famille [.isEqualTo .eleveId (.str e.eleveId)]
  notifierFamilles h e matiereNom note (p.messageParent h e matiereNom (note.map Prod.fst)) familles
  let _ ← ajouter .notification .notifications
    (notificationEleve h e note (messageEleve h matiereNom (note.map Prod.fst)))
  return

/-- The body of the loop over the students. -/
def enregistrerEleve (h : Horloge) (matiereNom : Valeur) (eleveId : String) :
    Action EtapeNotes NotesPage Unit := do
  match ← lireDoc .eleve .eleves eleveId with
  | none => return
  | some eleve =>
    let (prenom, nom) ← noms (eleve.get .utilisateurId)
    let note ← noter h eleveId
    avertir h matiereNom ⟨eleveId, eleve.get .utilisateurId, prenom, nom⟩ note

/-- The loop over the students. -/
def parcourir (h : Horloge) (matiereNom : Valeur) : List String → Action EtapeNotes NotesPage Unit
  | [] => return
  | eleveId :: ids => do
    enregistrerEleve h matiereNom eleveId
    parcourir h matiereNom ids

/-- The students of the class chosen, as the page knows them since it was opened. -/
def elevesDeLaClasse (p : NotesPage) : List String :=
  ((p.classesAvecMatieres.find? fun c => some c.classeId = p.classeChoisieId).map
    ClasseAvecMatieres.elevesIds).getD []

/-- The page after a save. -/
def vider (p : NotesPage) : NotesPage :=
  { p with
    notesStr := Table.empty, descriptionExercice := "", typeNote := none, sequenceChoisie := none
    matiereChoisieId := none, classeChoisieId := none, eleves := [] }

/-- The name of the subject chosen; the document must have one, if it is there. -/
def nomMatiere : Option Document → Except Err Valeur
  | some matiere => matiere.field .nom
  | none => .ok (.str "matière inconnue")

/-- The requests of `_enregistrerNotes`. -/
def enregistrerTous (h : Horloge) (matiereId : String) : Action EtapeNotes NotesPage Unit := do
  let matiereDoc ← lireDoc .matiere .matieres matiereId
  let matiereNom ← ofExcept (nomMatiere matiereDoc)
  parcourir h matiereNom (← page).elevesDeLaClasse

/-- What the page says when the grades are saved. -/
def succes : String := "Notes et notifications enregistrées avec succès."

/-- The `try` of `_enregistrerNotes`. -/
def enregistrer (h : Horloge) (matiereId : String) : Action EtapeNotes NotesPage Unit := do
  enregistrerTous h matiereId
  setState fun p => vider (afficher succes p)

/-- Every entry passes the test. -/
def notesAcceptees (p : NotesPage) : Bool := p.notesStr.rows.all fun entry => noteAcceptee entry.2

/-- `_enregistrerNotes`. -/
def enregistrerNotes (h : Horloge) : Action EtapeNotes NotesPage Unit := do
  let p ← page
  match p.classeChoisieId, p.matiereChoisieId, p.typeNote with
  | some _, some matiereId, some type =>
    if type = .exercice ∧ trim p.descriptionExercice = "" then
      setState (afficher "Veuillez saisir la description de l'exercice.")
    else if p.notesAcceptees then
      setState (sur fun c => { c with saving := true })
      ensuring
        (catching (enregistrer h matiereId) fun e =>
          setState (afficher ("Erreur lors de l'enregistrement : " ++ texteErreur e)))
        (sur fun c => { c with saving := false })
    else setState (afficher "Les notes doivent être entre 0 et 20.")
  | _, _, _ => setState (afficher "Sélection incomplète.")

/-! ## What a user can do -/

inductive Evenement where
  | ouvrir
  | classe (n : ℕ)
  | matiere (n : ℕ)
  | type (t : TypeNote)
  | sequence (n : ℕ)
  | decrire (texte : String)
  | saisir (n : ℕ) (texte : String)
  | remplirMax
  | effacer
  | enregistrer (h : Horloge)

/-- What a choice clears. -/
def effacerSaisie (p : NotesPage) : NotesPage :=
  { p with
    notesStr := Table.empty, descriptionExercice := "", sequenceChoisie := none }

/-- A tap on the chip of a class. -/
def choisirClasse (c : ClasseAvecMatieres) : Action EtapeNotes NotesPage Unit := do
  setState fun p => { effacerSaisie p with
    classeChoisieId := some c.classeId, matiereChoisieId := none, eleves := [], typeNote := none }
  chargerMatieres c.classeId

/-- A tap on the chip of a subject, with a class chosen. -/
def choisirMatiere (classeId : String) (m : Matiere) : Action EtapeNotes NotesPage Unit := do
  setState fun p => { effacerSaisie p with
    matiereChoisieId := some m.id, eleves := [], typeNote := none }
  chargerEleves classeId

/-- 'Remplir notes max'. -/
def remplirMax (p : NotesPage) : NotesPage :=
  { p with notesStr := p.eleves.foldl (fun t e => t.put e.eleveId "20") p.notesStr }

/-- The program an event starts.  A chip that is selected does nothing, and a field, a list or a
button is there as `build` says; the grade fields stay open while the page saves. -/
def on (p : NotesPage) (ev : Evenement) : Option (Action EtapeNotes NotesPage Unit) :=
  match ev with
  | .ouvrir => some initData
  | .classe n =>
    if p.loading then none
    else (p.classesAvecMatieres[n]?.filter fun c => some c.classeId ≠ p.classeChoisieId).map
      choisirClasse
  | .matiere n =>
    if p.loading then none
    else p.classeChoisieId.bind fun classeId =>
      (p.matieres[n]?.filter fun m => some m.id ≠ p.matiereChoisieId).map (choisirMatiere classeId)
  | .type t =>
    if p.loading ∨ p.typeNote = some t then none
    else some (setState fun p => { effacerSaisie p with typeNote := some t })
  | .sequence n =>
    if p.loading ∨ p.typeNote ≠ some .examen then none
    else (sequences[n]?.filter fun s => some s ≠ p.sequenceChoisie).map fun s =>
      setState fun p => { p with sequenceChoisie := some s }
  | .decrire texte =>
    if p.loading ∨ p.typeNote ≠ some .exercice then none
    else some (setState fun p => { p with descriptionExercice := texte })
  | .saisir n texte =>
    if p.loading then none
    else p.eleves[n]?.map fun e =>
      setState fun p => { p with notesStr := p.notesStr.put e.eleveId texte }
  | .remplirMax => if p.loading ∨ p.eleves = [] then none else some (setState remplirMax)
  | .effacer =>
    if p.loading ∨ p.eleves = [] then none
    else some (setState fun p => { p with notesStr := Table.empty })
  | .enregistrer h => if p.loading ∨ p.saving then none else some (enregistrerNotes h)

/-! ## What the programs touch

The loads leave the choices and the `saving` flag alone, and the loop over the students only reads
the page. -/

/-- The awaits of `_enregistrerNotes`. -/
def Sauvegarde (l : EtapeNotes) : Prop := l ≠ .choix ∧ l ≠ .eleves

section Loads

variable {J : NotesPage → Prop}

theorem keeps_initData (h : ∀ f, Choix.RemplitClasses f → ∀ p, J p → J (sur f p))
    (hi : ∀ p, J p → J (afficher "Enseignant introuvable." p))
    (he : ∀ e p, J p → J (afficher ("Erreur: " ++ texteErreur e) p)) : initData.Keeps J := by
  have hfin : ∀ p, J p → J (sur (fun c => { c with loading := false }) p) :=
    h (fun c => { c with loading := false }) ⟨fun c => ⟨rfl, rfl, rfl⟩, fun c => rfl⟩
  exact Choix.keeps_initData h _ _ ((keeps_setState _).mpr fun p hp => hfin _ (hi p hp))
    fun e => (keeps_setState _).mpr fun p hp => hfin _ (he e p hp)

theorem issues_initData : initData.Issues (Choix.Lit .choix) := by
  refine Choix.issues_initData _ _ ?_ fun e => ?_ <;> trivial

theorem keeps_chargerEleve (id : String) : (chargerEleve id).Keeps J := by
  refine .bind (Choix.keeps_lireDoc _ _ _) fun doc => ?_
  rcases doc with _ | eleveDoc
  · trivial
  refine .bind (keeps_ofExcept _) fun u => ?_
  rcases u with _ | utilisateurId
  · trivial
  refine .bind (keeps_call _ _) fun doc => ?_
  rcases (doc : Option Document) with _ | userDoc
  · trivial
  refine .bind (keeps_ofExcept _) fun nom => .bind (keeps_ofExcept _) fun prenom => ?_
  exact .bind (keeps_ofExcept _) fun notesIds => trivial

theorem keeps_chargerTous (ids : List String) : (chargerTous ids).Keeps J := by
  induction ids with
  | nil => trivial
  | cons id ids ih => exact .bind (keeps_chargerEleve id) fun eleve => .bind ih fun _ => trivial

theorem keeps_chargerEleves (classeId : String)
    (h : ∀ (l : List EleveAvecNom) p, J p →
      J { p with eleves := l, notesStr := Table.empty, descriptionExercice := "" }) :
    (chargerEleves classeId).Keeps J := by
  refine .bind (Choix.keeps_lireDoc _ _ _) fun doc => .bind (keeps_ofExcept _) fun ids => ?_
  refine .bind (keeps_chargerTous ids) fun results => .bind (keeps_call _ _) fun _ => ?_
  exact (keeps_setState _).mpr (h _)

theorem issues_chargerEleve (id : String) : (chargerEleve id).Issues (Choix.Lit .eleves) := by
  refine .bind (issues_lireDoc ⟨rfl, trivial⟩) fun doc => ?_
  rcases doc with _ | eleveDoc
  · trivial
  refine .bind (issues_ofExcept _) fun u => ?_
  rcases u with _ | utilisateurId
  · trivial
  refine .bind ((issues_lire _ _ _).mpr ⟨rfl, trivial⟩) fun doc => ?_
  rcases (doc : Option Document) with _ | userDoc
  · trivial
  refine .bind (issues_ofExcept _) fun nom => .bind (issues_ofExcept _) fun prenom => ?_
  exact .bind (issues_ofExcept _) fun notesIds => trivial

theorem issues_chargerTous (ids : List String) :
    (chargerTous ids).Issues (Choix.Lit .eleves) := by
  induction ids with
  | nil => trivial
  | cons id ids ih => exact .bind (issues_chargerEleve id) fun eleve => .bind ih fun _ => trivial

theorem issues_chargerEleves (classeId : String) :
    (chargerEleves classeId).Issues (Choix.Lit .eleves) := by
  refine .bind (issues_lireDoc ⟨rfl, trivial⟩) fun doc => .bind (issues_ofExcept _) fun ids => ?_
  refine .bind (issues_chargerTous ids) fun results => ?_
  exact .bind ((issues_attendre _).mpr ⟨rfl, trivial⟩) fun _ => trivial

end Loads

section Saves

variable {J : NotesPage → Prop}

theorem keeps_noms (u : Valeur) : (noms u).Keeps J := by
  refine .bind (keeps_ofExcept _) fun id => ?_
  rcases id with _ | id
  · trivial
  refine .bind (keeps_call _ _) fun doc => ?_
  rcases (doc : Option Document) with _ | utilisateur
  · trivial
  exact .bind (keeps_ofExcept _) fun prenom => .bind (keeps_ofExcept _) fun nom => trivial

theorem keeps_noter (h : Horloge) (eleveId : String) : (noter h eleveId).Keeps J := by
  refine .bind keeps_page fun p => .bind (keeps_ofExcept _) fun saisie => ?_
  rcases saisie with _ | noteVal
  · trivial
  refine .bind (keeps_ofExcept _) fun type => .bind (keeps_ofExcept _) fun matiereId => ?_
  exact .bind (keeps_call _ _) fun noteId => .bind (keeps_call _ _) fun _ => trivial

theorem keeps_notifierFamilles (h : Horloge) (e : Destinataire) (matiereNom : Valeur)
    (note : Option (Double × String)) (message : String) (familles : List (String × Document)) :
    (notifierFamilles h e matiereNom note message familles).Keeps J := by
  induction familles with
  | nil => trivial
  | cons famille familles ih =>
    exact .bind keeps_page fun p => .bind (keeps_call _ _) fun _ => ih

theorem keeps_avertir (h : Horloge) (matiereNom : Valeur) (e : Destinataire)
    (note : Option (Double × String)) : (avertir h matiereNom e note).Keeps J := by
  refine .bind keeps_page fun p => .bind (keeps_call _ _) fun familles => ?_
  refine .bind (keeps_notifierFamilles _ _ _ _ _ _) fun _ => .bind (keeps_call _ _) fun _ => ?_
  trivial

theorem keeps_enregistrerEleve (h : Horloge) (matiereNom : Valeur) (eleveId : String) :
    (enregistrerEleve h matiereNom eleveId).Keeps J := by
  refine .bind (Choix.keeps_lireDoc _ _ _) fun doc => ?_
  rcases doc with _ | eleve
  · trivial
  refine .bind (keeps_noms _) fun n => ?_
  obtain ⟨prenom, nom⟩ := n
  exact .bind (keeps_noter h eleveId) fun note => keeps_avertir _ _ _ _

theorem keeps_parcourir (h : Horloge) (matiereNom : Valeur) (ids : List String) :
    (parcourir h matiereNom ids).Keeps J := by
  induction ids with
  | nil => trivial
  | cons id ids ih => exact .bind (keeps_enregistrerEleve h matiereNom id) fun _ => ih

theorem keeps_enregistrerTous (h : Horloge) (matiereId : String) :
    (enregistrerTous h matiereId).Keeps J := by
  refine .bind (Choix.keeps_lireDoc _ _ _) fun doc => .bind (keeps_ofExcept _) fun matiereNom => ?_
  exact .bind keeps_page fun p => keeps_parcourir _ _ _

theorem keeps_enregistrer (h : Horloge) (matiereId : String)
    (hJ : ∀ texte p, J p → J (vider (afficher texte p))) : (enregistrer h matiereId).Keeps J :=
  .bind (keeps_enregistrerTous h matiereId) fun _ => (keeps_setState _).mpr (hJ _)

theorem keeps_enregistrerNotes (h : Horloge)
    (hsur : ∀ v p, J p → J (sur (fun c => { c with saving := v }) p))
    (hafficher : ∀ texte p, J p → J (afficher texte p))
    (hvider : ∀ p, J p → J (vider p)) : (enregistrerNotes h).Keeps J := by
  intro p
  show Prog.Keeps J (match p.classeChoisieId, p.matiereChoisieId, p.typeNote with
    | some _, some _, some _ => _
    | _, _, _ => _)
  split
  · refine .ite ?_ (.ite ?_ ?_)
    · exact (keeps_setState _).mpr (hafficher _)
    · refine .bind ((keeps_setState _).mpr (hsur true)) fun _ => ?_
      refine .ensuring (.catching ?_ ?_) (hsur false)
      · exact keeps_enregistrer h _ fun _ p hp => hvider _ (hafficher _ p hp)
      · exact fun e => (keeps_setState _).mpr (hafficher _)
    · exact (keeps_setState _).mpr (hafficher _)
  · exact (keeps_setState _).mpr (hafficher _)

/-- What `_enregistrerNotes` may ask. -/
def Permise : Requete → Prop
  | .add c _ => c = .notes ∨ c = .notifications
  | .write (.update c _ fs) => c = .eleves ∧ ∃ noteId, fs = [(.notesIds, .arrayUnion [noteId])]
  | r => Lecture r

/-- A request of `_enregistrerNotes` at one of its awaits. -/
def Envoi (l : EtapeNotes) (r : Requete) : Prop := Sauvegarde l ∧ Permise r

theorem issues_noms {G : EtapeNotes → Requete → Prop} (hG : ∀ id, G .compte (.get .utilisateurs id))
    (u : Valeur) : (noms u).Issues G := by
  refine .bind (issues_ofExcept _) fun id => ?_
  rcases id with _ | id
  · trivial
  refine .bind ((issues_lire _ _ _).mpr (hG id)) fun doc => ?_
  rcases (doc : Option Document) with _ | utilisateur
  · trivial
  exact .bind (issues_ofExcept _) fun prenom => .bind (issues_ofExcept _) fun nom => trivial

/-- Every request of `_enregistrerNotes` is issued under `G`. -/
structure Envois (G : EtapeNotes → Requete → Prop) : Prop where
  lire : ∀ l r, Sauvegarde l → Lecture r → G l r
  note : ∀ (p : NotesPage) h e v t m, G .note (.add .notes (p.note h e v t m))
  notesIds : ∀ e noteId,
    G .notesIds (.write (.update .eleves e [(.notesIds, .arrayUnion [noteId])]))
  parent : ∀ (p : NotesPage) h e m note message famille,
    G .parent (.add .notifications (p.notificationParent h e m note message famille))
  notification : ∀ h e note message,
    G .notification (.add .notifications (notificationEleve h e note message))

theorem envois_envoi : Envois Envoi where
  lire l r hl hr := by
    refine ⟨hl, ?_⟩
    cases r with
    | get | query | pause | currentUser => exact hr
    | _ => exact hr.elim
  note _ _ _ _ _ _ := ⟨by simp [Sauvegarde], Or.inl rfl⟩
  notesIds _ noteId := ⟨by simp [Sauvegarde], rfl, noteId, rfl⟩
  parent _ _ _ _ _ _ _ := ⟨by simp [Sauvegarde], Or.inr rfl⟩
  notification _ _ _ _ := ⟨by simp [Sauvegarde], Or.inr rfl⟩

theorem issues_notifierFamilles {G : EtapeNotes → Requete → Prop} {h : Horloge} {e : Destinataire}
    {matiereNom : Valeur} {note : Option (Double × String)} {message : String}
    (hG : ∀ (p : NotesPage) famille,
      G .parent (.add .notifications (p.notificationParent h e matiereNom note message famille)))
    (familles : List (String × Document)) :
    (notifierFamilles h e matiereNom note message familles).Issues G := by
  induction familles with
  | nil => trivial
  | cons famille familles ih =>
    exact .bind (fun _ => trivial) fun p =>
      .bind ((issues_ajouter _ _ _).mpr (hG p famille)) fun _ => ih

theorem issues_avertir {G : EtapeNotes → Requete → Prop} {h : Horloge} {matiereNom : Valeur}
    {e : Destinataire} {note : Option (Double × String)}
    (hq : ∀ q, G .familles (.query .famille q))
    (hp : ∀ (p : NotesPage) message famille,
      G .parent (.add .notifications (p.notificationParent h e matiereNom note message famille)))
    (hn : ∀ message,
      G .notification (.add .notifications (notificationEleve h e note message))) :
    (avertir h matiereNom e note).Issues G := by
  refine .bind (fun _ => trivial) fun p => .bind ((issues_chercher _ _ _).mpr (hq _)) fun familles => ?_
  refine .bind (issues_notifierFamilles (fun q famille => hp q _ famille) _) fun _ => ?_
  exact .bind ((issues_ajouter _ _ _).mpr (hn _)) fun _ => trivial

section Envois

variable {G : EtapeNotes → Requete → Prop} (hG : Envois G)
include hG

theorem issues_noter (h : Horloge) (eleveId : String) : (noter h eleveId).Issues G := by
  refine .bind (fun _ => trivial) fun p => .bind (issues_ofExcept _) fun saisie => ?_
  rcases saisie with _ | noteVal
  · trivial
  refine .bind (issues_ofExcept _) fun type => .bind (issues_ofExcept _) fun matiereId => ?_
  refine .bind ((issues_ajouter _ _ _).mpr (hG.note p h eleveId noteVal type matiereId)) fun noteId => ?_
  exact .bind ((issues_ecrire _ _).mpr (hG.notesIds eleveId noteId)) fun _ => trivial

theorem issues_enregistrerEleve (h : Horloge) (matiereNom : Valeur) (eleveId : String) :
    (enregistrerEleve h matiereNom eleveId).Issues G := by
  refine .bind (issues_lireDoc (hG.lire _ _ (by simp [Sauvegarde]) trivial)) fun doc => ?_
  rcases doc with _ | eleve
  · trivial
  refine .bind (issues_noms (fun id => hG.lire _ _ (by simp [Sauvegarde]) trivial) _) fun n => ?_
  obtain ⟨prenom, nom⟩ := n
  refine .bind (issues_noter hG h eleveId) fun note => issues_avertir (fun q => ?_) ?_ ?_
  · exact hG.lire _ _ (by simp [Sauvegarde]) trivial
  · exact fun p message famille => hG.parent p h _ matiereNom note message famille
  · exact fun message => hG.notification h _ note message

theorem issues_parcourir (h : Horloge) (matiereNom : Valeur) (ids : List String) :
    (parcourir h matiereNom ids).Issues G := by
  induction ids with
  | nil => trivial
  | cons id ids ih => exact .bind (issues_enregistrerEleve hG h matiereNom id) fun _ => ih

theorem issues_enregistrerTous (h : Horloge) (matiereId : String) :
    (enregistrerTous h matiereId).Issues G := by
  refine .bind (issues_lireDoc (hG.lire _ _ (by simp [Sauvegarde]) trivial)) fun doc => ?_
  refine .bind (issues_ofExcept _) fun matiereNom => .bind (fun _ => trivial) fun p => ?_
  exact issues_parcourir hG _ _ _

theorem issues_enregistrer (h : Horloge) (matiereId : String) :
    (enregistrer h matiereId).Issues G :=
  .bind (issues_enregistrerTous hG h matiereId) fun _ => trivial

theorem issues_enregistrerNotes (h : Horloge) : (enregistrerNotes h).Issues G := by
  intro p
  show Prog.Issues G (match p.classeChoisieId, p.matiereChoisieId, p.typeNote with
    | some _, some _, some _ => _
    | _, _, _ => _)
  split
  · refine .ite trivial (.ite (.bind trivial fun _ => .ensuring (.catching ?_ fun e => ?_) _) trivial)
    · exact issues_enregistrer hG h _
    · trivial
  · trivial

end Envois

end Saves

end NotesPage

end EduConnect.Enseignant
