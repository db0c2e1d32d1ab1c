import EduConnect.Enseignant.Choix
import EduConnect.Lib.Lots

/-!
# Homework

`CreationDevoirPage`: a teacher chooses one of his classes, one of its subjects, writes a homework
and sends it to the students of the class and to their parents through `DevoirRepository`.
-/

namespace EduConnect.Enseignant

open Lib Prog

/-! ## The repository -/

namespace DevoirRepository

variable {Λ σ : Type}

def ajouterDevoir (l : Λ) (devoir : DevoirModele) : Action Λ σ String :=
  ajouter l .devoirs devoir.toMap

def marquerDevoirCommeLu (l : Λ) (devoirId utilisateurId : String) : Action Λ σ Unit :=
  ecrire l (.update .devoirs devoirId [(.lusPar, .arrayUnion [utilisateurId])])

end DevoirRepository

/-! ## The page -/

/-- A `PlatformFile`; it is readable when it has its bytes or a path. -/
structure FichierJoint where
  name : String
  extension : Option String
  lisible : Bool

structure CreationDevoirPage where
  enseignantUtilisateurId : String
  etablissementId : String
  enseignantDocId : Option String := none
  classesAvecMatieres : List ClasseAvecMatieres := []
  classeSelectionneeId : Option String := none
  matieres : List (String × Document) := []
  matiereSelectionneeId : Option String := none
  titre : String := ""
  description : String := ""
  dateRemise : Option ℤ := none
  fichier : Option FichierJoint := none
  loading : Bool := true
  loadingMatieres : Bool := false
  submitting : Bool := false
  messages : List String := []

inductive EtapeDevoir where
  | chargement | matieres | fichier | eleves | familles | ajout
  deriving DecidableEq

namespace CreationDevoirPage

/-- Show a `SnackBar`. -/
def annoncer (message : String) (p : CreationDevoirPage) : CreationDevoirPage :=
  { p with messages := p.messages ++ [message] }

/-- The entry of a class. -/
def classe (id : String) (data : Document) (matieresIds : List String) :
    Except Err ClasseAvecMatieres := do
  return {
    classeId := id
    nomClasse := ← (data.get .nom).orStr ""
    niveauClasse := ← (data.get .niveau).orStr ""
    matieresIds := matieresIds }

/-- `_chargerEnseignantEtClasses`. -/
def chargerEnseignantEtClasses : Action EtapeDevoir CreationDevoirPage Unit := do
  setState fun p => { p with loading := true }
  catching (do
    let p ← page
    match ← chercherPremier .chargement .enseignants
        [.isEqualTo .utilisateurId (.str p.enseignantUtilisateurId)] with
    | [] => setState fun p => { p.annoncer "Enseignant introuvable" with loading := false }
    | doc :: _ =>
      setState fun p => { p with enseignantDocId := some doc.1 }
      let classes ← chercher .chargement .classes
        [.isEqualTo .etablissementId (.str p.etablissementId)]
      let enseignements ← chercher .chargement .enseignements
        [.isEqualTo .enseignantId (.str doc.1)]
      let matieres ← ofExcept (enseignements.mapM fun e => (e.2.get .matiereId).asStr)
      let temp ← ofExcept (classes.mapM (Choix.entree classe doc.1 matieres))
      setState fun p => { p with classesAvecMatieres := temp.reduceOption, loading := false })
    fun e => setState fun p =>
      { p.annoncer ("Erreur chargement: " ++ texteErreur e) with loading := false }

/-- The class chosen among those of the teacher, or an empty one. -/
def classeAvecMatieres (p : CreationDevoirPage) (classeId : String) : ClasseAvecMatieres :=
  (p.classesAvecMatieres.find? fun c => c.classeId = classeId).getD
    { classeId := "", nomClasse := "", niveauClasse := "", matieresIds := [] }

/-- `_chargerMatieresPourClasse`. -/
def chargerMatieresPourClasse (classeId : String) : Action EtapeDevoir CreationDevoirPage Unit := do
  setState fun p =>
    { p with loadingMatieres := true, matieres := [], matiereSelectionneeId := none }
  catching (do
    let p ← page
    let matieresIds := (p.classeAvecMatieres classeId).matieresIds
    if matieresIds = [] then
      setState fun p => { p with matieres := [], loadingMatieres := false }
    else
      let docs ← chercher .matieres .matieres [.idIn matieresIds]
      setState fun p => { p with matieres := docs, loadingMatieres := false })
    fun e => setState fun p =>
      { p.annoncer ("Erreur chargement matières : " ++ texteErreur e) with
        loadingMatieres := false }

/-- The `onChanged` of the class. -/
def choisirClasse (val : Option String) : Action EtapeDevoir CreationDevoirPage Unit := do
  setState fun p =>
    { p with classeSelectionneeId := val, matiereSelectionneeId := none, matieres := [] }
  match val with
  | none => return
  | some classeId => chargerMatieresPourClasse classeId

/-- `_uploadFichierAppwrite`. -/
def uploadFichierAppwrite (fichier : FichierJoint) :
    Action EtapeDevoir CreationDevoirPage (Option String) :=
  catching (do
    if fichier.lisible then
      let id ← creerFichier .fichier fichier.name
      return some id
    else fail (.exception "Le fichier ne contient pas de données et pas de chemin"))
    fun e => do
      setState (annoncer ("Erreur upload fichier : " ++ texteErreur e))
      return none

/-- The loop of `_chargerParentsDesEleves`. -/
def chargerParentsParLot : List (List String) → Action EtapeDevoir CreationDevoirPage (List String)
  | [] => ret []
  | batch :: lots => do
    let familles ← chercher .familles .famille [.whereIn .eleveId batch]
    let parentIdsBatch ← ofExcept (familles.mapM fun doc => (doc.2.get .parentId).asStr)
    return parentIdsBatch.eraseDups ++ (← chargerParentsParLot lots)

/-- `_chargerParentsDesEleves`. -/
def chargerParentsDesEleves (elevesIds : List String) :
    Action EtapeDevoir CreationDevoirPage (List String) :=
  catching (do
    if elevesIds = [] then return []
    let allParentIds ← chargerParentsParLot (lots 10 elevesIds)
    return allParentIds.eraseDups)
    fun _ => return []

/-- `_chargerElevesIdsDeClasse`. -/
def chargerElevesIdsDeClasse (classeId : String) :
    Action EtapeDevoir CreationDevoirPage (List String) :=
  catching (do
    match ← lireDoc .eleves .classes classeId with
    | some data => ofExcept (data.get .elevesIds).orStrs
    | none => return [])
    fun _ => return []

/-- What the validators of the form ask for; the subjects are not shown while they are loaded. -/
def valide (p : CreationDevoirPage) : Bool :=
  p.classeSelectionneeId.isSome && (p.loadingMatieres || p.matiereSelectionneeId.isSome) &&
    decide (trim p.titre ≠ "") && decide (trim p.description ≠ "")

/-- `_fichier!.extension`. -/
def fichierType (p : CreationDevoirPage) : Except Err (Option String) :=
  match p.fichier with
  | none => .error .type
  | some fichier => .ok fichier.extension

/-- The file of the homework, once uploaded, and the type of the file that the page holds then. -/
def joindre (fichier : Option FichierJoint) :
    Action EtapeDevoir CreationDevoirPage (Option String × Option String) :=
  match fichier with
  | none => return (none, none)
  | some fichier => do
    match ← uploadFichierAppwrite fichier with
    | none => fail (.exception "Erreur upload fichier")
    | some fichierId => do
      let p ← page
      let fichierType ← ofExcept p.fichierType
      return (some fichierId, fichierType)

/-- The homework made of what the page holds when the reads have ended; `!` throws on null. -/
def devoir (p : CreationDevoirPage) (enseignantId : String) (dateRemise maintenant : ℤ)
    (elevesIds parentIds : List String) (fichier : Option String × Option String) :
    Except Err DevoirModele := do
  return {
    id := ""
    titre := trim p.titre
    description := trim p.description
    etablissementId := p.etablissementId
    classeId := ← idDeDocument p.classeSelectionneeId
    matiereId := ← idDeDocument p.matiereSelectionneeId
    enseignantId := enseignantId
    eleveIds := elevesIds
    parentIds := parentIds
    lusPar := []
    dateRemise := dateRemise
    fichierUrl := fichier.1
    fichierType := fichier.2
    dateCreation := maintenant }

/-- The `try` of `_submit`. -/
def envoyer (maintenant : ℤ) : Action EtapeDevoir CreationDevoirPage Unit := do
  let p ← page
  let fichier ← joindre p.fichier
  let p ← page
  let classeId ← ofExcept (idDeDocument p.classeSelectionneeId)
  let elevesIds ← chargerElevesIdsDeClasse classeId
  let parentIds ← chargerParentsDesEleves elevesIds
  let p ← page
  let enseignantId ← ofExcept (idDeDocument p.enseignantDocId)
  match p.dateRemise with
  | none => fail .type
  | some dateRemise =>
    let devoir ← ofExcept (p.devoir enseignantId dateRemise maintenant elevesIds parentIds fichier)
    let _ ← DevoirRepository.ajouterDevoir .ajout devoir
    setState (annoncer "Devoir envoyé avec succès")

/-- `_submit`, with the time of its `DateTime.now()`. -/
def submit (maintenant : ℤ) : Action EtapeDevoir CreationDevoirPage Unit := do
  let p ← page
  if !p.valide then return
  if p.classeSelectionneeId = none then
    setState (annoncer "Veuillez choisir une classe")
  else if p.matiereSelectionneeId = none then
    setState (annoncer "Veuillez choisir une matière")
  else if p.dateRemise = none then
    setState (annoncer "Veuillez choisir une date de remise")
  else if p.enseignantDocId = none then
    setState (annoncer "Identifiant enseignant introuvable")
  else
    setState fun p => { p with submitting := true }
    ensuring (catching (envoyer maintenant)
      fun e => setState (annoncer ("Erreur : " ++ texteErreur e)))
      fun p => { p with submitting := false }

/-! ### What a submission asks for -/

/-- A submission reads, uploads its file, and adds homework that nobody has read. -/
def Publie (_ : EtapeDevoir) (r : Requete) : Prop :=
  Lecture r ∨ (∃ nom, r = .createFile nom) ∨ ∃ devoir : DevoirModele,
    devoir.lusPar = [] ∧ r = .add .devoirs devoir.toMap

theorem lusPar_devoir {p : CreationDevoirPage} {enseignantId : String} {dateRemise maintenant : ℤ}
    {elevesIds parentIds : List String} {fichier : Option String × Option String}
    {d : DevoirModele}
    (h : p.devoir enseignantId dateRemise maintenant elevesIds parentIds fichier = .ok d) :
    d.lusPar = [] := by
  obtain ⟨classeId, -, h⟩ := bind_eq_ok_iff.mp h
  obtain ⟨matiereId, -, h⟩ := bind_eq_ok_iff.mp h
  obtain rfl := Except.ok.inj h
  rfl

/-- What a submission asks for before it adds the homework. -/
def Prepare (l : EtapeDevoir) (r : Requete) : Prop :=
  l ≠ .ajout ∧ (Lecture r ∨ ∃ nom, r = .createFile nom)

theorem publie_of_prepare (l : EtapeDevoir) (r : Requete) (h : Prepare l r) : Publie l r :=
  h.2.imp_right Or.inl

theorem issues_joindre (fichier : Option FichierJoint) : (joindre fichier).Issues Prepare := by
  cases fichier with
  | none => trivial
  | some fichier =>
    refine .bind (.catching (.ite (.bind ?_ fun id => trivial) trivial) fun e => ?_) fun id => ?_
    · exact (issues_creerFichier _ _).mpr ⟨nofun, Or.inr ⟨_, rfl⟩⟩
    · exact .bind trivial fun _ => trivial
    · cases id with
      | none => trivial
      | some id => exact .bind (fun _ => trivial) fun p => .bind (issues_ofExcept _) fun _ => trivial

theorem issues_chargerElevesIdsDeClasse (classeId : String) :
    (chargerElevesIdsDeClasse classeId).Issues Prepare := by
  refine .catching (.bind (issues_lireDoc ⟨nofun, Or.inl trivial⟩) fun doc => ?_) fun e => trivial
  cases doc with
  | none => trivial
  | some data => exact issues_ofExcept _

theorem issues_chargerParentsParLot (lots : List (List String)) :
    (chargerParentsParLot lots).Issues Prepare := by
  induction lots with
  | nil => trivial
  | cons batch lots ih =>
    refine .bind ((issues_chercher _ _ _).mpr ⟨nofun, Or.inl trivial⟩) fun familles => ?_
    exact .bind (issues_ofExcept _) fun ids => .bind ih fun _ => trivial

theorem issues_chargerParentsDesEleves (elevesIds : List String) :
    (chargerParentsDesEleves elevesIds).Issues Prepare := by
  refine .catching (.ite trivial ?_) fun e => trivial
  exact .bind (issues_chargerParentsParLot _) fun _ => trivial

theorem issues_envoyer (maintenant : ℤ) : (envoyer maintenant).Issues Publie := by
  refine .bind (fun _ => trivial) fun p => .bind ?_ fun fichier => ?_
  · exact (issues_joindre _).mono publie_of_prepare
  refine .bind (fun _ => trivial) fun p => .bind (issues_ofExcept _) fun classeId => .bind ?_ ?_
  · exact (issues_chargerElevesIdsDeClasse _).mono publie_of_prepare
  refine fun elevesIds => .bind ?_ fun parentIds => .bind (fun _ => trivial) fun p => ?_
  · exact (issues_chargerParentsDesEleves _).mono publie_of_prepare
  refine .bind (issues_ofExcept _) fun enseignantId => ?_
  cases p.dateRemise with
  | none => trivial
  | some dateRemise =>
    refine .ofExcept_bind fun devoir hd => ?_
    have hajout : Publie .ajout (.add .devoirs devoir.toMap) :=
      Or.inr (Or.inr ⟨devoir, lusPar_devoir hd, rfl⟩)
    exact .bind ((issues_ajouter _ _ _).mpr hajout) fun _ => trivial

theorem issues_submit (maintenant : ℤ) : (submit maintenant).Issues Publie := by
  refine .bind (fun _ => trivial) fun p => .ite trivial (.ite trivial (.ite trivial ?_))
  refine .ite trivial (.ite trivial (.bind trivial fun _ => .ensuring (.catching ?_ ?_) _))
  · exact issues_envoyer maintenant
  · exact fun e => trivial

end CreationDevoirPage

end EduConnect.Enseignant
