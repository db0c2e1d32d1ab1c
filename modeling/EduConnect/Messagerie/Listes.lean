import EduConnect.Commun.Connexion
import EduConnect.Enseignant.Accueil
import EduConnect.Familles.Accueils
import EduConnect.Lib.Lots
import EduConnect.Messagerie.Conversation
import EduConnect.Modeles

/-!
# From login to a conversation

What an account sees before a conversation page is opened: login chooses a home page by the role,
the home page finds the ids its messaging list works with, and the list loads the correspondents.
`contacts` collects the conversation pages that can be opened from there.
-/

namespace EduConnect.Messagerie

open Lib Prog Donnees

/-! ## Login -/

/-- The home pages with a messaging list. -/
inductive Accueil where
  | enseignant | parent | eleve
  deriving DecidableEq

/-- What login does once the account `uid` is signed in. -/
def ouvrirSession (toLowerCase : String → String) (uid : String) :
    Action Unit Commun.Application Unit := do
  let role ← Commun.chargerUtilisateur uid
  Commun.setAuth fun _ =>
    { utilisateurFirebase := some uid, role := some role, statut := .connecte }
  Commun.apresConnexion toLowerCase

/-- The home page gone to, with its establishment; those of administrators have no messaging. -/
def accueil (n : Commun.Navigation) : Option (Accueil × String) :=
  match n.route, n.arguments with
  | "/home_enseignant", some arguments => some (.enseignant, arguments.etablissementId)
  | "/home_Parent", some arguments => some (.parent, arguments.etablissementId)
  | "/home_eleve", some arguments => some (.eleve, arguments.etablissementId)
  | _, _ => none

/-! ## The messaging list of a teacher -/

/-- The id of a document with the name in it. -/
def idEtNom (defaut : String) (doc : String × Document) : Except Err (String × String) := do
  return (doc.1, ← (doc.2.get .nom).orStr defaut)

structure ParentModele where
  id : String
  utilisateurId : String

def ParentModele.fromMap (map : Document) (id : String) : Except Err ParentModele := do
  return { id := id, utilisateurId := ← (map.get .utilisateurId).orStr "" }

inductive TypeUtilisateur where
  | parent | eleve
  deriving DecidableEq

/-- An entry of `_enfantsParParent`. -/
structure Enfant where
  nomComplet : String
  classeNom : String
  deriving DecidableEq

structure MessagerieEnseignant where
  utilisateurId : String
  etablissementId : String
  enseignantDocId : Option String := none
  parents : List ParentModele := []
  utilisateursParents : List UtilisateurModele := []
  nbMessagesNonLusParents : String → Option ℕ := fun _ => none
  eleves : List EleveModele := []
  utilisateursEleves : List UtilisateurModele := []
  nbMessagesNonLusEleves : String → Option ℕ := fun _ => none
  /-- The ids of the classes and their names. -/
  classesEtablissement : List (String × String) := []
  enfantsParParent : String → Option (List Enfant) := fun _ => none
  classeSelectionnee : Option String := none
  typeSelectionne : TypeUtilisateur := .parent
  isLoading : Bool := true
  error : Option String := none

namespace MessagerieEnseignant

/-- The messages of `docs` that are unread and from `expediteurId`. -/
def nonLuDe (expediteurId : String) (data : Document) : Except Err Bool := do
  let participants ← (data.get .participants).orList
  let emetteur := match data.get .emetteurId with
    | .null => expediteurId = ""
    | v => v.isStr expediteurId
  let lu ← (data.get .lu).asBool
  return !lu && participants.any (Value.isStr expediteurId) && emetteur

/-- The body of the loop over `batchIds`. -/
def compter (docs : List (String × Document)) (nbNonLus : String → Option ℕ) (expediteurId : String) :
    Except Err (String → Option ℕ) := do
  let comptes ← docs.mapM fun doc => nonLuDe expediteurId doc.2
  return Function.update nbNonLus expediteurId
    (some ((nbNonLus expediteurId).getD 0 + comptes.count true))

/-- The loop over the batches. -/
def compterLots (enseignantDocId : String) :
    List (List String) → (String → Option ℕ) →
    Action Unit MessagerieEnseignant (String → Option ℕ)
  | [], nbNonLus => ret nbNonLus
  | batchIds :: lots, nbNonLus => do
    let docs ← chercher () .messages
      [.isEqualTo .recepteurId (.str enseignantDocId), .isEqualTo .lu (.bool false)]
    let nbNonLus ← ofExcept (batchIds.foldlM (compter docs) nbNonLus)
    compterLots enseignantDocId lots nbNonLus

/-- The `setState` at the end of `_chargerNbMessagesNonLusParExpediteur`. -/
def noter (isParent : Bool) (nbNonLus : String → Option ℕ) (p : MessagerieEnseignant) :
    MessagerieEnseignant :=
  if isParent then { p with nbMessagesNonLusParents := nbNonLus }
  else { p with nbMessagesNonLusEleves := nbNonLus }

def chargerNbMessagesNonLusParExpediteur (expediteurIds : List String) (isParent : Bool) :
    Action Unit MessagerieEnseignant Unit := do
  match (← page).enseignantDocId with
  | none => return
  | some enseignantDocId =>
    if expediteurIds = [] then return
    let nbNonLus ← compterLots enseignantDocId (lots 10 expediteurIds) fun _ => none
    setState (noter isParent nbNonLus)

def chargerEnseignantDocId : Action Unit MessagerieEnseignant Unit := do
  let p ← page
  match ← chercherPremier () .enseignants [.isEqualTo .utilisateurId (.str p.utilisateurId)] with
  | doc :: _ => setState fun p => { p with enseignantDocId := some doc.1 }
  | [] => fail (.exception "Aucun document enseignant trouvé pour cet utilisateur.")

def chargerClassesEtablissement : Action Unit MessagerieEnseignant Unit := do
  let p ← page
  let docs ← Prog.call () (Req.query .classes
    ⟨[.isEqualTo .etablissementId (.str p.etablissementId)], some (.nom, false), none⟩)
  let classes ← ofExcept (docs.mapM (idEtNom "Classe inconnue"))
  setState fun p => { p with classesEtablissement := classes }

/-- The users with these ids in the establishment. -/
def utilisateursDe (ids : List String) (etablissementId : String) :
    Action Unit MessagerieEnseignant (List UtilisateurModele) := do
  let docs ← chercherParIds () .utilisateurs ids
    [.isEqualTo .etablissementId (.str etablissementId)]
  ofExcept (docs.mapM fun doc => UtilisateurModele.fromMap doc.2 doc.1)

/-- The entry of a student, when he and his account were found. -/
def enfantDe (eleves : List EleveModele) (utilisateurs : List UtilisateurModele)
    (classes : List (String × String)) (eleveId : String) : Option Enfant := do
  let eleve ← eleves.find? fun e => e.id = eleveId
  let utilisateur ← utilisateurs.find? fun u => u.id = eleve.utilisateurId
  return {
    nomComplet := utilisateur.prenom ++ " " ++ utilisateur.nom
    classeNom := (classes.lookup eleve.classeId).getD "Classe inconnue" }

/-- The body of the loop over `familleSnapshot.docs`. -/
def ajouterEnfant (enfant : String → Option Enfant) (enfants : String → Option (List Enfant))
    (doc : String × Document) : Except Err (String → Option (List Enfant)) := do
  let parentId ← (doc.2.get .parentId).asStr
  let eleveId ← (doc.2.get .eleveId).asStr
  match enfant eleveId with
  | none => return enfants
  | some e => return addUnder enfants parentId e

/-- Steps 7 to 12 of `_chargerParentsAvecEnfants`: the children shown under each parent. -/
def chargerEnfants (parentIds : List String) (etablissementId : String) :
    Action Unit MessagerieEnseignant Unit := do
  let famille ← chercher () .famille [.whereIn .parentId parentIds]
  let liens ← ofExcept (famille.mapM fun doc => (doc.2.get .eleveId).asStr)
  let eleveIds := liens.eraseDups
  if eleveIds = [] then
    setState fun p => { p with enfantsParParent := fun _ => none }
  else
    let docs ← chercherParIds () .eleves eleveIds []
    let eleves ← ofExcept (docs.mapM fun doc => EleveModele.fromMap doc.2 doc.1)
    let utilisateurIdsEleves := (eleves.map EleveModele.utilisateurId).eraseDups
    if utilisateurIdsEleves = [] then
      setState fun p => { p with enfantsParParent := fun _ => none }
    else
      let utilisateurs ← utilisateursDe utilisateurIdsEleves etablissementId
      let enfant := enfantDe eleves utilisateurs (← page).classesEtablissement
      let enfants ← ofExcept (famille.foldlM (ajouterEnfant enfant) fun _ => none)
      setState fun p => { p with enfantsParParent := enfants }

def chargerParentsAvecEnfants : Action Unit MessagerieEnseignant Unit := do
  let p ← page
  let docs ← chercher () .parents []
  let ids ← ofExcept (docs.mapM fun doc => (doc.2.get .utilisateurId).asStr)
  if ids = [] then
    setState fun p => { p with
      parents := [], utilisateursParents := [], nbMessagesNonLusParents := fun _ => none
      enfantsParParent := fun _ => none }
  else
    let utilisateurs ← utilisateursDe ids.eraseDups p.etablissementId
    setState fun p => { p with utilisateursParents := utilisateurs }
    let parents ← ofExcept (docs.mapM fun doc => ParentModele.fromMap doc.2 doc.1)
    let parents := parents.filter fun x => x.utilisateurId ∈ utilisateurs.map UtilisateurModele.id
    setState fun p => { p with parents := parents }
    chargerEnfants (parents.map ParentModele.id) p.etablissementId
    chargerNbMessagesNonLusParExpediteur (utilisateurs.map UtilisateurModele.id) true

/-- The loop of `_chargerElevesParClasse` over the batches of users. -/
def chargerUtilisateurs (etablissementId : String) :
    List (List String) → Action Unit MessagerieEnseignant (List UtilisateurModele)
  | [] => ret []
  | batchIds :: lots => do
    let docs ← chercherParIds () .utilisateurs batchIds []
    let filtres := docs.filter fun doc => (doc.2.get .etablissementId).isStr etablissementId
    let trouves ← ofExcept (filtres.mapM fun doc => UtilisateurModele.fromMap doc.2 doc.1)
    return trouves ++ (← chargerUtilisateurs etablissementId lots)

def chargerElevesParClasse : Action Unit MessagerieEnseignant Unit :=
  catching (do
    let p ← page
    let docs ← chercher () .eleves <| match p.classeSelectionnee with
      | none => []
      | some classeId => [.isEqualTo .classeId (.str classeId)]
    let tous ← ofExcept (docs.mapM fun doc => EleveModele.fromMap doc.2 doc.1)
    let ids := (tous.map EleveModele.utilisateurId).eraseDups
    if ids = [] then
      setState fun p => { p with
        eleves := [], utilisateursEleves := [], nbMessagesNonLusEleves := fun _ => none }
    else
      let utilisateurs ← chargerUtilisateurs p.etablissementId (lots 10 ids)
      let eleves := tous.filter fun e => e.utilisateurId ∈ utilisateurs.map UtilisateurModele.id
      setState fun p => { p with eleves := eleves, utilisateursEleves := utilisateurs }
      chargerNbMessagesNonLusParExpediteur (utilisateurs.map UtilisateurModele.id) false)
    fun _ => setState fun p => { p with
      eleves := [], utilisateursEleves := [], nbMessagesNonLusEleves := fun _ => none }

def chargerDonnees : Action Unit MessagerieEnseignant Unit := do
  let p ← page
  if p.enseignantDocId = none then return
  match p.typeSelectionne with
  | .parent => chargerParentsAvecEnfants
  | .eleve => chargerElevesParClasse

def chargerNbMessagesNonLusTotal : Action Unit MessagerieEnseignant Unit := do
  match (← page).enseignantDocId with
  | none => return
  | some enseignantDocId =>
    let _ ← chercher () .notifications [.isEqualTo .recepteurId (.str enseignantDocId),
      .isEqualTo .lu (.bool false), .isEqualTo .type (.str "message")]

def initialiser : Action Unit MessagerieEnseignant Unit := do
  setState fun p => { p with isLoading := true, error := none, classeSelectionnee := none }
  catching (do
    chargerEnseignantDocId
    chargerClassesEtablissement
    chargerDonnees
    chargerNbMessagesNonLusTotal)
    fun e => setState fun p => { p with error := some (texteErreur e) }
  setState fun p => { p with isLoading := false }

/-- A choice among parents and students, or of a class. -/
def choisir (type : TypeUtilisateur) (classe : Option String) :
    Action Unit MessagerieEnseignant Unit := do
  setState fun p => { p with
    typeSelectionne := type, classeSelectionnee := classe, isLoading := true, error := none }
  chargerDonnees
  chargerNbMessagesNonLusTotal
  setState fun p => { p with isLoading := false }

/-- The pages that `_buildListeUtilisateurs` opens, each with its correspondent's account. -/
def tuiles (p : MessagerieEnseignant) : List (Bouts × String) :=
  match p.enseignantDocId with
  | none => []
  | some enseignantDocId =>
    if p.isLoading ∨ p.error.isSome then [] else
    let ids := match p.typeSelectionne with
      | .parent => p.parents.map ParentModele.utilisateurId
      | .eleve => p.eleves.map EleveModele.utilisateurId
    ids.map fun id => (⟨.enseignant, enseignantDocId, id⟩, id)

end MessagerieEnseignant

/-! ## The messaging lists of a parent and a student

`messagerie_parent_page.dart` and `messagerie_eleve_page.dart`, one page up to the id. -/

structure EnseignantModele where
  id : String
  utilisateurId : String

def EnseignantModele.fromMap (map : Document) (id : String) : Except Err EnseignantModele := do
  return { id := id, utilisateurId := ← (map.get .utilisateurId).orStr "" }

/-- The `ClasseModele` of `messagerie_parent_page.dart` and `messagerie_eleve_page.dart`. -/
structure ClasseModele where
  id : String
  nom : String
  enseignantsIds : List String

def ClasseModele.fromMap (id : String) (data : Document) : Except Err ClasseModele := do
  return {
    id := id
    nom := ← (data.get .nom).orStr "Classe"
    enseignantsIds := ← (data.get .enseignantsIds).orStrs }

structure MessagerieFamille where
  role : Role
  moi : String
  utilisateurId : String
  etablissementId : String
  utilisateursMap : List UtilisateurModele := []
  matieresParEnseignant : String → Option (List String) := fun _ => none
  enseignants : List EnseignantModele := []
  classes : List ClasseModele := []
  isLoading : Bool := true
  error : Option String := none

def messagerieParentPage (utilisateurId etablissementId parentId : String) : MessagerieFamille :=
  { role := .parent, moi := parentId, utilisateurId := utilisateurId
    etablissementId := etablissementId }

def messagerieElevePage (utilisateurId etablissementId eleveId : String) : MessagerieFamille :=
  { role := .eleve, moi := eleveId, utilisateurId := utilisateurId
    etablissementId := etablissementId }

namespace MessagerieFamille

/-- The body of the loop over `enseignementsSnapshot.docs`. -/
def ajouterMatiere (matieresMap : List (String × String))
    (matieres : String → Option (List String)) (doc : String × Document) :
    Except Err (String → Option (List String)) :=
  match doc.2.get .enseignantId, doc.2.get .matiereId with
  | .null, _ => .ok matieres
  | _, .null => .ok matieres
  | v, matiereId => do
    let matiereNom := match matiereId with
      | .str id => (matieresMap.lookup id).getD "Inconnu"
      | _ => "Inconnu"
    let enseignantId ← v.asStr
    return addUnder matieres enseignantId matiereNom

def loadMatieres : Action Unit MessagerieFamille Unit := do
  let enseignantIds := (← page).enseignants.map EnseignantModele.id
  if enseignantIds = [] then return
  let enseignements ← chercher () .enseignements [.whereIn .enseignantId enseignantIds]
  let matiereIds ← ofExcept (enseignements.mapM fun doc => (doc.2.get .matiereId).optStr)
  let matieres ← chercherParIds () .matieres matiereIds.reduceOption.eraseDups []
  let matieresMap ← ofExcept (matieres.mapM (idEtNom "Inconnu"))
  let mapTemp ← ofExcept (enseignements.foldlM (ajouterMatiere matieresMap) fun _ => none)
  setState fun p => { p with matieresParEnseignant := mapTemp }

def loadClasses : Action Unit MessagerieFamille Unit := do
  let p ← page
  let docs ← chercher () .classes [.isEqualTo .etablissementId (.str p.etablissementId)]
  let classes ← ofExcept (docs.mapM fun doc => ClasseModele.fromMap doc.1 doc.2)
  setState fun p => { p with classes := classes }

def loadInitialData : Action Unit MessagerieFamille Unit :=
  catching (do
    let p ← page
    let docs ← chercher () .enseignants []
    let enseignants ← ofExcept (docs.mapM fun doc => EnseignantModele.fromMap doc.2 doc.1)
    setState fun p => { p with enseignants := enseignants }
    let docs ← chercherParIds () .utilisateurs
      (enseignants.map EnseignantModele.utilisateurId).eraseDups
      [.isEqualTo .etablissementId (.str p.etablissementId)]
    let utilisateurs ← ofExcept (docs.mapM fun doc => UtilisateurModele.fromMap doc.2 doc.1)
    setState fun p => { p with
      utilisateursMap := utilisateurs
      enseignants := enseignants.filter fun e =>
        e.utilisateurId ∈ utilisateurs.map UtilisateurModele.id }
    loadMatieres
    loadClasses
    setState fun p => { p with isLoading := false })
    fun e => setState fun p => { p with error := some (texteErreur e), isLoading := false }

/-- The pages the list opens, each with its correspondent's account. -/
def tuiles (p : MessagerieFamille) : List (Bouts × String) :=
  if p.isLoading ∨ p.error.isSome then []
  else p.enseignants.map fun e => (⟨p.role, p.moi, e.id⟩, e.utilisateurId)

end MessagerieFamille

/-! ## The conversation pages an account can open -/

section Contacts

variable (S : Server) (b : Base)

/-- The page after running `p` alone. -/
def apres {σ : Type} (p : Action Unit σ Unit) (s : σ) : σ := (p.exec S.handler s b).2.1

/-- The home page of the account `uid`, which has just been signed in. -/
def route (toLowerCase : String → String) (uid : String) : Option (Accueil × String) :=
  (apres S { b with session := some uid } (ouvrirSession toLowerCase uid) {}).navigations.getLast?.bind
    accueil

def contactsParent (uid etablissementId : String) : List (Bouts × String) :=
  match (Familles.HomeParent.ouvrir S b etablissementId uid).pages[2]? with
  | some (Familles.PageParent.messagerie etablissementId utilisateurId parentId) =>
    (apres S b MessagerieFamille.loadInitialData
      (messagerieParentPage utilisateurId etablissementId parentId)).tuiles
  | _ => []

def contactsEleve (uid etablissementId : String) : List (Bouts × String) :=
  match (Familles.HomeEleve.ouvrir S b etablissementId uid).pages[2]? with
  | some (Familles.PageEleve.messagerie etablissementId utilisateurId eleveId) =>
    (apres S b MessagerieFamille.loadInitialData
      (messagerieElevePage utilisateurId etablissementId eleveId)).tuiles
  | _ => []

def contactsEnseignant (uid etablissementId : String) : List (Bouts × String) :=
  match (Enseignant.HomeEnseignant.ouvrir S b etablissementId uid).pages[3]? with
  | some (Enseignant.PageEnseignant.messagerie etablissementId utilisateurId) =>
    let p := apres S b MessagerieEnseignant.initialiser { utilisateurId, etablissementId }
    let eleves := apres S b (MessagerieEnseignant.choisir .eleve none) p
    let classes := p.classesEtablissement.map fun c =>
      apres S b (MessagerieEnseignant.choisir .eleve (some c.1)) eleves
    p.tuiles ++ eleves.tuiles ++ classes.flatMap MessagerieEnseignant.tuiles
  | _ => []

/-- The conversation pages that the messaging list of the account `uid` opens. -/
def contacts (toLowerCase : String → String) (uid : String) : List (Bouts × String) :=
  match route S b toLowerCase uid with
  | some (.enseignant, etablissementId) => contactsEnseignant S b uid etablissementId
  | some (.parent, etablissementId) => contactsParent S b uid etablissementId
  | some (.eleve, etablissementId) => contactsEleve S b uid etablissementId
  | none => []

end Contacts

end EduConnect.Messagerie
