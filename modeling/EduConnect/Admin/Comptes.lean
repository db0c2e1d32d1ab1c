import EduConnect.Admin.Edition
import EduConnect.Admin.Eleves

/-!
# The screens that create accounts

`AjoutParentVue`, `AjoutEnseignantVue` and `AjoutAdministrateurVue`.  With `AjoutEleveVue` they share
one flow (`Flux`): look up the role, create the account, upload the picture, write the documents.
Two of the screens upload the picture before they create the account.
-/

namespace EduConnect.Admin

open Lib Prog Donnees

/-! ## What the screens share -/

/-- The texts of a form, its picture, and what the screen shows. -/
structure Saisie where
  nom : String := ""
  prenom : String := ""
  email : String := ""
  telephone : String := ""
  adresse : String := ""
  motDePasse : String := ""
  loading : Bool := false
  imageBytes : Option (List UInt8) := none
  imageName : Option String := none
  messages : List Message := []

namespace Saisie

/-- The name of the chosen picture, if there is one. -/
def image (s : Saisie) : Option String :=
  match s.imageBytes, s.imageName with
  | some _, some imageName => some imageName
  | _, _ => none

/-- The validators that require every text. -/
def toutRequis (s : Saisie) : Bool :=
  [s.nom, s.prenom, s.email, s.telephone, s.adresse, s.motDePasse].all (· ≠ "")

/-- The validators of the forms of a teacher and of an administrator. -/
def controle (s : Saisie) : Bool :=
  [s.nom, s.prenom, s.email, s.adresse, s.motDePasse].all (· ≠ "") && estEmail s.email &&
    trim s.telephone ≠ "" && estTelephone s.telephone && decide (6 ≤ utf16Length s.motDePasse)

/-- The model of the new user, with the password. -/
def utilisateur (s : Saisie) (uid roleId etablissementId : String) (fileId : Option String) :
    UtilisateurModele where
  id := uid
  nom := trim s.nom
  prenom := trim s.prenom
  email := trim s.email
  numeroTelephone := trim s.telephone
  adresse := trim s.adresse
  motDePasse := trim s.motDePasse
  statut := false
  roleId := roleId
  etablissementId := etablissementId
  photo := fileId

end Saisie

/-- The text of a `FirebaseAuthException`, or of another error after `contexte`. -/
def messageEchec (contexte : String) : Err → String
  | .auth "email-already-in-use" _ => "Cet email est déjà utilisé."
  | .auth "weak-password" _ => "Mot de passe trop faible."
  | .auth _ message => message.getD "Erreur inconnue."
  | e => contexte ++ texteErreur e

/-- A screen with page state `σ` that creates accounts. -/
structure Flux (σ : Type) where
  nomRole : String
  /-- The text of an error of the role query, on the screens that catch it. -/
  erreurRole : Option String
  introuvable : String
  /-- The picture is uploaded before the account is created. -/
  photoAvant : Bool
  /-- Write the documents of the new user, given the ids of the user, the role and the picture. -/
  documents : String → String → Option String → Action Etape σ Unit
  succes : String
  messageEchec : Err → String
  saisie : σ → Saisie
  avec : (Saisie → Saisie) → σ → σ
  /-- Forget the picture, and what was selected. -/
  vider : σ → σ
  saisie_avec : ∀ g s, saisie (avec g s) = g (saisie s)
  avec_avec : ∀ g h s, avec g (avec h s) = avec (g ∘ h) s
  messages_vider : ∀ s, (saisie (vider s)).messages = (saisie s).messages

namespace Flux

variable {σ : Type} (F : Flux σ)

def afficherMessage (titre message : String) (type : DialogType) : Action Etape σ Unit :=
  setState (F.avec fun s => { s with messages := s.messages ++ [⟨titre, message, type⟩] })

def chargement (loading : Bool) : σ → σ := F.avec fun s => { s with loading := loading }

/-- The id of the role; the first one of that name. -/
def chercherRole : Action Etape σ (Option String) := do
  let docs ← chercherPremier .autre .roles [.isEqualTo .nom (.str F.nomRole)]
  ret (docs.head?.map Prod.fst)

def recupererRoleId : Action Etape σ (Option String) :=
  match F.erreurRole with
  | some texte => catching F.chercherRole fun e => do
    F.afficherMessage "Erreur" (texte ++ texteErreur e) .error
    ret none
  | none => F.chercherRole

def uploadImageToAppwrite (fileName : String) : Action Etape σ (Option String) :=
  catching (do
    let id ← creerFichier .autre fileName
    ret (some id)) fun _ => ret none

/-- Upload the chosen picture, if there is one. -/
def televerserPhoto : Action Etape σ (Option String) := do
  let p ← page
  match (F.saisie p).imageBytes, (F.saisie p).imageName with
  | some _, some imageName => uploadImageToAppwrite imageName
  | _, _ => ret none

def creerUtilisateur : Action Etape σ String := do
  let p ← page
  creerCompte .autre (trim (F.saisie p).email) (trim (F.saisie p).motDePasse)

/-- Once the account is created: the documents, then the message of success. -/
def terminer (userId roleId : String) (fileId : Option String) : Action Etape σ Unit := do
  F.documents userId roleId fileId
  F.afficherMessage "Succès" F.succes .success
  setState F.vider

/-- The body of the `try`. -/
def creer : Action Etape σ Unit := do
  let roleId ← F.recupererRoleId
  match roleId with
  | none =>
    F.afficherMessage "Erreur" F.introuvable .error
    setState (F.chargement false)
  | some roleId =>
    if F.photoAvant then
      let fileId ← F.televerserPhoto
      let userId ← F.creerUtilisateur
      F.terminer userId roleId fileId
    else
      let userId ← F.creerUtilisateur
      let fileId ← F.televerserPhoto
      F.terminer userId roleId fileId

/-- What follows the checks of the form. -/
def enregistrer : Action Etape σ Unit := do
  setState (F.chargement true)
  ensuring (catching F.creer fun e => F.afficherMessage "Erreur" (F.messageEchec e) .error)
    (F.chargement false)

end Flux

/-! ## AjoutEleveVue -/

namespace AjoutEleve

def saisie (p : AjoutEleve) : Saisie where
  nom := p.nom
  prenom := p.prenom
  email := p.email
  telephone := p.telephone
  adresse := p.adresse
  motDePasse := p.motDePasse
  loading := p.loading
  imageBytes := p.imageBytes
  imageName := p.imageName
  messages := p.messages

def avec (g : Saisie → Saisie) (p : AjoutEleve) : AjoutEleve :=
  let s := g p.saisie
  { p with
    nom := s.nom, prenom := s.prenom, email := s.email, telephone := s.telephone
    adresse := s.adresse, motDePasse := s.motDePasse, loading := s.loading
    imageBytes := s.imageBytes, imageName := s.imageName, messages := s.messages }

def flux : Flux AjoutEleve where
  nomRole := "eleve"
  erreurRole := some "Erreur lors de la récupération du rôle élève : "
  introuvable := "Le rôle élève est introuvable."
  photoAvant := false
  documents := enregistrerDocuments
  succes := "Élève ajouté avec succès"
  messageEchec := messageEchec
  saisie := saisie
  avec := avec
  vider p := { p with classeIdSelectionne := none, imageBytes := none, imageName := none }
  saisie_avec _ _ := rfl
  avec_avec _ _ _ := rfl
  messages_vider _ := rfl

/-- The screen of a student follows the flow. -/
theorem creerEleve_eq : creerEleve = flux.creer := rfl

end AjoutEleve

/-! ## AjoutParentVue -/

/-- `_AjoutParentVueState` with the texts of its form. -/
structure AjoutParent extends Saisie where
  etablissementId : String

namespace AjoutParent

/-- The fields of the new `utilisateurs` document. -/
def utilisateurData (p : AjoutParent) (userId roleParentId : String) (fileId : Option String) :
    Champs :=
  [texte .uid userId, texte .nom (trim p.nom), texte .prenom (trim p.prenom),
    texte .email (trim p.email), texte .numeroTelephone (trim p.telephone),
    texte .adresse (trim p.adresse), (.statut, .put (.bool false)),
    texte .photo (fileId.getD ""), texte .roleId roleParentId,
    texte .etablissementId p.etablissementId, (.createdAt, .serverTimestamp)]

/-- The fields of the new `parents` document. -/
def parentData (userId : String) : Champs := [texte .utilisateurId userId]

def enregistrerDocuments (userId roleParentId : String) (fileId : Option String) :
    Action Etape AjoutParent Unit := do
  let p ← page
  ecrire .autre (.set .utilisateurs userId (p.utilisateurData userId roleParentId fileId))
  ecrire .autre (.set .parents userId (parentData userId))

def flux : Flux AjoutParent where
  nomRole := "parent"
  erreurRole := some "Erreur lors de la récupération du rôle parent : "
  introuvable := "Le rôle parent est introuvable."
  photoAvant := false
  documents := enregistrerDocuments
  succes := "Parent ajouté avec succès"
  messageEchec := messageEchec "Erreur lors de l'enregistrement : "
  saisie := toSaisie
  avec g p := { p with toSaisie := g p.toSaisie }
  vider p := { p with imageBytes := none, imageName := none }
  saisie_avec _ _ := rfl
  avec_avec _ _ _ := rfl
  messages_vider _ := rfl

def enregistrerParent : Action Etape AjoutParent Unit := do
  let p ← page
  if p.toutRequis then flux.enregistrer else ret ()

end AjoutParent

/-! ## AjoutEnseignantVue -/

/-- `DepotUtilisateur.ajouterUtilisateur`. -/
def ajouterUtilisateur {σ : Type} (u : UtilisateurModele) : Action Etape σ Unit :=
  ecrire .autre (.set .utilisateurs u.id u.toMap)

/-- `EnseignantModele.toMap` and `AdministrateurModele.toMap`. -/
def lienUtilisateur (utilisateurId : String) : Champs := [texte .utilisateurId utilisateurId]

/-- `_AjoutEnseignantVueState` with the texts of its form. -/
structure AjoutEnseignant extends Saisie where
  etablissementId : String

namespace AjoutEnseignant

/-- `DepotEnseignant.ajouterEnseignant`: the document gets an id of its own. -/
def ajouterEnseignant (utilisateurId : String) : Action Etape AjoutEnseignant Unit := do
  let _ ← ajouter .autre .enseignants (lienUtilisateur utilisateurId)
  ret ()

def enregistrerDocuments (uid roleEnseignantId : String) (fileId : Option String) :
    Action Etape AjoutEnseignant Unit := do
  let p ← page
  ajouterUtilisateur (p.utilisateur uid roleEnseignantId p.etablissementId fileId)
  ajouterEnseignant uid

def flux : Flux AjoutEnseignant where
  nomRole := "enseignant"
  erreurRole := none
  introuvable := "Le rôle enseignant est introuvable."
  photoAvant := true
  documents := enregistrerDocuments
  succes := "Enseignant ajouté avec succès"
  messageEchec := messageEchec "Échec de l'enregistrement : "
  saisie := toSaisie
  avec g p := { p with toSaisie := g p.toSaisie }
  vider p := { p with imageBytes := none, imageName := none }
  saisie_avec _ _ := rfl
  avec_avec _ _ _ := rfl
  messages_vider _ := rfl

def enregistrerEnseignant : Action Etape AjoutEnseignant Unit := do
  let p ← page
  if p.controle then flux.enregistrer else ret ()

end AjoutEnseignant

/-! ## AjoutAdministrateurVue -/

/-- `_AjoutAdministrateurVueState` with the texts of its form. -/
structure AjoutAdministrateur extends Saisie where
  etablissementIdSelectionne : Option String := none

namespace AjoutAdministrateur

/-- `DepotUtilisateur.getUtilisateurParId`. -/
def getUtilisateurParId (id : String) :
    Action Etape AjoutAdministrateur (Option UtilisateurModele) := do
  let doc ← lire .autre .utilisateurs id
  match doc with
  | some data => do
    let utilisateur ← ofExcept (UtilisateurModele.fromMap data id)
    ret (some utilisateur)
  | none => ret none

/-- `DepotAdministrateur.ajouterAdministrateur`. -/
def ajouterAdministrateur (uid : String) : Action Etape AjoutAdministrateur Unit := do
  let docs ← chercherPremier .autre .roles [.isEqualTo .nom (.str "administrateur")]
  if docs = [] then
    fail (.exception "Le rôle \"administrateur\" est introuvable dans Firestore.")
  else
    let utilisateur ← getUtilisateurParId uid
    match utilisateur with
    | none => fail (.exception "Utilisateur introuvable.")
    | some _ => ecrire .autre (.set .administrateurs uid (lienUtilisateur uid))

def enregistrerDocuments (uid roleAdministrateurId : String) (fileId : Option String) :
    Action Etape AjoutAdministrateur Unit := do
  let p ← page
  -- the form was only accepted with an establishment
  let etablissementId ← ofExcept (idDeDocument p.etablissementIdSelectionne)
  ajouterUtilisateur (p.utilisateur uid roleAdministrateurId etablissementId fileId)
  ajouterAdministrateur uid

def flux : Flux AjoutAdministrateur where
  nomRole := "administrateur"
  erreurRole := none
  introuvable := "Le rôle administrateur est introuvable."
  photoAvant := true
  documents := enregistrerDocuments
  succes := "Administrateur ajouté avec succès"
  messageEchec := messageEchec "Échec de l'enregistrement : "
  saisie := toSaisie
  avec g p := { p with toSaisie := g p.toSaisie }
  vider p := { p with imageBytes := none, imageName := none, etablissementIdSelectionne := none }
  saisie_avec _ _ := rfl
  avec_avec _ _ _ := rfl
  messages_vider _ := rfl

/-- The validator of the list of establishments is also one of the form. -/
def validate (p : AjoutAdministrateur) : Bool := p.controle && p.etablissementIdSelectionne.isSome

def enregistrerAdministrateur : Action Etape AjoutAdministrateur Unit := do
  let p ← page
  if p.validate then
    if p.etablissementIdSelectionne = none then
      flux.afficherMessage "Erreur" "Veuillez sélectionner un établissement." .warning
    else flux.enregistrer
  else ret ()

end AjoutAdministrateur

/-! ## The four screens -/

inductive EcranAjout where
  | eleve | parent | enseignant | administrateur
  deriving DecidableEq

namespace EcranAjout

/-- The state of the screen. -/
abbrev Page : EcranAjout → Type
  | eleve => AjoutEleve
  | parent => AjoutParent
  | enseignant => AjoutEnseignant
  | administrateur => AjoutAdministrateur

def flux : (e : EcranAjout) → Flux e.Page
  | eleve => AjoutEleve.flux
  | parent => AjoutParent.flux
  | enseignant => AjoutEnseignant.flux
  | administrateur => AjoutAdministrateur.flux

/-- The button of the screen. -/
def enregistrer : (e : EcranAjout) → Action Etape e.Page Unit
  | eleve => AjoutEleve.enregistrerEleve
  | parent => AjoutParent.enregistrerParent
  | enseignant => AjoutEnseignant.enregistrerEnseignant
  | administrateur => AjoutAdministrateur.enregistrerAdministrateur

/-- The checks made before anything is asked of the backend. -/
def accepte : (e : EcranAjout) → e.Page → Bool
  | eleve, p => p.validate && p.etablissement.isSome
  | parent, p => p.toutRequis
  | enseignant, p => p.controle
  | administrateur, p => p.validate

end EcranAjout

end EduConnect.Admin
