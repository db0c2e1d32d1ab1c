import EduConnect.Pannes

/-!
# Signing in and out

`ControleurAuth`, `LoginPage._handleLogin` and `logoutUser`, with the Firebase session of
`Lib.Server`.  The four functions are programs over the page `Application`: the controller, the saved
credentials, and what the user sees.  `String.toLowerCase` is a parameter of the login.
-/

namespace EduConnect.Commun

open Lib Prog

/-! ## State -/

structure RoleModele where
  id : String
  nom : String
  description : String
  deriving DecidableEq

/-- The sign-in does not go through it. -/
def RoleModele.fromMap (data : Document) (documentId : String) : Except Err RoleModele := do
  let nom ← (data.get .nom).optStr
  let description ← (data.get .description).optStr
  match nom, description with
  | some nom, some description => return ⟨documentId, nom, description⟩
  | _, _ => .error (.exception ("Invalid argument(s): Les champs \"nom\" et \"description\"" ++
      " sont obligatoires."))

inductive StatutConnexion where
  | deconnecte | enCours | connecte | erreur
  deriving DecidableEq

/-- `ControleurAuth`. -/
structure ControleurAuth where
  utilisateurFirebase : Option String := none
  role : Option RoleModele := none
  statut : StatutConnexion := .deconnecte
  messageErreur : Option String := none
  deriving DecidableEq

/-- `SharedPreferences`. -/
structure Prefs where
  email : Option String := none
  password : Option String := none
  rememberMe : Option Bool := none
  deriving DecidableEq

/-- The arguments of a home page. -/
structure Arguments where
  etablissementId : String
  utilisateurId : Option String
  deriving DecidableEq

/-- `Navigator.pushReplacementNamed`. -/
structure Navigation where
  route : String
  arguments : Option Arguments := none
  deriving DecidableEq

/-- A snack bar and its `isError`. -/
structure SnackBar where
  message : String
  isError : Bool := false
  deriving DecidableEq

structure Application where
  auth : ControleurAuth := {}
  isLoading : Bool := false
  prefs : Prefs := {}
  snackBars : List SnackBar := []
  navigations : List Navigation := []

/-! ## ControleurAuth -/

def setAuth (g : ControleurAuth → ControleurAuth) : Action Unit Application Unit :=
  setState fun p => { p with auth := g p.auth }

/-- `ServiceAuth.connecter`: any error gives no user. -/
def connecterFirebase (email motDePasse : String) : Action Unit Application (Option String) :=
  catching (do
    let user ← seConnecter () email motDePasse
    ret (some user)) fun _ => ret none

/-- The role document named by the `utilisateurs` document `data`. -/
def lireRole (data : Document) : Action Unit Application RoleModele :=
  match data.get .roleId with
  | .null => fail (.exception "Le champ 'roleId' est manquant.")
  | v => do
    let roleId ← ofExcept v.asStr
    let roleDoc ← lireDoc () .roles roleId
    match roleDoc with
    | none => fail (.exception ("Rôle introuvable pour l'id: " ++ roleId))
    | some roleData =>
      let nom ← ofExcept (roleData.get .nom).asStr
      let description ← ofExcept ((roleData.get .description).orStr "")
      ret ⟨roleId, nom, description⟩

/-- The part of `ControleurAuth.connecter` after the sign-in. -/
def chargerUtilisateur (uid : String) : Action Unit Application RoleModele := do
  ecrire () (.update .utilisateurs uid [(.statut, .put (.bool true))])
  let userDoc ← lire () .utilisateurs uid
  match userDoc with
  | none => fail (.exception "Utilisateur introuvable dans Firestore")
  | some data => lireRole data

def connecter (email motDePasse : String) : Action Unit Application Bool := do
  setAuth fun a => { a with statut := .enCours, messageErreur := none }
  catching (do
    let user ← connecterFirebase email motDePasse
    match user with
    | none => do
      setAuth fun a => { a with
        messageErreur := some "Échec de la connexion. Vérifie tes identifiants."
        statut := .erreur }
      ret false
    | some uid => do
      setAuth fun a => { a with utilisateurFirebase := some uid }
      let role ← chargerUtilisateur uid
      setAuth fun a => { a with role := some role, statut := .connecte }
      ret true) fun e => do
    setAuth fun _ => { messageErreur := some (texteErreur e), statut := .erreur }
    ret false

/-- Mark the current user as away, then close the session. -/
def fermerSession : Action Unit Application Unit := do
  let user ← utilisateurCourant ()
  match user with
  | some uid => do
    ecrire () (.update .utilisateurs uid [(.statut, .put (.bool false))])
    seDeconnecter ()
  | none => seDeconnecter ()

def deconnecter : Action Unit Application Unit :=
  catching (do
    fermerSession
    setAuth fun _ => {}) fun e =>
  setAuth fun a => { a with
    messageErreur := some ("Erreur pendant la déconnexion : " ++ texteErreur e) }

/-! ## logoutUser -/

def showSnackBar (message : String) (isError : Bool) : Action Unit Application Unit :=
  setState fun p => { p with snackBars := p.snackBars ++ [⟨message, isError⟩] }

def pushReplacementNamed (route : String) (arguments : Option Arguments) :
    Action Unit Application Unit :=
  setState fun p => { p with navigations := p.navigations ++ [⟨route, arguments⟩] }

/-- The controller is not told. -/
def logoutUser : Action Unit Application Unit :=
  catching (do
    fermerSession
    pushReplacementNamed "/connexion" none) fun e =>
  showSnackBar ("Échec de la déconnexion : " ++ texteErreur e) false

/-! ## LoginPage -/

/-- What `_handleLogin` keeps of the credentials. -/
def memoriser (email motDePasse : String) (rememberMe : Bool) : Action Unit Application Unit :=
  setState fun p => { p with prefs :=
    if rememberMe then ⟨some email, some motDePasse, some true⟩ else ⟨none, none, some false⟩ }

def chargementFini : Action Unit Application Unit := setState fun p => { p with isLoading := false }

/-- `data?['etablissementId'] as String?`. -/
def etablissementDe (data : Document) : Except Err (Option String) :=
  (data.get .etablissementId).optStr

/-- The home page of each role; super administrators go to theirs before. -/
def accueilDe : String → Option String
  | "administrateur" => some "/home_admin"
  | "enseignant" => some "/home_enseignant"
  | "parent" => some "/home_Parent"
  | "eleve" => some "/home_eleve"
  | _ => none

/-- The end of `_handleLogin` for the user `uid` of a role other than `superadmin`. -/
def ouvrirAccueil (uid : String) (roleNom : String) : Action Unit Application Unit := do
  let userDocSnapshot ← lire () .utilisateurs uid
  match userDocSnapshot with
  | none => do
    showSnackBar "Utilisateur non trouvé dans la base." true
    chargementFini
  | some data => do
    let etablissementId ← ofExcept (etablissementDe data)
    match etablissementId with
    | none => do
      showSnackBar "Aucun établissement associé à cet utilisateur." true
      chargementFini
    | some etablissementId =>
      if etablissementId = "" then do
        showSnackBar "Aucun établissement associé à cet utilisateur." true
        chargementFini
      else
        match accueilDe roleNom with
        | some route => do
          pushReplacementNamed route (some ⟨etablissementId, some uid⟩)
          chargementFini
        | none => do
          showSnackBar "Rôle inconnu. Veuillez contacter l'administrateur." true
          pushReplacementNamed "/login" none
          chargementFini

/-- What `_handleLogin` does once the controller has answered `true`. -/
def apresConnexion (toLowerCase : String → String) : Action Unit Application Unit := do
  let user ← utilisateurCourant ()
  -- not in a `try`: an error leaves the page loading
  match user with
  | some uid => ecrire () (.update .utilisateurs uid [(.statut, .put (.bool true))])
  | none => ret ()
  let p ← page
  match p.auth.role with
  | none => do
    showSnackBar "Rôle inconnu. Veuillez contacter l'administrateur." true
    chargementFini
  | some role =>
    let roleNom := toLowerCase role.nom
    if roleNom = "superadmin" then do
      pushReplacementNamed "/home_super_admin" none
      chargementFini
    else
      match user with
      | some uid => ouvrirAccueil uid roleNom
      | none => do
        -- `doc(null)` names a new document, which is not there
        attendre ()
        showSnackBar "Utilisateur non trouvé dans la base." true
        chargementFini

/-- `_handleLogin` with the texts of the page. -/
def handleLogin (toLowerCase : String → String) (email password : String) (rememberMe : Bool) :
    Action Unit Application Unit := do
  setState fun p => { p with isLoading := true }
  let success ← connecter (trim email) (trim password)
  memoriser (trim email) (trim password) rememberMe
  if success then apresConnexion toLowerCase
  else do
    showSnackBar "Échec de la connexion" false
    chargementFini

end EduConnect.Commun
