import EduConnect.Admin.Controleurs
import EduConnect.Messagerie.Listes

/-!
# Announcements

An administrator publishes on `CreerAnnoncePage`; `DepotAnnonce` publishes too.  A user reads the
announcements on the page of his role, and a badge of his home page counts those he has not marked;
the home pages are those of `Familles.Accueils` and `Enseignant.Accueil`.
The class `AnnonceModele` is written five times, with two names for the field of the audience.
-/

namespace EduConnect.Annonces

open Lib Prog Admin Messagerie
open Enseignant (HomeEnseignant PageEnseignant)
open Familles (HomeParent HomeEleve PageParent PageEleve)

/-! ## AnnonceModele -/

/-- `AnnonceModele.fromMap` with `audience` for the field of the audience. -/
def lireAnnonce (audience : Champ) (maintenant : ℤ) (data : Document) (id : String) :
    Except Err AnnonceModele := do
  return {
    id := id
    etablissementId := ← (data.get .etablissementId).orStr ""
    titre := ← (data.get .titre).orStr ""
    description := ← (data.get .description).orStr ""
    fichierId := ← (data.get .fichierId).optStr
    utilisateursConcernes := ← (data.get audience).orStrs
    luePar := ← (data.get .luePar).orStrs
    dateCreation := ← match data.get .dateCreation with
      | .null => .ok maintenant
      | v => v.asStamp }

/-- The places where the class is written. -/
inductive Copie where
  /-- `admin/modeles/model_annonce.dart` -/
  | modele
  /-- `admin/vues/liste_annonce.dart` -/
  | liste
  /-- `enseignant/vues/notifications_page.dart` -/
  | enseignant
  /-- `parent/vues/annonce.dart` -/
  | parent
  /-- `eleve/vues/annonces.dart` -/
  | eleve
  deriving DecidableEq

namespace Copie

/-- The field the copy reads the audience from. -/
def champ : Copie → Champ
  | modele => .utilisateursConcernes
  | liste => .utilisateursConcernes
  | enseignant => .utilisateursConcernes
  | parent => .utilisateursConcernees
  | eleve => .utilisateursConcernees

def fromMap : Copie → ℤ → Document → String → Except Err AnnonceModele
  | modele => AnnonceModele.fromMap
  | liste => lireAnnonce .utilisateursConcernes
  | enseignant => lireAnnonce .utilisateursConcernes
  | parent => lireAnnonce .utilisateursConcernees
  | eleve => lireAnnonce .utilisateursConcernees

theorem fromMap_eq (copie : Copie) : copie.fromMap = lireAnnonce copie.champ := by
  cases copie <;> rfl

end Copie

/-! ## CreerAnnoncePage -/

/-- `_CreerAnnoncePageState` with the texts of its form. -/
structure CreerAnnonce where
  etablissementId : String
  titre : String := ""
  description : String := ""
  /-- Whether `_fichierBytes` is there. -/
  fichierBytes : Bool := false
  nomFichier : Option String := none
  fichierId : Option String := none
  chargement : Bool := false
  messages : List String := []

namespace CreerAnnonce

/-- The validators of the form. -/
def validate (p : CreerAnnonce) : Bool := p.titre ≠ "" && p.description ≠ ""

/-- The announcement as it is added. -/
def champs (p : CreerAnnonce) (utilisateursIds : List String) (maintenant : ℤ) : Champs :=
  [texte .titre (trim p.titre), texte .description (trim p.description),
    (.fichierId, .put (valeurOption (p.fichierId.map Value.str))),
    textes .utilisateursConcernees utilisateursIds, textes .luePar [],
    texte .etablissementId p.etablissementId, (.dateCreation, .put (.stamp maintenant))]

def showSnackBar (texte : String) : Action Unit CreerAnnonce Unit :=
  setState fun p => { p with messages := p.messages ++ [texte] }

/-- `_uploaderFichierDansAppwrite`. -/
def uploaderFichierDansAppwrite : Action Unit CreerAnnonce Unit := do
  let p ← page
  match p.fichierBytes, p.nomFichier with
  | true, some nomFichier =>
    catching (do
      let id ← creerFichier () nomFichier
      setState fun p => { p with fichierId := some id })
      fun _ => ret ()
  | _, _ => return

/-- `_soumettreAnnonce`, with the time of its `Timestamp.now()`. -/
def soumettreAnnonce (maintenant : ℤ) : Action Unit CreerAnnonce Unit := do
  let p ← page
  if p.validate then
    setState fun p => { p with chargement := true }
    if p.fichierBytes then uploaderFichierDansAppwrite
    ensuring (catching (do
      let utilisateursSnap ← chercher () .utilisateurs
        [.isEqualTo .etablissementId (.str p.etablissementId)]
      let p ← page
      let _ ← ajouter () .annonces (p.champs (utilisateursSnap.map Prod.fst) maintenant)
      showSnackBar "Annonce publiée avec succès") fun e =>
      showSnackBar ("Erreur : " ++ texteErreur e)) fun p => { p with chargement := false }
  else return

end CreerAnnonce

/-! ## DepotAnnonce -/

namespace DepotAnnonce

variable {σ : Type}

def ajouterAnnonce (annonce : AnnonceModele) : Action Unit σ Unit :=
  poserDoc () .annonces annonce.id annonce.toMap

/-- What both `marquerCommeLue` and the pages write. -/
def marquee (utilisateurId : String) : Champs := [(.luePar, .arrayUnion [utilisateurId])]

def marquerCommeLue (annonceId utilisateurId : String) : Action Unit σ Unit :=
  if annonceId = "" then fail .invalidArgument
  else ecrire () (.update .annonces annonceId (marquee utilisateurId))

def supprimerAnnonce (annonceId : String) : Action Unit σ Unit :=
  if annonceId = "" then fail .invalidArgument else ecrire () (.delete .annonces annonceId)

end DepotAnnonce

/-! ## The pages of the users -/

/-- `ListeAnnoncesEnseignantPage`, `ListeAnnoncesParentPage` and `ListeAnnoncesElevePage`; a teacher's
`utilisateurId` is called `enseignantId`. -/
structure ListeAnnonces where
  lecteur : Messagerie.Accueil
  utilisateurId : String
  etablissementId : String
  isLoading : Bool := true
  error : Option String := none
  annonces : List AnnonceModele := []
  messages : List String := []

/-- The copy of `AnnonceModele` in the page's file. -/
def copieDe : Messagerie.Accueil → Copie
  | .enseignant => .enseignant
  | .parent => .parent
  | .eleve => .eleve

namespace ListeAnnonces

/-- A row of the list; the parent's page prints its title first. -/
def decoder (lecteur : Messagerie.Accueil) (maintenant : ℤ) (doc : String × Document) :
    Except Err AnnonceModele := do
  if lecteur = .parent then
    let _ ← doc.2.field .titre
  (copieDe lecteur).fromMap maintenant doc.2 doc.1

/-- `_chargerAnnonces`. -/
def chargerAnnonces (maintenant : ℤ) : Action Unit ListeAnnonces Unit :=
  catching (do
    setState fun p => { p with isLoading := true, error := none }
    let p ← page
    let docs ← Prog.call () (Req.query .annonces
      ⟨[.isEqualTo .etablissementId (.str p.etablissementId),
        .arrayContains .utilisateursConcernees p.utilisateurId],
        some (.dateCreation, true), none⟩)
    let annonces ← ofExcept (docs.mapM (decoder p.lecteur maintenant))
    setState fun p => { p with annonces := annonces }
    setState fun p => { p with isLoading := false })
    fun e => setState fun p => { p with error := some (texteErreur e), isLoading := false }

/-- The `setState` of `_marquerCommeLue`. -/
def marquer (annonceId : String) (p : ListeAnnonces) : ListeAnnonces :=
  { p with annonces := p.annonces.map fun annonce =>
      if annonce.id = annonceId then
        { annonce with luePar := annonce.luePar ++ [p.utilisateurId] }
      else annonce }

def showSnackBar (texte : String) : Action Unit ListeAnnonces Unit :=
  setState fun p => { p with messages := p.messages ++ [texte] }

/-- `_marquerCommeLue`, the same on the three pages. -/
def marquerCommeLue (annonceId : String) : Action Unit ListeAnnonces Unit := do
  let p ← page
  if annonceId = "" then fail .invalidArgument
  else
    catching (do
      ecrire () (.update .annonces annonceId (DepotAnnonce.marquee p.utilisateurId))
      setState (marquer annonceId)) fun e =>
      showSnackBar ("Erreur lors de la mise à jour : " ++ texteErreur e)

/-- The announcements on the screen. -/
def affichees (p : ListeAnnonces) : List AnnonceModele :=
  if p.isLoading then []
  else match p.error with
    | some _ => []
    | none => p.annonces

end ListeAnnonces

/-! ## From the home page -/

section Accueil

variable (S : Server) (b : Base)

/-- The announcement page that the home page of an account gives, if it has made it; a parent's is
under the id of his document. -/
def pageAnnonces (lecteur : Messagerie.Accueil) (uid etablissementId : String) :
    Option ListeAnnonces :=
  match lecteur with
  | .enseignant =>
    match (HomeEnseignant.ouvrir S b etablissementId uid).pages[2]? with
    | some (PageEnseignant.annonces etablissementId enseignantId) =>
      some { lecteur := .enseignant, utilisateurId := enseignantId, etablissementId }
    | _ => none
  | .parent =>
    match (HomeParent.ouvrir S b etablissementId uid).pages[4]? with
    | some (PageParent.annonces utilisateurId etablissementId) =>
      some { lecteur := .parent, utilisateurId, etablissementId }
    | _ => none
  | .eleve =>
    match (HomeEleve.ouvrir S b etablissementId uid).pages[4]? with
    | some (PageEleve.annonces utilisateurId etablissementId) =>
      some { lecteur := .eleve, utilisateurId, etablissementId }
    | _ => none

/-- The announcements the page shows once it is loaded. -/
def affichage (maintenant : ℤ) (p : ListeAnnonces) : List AnnonceModele :=
  (apres S b (ListeAnnonces.chargerAnnonces maintenant) p).affichees

/-- The announcements an account sees on his page; there are none without a page. -/
def affichees (maintenant : ℤ) (lecteur : Messagerie.Accueil) (uid etablissementId : String) :
    List String :=
  match pageAnnonces S b lecteur uid etablissementId with
  | none => []
  | some page => (affichage S b maintenant page).map (·.id)

/-! ### The badge -/

/-- The home page of the account has subscribed to the announcements. -/
def ecouteAnnonces (lecteur : Messagerie.Accueil) (uid etablissementId : String) : Bool :=
  match lecteur with
  | .enseignant => (HomeEnseignant.ouvrir S b etablissementId uid).ecran.ecoute .annonces
  | .parent => ((HomeParent.ouvrir S b etablissementId uid).ecoute .annonces).isSome
  | .eleve => ((HomeEleve.ouvrir S b etablissementId uid).ecoute .annonces).isSome

/-- Whether an announcement is counted; `home_enseignant.dart` does not read a list of strings. -/
def estNonLue (lecteur : Messagerie.Accueil) (uid : String) (data : Document) : Except Err Bool :=
  match lecteur with
  | .enseignant => do
    let luePar ← (data.get .luePar).orList
    return !luePar.any (Value.isStr uid)
  | _ => do
    let luePar ← (data.get .luePar).orStrs
    return decide (uid ∉ luePar)

/-- The announcements that an emission of the subscription counts. -/
def compterAnnonces (lecteur : Messagerie.Accueil) (uid : String) : Except Err (List String) := do
  let docs := (⟨[.arrayContains .utilisateursConcernees uid], none, none⟩ : Query Champ).run
    (b.docs .annonces)
  let lues ← docs.mapM fun doc => do return (doc.1, ← estNonLue lecteur uid doc.2)
  return (lues.filter Prod.snd).map Prod.fst

/-- The announcements the badge of an account counts; an emission that throws counts nothing. -/
def nonLues (lecteur : Messagerie.Accueil) (uid etablissementId : String) : List String :=
  if ecouteAnnonces S b lecteur uid etablissementId then
    (compterAnnonces b lecteur uid).toOption.getD []
  else []

end Accueil

end EduConnect.Annonces
