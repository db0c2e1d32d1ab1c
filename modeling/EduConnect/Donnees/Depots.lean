import EduConnect.Admin.Controleurs
import EduConnect.Admin.Edition
import EduConnect.Admin.ParEtablissement
import EduConnect.Enseignant.Presences
import EduConnect.Enseignant.Relecture
import EduConnect.Messagerie.Listes
import EduConnect.SuperAdmin.Administrateurs

/-!
# The repositories

`donnees/depots`: a class for each collection.  Their functions send one request each; those that
send several are with the screens that call them.
-/

namespace EduConnect.Donnees

open Lib Prog Admin SuperAdmin

/-! ## Models -/

/-- `donnees/modeles/role_modele.dart`. -/
structure RoleModele where
  id : String
  nom : String
  description : String

/-- Both fields have to be there; `as String?` throws on a value that is no string. -/
def RoleModele.fromMap (data : Document) (documentId : String) : Except Err RoleModele := do
  let nom ← (data.get .nom).optStr
  let description ← (data.get .description).optStr
  match nom, description with
  | some nom, some description => return ⟨documentId, nom, description⟩
  | _, _ => .error (.exception ("Invalid argument(s): Les champs \"nom\" et \"description\"" ++
      " doivent être non nuls dans les données."))

/-- The id is not stored. -/
def RoleModele.toMap (r : RoleModele) : Champs := [texte .nom r.nom, texte .description r.description]

/-- `donnees/modeles/model_enseignement.dart`. -/
structure EnseignementModele where
  id : String
  enseignantId : String
  matiereId : String

def EnseignementModele.fromMap (map : Document) (id : String) : Except Err EnseignementModele := do
  return {
    id := id
    enseignantId := ← (map.get .enseignantId).orStr ""
    matiereId := ← (map.get .matiereId).orStr "" }

def EnseignementModele.toMap (e : EnseignementModele) : Champs :=
  [texte .enseignantId e.enseignantId, texte .matiereId e.matiereId]

/-! ## What the functions are made of -/

section Formes

variable {σ α : Type}

/-- `collection(c).doc(id).update(fs)`, where `doc` refuses an empty id. -/
def modifierDoc (c : Collection) (id : String) (fs : Champs) : Action Unit σ Unit :=
  if id = "" then fail .invalidArgument else ecrire () (.update c id fs)

/-- `collection(c).doc(id).delete()`. -/
def supprimerDoc (c : Collection) (id : String) : Action Unit σ Unit :=
  if id = "" then fail .invalidArgument else ecrire () (.delete c id)

/-- `collection(c).add(fs)` by a function that returns nothing. -/
def ajouterDoc (c : Collection) (fs : Champs) : Action Unit σ Unit := do
  let _ ← ajouter () c fs
  return

/-- The model of a document, if it exists. -/
def chargerModele (c : Collection) (id : String)
    (fromMap : Document → String → Except Err α) : Action Unit σ (Option α) := do
  let doc ← lireDoc () c id
  match doc with
  | some data => return some (← ofExcept (fromMap data id))
  | none => return none

/-- The model of the first document of a query, if it finds one. -/
def chargerPremier (c : Collection) (fs : List (Lib.Filter Champ))
    (fromMap : Document → String → Except Err α) : Action Unit σ (Option α) := do
  let docs ← chercherPremier () c fs
  match docs with
  | [] => return none
  | doc :: _ => return some (← ofExcept (fromMap doc.2 doc.1))

/-- The models of a query by descending dates. -/
def chargerRecents (c : Collection) (fs : List (Lib.Filter Champ))
    (fromMap : Document → String → Except Err α) : Action Unit σ (List α) := do
  let snapshot ← Prog.call () (Req.query c ⟨fs, some (.date, true), none⟩)
  ofExcept (snapshot.mapM fun doc => fromMap doc.2 doc.1)

/-- `try { p } catch (e) { rethrow; }`. -/
def relancer (p : Action Unit σ α) : Action Unit σ α := catching p fun e => fail e

end Formes

/-! ## The repositories -/

variable {σ : Type}

namespace DepotUtilisateur

def ajouterUtilisateur (utilisateur : UtilisateurModele) : Action Unit σ Unit :=
  poserDoc () .utilisateurs utilisateur.id utilisateur.toMap

def modifierUtilisateur (id : String) (utilisateur : UtilisateurModele) : Action Unit σ Unit :=
  modifierDoc .utilisateurs id utilisateur.toMap

def supprimerUtilisateur (id : String) : Action Unit σ Unit := supprimerDoc .utilisateurs id

def getTousLesUtilisateurs : Action Unit σ (List UtilisateurModele) :=
  chargerModeles () .utilisateurs [] UtilisateurModele.fromMap

def getUtilisateurParId (id : String) : Action Unit σ (Option UtilisateurModele) :=
  chargerModele .utilisateurs id UtilisateurModele.fromMap

def getUtilisateursParEtablissement (etabId : String) : Action Unit σ (List UtilisateurModele) :=
  chargerModeles () .utilisateurs [.isEqualTo .etablissementId (.str etabId)]
    UtilisateurModele.fromMap

end DepotUtilisateur

namespace DepotEleve

/-! Each function throws errors again under a text of its own. -/

def ajouterEleve (eleve : EleveModele) : Action Unit σ Unit :=
  lecture "Erreur lors de l'ajout de l'élève : " (poserDoc () .eleves eleve.id eleve.toMap)

def modifierEleve (id : String) (eleve : EleveModele) : Action Unit σ Unit :=
  lecture "Erreur lors de la modification de l'élève : " (modifierDoc .eleves id eleve.toMap)

def supprimerEleve (id : String) : Action Unit σ Unit :=
  lecture "Erreur lors de la suppression de l'élève : " (supprimerDoc .eleves id)

def rechercherEleveParId (id : String) : Action Unit σ (Option EleveModele) :=
  lecture "Erreur lors de la recherche de l'élève : " (chargerModele .eleves id EleveModele.fromMap)

def rechercherElevesParClasse (classeId : String) : Action Unit σ (List EleveModele) :=
  lecture "Erreur lors de la recherche des élèves : "
    (chargerModeles () .eleves [.isEqualTo .classeId (.str classeId)] EleveModele.fromMap)

def recupererTousLesEleves : Action Unit σ (List EleveModele) :=
  lecture "Erreur lors de la récupération des élèves : "
    (chargerModeles () .eleves [] EleveModele.fromMap)

end DepotEleve

namespace DepotClasse

def ajouterClasse (classe : ClasseModele) : Action Unit σ Unit :=
  poserDoc () .classes classe.id classe.toMap

def modifierClasse (id : String) (classe : ClasseModele) : Action Unit σ Unit :=
  modifierDoc .classes id classe.toMap

def supprimerClasse (id : String) : Action Unit σ Unit := supprimerDoc .classes id

def getToutesLesClasses : Action Unit σ (List ClasseModele) :=
  chargerModeles () .classes [] ClasseModele.fromMap

def getClasseParId (id : String) : Action Unit σ (Option ClasseModele) :=
  chargerModele .classes id ClasseModele.fromMap

end DepotClasse

namespace DepotMatiere

def lireMatiere (map : Document) (id : String) : Except Err MatiereModele :=
  MatiereModele.fromMap map (some id)

def ajouterMatiere (matiere : MatiereModele) : Action Unit σ Unit :=
  poserDoc () .matieres matiere.id matiere.toMap

def modifierMatiere (id : String) (matiere : MatiereModele) : Action Unit σ Unit :=
  modifierDoc .matieres id matiere.toMap

def supprimerMatiere (id : String) : Action Unit σ Unit := supprimerDoc .matieres id

def getToutesLesMatieres : Action Unit σ (List MatiereModele) :=
  chargerModeles () .matieres [] lireMatiere

def getMatiereParId (id : String) : Action Unit σ (Option MatiereModele) :=
  chargerModele .matieres id lireMatiere

def getMatieresParEnseignant (enseignantId : String) : Action Unit σ (List MatiereModele) :=
  chargerModeles () .matieres [.isEqualTo .enseignantId (.str enseignantId)] lireMatiere

end DepotMatiere

namespace DepotNote

/-- A note does not have an id. -/
def lireNote (map : Document) (_ : String) : Except Err NoteModele := NoteModele.fromMap map

def ajouterNote (note : NoteModele) : Action Unit σ Unit := ajouterDoc .notes note.toMap

def modifierNote (id : String) (note : NoteModele) : Action Unit σ Unit :=
  modifierDoc .notes id note.toMap

def supprimerNote (id : String) : Action Unit σ Unit := supprimerDoc .notes id

def getToutesLesNotes : Action Unit σ (List NoteModele) := chargerModeles () .notes [] lireNote

def getNotesParEleve (eleveId : String) : Action Unit σ (List NoteModele) :=
  chargerModeles () .notes [.isEqualTo .eleveId (.str eleveId)] lireNote

end DepotNote

namespace DepotEtablissement

def ajouterEtablissement (etab : EtablissementModele) : Action Unit σ Unit :=
  ajouterDoc .etablissements etab.toMap

def modifierEtablissement (id : String) (etab : EtablissementModele) : Action Unit σ Unit :=
  modifierDoc .etablissements id etab.toMap

def supprimerEtablissement (id : String) : Action Unit σ Unit := supprimerDoc .etablissements id

def getTousLesEtablissements : Action Unit σ (List EtablissementModele) :=
  chargerModeles () .etablissements [] EtablissementModele.fromMap

def getEtablissementParId (id : String) : Action Unit σ (Option EtablissementModele) :=
  chargerModele .etablissements id EtablissementModele.fromMap

end DepotEtablissement

namespace DepotEnseignant

def ajouterEnseignant (enseignant : EnseignantModele) : Action Unit σ Unit :=
  ajouterDoc .enseignants (lienUtilisateur enseignant.utilisateurId)

def modifierEnseignant (id : String) (enseignant : EnseignantModele) : Action Unit σ Unit :=
  modifierDoc .enseignants id (lienUtilisateur enseignant.utilisateurId)

def supprimerEnseignant (id : String) : Action Unit σ Unit := supprimerDoc .enseignants id

def getEnseignant (id : String) : Action Unit σ (Option EnseignantModele) :=
  chargerModele .enseignants id EnseignantModele.fromMap

def getTousLesEnseignants : Action Unit σ (List EnseignantModele) :=
  chargerModeles () .enseignants [] EnseignantModele.fromMap

end DepotEnseignant

namespace Depotparent

open Messagerie (ParentModele)

def ajouterParent (parent : ParentModele) : Action Unit σ String :=
  lecture "Erreur lors de l'ajout du parent : "
    (ajouter () .parents (lienUtilisateur parent.utilisateurId))

def getParentParId (parentId : String) : Action Unit σ (Option ParentModele) :=
  lecture "Erreur lors de la récupération du parent : "
    (chargerModele .parents parentId ParentModele.fromMap)

def supprimerParent (parentId : String) : Action Unit σ Unit :=
  lecture "Erreur lors de la suppression du parent : " (supprimerDoc .parents parentId)

/-- One emission of the stream. -/
def getTousLesParentsStream : Action Unit σ (List ParentModele) :=
  chargerModeles () .parents [] ParentModele.fromMap

def getParentParUtilisateurId (utilisateurId : String) : Action Unit σ (Option ParentModele) :=
  lecture "Erreur lors de la récupération du parent par utilisateurId : "
    (chargerPremier .parents [.isEqualTo .utilisateurId (.str utilisateurId)] ParentModele.fromMap)

end Depotparent

namespace DepotRole

def getTousLesRoles : Action Unit σ (List RoleModele) :=
  chargerModeles () .roles [] RoleModele.fromMap

def getRoleParId (id : String) : Action Unit σ (Option RoleModele) :=
  chargerModele .roles id RoleModele.fromMap

def modifierRole (id nom description : String) : Action Unit σ Unit :=
  lecture "Erreur lors de la modification du rôle : "
    (modifierDoc .roles id [texte .nom nom, texte .description description])

def ajouterRole (nom description : String) : Action Unit σ Unit :=
  ajouterDoc .roles [texte .nom nom, texte .description description]

end DepotRole

namespace EnseignementDepot

def ajouterEnseignement (enseignantId matiereId : String) : Action Unit σ Unit :=
  ajouterDoc .enseignements [texte .enseignantId enseignantId, texte .matiereId matiereId]

def supprimerEnseignement (enseignementId : String) : Action Unit σ Unit :=
  supprimerDoc .enseignements enseignementId

def getEnseignementsPourEnseignant (enseignantId : String) :
    Action Unit σ (List EnseignementModele) :=
  chargerModeles () .enseignements [.isEqualTo .enseignantId (.str enseignantId)]
    EnseignementModele.fromMap

def getEnseignementsPourMatiere (matiereId : String) : Action Unit σ (List EnseignementModele) :=
  chargerModeles () .enseignements [.isEqualTo .matiereId (.str matiereId)]
    EnseignementModele.fromMap

end EnseignementDepot

namespace DepotAdministrateur

/-- `AdministrateurModele.fromMap`: `as String`, without a default. -/
def lireAdministrateur (map : Document) (id : String) : Except Err AdministrateurModele := do
  return { id := id, utilisateurId := ← (map.get .utilisateurId).asStr }

def modifierAdministrateur (admin : AdministrateurModele) : Action Unit σ Unit :=
  modifierDoc .administrateurs admin.id admin.toMap

def supprimerAdministrateur (id : String) : Action Unit σ Unit := supprimerDoc .administrateurs id

end DepotAdministrateur

namespace DeposAppel

/-! Errors are caught only to be thrown again. -/

def creerAppel (appel : AppelModele) : Action Unit σ Unit :=
  relancer (ajouterDoc .appels appel.toMap)

def getAppelParId (id : String) : Action Unit σ (Option AppelModele) :=
  relancer (chargerModele .appels id AppelModele.fromMap)

def getAppelsParClasse (classeId : String) : Action Unit σ (List AppelModele) :=
  relancer (chargerRecents .appels [.isEqualTo .classeId (.str classeId)] AppelModele.fromMap)

def getAppelsParEnseignant (enseignantId : String) : Action Unit σ (List AppelModele) :=
  relancer (chargerRecents .appels [.isEqualTo .enseignantId (.str enseignantId)]
    AppelModele.fromMap)

def getAbsencesParEleve (eleveId : String) : Action Unit σ (List AppelModele) :=
  relancer (chargerRecents .appels [.arrayContains .elevesAbsents eleveId] AppelModele.fromMap)

def supprimerAppel (id : String) : Action Unit σ Unit := relancer (supprimerDoc .appels id)

end DeposAppel

namespace DepotFamille

open Enseignant (FamilleModele)

def supprimerRelation (relationId : String) : Action Unit σ Unit :=
  lecture "Erreur lors de la suppression de la relation famille : "
    (supprimerDoc .famille relationId)

/-- One emission of the stream. -/
def getRelationsParParent (parentId : String) : Action Unit σ (List FamilleModele) :=
  chargerModeles () .famille [.isEqualTo .parentId (.str parentId)] FamilleModele.fromMap

end DepotFamille

/-! ## The screens' own calls -/

/-- The roll calls in which a student is absent are those of `Enseignant.DeposAppel`. -/
theorem getAbsencesParEleve_eq (eleveId : String) :
    (DeposAppel.getAbsencesParEleve eleveId : Action Unit σ _) =
      Enseignant.DeposAppel.getAbsencesParEleve () eleveId := rfl

theorem getNotesParEleve_eq (eleveId : String) :
    DepotNote.getNotesParEleve eleveId = Enseignant.DepotNote.getNotesParEleve eleveId := rfl

/-- The edit screens always have the id of a document. -/
theorem modifierUtilisateur_eq {id : String} (h : id ≠ "") (u : UtilisateurModele) :
    (DepotUtilisateur.modifierUtilisateur id u : Action Unit σ _) = 
      ModificationUtilisateur.modifierUtilisateur () id u :=
  if_neg h

end EduConnect.Donnees
