import EduConnect.Donnees.Depots
import EduConnect.Lib.Repositories

/-!
# What the repositories are

Seen by its clients, each repository is a table of models: `regle` says of every function of
`AppelDepot` what it returns and what it leaves, without a word of documents; one that fails leaves
the tables as they were.  These functions are calls on the tables that take effect at once, however
the requests of their callers are interleaved or lost (`depots_atomiques`).

Six functions are left out.  `DepotFamille.ajouterRelation`, `DepotEnseignant.getParEtablissement`,
and `ajouterAdministrateur`, `getTousLesAdministrateurs` and `getAdministrateurParId` of
`DepotAdministrateur` send several requests; `Depotparent.modifierParent` writes any fields.
-/

namespace EduConnect.Donnees

open Lib Prog Admin SuperAdmin Messagerie

/-! ## The models and their documents -/

inductive Entite where
  | utilisateur | eleve | classe | matiere | note | etablissement | appel | enseignant | parent
  | role | administrateur | enseignement | famille
  deriving DecidableEq

@[reducible] def Entite.Modele : Entite → Type
  | utilisateur => UtilisateurModele
  | eleve => EleveModele
  | classe => Donnees.ClasseModele
  | matiere => Donnees.MatiereModele
  | note => NoteModele
  | etablissement => EtablissementModele
  | appel => AppelModele
  | enseignant => Admin.EnseignantModele
  | parent => ParentModele
  | role => Donnees.RoleModele
  | administrateur => AdministrateurModele
  | enseignement => EnseignementModele
  | famille => Enseignant.FamilleModele

/-- A model is read again under the id of its document; a note has none, and its subject loses its
own. -/
def codec : (e : Entite) → Codec Collection Champ e.Modele
  | .utilisateur => ⟨.utilisateurs, UtilisateurModele.toMap, UtilisateurModele.fromMap,
    fun id u => { u with id := id }⟩
  | .eleve => ⟨.eleves, EleveModele.toMap, EleveModele.fromMap, fun id e => { e with id := id }⟩
  | .classe => ⟨.classes, Donnees.ClasseModele.toMap, Donnees.ClasseModele.fromMap,
    fun id c => { c with id := id }⟩
  | .matiere => ⟨.matieres, Donnees.MatiereModele.toMap, DepotMatiere.lireMatiere,
    fun id m => { m with id := id }⟩
  | .note => ⟨.notes, NoteModele.toMap, DepotNote.lireNote,
    fun _ n => { n with matiere := { n.matiere with id := "" } }⟩
  | .etablissement => ⟨.etablissements, EtablissementModele.toMap, EtablissementModele.fromMap,
    fun id e => { e with id := id }⟩
  | .appel => ⟨.appels, AppelModele.toMap, AppelModele.fromMap, fun id a => { a with id := id }⟩
  | .enseignant => ⟨.enseignants, fun e => lienUtilisateur e.utilisateurId,
    Admin.EnseignantModele.fromMap, fun id e => { e with id := id }⟩
  | .parent => ⟨.parents, fun p => lienUtilisateur p.utilisateurId, ParentModele.fromMap,
    fun id p => { p with id := id }⟩
  | .role => ⟨.roles, Donnees.RoleModele.toMap, Donnees.RoleModele.fromMap,
    fun id r => { r with id := id }⟩
  | .administrateur => ⟨.administrateurs, AdministrateurModele.toMap,
    DepotAdministrateur.lireAdministrateur, fun id a => { a with id := id }⟩
  | .enseignement => ⟨.enseignements, EnseignementModele.toMap, EnseignementModele.fromMap,
    fun id e => { e with id := id }⟩
  | .famille => ⟨.famille, fun f => [texte .parentId f.parentId, texte .eleveId f.eleveId],
    Enseignant.FamilleModele.fromMap, fun id f => { f with id := id }⟩

/-- What is written is read again, whatever the document held before. -/
theorem codec_lawful (e : Entite) : (codec e).Lawful := by
  intro now d id m
  cases e with
  | utilisateur =>
    obtain ⟨id', nom, prenom, email, numeroTelephone, adresse, motDePasse, statut, roleId,
      etablissementId, photo⟩ := m
    rcases photo with _ | photo <;> rfl
  | eleve =>
    have hnotes : (writeFields now d m.toMap).get .notesIds = Value.strs m.notesIds := rfl
    simp only [codec, EleveModele.fromMap, hnotes, Value.orStrs_strs]
    rfl
  | classe =>
    have hmatieres : (writeFields now d m.toMap).get .matieresIds = Value.strs m.matieresIds := rfl
    have heleves : (writeFields now d m.toMap).get .elevesIds = Value.strs m.elevesIds := rfl
    simp only [codec, Donnees.ClasseModele.fromMap, hmatieres, heleves, Value.orStrs_strs]
    rfl
  | appel =>
    have hpresents : (writeFields now d m.toMap).get .elevesPresents =
      Value.strs m.elevesPresents := rfl
    have habsents : (writeFields now d m.toMap).get .elevesAbsents =
      Value.strs m.elevesAbsents := rfl
    simp only [codec, AppelModele.fromMap, hpresents, habsents, Value.orStrs_strs]
    rfl
  | note =>
    have hmatiere : (writeFields now d m.toMap).get .matiere = .map (newDoc 0 m.matiere.toMap) := rfl
    simp only [codec, DepotNote.lireNote, NoteModele.fromMap, hmatiere, Value.asMap]
    rfl
  | matiere => rfl
  | etablissement => rfl
  | enseignant => rfl
  | parent => rfl
  | role => rfl
  | administrateur => rfl
  | enseignement => rfl
  | famille => rfl

theorem codec_kept : World.Kept codec where
  coll e e' h := by
    cases e <;> cases e' <;> first | rfl | cases h
  lawful := codec_lawful

abbrev Monde : Type := World Entite.Modele

/-! ## The functions -/

/-- A call of a function of one of the repositories that sends one request. -/
inductive AppelDepot where
  | ajouterUtilisateur (utilisateur : UtilisateurModele)
  | modifierUtilisateur (id : String) (utilisateur : UtilisateurModele)
  | supprimerUtilisateur (id : String)
  | getTousLesUtilisateurs
  | getUtilisateurParId (id : String)
  | getUtilisateursParEtablissement (etabId : String)
  | ajouterEleve (eleve : EleveModele)
  | modifierEleve (id : String) (eleve : EleveModele)
  | supprimerEleve (id : String)
  | rechercherEleveParId (id : String)
  | rechercherElevesParClasse (classeId : String)
  | recupererTousLesEleves
  | ajouterClasse (classe : Donnees.ClasseModele)
  | modifierClasse (id : String) (classe : Donnees.ClasseModele)
  | supprimerClasse (id : String)
  | getToutesLesClasses
  | getClasseParId (id : String)
  | ajouterMatiere (matiere : Donnees.MatiereModele)
  | modifierMatiere (id : String) (matiere : Donnees.MatiereModele)
  | supprimerMatiere (id : String)
  | getToutesLesMatieres
  | getMatiereParId (id : String)
  | getMatieresParEnseignant (enseignantId : String)
  | ajouterNote (note : NoteModele)
  | modifierNote (id : String) (note : NoteModele)
  | supprimerNote (id : String)
  | getToutesLesNotes
  | getNotesParEleve (eleveId : String)
  | ajouterEtablissement (etab : EtablissementModele)
  | modifierEtablissement (id : String) (etab : EtablissementModele)
  | supprimerEtablissement (id : String)
  | getTousLesEtablissements
  | getEtablissementParId (id : String)
  | ajouterEnseignant (enseignant : Admin.EnseignantModele)
  | modifierEnseignant (id : String) (enseignant : Admin.EnseignantModele)
  | supprimerEnseignant (id : String)
  | getEnseignant (id : String)
  | getTousLesEnseignants
  | ajouterParent (parent : ParentModele)
  | getParentParId (parentId : String)
  | supprimerParent (parentId : String)
  | getTousLesParentsStream
  | getParentParUtilisateurId (utilisateurId : String)
  | getTousLesRoles
  | getRoleParId (id : String)
  | modifierRole (id nom description : String)
  | ajouterRole (nom description : String)
  | ajouterEnseignement (enseignantId matiereId : String)
  | supprimerEnseignement (enseignementId : String)
  | getEnseignementsPourEnseignant (enseignantId : String)
  | getEnseignementsPourMatiere (matiereId : String)
  | modifierAdministrateur (admin : AdministrateurModele)
  | supprimerAdministrateur (id : String)
  | creerAppel (appel : AppelModele)
  | getAppelParId (id : String)
  | getAppelsParClasse (classeId : String)
  | getAppelsParEnseignant (enseignantId : String)
  | getAbsencesParEleve (eleveId : String)
  | supprimerAppel (id : String)
  | supprimerRelation (relationId : String)
  | getRelationsParParent (parentId : String)

namespace AppelDepot

/-- What a function returns. -/
@[reducible] def Resultat : AppelDepot → Type
  | getTousLesUtilisateurs | getUtilisateursParEtablissement _ => List UtilisateurModele
  | getUtilisateurParId _ => Option UtilisateurModele
  | rechercherEleveParId _ => Option EleveModele
  | rechercherElevesParClasse _ | recupererTousLesEleves => List EleveModele
  | getToutesLesClasses => List Donnees.ClasseModele
  | getClasseParId _ => Option Donnees.ClasseModele
  | getToutesLesMatieres | getMatieresParEnseignant _ => List Donnees.MatiereModele
  | getMatiereParId _ => Option Donnees.MatiereModele
  | getToutesLesNotes | getNotesParEleve _ => List NoteModele
  | getTousLesEtablissements => List EtablissementModele
  | getEtablissementParId _ => Option EtablissementModele
  | getEnseignant _ => Option Admin.EnseignantModele
  | getTousLesEnseignants => List Admin.EnseignantModele
  | ajouterParent _ => String
  | getParentParId _ | getParentParUtilisateurId _ => Option ParentModele
  | getTousLesParentsStream => List ParentModele
  | getTousLesRoles => List Donnees.RoleModele
  | getRoleParId _ => Option Donnees.RoleModele
  | getEnseignementsPourEnseignant _ | getEnseignementsPourMatiere _ => List EnseignementModele
  | getAppelParId _ => Option AppelModele
  | getAppelsParClasse _ | getAppelsParEnseignant _ | getAbsencesParEleve _ => List AppelModele
  | getRelationsParParent _ => List Enseignant.FamilleModele
  | _ => Unit

def programme {σ : Type} : (x : AppelDepot) → Action Unit σ x.Resultat
  | ajouterUtilisateur u => DepotUtilisateur.ajouterUtilisateur u
  | modifierUtilisateur id u => DepotUtilisateur.modifierUtilisateur id u
  | supprimerUtilisateur id => DepotUtilisateur.supprimerUtilisateur id
  | getTousLesUtilisateurs => DepotUtilisateur.getTousLesUtilisateurs
  | getUtilisateurParId id => DepotUtilisateur.getUtilisateurParId id
  | getUtilisateursParEtablissement e => DepotUtilisateur.getUtilisateursParEtablissement e
  | ajouterEleve e => DepotEleve.ajouterEleve e
  | modifierEleve id e => DepotEleve.modifierEleve id e
  | supprimerEleve id => DepotEleve.supprimerEleve id
  | rechercherEleveParId id => DepotEleve.rechercherEleveParId id
  | rechercherElevesParClasse c => DepotEleve.rechercherElevesParClasse c
  | recupererTousLesEleves => DepotEleve.recupererTousLesEleves
  | ajouterClasse c => DepotClasse.ajouterClasse c
  | modifierClasse id c => DepotClasse.modifierClasse id c
  | supprimerClasse id => DepotClasse.supprimerClasse id
  | getToutesLesClasses => DepotClasse.getToutesLesClasses
  | getClasseParId id => DepotClasse.getClasseParId id
  | ajouterMatiere m => DepotMatiere.ajouterMatiere m
  | modifierMatiere id m => DepotMatiere.modifierMatiere id m
  | supprimerMatiere id => DepotMatiere.supprimerMatiere id
  | getToutesLesMatieres => DepotMatiere.getToutesLesMatieres
  | getMatiereParId id => DepotMatiere.getMatiereParId id
  | getMatieresParEnseignant e => DepotMatiere.getMatieresParEnseignant e
  | ajouterNote n => DepotNote.ajouterNote n
  | modifierNote id n => DepotNote.modifierNote id n
  | supprimerNote id => DepotNote.supprimerNote id
  | getToutesLesNotes => DepotNote.getToutesLesNotes
  | getNotesParEleve e => DepotNote.getNotesParEleve e
  | ajouterEtablissement e => DepotEtablissement.ajouterEtablissement e
  | modifierEtablissement id e => DepotEtablissement.modifierEtablissement id e
  | supprimerEtablissement id => DepotEtablissement.supprimerEtablissement id
  | getTousLesEtablissements => DepotEtablissement.getTousLesEtablissements
  | getEtablissementParId id => DepotEtablissement.getEtablissementParId id
  | ajouterEnseignant e => DepotEnseignant.ajouterEnseignant e
  | modifierEnseignant id e => DepotEnseignant.modifierEnseignant id e
  | supprimerEnseignant id => DepotEnseignant.supprimerEnseignant id
  | getEnseignant id => DepotEnseignant.getEnseignant id
  | getTousLesEnseignants => DepotEnseignant.getTousLesEnseignants
  | ajouterParent p => Depotparent.ajouterParent p
  | getParentParId id => Depotparent.getParentParId id
  | supprimerParent id => Depotparent.supprimerParent id
  | getTousLesParentsStream => Depotparent.getTousLesParentsStream
  | getParentParUtilisateurId u => Depotparent.getParentParUtilisateurId u
  | getTousLesRoles => DepotRole.getTousLesRoles
  | getRoleParId id => DepotRole.getRoleParId id
  | modifierRole id nom description => DepotRole.modifierRole id nom description
  | ajouterRole nom description => DepotRole.ajouterRole nom description
  | ajouterEnseignement e m => EnseignementDepot.ajouterEnseignement e m
  | supprimerEnseignement id => EnseignementDepot.supprimerEnseignement id
  | getEnseignementsPourEnseignant e => EnseignementDepot.getEnseignementsPourEnseignant e
  | getEnseignementsPourMatiere m => EnseignementDepot.getEnseignementsPourMatiere m
  | modifierAdministrateur a => DepotAdministrateur.modifierAdministrateur a
  | supprimerAdministrateur id => DepotAdministrateur.supprimerAdministrateur id
  | creerAppel a => DeposAppel.creerAppel a
  | getAppelParId id => DeposAppel.getAppelParId id
  | getAppelsParClasse c => DeposAppel.getAppelsParClasse c
  | getAppelsParEnseignant e => DeposAppel.getAppelsParEnseignant e
  | getAbsencesParEleve e => DeposAppel.getAbsencesParEleve e
  | supprimerAppel id => DeposAppel.supprimerAppel id
  | supprimerRelation id => DepotFamille.supprimerRelation id
  | getRelationsParParent p => DepotFamille.getRelationsParParent p

end AppelDepot

/-! ## What they do to the tables -/

/-- Errors come under the text `contexte`. -/
def Sous {α : Type} (contexte : String) (P : Monde → Except Err α → Monde → Prop) (w : Monde)
    (o : Except Err α) (w' : Monde) : Prop :=
  ∃ o', P w o' w' ∧ o = o'.mapError fun e => .exception (contexte ++ texteErreur e)

/-- The function does not return what it got. -/
def SansRetour {α : Type} (P : Monde → Except Err α → Monde → Prop) (w : Monde)
    (o : Except Err Unit) (w' : Monde) : Prop := ∃ o', P w o' w' ∧ o = o'.map fun _ => ()

abbrev Pose (e : Entite) (id : String) (m : e.Modele) : Monde → Except Err Unit → Monde → Prop :=
  World.Puts e id m

abbrev Change (e : Entite) (id : String) (m : e.Modele) :
    Monde → Except Err Unit → Monde → Prop := World.Changes e id m

abbrev Ote (e : Entite) (id : String) : Monde → Except Err Unit → Monde → Prop :=
  World.Removes e id

abbrev Ajoute (e : Entite) (m : String → e.Modele) : Monde → Except Err String → Monde → Prop :=
  World.Adds e m

abbrev Trouve (e : Entite) (id : String) :
    Monde → Except Err (Option e.Modele) → Monde → Prop := World.Finds e id

/-- All models, in no order that counts. -/
def Tous (e : Entite) : Monde → Except Err (List e.Modele) → Monde → Prop :=
  World.Lists e (fun _ => True) (fun _ => True) fun _ _ => True

/-- The models with the text `v` for `cle`, in the order `le`.  A model can also have an empty text
because its document has none, and such a document is not found. -/
def Avec (e : Entite) (cle : e.Modele → String) (v : String)
    (le : e.Modele → e.Modele → Prop := fun _ _ => True) :
    Monde → Except Err (List e.Modele) → Monde → Prop :=
  World.Lists e (fun m => cle m = v ∧ v ≠ "") (fun m => cle m = v) le

/-- The most recent roll calls first. -/
def plusRecents (a a' : AppelModele) : Prop := a'.date ≤ a.date

namespace AppelDepot

/-- What each function does to the tables, whatever documents they are made of. -/
def regle : (x : AppelDepot) → Monde → Except Err x.Resultat → Monde → Prop
  | ajouterUtilisateur u => Pose .utilisateur u.id u
  | modifierUtilisateur id u => Change .utilisateur id { u with id := id }
  | supprimerUtilisateur id => Ote .utilisateur id
  | getTousLesUtilisateurs => Tous .utilisateur
  | getUtilisateurParId id => Trouve .utilisateur id
  | getUtilisateursParEtablissement e => Avec .utilisateur UtilisateurModele.etablissementId e
  | ajouterEleve e => Sous "Erreur lors de l'ajout de l'élève : " (Pose .eleve e.id e)
  | modifierEleve id e => Sous "Erreur lors de la modification de l'élève : "
    (Change .eleve id { e with id := id })
  | supprimerEleve id => Sous "Erreur lors de la suppression de l'élève : "
    (Ote .eleve id)
  | rechercherEleveParId id => Sous "Erreur lors de la recherche de l'élève : "
    (Trouve .eleve id)
  | rechercherElevesParClasse c => Sous "Erreur lors de la recherche des élèves : "
    (Avec .eleve EleveModele.classeId c)
  | recupererTousLesEleves => Sous "Erreur lors de la récupération des élèves : " (Tous .eleve)
  | ajouterClasse c => Pose .classe c.id c
  | modifierClasse id c => Change .classe id { c with id := id }
  | supprimerClasse id => Ote .classe id
  | getToutesLesClasses => Tous .classe
  | getClasseParId id => Trouve .classe id
  | ajouterMatiere m => Pose .matiere m.id m
  | modifierMatiere id m => Change .matiere id { m with id := id }
  | supprimerMatiere id => Ote .matiere id
  | getToutesLesMatieres => Tous .matiere
  | getMatiereParId id => Trouve .matiere id
  | getMatieresParEnseignant e => Avec .matiere Donnees.MatiereModele.enseignantId e
  -- the id of the subject is not stored
  | ajouterNote n => SansRetour (Ajoute .note fun _ => { n with matiere.id := "" })
  | modifierNote id n => Change .note id { n with matiere.id := "" }
  | supprimerNote id => Ote .note id
  | getToutesLesNotes => Tous .note
  | getNotesParEleve e => Avec .note NoteModele.eleveId e
  | ajouterEtablissement e => SansRetour (Ajoute .etablissement fun id => { e with id := id })
  | modifierEtablissement id e => Change .etablissement id { e with id := id }
  | supprimerEtablissement id => Ote .etablissement id
  | getTousLesEtablissements => Tous .etablissement
  | getEtablissementParId id => Trouve .etablissement id
  -- the id of the model is not the one it is stored under
  | ajouterEnseignant e => SansRetour (Ajoute .enseignant fun id => { e with id := id })
  | modifierEnseignant id e => Change .enseignant id { e with id := id }
  | supprimerEnseignant id => Ote .enseignant id
  | getEnseignant id => Trouve .enseignant id
  | getTousLesEnseignants => Tous .enseignant
  | ajouterParent p => Sous "Erreur lors de l'ajout du parent : "
    (Ajoute .parent fun id => { p with id := id })
  | getParentParId id => Sous "Erreur lors de la récupération du parent : "
    (Trouve .parent id)
  | supprimerParent id => Sous "Erreur lors de la suppression du parent : "
    (Ote .parent id)
  | getTousLesParentsStream => Tous .parent
  | getParentParUtilisateurId u =>
    Sous "Erreur lors de la récupération du parent par utilisateurId : "
      (World.First Entite.parent (fun p : ParentModele => p.utilisateurId = u ∧ u ≠ "")
        fun p => p.utilisateurId = u)
  | getTousLesRoles => Tous .role
  | getRoleParId id => Trouve .role id
  | modifierRole id nom description => Sous "Erreur lors de la modification du rôle : "
    (Change .role id ⟨id, nom, description⟩)
  | ajouterRole nom description => SansRetour (Ajoute .role fun id => ⟨id, nom, description⟩)
  | ajouterEnseignement e m => SansRetour (Ajoute .enseignement fun id => ⟨id, e, m⟩)
  | supprimerEnseignement id => Ote .enseignement id
  | getEnseignementsPourEnseignant e => Avec .enseignement EnseignementModele.enseignantId e
  | getEnseignementsPourMatiere m => Avec .enseignement EnseignementModele.matiereId m
  | modifierAdministrateur a => Change .administrateur a.id a
  | supprimerAdministrateur id => Ote .administrateur id
  | creerAppel a => SansRetour (Ajoute .appel fun id => { a with id := id })
  | getAppelParId id => Trouve .appel id
  | getAppelsParClasse c => Avec .appel AppelModele.classeId c plusRecents
  | getAppelsParEnseignant e => Avec .appel AppelModele.enseignantId e plusRecents
  | getAbsencesParEleve e =>
    World.Lists Entite.appel (fun a : AppelModele => e ∈ a.elevesAbsents)
      (fun a => e ∈ a.elevesAbsents) plusRecents
  | supprimerAppel id => Ote .appel id
  | supprimerRelation id => Sous "Erreur lors de la suppression de la relation famille : "
    (Ote .famille id)
  | getRelationsParParent p => Avec .famille Enseignant.FamilleModele.parentId p

end AppelDepot

end EduConnect.Donnees
