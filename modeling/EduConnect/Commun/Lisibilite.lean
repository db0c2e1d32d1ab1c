import EduConnect.Commun.Ecrans
import EduConnect.Donnees.Objet

/-!
# What the application stores, its models read

The models of all collections but `NoteModele` and `NotificationModele`, and the lists of their
queries in the states of the application.
-/

namespace EduConnect

open Lib Prog

/-! ## Models of single pages -/

/-- `ClasseModele` of `modules/admin/vues/home_page.dart`, without an establishment. -/
structure Admin.HomePage.ClasseModele where
  id : String
  nom : String
  niveau : String
  matieresIds : List String
  elevesIds : List String
  enseignantsIds : List String

def Admin.HomePage.ClasseModele.fromMap (map : Document) (id : String) :
    Except Err Admin.HomePage.ClasseModele := do
  return {
    id := id
    nom := ← (map.get .nom).orStr ""
    niveau := ← (map.get .niveau).orStr ""
    matieresIds := ← (map.get .matieresIds).orStrs
    elevesIds := ← (map.get .elevesIds).orStrs
    enseignantsIds := ← (map.get .enseignantsIds).orStrs }

/-- `modules/eleve/modeles/role_modele.dart`. -/
structure Familles.RoleModele where
  id : String
  nom : String
  description : String

def Familles.RoleModele.fromMap (data : Document) (id : String) : Except Err Familles.RoleModele := do
  return {
    id := id
    nom := ← (data.get .nom).orStr ""
    description := ← (data.get .description).orStr "" }

/-! ## Readers -/

/-- A model of the documents of a collection.  Two models are left out: `NoteModele` of `donnees`,
since the pages store notes without a subject, and `NotificationModele` as the teacher's repository
reads it, since the notifications of students have no date of creation. -/
inductive Lecteur where
  | depot (e : Donnees.Entite) (h : e ≠ .note)
  | roleConnexion
  | roleEleve
  | classe
  | classeAccueil
  | matiere
  | annonce (copie : Annonces.Copie) (maintenant : ℤ)
  | devoir
  | entreeDevoir (role : Familles.RoleLecteur)
  | message
  | classeMessagerie
  | enseignantMessagerie
  | notificationParent (maintenant : ℤ)
  | notificationEleve (maintenant : ℤ)

namespace Lecteur

def collection : Lecteur → Collection
  | depot e _ => (Donnees.codec e).coll
  | roleConnexion => .roles
  | roleEleve => .roles
  | classe => .classes
  | classeAccueil => .classes
  | matiere => .matieres
  | annonce _ _ => .annonces
  | devoir => .devoirs
  | entreeDevoir _ => .devoirs
  | message => .messages
  | classeMessagerie => .classes
  | enseignantMessagerie => .enseignants
  | notificationParent _ => .notifications
  | notificationEleve _ => .notifications

@[reducible] def Modele : Lecteur → Type
  | depot e _ => e.Modele
  | roleConnexion => Commun.RoleModele
  | roleEleve => Familles.RoleModele
  | classe => Admin.ClasseModele
  | classeAccueil => Admin.HomePage.ClasseModele
  | matiere => Admin.MatiereModele
  | annonce _ _ => Admin.AnnonceModele
  | devoir => Enseignant.DevoirModele
  | entreeDevoir _ => Familles.EntreeDevoir
  | message => Messagerie.MessageModele
  | classeMessagerie => Messagerie.ClasseModele
  | enseignantMessagerie => Messagerie.EnseignantModele
  | notificationParent _ => Enseignant.NotificationModele
  | notificationEleve _ => Familles.NotificationModeleEleve

/-- A document with its id is read as a model. -/
def lire : (l : Lecteur) → String × Document → Except Err l.Modele
  | depot e _ => fun doc => (Donnees.codec e).read doc.2 doc.1
  | roleConnexion => fun doc => Commun.RoleModele.fromMap doc.2 doc.1
  | roleEleve => fun doc => Familles.RoleModele.fromMap doc.2 doc.1
  | classe => fun doc => Admin.ClasseModele.fromMap doc.2 doc.1
  | classeAccueil => fun doc => Admin.HomePage.ClasseModele.fromMap doc.2 doc.1
  | matiere => fun doc => Admin.MatiereModele.fromMap doc.2 (some doc.1)
  | annonce copie maintenant => fun doc => copie.fromMap maintenant doc.2 doc.1
  | devoir => Enseignant.DevoirModele.fromDocument
  | entreeDevoir role => Familles.EntreeDevoir.deDocument role
  | message => fun doc => Messagerie.MessageModele.fromMap doc.1 doc.2
  | classeMessagerie => fun doc => Messagerie.ClasseModele.fromMap doc.1 doc.2
  | enseignantMessagerie => fun doc => Messagerie.EnseignantModele.fromMap doc.2 doc.1
  | notificationParent maintenant => Familles.NotificationsParentPage.fromDoc maintenant
  | notificationEleve maintenant => Familles.NotificationModeleEleve.fromDoc maintenant

end Lecteur

/-! ## Reading typed documents -/

section Typees

variable {d : Document} {id : String}

theorem classe_lisible (hd : d.Typed (schema .classes)) :
    ∃ m, Donnees.ClasseModele.fromMap d id = .ok m :=
  exists_bind ((hd .nom).orStr "") fun _ => exists_bind ((hd .niveau).orStr "") fun _ =>
  exists_bind (hd .matieresIds).orStrs fun _ => exists_bind (hd .elevesIds).orStrs fun _ => ⟨_, rfl⟩

theorem matiere_lisible (hd : d.Typed (schema .matieres)) :
    ∃ m, Donnees.MatiereModele.fromMap d (some id) = .ok m :=
  exists_bind ⟨id, rfl⟩ fun _ => exists_bind ((hd .nom).orStr "") fun _ =>
  exists_bind ((hd .coefficient).orDouble _) fun _ =>
  exists_bind ((hd .enseignantId).orStr "") fun _ => ⟨_, rfl⟩

theorem etablissement_lisible (hd : d.Typed (schema .etablissements)) :
    ∃ m, Donnees.EtablissementModele.fromMap d id = .ok m :=
  exists_bind ((hd .nom).orStr "") fun _ => exists_bind ((hd .type).orStr "") fun _ =>
  exists_bind ((hd .description).orStr "") fun _ => exists_bind ((hd .adresse).orStr "") fun _ =>
  exists_bind ((hd .ville).orStr "") fun _ => exists_bind ((hd .region).orStr "") fun _ =>
  exists_bind ((hd .pays).orStr "") fun _ => exists_bind ((hd .codePostal).orStr "") fun _ =>
  exists_bind ((hd .email).orStr "") fun _ => exists_bind ((hd .telephone).orStr "") fun _ => ⟨_, rfl⟩

theorem appel_lisible (hd : d.Typed (schema .appels)) :
    ∃ m, Donnees.AppelModele.fromMap d id = .ok m :=
  exists_bind ((hd .classeId).orStr "") fun _ =>
  exists_bind ((hd .etablissementId).orStr "") fun _ =>
  exists_bind ((hd .matiereId).orStr "") fun _ => exists_bind ((hd .enseignantId).orStr "") fun _ =>
  exists_bind (hd .elevesPresents).orStrs fun _ => exists_bind (hd .elevesAbsents).orStrs fun _ =>
  exists_bind (hd .date).asStamp fun _ => exists_bind (hd .createdAt).asStamp fun _ => ⟨_, rfl⟩

/-- Both fields of a role are there. -/
theorem get_role (hd : d.Typed (schema .roles)) :
    ∃ nom description, d.get .nom = .str nom ∧ d.get .description = .str description := by
  obtain ⟨nom, hnom⟩ := (hd .nom).asStr
  obtain ⟨description, hdescription⟩ := (hd .description).asStr
  refine ⟨nom, description, ?_, ?_⟩
  · rw [Doc.get, Doc.asStr_get_iff.mp hnom]
    rfl
  · rw [Doc.get, Doc.asStr_get_iff.mp hdescription]
    rfl

theorem role_lisible (hd : d.Typed (schema .roles)) :
    ∃ m, Donnees.RoleModele.fromMap d id = .ok m := by
  obtain ⟨nom, description, hnom, hdescription⟩ := get_role hd
  refine ⟨⟨id, nom, description⟩, ?_⟩
  unfold Donnees.RoleModele.fromMap
  rw [hnom, hdescription]
  rfl

theorem roleConnexion_lisible (hd : d.Typed (schema .roles)) :
    ∃ m, Commun.RoleModele.fromMap d id = .ok m := by
  obtain ⟨nom, description, hnom, hdescription⟩ := get_role hd
  refine ⟨⟨id, nom, description⟩, ?_⟩
  unfold Commun.RoleModele.fromMap
  rw [hnom, hdescription]
  rfl

/-- Each model of `donnees` reads the documents of its collection. -/
theorem depot_lisible {e : Donnees.Entite} (he : e ≠ .note)
    (hd : d.Typed (schema (Donnees.codec e).coll)) : ∃ m, (Donnees.codec e).read d id = .ok m := by
  cases e with
  | utilisateur => exact utilisateur_lisible hd id
  | eleve => exact eleve_lisible hd id
  | classe => exact classe_lisible hd
  | matiere => exact matiere_lisible hd
  | note => exact absurd rfl he
  | etablissement => exact etablissement_lisible hd
  | appel => exact appel_lisible hd
  | enseignant => exact exists_bind ((hd .utilisateurId).orStr "") fun _ => ⟨_, rfl⟩
  | parent => exact exists_bind ((hd .utilisateurId).orStr "") fun _ => ⟨_, rfl⟩
  | role => exact role_lisible hd
  | administrateur => exact exists_bind (hd .utilisateurId).asStr fun _ => ⟨_, rfl⟩
  | enseignement =>
    exact exists_bind ((hd .enseignantId).orStr "") fun _ =>
      exists_bind ((hd .matiereId).orStr "") fun _ => ⟨_, rfl⟩
  | famille =>
    exact exists_bind ((hd .parentId).orStr "") fun _ =>
      exists_bind ((hd .eleveId).orStr "") fun _ => ⟨_, rfl⟩

theorem annonce_lisible (hd : d.Typed (schema .annonces)) (copie : Annonces.Copie) (maintenant : ℤ) :
    ∃ m, copie.fromMap maintenant d id = .ok m := by
  have hchamp : ∃ l, (d.get copie.champ).orStrs = .ok l := by
    have h := hd copie.champ
    cases copie <;> exact h.orStrs
  rw [copie.fromMap_eq]
  refine exists_bind ((hd .etablissementId).orStr "") fun _ =>
    exists_bind ((hd .titre).orStr "") fun _ => exists_bind ((hd .description).orStr "") fun _ =>
    exists_bind (hd .fichierId).optStr fun _ => exists_bind hchamp fun _ =>
    exists_bind (hd .luePar).orStrs fun _ => ?_
  rcases (hd .dateCreation).get with hnull | ⟨t, ht⟩
  · rw [hnull]
    exact ⟨_, rfl⟩
  · rw [ht]
    exact ⟨_, rfl⟩

theorem devoir_lisible (hd : d.Typed (schema .devoirs)) :
    ∃ m, Enseignant.DevoirModele.fromDocument (id, d) = .ok m :=
  exists_bind ((hd .titre).orStr "") fun _ => exists_bind ((hd .description).orStr "") fun _ =>
  exists_bind ((hd .etablissementId).orStr "") fun _ =>
  exists_bind ((hd .classeId).orStr "") fun _ => exists_bind ((hd .matiereId).orStr "") fun _ =>
  exists_bind ((hd .enseignantId).orStr "") fun _ => exists_bind (hd .eleveIds).orStrs fun _ =>
  exists_bind (hd .parentIds).orStrs fun _ => exists_bind (hd .lusPar).orStrs fun _ =>
  exists_bind (hd .dateRemise).asStamp fun _ => exists_bind (hd .fichierUrl).optStr fun _ =>
  exists_bind (hd .fichierType).optStr fun _ => exists_bind (hd .dateCreation).asStamp fun _ =>
  ⟨_, rfl⟩

theorem entreeDevoir_lisible (hd : d.Typed (schema .devoirs)) (role : Familles.RoleLecteur) :
    ∃ m, Familles.EntreeDevoir.deDocument role (id, d) = .ok m := by
  have hlus : ∃ l, (d.get .lu).orStrs = .ok l := Slot.Accepts.orStrs (r := false) (hd .lu)
  have heleves : ∃ l, Familles.elevesDuDevoir role d = .ok l := by
    cases role with
    | eleve => exact ⟨[], rfl⟩
    | parent => exact (hd .eleveIds).orStrs
  refine exists_bind heleves fun _ => exists_bind ((hd .titre).orStr "Sans titre") fun _ =>
    exists_bind ((hd .description).orStr "") fun _ => exists_bind ((hd .classeId).orStr "") fun _ =>
    exists_bind ((hd .matiereId).orStr "") fun _ => exists_bind hlus fun _ =>
    exists_bind ?_ fun _ => ⟨_, rfl⟩
  rcases (hd .dateRemise).get with hnull | ⟨t, ht⟩
  · exact ⟨none, by rw [hnull]; rfl⟩
  · exact ⟨some t, by rw [ht]; rfl⟩

theorem message_lisible (hd : d.Typed (schema .messages)) :
    ∃ m, Messagerie.MessageModele.fromMap id d = .ok m := by
  refine exists_bind ((hd .emetteurId).orStr "") fun _ =>
    exists_bind ((hd .recepteurId).orStr "") fun _ => exists_bind ((hd .contenu).orStr "") fun _ =>
    exists_bind (hd .dateEnvoi).asStamp fun _ => exists_bind ((hd .lu).orBool false) fun _ => ?_
  obtain ⟨v, hv, l, rfl⟩ := (hd .participants).of_required rfl
  rw [hv]
  exact exists_bind ⟨l, Value.asStrs_strs l⟩ fun _ => ⟨_, rfl⟩

theorem notificationParent_lisible (hd : d.Typed (schema .notifications)) (maintenant : ℤ) :
    ∃ m, Familles.NotificationsParentPage.fromDoc maintenant (id, d) = .ok m :=
  exists_bind ((hd .eleveId).orStr "") fun _ => exists_bind ((hd .parentId).orStr "") fun _ =>
  exists_bind ((hd .expediteurId).orStr "") fun _ =>
  exists_bind ((hd .expediteurRole).orStr "") fun _ =>
  exists_bind ((hd .etablissementId).orStr "") fun _ =>
  exists_bind ((hd .titre).orStr "Notification") fun _ =>
  exists_bind ((hd .message).orStr "") fun _ => exists_bind ((hd .lu).orBool false) fun _ =>
  exists_bind ((hd .type).orStr "") fun _ => exists_bind (hd .metadata).optMap fun _ => ⟨_, rfl⟩

theorem notificationEleve_lisible (hd : d.Typed (schema .notifications)) (maintenant : ℤ) :
    ∃ m, Familles.NotificationModeleEleve.fromDoc maintenant (id, d) = .ok m :=
  exists_bind ((hd .eleveId).orStr "") fun _ =>
  exists_bind ((hd .destinataireId).orStr "") fun _ =>
  exists_bind ((hd .message).orStr "") fun _ => exists_bind ((hd .vu).orBool false) fun _ =>
  exists_bind ((hd .type).orStr "") fun _ => exists_bind (hd .noteId).optStr fun _ => ⟨_, rfl⟩

end Typees

/-- **Each reader reads the typed documents of its collection.** -/
theorem Lecteur.lisible (l : Lecteur) {id : String} {d : Document}
    (hd : d.Typed (schema l.collection)) : ∃ m, l.lire (id, d) = .ok m := by
  cases l with
  | depot e he => exact depot_lisible he hd
  | roleConnexion => exact roleConnexion_lisible hd
  | roleEleve =>
    exact exists_bind ((hd .nom).orStr "") fun _ =>
      exists_bind ((hd .description).orStr "") fun _ => ⟨_, rfl⟩
  | classe =>
    exact exists_bind ((hd .nom).orStr "") fun _ => exists_bind ((hd .niveau).orStr "") fun _ =>
      exists_bind ((hd .etablissementId).orStr "") fun _ =>
      exists_bind (hd .matieresIds).orStrs fun _ => exists_bind (hd .elevesIds).orStrs fun _ =>
      exists_bind (hd .enseignantsIds).orStrs fun _ => ⟨_, rfl⟩
  | classeAccueil =>
    exact exists_bind ((hd .nom).orStr "") fun _ => exists_bind ((hd .niveau).orStr "") fun _ =>
      exists_bind (hd .matieresIds).orStrs fun _ => exists_bind (hd .elevesIds).orStrs fun _ =>
      exists_bind (hd .enseignantsIds).orStrs fun _ => ⟨_, rfl⟩
  | matiere =>
    exact exists_bind ⟨id, rfl⟩ fun _ => exists_bind ((hd .nom).orStr "") fun _ =>
      exists_bind ((hd .coefficient).orDouble _) fun _ =>
      exists_bind ((hd .description).orStr "") fun _ =>
      exists_bind ((hd .etablissementId).orStr "") fun _ => ⟨_, rfl⟩
  | annonce copie maintenant => exact annonce_lisible hd copie maintenant
  | devoir => exact devoir_lisible hd
  | entreeDevoir role => exact entreeDevoir_lisible hd role
  | message => exact message_lisible hd
  | classeMessagerie =>
    exact exists_bind ((hd .nom).orStr "Classe") fun _ =>
      exists_bind (hd .enseignantsIds).orStrs fun _ => ⟨_, rfl⟩
  | enseignantMessagerie => exact exists_bind ((hd .utilisateurId).orStr "") fun _ => ⟨_, rfl⟩
  | notificationParent maintenant => exact notificationParent_lisible hd maintenant
  | notificationEleve maintenant => exact notificationEleve_lisible hd maintenant

/-! ## The lists of the application -/

/-- **Whatever the clients have done, and whatever was lost, every list of every collection is read
by each of its `Lecteur`s, to the last document.** -/
theorem application_lisible {ι : Type} [DecidableEq ι] (S : Server) (z : Enseignant.Calendrier)
    (pages : ι → (e : Ecran) → (e.vue z).Page) (as : List (Act ι (GesteClient z) Base)) :
    Always (Sys.closedStep (application ι S z)) (fun s => ∀ (l : Lecteur) (q : Query Champ),
      ∃ ms, (q.run (s.base.docs l.collection)).mapM l.lire = .ok ms) (Sys.init baseVide pages) as := by
  refine Always.mono (fun s hs l q => ?_) (application_ordre S z pages as)
  exact exists_mapM_run (fun id d hd => l.lisible (hs.1 _ id d hd)) q

end EduConnect
