import EduConnect.Enseignant.Appel
import EduConnect.Messagerie.Conversation

/-!
# What the models store and read back

Each model writes itself with `toMap`, without its id, and is read with `fromMap` and the id of its
document.  All of them come back as they were, but a note: its subject is stored inside it, and the
map of a subject has no id.
-/

namespace EduConnect

open Lib

/-- The models with both directions. -/
inductive Modele where
  | utilisateur (m : Donnees.UtilisateurModele)
  | eleve (m : Donnees.EleveModele)
  | classe (m : Donnees.ClasseModele)
  | classeAdmin (m : Admin.ClasseModele)
  | matiere (m : Donnees.MatiereModele)
  | matiereAdmin (m : Admin.MatiereModele)
  | note (m : Donnees.NoteModele)
  | appel (m : Donnees.AppelModele)
  | devoir (m : Enseignant.DevoirModele)
  | message (m : Messagerie.MessageModele)
  | notification (m : Enseignant.NotificationModele)
  | annonce (m : Admin.AnnonceModele)
  | etablissement (m : Donnees.EtablissementModele)

namespace Modele

/-- The model is read back, at the time `now`, from the map it makes. -/
def AllerRetour (now : ℤ) : Modele → Prop
  | utilisateur m => Donnees.UtilisateurModele.fromMap (newDoc 0 m.toMap) m.id = .ok m
  | eleve m => Donnees.EleveModele.fromMap (newDoc 0 m.toMap) m.id = .ok m
  | classe m => Donnees.ClasseModele.fromMap (newDoc 0 m.toMap) m.id = .ok m
  | classeAdmin m => Admin.ClasseModele.fromMap (newDoc 0 m.toMap) m.id = .ok m
  | matiere m => Donnees.MatiereModele.fromMap (newDoc 0 m.toMap) (some m.id) = .ok m
  | matiereAdmin m => Admin.MatiereModele.fromMap (newDoc 0 m.toMap) (some m.id) = .ok m
  | note m => Donnees.NoteModele.fromMap (newDoc 0 m.toMap) = .ok m
  | appel m => Donnees.AppelModele.fromMap (newDoc 0 m.toMap) m.id = .ok m
  | devoir m => Enseignant.DevoirModele.fromDocument (m.id, newDoc 0 m.toMap) = .ok m
  | message m => Messagerie.MessageModele.fromMap m.id (newDoc 0 m.toMap) = .ok m
  | notification m => Enseignant.NotificationModele.fromMap m.id (newDoc 0 m.toMap) = .ok m
  | annonce m => Admin.AnnonceModele.fromMap now (newDoc 0 m.toMap) m.id = .ok m
  | etablissement m => Donnees.EtablissementModele.fromMap (newDoc 0 m.toMap) m.id = .ok m

/-- A note whose subject has an id does not come back. -/
def Relisible : Modele → Prop
  | note m => m.matiere.id = ""
  | _ => True

end Modele

/-! ## Models with texts only -/

theorem utilisateur_fromMap_toMap (m : Donnees.UtilisateurModele) :
    Donnees.UtilisateurModele.fromMap (newDoc 0 m.toMap) m.id = .ok m := by
  obtain ⟨id, nom, prenom, email, numeroTelephone, adresse, motDePasse, statut, roleId,
    etablissementId, photo⟩ := m
  rcases photo with _ | photo <;> rfl

theorem matiere_fromMap_toMap (m : Donnees.MatiereModele) :
    Donnees.MatiereModele.fromMap (newDoc 0 m.toMap) (some m.id) = .ok m := rfl

theorem matiereAdmin_fromMap_toMap (m : Admin.MatiereModele) :
    Admin.MatiereModele.fromMap (newDoc 0 m.toMap) (some m.id) = .ok m := rfl

theorem etablissement_fromMap_toMap (m : Donnees.EtablissementModele) :
    Donnees.EtablissementModele.fromMap (newDoc 0 m.toMap) m.id = .ok m := rfl

theorem notification_fromMap_toMap (m : Enseignant.NotificationModele) :
    Enseignant.NotificationModele.fromMap m.id (newDoc 0 m.toMap) = .ok m := by
  obtain ⟨id, eleveId, parentId, expediteurId, expediteurRole, etablissementId, titre, message, lu,
    createdAt, type, metadata⟩ := m
  rcases type with _ | type
  · rcases metadata with _ | metadata <;> rfl
  · rcases metadata with _ | metadata <;> rfl

/-! ## Models with lists -/

theorem eleve_fromMap_toMap (m : Donnees.EleveModele) :
    Donnees.EleveModele.fromMap (newDoc 0 m.toMap) m.id = .ok m := by
  have hnotes : (newDoc 0 m.toMap).get .notesIds = Value.strs m.notesIds := rfl
  simp only [Donnees.EleveModele.fromMap, hnotes, Value.orStrs_strs]
  rfl

theorem classe_fromMap_toMap (m : Donnees.ClasseModele) :
    Donnees.ClasseModele.fromMap (newDoc 0 m.toMap) m.id = .ok m := by
  have hmatieres : (newDoc 0 m.toMap).get .matieresIds = Value.strs m.matieresIds := rfl
  have heleves : (newDoc 0 m.toMap).get .elevesIds = Value.strs m.elevesIds := rfl
  simp only [Donnees.ClasseModele.fromMap, hmatieres, heleves, Value.orStrs_strs]
  rfl

theorem appel_fromMap_toMap (m : Donnees.AppelModele) :
    Donnees.AppelModele.fromMap (newDoc 0 m.toMap) m.id = .ok m := by
  have hpresents : (newDoc 0 m.toMap).get .elevesPresents = Value.strs m.elevesPresents := rfl
  have habsents : (newDoc 0 m.toMap).get .elevesAbsents = Value.strs m.elevesAbsents := rfl
  simp only [Donnees.AppelModele.fromMap, hpresents, habsents, Value.orStrs_strs]
  rfl

theorem message_fromMap_toMap (m : Messagerie.MessageModele) :
    Messagerie.MessageModele.fromMap m.id (newDoc 0 m.toMap) = .ok m := by
  rw [Messagerie.MessageModele.newDoc_toMap, Messagerie.MessageModele.fromMap_document]

theorem devoir_fromDocument_toMap (m : Enseignant.DevoirModele) :
    Enseignant.DevoirModele.fromDocument (m.id, newDoc 0 m.toMap) = .ok m := by
  have heleves : (newDoc 0 m.toMap).get .eleveIds = Value.strs m.eleveIds := rfl
  have hparents : (newDoc 0 m.toMap).get .parentIds = Value.strs m.parentIds := rfl
  have hlus : (newDoc 0 m.toMap).get .lusPar = Value.strs m.lusPar := rfl
  simp only [Enseignant.DevoirModele.fromDocument, heleves, hparents, hlus, Value.orStrs_strs]
  obtain ⟨id, titre, description, etablissementId, classeId, matiereId, enseignantId, eleveIds,
    parentIds, lusPar, dateRemise, fichierUrl, fichierType, dateCreation⟩ := m
  rcases fichierUrl with _ | fichierUrl
  · rcases fichierType with _ | fichierType <;> rfl
  · rcases fichierType with _ | fichierType <;> rfl

theorem annonce_fromMap_toMap (now : ℤ) (m : Admin.AnnonceModele) :
    Admin.AnnonceModele.fromMap now (newDoc 0 m.toMap) m.id = .ok m := by
  have hconcernes : (newDoc 0 m.toMap).get .utilisateursConcernes =
      Value.strs m.utilisateursConcernes := rfl
  have hlue : (newDoc 0 m.toMap).get .luePar = Value.strs m.luePar := rfl
  simp only [Admin.AnnonceModele.fromMap, hconcernes, hlue, Value.orStrs_strs]
  obtain ⟨id, etablissementId, titre, description, fichierId, utilisateursConcernes, luePar,
    dateCreation⟩ := m
  rcases fichierId with _ | fichierId <;> rfl

/-! ## Notes -/

/-- A note is read back with a subject without id. -/
theorem note_fromMap_toMap (m : Donnees.NoteModele) :
    Donnees.NoteModele.fromMap (newDoc 0 m.toMap) =
      .ok { m with matiere := { m.matiere with id := "" } } := by
  have hmatiere : (newDoc 0 m.toMap).get .matiere = .map (newDoc 0 m.matiere.toMap) := rfl
  simp only [Donnees.NoteModele.fromMap, hmatiere, Value.asMap]
  rfl

theorem note_fromMap_toMap_iff (m : Donnees.NoteModele) :
    Donnees.NoteModele.fromMap (newDoc 0 m.toMap) = .ok m ↔ m.matiere.id = "" := by
  rw [note_fromMap_toMap]
  obtain ⟨valeur, type, mention, eleveId, ⟨id, nom, coefficient, enseignantId⟩⟩ := m
  constructor
  · intro h
    have hid := congrArg (fun n : Donnees.NoteModele => n.matiere.id) (Except.ok.inj h)
    exact hid.symm
  · intro h
    have hid : id = "" := h
    rw [hid]

/-- **Round trip.**  A model comes back from its map exactly if it is not a note whose subject has
an id. -/
theorem allerRetour_iff (now : ℤ) (m : Modele) : m.AllerRetour now ↔ m.Relisible := by
  rcases m with m | m | m | m | m | m | m | m | m | m | m | m | m
  · exact iff_of_true (utilisateur_fromMap_toMap m) trivial
  · exact iff_of_true (eleve_fromMap_toMap m) trivial
  · exact iff_of_true (classe_fromMap_toMap m) trivial
  · exact iff_of_true (Admin.ClasseModele.fromMap_toMap m 0 m.id) trivial
  · exact iff_of_true (matiere_fromMap_toMap m) trivial
  · exact iff_of_true (matiereAdmin_fromMap_toMap m) trivial
  · exact note_fromMap_toMap_iff m
  · exact iff_of_true (appel_fromMap_toMap m) trivial
  · exact iff_of_true (devoir_fromDocument_toMap m) trivial
  · exact iff_of_true (message_fromMap_toMap m) trivial
  · exact iff_of_true (notification_fromMap_toMap m) trivial
  · exact iff_of_true (annonce_fromMap_toMap now m) trivial
  · exact iff_of_true (etablissement_fromMap_toMap m) trivial

/-- A note of a subject stored under the id `m`. -/
def noteDeMaths : Donnees.NoteModele :=
  ⟨.finite 15, "Examen", "Bien", "e", ⟨"m", "Maths", .finite 1, "t"⟩⟩

theorem not_allerRetour_noteDeMaths : ¬(Modele.note noteDeMaths).AllerRetour 0 := by
  show ¬Donnees.NoteModele.fromMap (newDoc 0 noteDeMaths.toMap) = .ok noteDeMaths
  rw [note_fromMap_toMap_iff]
  decide

end EduConnect
