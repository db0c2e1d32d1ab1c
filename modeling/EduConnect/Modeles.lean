import EduConnect.Lib.Lots
import EduConnect.Schema

/-!
# The models of the stored documents

`fromMap` as the application writes it: an absent or null field takes its default and a field of
another type is a type error.  There are two `ClasseModele`: `Donnees.ClasseModele` has no
establishment and no teachers, `Admin.ClasseModele` has both; and two `MatiereModele`.  Dates are
the microseconds of a `Timestamp`.
-/

namespace EduConnect

open Lib

namespace Donnees

/-- `donnees/modeles/ClasseModele.dart`. -/
structure ClasseModele where
  id : String
  nom : String
  niveau : String
  matieresIds : List String
  elevesIds : List String

def ClasseModele.fromMap (map : Document) (id : String) : Except Err ClasseModele := do
  return {
    id := id
    nom := ← (map.get .nom).orStr ""
    niveau := ← (map.get .niveau).orStr ""
    matieresIds := ← (map.get .matieresIds).orStrs
    elevesIds := ← (map.get .elevesIds).orStrs }

def ClasseModele.toMap (c : ClasseModele) : Champs :=
  [texte .nom c.nom, texte .niveau c.niveau, textes .matieresIds c.matieresIds,
    textes .elevesIds c.elevesIds]

structure EleveModele where
  id : String
  utilisateurId : String
  classeId : String
  notesIds : List String

def EleveModele.fromMap (map : Document) (id : String) : Except Err EleveModele := do
  return {
    id := id
    utilisateurId := ← (map.get .utilisateurId).orStr ""
    classeId := ← (map.get .classeId).orStr ""
    notesIds := ← (map.get .notesIds).orStrs }

theorem EleveModele.id_of_fromMap {map : Document} {id : String} {e : EleveModele}
    (h : EleveModele.fromMap map id = .ok e) : e.id = id := by
  iterate 3
    obtain ⟨_, -, h⟩ := bind_eq_ok_iff.mp h
  obtain rfl := Except.ok.inj h
  rfl

def EleveModele.toMap (e : EleveModele) : Champs :=
  [texte .utilisateurId e.utilisateurId, texte .classeId e.classeId, textes .notesIds e.notesIds]

structure UtilisateurModele where
  id : String
  nom : String
  prenom : String
  email : String
  numeroTelephone : String
  adresse : String
  motDePasse : String
  statut : Bool
  roleId : String
  etablissementId : String
  photo : Option String

def UtilisateurModele.fromMap (map : Document) (id : String) : Except Err UtilisateurModele := do
  return {
    id := id
    nom := ← (map.get .nom).orStr ""
    prenom := ← (map.get .prenom).orStr ""
    email := ← (map.get .email).orStr ""
    numeroTelephone := ← (map.get .numeroTelephone).orStr ""
    adresse := ← (map.get .adresse).orStr ""
    motDePasse := ← (map.get .motDePasse).orStr ""
    statut := ← (map.get .statut).orBool true
    roleId := ← (map.get .roleId).orStr ""
    etablissementId := ← (map.get .etablissementId).orStr ""
    photo := ← (map.get .photo).optStr }

theorem UtilisateurModele.id_of_fromMap {map : Document} {id : String} {u : UtilisateurModele}
    (h : UtilisateurModele.fromMap map id = .ok u) : u.id = id := by
  iterate 10
    obtain ⟨_, -, h⟩ := bind_eq_ok_iff.mp h
  obtain rfl := Except.ok.inj h
  rfl

def UtilisateurModele.toMap (u : UtilisateurModele) : Champs :=
  [texte .nom u.nom, texte .prenom u.prenom, texte .email u.email,
    texte .numeroTelephone u.numeroTelephone, texte .adresse u.adresse,
    texte .motDePasse u.motDePasse, (.statut, .put (.bool u.statut)), texte .roleId u.roleId,
    texte .etablissementId u.etablissementId,
    (.photo, .put (valeurOption (u.photo.map Value.str)))]

/-- `donnees/modeles/MatiereModele.dart`. -/
structure MatiereModele where
  id : String
  nom : String
  coefficient : Double
  enseignantId : String

/-- `id ?? map['id'] ?? ''`. -/
def idOuChamp (map : Document) : Option String → Except Err String
  | some id => .ok id
  | none => (map.get .id).orStr ""

def MatiereModele.fromMap (map : Document) (id : Option String) : Except Err MatiereModele := do
  return {
    id := ← idOuChamp map id
    nom := ← (map.get .nom).orStr ""
    coefficient := ← (map.get .coefficient).orDouble (.finite 1)
    enseignantId := ← (map.get .enseignantId).orStr "" }

/-- The id is not stored. -/
def MatiereModele.toMap (m : MatiereModele) : Champs :=
  [texte .nom m.nom, (.coefficient, .put (.num m.coefficient)),
    texte .enseignantId m.enseignantId]

structure NoteModele where
  valeur : Double
  type : String
  mention : String
  eleveId : String
  matiere : MatiereModele

/-- The subject is a map inside the note. -/
def NoteModele.fromMap (map : Document) : Except Err NoteModele := do
  return {
    valeur := ← (map.get .valeur).orDouble (.finite 0)
    type := ← (map.get .type).orStr ""
    mention := ← (map.get .mention).orStr ""
    eleveId := ← (map.get .eleveId).orStr ""
    matiere := ← MatiereModele.fromMap (← (map.get .matiere).asMap) none }

def NoteModele.toMap (n : NoteModele) : Champs :=
  [(.valeur, .put (.num n.valeur)), texte .type n.type, texte .mention n.mention,
    texte .eleveId n.eleveId, (.matiere, .put (.map (newDoc 0 n.matiere.toMap)))]

/-- `donnees/modeles/appel_model.dart`. -/
structure AppelModele where
  id : String
  classeId : String
  etablissementId : String
  matiereId : String
  enseignantId : String
  elevesPresents : List String
  elevesAbsents : List String
  date : ℤ
  createdAt : ℤ

def AppelModele.fromMap (map : Document) (id : String) : Except Err AppelModele := do
  return {
    id := id
    classeId := ← (map.get .classeId).orStr ""
    etablissementId := ← (map.get .etablissementId).orStr ""
    matiereId := ← (map.get .matiereId).orStr ""
    enseignantId := ← (map.get .enseignantId).orStr ""
    elevesPresents := ← (map.get .elevesPresents).orStrs
    elevesAbsents := ← (map.get .elevesAbsents).orStrs
    date := ← (map.get .date).asStamp
    createdAt := ← (map.get .createdAt).asStamp }

def AppelModele.toMap (a : AppelModele) : Champs :=
  [texte .classeId a.classeId, texte .etablissementId a.etablissementId,
    texte .matiereId a.matiereId, texte .enseignantId a.enseignantId,
    textes .elevesPresents a.elevesPresents, textes .elevesAbsents a.elevesAbsents,
    (.date, .put (.stamp a.date)), (.createdAt, .put (.stamp a.createdAt))]

structure EtablissementModele where
  id : String
  nom : String
  type : String
  description : String
  adresse : String
  ville : String
  region : String
  pays : String
  codePostal : String
  email : String
  telephone : String

def EtablissementModele.fromMap (map : Document) (id : String) : Except Err EtablissementModele := do
  return {
    id := id
    nom := ← (map.get .nom).orStr ""
    type := ← (map.get .type).orStr ""
    description := ← (map.get .description).orStr ""
    adresse := ← (map.get .adresse).orStr ""
    ville := ← (map.get .ville).orStr ""
    region := ← (map.get .region).orStr ""
    pays := ← (map.get .pays).orStr ""
    codePostal := ← (map.get .codePostal).orStr ""
    email := ← (map.get .email).orStr ""
    telephone := ← (map.get .telephone).orStr "" }

def EtablissementModele.toMap (e : EtablissementModele) : Champs :=
  [texte .nom e.nom, texte .type e.type, texte .description e.description,
    texte .adresse e.adresse, texte .ville e.ville, texte .region e.region, texte .pays e.pays,
    texte .codePostal e.codePostal, texte .email e.email, texte .telephone e.telephone]

end Donnees

namespace Admin

/-- `modules/admin/modeles/model_classe.dart`. -/
structure ClasseModele where
  id : String
  nom : String
  niveau : String
  etablissementId : String
  matieresIds : List String := []
  elevesIds : List String := []
  enseignantsIds : List String := []
  deriving DecidableEq

namespace ClasseModele

def fromMap (map : Document) (id : String) : Except Err ClasseModele := do
  return {
    id := id
    nom := ← (map.get .nom).orStr ""
    niveau := ← (map.get .niveau).orStr ""
    etablissementId := ← (map.get .etablissementId).orStr ""
    matieresIds := ← (map.get .matieresIds).orStrs
    elevesIds := ← (map.get .elevesIds).orStrs
    enseignantsIds := ← (map.get .enseignantsIds).orStrs }

def toMap (c : ClasseModele) : Champs :=
  [texte .nom c.nom, texte .niveau c.niveau, texte .etablissementId c.etablissementId,
    textes .matieresIds c.matieresIds, textes .elevesIds c.elevesIds,
    textes .enseignantsIds c.enseignantsIds]

/-- What `toMap` stores, `fromMap` reads back. -/
theorem fromMap_toMap (c : ClasseModele) (now : ℤ) (id : String) :
    fromMap (newDoc now c.toMap) id = .ok { c with id := id } := by
  simp [fromMap, toMap, newDoc, texte, textes, Doc.get, FieldOp.eval, Value.orStr, Value.asStr,
    bind, Except.bind, pure, Except.pure]

end ClasseModele

/-- `modules/admin/modeles/model_matiere.dart`. -/
structure MatiereModele where
  id : String
  nom : String
  coefficient : Double
  description : String
  etablissementId : String

def MatiereModele.fromMap (map : Document) (id : Option String) : Except Err MatiereModele := do
  return {
    id := ← Donnees.idOuChamp map id
    nom := ← (map.get .nom).orStr ""
    coefficient := ← (map.get .coefficient).orDouble (.finite 1)
    description := ← (map.get .description).orStr ""
    etablissementId := ← (map.get .etablissementId).orStr "" }

def MatiereModele.toMap (m : MatiereModele) : Champs :=
  [texte .nom m.nom, (.coefficient, .put (.num m.coefficient)), texte .description m.description,
    texte .etablissementId m.etablissementId]

/-- `modules/admin/modeles/model_annonce.dart`. -/
structure AnnonceModele where
  id : String
  etablissementId : String
  titre : String
  description : String
  fichierId : Option String
  utilisateursConcernes : List String
  luePar : List String
  dateCreation : ℤ

/-- An announcement without a date takes the present, `now`. -/
def AnnonceModele.fromMap (now : ℤ) (data : Document) (id : String) : Except Err AnnonceModele := do
  return {
    id := id
    etablissementId := ← (data.get .etablissementId).orStr ""
    titre := ← (data.get .titre).orStr ""
    description := ← (data.get .description).orStr ""
    fichierId := ← (data.get .fichierId).optStr
    utilisateursConcernes := ← (data.get .utilisateursConcernes).orStrs
    luePar := ← (data.get .luePar).orStrs
    dateCreation := ← match data.get .dateCreation with
      | .null => .ok now
      | v => v.asStamp }

def AnnonceModele.toMap (a : AnnonceModele) : Champs :=
  [texte .etablissementId a.etablissementId, texte .titre a.titre,
    texte .description a.description,
    (.fichierId, .put (valeurOption (a.fichierId.map Value.str))),
    textes .utilisateursConcernes a.utilisateursConcernes, textes .luePar a.luePar,
    (.dateCreation, .put (.stamp a.dateCreation))]

end Admin

namespace Enseignant

structure DevoirModele where
  id : String
  titre : String
  description : String
  etablissementId : String
  classeId : String
  matiereId : String
  enseignantId : String
  eleveIds : List String
  parentIds : List String
  lusPar : List String
  dateRemise : ℤ
  fichierUrl : Option String
  fichierType : Option String
  dateCreation : ℤ

/-- The document is given with its id. -/
def DevoirModele.fromDocument (doc : String × Document) : Except Err DevoirModele := do
  return {
    id := doc.1
    titre := ← (doc.2.get .titre).orStr ""
    description := ← (doc.2.get .description).orStr ""
    etablissementId := ← (doc.2.get .etablissementId).orStr ""
    classeId := ← (doc.2.get .classeId).orStr ""
    matiereId := ← (doc.2.get .matiereId).orStr ""
    enseignantId := ← (doc.2.get .enseignantId).orStr ""
    eleveIds := ← (doc.2.get .eleveIds).orStrs
    parentIds := ← (doc.2.get .parentIds).orStrs
    lusPar := ← (doc.2.get .lusPar).orStrs
    dateRemise := ← (doc.2.get .dateRemise).asStamp
    fichierUrl := ← (doc.2.get .fichierUrl).optStr
    fichierType := ← (doc.2.get .fichierType).optStr
    dateCreation := ← (doc.2.get .dateCreation).asStamp }

def DevoirModele.toMap (d : DevoirModele) : Champs :=
  [texte .titre d.titre, texte .description d.description,
    texte .etablissementId d.etablissementId, texte .classeId d.classeId,
    texte .matiereId d.matiereId, texte .enseignantId d.enseignantId, textes .eleveIds d.eleveIds,
    textes .parentIds d.parentIds, textes .lusPar d.lusPar,
    (.dateRemise, .put (.stamp d.dateRemise)),
    (.fichierUrl, .put (valeurOption (d.fichierUrl.map Value.str))),
    (.fichierType, .put (valeurOption (d.fichierType.map Value.str))),
    (.dateCreation, .put (.stamp d.dateCreation))]

end Enseignant

end EduConnect
