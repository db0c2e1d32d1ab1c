import EduConnect.Modeles
import EduConnect.Pannes

/-!
# Editing a teacher or an administrator

`ModifierEnseignant` and `ModifierAdministrateur` are opened on the model of a user read earlier and
save the whole model again.  The fields the form does not show come from that model, but for the
photo, which is not copied.
-/

namespace EduConnect.Admin

open Lib Prog Donnees

/-! ## Texts of the forms -/

/-- What `[^@]+@` matches at the start of the text, and the rest. -/
def separerEmail (s : List Char) : List Char × List Char :=
  (s.takeWhile (· ≠ '@'), (s.dropWhile (· ≠ '@')).drop 1)

/-- `RegExp(r'^[^@]+@[^@]+\.[^@]+').hasMatch(s)`. -/
def debuteParEmail (s : String) : Bool :=
  let (nom, reste) := separerEmail s.toList
  nom ≠ [] && '.' ∈ (reste.takeWhile (· ≠ '@')).tail.dropLast

/-- `RegExp(r'^[^@]+@[^@]+\.[^@]+$').hasMatch(s)`. -/
def estEmail (s : String) : Bool :=
  debuteParEmail s && '@' ∉ (separerEmail s.toList).2

/-- `RegExp(r'^\+?\d{6,15}$').hasMatch(s)`. -/
def estTelephone (s : String) : Bool :=
  let chiffres := match s.toList with
    | '+' :: l => l
    | l => l
  chiffres.all Char.isDigit && decide (6 ≤ chiffres.length) && decide (chiffres.length ≤ 15)

/-! ## The screen -/

/-- `_ModifierEnseignantState` and `_ModifierAdministrateurState`. -/
structure ModificationUtilisateur where
  /-- `widget.enseignant` or `widget.administrateur`. -/
  utilisateur : UtilisateurModele
  nom : String
  prenom : String
  email : String
  telephone : String
  adresse : String
  chargement : Bool := false
  messages : List Message := []

namespace ModificationUtilisateur

/-- `initState`. -/
def ouvrir (u : UtilisateurModele) : ModificationUtilisateur where
  utilisateur := u
  nom := u.nom
  prenom := u.prenom
  email := u.email
  telephone := u.numeroTelephone
  adresse := u.adresse

/-- The validators of the form; the address has none. -/
def validate (p : ModificationUtilisateur) : Bool :=
  [p.nom, p.prenom, p.email, p.telephone].all (trim · ≠ "") && debuteParEmail (trim p.email)

/-- The model that is saved: no photo is given. -/
def modifie (p : ModificationUtilisateur) : UtilisateurModele where
  id := p.utilisateur.id
  nom := trim p.nom
  prenom := trim p.prenom
  email := trim p.email
  numeroTelephone := trim p.telephone
  adresse := trim p.adresse
  motDePasse := p.utilisateur.motDePasse
  statut := p.utilisateur.statut
  roleId := p.utilisateur.roleId
  etablissementId := p.utilisateur.etablissementId
  photo := none

def afficherMessage (titre message : String) (type : DialogType) :
    Action Unit ModificationUtilisateur Unit :=
  setState fun p => { p with messages := p.messages ++ [⟨titre, message, type⟩] }

/-- `DepotUtilisateur.modifierUtilisateur`. -/
def modifierUtilisateur {Λ σ : Type} (l : Λ) (id : String) (u : UtilisateurModele) :
    Action Λ σ Unit :=
  ecrire l (.update .utilisateurs id u.toMap)

/-- What the save buttons of the two screens do; `succes` and `echec` are their texts. -/
def enregistrer (succes echec : String) : Action Unit ModificationUtilisateur Unit := do
  let p ← page
  if p.validate then
    setState fun p => { p with chargement := true }
    ensuring (catching (do
      modifierUtilisateur () p.utilisateur.id p.modifie
      afficherMessage "Succès" succes .success) fun e =>
      afficherMessage "Erreur" (echec ++ texteErreur e) .error) fun p =>
      { p with chargement := false }
  else ret ()

def modifierEnseignant : Action Unit ModificationUtilisateur Unit :=
  enregistrer "L'enseignant a été modifié avec succès."
    "Échec de la modification de l'enseignant : "

def modifierAdministrateur : Action Unit ModificationUtilisateur Unit :=
  enregistrer "L’administrateur a été modifié avec succès."
    "Échec de la modification de l’administrateur : "

end ModificationUtilisateur

/-- The two screens. -/
inductive EcranEdition where
  | enseignant
  | administrateur

namespace EcranEdition

def succes : EcranEdition → String
  | enseignant => "L'enseignant a été modifié avec succès."
  | administrateur => "L’administrateur a été modifié avec succès."

def echec : EcranEdition → String
  | enseignant => "Échec de la modification de l'enseignant : "
  | administrateur => "Échec de la modification de l’administrateur : "

def enregistrer : EcranEdition → Action Unit ModificationUtilisateur Unit
  | enseignant => ModificationUtilisateur.modifierEnseignant
  | administrateur => ModificationUtilisateur.modifierAdministrateur

theorem enregistrer_eq (ecran : EcranEdition) :
    ecran.enregistrer = ModificationUtilisateur.enregistrer ecran.succes ecran.echec := by
  rcases ecran with _ | _ <;> rfl

end EcranEdition

/-! ## What a save changes -/

section Edition

variable (S : Server) (ecran : EcranEdition) (p : ModificationUtilisateur) (b : Base)
  (f : List (Option Err))

/-- The page and the data after the save button is pressed, the requests meeting the faults `f`. -/
def apresEdition : ModificationUtilisateur × Base :=
  let x := ecran.enregistrer.exec (faulty S.handler) p (b, f)
  (x.2.1, x.2.2.1)

/-- The save reports its success. -/
def Reussie : Prop :=
  (apresEdition S ecran p b f).1.messages = p.messages ++ [⟨"Succès", ecran.succes, .success⟩]

/-- The fields the form edits. -/
def champsEdites : List Champ := [.nom, .prenom, .email, .numeroTelephone, .adresse]

/-- Nothing but the edited fields of the user differs. -/
def SeulementEdites (b' : Base) : Prop :=
  ∀ c id g, ¬(c = .utilisateurs ∧ id = p.utilisateur.id ∧ g ∈ champsEdites) →
    (b'.doc c id).bind (· g) = (b.doc c id).bind (· g)

/-- The stored user still has the fields of the model the form was opened with, and no photo. -/
structure Fidele (u : UtilisateurModele) (d : Document) : Prop where
  photo : d .photo = some .null
  statut : d .statut = some (.bool u.statut)
  motDePasse : d .motDePasse = some (.str u.motDePasse)
  roleId : d .roleId = some (.str u.roleId)
  etablissementId : d .etablissementId = some (.str u.etablissementId)

variable {S ecran p b f}

/-- A save that reports its success has updated the user with the whole model. -/
theorem ends_enregistrer (succes echec : String) :
    (ModificationUtilisateur.enregistrer succes echec).Ends (faulty S.handler)
      (fun _ p' x => p'.messages = p.messages ++ [⟨"Succès", succes, .success⟩] →
        ∃ d, b.doc .utilisateurs p.utilisateur.id = some d ∧ x.1 =
          b.putDoc .utilisateurs p.utilisateur.id (writeFields b.clock d p.modifie.toMap))
      p (b, f) := by
  have hechec : ∀ e : Err, p.messages ++ [(⟨"Erreur", echec ++ texteErreur e, .error⟩ : Message)] ≠
      p.messages ++ [⟨"Succès", succes, .success⟩] := by
    intro e he
    have hm := List.append_cancel_left he
    simp at hm
  unfold ModificationUtilisateur.enregistrer
  refine ends_page_bind.mpr ?_
  by_cases hvalide : p.validate = true
  · rw [if_pos hvalide]
    refine ends_setState_bind.mpr (ends_ensuring.mpr (ends_catching.mpr (ends_bind.mpr ?_)))
    rcases hd : b.doc .utilisateurs p.utilisateur.id with _ | d
    · exact (ends_update_absent_pannes hd).mpr
        ⟨fun e _ hm => absurd hm (hechec e), fun _ hm => absurd hm (hechec _)⟩
    · exact (ends_update_pannes hd).mpr
        ⟨fun e _ hm => absurd hm (hechec e), fun _ _ => ⟨d, rfl, rfl⟩⟩
  · rw [if_neg hvalide]
    intro hm
    have hself : p.messages = p.messages ++ [⟨"Succès", succes, .success⟩] := hm
    simp at hself

theorem apresEdition_of_reussie (h : Reussie S ecran p b f) :
    ∃ d, b.doc .utilisateurs p.utilisateur.id = some d ∧ (apresEdition S ecran p b f).2 =
      b.putDoc .utilisateurs p.utilisateur.id (writeFields b.clock d p.modifie.toMap) := by
  unfold Reussie apresEdition at h
  unfold apresEdition
  rw [EcranEdition.enregistrer_eq] at h ⊢
  have hends := ends_enregistrer (S := S) (p := p) (b := b) (f := f) ecran.succes ecran.echec
  unfold Ends at hends
  dsimp only at h hends ⊢
  exact hends h

/-- The fields of the saved document that the form does not show. -/
def champSauve (u : UtilisateurModele) (d : Document) : Champ → Option Valeur
  | .photo => some .null
  | .statut => some (.bool u.statut)
  | .motDePasse => some (.str u.motDePasse)
  | .roleId => some (.str u.roleId)
  | .etablissementId => some (.str u.etablissementId)
  | g => d g

theorem writeFields_modifie {now : ℤ} {d : Document} {g : Champ} (hg : g ∉ champsEdites) :
    writeFields now d p.modifie.toMap g = champSauve p.utilisateur d g := by
  by_cases hmem : g ∈ p.modifie.toMap.map Prod.fst
  · simp only [UtilisateurModele.toMap, texte, List.map_cons, List.map_nil, List.mem_cons,
      List.not_mem_nil, or_false] at hmem
    rcases hmem with rfl | rfl | rfl | rfl | rfl | rfl | rfl | rfl | rfl | rfl
    all_goals first | rfl | exact absurd (by decide) hg
  · rw [writeFields_of_not_mem hmem]
    unfold champSauve
    split
    all_goals first | rfl | exact absurd (by simp [UtilisateurModele.toMap, texte]) hmem

/-- Nothing but the edited fields differs exactly if the stored user has the rest of the model. -/
theorem seulementEdites_putDoc_iff {d : Document}
    (hd : b.doc .utilisateurs p.utilisateur.id = some d) :
    SeulementEdites p b (b.putDoc .utilisateurs p.utilisateur.id
      (writeFields b.clock d p.modifie.toMap)) ↔ Fidele p.utilisateur d := by
  constructor
  · intro h
    have hfield : ∀ g, g ∉ champsEdites → d g = writeFields b.clock d p.modifie.toMap g := by
      intro g hg
      have hsame := h .utilisateurs p.utilisateur.id g fun hk => hg hk.2.2
      rw [Data.doc_putDoc, if_pos ⟨rfl, rfl⟩, hd] at hsame
      exact hsame.symm
    have hval : ∀ g, g ∉ champsEdites → d g = champSauve p.utilisateur d g := fun g hg =>
      (hfield g hg).trans (writeFields_modifie hg)
    exact ⟨hval .photo (by decide), hval .statut (by decide), hval .motDePasse (by decide),
      hval .roleId (by decide), hval .etablissementId (by decide)⟩
  · intro h c id g hg
    rw [Data.doc_putDoc]
    by_cases hk : c = .utilisateurs ∧ id = p.utilisateur.id
    · obtain ⟨rfl, rfl⟩ := hk
      have hne : g ∉ champsEdites := fun hmem => hg ⟨rfl, rfl, hmem⟩
      rw [if_pos ⟨rfl, rfl⟩, hd]
      show writeFields b.clock d p.modifie.toMap g = d g
      rw [writeFields_modifie hne]
      unfold champSauve
      split
      · exact h.photo.symm
      · exact h.statut.symm
      · exact h.motDePasse.symm
      · exact h.roleId.symm
      · exact h.etablissementId.symm
      · rfl
    · rw [if_neg hk]

/-- **Edits touch the edited fields only.**  After a save that reports its success, whatever has
happened to the user since the form was opened, nothing but the edited fields differs from just
before exactly if the stored user then has no photo and the rest of the model opened. -/
theorem seulementEdites_iff (h : Reussie S ecran p b f) :
    SeulementEdites p b (apresEdition S ecran p b f).2 ↔
      ∀ d, b.doc .utilisateurs p.utilisateur.id = some d → Fidele p.utilisateur d := by
  obtain ⟨d, hd, hafter⟩ := apresEdition_of_reussie h
  rw [hafter, seulementEdites_putDoc_iff hd]
  constructor
  · intro hfid d' hd'
    rw [hd] at hd'
    exact Option.some.inj hd' ▸ hfid
  · exact fun hall => hall d hd

/-- The teacher `t`, as the creation of a teacher stores him. -/
def enseignantT (photo : Option String) : UtilisateurModele where
  id := "t"
  nom := "Nom"
  prenom := "Prénom"
  email := "t@e.fr"
  numeroTelephone := "600000"
  adresse := "Ville"
  motDePasse := "secret"
  statut := false
  roleId := "r"
  etablissementId := "e"
  photo := photo

def unEnseignant (photo : Option String) : Base :=
  baseVide.putDoc .utilisateurs "t" (newDoc 0 (enseignantT photo).toMap)

/-- The form opened on him, with a new name. -/
def renomme (photo : Option String) : ModificationUtilisateur :=
  { ModificationUtilisateur.ouvrir (enseignantT photo) with nom := "Autre" }

theorem reussie_renomme {photo : Option String} (h : photo = none ∨ photo = some "p") :
    Reussie (Server.longest 10) .enseignant (renomme photo) (unEnseignant photo) [] := by
  unfold Reussie
  rcases h with rfl | rfl <;> decide +kernel

theorem seulementEdites_iff_renomme :
    SeulementEdites (renomme none) (unEnseignant none)
        (apresEdition (Server.longest 10) .enseignant (renomme none) (unEnseignant none) []).2 ↔
      ∀ d, (unEnseignant none).doc .utilisateurs "t" = some d → Fidele (enseignantT none) d :=
  seulementEdites_iff (reussie_renomme (Or.inl rfl))

/-- With a photo, the save succeeds and erases it. -/
theorem not_seulementEdites_renomme :
    Reussie (Server.longest 10) .enseignant (renomme (some "p")) (unEnseignant (some "p")) [] ∧
    ¬SeulementEdites (renomme (some "p")) (unEnseignant (some "p"))
      (apresEdition (Server.longest 10) .enseignant (renomme (some "p")) (unEnseignant (some "p"))
        []).2 := by
  refine ⟨reussie_renomme (Or.inr rfl), ?_⟩
  obtain ⟨d, hd, hafter⟩ := apresEdition_of_reussie (reussie_renomme (Or.inr rfl))
  rw [hafter, seulementEdites_putDoc_iff hd]
  intro hfid
  have hphoto : d .photo = some (.str "p") := by
    rw [← Option.some.inj (show some (newDoc 0 (enseignantT (some "p")).toMap) = some d from hd)]
    rfl
  rw [hfid.photo] at hphoto
  cases hphoto

end Edition

end EduConnect.Admin
