import EduConnect.Admin.Eleves
import EduConnect.Pannes

/-!
# What the edit screen of a student shows, and what it updates

`ModificationEleveVue` shows the user to whom the document of the student refers, and saves with two
updates, one after the other, both under the id of the student.
-/

namespace EduConnect.Admin

open Lib Prog

/-! ## Loading the form -/

/-- `_ModificationEleveVueState` with the classes to choose from. -/
structure FicheEleve extends ModificationEleve where
  classesDisponibles : List (String × Valeur) := []

namespace FicheEleve

def afficherMessage (titre message : String) (type : DialogType) : Action Etape FicheEleve Unit :=
  setState fun p => { p with messages := p.messages ++ [⟨titre, message, type⟩] }

/-- The classes of the establishment, each with its id and its name. -/
def chargerClasses (etablissementId : String) : Action Etape FicheEleve Unit := do
  let docs ← chercher .autre .classes [.isEqualTo .etablissementId (.str etablissementId)]
  setState fun p => { p with classesDisponibles := docs.map fun doc =>
    (doc.1, match doc.2.get .nom with
      | .null => .str "Classe sans nom"
      | nom => nom) }

/-- Fill the controllers of the form. -/
def remplir (data : Document) : Action Etape FicheEleve Unit := do
  let nom ← ofExcept ((data.get .nom).orStr "")
  setState fun p => { p with nom := nom }
  let prenom ← ofExcept ((data.get .prenom).orStr "")
  setState fun p => { p with prenom := prenom }
  let email ← ofExcept ((data.get .email).orStr "")
  setState fun p => { p with email := email }
  let telephone ← ofExcept ((data.get .numeroTelephone).orStr "")
  setState fun p => { p with telephone := telephone }
  let adresse ← ofExcept ((data.get .adresse).orStr "")
  setState fun p => { p with adresse := adresse }

/-- The body of the `try`. -/
def charger : Action Etape FicheEleve Unit := do
  let p ← page
  let eleveSnapshot ← lire .autre .eleves p.eleveId
  match eleveSnapshot with
  | none => afficherMessage "Erreur" "Élève introuvable" .error
  | some eleveData =>
    let classeId ← ofExcept (eleveData.get .classeId).optStr
    setState fun p => { p with classeIdSelectionnee := classeId }
    let utilisateurId ← ofExcept (eleveData.get .utilisateurId).asStr
    let utilisateurSnapshot ← lireDoc .autre .utilisateurs utilisateurId
    match utilisateurSnapshot with
    | none => afficherMessage "Erreur" "Utilisateur lié introuvable" .error
    | some utilisateurData =>
      remplir utilisateurData
      let etablissementId ← ofExcept (utilisateurData.get .etablissementId).asStr
      chargerClasses etablissementId

def chargerDonneesEleve : Action Etape FicheEleve Unit := do
  setState fun p => { p with loading := true }
  ensuring (catching charger fun e =>
    afficherMessage "Erreur" ("Erreur lors du chargement : " ++ texteErreur e) .error) fun p =>
      { p with loading := false }

/-- The form shows the values of `data`. -/
structure Montre (data : Document) (p : FicheEleve) : Prop where
  nom : (data.get .nom).orStr "" = .ok p.nom
  prenom : (data.get .prenom).orStr "" = .ok p.prenom
  email : (data.get .email).orStr "" = .ok p.email
  telephone : (data.get .numeroTelephone).orStr "" = .ok p.telephone
  adresse : (data.get .adresse).orStr "" = .ok p.adresse

/-- The document of the student `eleveId` refers to the user `u`, stored with `data`. -/
structure Lien (b : Base) (eleveId u : String) (eleveData data : Document) : Prop where
  eleve : b.doc .eleves eleveId = some eleveData
  utilisateurId : eleveData .utilisateurId = some (.str u)
  utilisateur : b.doc .utilisateurs u = some data

/-- The screen of the student `eleveId`, opened on `b`, displays the values of the user `u`, whatever
the form held before. -/
def Affiche (S : Server) (b : Base) (f : List (Option Err)) (eleveId u : String) : Prop :=
  ∃ eleveData data, Lien b eleveId u eleveData data ∧ ∀ p : FicheEleve, p.eleveId = eleveId →
    chargerDonneesEleve.Ends (faulty S.handler) (fun _ p' _ => Montre data p') p (b, f)

/-- The documents can be read: no request for them is lost, and their fields have the types the screen
expects. -/
def Lisible (b : Base) (f : List (Option Err)) (eleveId u : String) : Prop :=
  nextFault f = none ∧ nextFault f.tail = none ∧ u ≠ "" ∧ ∃ eleveData data,
    Lien b eleveId u eleveData data ∧ (∃ c, (eleveData.get .classeId).optStr = .ok c) ∧
    ∃ p, Montre data p

section Chargement

variable {S : Server} {b : Base} {f : List (Option Err)} {p : FicheEleve} {u : String}

theorem ends_remplir (data : Document) {x : Base × List (Option Err)} :
    (remplir data).Ends (faulty S.handler) (fun a p' _ =>
      (a = .ok () ∧ Montre data p') ∨ ∀ q, ¬Montre data q) p x := by
  simp only [remplir, bind_eq]
  refine ends_bind.mpr ((ends_ofExcept _).mpr ?_)
  rcases hnom : (data.get .nom).orStr "" with e | nom
  · exact .inr fun q hq => nomatch hnom.symm.trans hq.nom
  refine ends_setState_bind.mpr (ends_bind.mpr ((ends_ofExcept _).mpr ?_))
  rcases hprenom : (data.get .prenom).orStr "" with e | prenom
  · exact .inr fun q hq => nomatch hprenom.symm.trans hq.prenom
  refine ends_setState_bind.mpr (ends_bind.mpr ((ends_ofExcept _).mpr ?_))
  rcases hemail : (data.get .email).orStr "" with e | email
  · exact .inr fun q hq => nomatch hemail.symm.trans hq.email
  refine ends_setState_bind.mpr (ends_bind.mpr ((ends_ofExcept _).mpr ?_))
  rcases htelephone : (data.get .numeroTelephone).orStr "" with e | telephone
  · exact .inr fun q hq => nomatch htelephone.symm.trans hq.telephone
  refine ends_setState_bind.mpr (ends_bind.mpr ((ends_ofExcept _).mpr ?_))
  rcases hadresse : (data.get .adresse).orStr "" with e | adresse
  · exact .inr fun q hq => nomatch hadresse.symm.trans hq.adresse
  · exact .inl ⟨rfl, hnom, hprenom, hemail, htelephone, hadresse⟩

/-- The texts of the form do not depend on the classes to choose from. -/
theorem Montre.congr {data : Document} {q : FicheEleve} (h : Montre data p)
    (hq : (q.nom, q.prenom, q.email, q.telephone, q.adresse) =
      (p.nom, p.prenom, p.email, p.telephone, p.adresse)) : Montre data q := by
  simp only [Prod.mk.injEq] at hq
  obtain ⟨hnom, hprenom, hemail, htelephone, hadresse⟩ := hq
  exact ⟨hnom ▸ h.nom, hprenom ▸ h.prenom, hemail ▸ h.email, htelephone ▸ h.telephone,
    hadresse ▸ h.adresse⟩

theorem ends_chargerClasses (etablissementId : String) {x : Base × List (Option Err)} :
    (chargerClasses etablissementId).Ends (faulty S.handler) (fun _ p' _ =>
      (p'.nom, p'.prenom, p'.email, p'.telephone, p'.adresse) =
        (p.nom, p.prenom, p.email, p.telephone, p.adresse)) p x := by
  obtain ⟨b, f⟩ := x
  exact ends_bind.mpr ((ends_requete_pannes rfl).mpr ⟨fun _ _ => rfl, fun _ => rfl⟩)

theorem Lien.unique {eleveId u' : String} {eleveData eleveData' data data' : Document}
    (h : Lien b eleveId u eleveData data) (h' : Lien b eleveId u' eleveData' data') :
    eleveData = eleveData' ∧ u = u' ∧ data = data' := by
  obtain rfl := Option.some.inj (h.eleve.symm.trans h'.eleve)
  obtain rfl := Value.str.inj (Option.some.inj (h.utilisateurId.symm.trans h'.utilisateurId))
  exact ⟨rfl, rfl, Option.some.inj (h.utilisateur.symm.trans h'.utilisateur)⟩

/-- What the form shows after loading: the user of the student, or the name it showed before, or not
all of a document that cannot be read. -/
inductive Chargee (b : Base) (f : List (Option Err)) (p p' : FicheEleve) : Prop where
  | lue (u : String) (eleveData data : Document) (lien : Lien b p.eleveId u eleveData data)
    (lisible : Lisible b f p.eleveId u) (montre : Montre data p')
  | inchangee (illisible : ∀ u, ¬Lisible b f p.eleveId u) (nom : p'.nom = p.nom)
  | partielle (u : String) (eleveData data : Document) (lien : Lien b p.eleveId u eleveData data)
    (illisible : ∀ q, ¬Montre data q)

theorem ends_charger :
    charger.Ends (faulty S.handler) (fun _ p' _ => Chargee b f p p') p (b, f) := by
  simp only [charger, bind_eq]
  refine ends_page_bind.mpr (ends_bind.mpr (ends_lire_pannes.mpr ⟨fun e he => ?_, fun hf => ?_⟩))
  · refine .inchangee (fun u h => ?_) rfl
    cases he.symm.trans h.1
  rcases heleve : b.doc .eleves p.eleveId with _ | eleveData
  · refine .inchangee (fun u h => ?_) rfl
    obtain ⟨-, -, -, _, _, hl, -⟩ := h
    cases heleve.symm.trans hl.eleve
  refine ends_bind.mpr ((ends_ofExcept _).mpr ?_)
  rcases hclasse : (eleveData.get .classeId).optStr with e | classeId
  · refine .inchangee (fun u h => ?_) rfl
    obtain ⟨-, -, -, _, _, hl, ⟨c, hc⟩, -⟩ := h
    obtain rfl := Option.some.inj (heleve.symm.trans hl.eleve)
    cases hclasse.symm.trans hc
  refine ends_setState_bind.mpr (ends_bind.mpr ((ends_ofExcept _).mpr ?_))
  rcases hid : (eleveData.get .utilisateurId).asStr with e | u
  · refine .inchangee (fun u h => ?_) rfl
    obtain ⟨-, -, -, _, _, hl, -⟩ := h
    obtain rfl := Option.some.inj (heleve.symm.trans hl.eleve)
    rw [Doc.get, hl.utilisateurId] at hid
    cases hid
  have hlien : eleveData .utilisateurId = some (.str u) := Doc.asStr_get_iff.mp hid
  -- the user of the student is the only one that could be read
  have hseul : ∀ {u'}, Lisible b f p.eleveId u' → u' = u ∧ ∃ data, b.doc .utilisateurs u = some data
      ∧ nextFault f.tail = none ∧ u ≠ "" := by
    rintro u' ⟨-, hf', hu', e', data, hl, -⟩
    obtain rfl := Option.some.inj (heleve.symm.trans hl.eleve)
    obtain rfl := Value.str.inj (Option.some.inj (hl.utilisateurId.symm.trans hlien))
    exact ⟨rfl, data, hl.utilisateur, hf', hu'⟩
  refine ends_bind.mpr ?_
  rw [lireDoc]
  by_cases hu : u = ""
  · rw [if_pos hu]
    refine .inchangee (fun u' h => ?_) rfl
    obtain ⟨-, _, -, -, hu'⟩ := hseul h
    exact hu' hu
  rw [if_neg hu]
  refine ends_lire_pannes.mpr ⟨fun e he => ?_, fun hf' => ?_⟩
  · refine .inchangee (fun u' h => ?_) rfl
    obtain ⟨-, _, -, hf', -⟩ := hseul h
    cases he.symm.trans hf'
  rcases hutilisateur : b.doc .utilisateurs u with _ | data
  · refine .inchangee (fun u' h => ?_) rfl
    obtain ⟨-, data, hdata, -⟩ := hseul h
    cases hutilisateur.symm.trans hdata
  have hl : Lien b p.eleveId u eleveData data := ⟨heleve, hlien, hutilisateur⟩
  refine ends_bind.mpr ((ends_remplir data).mono ?_)
  rintro a p₁ x (⟨rfl, hmontre⟩ | hillisible)
  · have hlisible : Lisible b f p.eleveId u :=
      ⟨hf, hf', hu, eleveData, data, hl, ⟨classeId, hclasse⟩, p₁, hmontre⟩
    refine ends_bind.mpr ((ends_ofExcept _).mpr ?_)
    rcases (data.get .etablissementId).asStr with e | etablissementId
    · exact .lue u eleveData data hl hlisible hmontre
    · refine (ends_chargerClasses etablissementId).mono ?_
      exact fun _ p' _ hp' => .lue u eleveData data hl hlisible (hmontre.congr hp')
  · have hfin : ∀ p', Chargee b f p p' := fun p' => .partielle u eleveData data hl hillisible
    rcases a with e | _
    · exact hfin p₁
    · exact hfin _

theorem ends_chargerDonneesEleve :
    chargerDonneesEleve.Ends (faulty S.handler) (fun _ p' _ => Chargee b f p p') p (b, f) := by
  refine ends_setState_bind.mpr (ends_ensuring.mpr (ends_catching.mpr (ends_charger.mono ?_)))
  have hsuite : ∀ p₁ p₂ : FicheEleve, Chargee b f { p with loading := true } p₁ →
      (p₂.nom, p₂.prenom, p₂.email, p₂.telephone, p₂.adresse) =
        (p₁.nom, p₁.prenom, p₁.email, p₁.telephone, p₁.adresse) → Chargee b f p p₂ := by
    intro p₁ p₂ h heq
    cases h with
    | lue u eleveData data hl hlisible hmontre =>
      exact .lue u eleveData data hl hlisible (hmontre.congr heq)
    | inchangee hillisible hnom => exact .inchangee hillisible ((congrArg Prod.fst heq).trans hnom)
    | partielle u eleveData data hl hillisible => exact .partielle u eleveData data hl hillisible
  rintro (e | _) p₁ x h
  · exact hsuite p₁ _ h rfl
  · exact hsuite p₁ _ h rfl

/-- The screen displays the user of the student whenever the documents can be read. -/
theorem affiche_iff {eleveId : String} : Affiche S b f eleveId u ↔ Lisible b f eleveId u := by
  constructor
  · rintro ⟨eleveData, data, hl, h⟩
    -- a form that was not filled would show any name
    have hcharge : ∀ nom, Lisible b f eleveId u ∨ (data.get .nom).orStr "" = .ok nom := by
      intro nom
      have hmontre := h { eleveId := eleveId, nom := nom } rfl
      have hc : Chargee b f { eleveId := eleveId, nom := nom } _ := ends_chargerDonneesEleve (S := S)
      cases hc with
      | lue u' eleveData' data' hl' hlisible _ =>
        obtain ⟨-, rfl, -⟩ := hl.unique hl'
        exact .inl hlisible
      | inchangee _ hnom => exact .inr (hmontre.nom.trans (congrArg Except.ok hnom))
      | partielle u' eleveData' data' hl' hillisible =>
        obtain ⟨-, -, rfl⟩ := hl.unique hl'
        exact absurd hmontre (hillisible _)
    rcases hcharge "a" with hlisible | ha
    · exact hlisible
    rcases hcharge "b" with hlisible | hb
    · exact hlisible
    · have hnoms : "a" = "b" := Except.ok.inj (ha.symm.trans hb)
      exact absurd hnoms (by decide)
  · intro h
    obtain ⟨-, -, -, eleveData, data, hl, -, q, hq⟩ := id h
    refine ⟨eleveData, data, hl, ?_⟩
    rintro p rfl
    refine ends_chargerDonneesEleve.mono fun _ p' _ hc => ?_
    cases hc with
    | lue u' eleveData' data' hl' _ hmontre =>
      obtain ⟨-, -, rfl⟩ := hl.unique hl'
      exact hmontre
    | inchangee hillisible _ => exact absurd h (hillisible u)
    | partielle u' eleveData' data' hl' hillisible =>
      obtain ⟨-, -, rfl⟩ := hl.unique hl'
      exact absurd hq (hillisible q)

end Chargement

end FicheEleve

/-! ## Saving the form -/

namespace ModificationEleve

open FicheEleve

variable {S : Server} {p p' : ModificationEleve} {b b' : Base} {f : List (Option Err)}

variable (S) in
/-- The page and the data after a press of the button. -/
def execution (p : ModificationEleve) (b : Base) (f : List (Option Err)) : ModificationEleve × Base :=
  let x := modifierEleve.exec (faulty S.handler) p (b, f)
  (x.2.1, x.2.2.1)

/-- The press added the message of success. -/
def Reussie (p p' : ModificationEleve) : Prop :=
  p'.messages = p.messages ++ [⟨"Succès", "Élève modifié avec succès", .success⟩]

/-- What the form writes. -/
def saisie (p : ModificationEleve) : Champs := p.updatedData (p.classeIdSelectionnee.getD "")

/-- The document holds the values of the form. -/
def Porte (p : ModificationEleve) (b : Base) (c : Collection) (id : String) : Prop :=
  ∃ d, b.doc c id = some d ∧ writeFields b.clock d p.saisie = d

/-- The documents the screen is about are as they were. -/
def Intacts (b b' : Base) : Prop :=
  ∀ id, b'.doc .eleves id = b.doc .eleves id ∧ b'.doc .utilisateurs id = b.doc .utilisateurs id

/-- The user `u` has the values of the form, and no other user has changed. -/
def SeulModifie (p : ModificationEleve) (u : String) (b b' : Base) : Prop :=
  ∃ d, b.doc .utilisateurs u = some d ∧
    ∀ id, b'.doc .utilisateurs id =
      if id = u then some (writeFields b.clock d p.saisie) else b.doc .utilisateurs id

/-- The screen was opened on `b₀`, and its button pressed on `b` with an accepted form: on success the
user who was displayed is updated, and a failure changes nothing. -/
def Conforme (S : Server) (b₀ : Base) (f₀ : List (Option Err)) (p : ModificationEleve) (b : Base)
    (f : List (Option Err)) : Prop :=
  p.validate = true →
    (Reussie p (execution S p b f).1 → ∀ u, Affiche S b₀ f₀ p.eleveId u →
      SeulModifie p u b (execution S p b f).2) ∧
    (¬Reussie p (execution S p b f).1 → Intacts b (execution S p b f).2)

/-- The first update is served. -/
def Premiere (p : ModificationEleve) (b : Base) (f : List (Option Err)) : Prop :=
  nextFault f = none ∧ (b.doc .eleves p.eleveId).isSome

/-- The second update is served. -/
def Seconde (p : ModificationEleve) (b : Base) (f : List (Option Err)) : Prop :=
  nextFault f.tail = none ∧ (b.doc .utilisateurs p.eleveId).isSome

/-- The document, if it is there, with the values of the form. -/
def maj (p : ModificationEleve) (c : Collection) (b : Base) : Base :=
  match b.doc c p.eleveId with
  | some d => b.putDoc c p.eleveId (writeFields b.clock d p.saisie)
  | none => b

theorem maj_clock (c : Collection) : (p.maj c b).clock = b.clock := by
  unfold maj
  rcases b.doc c p.eleveId with _ | d <;> rfl

theorem doc_maj (c c' : Collection) (id : String) : (p.maj c b).doc c' id =
    if c' = c ∧ id = p.eleveId then
      (b.doc c p.eleveId).map fun d => writeFields b.clock d p.saisie
    else b.doc c' id := by
  unfold maj
  rcases hd : b.doc c p.eleveId with _ | d
  · by_cases h : c' = c ∧ id = p.eleveId
    · rw [if_pos h, h.1, h.2]
      exact hd
    · rw [if_neg h]
  · exact Data.doc_putDoc b c c' p.eleveId id _

/-- How a press with an accepted form ends. -/
inductive Issue (p : ModificationEleve) (b : Base) (f : List (Option Err)) (p' : ModificationEleve)
    (b' : Base) : Prop where
  | refusee (premiere : ¬Premiere p b f) (message : ¬Reussie p p') (donnees : b' = b)
  | coupee (premiere : Premiere p b f) (seconde : ¬Seconde p b f) (message : ¬Reussie p p')
    (donnees : b' = p.maj .eleves b)
  | entiere (premiere : Premiere p b f) (seconde : Seconde p b f) (message : Reussie p p')
    (donnees : b' = p.maj .utilisateurs (p.maj .eleves b))

theorem not_reussie_of_erreur {message : String}
    (h : p'.messages = p.messages ++ [⟨"Erreur", message, .error⟩]) : ¬Reussie p p' := by
  intro hr
  have hlast := List.append_cancel_left (h.symm.trans hr)
  simp at hlast

/-- An update of a document of the student is served, or lost. -/
theorem ends_maj {c : Collection} {q : ModificationEleve} {a : String}
    (ha : p.classeIdSelectionnee = some a) :
    (ecrire .autre (.update c p.eleveId (p.updatedData a)) : Action Etape _ Unit).Ends
      (faulty S.handler) (fun r q' x => q' = q ∧
        ((r = .ok () ∧ nextFault f = none ∧ (b.doc c p.eleveId).isSome ∧ x = (p.maj c b, f.tail)) ∨
          ((∃ e, r = .error e) ∧ ¬(nextFault f = none ∧ (b.doc c p.eleveId).isSome) ∧
            x = (b, f.tail)))) q (b, f) := by
  have hsaisie : p.saisie = p.updatedData a := by rw [saisie, ha, Option.getD_some]
  rcases hd : b.doc c p.eleveId with _ | d
  · refine (ends_update_absent_pannes hd).mpr ⟨fun e he => ⟨rfl, .inr ⟨⟨e, rfl⟩, ?_, rfl⟩⟩,
      fun _ => ⟨rfl, .inr ⟨⟨_, rfl⟩, (fun h => nomatch h.2), rfl⟩⟩⟩
    exact fun h => nomatch h.2
  · refine (ends_update_pannes hd).mpr ⟨fun e he => ⟨rfl, .inr ⟨⟨e, rfl⟩, ?_, rfl⟩⟩,
      fun hf => ⟨rfl, .inl ⟨rfl, hf, rfl, ?_⟩⟩⟩
    · exact fun h => nomatch he.symm.trans h.1
    · rw [maj, hd, hsaisie]

theorem ends_modifierEleve (hp : p.validate = true) :
    modifierEleve.Ends (faulty S.handler) (fun _ p' x => Issue p b f p' x.1) p (b, f) := by
  simp only [modifierEleve, bind_eq]
  rw [ends_page_bind, if_pos hp]
  rcases hc : p.classeIdSelectionnee with _ | classeId
  · exact absurd hp (by simp [validate, hc])
  dsimp only
  refine ends_setState_bind.mpr (ends_ensuring.mpr (ends_catching.mpr ?_))
  refine ends_bind.mpr ((ends_maj (S := S) (c := .eleves) hc).mono ?_)
  rintro r q x ⟨rfl, ⟨rfl, hf, hd, rfl⟩ | ⟨⟨e, rfl⟩, hno, rfl⟩⟩
  · refine ends_bind.mpr ((ends_maj (S := S) (c := .utilisateurs) hc).mono ?_)
    have hdoc : (p.maj .eleves b).doc .utilisateurs p.eleveId = b.doc .utilisateurs p.eleveId := by
      rw [doc_maj, if_neg fun h => by cases h.1]
    rintro r q x ⟨rfl, ⟨rfl, hf', hd', rfl⟩ | ⟨⟨e, rfl⟩, hno, rfl⟩⟩
    · exact .entiere ⟨hf, hd⟩ ⟨hf', hdoc ▸ hd'⟩ rfl rfl
    · refine .coupee ⟨hf, hd⟩ (fun h => hno ⟨h.1, hdoc.symm ▸ h.2⟩) ?_ rfl
      exact not_reussie_of_erreur rfl
  · exact .refusee hno (not_reussie_of_erreur rfl) rfl

/-! ## When the right user is updated, and all or nothing -/

/-- An accepted form is saved as it should be: when both updates are served, the user on display has the
id of the student, unless both users hold the values of the form already; and the first update is not
served alone, unless it changes nothing. -/
structure Sur (b₀ : Base) (f₀ : List (Option Err)) (p : ModificationEleve) (b : Base)
    (f : List (Option Err)) : Prop where
  utilisateur : Premiere p b f → Seconde p b f → ∀ u, Lisible b₀ f₀ p.eleveId u →
    u = p.eleveId ∨ (Porte p b .utilisateurs p.eleveId ∧ Porte p b .utilisateurs u)
  ensemble : Premiere p b f → ¬Seconde p b f → Porte p b .eleves p.eleveId

theorem seulModifie_iff {u : String} (hs : Seconde p b f) :
    SeulModifie p u b (p.maj .utilisateurs (p.maj .eleves b)) ↔
      u = p.eleveId ∨ (Porte p b .utilisateurs p.eleveId ∧ Porte p b .utilisateurs u) := by
  obtain ⟨d, hd⟩ := Option.isSome_iff_exists.mp hs.2
  have heleve : ∀ id, (p.maj .eleves b).doc .utilisateurs id = b.doc .utilisateurs id := by
    intro id
    rw [doc_maj, if_neg fun h => nomatch h.1]
  have hapres : ∀ id, (p.maj .utilisateurs (p.maj .eleves b)).doc .utilisateurs id =
      if id = p.eleveId then some (writeFields b.clock d p.saisie) else b.doc .utilisateurs id := by
    intro id
    rw [doc_maj, heleve, heleve, hd, maj_clock]
    simp
  simp only [SeulModifie, hapres]
  constructor
  · rintro ⟨d', hd', h⟩
    by_cases hu : u = p.eleveId
    · exact .inl hu
    have hself := h p.eleveId
    have hother := h u
    rw [if_pos rfl, if_neg (Ne.symm hu), hd] at hself
    rw [if_neg hu, if_pos rfl, hd'] at hother
    exact .inr ⟨⟨d, hd, Option.some.inj hself⟩, d', hd', (Option.some.inj hother).symm⟩
  · rintro (rfl | ⟨⟨d₁, hd₁, hporte⟩, d₂, hd₂, hporte'⟩)
    · exact ⟨d, hd, fun _ => rfl⟩
    obtain rfl := Option.some.inj (hd.symm.trans hd₁)
    refine ⟨d₂, hd₂, fun id => ?_⟩
    rw [hporte, hporte']
    by_cases hid : id = p.eleveId
    · rw [if_pos hid]
      by_cases hu : id = u
      · rw [if_pos hu, ← hd₂, ← hu, hid, hd]
      · rw [if_neg hu, hid, hd]
    · rw [if_neg hid]
      by_cases hu : id = u
      · rw [if_pos hu, hu, hd₂]
      · rw [if_neg hu]

theorem intacts_maj_iff (hp : Premiere p b f) :
    Intacts b (p.maj .eleves b) ↔ Porte p b .eleves p.eleveId := by
  obtain ⟨d, hd⟩ := Option.isSome_iff_exists.mp hp.2
  constructor
  · intro h
    have heleve := (h p.eleveId).1
    rw [doc_maj, if_pos ⟨rfl, rfl⟩, hd] at heleve
    exact ⟨d, hd, Option.some.inj heleve⟩
  · rintro ⟨d', hd', hporte⟩ id
    constructor
    · rw [doc_maj]
      by_cases hid : id = p.eleveId
      · rw [if_pos ⟨rfl, hid⟩, hid, hd', Option.map_some, hporte]
      · rw [if_neg fun h => hid h.2]
    · rw [doc_maj, if_neg fun h => nomatch h.1]

/-- **Editing a student.**  The screen updates the user it displayed, and all or nothing, exactly when
the save is a safe one. -/
theorem modificationEleve_conforme_iff (S : Server) (b₀ : Base) (f₀ : List (Option Err))
    (p : ModificationEleve) (b : Base) (f : List (Option Err)) :
    Conforme S b₀ f₀ p b f ↔ (p.validate = true → Sur b₀ f₀ p b f) := by
  refine forall_congr' fun hp => ?_
  have hissue : Issue p b f (execution S p b f).1 (execution S p b f).2 := ends_modifierEleve hp
  simp only [affiche_iff]
  cases hissue with
  | refusee hpremiere hmessage hb =>
    rw [hb]
    refine iff_of_true ⟨fun h => absurd h hmessage, fun _ _ => ⟨rfl, rfl⟩⟩ ?_
    exact ⟨fun h => absurd h hpremiere, fun h => absurd h hpremiere⟩
  | coupee hpremiere hseconde hmessage hb =>
    rw [hb]
    constructor
    · intro h
      exact ⟨fun _ h' => absurd h' hseconde, fun _ _ => (intacts_maj_iff hpremiere).mp (h.2 hmessage)⟩
    · intro h
      exact ⟨fun h' => absurd h' hmessage,
        fun _ => (intacts_maj_iff hpremiere).mpr (h.ensemble hpremiere hseconde)⟩
  | entiere hpremiere hseconde hmessage hb =>
    rw [hb]
    constructor
    · intro h
      exact ⟨fun _ _ u hu => (seulModifie_iff hseconde).mp (h.1 hmessage u hu),
        fun _ h' => absurd hseconde h'⟩
    · intro h
      exact ⟨fun _ u hu => (seulModifie_iff hseconde).mpr (h.utilisateur hpremiere hseconde u hu),
        fun h' => absurd hmessage h'⟩

/-- The student `e` refers to the user `u`; a user has the id `e` as well. -/
def baseDUnEleve : Base :=
  ((baseVide.putDoc .eleves "e" (newDoc 0 [texte .utilisateurId "u", texte .classeId "c"])).putDoc
    .utilisateurs "u" (newDoc 0 [texte .nom "Abena"])).putDoc .utilisateurs "e"
      (newDoc 0 [texte .nom "Essomba"])

def formulaire : ModificationEleve where
  eleveId := "e"
  nom := "Atangana"
  prenom := "Luc"
  email := "luc@ecole.cm"
  telephone := "699000000"
  adresse := "Douala"
  classeIdSelectionnee := some "c"

theorem lisible_baseDUnEleve : Lisible baseDUnEleve [] "e" "u" :=
  ⟨rfl, rfl, by decide, _, _, ⟨rfl, rfl, rfl⟩, ⟨_, rfl⟩,
    { eleveId := "e", nom := "Abena" }, rfl, rfl, rfl, rfl, rfl⟩

/-- Another user is updated than the one on display, and when the second update is lost the first one
stays. -/
theorem not_conforme_eleve :
    ¬Conforme (Server.longest 10) baseDUnEleve [] formulaire baseDUnEleve [] ∧
      ¬Conforme (Server.longest 10) baseDUnEleve [] formulaire baseDUnEleve
        [none, some .unavailable] := by
  have hvalide : formulaire.validate = true := by decide
  constructor
  · intro h
    obtain ⟨d, -, hd⟩ := (h hvalide).1 rfl "u" (affiche_iff.mpr lisible_baseDUnEleve)
    have hautre := congrArg (fun x => x.bind (· .nom)) (hd "e")
    have hnoms : some (Value.str "Atangana") = some (Value.str (φ := Champ) "Essomba") := hautre
    exact absurd (Value.str.inj (Option.some.inj hnoms)) (by decide)
  · intro h
    have hechec : ¬Reussie formulaire (execution (Server.longest 10) formulaire baseDUnEleve
        [none, some .unavailable]).1 := by
      have hmessages : (execution (Server.longest 10) formulaire baseDUnEleve
          [none, some .unavailable]).1.messages = [⟨"Erreur",
            "Erreur lors de la modification : [cloud_firestore/unavailable]", .error⟩] := rfl
      rw [Reussie, hmessages]
      decide
    have heleve := congrArg (fun x => x.bind (· .nom)) (((h hvalide).2 hechec) "e").1
    exact nomatch heleve

end ModificationEleve

end EduConnect.Admin
