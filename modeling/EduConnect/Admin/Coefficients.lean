import EduConnect.Admin.Creations
import EduConnect.Lib.Stored

/-!
# The coefficient of a subject

`AjoutMatiereVue` and `ModifierMatiere` read the coefficient with `double.tryParse` and refuse a
value `<= 0`.  No comparison with NaN holds, and an infinity is greater than 0: both are stored.
-/

namespace EduConnect.Admin

open Lib Prog

/-! ## ModifierMatiere -/

/-- `_ModifierMatiereState` with the texts of its form. -/
structure ModificationMatiere where
  id : String
  etablissementId : String
  nom : String
  coefficient : String
  description : String
  messages : List Message := []

/-- `parsed == null || parsed <= 0`. -/
def coefficientRefuse : Option Double → Bool
  | some parsed => (Double.finite 0).ge parsed
  | none => true

/-- The coefficient validator of `AjoutMatiereVue`. -/
def AjoutMatiere.validateurCoefficient (value : String) : Option String :=
  if value = "" then some "Champ requis"
  else if coefficientRefuse (Double.tryParse value) then
    some "Veuillez entrer un coefficient valide (> 0)"
  else none

namespace ModificationMatiere

/-- `initState`. -/
def ouvrir (id nom description : String) (coefficient : Double) (etablissementId : String) :
    ModificationMatiere where
  id := id
  etablissementId := etablissementId
  nom := nom
  coefficient := coefficient.toText
  description := description

def afficherMessage {Λ : Type} (titre message : String) (type : DialogType) :
    Action Λ ModificationMatiere Unit :=
  setState fun p => { p with messages := p.messages ++ [⟨titre, message, type⟩] }

/-- The coefficient validator. -/
def validateurCoefficient (value : String) : Option String :=
  if trim value = "" then some "Champ requis"
  else if coefficientRefuse (Double.tryParse (trim value)) then
    some "Veuillez entrer un coefficient valide (> 0)"
  else none

/-- The validators of the form. -/
def validate (p : ModificationMatiere) : Bool :=
  trim p.nom ≠ "" && trim p.description ≠ "" && (validateurCoefficient p.coefficient).isNone

/-- The subject as it is saved. -/
def modifiee (p : ModificationMatiere) (coefficient : Double) : MatiereModele where
  id := p.id
  nom := trim p.nom
  coefficient := coefficient
  description := trim p.description
  etablissementId := p.etablissementId

def modifierMatiere {Λ : Type} (l : Λ) : Action Λ ModificationMatiere Unit := do
  let p ← page
  if p.validate then
    catching (match Double.tryParse (trim p.coefficient) with
      | none => afficherMessage "Erreur"
          "Le coefficient doit être un nombre valide et supérieur à 0." .error
      | some coefficient =>
        if (Double.finite 0).ge coefficient then
          afficherMessage "Erreur" "Le coefficient doit être un nombre valide et supérieur à 0."
            .error
        else do
          MatiereController.modifierMatiere l p.etablissementId (p.modifiee coefficient)
          afficherMessage "Succès" "La matière a été modifiée avec succès." .success) fun e =>
      afficherMessage "Erreur" ("Échec de la modification de la matière : " ++ texteErreur e) .error
  else ret ()

end ModificationMatiere

/-! ## What the two forms accept -/

/-- A finite number greater than 0. -/
def Positif (x : Double) : Prop := ∃ q : ℚ, x.value = some q ∧ 0 < q

theorem coefficientRefuse_iff {parsed : Option Double} :
    coefficientRefuse parsed = false ↔
      ∃ x, parsed = some x ∧ (x = .nan ∨ x = .infinity false ∨ Positif x) := by
  rcases parsed with _ | x
  · simp [coefficientRefuse]
  · rcases x with _ | n | _ | q
    · simp [coefficientRefuse, Double.ge]
    · cases n <;> simp [coefficientRefuse, Double.ge, Positif, Double.value]
    · simp [coefficientRefuse, Double.ge, Positif, Double.value]
    · simp [coefficientRefuse, Double.ge, Positif, Double.value]

theorem coefficientRefuse_vide : coefficientRefuse (Double.tryParse "") = true := by
  decide +kernel

/-- Both validators only depend on what is parsed. -/
theorem AjoutMatiere.validateurCoefficient_iff (value : String) :
    AjoutMatiere.validateurCoefficient value = none ↔
      coefficientRefuse (Double.tryParse value) = false := by
  rw [AjoutMatiere.validateurCoefficient]
  by_cases hvide : value = ""
  · rw [if_pos hvide, hvide, coefficientRefuse_vide]
    simp
  · rw [if_neg hvide]
    split_ifs with h <;> simp [h]

theorem ModificationMatiere.validateurCoefficient_iff (value : String) :
    ModificationMatiere.validateurCoefficient value = none ↔
      coefficientRefuse (Double.tryParse value) = false := by
  rw [ModificationMatiere.validateurCoefficient, ← Double.tryParse_trim value]
  by_cases hvide : trim value = ""
  · rw [if_pos hvide, hvide, coefficientRefuse_vide]
    simp
  · rw [if_neg hvide]
    split_ifs with h <;> simp [h]

/-- The form of a new subject asks its validator. -/
theorem AjoutMatiere.validate_iff (p : AjoutMatiere) :
    p.validate = true ↔ p.nom ≠ "" ∧ AjoutMatiere.validateurCoefficient p.coefficient = none ∧
      p.description ≠ "" := by
  rw [AjoutMatiere.validateurCoefficient_iff]
  simp only [AjoutMatiere.validate, Bool.and_eq_true, decide_eq_true_eq, coefficientRefuse]
  rcases Double.tryParse p.coefficient with _ | x
  · simp
  · simp [and_assoc]

theorem parseDouble_of_some {s : String} {x : Double} (h : Double.tryParse s = some x) :
    parseDouble s = .ok x := by
  unfold parseDouble
  rw [h]

/-! ## What a save stores -/

/-- The stored subject has a finite coefficient greater than 0. -/
def CoefficientPositif (d : Document) : Prop :=
  ∃ x, d .coefficient = some (.num x) ∧ Positif x

section Enregistrement

variable {Λ σ : Type} {S : Server} {b : Base} {f : List (Option Err)}

/-- The subject was there before, or has a good coefficient. -/
def AncienOuPositif (b : Base) (id : String) (d : Document) : Prop :=
  b.doc .matieres id = some d ∨ CoefficientPositif d

/-- Every request leaves the subjects as they were, or with a good coefficient. -/
abbrev Ecrit (b : Base) (_ : Λ) (r : Requete) : Prop := r.Sends .matieres (AncienOuPositif b)

theorem issues_ajouterMatiere_positif {l : Λ} {etablissementId : String} {m : MatiereModele}
    (hm : Positif m.coefficient) :
    (MatiereController.ajouterMatiere l etablissementId m : Action Λ σ Unit).Issues (Ecrit b) := by
  refine .catching (.ite trivial ((issues_ecrire _ _).mpr ?_)) fun e => trivial
  exact fun _ now => Or.inr ⟨m.coefficient, rfl, hm⟩

theorem issues_modifierMatiere_positif {l : Λ} {etablissementId : String} {m : MatiereModele}
    (hm : Positif m.coefficient) :
    (MatiereController.modifierMatiere l etablissementId m : Action Λ σ Unit).Issues
      (Ecrit b) := by
  refine .catching (.bind (.ite trivial ((issues_lire _ _ _).mpr trivial)) fun doc => ?_)
    fun e => trivial
  cases doc with
  | none => trivial
  | some data =>
    refine .ite ((issues_ecrire _ _).mpr ?_) trivial
    exact fun _ now d _ => Or.inr ⟨m.coefficient, rfl, hm⟩

/-- Requests that write good coefficients leave good coefficients. -/
theorem ends_of_ecrit {p : Action Λ σ Unit} (hp : p.Issues (Ecrit b)) {s : σ} :
    p.Ends (faulty S.handler) (fun _ _ x => Stored .matieres (AncienOuPositif b) x.1) s (b, f) := by
  have hdepart : Stored .matieres (AncienOuPositif b) b := fun id d hd => Or.inl hd
  have hgarde : ∀ (l : Λ) (r : Requete) (x : Base × List (Option Err)), Ecrit b l r →
      Stored .matieres (AncienOuPositif b) x.1 →
      Stored .matieres (AncienOuPositif b) (faulty S.handler r x).2.1 :=
    fun l r x hr hx => hx.faulty hr x.2
  exact hp.exec hgarde hdepart

/-- What the text is read as passes the validators only if it is finite and greater than 0. -/
def Sure (s : String) : Prop :=
  ∀ x, Double.tryParse s = some x → coefficientRefuse (some x) = false → Positif x

theorem sure_iff {s : String} : Sure s ↔
    Double.tryParse s ≠ some .nan ∧ Double.tryParse s ≠ some (.infinity false) := by
  constructor
  · intro h
    constructor
    · intro hnan
      obtain ⟨q, hq, -⟩ := h _ hnan (coefficientRefuse_iff.mpr ⟨_, rfl, Or.inl rfl⟩)
      cases hq
    · intro hinf
      obtain ⟨q, hq, -⟩ := h _ hinf (coefficientRefuse_iff.mpr ⟨_, rfl, Or.inr (Or.inl rfl)⟩)
      cases hq
  · rintro ⟨hnan, hinf⟩ x hx hrefuse
    obtain ⟨y, hy, hcas⟩ := coefficientRefuse_iff.mp hrefuse
    obtain rfl := Option.some.inj hy
    rcases hcas with rfl | rfl | hpos
    · exact absurd hx hnan
    · exact absurd hx hinf
    · exact hpos

theorem ends_enregistrerMatiere {l : Λ} {id : String} {p : AjoutMatiere}
    (h : Sure p.coefficient) :
    (AjoutMatiere.enregistrerMatiere l id).Ends (faulty S.handler)
      (fun _ _ x => Stored .matieres (AncienOuPositif b) x.1) p (b, f) := by
  unfold AjoutMatiere.enregistrerMatiere
  refine ends_page_bind.mpr ?_
  by_cases hvalide : p.validate = true
  · have haccepte := ((AjoutMatiere.validate_iff p).mp hvalide).2.1
    rw [AjoutMatiere.validateurCoefficient_iff] at haccepte
    obtain ⟨x, hx, -⟩ := coefficientRefuse_iff.mp haccepte
    have hpos : Positif x := h x hx (hx ▸ haccepte)
    have hanalyse : parseDouble (trim p.coefficient) = .ok x :=
      parseDouble_of_some (by rw [Double.tryParse_trim, hx])
    rw [if_pos hvalide, hanalyse]
    refine ends_of_ecrit ?_
    refine .catching (.ofExcept_bind fun y hy => ?_) fun e => trivial
    obtain rfl := Except.ok.inj hy
    exact .bind (issues_ajouterMatiere_positif hpos) fun _ => .bind trivial fun _ => trivial
  · rw [if_neg hvalide]
    refine ends_of_ecrit ?_
    trivial

theorem ends_modifierMatiere {l : Λ} {p : ModificationMatiere} (h : Sure p.coefficient) :
    (ModificationMatiere.modifierMatiere l).Ends (faulty S.handler)
      (fun _ _ x => Stored .matieres (AncienOuPositif b) x.1) p (b, f) := by
  unfold ModificationMatiere.modifierMatiere
  refine ends_page_bind.mpr ?_
  rw [Double.tryParse_trim]
  by_cases hvalide : p.validate = true
  · rw [if_pos hvalide]
    refine ends_of_ecrit ?_
    refine .catching ?_ fun e => trivial
    rcases hx : Double.tryParse p.coefficient with _ | x
    · trivial
    · by_cases hge : (Double.finite 0).ge x = true
      · simp only [if_pos hge]
        trivial
      · simp only [if_neg hge]
        have hpos : Positif x := h x hx (Bool.eq_false_iff.mpr hge)
        exact .bind (issues_modifierMatiere_positif hpos) fun _ => trivial
  · rw [if_neg hvalide]
    refine ends_of_ecrit ?_
    trivial

end Enregistrement

/-! ## The claim of the two forms -/

/-- A text of the coefficient field: a form that passes parses it and stores a good coefficient, and
the forms accept it alike. -/
structure CoefficientSur (s : String) : Prop where
  analyse : AjoutMatiere.validateurCoefficient s = none → ∃ x, parseDouble (trim s) = .ok x
  ajout : ∀ (S : Server) (b : Base) (f : List (Option Err)) (id : String) (p : AjoutMatiere),
    p.coefficient = s → Stored .matieres (AncienOuPositif b)
      ((AjoutMatiere.enregistrerMatiere () id).exec (faulty S.handler) p (b, f)).2.2.1
  modification : ∀ (S : Server) (b : Base) (f : List (Option Err)) (p : ModificationMatiere),
    p.coefficient = s → Stored .matieres (AncienOuPositif b)
      ((ModificationMatiere.modifierMatiere ()).exec (faulty S.handler) p (b, f)).2.2.1
  accord : ∀ t, trim t = trim s → (AjoutMatiere.validateurCoefficient s = none ↔
    ModificationMatiere.validateurCoefficient t = none)

/-- The form of a new subject, filled in with that coefficient. -/
def formulaire (s : String) : AjoutMatiere where
  etablissementId := "e"
  nom := "Nom"
  coefficient := s
  description := "Description"

/-- The subject it creates under the id `m`. -/
def matiereSaisie (x : Double) : MatiereModele where
  id := "m"
  nom := trim "Nom"
  coefficient := x
  description := trim "Description"
  etablissementId := "e"

theorem enregistrerMatiere_formulaire {s : String} {x : Double} (hx : Double.tryParse s = some x)
    (hrefuse : coefficientRefuse (some x) = false) :
    ∃ d, ((AjoutMatiere.enregistrerMatiere () "m").exec (faulty (Server.longest 10).handler)
      (formulaire s) (baseVide, [])).2.2.1.doc .matieres "m" = some d ∧
        d .coefficient = some (.num x) := by
  have hvalide : (formulaire s).validate = true := by
    have haccepte : AjoutMatiere.validateurCoefficient s = none := by
      rw [AjoutMatiere.validateurCoefficient_iff, hx, hrefuse]
    have hne : "Nom" ≠ "" ∧ "Description" ≠ "" := by decide
    exact (AjoutMatiere.validate_iff _).mpr ⟨hne.1, haccepte, hne.2⟩
  have hanalyse : parseDouble (trim s) = .ok x :=
    parseDouble_of_some (by rw [Double.tryParse_trim, hx])
  refine ⟨newDoc 0 (matiereSaisie x).toMap, ?_, rfl⟩
  have hexec : ((AjoutMatiere.enregistrerMatiere () "m").exec (faulty (Server.longest 10).handler)
      (formulaire s) (baseVide, [])).2.2.1 =
      baseVide.putDoc .matieres "m" (newDoc 0 (matiereSaisie x).toMap) := by
    simp only [AjoutMatiere.enregistrerMatiere, bind_eq, page, bind_read, bind_ret, exec_read,
      if_pos hvalide]
    rw [show trim (formulaire s).coefficient = trim s from rfl, hanalyse]
    rfl
  rw [hexec, Data.doc_putDoc, if_pos ⟨rfl, rfl⟩]

/-- A coefficient is safe exactly if it is read neither as NaN nor as the positive infinity. -/
theorem coefficientSur_iff (s : String) : CoefficientSur s ↔
    Double.tryParse s ≠ some .nan ∧ Double.tryParse s ≠ some (.infinity false) := by
  rw [← sure_iff]
  constructor
  · intro h x hx hrefuse
    obtain ⟨d, hd, hcoefficient⟩ := enregistrerMatiere_formulaire hx hrefuse
    rcases h.ajout _ _ _ _ (formulaire s) rfl "m" d hd with hancien | ⟨y, hy, hpos⟩
    · cases hancien
    · rw [hcoefficient] at hy
      cases hy
      exact hpos
  · intro h
    refine ⟨fun haccepte => ?_, ?_, ?_, fun t ht => ?_⟩
    · rw [AjoutMatiere.validateurCoefficient_iff] at haccepte
      obtain ⟨x, hx, -⟩ := coefficientRefuse_iff.mp haccepte
      exact ⟨x, parseDouble_of_some (by rw [Double.tryParse_trim, hx])⟩
    · rintro S b f id p rfl
      exact ends_enregistrerMatiere h
    · rintro S b f p rfl
      exact ends_modifierMatiere h
    · rw [AjoutMatiere.validateurCoefficient_iff, ModificationMatiere.validateurCoefficient_iff,
        ← Double.tryParse_trim s, ← ht, Double.tryParse_trim]

/-- `NaN` passes the validators and is stored. -/
theorem not_coefficientSur_nan : ¬ CoefficientSur "NaN" := by
  intro h
  have hx : Double.tryParse "NaN" = some .nan := by decide +kernel
  obtain ⟨d, hd, hcoefficient⟩ := enregistrerMatiere_formulaire hx (by decide)
  rcases h.ajout _ _ _ _ (formulaire "NaN") rfl "m" d hd with hancien | ⟨y, hy, q, hq, -⟩
  · cases hancien
  · rw [hcoefficient] at hy
    cases hy
    cases hq

end EduConnect.Admin
