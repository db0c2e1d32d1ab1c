import Mathlib.Data.List.TakeWhile
import EduConnect.Lib.Motif
import EduConnect.Admin.Edition
import EduConnect.SuperAdmin.Comptes

/-!
# Email validators

A teacher or an administrator is created with `^[^@]+@[^@]+\.[^@]+$`.  The two edit forms and the
form of a super administrator leave out the `$`: an address followed by a second `@` passes them.
-/

namespace EduConnect.Admin

open Lib Motif

/-! ## Addresses -/

/-- Exactly one `@`, a non-empty part before it, and after it a dot that is neither the first nor
the last character. -/
def Adresse (l : List Char) : Prop :=
  l.count '@' = 1 ∧ ∃ nom avant apres, l = nom ++ '@' :: (avant ++ '.' :: apres) ∧
    nom ≠ [] ∧ avant ≠ [] ∧ apres ≠ []

/-- `[^@]+@[^@]+\.[^@]+`. -/
def motifEmail : Language Char :=
  plus (· ≠ '@') * un (· = '@') * plus (· ≠ '@') * un (· = '.') * plus (· ≠ '@')

namespace Adresse

/-- The three parts hold no other `@`. -/
theorem parts {l : List Char} (h : Adresse l) :
    ∃ nom avant apres, l = nom ++ '@' :: (avant ++ '.' :: apres) ∧
      (nom ≠ [] ∧ '@' ∉ nom) ∧ (avant ≠ [] ∧ '@' ∉ avant) ∧ apres ≠ [] ∧ '@' ∉ apres := by
  obtain ⟨hun, nom, avant, apres, rfl, hnom, havant, hapres⟩ := h
  have hcount : nom.count '@' + avant.count '@' + apres.count '@' = 0 := by
    rw [List.count_append, List.count_cons_self, List.count_append,
      List.count_cons_of_ne (by decide)] at hun
    omega
  have hzero : nom.count '@' = 0 ∧ avant.count '@' = 0 ∧ apres.count '@' = 0 := by omega
  refine ⟨nom, avant, apres, rfl, ⟨hnom, ?_⟩, ⟨havant, ?_⟩, hapres, ?_⟩
  · exact List.count_eq_zero.mp hzero.1
  · exact List.count_eq_zero.mp hzero.2.1
  · exact List.count_eq_zero.mp hzero.2.2

theorem of_parts {nom avant apres : List Char} (hnom : nom ≠ [] ∧ '@' ∉ nom)
    (havant : avant ≠ [] ∧ '@' ∉ avant) (hapres : apres ≠ [] ∧ '@' ∉ apres) :
    Adresse (nom ++ '@' :: (avant ++ '.' :: apres)) := by
  refine ⟨?_, nom, avant, apres, rfl, hnom.1, havant.1, hapres.1⟩
  rw [List.count_append, List.count_cons_self, List.count_append,
    List.count_cons_of_ne (by decide), List.count_eq_zero.mpr hnom.2,
    List.count_eq_zero.mpr havant.2, List.count_eq_zero.mpr hapres.2]

/-- A text without `@` may follow an address. -/
theorem append {l m : List Char} (h : Adresse l) (hm : '@' ∉ m) : Adresse (l ++ m) := by
  obtain ⟨nom, avant, apres, rfl, hnom, havant, hapres⟩ := h.parts
  have hsuite : '@' ∉ apres ++ m := by
    rw [List.mem_append]
    exact fun hmem => hmem.elim hapres.2 hm
  have h' := of_parts hnom havant ⟨List.append_ne_nil_of_left_ne_nil hapres.1 m, hsuite⟩
  rwa [show nom ++ '@' :: (avant ++ '.' :: (apres ++ m)) =
    nom ++ '@' :: (avant ++ '.' :: apres) ++ m by simp] at h'

end Adresse

/-- The pattern matches the addresses. -/
theorem mem_motifEmail {l : List Char} : l ∈ motifEmail ↔ Adresse l := by
  have hne (m : List Char) : (∀ c ∈ m, c ≠ '@') ↔ '@' ∉ m :=
    ⟨fun h hm => h _ hm rfl, fun h c hc heq => h (heq ▸ hc)⟩
  simp only [motifEmail, Language.mem_mul, mem_plus, mem_un_eq, hne]
  constructor
  · rintro ⟨_, ⟨_, ⟨_, ⟨nom, hnom, _, rfl, rfl⟩, avant, havant, rfl⟩, _, rfl, rfl⟩, apres, hapres,
      rfl⟩
    have h := Adresse.of_parts hnom havant hapres
    rwa [show nom ++ '@' :: (avant ++ '.' :: apres) = nom ++ ['@'] ++ avant ++ ['.'] ++ apres
      by simp] at h
  · intro h
    obtain ⟨nom, avant, apres, rfl, hnom, havant, hapres⟩ := h.parts
    refine ⟨_, ⟨_, ⟨_, ⟨nom, hnom, _, rfl, rfl⟩, avant, havant, rfl⟩, _, rfl, rfl⟩, apres, hapres,
      ?_⟩
    simp

/-! ## What the tests of the forms match -/

theorem separerEmail_append {nom : List Char} (h : '@' ∉ nom) (reste : List Char) :
    separerEmail (nom ++ '@' :: reste) = (nom, reste) := by
  have hnom : ∀ c ∈ nom, decide (c ≠ '@') = true := by
    intro c hc
    exact decide_eq_true fun heq => h (heq ▸ hc)
  simp only [separerEmail, List.takeWhile_append_of_pos hnom, List.dropWhile_append_of_pos hnom]
  simp

/-- A text with something after its first `@`, cut there. -/
theorem exists_of_separerEmail {l : List Char} (h : (separerEmail l).2 ≠ []) :
    ∃ nom reste, l = nom ++ '@' :: reste ∧ '@' ∉ nom ∧ separerEmail l = (nom, reste) := by
  by_cases hl : '@' ∈ l
  · obtain ⟨nom, reste, rfl, hnom⟩ := List.eq_append_cons_of_mem hl
    exact ⟨nom, reste, rfl, hnom, separerEmail_append hnom reste⟩
  · have hdrop : l.dropWhile (· ≠ '@') = [] := by
      rw [List.dropWhile_eq_nil_iff]
      intro c hc
      exact decide_eq_true fun heq => hl (heq ▸ hc)
    exact absurd (by rw [separerEmail, hdrop]; rfl) h

/-- A character that is neither the first nor the last. -/
theorem mem_tail_dropLast {c : Char} {l : List Char} :
    c ∈ l.tail.dropLast ↔ ∃ avant apres, l = avant ++ c :: apres ∧ avant ≠ [] ∧ apres ≠ [] := by
  constructor
  · intro h
    obtain ⟨u, v, huv⟩ := List.append_of_mem h
    have htail : l.tail ≠ [] := by
      intro hnil
      rw [hnil] at h
      exact List.not_mem_nil h
    have hne : l ≠ [] := fun hnil => htail (by rw [hnil]; rfl)
    refine ⟨l.head hne :: u, v ++ [l.tail.getLast htail], ?_, List.cons_ne_nil _ _, by simp⟩
    calc l = l.head hne :: l.tail := (List.cons_head_tail hne).symm
      _ = l.head hne :: (l.tail.dropLast ++ [l.tail.getLast htail]) := by
        rw [List.dropLast_append_getLast]
      _ = l.head hne :: u ++ c :: (v ++ [l.tail.getLast htail]) := by rw [huv]; simp
  · rintro ⟨avant, apres, rfl, havant, hapres⟩
    obtain ⟨d, u, rfl⟩ := List.exists_cons_of_ne_nil havant
    rw [List.cons_append, List.tail_cons, List.dropLast_append_of_ne_nil (List.cons_ne_nil _ _),
      List.dropLast_cons_of_ne_nil hapres]
    exact List.mem_append_right u List.mem_cons_self

theorem not_mem_takeWhile (l : List Char) : '@' ∉ l.takeWhile (· ≠ '@') := by
  intro h
  have hne := List.mem_takeWhile_imp h
  simp at hne

/-- The test without `$` looks for the pattern at the start of the text. -/
theorem debuteParEmail_iff (s : String) :
    debuteParEmail s = true ↔ Debute motifEmail s.toList := by
  simp only [debuteParEmail, Bool.and_eq_true, decide_eq_true_eq, Debute, mem_motifEmail]
  constructor
  · rintro ⟨hnom, hpoint⟩
    have hreste : (separerEmail s.toList).2 ≠ [] := by
      intro hnil
      simp [hnil] at hpoint
    obtain ⟨nom, reste, hs, hnon, hsep⟩ := exists_of_separerEmail hreste
    rw [hsep] at hnom hpoint
    obtain ⟨avant, apres, hd, havant, hapres⟩ := mem_tail_dropLast.mp hpoint
    have hsans := not_mem_takeWhile reste
    rw [hd, List.mem_append, List.mem_cons] at hsans
    push Not at hsans
    refine ⟨_, reste.dropWhile (· ≠ '@'), ?_,
      Adresse.of_parts ⟨hnom, hnon⟩ ⟨havant, hsans.1⟩ ⟨hapres, hsans.2.2⟩⟩
    rw [List.append_assoc, List.cons_append, ← hd, List.takeWhile_append_dropWhile, hs]
  · rintro ⟨u, v, hs, hu⟩
    obtain ⟨nom, avant, apres, rfl, hnom, havant, hapres⟩ := hu.parts
    have hd : '@' ∉ avant ++ '.' :: apres := by
      simp [havant.2, hapres.2]
    rw [hs, List.append_assoc, List.cons_append, separerEmail_append hnom.2]
    refine ⟨hnom.1, mem_tail_dropLast.mpr ⟨avant, apres ++ v.takeWhile (· ≠ '@'), ?_, havant.1, ?_⟩⟩
    · have hpos : ∀ c ∈ avant ++ '.' :: apres, decide (c ≠ '@') = true := by
        intro c hc
        exact decide_eq_true fun heq => hd (heq ▸ hc)
      rw [List.takeWhile_append_of_pos hpos]
      simp
    · exact List.append_ne_nil_of_left_ne_nil hapres.1 _

/-- The test with `$` looks for the pattern in the whole text. -/
theorem estEmail_iff (s : String) : estEmail s = true ↔ s.toList ∈ motifEmail := by
  rw [mem_motifEmail, estEmail, Bool.and_eq_true, debuteParEmail_iff, decide_eq_true_eq]
  constructor
  · rintro ⟨⟨u, v, hs, hu⟩, hreste⟩
    obtain ⟨nom, avant, apres, rfl, hnom, -, -⟩ := (mem_motifEmail.mp hu).parts
    rw [hs, List.append_assoc, List.cons_append, separerEmail_append hnom.2] at hreste
    rw [hs]
    exact (mem_motifEmail.mp hu).append fun hv => hreste (List.mem_append_right _ hv)
  · intro h
    refine ⟨⟨s.toList, [], (List.append_nil _).symm, mem_motifEmail.mpr h⟩, ?_⟩
    obtain ⟨nom, avant, apres, hs, hnom, havant, hapres⟩ := h.parts
    rw [hs, separerEmail_append hnom.2]
    simp [havant.2, hapres.2]

/-- Only a second `@` after an address tells the two tests apart. -/
theorem debute_iff_mem_motifEmail {l : List Char}
    (h : ¬ ∃ u v, l = u ++ '@' :: v ∧ Adresse u) : Debute motifEmail l ↔ l ∈ motifEmail := by
  simp only [Debute, mem_motifEmail]
  constructor
  · rintro ⟨u, v, rfl, hu⟩
    by_cases hv : '@' ∈ v
    · obtain ⟨v₁, v₂, rfl, hv₁⟩ := List.eq_append_cons_of_mem hv
      exact absurd ⟨u ++ v₁, v₂, by simp, hu.append hv₁⟩ h
    · exact hu.append hv
  · exact fun hl => ⟨l, [], (List.append_nil l).symm, hl⟩

/-! ## The validators -/

/-- The email validator of `AjoutEnseignantVue`, and of `AjoutAdministrateurVue`. -/
def Saisie.validateurEmail (val : String) : Option String :=
  if val = "" then some "Champ requis"
  else if !estEmail val then some "Email invalide"
  else none

/-- The email validator of `ModifierEnseignant` and of `ModifierAdministrateur`. -/
def ModificationUtilisateur.validateurEmail (value : String) : Option String :=
  if trim value = "" then some "Champ requis"
  else if debuteParEmail (trim value) then none
  else some "Email invalide"

end EduConnect.Admin

namespace EduConnect.SuperAdmin

open Lib Motif Admin

/-- The email validator of `AjoutSuperAdministrateurVue`. -/
def AjoutSuperAdministrateur.validateurEmail (val : String) : Option String :=
  if val = "" then some "Champ requis"
  else if !debuteParEmail val then some "Email invalide"
  else none

theorem validateurEmail_saisie_iff (val : String) :
    Saisie.validateurEmail val = none ↔ val ≠ "" ∧ estEmail val = true := by
  rw [Saisie.validateurEmail]
  split_ifs <;> simp_all

theorem validateurEmail_edition_iff (value : String) :
    ModificationUtilisateur.validateurEmail value = none ↔
      trim value ≠ "" ∧ debuteParEmail (trim value) = true := by
  rw [ModificationUtilisateur.validateurEmail]
  split_ifs <;> simp_all

theorem validateurEmail_superAdmin_iff (val : String) :
    AjoutSuperAdministrateur.validateurEmail val = none ↔ val ≠ "" ∧ debuteParEmail val = true := by
  rw [AjoutSuperAdministrateur.validateurEmail]
  split_ifs <;> simp_all

/-! The forms pass when this validator and those of the other fields do. -/

theorem controle_iff (s : Saisie) :
    s.controle = true ↔ Saisie.validateurEmail s.email = none ∧
      (∀ t ∈ [s.nom, s.prenom, s.adresse, s.motDePasse], t ≠ "") ∧ trim s.telephone ≠ "" ∧
        estTelephone s.telephone = true ∧ 6 ≤ utf16Length s.motDePasse := by
  rw [validateurEmail_saisie_iff]
  simp only [Saisie.controle, Bool.and_eq_true, List.all_cons, List.all_nil, decide_eq_true_eq,
    List.forall_mem_cons]
  constructor
  · rintro ⟨⟨⟨⟨⟨hnom, hprenom, hemail, hadresse, hmdp, -⟩, hmotif⟩, htrim⟩, htelephone⟩, hlong⟩
    exact ⟨⟨hemail, hmotif⟩, ⟨hnom, hprenom, hadresse, hmdp, by simp⟩, htrim, htelephone, hlong⟩
  · rintro ⟨⟨hemail, hmotif⟩, ⟨hnom, hprenom, hadresse, hmdp, -⟩, htrim, htelephone, hlong⟩
    exact ⟨⟨⟨⟨⟨hnom, hprenom, hemail, hadresse, hmdp, trivial⟩, hmotif⟩, htrim⟩, htelephone⟩, hlong⟩

theorem validate_iff (p : ModificationUtilisateur) :
    p.validate = true ↔ ModificationUtilisateur.validateurEmail p.email = none ∧
      ∀ t ∈ [p.nom, p.prenom, p.telephone], trim t ≠ "" := by
  rw [validateurEmail_edition_iff]
  simp only [ModificationUtilisateur.validate, Bool.and_eq_true, List.all_cons, List.all_nil,
    decide_eq_true_eq, List.forall_mem_cons]
  constructor
  · rintro ⟨⟨hnom, hprenom, hemail, htelephone, -⟩, hmotif⟩
    exact ⟨⟨hemail, hmotif⟩, hnom, hprenom, htelephone, by simp⟩
  · rintro ⟨⟨hemail, hmotif⟩, hnom, hprenom, htelephone, -⟩
    exact ⟨⟨hnom, hprenom, hemail, htelephone, trivial⟩, hmotif⟩

theorem validate_superAdmin_iff (p : AjoutSuperAdministrateur) :
    p.validate = true ↔ AjoutSuperAdministrateur.validateurEmail p.email = none ∧
      (∀ t ∈ [p.nom, p.prenom, p.telephone, p.adresse, p.motDePasse], t ≠ "") ∧
        6 ≤ utf16Length p.motDePasse := by
  rw [validateurEmail_superAdmin_iff]
  simp only [AjoutSuperAdministrateur.validate, Bool.and_eq_true, List.all_cons, List.all_nil,
    decide_eq_true_eq, List.forall_mem_cons]
  tauto

/-! ## One condition for the four forms -/

/-- The four validators accept the text when it is an address, and an edit that saves it as the
email saves one that creation accepts. -/
structure EmailsAccordes (s : String) : Prop where
  enseignant : Saisie.validateurEmail s = none ↔ Adresse s.toList
  edition : ModificationUtilisateur.validateurEmail s = none ↔ Adresse s.toList
  superAdmin : AjoutSuperAdministrateur.validateurEmail s = none ↔ Adresse s.toList
  enregistre : ∀ p : ModificationUtilisateur, p.validate = true → p.modifie.email = s →
    Saisie.validateurEmail s = none

theorem ne_empty_of_debute {s : String} (h : Debute motifEmail s.toList) : s ≠ "" := by
  rintro rfl
  obtain ⟨u, v, huv, hu⟩ := h
  obtain ⟨nom, avant, apres, rfl, -⟩ := (mem_motifEmail.mp hu).parts
  simp at huv

/-- Creation matches the whole text. -/
theorem saisie_iff_adresse (s : String) :
    Saisie.validateurEmail s = none ↔ Adresse s.toList := by
  rw [validateurEmail_saisie_iff, estEmail_iff, mem_motifEmail, and_iff_right_iff_imp]
  exact fun h => ne_empty_of_debute ⟨s.toList, [], (List.append_nil _).symm, mem_motifEmail.mpr h⟩

/-- The other forms match the start of the text. -/
theorem superAdmin_iff_debute (s : String) :
    AjoutSuperAdministrateur.validateurEmail s = none ↔ Debute motifEmail s.toList := by
  rw [validateurEmail_superAdmin_iff, debuteParEmail_iff, and_iff_right_iff_imp]
  exact ne_empty_of_debute

theorem edition_iff_debute (s : String) :
    ModificationUtilisateur.validateurEmail s = none ↔ Debute motifEmail (trim s).toList := by
  rw [validateurEmail_edition_iff, debuteParEmail_iff, and_iff_right_iff_imp]
  exact ne_empty_of_debute

/-- The forms agree on a text unless an address followed by another `@` starts it. -/
theorem emailsAccordes_iff {s : String} (h : trim s = s) :
    EmailsAccordes s ↔ ¬ ∃ u v, s.toList = u ++ '@' :: v ∧ Adresse u := by
  constructor
  · rintro hs ⟨u, v, huv, hu⟩
    have hdebute : Debute motifEmail s.toList := ⟨u, '@' :: v, huv, mem_motifEmail.mpr hu⟩
    have hs' : Adresse s.toList := hs.superAdmin.mp ((superAdmin_iff_debute s).mpr hdebute)
    have hun := hs'.1
    rw [huv, List.count_append, List.count_cons_self, hu.1] at hun
    omega
  · intro hsuite
    have hdebute : Debute motifEmail s.toList ↔ Adresse s.toList := by
      rw [debute_iff_mem_motifEmail hsuite, mem_motifEmail]
    have hedition : ModificationUtilisateur.validateurEmail s = none ↔ Adresse s.toList := by
      rw [edition_iff_debute, h, hdebute]
    refine ⟨saisie_iff_adresse s, hedition, by rw [superAdmin_iff_debute, hdebute], ?_⟩
    intro p hp hps
    have hemail : trim p.email = s := hps
    have haccepte := (edition_iff_debute p.email).mp ((validate_iff p).mp hp).1
    rw [hemail, hdebute] at haccepte
    exact (saisie_iff_adresse s).mpr haccepte

/-- An ordinary address. -/
theorem emailsAccordes_ordinaire : EmailsAccordes "a@b.c" := by
  have hsuite : ¬ ∃ u v, "a@b.c".toList = u ++ '@' :: v ∧ Adresse u := by
    rintro ⟨u, v, huv, hu⟩
    have hun := congrArg (List.count '@') huv
    rw [List.count_append, List.count_cons_self, hu.1] at hun
    have hcount : "a@b.c".toList.count '@' = 1 := by decide
    omega
  exact (emailsAccordes_iff (by decide +kernel)).mpr hsuite

/-- A second `@` after the address: refused by creation, accepted by the other forms. -/
theorem not_emailsAccordes_suivi : trim "a@b.c@d" = "a@b.c@d" ∧ ¬ EmailsAccordes "a@b.c@d" := by
  refine ⟨by decide +kernel, fun h => ?_⟩
  have hadresse := h.superAdmin.mp (by decide +kernel)
  have hcount : "a@b.c@d".toList.count '@' = 2 := by decide
  have hun := hadresse.1
  omega

end EduConnect.SuperAdmin
