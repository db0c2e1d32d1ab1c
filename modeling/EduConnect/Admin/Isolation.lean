import EduConnect.Admin.Controleurs

/-!
# The controllers and the other establishments

Which calls of the controllers of an establishment leave the classes and subjects of the others
alone.
-/

namespace EduConnect.Admin

open Lib Prog

/-- The document belongs to the establishment. -/
def Appartient (etablissementId : String) (d : Document) : Prop :=
  (d .etablissementId).bind Value.scalar = some (.str etablissementId)

instance (etablissementId : String) (d : Document) : Decidable (Appartient etablissementId d) :=
  inferInstanceAs (Decidable (_ = _))

/-- The classes and subjects that do not belong to the establishment are the same before and
after: none is changed, and none is made. -/
def Isole (etablissementId : String) (b b' : Base) : Prop :=
  ∀ c, c = .classes ∨ c = .matieres → ∀ id d, ¬Appartient etablissementId d →
    (b'.doc c id = some d ↔ b.doc c id = some d)

section Isolation

variable {E : String} {b : Base} {c : Collection} {id : String} {d d' : Document}

theorem Isole.refl (E : String) (b : Base) : Isole E b b := fun _ _ _ _ _ => Iff.rfl

theorem Isole.trans {b' b'' : Base} (h : Isole E b b') (h' : Isole E b' b'') : Isole E b b'' :=
  fun c hc id d hd => (h' c hc id d hd).trans (h c hc id d hd)

/-- A document of the establishment replaces one of its own, or none. -/
theorem isole_putDoc (h : ∀ d, b.doc c id = some d → Appartient E d) (hd' : Appartient E d') :
    Isole E b (b.putDoc c id d') := by
  intro c' _ id' d hd
  rw [Data.doc_putDoc]
  by_cases hk : c' = c ∧ id' = id
  · obtain ⟨rfl, rfl⟩ := hk
    rw [if_pos ⟨rfl, rfl⟩]
    constructor
    · intro heq
      exact absurd (Option.some.inj heq ▸ hd') hd
    · intro heq
      exact absurd (h d heq) hd
  · rw [if_neg hk]

theorem isole_eraseDoc (h : ∀ d, b.doc c id = some d → Appartient E d) :
    Isole E b (b.eraseDoc c id) := by
  intro c' _ id' d hd
  rw [Data.doc_eraseDoc]
  by_cases hk : c' = c ∧ id' = id
  · obtain ⟨rfl, rfl⟩ := hk
    rw [if_pos ⟨rfl, rfl⟩]
    constructor
    · intro heq
      cases heq
    · intro heq
      exact absurd (h d heq) hd
  · rw [if_neg hk]

/-- Under an id that is taken, only an own document may be replaced. -/
theorem isole_putDoc_iff_of_appartient (hc : c = .classes ∨ c = .matieres)
    (hd' : Appartient E d') :
    Isole E b (b.putDoc c id d') ↔ ∀ d, b.doc c id = some d → Appartient E d := by
  constructor
  · intro h d hd
    by_contra hother
    have hafter := (h c hc id d hother).mpr hd
    rw [Data.doc_putDoc, if_pos ⟨rfl, rfl⟩] at hafter
    exact hother (Option.some.inj hafter ▸ hd')
  · exact fun h => isole_putDoc h hd'

/-- An own document may only be replaced by an own one. -/
theorem isole_putDoc_iff (hc : c = .classes ∨ c = .matieres) (hd : b.doc c id = some d)
    (hown : Appartient E d) : Isole E b (b.putDoc c id d') ↔ Appartient E d' := by
  constructor
  · intro h
    by_contra hother
    have hbefore := (h c hc id d' hother).mp (by rw [Data.doc_putDoc, if_pos ⟨rfl, rfl⟩])
    rw [hd] at hbefore
    exact hother (Option.some.inj hbefore ▸ hown)
  · intro hd'
    refine isole_putDoc (fun d₁ hd₁ => ?_) hd'
    rw [hd] at hd₁
    exact Option.some.inj hd₁ ▸ hown

/-- A write that does not name the establishment keeps it. -/
theorem appartient_writeFields {now : ℤ} {fs : Champs} (hfs : .etablissementId ∉ fs.map Prod.fst)
    (hd : Appartient E d) : Appartient E (writeFields now d fs) := by
  unfold Appartient
  rw [writeFields_of_not_mem hfs]
  exact hd

end Isolation

/-! ## The programs -/

section Programmes

variable {Λ σ : Type} {S : Server} {l : Λ} {E : String} {s : σ} {b : Base} {c : Collection}
  {id : String} {f : List (Option Err)}

/-- The data at the end, whatever the outcome. -/
abbrev Finit {α : Type} (S : Server) (P : Base → Prop) (p : Action Λ σ α) (s : σ) (b : Base)
    (f : List (Option Err)) : Prop :=
  p.Ends (faulty S.handler) (fun _ _ x => P x.1) s (b, f)

theorem finit_lecture {α : Type} {P : Base → Prop} {contexte : String} {p : Action Λ σ α} :
    Finit S P (lecture contexte p) s b f ↔ Finit S P p s b f :=
  ends_rethrow (P := fun x : Base × List (Option Err) => P x.1)

/-- The condition of `siConnecte`, as the source tests it. -/
def Autorise (E : String) (b : Base) (c : Collection) (id : String) (f : List (Option Err)) :
    Prop :=
  id ≠ "" ∧ nextFault f = none ∧ ∃ d, b.doc c id = some d ∧ Appartient E d

/-- An operation that is allowed takes place. -/
theorem finit_siConnecte_of {P : Base → Prop} {introuvable refus contexte : String}
    {op : Action Λ σ Unit} (ha : Autorise E b c id f) :
    Finit S P (siConnecte l c introuvable E id refus contexte op) s b f ↔
      Finit S P op s b f.tail := by
  obtain ⟨hid, hf, d, hd, hown⟩ := ha
  refine (ends_rethrow (P := fun x : Base × List (Option Err) => P x.1)).trans ?_
  simp only [bind_eq, ends_bind, lireDoc, if_neg hid]
  refine ends_lire_pannes.trans ((perduOuServi_of_none hf).trans ?_)
  have hown' : (d .etablissementId).bind Value.scalar = some (.str E) := hown
  simp only [hd, if_pos hown']

/-- One that is not changes nothing. -/
theorem finit_siConnecte_of_not {P : Base → Prop} {introuvable refus contexte : String}
    {op : Action Λ σ Unit} (ha : ¬Autorise E b c id f) :
    Finit S P (siConnecte l c introuvable E id refus contexte op) s b f ↔ P b := by
  refine (ends_rethrow (P := fun x : Base × List (Option Err) => P x.1)).trans ?_
  simp only [bind_eq, ends_bind, lireDoc]
  by_cases hid : id = ""
  · rw [if_pos hid]
    exact Iff.rfl
  rw [if_neg hid]
  refine ends_lire_pannes.trans ?_
  rcases hf : nextFault f with _ | e
  · refine (perduOuServi_of_none hf).trans ?_
    rcases hd : b.doc c id with _ | d
    · exact Iff.rfl
    · have hother : ¬(d .etablissementId).bind Value.scalar = some (.str E) :=
        fun hown => ha ⟨hid, hf, d, hd, hown⟩
      simp only [if_neg hother]
      exact Iff.rfl
  · exact perduOuServi_of_some hf

theorem finit_siConnecte {P : Base → Prop} {introuvable refus contexte : String}
    {op : Action Λ σ Unit} (h : Autorise E b c id f → Finit S P op s b f.tail) (hb : P b) :
    Finit S P (siConnecte l c introuvable E id refus contexte op) s b f := by
  by_cases ha : Autorise E b c id f
  · exact (finit_siConnecte_of ha).mpr (h ha)
  · exact (finit_siConnecte_of_not ha).mpr hb

/-- An update of an existing document. -/
theorem finit_update {P : Base → Prop} {d : Document} (hd : b.doc c id = some d) {fs : Champs} :
    Finit S P (ecrire l (.update c id fs)) s b f ↔ (nextFault f ≠ none → P b) ∧
      (nextFault f = none → P (b.putDoc c id (writeFields b.clock d fs))) := by
  refine (ends_update_pannes hd).trans ?_
  unfold PerduOuServi
  rcases nextFault f with _ | e <;> simp

theorem finit_delete {P : Base → Prop} : Finit S P (ecrire l (.delete c id) : Action Λ σ Unit) s b f ↔
    (nextFault f ≠ none → P b) ∧ (nextFault f = none → P (b.eraseDoc c id)) := by
  refine ends_delete_pannes.trans ?_
  unfold PerduOuServi
  rcases nextFault f with _ | e <;> simp

/-- Any update by a controller that does not name the establishment is isolated. -/
theorem isole_update {l' : Λ} {introuvable refus contexte : String} {fs : Champs}
    (hfs : .etablissementId ∉ fs.map Prod.fst) :
    Finit S (Isole E b) (siConnecte l c introuvable E id refus contexte
      (ecrire l' (.update c id fs)) : Action Λ σ Unit) s b f := by
  refine finit_siConnecte ?_ (.refl E b)
  rintro ⟨-, -, d, hd, hown⟩
  refine (finit_update hd).mpr ⟨fun _ => .refl E b, fun _ => ?_⟩
  refine isole_putDoc (fun d₁ hd₁ => ?_) (appartient_writeFields hfs hown)
  rw [hd] at hd₁
  exact Option.some.inj hd₁ ▸ hown

theorem isole_delete {l' : Λ} {introuvable refus contexte : String} :
    Finit S (Isole E b) (siConnecte l c introuvable E id refus contexte
      (ecrire l' (.delete c id)) : Action Λ σ Unit) s b f := by
  refine finit_siConnecte ?_ (.refl E b)
  rintro ⟨-, -, d, hd, hown⟩
  refine finit_delete.mpr ⟨fun _ => .refl E b, fun _ => isole_eraseDoc fun d₁ hd₁ => ?_⟩
  rw [hd] at hd₁
  exact Option.some.inj hd₁ ▸ hown

/-- A creation is isolated exactly if it is refused, lost or made under an id that is free or of an
own document. -/
theorem isole_poserDoc_iff {contexte : String} {fs : Champs} (hc : c = .classes ∨ c = .matieres)
    (hfs : Appartient E (newDoc b.clock fs)) :
    Finit S (Isole E b) (lecture contexte (poserDoc l c id fs) : Action Λ σ Unit) s b f ↔
      id = "" ∨ nextFault f ≠ none ∨ ∀ d, b.doc c id = some d → Appartient E d := by
  rw [finit_lecture]
  unfold poserDoc
  by_cases hid : id = ""
  · rw [if_pos hid]
    exact iff_of_true (Isole.refl E b) (Or.inl hid)
  · rw [if_neg hid]
    refine ends_set_pannes.trans ?_
    unfold PerduOuServi
    rcases nextFault f with _ | e
    · have hput : Isole E b (b.putDoc c id (newDoc b.clock fs)) ↔ _ :=
        isole_putDoc_iff_of_appartient hc hfs
      simp [hput, hid]
    · simp [Isole.refl]

/-- The deletion of all subjects meets only subjects of its own. -/
theorem isole_supprimerDocs (docs : List (String × Document)) {b₀ : Base} (h₀ : Isole E b₀ b)
    (h : ∀ a ∈ docs, ∀ d, b.doc .matieres a.1 = some d → Appartient E d) :
    Finit S (Isole E b₀) (MatiereController.supprimerDocs l docs : Action Λ σ Unit) s b f := by
  induction docs generalizing b f with
  | nil => exact h₀
  | cons a docs ih =>
    simp only [MatiereController.supprimerDocs, bind_eq]
    refine ends_bind.mpr (ends_delete_pannes.mpr ⟨fun _ _ => h₀, fun _ => ?_⟩)
    show Finit S (Isole E b₀) (MatiereController.supprimerDocs l docs) s (b.eraseDoc .matieres a.1)
      f.tail
    have hfirst : Isole E b (b.eraseDoc .matieres a.1) :=
      isole_eraseDoc (h a List.mem_cons_self)
    refine ih (h₀.trans hfirst) fun a' ha' d hd => ?_
    rw [Data.doc_eraseDoc] at hd
    split_ifs at hd
    exact h a' (List.mem_cons_of_mem _ ha') d hd

end Programmes

/-! ## Calls -/

/-- The calls that stay within the establishment. -/
def Permis (E : String) (b : Base) : AppelControleur × List (Option Err) → Prop
  | (.ajouterClasse classe, f) => classe.id = "" ∨ nextFault f ≠ none ∨
    ∀ d, b.doc .classes classe.id = some d → Appartient E d
  | (.ajouterMatiere matiere, f) => matiere.id = "" ∨ nextFault f ≠ none ∨
    ∀ d, b.doc .matieres matiere.id = some d → Appartient E d
  | (.modifierMatiere matiere, f) => matiere.etablissementId = E ∨
    ¬Autorise E b .matieres matiere.id f ∨ nextFault f.tail ≠ none
  | _ => True

theorem lecture_lireConnecte {Λ σ α : Type} {l : Λ} {E contexte : String} {c : Collection}
    {id : String} {decode : Document → Except Err α} :
    (lecture contexte (lireConnecte l E c id decode) : Action Λ σ _).Issues
      fun _ r => Lecture r := by
  refine Issues.catching (Issues.bind (issues_lireDoc trivial) fun doc => ?_) fun _ => trivial
  rcases doc with _ | data
  · trivial
  · exact Issues.ite (Issues.bind (issues_ofExcept _) fun _ => trivial) trivial

theorem lecture_chercher {Λ σ α : Type} {l : Λ} {contexte : String} {c : Collection}
    {fs : List (Lib.Filter Champ)} {decode : List (String × Document) → Except Err α} :
    (lecture contexte (do
      let docs ← chercher l c fs
      ofExcept (decode docs)) : Action Λ σ α).Issues fun _ r => Lecture r :=
  Issues.catching (Issues.bind ((issues_chercher ..).mpr trivial) fun _ => issues_ofExcept _)
    fun _ => trivial

/-- An edit of a subject is isolated exactly if it keeps the establishment, or does not happen. -/
theorem isole_modifierMatiere_iff {S : Server} {E : String} {b : Base} {matiere : MatiereModele}
    {f : List (Option Err)} :
    Finit S (Isole E b) (MatiereController.modifierMatiere .autre E matiere :
      Action Etape Unit Unit) () b f ↔ Permis E b (.modifierMatiere matiere, f) := by
  show _ ↔ matiere.etablissementId = E ∨ ¬Autorise E b .matieres matiere.id f ∨ nextFault f.tail ≠ none
  by_cases ha : Autorise E b .matieres matiere.id f
  · refine (finit_siConnecte_of ha).trans ?_
    obtain ⟨d, hd, hown⟩ := ha.2.2
    have hown' : Appartient E (writeFields b.clock d matiere.toMap) ↔ matiere.etablissementId = E := by
      show some (Value.Scalar.str matiere.etablissementId) = some (.str E) ↔ _
      simp
    have hput : Isole E b (b.putDoc .matieres matiere.id (writeFields b.clock d matiere.toMap)) ↔
        matiere.etablissementId = E :=
      (isole_putDoc_iff (Or.inr rfl) hd hown).trans hown'
    rw [finit_update hd, hput]
    rcases nextFault f.tail with _ | e
    · simp [ha]
    · simp [Isole.refl]
  · refine (finit_siConnecte_of_not ha).trans ?_
    exact iff_of_true (.refl E b) (Or.inr (Or.inl ha))

/-- **Step.**  A call leaves the other establishments alone exactly if it is permitted. -/
theorem isole_apresAppel_iff (S : Server) (E : String) (b : Base)
    (a : AppelControleur × List (Option Err)) :
    Isole E b (apresAppel S E b a) ↔ Permis E b a := by
  obtain ⟨a, f⟩ := a
  have hread : ∀ {α : Type} {p : Action Etape Unit α}, p.Issues (fun _ r => Lecture r) →
      Finit S (Isole E b) (p.bind fun _ => ret ()) () b f := by
    intro α p hp
    refine Ends.mono (ends_pannes_of_lecture (Issues.bind hp fun _ => trivial)) fun _ _ x hx => ?_
    rw [show x.1 = b from hx]
    exact .refl E b
  show Finit S (Isole E b) (a.action E) () b f ↔ Permis E b (a, f)
  rcases a with classe | _ | id | id | ⟨c, e⟩ | ⟨c, e⟩ | ⟨c, m⟩ | ⟨c, m⟩ | ⟨c, t⟩ | ⟨c, t⟩ |
    ⟨c, nom, niveau⟩ | matiere | _ | id | matiere | id | _
  case ajouterClasse => exact isole_poserDoc_iff (Or.inl rfl) rfl
  case ajouterMatiere => exact isole_poserDoc_iff (Or.inr rfl) rfl
  case modifierMatiere => exact isole_modifierMatiere_iff
  all_goals refine iff_of_true ?_ trivial
  case getToutesLesClasses => exact hread lecture_chercher
  case getClasseParId => exact hread lecture_lireConnecte
  case supprimerClasse => exact isole_delete
  case ajouterEleve => exact isole_update (by simp)
  case supprimerEleve => exact isole_update (by simp)
  case ajouterMatiereAClasse => exact isole_update (by simp)
  case supprimerMatiereDeClasse => exact isole_update (by simp)
  case ajouterEnseignant => exact isole_update (by simp)
  case supprimerEnseignant => exact isole_update (by simp)
  case mettreAJourClasse =>
    show Finit S (Isole E b) (ClasseController.mettreAJourClasse Etape.autre E c nom niveau) () b f
    unfold ClasseController.mettreAJourClasse siClasseConnectee
    by_cases hvide : ClasseController.miseAJour nom niveau = []
    · rw [if_pos hvide]
      exact finit_siConnecte (fun _ => .refl E b) (.refl E b)
    · rw [if_neg hvide]
      refine isole_update ?_
      rcases nom with _ | nom <;> rcases niveau with _ | niveau <;>
        simp [ClasseController.miseAJour, texte]
  case lireToutesLesMatieres => exact hread lecture_chercher
  case lireMatiereParId => exact hread lecture_lireConnecte
  case supprimerMatiere => exact isole_delete
  case supprimerToutesLesMatieres =>
    refine finit_lecture.mpr (ends_bind.mpr ((ends_requete_pannes rfl).mpr
      ⟨fun _ _ => .refl E b, fun _ => ?_⟩))
    refine isole_supprimerDocs _ (.refl E b) fun x hx d hd => ?_
    obtain ⟨hfind, hsat⟩ := Query.of_mem_run hx
    have hsame : d = x.2 := Option.some.inj (hd.symm.trans hfind)
    rw [hsame]
    simpa [Appartient, Filter.sat] using hsat

/-- The calls of the controllers of an establishment, one after the other. -/
def pasControleurs (S : Server) (E : String) (b : Base) (a : AppelControleur × List (Option Err)) :
    Option Base :=
  some (apresAppel S E b a)

/-- **Isolation.**  In every sequence of calls of the controllers of `E`, each leaves the classes
and subjects of the other establishments as they were, exactly if each is permitted. -/
theorem isole_run_iff (S : Server) (E : String) (b : Base)
    (appels : List (AppelControleur × List (Option Err))) :
    AllMeet (pasControleurs S E) (fun b a => Isole E b (apresAppel S E b a)) b appels ↔
      AllMeet (pasControleurs S E) (Permis E) b appels :=
  allMeet_congr fun b a => isole_apresAppel_iff S E b a

/-- A class `c` of the establishment `f`. -/
def classeDeF : Base :=
  baseVide.putDoc .classes "c" (newDoc 0 (⟨"c", "A", "3e", "f", [], ["x"], []⟩ : ClasseModele).toMap)

/-- The controller of `e` adds a class under the id `c`. -/
theorem not_isole_classeDeF :
    ¬AllMeet (pasControleurs (Server.longest 10) "e")
      (fun b a => Isole "e" b (apresAppel (Server.longest 10) "e" b a)) classeDeF
      [(.ajouterClasse ⟨"c", "B", "6e", "", [], [], []⟩, [])] := by
  intro h
  have hisole := (isole_apresAppel_iff _ _ _ _).mp (h _ rfl).1
  have hown := hisole.resolve_left (by decide)
  have hown' := hown.resolve_left (by simp) _ rfl
  revert hown'
  decide

end EduConnect.Admin
