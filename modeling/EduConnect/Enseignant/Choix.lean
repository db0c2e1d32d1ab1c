import EduConnect.Lib.Sched
import EduConnect.Modeles

/-!
# Choosing a class and a subject

The part that the roll-call page `appel.dart` and the grades page `note.dart` have in common: the
teacher's classes, the class and the subject chosen, and the loads that fill them.  The loads are
written over a page `σ` with a part `Choix` that `choix` reads and `sur` updates.
-/

namespace EduConnect.Enseignant

open Lib Prog

/-- `_ClasseAvecMatieres`; only `note.dart` keeps `elevesIds`. -/
structure ClasseAvecMatieres where
  classeId : String
  nomClasse : String
  niveauClasse : String
  matieresIds : List String
  elevesIds : List String := []
  deriving DecidableEq

/-- A map `{'id': .., 'nom': ..}` of the list `matieres`. -/
structure Matiere where
  id : String
  nom : String
  deriving DecidableEq

structure Choix where
  etablissementId : String
  utilisateurId : String
  enseignantId : Option String := none
  classesAvecMatieres : List ClasseAvecMatieres := []
  classeChoisieId : Option String := none
  matieres : List Matiere := []
  matiereChoisieId : Option String := none
  loading : Bool := true
  saving : Bool := false

namespace Choix

section Programmes

variable {Λ σ : Type} (choix : σ → Choix) (sur : (Choix → Choix) → σ → σ)

/-- `where('f', isEqualTo: v)` for a nullable `v`. -/
def egal (f : Champ) : Option String → Lib.Filter Champ
  | some v => .isEqualTo f (.str v)
  | none => .isNull f

/-- The body of the loop over the classes in `_initData`: an entry for a class of the teacher with a
subject he teaches. -/
def entree (classe : String → Document → List String → Except Err ClasseAvecMatieres)
    (enseignantId : String) (enseignementMatieres : List String) (doc : String × Document) :
    Except Err (Option ClasseAvecMatieres) := do
  let enseignantsIds ← (doc.2.get .enseignantsIds).orStrs
  if enseignantId ∉ enseignantsIds then return none
  let matieresIds ← (doc.2.get .matieresIds).orStrs
  let matieresAssociees := matieresIds.filter fun id => id ∈ enseignementMatieres
  if matieresAssociees = [] then return none
  return some (← classe doc.1 doc.2 matieresAssociees)

/-- `_initData`.  The pages differ in the entry they make of a class, and in what they do when the
teacher is not found or a request fails. -/
def initData (l : Λ) (classe : String → Document → List String → Except Err ClasseAvecMatieres)
    (introuvable : Action Λ σ Unit) (erreur : Err → Action Λ σ Unit) : Action Λ σ Unit := do
  attendre l
  catching (do
    let c := choix (← page)
    match ← chercherPremier l .enseignants [.isEqualTo .utilisateurId (.str c.utilisateurId)] with
    | [] => introuvable
    | doc :: _ =>
      setState (sur fun c => { c with enseignantId := some doc.1 })
      let classes ← chercher l .classes [.isEqualTo .etablissementId (.str c.etablissementId)]
      let enseignements ← chercher l .enseignements [.isEqualTo .enseignantId (.str doc.1)]
      let matieres ← ofExcept (enseignements.mapM fun e => (e.2.field .matiereId).bind Value.asStr)
      let temp ← ofExcept (classes.mapM (entree classe doc.1 matieres))
      setState (sur fun c => { c with classesAvecMatieres := temp.reduceOption, loading := false }))
    erreur

/-- The loop of `_chargerMatieres`. -/
def ajouterMatieres (l : Λ) (matieresIds : List String) :
    List (String × Document) → Action Λ σ Unit
  | [] => setState (sur id)
  | doc :: docs => do
    match ← ofExcept (doc.2.field .matiereId) with
    | .str matId =>
      if matId ∈ matieresIds then
        let matDoc ← lireDoc l .matieres matId
        let nom ← ofExcept ((champ matDoc .nom).bind Value.asStr)
        setState (sur fun c => { c with matieres := c.matieres ++ [⟨matId, nom⟩] })
      ajouterMatieres l matieresIds docs
    | _ => ajouterMatieres l matieresIds docs

/-- `_chargerMatieres`. -/
def chargerMatieres (l : Λ) (classeId : String) : Action Λ σ Unit := do
  setState (sur fun c => { c with matieres := [] })
  let classeDoc ← lireDoc l .classes classeId
  let matieresIds ← ofExcept ((champ classeDoc .matieresIds).bind Value.orStrs)
  let enseignements ← chercher l .enseignements
    [egal .enseignantId (choix (← page)).enseignantId]
  ajouterMatieres sur l matieresIds enseignements

/-! The loads touch the teacher, his classes and the subjects only. -/

variable {choix sur} {J : σ → Prop}

/-- An update of what the loads fill. -/
def Remplit (f : Choix → Choix) : Prop :=
  ∀ c, (f c).classeChoisieId = c.classeChoisieId ∧ (f c).matiereChoisieId = c.matiereChoisieId ∧
    (f c).saving = c.saving

/-- An update of the subjects. -/
def RemplitMatieres (f : Choix → Choix) : Prop :=
  Remplit f ∧ ∀ c, (f c).classesAvecMatieres = c.classesAvecMatieres

/-- An update of the teacher and his classes. -/
def RemplitClasses (f : Choix → Choix) : Prop :=
  Remplit f ∧ ∀ c, (f c).matieres = c.matieres

theorem keeps_lireDoc (l : Λ) (c : Collection) (id : String) :
    (lireDoc l c id : Action Λ σ _).Keeps J :=
  .ite (keeps_fail _) (keeps_call _ _)

theorem keeps_ajouterMatieres (h : ∀ f, RemplitMatieres f → ∀ s, J s → J (sur f s)) (l : Λ)
    (matieresIds : List String) (docs : List (String × Document)) :
    (ajouterMatieres sur l matieresIds docs).Keeps J := by
  induction docs with
  | nil => exact (keeps_setState _).mpr (h _ ⟨fun c => ⟨rfl, rfl, rfl⟩, fun c => rfl⟩)
  | cons doc docs ih =>
    refine .bind (keeps_ofExcept _) fun v => ?_
    rcases v with _ | b | x | matId | t | l' | m
    case str =>
      refine .ite (.bind (keeps_lireDoc _ _ _) fun matDoc => .bind (keeps_ofExcept _) fun nom => ?_) ih
      exact .bind ((keeps_setState _).mpr (h _ ⟨fun c => ⟨rfl, rfl, rfl⟩, fun c => rfl⟩)) fun _ => ih
    all_goals exact ih

theorem keeps_chargerMatieres (h : ∀ f, RemplitMatieres f → ∀ s, J s → J (sur f s)) (l : Λ)
    (classeId : String) : (chargerMatieres choix sur l classeId).Keeps J := by
  refine .bind ((keeps_setState _).mpr (h _ ⟨fun c => ⟨rfl, rfl, rfl⟩, fun c => rfl⟩)) fun _ => ?_
  refine .bind (keeps_lireDoc _ _ _) fun classeDoc => .bind (keeps_ofExcept _) fun ids => ?_
  refine .bind keeps_page fun p => .bind (keeps_call _ _) fun enseignements => ?_
  exact keeps_ajouterMatieres h l ids enseignements

theorem keeps_initData (h : ∀ f, RemplitClasses f → ∀ s, J s → J (sur f s)) (l : Λ)
    (classe : String → Document → List String → Except Err ClasseAvecMatieres)
    {introuvable : Action Λ σ Unit} (hi : introuvable.Keeps J) {erreur : Err → Action Λ σ Unit}
    (he : ∀ e, (erreur e).Keeps J) : (initData choix sur l classe introuvable erreur).Keeps J := by
  refine .bind (keeps_call _ _) fun _ => .catching (.bind keeps_page fun p => ?_) he
  refine .bind (keeps_call _ _) fun docs => ?_
  rcases (docs : List (String × Document)) with _ | ⟨doc, docs⟩
  · exact hi
  · refine .bind ((keeps_setState _).mpr (h _ ⟨fun c => ⟨rfl, rfl, rfl⟩, fun c => rfl⟩)) fun _ => ?_
    refine .bind (keeps_call _ _) fun classes => .bind (keeps_call _ _) fun enseignements => ?_
    refine .bind (keeps_ofExcept _) fun matieres => .bind (keeps_ofExcept _) fun temp => ?_
    exact (keeps_setState _).mpr (h _ ⟨fun c => ⟨rfl, rfl, rfl⟩, fun c => rfl⟩)

/-- The loads only read. -/
abbrev Lit (l : Λ) (l' : Λ) (r : Requete) : Prop := l' = l ∧ Lecture r

theorem issues_ajouterMatieres (l : Λ) (matieresIds : List String)
    (docs : List (String × Document)) :
    (ajouterMatieres sur l matieresIds docs).Issues (Lit l) := by
  induction docs with
  | nil => exact trivial
  | cons doc docs ih =>
    refine .bind (issues_ofExcept _) fun v => ?_
    rcases v with _ | b | x | matId | t | l' | m
    case str =>
      refine .ite (.bind (issues_lireDoc ⟨rfl, trivial⟩) fun matDoc => ?_) ih
      exact .bind (issues_ofExcept _) fun nom => .bind trivial fun _ => ih
    all_goals exact ih

theorem issues_chargerMatieres (l : Λ) (classeId : String) :
    (chargerMatieres choix sur l classeId).Issues (Lit l) := by
  refine .bind trivial fun _ => .bind (issues_lireDoc ⟨rfl, trivial⟩) fun classeDoc => ?_
  refine .bind (issues_ofExcept _) fun ids => .bind (fun _ => trivial) fun p => ?_
  refine .bind ((issues_chercher _ _ _).mpr ⟨rfl, trivial⟩) fun enseignements => ?_
  exact issues_ajouterMatieres l ids enseignements

theorem issues_initData (l : Λ)
    (classe : String → Document → List String → Except Err ClasseAvecMatieres)
    {introuvable : Action Λ σ Unit} (hi : introuvable.Issues (Lit l))
    {erreur : Err → Action Λ σ Unit} (he : ∀ e, (erreur e).Issues (Lit l)) :
    (initData choix sur l classe introuvable erreur).Issues (Lit l) := by
  refine .bind ((issues_attendre _).mpr ⟨rfl, trivial⟩) fun _ => .catching ?_ he
  refine .bind (fun _ => trivial) fun p => ?_
  refine .bind ((issues_chercherPremier _ _ _).mpr ⟨rfl, trivial⟩) fun docs => ?_
  rcases (docs : List (String × Document)) with _ | ⟨doc, docs⟩
  · exact hi
  · refine .bind trivial fun _ => .bind ((issues_chercher _ _ _).mpr ⟨rfl, trivial⟩) fun classes => ?_
    refine .bind ((issues_chercher _ _ _).mpr ⟨rfl, trivial⟩) fun enseignements => ?_
    exact .bind (issues_ofExcept _) fun matieres => .bind (issues_ofExcept _) fun temp => trivial

end Programmes

end Choix

/-- The `n`-th task goes through `k` awaits. -/
def poursuivre {ι Ev : Type} (n k : ℕ) : List (Act ι Ev Base) :=
  (List.replicate k [Act.serve n, Act.resume n]).flatten

end EduConnect.Enseignant
