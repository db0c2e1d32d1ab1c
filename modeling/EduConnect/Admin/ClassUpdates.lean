import EduConnect.Admin.Eleves
import EduConnect.Lib.Sched

/-!
# Concurrent updates of a class

Any number of administrators work on the classes at once, each request being served at any time
after it was sent.  Two ways of writing a roster meet here: `arrayUnion` and `arrayRemove` on the
stored list, and writing back a copy read earlier (`Etape.copie`).  `SansPerte` says that no
completed addition is lost and that a deleted class stays deleted.
-/

namespace EduConnect.Admin

open Lib Prog

/-! ## What a labelled request writes -/

namespace Etape

/-- The write an await is labelled by. -/
def ecriture : Etape → Option Ecriture
  | autre => none
  | ajoutListe c lus e =>
    some (.update .classes c [(.elevesIds, .put (.list (lus ++ [.str e])))])
  | bascule c champ copie e selected =>
    some (.update .classes c [textes champ (ClasseDetail.basculer copie e selected)])
  | reinitialisation c => some (.update .classes c ClasseDetail.listesVides)
  | edition c copie nom niveau =>
    some (.set .classes c ({ copie with nom := nom, niveau := niveau } : ClasseModele).toMap)
  | suppression c => some (.delete .classes c)
  | ajoutEleve c e => some (.update .classes c [(.elevesIds, .arrayUnion [e])])
  | retraitEleve c e => some (.update .classes c [(.elevesIds, .arrayRemove [e])])

/-- The roster read earlier that the write puts back in the class `c`. -/
def copie (c : String) : Etape → Option (List String)
  | ajoutListe c' lus _ => if c' = c then some (strsOf (some (.list lus : Valeur))) else none
  | bascule c' champ copie _ _ => if c' = c ∧ champ = .elevesIds then some copie else none
  | edition c' copie _ _ => if c' = c then some copie.elevesIds else none
  | _ => none

/-- The write adds the student `e` to the roster of `c`. -/
def ajoute (c e : String) : Etape → Bool
  | ajoutListe c' _ e' => c' = c && e' = e
  | bascule c' champ _ e' selected => c' = c && champ = .elevesIds && e' = e && selected
  | ajoutEleve c' e' => c' = c && e' = e
  | _ => false

/-- The write asks for `e` to leave the roster of `c`: a removal, a reset or a deletion. -/
def retire (c e : String) : Etape → Bool
  | bascule c' champ _ e' selected => c' = c && champ = .elevesIds && e' = e && !selected
  | reinitialisation c' => c' = c
  | suppression c' => c' = c
  | retraitEleve c' e' => c' = c && e' = e
  | _ => false

/-- The write deletes the class `c`. -/
def supprime (c : String) : Etape → Bool
  | suppression c' => c' = c
  | _ => false

/-- The write stores the whole document of `c`, whether it exists or not. -/
def recree (c : String) : Etape → Bool
  | edition c' _ _ _ => c' = c
  | _ => false

end Etape

theorem Etape.copie_of_recree {l : Etape} {c : String} (h : l.recree c) :
    ∃ lus, l.copie c = some lus := by
  cases l with
  | edition c' copie nom niveau => exact ⟨copie.elevesIds, if_pos (by simpa [recree] using h)⟩
  | _ => simp [recree] at h

theorem Etape.not_recree_of_supprime {l : Etape} {c : String} (h : l.supprime c) :
    l.recree c = false := by
  cases l <;> first | rfl | cases h

/-- The request does not write `classes`. -/
def HorsClasses : Requete → Prop
  | .add c _ => c ≠ .classes
  | .write (.set c _ _) => c ≠ .classes
  | .write (.update c _ _) => c ≠ .classes
  | .write (.delete c _) => c ≠ .classes
  | .commit _ => False
  | .addAll _ _ => False
  | _ => True

/-- A request is the write of its label, or leaves the classes alone. -/
def Conforme (l : Etape) (r : Requete) : Prop :=
  match l.ecriture with
  | some w => r = .write w
  | none => HorsClasses r

theorem handler_horsClasses {S : Server} {r : Requete} (hr : HorsClasses r) (b : Base) :
    (S.handler r b).2.docs .classes = b.docs .classes := by
  cases r with
  | query c q =>
    simp only [Server.handler]
    split_ifs <;> rfl
  | add c fs => exact Data.docs_putDoc_ne b (Ne.symm hr) _ _
  | write w =>
    cases w with
    | set c id fs => exact Data.docs_putDoc_ne b (Ne.symm hr) _ _
    | update c id fs =>
      simp only [Server.handler, Write.apply]
      cases b.doc c id with
      | none => rfl
      | some d => exact Data.docs_putDoc_ne b (Ne.symm hr) _ _
    | delete c id => exact Data.docs_eraseDoc_ne b (Ne.symm hr) _
  | commit ws => exact hr.elim
  | addAll c ds => exact hr.elim
  | createUser email password =>
    simp only [Server.handler]
    split_ifs <;> rfl
  | signIn email password =>
    simp only [Server.handler]
    split <;> rfl
  | deleteFile id =>
    simp only [Server.handler]
    split <;> rfl
  | _ => rfl

/-! ## The effect of a served write -/

section Effet

variable {l : Etape} {w : Ecriture} {b b' : Base} {c e : String}

/-- What an update leaves on the rosters. -/
theorem mem_apply_update {c' : String} {fs : Champs}
    (h : Write.apply b (.update .classes c' fs) = some b') :
    ∃ d, b.doc .classes c' = some d ∧ ∀ c e, e ∈ elevesDeClasse b' c ↔
      if c' = c then e ∈ strsOf (writeFields b.clock d fs .elevesIds)
      else e ∈ elevesDeClasse b c := by
  obtain ⟨d, hd, rfl⟩ := Option.map_eq_some_iff.mp h
  refine ⟨d, hd, fun c e => ?_⟩
  rw [elevesDeClasse_putDoc]
  by_cases hc : c' = c
  · simp [hc]
  · simp [hc, Ne.symm hc]

/-- `_toggleItem` puts back its copy, with or without `e'`. -/
theorem mem_apply_bascule {c' e' : String} {champ : Champ} {copie : List String} {selected : Bool}
    (h : Write.apply b (.update .classes c'
      [textes champ (ClasseDetail.basculer copie e' selected)]) = some b')
    (hr : ¬(Etape.bascule c' champ copie e' selected).retire c e) :
    e ∈ elevesDeClasse b' c ↔ (Etape.bascule c' champ copie e' selected).ajoute c e ∨
      e ∈ ((Etape.bascule c' champ copie e' selected).copie c).getD (elevesDeClasse b c) := by
  obtain ⟨d, hd, hmem⟩ := mem_apply_update h
  rw [hmem]
  by_cases hc : c' = c
  · subst hc
    by_cases hchamp : champ = .elevesIds
    · subst hchamp
      have hval : writeFields b.clock d
          [textes .elevesIds (ClasseDetail.basculer copie e' selected)] .elevesIds =
          some (.strs (ClasseDetail.basculer copie e' selected)) := by
        simp [textes, FieldOp.eval]
      rw [if_pos rfl, hval, strsOf_strs, ClasseDetail.mem_basculer]
      cases selected with
      | true => simp [Etape.ajoute, Etape.copie, or_comm, eq_comm]
      | false =>
        have hne : e ≠ e' := fun he => hr (by simp [Etape.retire, he])
        simp [Etape.ajoute, Etape.copie, hne]
    · have hval : writeFields b.clock d
          [textes champ (ClasseDetail.basculer copie e' selected)] .elevesIds = d .elevesIds :=
        writeFields_of_not_mem (by simpa [textes] using Ne.symm hchamp)
      rw [if_pos rfl, hval, ← elevesDeClasse_of_doc hd]
      simp [Etape.ajoute, Etape.copie, hchamp]
  · simp [hc, Etape.ajoute, Etape.copie]

/-- A write that does not ask for the removal of `e` from `c` leaves on the roster the copy it
puts back, or what was there, and what it adds. -/
theorem mem_apply (hw : l.ecriture = some w) (h : w.apply b = some b') (hr : ¬l.retire c e) :
    e ∈ elevesDeClasse b' c ↔ l.ajoute c e ∨ e ∈ (l.copie c).getD (elevesDeClasse b c) := by
  cases l with
  | autre => cases hw
  | ajoutListe c' lus e' =>
    cases hw
    obtain ⟨d, -, hmem⟩ := mem_apply_update h
    rw [hmem]
    by_cases hc : c' = c
    · simp [hc, Etape.ajoute, Etape.copie, strsOf, FieldOp.eval, arrayOf, or_comm, eq_comm]
    · simp [hc, Etape.ajoute, Etape.copie]
  | bascule c' champ copie e' selected =>
    cases hw
    exact mem_apply_bascule h hr
  | reinitialisation c' =>
    cases hw
    obtain ⟨d, -, hmem⟩ := mem_apply_update h
    have hne : c' ≠ c := fun hc => hr (by simp [Etape.retire, hc])
    rw [hmem, if_neg hne]
    simp [Etape.ajoute, Etape.copie]
  | edition c' copie nom niveau =>
    cases hw
    cases h
    have hval : newDoc b.clock
        ({ copie with nom := nom, niveau := niveau } : ClasseModele).toMap .elevesIds =
        some (.strs copie.elevesIds) := rfl
    rw [elevesDeClasse_putDoc, hval, strsOf_strs]
    by_cases hc : c' = c
    · simp [hc, Etape.ajoute, Etape.copie]
    · simp [hc, Ne.symm hc, Etape.ajoute, Etape.copie]
  | suppression c' =>
    cases hw
    cases h
    have hne : c' ≠ c := fun hc => hr (by simp [Etape.retire, hc])
    rw [elevesDeClasse_eraseDoc, if_neg (Ne.symm hne)]
    simp [Etape.ajoute, Etape.copie]
  | ajoutEleve c' e' =>
    cases hw
    obtain ⟨d, hd, hmem⟩ := mem_apply_update h
    rw [hmem]
    by_cases hc : c' = c
    · subst hc
      rw [if_pos rfl, writeFields_cons, writeFields_nil, Function.update_self,
        mem_strsOf_arrayUnion, elevesDeClasse_of_doc hd]
      simp [Etape.ajoute, Etape.copie, or_comm, eq_comm]
    · simp [hc, Etape.ajoute, Etape.copie]
  | retraitEleve c' e' =>
    cases hw
    obtain ⟨d, hd, hmem⟩ := mem_apply_update h
    rw [hmem]
    by_cases hc : c' = c
    · subst hc
      have hne : e ≠ e' := fun he => hr (by simp [Etape.retire, he])
      rw [if_pos rfl, writeFields_cons, writeFields_nil, Function.update_self,
        mem_strsOf_arrayRemove, elevesDeClasse_of_doc hd]
      simp [Etape.ajoute, Etape.copie, hne]
    · simp [hc, Etape.ajoute, Etape.copie]

theorem doc_apply_update {c' : String} {fs : Champs}
    (h : Write.apply b (.update .classes c' fs) = some b') :
    b'.doc .classes c = none ↔ b.doc .classes c = none := by
  obtain ⟨d, hd, rfl⟩ := Option.map_eq_some_iff.mp h
  by_cases hc : c = c'
  · subst hc
    simp [Data.doc_putDoc, hd]
  · simp [Data.doc_putDoc, hc]

/-- Only a whole-document write makes a missing class exist, only a deletion removes one. -/
theorem doc_apply (hw : l.ecriture = some w) (h : w.apply b = some b') :
    b'.doc .classes c = none ↔
      l.supprime c ∨ (¬l.recree c ∧ b.doc .classes c = none) := by
  cases l with
  | autre => cases hw
  | edition c' copie nom niveau =>
    cases hw
    cases h
    by_cases hc : c = c'
    · simp [Data.doc_putDoc, hc, Etape.recree, Etape.supprime]
    · simp [Data.doc_putDoc, hc, Ne.symm hc, Etape.recree, Etape.supprime]
  | suppression c' =>
    cases hw
    cases h
    by_cases hc : c = c'
    · simp [Data.doc_eraseDoc, hc, Etape.supprime]
    · simp [Data.doc_eraseDoc, hc, Ne.symm hc, Etape.recree, Etape.supprime]
  | _ =>
    cases hw
    simp [doc_apply_update h, Etape.recree, Etape.supprime]

/-- A write of a class that is refused was on a missing class. -/
theorem doc_of_apply_none (hw : l.ecriture = some w) (h : w.apply b = none) :
    ∀ c lus, l.copie c = some lus → b.doc .classes c = none ∧ l.recree c = false := by
  intro c lus hc
  cases l with
  | ajoutListe c' lus' e' =>
    cases hw
    obtain rfl : c' = c := by
      by_contra hne
      simp [Etape.copie, hne] at hc
    exact ⟨Option.map_eq_none_iff.mp h, rfl⟩
  | bascule c' champ copie e' selected =>
    cases hw
    obtain ⟨rfl, -⟩ : c' = c ∧ champ = .elevesIds := by
      by_contra hne
      simp [Etape.copie, hne] at hc
    exact ⟨Option.map_eq_none_iff.mp h, rfl⟩
  | edition c' copie nom niveau =>
    cases hw
    cases h
  | _ => simp [Etape.copie] at hc

end Effet

/-! ## The screens of the administrators -/

/-- The screens of one administrator; any of them may be used. -/
structure Pages where
  ajout : AjoutEleve
  edition : ModifierClasse
  detail : ClasseDetail
  messages : List String := []

inductive Evenement where
  /-- Typing in the creation form. -/
  | saisirAjout (f : AjoutEleve → AjoutEleve)
  | enregistrerEleve
  | chargerClasse
  /-- Typing in the edition form. -/
  | saisirEdition (nom : String) (niveau : Option String)
  | modifierClasse
  | fetchClasseDetails
  | toggleElement (champ : Champ) (elementId : String) (selected : Bool)
  | resetClasse
  | supprimerClasse (docId : String) (confirmation : Bool)
  | ajouterEleve (etablissementId classeId eleveId : String)
  | supprimerEleve (etablissementId classeId eleveId : String)

namespace Pages

def surAjout (p : Action Etape AjoutEleve Unit) : Action Etape Pages Unit :=
  p.zoom Pages.ajout fun x t => { t with ajout := x }

def surEdition (p : Action Etape ModifierClasse Unit) : Action Etape Pages Unit :=
  p.zoom Pages.edition fun x t => { t with edition := x }

def surDetail (p : Action Etape ClasseDetail Unit) : Action Etape Pages Unit :=
  p.zoom Pages.detail fun x t => { t with detail := x }

def surMessages (p : Action Etape (List String) Unit) : Action Etape Pages Unit :=
  p.zoom Pages.messages fun x t => { t with messages := x }

/-- The program an event starts; the save buttons are disabled while a save is running. -/
def on (t : Pages) : Evenement → Option (Action Etape Pages Unit)
  | .saisirAjout f => some (surAjout (setState f))
  | .enregistrerEleve => if t.ajout.loading then none else some (surAjout AjoutEleve.enregistrerEleve)
  | .chargerClasse => some (surEdition ModifierClasse.chargerClasse)
  | .saisirEdition nom niveau =>
    some (surEdition (setState fun p => { p with nom := nom, niveauSelectionne := niveau }))
  | .modifierClasse =>
    if t.edition.isLoading || t.edition.isFetching then none
    else some (surEdition ModifierClasse.modifierClasse)
  | .fetchClasseDetails => some (surDetail ClasseDetail.fetchClasseDetails)
  | .toggleElement champ elementId selected =>
    some (surDetail (ClasseDetail.toggleElement champ elementId selected))
  | .resetClasse => some (surDetail ClasseDetail.resetClasse)
  | .supprimerClasse docId confirmation => some (surMessages (supprimerClasse docId confirmation))
  | .ajouterEleve etablissementId classeId eleveId =>
    some (ClasseController.ajouterEleve etablissementId classeId eleveId)
  | .supprimerEleve etablissementId classeId eleveId =>
    some (ClasseController.supprimerEleve etablissementId classeId eleveId)

end Pages

/-! ### Their requests conform to their labels -/

section Conforme

variable {σ : Type}

theorem conforme_lire (c : Collection) (id : String) :
    (lire .autre c id : Action Etape σ _).Issues Conforme :=
  (issues_lire ..).mpr trivial

theorem fetchClasseDetails_conforme : ClasseDetail.fetchClasseDetails.Issues Conforme := by
  refine Issues.catching ?_ fun _ => trivial
  refine Issues.bind (fun _ => trivial) fun p => ?_
  exact Issues.bind (conforme_lire ..) fun _ => trivial

theorem toggleElement_conforme (champ : Champ) (elementId : String) (selected : Bool) :
    (ClasseDetail.toggleElement champ elementId selected).Issues Conforme := by
  refine Issues.bind (fun _ => trivial) fun p => ?_
  cases hdata : p.classeData with
  | none => trivial
  | some classeData =>
    refine Issues.bind (issues_ofExcept _) fun currentList => ?_
    refine Issues.catching ?_ fun _ => trivial
    exact Issues.bind ((issues_ecrire ..).mpr rfl) fun _ => fetchClasseDetails_conforme

theorem resetClasse_conforme : ClasseDetail.resetClasse.Issues Conforme := by
  refine Issues.catching ?_ fun _ => trivial
  refine Issues.bind (fun _ => trivial) fun p => ?_
  exact Issues.bind ((issues_ecrire ..).mpr rfl) fun _ => fetchClasseDetails_conforme

theorem chargerClasse_conforme : ModifierClasse.chargerClasse.Issues Conforme := by
  refine Issues.ensuring ?_ _
  refine Issues.catching ?_ fun _ => trivial
  refine Issues.bind (fun _ => trivial) fun p => ?_
  refine Issues.bind (conforme_lire ..) fun doc => ?_
  cases doc with
  | none => trivial
  | some data => exact Issues.bind (issues_ofExcept _) fun _ => trivial

theorem modifierClasse_conforme : ModifierClasse.modifierClasse.Issues Conforme := by
  refine Issues.bind (fun _ => trivial) fun p => ?_
  split
  · refine Issues.ite ?_ trivial
    refine Issues.bind trivial fun _ => ?_
    refine Issues.ensuring ?_ _
    refine Issues.catching ?_ fun _ => trivial
    exact Issues.bind ((issues_ecrire ..).mpr rfl) fun _ => trivial
  · trivial

theorem supprimerClasse_conforme (docId : String) (confirmation : Bool) :
    (supprimerClasse docId confirmation).Issues Conforme := by
  refine Issues.ite ?_ trivial
  refine Issues.catching ?_ fun _ => trivial
  exact Issues.bind ((issues_ecrire ..).mpr rfl) fun _ => trivial

theorem siClasseConnectee_conforme {etablissementId classeId refus contexte : String}
    {op : Action Etape σ Unit} (hop : op.Issues Conforme) :
    (siClasseConnectee .autre etablissementId classeId refus contexte op).Issues Conforme := by
  refine Issues.catching ?_ fun _ => trivial
  refine Issues.bind (issues_lireDoc trivial) fun doc => ?_
  cases doc with
  | none => trivial
  | some data => exact Issues.ite hop trivial

theorem ajouterALaClasse_conforme (classeId userId : String) :
    (AjoutEleve.ajouterALaClasse classeId userId).Issues Conforme := by
  refine Issues.bind (conforme_lire ..) fun classeSnapshot => ?_
  cases classeSnapshot with
  | none => trivial
  | some classeData =>
    refine Issues.bind (issues_ofExcept _) fun elevesIds => ?_
    exact Issues.ite trivial ((issues_ecrire ..).mpr rfl)

theorem enregistrerDocuments_conforme (userId roleEleveId : String) (fileId : Option String) :
    (AjoutEleve.enregistrerDocuments userId roleEleveId fileId).Issues Conforme := by
  have hors : ∀ c id fs, c ≠ .classes →
      (ecrire .autre (.set c id fs) : Action Etape AjoutEleve _).Issues Conforme :=
    fun c id fs hc => (issues_ecrire ..).mpr hc
  refine Issues.bind (fun _ => trivial) fun p => Issues.bind (hors _ _ _ (by decide)) fun _ => ?_
  refine Issues.bind (fun _ => trivial) fun p => Issues.bind (hors _ _ _ (by decide)) fun _ => ?_
  refine Issues.bind (fun _ => trivial) fun p => ?_
  cases p.classeIdSelectionne with
  | none => exact (issues_attendre _).mpr trivial
  | some classeId => exact ajouterALaClasse_conforme classeId userId

theorem creerEleve_conforme : AjoutEleve.creerEleve.Issues Conforme := by
  refine Issues.bind ?_ fun roleEleveId => ?_
  · refine Issues.catching ?_ fun _ => trivial
    exact Issues.bind ((issues_chercherPremier ..).mpr trivial) fun _ => trivial
  cases roleEleveId with
  | none => exact Issues.bind trivial fun _ => trivial
  | some roleEleveId =>
    refine Issues.bind (fun _ => trivial) fun p => ?_
    refine Issues.bind ((issues_creerCompte ..).mpr trivial) fun userId => ?_
    refine Issues.bind ?_ fun fileId => ?_
    · refine Issues.bind (fun _ => trivial) fun p => ?_
      split
      · refine Issues.catching ?_ fun _ => trivial
        exact Issues.bind ((issues_creerFichier ..).mpr trivial) fun _ => trivial
      · trivial
    refine Issues.bind (enregistrerDocuments_conforme _ _ _) fun _ => ?_
    exact Issues.bind trivial fun _ => trivial

theorem enregistrerEleve_conforme : AjoutEleve.enregistrerEleve.Issues Conforme := by
  refine Issues.bind (fun _ => trivial) fun p => ?_
  refine Issues.ite (Issues.ite trivial (Issues.ite trivial ?_)) trivial
  refine Issues.bind trivial fun _ => ?_
  refine Issues.ensuring ?_ _
  exact Issues.catching creerEleve_conforme fun _ => trivial

end Conforme

theorem Pages.on_conforme {t : Pages} {ev : Evenement} {p : Action Etape Pages Unit}
    (h : t.on ev = some p) : p.Issues Conforme := by
  cases ev with
  | saisirAjout f =>
    cases h
    trivial
  | enregistrerEleve =>
    simp only [Pages.on] at h
    split_ifs at h
    cases h
    exact enregistrerEleve_conforme.zoom
  | chargerClasse =>
    cases h
    exact chargerClasse_conforme.zoom
  | saisirEdition nom niveau =>
    cases h
    trivial
  | modifierClasse =>
    simp only [Pages.on] at h
    split_ifs at h
    cases h
    exact Issues.zoom modifierClasse_conforme
  | fetchClasseDetails =>
    cases h
    exact fetchClasseDetails_conforme.zoom
  | toggleElement champ elementId selected =>
    cases h
    exact (toggleElement_conforme champ elementId selected).zoom
  | resetClasse =>
    cases h
    exact resetClasse_conforme.zoom
  | supprimerClasse docId confirmation =>
    cases h
    exact (supprimerClasse_conforme docId confirmation).zoom
  | ajouterEleve etablissementId classeId eleveId =>
    cases h
    exact siClasseConnectee_conforme ((issues_ecrire ..).mpr rfl)
  | supprimerEleve etablissementId classeId eleveId =>
    cases h
    exact siClasseConnectee_conforme ((issues_ecrire ..).mpr rfl)

/-! ## The interleaving -/

section Systeme

variable {ι : Type}

abbrev Systeme (ι : Type) := Sys ι Etape Requete Req.Ans Err Pages Base

/-- The administrators' screens on the server `S`. -/
def administration (S : Server) : Spec ι Etape Requete Req.Ans Err Pages Base Evenement where
  handler := S.handler
  lost := .unavailable
  on _ ev t := t.on ev

/-- A step of the administrators; nobody else writes. -/
def pas [DecidableEq ι] (S : Server) (s : Systeme ι) : Act ι Evenement Base → Option (Systeme ι)
  | .other _ => none
  | a => s.step (administration S) a

/-- The addition of `e` to the roster of `c` has completed. -/
def Ajoutee (s : Systeme ι) (c e : String) : Prop :=
  ∃ x ∈ s.log, x.ans.isOk ∧ x.lab.ajoute c e

/-- The deletion of `c` has completed. -/
def Supprimee (s : Systeme ι) (c : String) : Prop :=
  ∃ x ∈ s.log, x.ans.isOk ∧ x.lab.supprime c

/-- Somebody has asked for `e` to leave the roster of `c`. -/
def RetraitDemande (s : Systeme ι) (c e : String) : Prop :=
  (∃ t ∈ s.tasks, t.lab.retire c e) ∨ ∃ x ∈ s.log, x.lab.retire c e

/-- No completed addition is lost, unless a removal was asked for; no deleted class is back. -/
structure SansPerte (s : Systeme ι) : Prop where
  ajouts : ∀ c e, Ajoutee s c e → ¬RetraitDemande s c e → e ∈ elevesDeClasse s.base c
  suppressions : ∀ c, Supprimee s c → s.base.doc .classes c = none

/-- The write about to be served puts back no copy from before an addition, and no class that has
been deleted. -/
def CopieAJour (s : Systeme ι) : Act ι Evenement Base → Prop
  | .serve n => ∀ t, s.tasks[n]? = some t →
    (∀ c lus, t.lab.copie c = some lus → ∀ e, Ajoutee s c e → ¬RetraitDemande s c e →
      e ∈ lus ∨ t.lab.ajoute c e) ∧
    ∀ c, t.lab.recree c → ¬Supprimee s c
  | _ => True

/-! ### What a step does to additions, deletions and demands -/

variable {s : Systeme ι} {c e : String}

theorem RetraitDemande.of_answer {n : ℕ} {t : Task ι Etape Requete Req.Ans Err Pages}
    (ht : s.tasks[n]? = some t) (a : Except Err (Req.Ans t.req)) (b' : Base) :
    RetraitDemande { s.answer n t a with base := b' } c e ↔ RetraitDemande s c e := by
  have hmem : t ∈ s.tasks := List.mem_of_getElem? ht
  constructor
  · rintro (⟨t', ht', hr⟩ | ⟨x, hx, hr⟩)
    · rcases List.mem_or_eq_of_mem_set ht' with ht' | rfl
      · exact Or.inl ⟨t', ht', hr⟩
      · exact Or.inl ⟨t, hmem, hr⟩
    · rcases List.mem_append.mp hx with hx | hx
      · exact Or.inr ⟨x, hx, hr⟩
      · obtain rfl : x = ⟨t.who, t.lab, t.req, a⟩ := by simpa using hx
        exact Or.inl ⟨t, hmem, hr⟩
  · rintro (⟨t', ht', hr⟩ | ⟨x, hx, hr⟩)
    · obtain ⟨m, hm⟩ := List.mem_iff_getElem?.mp ht'
      by_cases hnm : n = m
      · -- the answered task is in the log now
        subst hnm
        obtain rfl : t = t' := Option.some.inj (ht.symm.trans hm)
        exact Or.inr ⟨_, List.mem_append_right _ (List.mem_singleton.mpr rfl), hr⟩
      · refine Or.inl ⟨t', List.mem_iff_getElem?.mpr ⟨m, ?_⟩, hr⟩
        exact (List.getElem?_set_ne hnm).trans hm
    · exact Or.inr ⟨x, List.mem_append_left _ hx, hr⟩

/-- Starting a program forgets no demand. -/
theorem RetraitDemande.start [DecidableEq ι] {i : ι} {p : Action Etape Pages Unit}
    (h : RetraitDemande s c e) : RetraitDemande (s.start i p) c e :=
  h.imp_left fun ⟨t, ht, hr⟩ => ⟨t, List.mem_append_left _ ht, hr⟩

theorem ajoutee_answer {n : ℕ} {t : Task ι Etape Requete Req.Ans Err Pages}
    {a : Except Err (Req.Ans t.req)} {b' : Base} :
    Ajoutee { s.answer n t a with base := b' } c e ↔ Ajoutee s c e ∨ a.isOk ∧ t.lab.ajoute c e := by
  simp [Ajoutee, Sys.answer, or_and_right, exists_or]

theorem supprimee_answer {n : ℕ} {t : Task ι Etape Requete Req.Ans Err Pages}
    {a : Except Err (Req.Ans t.req)} {b' : Base} :
    Supprimee { s.answer n t a with base := b' } c ↔
      Supprimee s c ∨ a.isOk ∧ t.lab.supprime c := by
  simp [Supprimee, Sys.answer, or_and_right, exists_or]

theorem conforme_write {l : Etape} {w : Ecriture} {r : Requete} (hw : l.ecriture = some w)
    (h : Conforme l r) : r = .write w := by
  simpa [Conforme, hw] using h

theorem conforme_autre {l : Etape} {r : Requete} (hl : l.ecriture = none) (h : Conforme l r) :
    l = .autre ∧ HorsClasses r := by
  refine ⟨?_, by simpa [Conforme, hl] using h⟩
  cases l <;> simp_all [Etape.ecriture]

/-! ### The step lemma -/

/-- An answer that adds nothing and leaves the classes alone loses nothing. -/
theorem SansPerte.answer_of_error (h : SansPerte s) {n : ℕ}
    {t : Task ι Etape Requete Req.Ans Err Pages} (ht : s.tasks[n]? = some t) {b' : Base}
    (hb : b'.docs .classes = s.base.docs .classes) {a : Except Err (Req.Ans t.req)}
    (ha : a.isOk → t.lab = .autre) :
    SansPerte { s.answer n t a with base := b' } := by
  have hdoc : ∀ c, b'.doc .classes c = s.base.doc .classes c := fun c => by
    simp only [Data.doc, hb]
  refine ⟨fun c e hadd hdem => ?_, fun c hsup => ?_⟩
  · rw [elevesDeClasse_congr hdoc]
    rcases ajoutee_answer.mp hadd with hadd | ⟨hok, hl⟩
    · exact h.ajouts c e hadd fun hd => hdem ((RetraitDemande.of_answer ht a b').mpr hd)
    · rw [ha hok] at hl
      cases hl
  · rw [hdoc]
    rcases supprimee_answer.mp hsup with hsup | ⟨hok, hl⟩
    · exact h.suppressions c hsup
    · rw [ha hok] at hl
      cases hl

/-- A write that fails finds no class, so no copy that it could have put back is out of date. -/
theorem SansPerte.copieAJour_of_refus (h : SansPerte s) {n : ℕ}
    {t : Task ι Etape Requete Req.Ans Err Pages} (ht : s.tasks[n]? = some t) {w : Ecriture}
    (hw : t.lab.ecriture = some w) (hb : w.apply s.base = none) : CopieAJour s (.serve n) := by
  intro t' ht'
  obtain rfl := Option.some.inj (ht.symm.trans ht')
  refine ⟨fun c lus hcopie e hadd hdem => ?_, fun c hrec => ?_⟩
  · obtain ⟨hnone, -⟩ := doc_of_apply_none hw hb c lus hcopie
    have hin := h.ajouts c e hadd hdem
    simp [elevesDeClasse, hnone] at hin
  · obtain ⟨lus, hcopie⟩ := Etape.copie_of_recree hrec
    simp [(doc_of_apply_none hw hb c lus hcopie).2] at hrec

/-- A served write loses nothing exactly if the copy it puts back is up to date. -/
theorem SansPerte.answer_write (h : SansPerte s) {n : ℕ}
    {t : Task ι Etape Requete Req.Ans Err Pages} (ht : s.tasks[n]? = some t) {w : Ecriture}
    (hw : t.lab.ecriture = some w) {b' : Base} (hb : w.apply s.base = some b')
    {a : Except Err (Req.Ans t.req)} :
    SansPerte { s.answer n t a with base := b' } ↔ CopieAJour s (.serve n) := by
  have hret : ∀ {c e}, ¬RetraitDemande s c e → ¬t.lab.retire c e :=
    fun hd hr => hd (Or.inl ⟨t, List.mem_of_getElem? ht, hr⟩)
  constructor
  · rintro ⟨hajouts, hsup⟩ t' ht'
    obtain rfl : t = t' := Option.some.inj (ht.symm.trans ht')
    refine ⟨fun c lus hcopie e hadd hdem => ?_, fun c hrec hs => ?_⟩
    · have hin : e ∈ elevesDeClasse b' c := hajouts c e (ajoutee_answer.mpr (Or.inl hadd))
        fun hd => hdem ((RetraitDemande.of_answer ht a b').mp hd)
      rw [mem_apply hw hb (hret hdem), hcopie] at hin
      exact hin.symm
    · have hnone : b'.doc .classes c = none := hsup c (supprimee_answer.mpr (Or.inl hs))
      rcases (doc_apply hw hb).mp hnone with hl | ⟨hnrec, -⟩
      · rw [Etape.not_recree_of_supprime hl] at hrec
        cases hrec
      · exact hnrec hrec
  · intro hcond
    obtain ⟨hcopies, hrec⟩ := hcond t ht
    refine ⟨fun c e hadd hdem => ?_, fun c hsup => ?_⟩
    · have hdem' : ¬RetraitDemande s c e := fun hd =>
        hdem ((RetraitDemande.of_answer ht a b').mpr hd)
      refine (mem_apply hw hb (hret hdem')).mpr ?_
      rcases ajoutee_answer.mp hadd with hadd | ⟨-, hl⟩
      · cases hcopie : t.lab.copie c with
        | none => exact Or.inr (h.ajouts c e hadd hdem')
        | some lus => exact (hcopies c lus hcopie e hadd hdem').symm
      · exact Or.inl hl
    · refine (doc_apply hw hb).mpr ?_
      rcases supprimee_answer.mp hsup with hsup | ⟨-, hl⟩
      · exact Or.inr ⟨fun hr => hrec c hr hsup, h.suppressions c hsup⟩
      · exact Or.inl hl

variable [DecidableEq ι]

/-- Step lemma: from a state without loss, a step leads to a state without loss exactly if the
write it serves puts back an up-to-date copy. -/
theorem pas_sansPerte_iff {S : Server} {s s' : Systeme ι} {a : Act ι Evenement Base}
    (hI : s.Issued Conforme) (h : SansPerte s) (hs : pas S s a = some s') :
    SansPerte s' ↔ CopieAJour s a := by
  have hstep : s.step (administration S) a = some s' := by
    cases a <;> first | exact hs | cases hs
  cases Sys.step_cases hstep with
  | event hp =>
    refine iff_of_true ⟨fun c e hadd hdem => ?_, h.suppressions⟩ trivial
    exact h.ajouts c e hadd fun hd => hdem hd.start
  | @serve n t ht hans =>
    have hconf : Conforme t.lab t.req := (hI.task t (List.mem_of_getElem? ht)).issued
    cases hw : t.lab.ecriture with
    | none =>
      obtain ⟨hl, hr⟩ := conforme_autre hw hconf
      refine iff_of_true (h.answer_of_error ht (handler_horsClasses hr _) fun _ => hl) ?_
      intro t' ht'
      obtain rfl : t = t' := Option.some.inj (ht.symm.trans ht')
      simp [hl, Etape.copie, Etape.recree]
    | some w =>
      obtain ⟨i, l, r, k, ans⟩ := t
      obtain rfl : r = .write w := conforme_write hw hconf
      cases hb : w.apply s.base with
      | none =>
        have hr : S.handler (.write w : Requete) s.base = (.error .notFound, s.base) := by
          simp only [Server.handler, hb]
        simp only [administration, hr]
        exact iff_of_true (h.answer_of_error ht rfl fun hok => by cases hok)
          (h.copieAJour_of_refus ht hw hb)
      | some b' =>
        have hr : S.handler (.write w : Requete) s.base = (.ok (), b') := by
          simp only [Server.handler, hb]
        simp only [administration, hr]
        exact h.answer_write ht hw hb
  | @lose n t ht hans =>
    refine iff_of_true (h.answer_of_error ht rfl fun hok => ?_) trivial
    cases hok
  | @resume n t a ht hans =>
    refine iff_of_true ⟨fun c e hadd hdem => ?_, h.suppressions⟩ trivial
    refine h.ajouts c e hadd fun hd => hdem (RetraitDemande.start ?_)
    -- the resumed task was answered, so its demand is in the log
    rcases hd with ⟨t', ht', hr⟩ | hd
    · by_cases heq : t' ∈ s.tasks.eraseIdx n
      · exact Or.inl ⟨t', heq, hr⟩
      · have htt : t' = t := by
          obtain ⟨m, hm⟩ := List.mem_iff_getElem?.mp ht'
          by_cases hnm : m = n
          · subst hnm
            exact Option.some.inj (hm.symm.trans ht)
          · exact absurd (List.mem_eraseIdx_iff_getElem?.mpr ⟨m, hnm, hm⟩) heq
        subst htt
        have hlog := (hI.task t' ht').logged a hans
        exact Or.inr ⟨_, hlog, hr⟩
    · exact Or.inr hd
  | other b => cases hs

/-- **No lost class update.**  In every run, no completed addition to a roster is lost and no
deleted class comes back, exactly if every write that puts back a copy is served while the copy
is up to date. -/
theorem sansPerte_run_iff (S : Server) (b : Base) (pages : ι → Pages)
    (as : List (Act ι Evenement Base)) :
    Always (pas S) SansPerte (Sys.init b pages) as ↔
      AllMeet (pas S) CopieAJour (Sys.init b pages) as := by
  refine always_iff_allMeet (I := fun s => s.Issued Conforme) ?_
    (fun _ _ _ hI h hs => pas_sansPerte_iff hI h hs) (Sys.Issued.init b pages) ?_ as
  · intro s a s' hI hs
    have hstep : s.step (administration S) a = some s' := by
      cases a <;> first | exact hs | cases hs
    exact hI.step (administration S) (fun _ _ _ _ hp => Pages.on_conforme hp) hstep
  · exact ⟨fun c e hadd => by simp [Ajoutee, Sys.init] at hadd,
      fun c hsup => by simp [Supprimee, Sys.init] at hsup⟩

end Systeme

/-! ### Two administrators and one class -/

/-- One class without students. -/
def uneClasse : Base where
  docs
    | .classes => Table.ofRows [("c1", newDoc 0
        [texte .nom "3e A", texte .niveau "3e", texte .etablissementId "e1", textes .elevesIds []])]
    | _ => Table.empty

/-- Everybody looks at that class. -/
def surUneClasse : Pages where
  ajout := { etablissementId := "e1" }
  edition := { idClasse := "c1" }
  detail := { classeId := "c1" }

/-- The first administrator loads the class, the second one adds a student, then the first one
saves a new name. -/
def ajoutPerdu : List (Act Bool Evenement Base) :=
  [.event false .chargerClasse, .serve 0, .resume 0,
    .event true (.ajouterEleve "e1" "c1" "x"), .serve 0, .resume 0, .serve 0, .resume 0,
    .event false (.saisirEdition "3e B" (some "3e")), .event false .modifierClasse, .serve 0]

/-- The first administrator loads the class, the second one deletes it, then the first one saves a
new name. -/
def classeRevenue : List (Act Bool Evenement Base) :=
  [.event false .chargerClasse, .serve 0, .resume 0,
    .event true (.supprimerClasse "c1" true), .serve 0, .resume 0,
    .event false (.saisirEdition "3e B" (some "3e")), .event false .modifierClasse, .serve 0]

instance {ι : Type} (s : Systeme ι) (c e : String) : Decidable (Ajoutee s c e) :=
  inferInstanceAs (Decidable (∃ x ∈ s.log, _))

instance {ι : Type} (s : Systeme ι) (c : String) : Decidable (Supprimee s c) :=
  inferInstanceAs (Decidable (∃ x ∈ s.log, _))

instance {ι : Type} (s : Systeme ι) (c e : String) : Decidable (RetraitDemande s c e) :=
  inferInstanceAs (Decidable ((∃ t ∈ s.tasks, _) ∨ ∃ x ∈ s.log, _))

theorem not_sansPerte_uneClasse :
    ¬Always (pas (Server.longest 10)) SansPerte
      (Sys.init uneClasse fun _ => surUneClasse) ajoutPerdu ∧
    ¬Always (pas (Server.longest 10)) SansPerte
      (Sys.init uneClasse fun _ => surUneClasse) classeRevenue := by
  constructor
  · refine not_always_of_final (fun s => Ajoutee s "c1" "x" ∧ ¬RetraitDemande s "c1" "x" ∧
      "x" ∉ elevesDeClasse s.base "c1") (fun s hs hP => ?_) (by rfl)
    obtain ⟨hadd, hdem, hout⟩ := of_decide_eq_true hs
    exact hout (hP.ajouts _ _ hadd hdem)
  · refine not_always_of_final (fun s => Supprimee s "c1" ∧
      (s.base.doc .classes "c1").isSome) (fun s hs hP => ?_) (by rfl)
    obtain ⟨hsup, hdoc⟩ := of_decide_eq_true hs
    rw [hP.suppressions _ hsup] at hdoc
    cases hdoc

end EduConnect.Admin
