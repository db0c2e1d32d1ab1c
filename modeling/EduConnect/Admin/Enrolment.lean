import EduConnect.Admin.Eleves
import EduConnect.Lib.Mirror
import EduConnect.Lib.Runs

/-!
# Enrolment: the class of a student and the roster of a class

A student's class is stored in `eleves[e].classeId` and again in `classes[c].elevesIds`.  Four
screens write one copy or both; here each runs to completion alone (`executer`) and a run is a list
of such operations.  `Coherent` says that the copies agree: it is `Lib.Mirror` for the function
`classeDe` and the index `inscrits`.
-/

namespace EduConnect.Admin

open Lib Prog

/-! ## The two copies -/

/-- The class in the document of the student `e`. -/
def classeDe (b : Base) (e : String) : Option String :=
  match b.doc .eleves e with
  | some d => match d .classeId with
    | some (.str c) => some c
    | _ => none
  | none => none

/-- The students on the roster of `c`. -/
def inscrits (b : Base) (c : String) : Set String := {e | e ∈ elevesDeClasse b c}

/-- A student is on the roster of a class exactly if his document exists and names that class. -/
def Coherent (b : Base) : Prop :=
  ∀ e c, e ∈ elevesDeClasse b c ↔
    ∃ d, b.doc .eleves e = some d ∧ d .classeId = some (.str c)

theorem classeDe_eq_some_iff {b : Base} {e c : String} :
    classeDe b e = some c ↔ ∃ d, b.doc .eleves e = some d ∧ d .classeId = some (.str c) := by
  unfold classeDe
  cases hd : b.doc .eleves e with
  | none => simp
  | some d =>
    simp only [Option.some.injEq, exists_eq_left']
    split
    · rename_i c' hc
      simp [hc]
    · rename_i hne
      simp only [reduceCtorEq, false_iff]
      exact fun hc => hne c hc

theorem coherent_iff_mirror {b : Base} : Coherent b ↔ Mirror (classeDe b) (inscrits b) :=
  forall_congr' fun _ => forall_congr' fun _ => iff_congr Iff.rfl classeDe_eq_some_iff.symm

theorem classeDe_putDoc (b : Base) (e : String) (d : Document) :
    classeDe (b.putDoc .eleves e d) = Function.update (classeDe b) e
      (match d .classeId with
        | some (.str c) => some c
        | _ => none) := by
  funext x
  by_cases hx : x = e
  · subst hx
    simp [classeDe, Data.doc_putDoc]
  · simp [classeDe, Data.doc_putDoc, hx]

theorem classeDe_eraseDoc (b : Base) (e : String) :
    classeDe (b.eraseDoc .eleves e) = Function.update (classeDe b) e none := by
  funext x
  by_cases hx : x = e
  · subst hx
    simp [classeDe, Data.doc_eraseDoc]
  · simp [classeDe, Data.doc_eraseDoc, hx]

theorem inscrits_putDoc (b : Base) (c : String) (d : Document) :
    inscrits (b.putDoc .classes c d) =
      Function.update (inscrits b) c {e | e ∈ strsOf (d .elevesIds)} := by
  funext x
  by_cases hx : x = c
  · subst hx
    simp [inscrits, elevesDeClasse_putDoc]
  · simp [inscrits, elevesDeClasse_putDoc, hx]

/-! Writes to other collections. -/

theorem classeDe_congr {b b' : Base} (h : b'.docs .eleves = b.docs .eleves) :
    classeDe b' = classeDe b := by
  funext e
  simp [classeDe, Data.doc, h]

theorem inscrits_congr {b b' : Base} (h : b'.docs .classes = b.docs .classes) :
    inscrits b' = inscrits b := by
  funext c
  simp [inscrits, elevesDeClasse, Data.doc, h]

/-! ## Operations -/

/-- One run of one of the four screens, from the state of its page. -/
inductive Operation where
  | enregistrer (p : AjoutEleve)
  | modifier (p : ModificationEleve)
  | supprimer (p : ListeEleves) (utilisateurId eleveId : String) (confirmation : Bool)
  | reinitialiser (p : ClasseDetail)

/-- The data after a run of `p` in which no request fails. -/
def aboutit {σ : Type} (S : Server) (p : Action Etape σ Unit) (s : σ) (b : Base) : Option Base :=
  (p.clean S.handler s b).map fun x => x.2.2

/-- The class selected in a form is one the form offers: an existing one. -/
def classeOfferte (b : Base) : Option String → Bool
  | some c => (b.doc .classes c).isSome
  | none => true

/-- The data after an operation run to completion without failure. -/
def executer (S : Server) (b : Base) : Operation → Option Base
  | .enregistrer p =>
    if classeOfferte b p.classeIdSelectionne then aboutit S AjoutEleve.enregistrerEleve p b
    else none
  | .modifier p =>
    if classeOfferte b p.classeIdSelectionnee then aboutit S ModificationEleve.modifierEleve p b
    else none
  | .supprimer p utilisateurId eleveId confirmation =>
    aboutit S (ListeEleves.supprimerUtilisateur utilisateurId eleveId confirmation) p b
  | .reinitialiser p => aboutit S ClasseDetail.resetClasse p b

theorem of_aboutit {σ : Type} {S : Server} {p : Action Etape σ Unit} {s : σ} {b b' : Base}
    {Q : Base → Prop} (h : aboutit S p s b = some b')
    (hp : p.Post S.handler (fun _ _ b' => Q b') s b) : Q b' := by
  obtain ⟨⟨a, s', b₁⟩, hx, rfl⟩ := Option.map_eq_some_iff.mp h
  exact hp a s' b₁ hx

/-- The operation changes no student's class and no roster, an enrolment apart. -/
def Respecte (b : Base) : Operation → Prop
  | .enregistrer _ => True
  | .modifier p => p.validate → classeDe b p.eleveId = p.classeIdSelectionnee
  | .supprimer _ _ eleveId confirmation => confirmation → classeDe b eleveId = none
  | .reinitialiser p => elevesDeClasse b p.classeId = []

/-! ## What the operations do to the two copies -/

/-- Ids of students and in rosters are ids of accounts, and rosters can be read as lists. -/
structure Tenue (b : Base) : Prop where
  eleves : ∀ e, b.accounts.find e = none → b.doc .eleves e = none
  listes : ∀ e, b.accounts.find e = none → ∀ c, e ∉ elevesDeClasse b c
  champs : ∀ c d, b.doc .classes c = some d → ∃ l, (d.get .elevesIds).orList = .ok l

/-- A store with no students: no document, and nobody on a roster. -/
structure SansEleve (b : Base) : Prop where
  eleves : ∀ e, b.doc .eleves e = none
  champs : ∀ c d, b.doc .classes c = some d → (d.get .elevesIds).orList = .ok []

theorem SansEleve.elevesDeClasse {b : Base} (h : SansEleve b) (c : String) :
    elevesDeClasse b c = [] := by
  cases hd : b.doc .classes c with
  | none => simp [EduConnect.elevesDeClasse, hd]
  | some d =>
    rw [elevesDeClasse_of_doc hd, strsOf, arrayOf_of_orList (h.champs c d hd)]
    rfl

theorem SansEleve.tenue {b : Base} (h : SansEleve b) : Tenue b where
  eleves e _ := h.eleves e
  listes e _ c := by simp [h.elevesDeClasse c]
  champs c d hd := ⟨[], h.champs c d hd⟩

theorem SansEleve.coherent {b : Base} (h : SansEleve b) : Coherent b := by
  refine coherent_iff_mirror.mpr (Mirror.of_empty (fun e => ?_) fun c => ?_)
  · simp [classeDe, h.eleves e]
  · simp [inscrits, h.elevesDeClasse c]

/-! ### Creation -/

section Inscription

variable {b b' : Base} {u c : String} {d : Document} {l : List Valeur}

theorem inscription_classeDe (h : AjoutEleve.Inscription b u c d l b') :
    classeDe b' = Function.update (classeDe b) u (some c) := by
  funext e
  by_cases he : e = u
  · subst he
    rw [Function.update_self, classeDe, h.eleves, if_pos rfl]
    rfl
  · rw [Function.update_of_ne he, classeDe, h.eleves, if_neg he, classeDe]

theorem inscription_inscrits (hd : b.doc .classes c = some d)
    (hl : (d.get .elevesIds).orList = .ok l) (h : AjoutEleve.Inscription b u c d l b') :
    inscrits b' = Function.update (inscrits b) c (Set.insert u (inscrits b c)) := by
  funext k
  by_cases hk : k = c
  · subst hk
    have hk' : b'.doc .classes k = _ := (h.classes k).trans (if_pos rfl)
    ext e
    rw [Function.update_self, inscrits, inscrits, elevesDeClasse_of_doc hk',
      elevesDeClasse_of_doc hd]
    simp only [strsOf, arrayOf_of_orList hl]
    show _ ↔ e = u ∨ _
    simp [FieldOp.eval, arrayOf, or_comm]
  · rw [Function.update_of_ne hk, inscrits, inscrits, elevesDeClasse, h.classes, if_neg hk,
      ← elevesDeClasse]

theorem inscription_tenue (ht : Tenue b) (hd : b.doc .classes c = some d)
    (hl : (d.get .elevesIds).orList = .ok l) (h : AjoutEleve.Inscription b u c d l b') :
    Tenue b' := by
  obtain ⟨x, hx⟩ := h.compte
  -- an id without account is not the new one, and had no account before
  have hcompte : ∀ e, b'.accounts.find e = none → e ≠ u ∧ b.accounts.find e = none := by
    intro e he
    rw [hx, Table.find_put] at he
    split_ifs at he with heu
    exact ⟨heu, he⟩
  refine ⟨fun e he => ?_, fun e he k hk => ?_, fun k dk hk => ?_⟩
  · obtain ⟨hne, he⟩ := hcompte e he
    rw [h.eleves, if_neg hne, ht.eleves e he]
  · obtain ⟨hne, he⟩ := hcompte e he
    have hk' : e ∈ inscrits b' k := hk
    rw [inscription_inscrits hd hl h] at hk'
    by_cases hkc : k = c
    · subst hkc
      rw [Function.update_self] at hk'
      rcases hk' with rfl | hk'
      · exact hne rfl
      · exact ht.listes e he k hk'
    · rw [Function.update_of_ne hkc] at hk'
      exact ht.listes e he k hk'
  · rw [h.classes] at hk
    split_ifs at hk
    · cases hk
      exact ⟨l ++ [.str u], rfl⟩
    · exact ht.champs k dk hk

end Inscription

/-- What an enrolment run to completion does. -/
theorem executer_enregistrer {S : Server} {b b' : Base} {p : AjoutEleve} (ht : Tenue b)
    (h : executer S b (.enregistrer p) = some b') :
    b' = b ∨ ∃ c d l, b.doc .classes c = some d ∧ (d.get .elevesIds).orList = .ok l ∧
      AjoutEleve.Inscription b (S.newId b.accounts) c d l b' := by
  have hoffre : classeOfferte b p.classeIdSelectionne = true := by
    by_contra hno
    rw [executer, if_neg hno] at h
    cases h
  rw [executer, if_pos hoffre] at h
  cases hc : p.classeIdSelectionne with
  | none =>
    left
    refine of_aboutit (Q := fun b' => b' = b) h ?_
    have hvalide : ¬p.validate = true := by simp [AjoutEleve.validate, hc]
    simp [AjoutEleve.enregistrerEleve, hvalide]
  | some c =>
    rw [hc] at hoffre
    obtain ⟨d, hd⟩ := Option.isSome_iff_exists.mp hoffre
    obtain ⟨l, hl⟩ := ht.champs c d hd
    have hu : l.any (Value.isStr (S.newId b.accounts)) = false := by
      rw [Bool.eq_false_iff, ← arrayOf_of_orList hl]
      intro hmem
      refine ht.listes _ (S.find_newId b.accounts) c ?_
      rw [elevesDeClasse_of_doc hd]
      exact mem_strsOf.mpr hmem
    have hpost := of_aboutit h (AjoutEleve.post_enregistrerEleve hc hd hl hu)
    exact hpost.imp_right fun hi => ⟨c, d, l, hd, hl, hi⟩

/-! ### Edit, deletion, reset -/

theorem executer_modifier {S : Server} {b b' : Base} {p : ModificationEleve}
    (h : executer S b (.modifier p) = some b') :
    if p.validate then ∃ c d d', p.classeIdSelectionnee = some c ∧
        b.doc .eleves p.eleveId = some d ∧
        b' = (b.putDoc .eleves p.eleveId (writeFields b.clock d (p.updatedData c))).putDoc
          .utilisateurs p.eleveId d'
      else b' = b := by
  rw [executer] at h
  split_ifs at h
  exact of_aboutit h ModificationEleve.post_modifierEleve

/-- An edit moves the function only. -/
theorem modifier_classeDe {b : Base} {p : ModificationEleve} {c : String} {d d' : Document} :
    classeDe ((b.putDoc .eleves p.eleveId (writeFields b.clock d (p.updatedData c))).putDoc
      .utilisateurs p.eleveId d') = Function.update (classeDe b) p.eleveId (some c) := by
  rw [classeDe_congr (Data.docs_putDoc_ne _ (by decide) _ _), classeDe_putDoc]
  rfl

theorem modifier_inscrits {b : Base} {p : ModificationEleve} {d d' : Document} :
    inscrits ((b.putDoc .eleves p.eleveId d).putDoc .utilisateurs p.eleveId d') = inscrits b := by
  rw [inscrits_congr (Data.docs_putDoc_ne _ (by decide) _ _),
    inscrits_congr (Data.docs_putDoc_ne _ (by decide) _ _)]

theorem executer_supprimer {S : Server} {b b' : Base} {p : ListeEleves} {utilisateurId eleveId}
    {confirmation : Bool} (h : executer S b (.supprimer p utilisateurId eleveId confirmation) =
      some b') :
    b' = if confirmation then (b.eraseDoc .eleves eleveId).eraseDoc .utilisateurs utilisateurId
      else b :=
  of_aboutit (Q := fun b' => b' = if confirmation then
    (b.eraseDoc .eleves eleveId).eraseDoc .utilisateurs utilisateurId else b) h
    ListeEleves.post_supprimerUtilisateur

theorem supprimer_classeDe {b : Base} {eleveId utilisateurId : String} :
    classeDe ((b.eraseDoc .eleves eleveId).eraseDoc .utilisateurs utilisateurId) =
      Function.update (classeDe b) eleveId none := by
  rw [classeDe_congr (Data.docs_eraseDoc_ne _ (by decide) _), classeDe_eraseDoc]

theorem supprimer_inscrits {b : Base} {eleveId utilisateurId : String} :
    inscrits ((b.eraseDoc .eleves eleveId).eraseDoc .utilisateurs utilisateurId) = inscrits b := by
  rw [inscrits_congr (Data.docs_eraseDoc_ne _ (by decide) _),
    inscrits_congr (Data.docs_eraseDoc_ne _ (by decide) _)]

theorem executer_reinitialiser {S : Server} {b b' : Base} {p : ClasseDetail}
    (h : executer S b (.reinitialiser p) = some b') :
    ∃ d, b.doc .classes p.classeId = some d ∧ b' =
      b.putDoc .classes p.classeId (writeFields b.clock d ClasseDetail.listesVides) :=
  of_aboutit h ClasseDetail.post_resetClasse

theorem reinitialiser_inscrits {b : Base} {c : String} {d : Document} :
    inscrits (b.putDoc .classes c (writeFields b.clock d ClasseDetail.listesVides)) =
      Function.update (inscrits b) c ∅ := by
  have hvide : writeFields b.clock d ClasseDetail.listesVides .elevesIds =
      some (.strs []) := rfl
  rw [inscrits_putDoc, hvide, strsOf_strs]
  simp

theorem reinitialiser_classeDe {b : Base} {c : String} {d : Document} :
    classeDe (b.putDoc .classes c d) = classeDe b :=
  classeDe_congr (Data.docs_putDoc_ne _ (by decide) _ _)

/-! ### Steps and runs -/

/-- Step lemma: every operation keeps ids and lists as `Tenue` says. -/
theorem executer_tenue {S : Server} {b b' : Base} {op : Operation} (ht : Tenue b)
    (h : executer S b op = some b') : Tenue b' := by
  cases op with
  | enregistrer p =>
    rcases executer_enregistrer ht h with rfl | ⟨c, d, l, hd, hl, hi⟩
    · exact ht
    · exact inscription_tenue ht hd hl hi
  | modifier p =>
    have hb := executer_modifier h
    split_ifs at hb
    · obtain ⟨c, d, d', -, hd, rfl⟩ := hb
      refine ⟨fun e he => ?_, fun e he k hk => ?_, fun k dk hk => ?_⟩
      · have hne : e ≠ p.eleveId := by
          rintro rfl
          have := ht.eleves _ he
          rw [hd] at this
          cases this
        simpa [Data.doc_putDoc, hne] using ht.eleves e he
      · exact ht.listes e he k (by simpa [elevesDeClasse, Data.doc_putDoc] using hk)
      · exact ht.champs k dk (by simpa [Data.doc_putDoc] using hk)
    · rw [hb]
      exact ht
  | supprimer p utilisateurId eleveId confirmation =>
    have hb := executer_supprimer h
    split_ifs at hb
    · subst hb
      refine ⟨fun e he => ?_, fun e he k hk => ?_, fun k dk hk => ?_⟩
      · by_cases hne : e = eleveId
        · simp [Data.doc_eraseDoc, hne]
        · simpa [Data.doc_eraseDoc, hne] using ht.eleves e he
      · exact ht.listes e he k (by simpa [elevesDeClasse, Data.doc_eraseDoc] using hk)
      · exact ht.champs k dk (by simpa [Data.doc_eraseDoc] using hk)
    · rw [hb]
      exact ht
  | reinitialiser p =>
    obtain ⟨d, hd, rfl⟩ := executer_reinitialiser h
    refine ⟨fun e he => ?_, fun e he k hk => ?_, fun k dk hk => ?_⟩
    · simpa [Data.doc_putDoc] using ht.eleves e he
    · have hk' : e ∈ inscrits _ k := hk
      rw [reinitialiser_inscrits] at hk'
      by_cases hkc : k = p.classeId
      · subst hkc
        simp at hk'
      · rw [Function.update_of_ne hkc] at hk'
        exact ht.listes e he k hk'
    · by_cases hkc : k = p.classeId
      · subst hkc
        rw [Data.doc_putDoc, if_pos ⟨rfl, rfl⟩] at hk
        cases hk
        exact ⟨[], rfl⟩
      · exact ht.champs k dk (by simpa [Data.doc_putDoc, hkc] using hk)

/-- Step lemma: from a coherent store, an operation leads to a coherent store exactly if it is
an enrolment or changes no student's class and no roster. -/
theorem executer_coherent_iff {S : Server} {b b' : Base} {op : Operation} (ht : Tenue b)
    (hc : Coherent b) (h : executer S b op = some b') : Coherent b' ↔ Respecte b op := by
  have hm : Mirror (classeDe b) (inscrits b) := coherent_iff_mirror.mp hc
  cases op with
  | enregistrer p =>
    refine iff_of_true ?_ trivial
    rcases executer_enregistrer ht h with rfl | ⟨c, d, l, hd, hl, hi⟩
    · exact hc
    · have hnew : classeDe b (S.newId b.accounts) = none := by
        simp [classeDe, ht.eleves _ (S.find_newId b.accounts)]
      rw [coherent_iff_mirror, inscription_classeDe hi, inscription_inscrits hd hl hi]
      exact hm.insert hnew c
  | modifier p =>
    have hb := executer_modifier h
    split_ifs at hb with hvalide
    · obtain ⟨c, d, d', hsel, -, rfl⟩ := hb
      rw [coherent_iff_mirror, modifier_classeDe, modifier_inscrits, hm.update_left_iff]
      simp [Respecte, hvalide, hsel]
    · subst hb
      exact iff_of_true hc fun hv => absurd hv hvalide
  | supprimer p utilisateurId eleveId confirmation =>
    have hb := executer_supprimer h
    split_ifs at hb with hconf
    · subst hb
      rw [coherent_iff_mirror, supprimer_classeDe, supprimer_inscrits, hm.update_left_iff]
      simp [Respecte, hconf]
    · subst hb
      exact iff_of_true hc fun hv => absurd hv hconf
  | reinitialiser p =>
    obtain ⟨d, -, rfl⟩ := executer_reinitialiser h
    rw [coherent_iff_mirror, reinitialiser_classeDe, reinitialiser_inscrits, hm.update_right_iff]
    simp [Respecte, inscrits, Set.eq_empty_iff_forall_notMem, List.eq_nil_iff_forall_not_mem]

/-- **Enrolment consistency.**  From a store without students, a run of the four operations stays
coherent exactly if every edit keeps the class of the student, every confirmed deletion names a
student without class, and every reset is of a class whose roster is empty. -/
theorem coherent_run_iff (S : Server) {b : Base} (h : SansEleve b) (ops : List Operation) :
    Always (executer S) Coherent b ops ↔ AllMeet (executer S) Respecte b ops :=
  always_iff_allMeet (I := Tenue) (fun _ _ _ ht hs => executer_tenue ht hs)
    (fun _ _ _ ht hc hs => executer_coherent_iff ht hc hs) h.tenue h.coherent ops

/-! ### A school with one enrolment -/

/-- A store with a student role and two classes. -/
def uneEcole : Base where
  docs
    | .roles => Table.ofRows [("r1", newDoc 0 [texte .nom "eleve"])]
    | .classes => Table.ofRows
      [("c1", newDoc 0 [texte .nom "3e A", textes .elevesIds []]),
        ("c2", newDoc 0 [texte .nom "3e B"])]
    | _ => Table.empty

/-- A student created in the class `c1`. -/
def uneInscription : Operation := .enregistrer {
  etablissementId := "e1"
  nom := "Ngono"
  prenom := "Awa"
  email := "awa@ecole.cm"
  telephone := "600000000"
  adresse := "Douala"
  motDePasse := "secret"
  etablissement := some (newDoc 0 [])
  classeIdSelectionne := some "c1" }

/-- The same student moved to the class `c2`. -/
def unChangement : Operation := .modifier {
  eleveId := "x"
  nom := "Ngono"
  prenom := "Awa"
  email := "awa@ecole.cm"
  telephone := "600000000"
  adresse := "Douala"
  classeIdSelectionnee := some "c2" }

def uneSuppression : Operation := .supprimer { etablissementId := "e1" } "x" "x" true

def uneReinitialisation : Operation := .reinitialiser { classeId := "c1" }

theorem sansEleve_uneEcole : SansEleve uneEcole where
  eleves _ := rfl
  champs c d hd := by
    rw [Data.doc, Table.find_eq_some_iff] at hd
    have hrows : (uneEcole.docs .classes).rows =
        [("c1", newDoc 0 [texte .nom "3e A", textes .elevesIds []]),
          ("c2", newDoc 0 [texte .nom "3e B"])] := rfl
    rw [hrows] at hd
    simp only [List.mem_cons, Prod.mk.injEq, List.not_mem_nil, or_false] at hd
    rcases hd with ⟨-, rfl⟩ | ⟨-, rfl⟩ <;> rfl

theorem coherent_run_iff_uneEcole :
    Always (executer (Server.longest 10)) Coherent uneEcole [uneInscription, unChangement] ↔
      AllMeet (executer (Server.longest 10)) Respecte uneEcole [uneInscription, unChangement] :=
  coherent_run_iff (Server.longest 10) sansEleve_uneEcole [uneInscription, unChangement]

/-- The copies differ on whether `e` is in `c`. -/
def ecart (e c : String) (b : Base) : Bool :=
  decide (e ∈ elevesDeClasse b c) != decide (classeDe b e = some c)

theorem not_coherent_of_ecart {b : Base} {e c : String} (h : ecart e c b = true) :
    ¬Coherent b := by
  intro hb
  have hiff : e ∈ elevesDeClasse b c ↔ classeDe b e = some c :=
    (hb e c).trans classeDe_eq_some_iff.symm
  simp [ecart, hiff] at h

/-- After an enrolment, moving the student, deleting him or resetting his class each leave the two
copies in disagreement. -/
theorem not_coherent_uneEcole :
    ¬Always (executer (Server.longest 10)) Coherent uneEcole [uneInscription, unChangement] ∧
    ¬Always (executer (Server.longest 10)) Coherent uneEcole [uneInscription, uneSuppression] ∧
    ¬Always (executer (Server.longest 10)) Coherent uneEcole
      [uneInscription, uneReinitialisation] := by
  have hecart : ∀ ops : List Operation,
      ((ops.foldlM (executer (Server.longest 10)) uneEcole).any (ecart "x" "c1")) = true →
      ¬Always (executer (Server.longest 10)) Coherent uneEcole ops :=
    fun _ => not_always_of_final (ecart "x" "c1") fun _ => not_coherent_of_ecart
  exact ⟨hecart _ rfl, hecart _ rfl, hecart _ rfl⟩

end EduConnect.Admin
