import EduConnect.Messagerie.Identites
import EduConnect.Messagerie.Suppressions

/-!
# Confidential conversations

Who lists a message.  A page lists it when both ids the page works with are among the two ids the
message was sent with, so everything depends on the ids by which the accounts know each other.
-/

namespace EduConnect.Messagerie

open Lib Prog

/-! ## Opened pages -/

/-- A conversation page opened from the messaging list of an account. -/
structure Ouverte (toLowerCase : String → String) (S : Server) (b : Base) where
  compte : String
  correspondant : String
  bouts : Bouts
  ouvre : (bouts, correspondant) ∈ contacts S b toLowerCase compte

variable {toLowerCase : String → String} {S : Server} {b : Base}

namespace Ouverte

/-- The id of the owner's document and the id he designates his correspondent by. -/
def ids (p : Ouverte toLowerCase S b) : List String :=
  [identite b p.bouts.role p.compte, p.bouts.interlocuteur]

theorem ids_eq (p : Ouverte toLowerCase S b) : p.ids = [p.bouts.moi, p.bouts.interlocuteur] := by
  have hmoi := (mem_contacts p.ouvre).1
  rw [ids, hmoi]

/-- The correspondent knows the owner by the ids of this page, and no third account does. -/
structure Separee (c : Ouverte toLowerCase S b) : Prop where
  reciproque : ∀ p : Ouverte toLowerCase S b, p.compte = c.correspondant →
    p.correspondant = c.compte → p.ids ⊆ c.ids
  seule : ∀ p : Ouverte toLowerCase S b, p.compte ≠ c.compte → p.compte ≠ c.correspondant →
    ¬p.ids ⊆ c.ids

end Ouverte

/-! ## Runs without deletions -/

def Evenement.supprime : Evenement → Bool
  | .supprimerPourMoi _ => true
  | .supprimerPourTous _ => true
  | _ => false

section Executions

variable {ι : Type}

/-- The conversation pages of users who delete nothing. -/
def messagerieSansSuppression (ι : Type) (S : Server) :
    Spec ι Geste Requete Req.Ans Err Conversation Base Evenement :=
  { messagerie ι S with on := fun _ ev p => if ev.supprime then none else p.on ev }

def pasSansSuppression [DecidableEq ι] (S : Server) (s : Systeme ι) (a : Act ι Evenement Base) :
    Option (Systeme ι) :=
  s.closedStep (messagerieSansSuppression ι S) a

theorem pas_of_sansSuppression [DecidableEq ι] {s s' : Systeme ι} {a : Act ι Evenement Base}
    (h : pasSansSuppression S s a = some s') : pas S s a = some s' := by
  rcases a with ⟨i, ev⟩ | n | n | n | b'
  · obtain ⟨p, hp, rfl⟩ := Option.map_eq_some_iff.mp h
    have hon : (if ev.supprime then none else (s.pages i).on ev) = some p := hp
    split_ifs at hon
    show ((s.pages i).on ev).map _ = _
    rw [hon]
    rfl
  all_goals exact h

/-- The gesture deletes nothing. -/
def Geste.Conserve : Geste → Prop
  | .pourMoi _ _ => False
  | .pourTous _ => False
  | _ => True

abbrev SansRetrait (s : Systeme ι) : Prop := s.Issued fun l _ => l.Conserve

theorem issues_on {p : Conversation} {ev : Evenement} (hev : ev.supprime = false)
    {q : Action Geste Conversation Unit} (hq : p.on ev = some q) :
    q.Issues fun l _ => l.Conserve := by
  have hmarquer : ∀ messages, (Conversation.marquerMessagesCommeLus messages).Issues
      fun l _ => l.Conserve :=
    fun messages => .bind (fun _ => trivial) fun p => (issues_call _ _).mpr trivial
  rcases ev with _ | _ | contenu | maintenant | n | _ | n | n | n
  · obtain rfl := Option.some.inj hq
    refine .bind (.bind (fun _ => trivial) fun p => ?_) fun messages => hmarquer messages
    exact .bind ((issues_call _ _).mpr trivial) fun docs => issues_ofExcept _
  · obtain rfl := Option.some.inj hq
    exact .bind (fun _ => trivial) fun p => hmarquer p.messages
  · obtain rfl := Option.some.inj hq
    exact trivial
  · obtain rfl := Option.some.inj hq
    intro p
    refine .ite trivial (.bind ?_ fun _ => trivial)
    unfold Conversation.deposer
    rcases p.messageEnCoursEdition with _ | m
    · exact .bind ((issues_ajouter _ _ _).mpr trivial) fun _ => trivial
    · exact .bind ((issues_ecrire _ _).mpr trivial) fun _ => trivial
  · obtain ⟨msg, -, rfl⟩ := Option.map_eq_some_iff.mp hq
    exact trivial
  · obtain rfl := Option.some.inj hq
    exact trivial
  · obtain ⟨msg, -, rfl⟩ := Option.map_eq_some_iff.mp hq
    exact trivial
  · cases hev
  · cases hev

theorem SansRetrait.step [DecidableEq ι] {s s' : Systeme ι} {a : Act ι Evenement Base}
    (h : SansRetrait s) (hs : pasSansSuppression S s a = some s') : SansRetrait s' := by
  refine Sys.Issued.step (messagerieSansSuppression ι S) (fun i ev p q hq => ?_) h
    (Sys.step_of_closedStep hs)
  have hon : (if ev.supprime then none else p.on ev) = some q := hq
  split_ifs at hon with hev
  exact issues_on (Bool.not_eq_true _ ▸ hev) hon

/-- The gesture a fact comes from. -/
theorem lab_of_fait {x : Echange ι} {f : Fait} (h : fait x = some f) :
    (∃ id e r contenu, f = .envoye id e r ∧ x.lab = .envoi e r contenu) ∨
    (∃ moi msg, f = .retire moi msg ∧ x.lab = .pourMoi moi msg) ∨
    ∃ msg, f = .efface msg.id ∧ x.lab = .pourTous msg := by
  unfold fait at h
  split at h
  · obtain rfl := Option.some.inj h
    exact Or.inl ⟨_, _, _, _, rfl, rfl⟩
  · obtain rfl := Option.some.inj h
    exact Or.inr (Or.inl ⟨_, _, rfl, rfl⟩)
  · obtain rfl := Option.some.inj h
    exact Or.inr (Or.inr ⟨_, rfl, rfl⟩)
  · cases h

/-- Nothing has been deleted. -/
theorem SansRetrait.histoire {s : Systeme ι} (h : SansRetrait s) {f : Fait}
    (hf : f ∈ histoire s.log) : ∃ id e r, f = .envoye id e r := by
  obtain ⟨x, hx, hfait⟩ := List.mem_filterMap.mp hf
  have hlab : x.lab.Conserve := h.sent x hx
  rcases lab_of_fait hfait with ⟨id, e, r, _, heq, -⟩ | ⟨moi, msg, -, hl⟩ | ⟨msg, -, hl⟩
  · exact ⟨id, e, r, heq⟩
  · rw [hl] at hlab
    exact hlab.elim
  · rw [hl] at hlab
    exact hlab.elim

/-! ## Who lists a message -/

variable {bouts : ι → Bouts}

/-- A message sent is listed by the pages that work with ids it was sent with. -/
theorem listes_envoye {s : Systeme ι} (hI : Invariant bouts s) (hS : SansRetrait s) {id e r : String}
    (he : .envoye id e r ∈ histoire s.log) (p : Conversation) :
    id ∈ listes S s.base p ↔ p.moi ∈ [e, r] ∧ p.interlocuteur ∈ [e, r] := by
  have hno : ∀ moi, ¬Retire (histoire s.log) moi id := by
    rintro moi ⟨msg, hmsg, -⟩
    obtain ⟨_, _, _, heq⟩ := hS.histoire hmsg
    cases heq
  rw [mem_listes hI.tenue.sain]
  rcases hm : courrier s.base id with _ | m
  · exfalso
    rcases hI.tenue.perdu id e r he hm with hf | ⟨moi, hr⟩
    · obtain ⟨_, _, _, heq⟩ := hS.histoire hf
      cases heq
    · exact hno moi hr
  · have hvu := hI.tenue.vu id m hm
    obtain ⟨rfl, rfl⟩ := hI.tenue.unique id _ _ _ _ (hI.tenue.id_eq hm ▸ hvu.envoye) he
    rw [← hI.tenue.intact id m hm hno]
    simp

/-- Every message typed in a page is listed there and in the pages of the correspondent for its
owner, and in no page of a third account. -/
def Confidentielle (pages : ι → Ouverte toLowerCase S b) (s : Systeme ι) : Prop :=
  ∀ x ∈ s.log, ∀ id e r, fait x = some (.envoye id e r) →
    id ∈ listes S s.base (pages x.who).bouts.ouvrir ∧
    (∀ p : Ouverte toLowerCase S b, p.compte = (pages x.who).correspondant →
      p.correspondant = (pages x.who).compte → id ∈ listes S s.base p.bouts.ouvrir) ∧
    ∀ p : Ouverte toLowerCase S b, p.compte ≠ (pages x.who).compte →
      p.compte ≠ (pages x.who).correspondant → id ∉ listes S s.base p.bouts.ouvrir

/-- The message about to be stored comes from a page whose ids only its two accounts share. -/
def EnvoiSepare (pages : ι → Ouverte toLowerCase S b) (s : Systeme ι) : Act ι Evenement Base → Prop
  | .serve n => ∀ t e r contenu, s.tasks[n]? = some t → t.lab = .envoi e r contenu →
    (pages t.who).Separee
  | _ => True

variable {pages : ι → Ouverte toLowerCase S b}

/-- In terms of the pages the messages come from. -/
theorem confidentielle_iff {s : Systeme ι} (hI : Invariant (fun i => (pages i).bouts) s)
    (hS : SansRetrait s) : Confidentielle pages s ↔
      ∀ x ∈ s.log, ∀ id e r, fait x = some (.envoye id e r) → (pages x.who).Separee := by
  refine forall₂_congr fun x hx => forall₃_congr fun id e r => forall_congr' fun hfait => ?_
  have he : .envoye id e r ∈ histoire s.log := List.mem_filterMap.mpr ⟨x, hx, hfait⟩
  have hids : (pages x.who).ids = [e, r] := by
    have hemise := hI.regle.sent x hx
    rcases lab_of_fait hfait with ⟨_, _, _, c, heq, hl⟩ | ⟨_, _, heq, -⟩ | ⟨_, heq, -⟩ <;> cases heq
    rw [hl] at hemise
    obtain ⟨-, rfl, rfl⟩ := hemise
    exact Ouverte.ids_eq _
  -- a page lists the message when its ids are among those of the page it was typed in
  have hliste : ∀ p : Ouverte toLowerCase S b,
      id ∈ listes S s.base p.bouts.ouvrir ↔ p.ids ⊆ (pages x.who).ids := by
    intro p
    rw [listes_envoye hI hS he, hids, Ouverte.ids_eq, Bouts.ouvrir_eq]
    simp only [List.cons_subset, List.nil_subset, and_true]
  simp only [hliste]
  constructor
  · rintro ⟨-, hrec, hseule⟩
    exact ⟨hrec, hseule⟩
  · intro h
    exact ⟨List.Subset.refl _, h.reciproque, h.seule⟩

variable [DecidableEq ι]

/-- Step lemma: conversations stay confidential in a step exactly if the message it stores comes
from a page whose ids only its two accounts share. -/
theorem pas_confidentielle_iff {s s' : Systeme ι} {a : Act ι Evenement Base}
    (hI : Invariant (fun i => (pages i).bouts) s) (hS : SansRetrait s) (h : Confidentielle pages s)
    (hs : pasSansSuppression S s a = some s') : Confidentielle pages s' ↔ EnvoiSepare pages s a := by
  rw [confidentielle_iff hI hS] at h
  rw [confidentielle_iff (hI.step (pas_of_sansSuppression hs)) (hS.step hs)]
  rcases Sys.step_cases (Sys.step_of_closedStep hs) with
    hp | @⟨n, t, ht, hans⟩ | @⟨n, t, ht, hans⟩ | @⟨n, t, a, ht, hans⟩ | b'
  · exact iff_of_true h trivial
  · constructor
    · intro h' t' e r contenu ht' hl
      obtain rfl := Option.some.inj (ht.symm.trans ht')
      have hemise := (hI.regle.task t (List.mem_of_getElem? ht)).issued.1
      obtain ⟨i, l, q, k, ans⟩ := t
      obtain rfl := hl
      obtain ⟨m, -, -, -, -, rfl⟩ := hemise
      exact h' _ (List.mem_append_right _ (List.mem_singleton.mpr rfl)) _ e r rfl
    · intro hc x hx id e r hfait
      rcases List.mem_append.mp hx with hx | hx
      · exact h x hx id e r hfait
      · obtain rfl := List.mem_singleton.mp hx
        rcases lab_of_fait hfait with ⟨_, _, _, c, heq, hl⟩ | ⟨_, _, heq, -⟩ | ⟨_, heq, -⟩ <;>
          cases heq
        exact hc t e r c ht hl
  · refine iff_of_true (fun x hx id e r hfait => ?_) trivial
    rcases List.mem_append.mp hx with hx | hx
    · exact h x hx id e r hfait
    · obtain rfl := List.mem_singleton.mp hx
      rw [fait_error] at hfait
      cases hfait
  · exact iff_of_true h trivial
  · cases hs

/-- **Conversations are confidential and reach the right person.**  In every run without deletions
of any number of conversation pages, every message is listed by the pages of its two accounts and by
no other, exactly if every message stored comes from a page whose ids its two accounts share and no
third account does. -/
theorem confidentielle_run_iff (hb : SansMessage b) (pages : ι → Ouverte toLowerCase S b)
    (as : List (Act ι Evenement Base)) :
    Always (pasSansSuppression S) (Confidentielle pages) (depart b fun i => (pages i).bouts) as ↔
      AllMeet (pasSansSuppression S) (EnvoiSepare pages) (depart b fun i => (pages i).bouts) as := by
  refine always_iff_allMeet
    (I := fun s => Invariant (fun i => (pages i).bouts) s ∧ SansRetrait s)
    (fun s a s' hI hs => ⟨hI.1.step (pas_of_sansSuppression hs), hI.2.step hs⟩)
    (fun s a s' hI h hs => pas_confidentielle_iff hI.1 hI.2 h hs)
    ⟨.init hb, Sys.Issued.init _ _⟩ ?_ as
  intro x hx
  cases hx

/-! ### Documents named after their accounts -/

/-- Every document of a role has the id of its account, and every account with a messaging list has
its document. -/
structure ParCompte (toLowerCase : String → String) (S : Server) (b : Base) : Prop where
  carte : ∀ (role : Role) id d, b.doc role.collection id = some d →
    d .utilisateurId = some (.str id)
  fiche : ∀ compte c v, (c, v) ∈ contacts S b toLowerCase compte →
    (b.doc c.role.collection compte).isSome

theorem ParCompte.identite_eq (h : ParCompte toLowerCase S b) {role : Role} {compte : String}
    (hdoc : (b.doc role.collection compte).isSome) : identite b role compte = compte := by
  rw [identite, Commun.ficheDe_eq (fun id d hd => h.carte role id d hd) hdoc]
  rfl

/-- The ids of a page are then the two accounts. -/
theorem ParCompte.ids_eq (h : ParCompte toLowerCase S b) (p : Ouverte toLowerCase S b) :
    p.ids = [p.compte, p.correspondant] := by
  have hmoi := h.identite_eq (h.fiche _ _ _ p.ouvre)
  have hinter : p.bouts.interlocuteur = p.correspondant := by
    have hdes := (mem_contacts p.ouvre).2
    have hcarte : (∃ d, b.doc .enseignants p.bouts.interlocuteur = some d ∧
        (d.get .utilisateurId).orStr "" = .ok p.correspondant) →
        p.bouts.interlocuteur = p.correspondant := by
      rintro ⟨d, hd, hu⟩
      have hs : d.get .utilisateurId = .str p.bouts.interlocuteur := by
        rw [Doc.get, h.carte .enseignant _ _ hd]
        rfl
      rw [hs] at hu
      exact Except.ok.inj hu
    unfold Designe at hdes
    rcases hr : p.bouts.role <;> rw [hr] at hdes
    · exact hdes
    · exact hcarte hdes
    · exact hcarte hdes
  rw [Ouverte.ids, hmoi, hinter]

theorem ParCompte.separee (h : ParCompte toLowerCase S b) (c : Ouverte toLowerCase S b) :
    c.Separee := by
  refine ⟨fun p hp hc => ?_, fun p hu hv hsub => ?_⟩
  · rw [h.ids_eq, h.ids_eq, hp, hc]
    intro x hx
    simpa [or_comm] using hx
  · rw [h.ids_eq, h.ids_eq] at hsub
    have hmem := hsub List.mem_cons_self
    rcases List.mem_cons.mp hmem with heq | hmem
    · exact hu heq
    · exact hv (List.mem_singleton.mp hmem)

/-- Where every document is named after its account, conversations stay confidential in all runs
without deletions. -/
theorem confidentielle_of_parCompte (hb : SansMessage b) (h : ParCompte toLowerCase S b)
    (pages : ι → Ouverte toLowerCase S b) (as : List (Act ι Evenement Base)) :
    Always (pasSansSuppression S) (Confidentielle pages) (depart b fun i => (pages i).bouts) as := by
  have hstart : Confidentielle pages (depart b fun i => (pages i).bouts) := fun x hx => by cases hx
  have hall : Always (pasSansSuppression S) (fun s => (Invariant (fun i => (pages i).bouts) s ∧
      SansRetrait s) ∧ Confidentielle pages s) (depart b fun i => (pages i).bouts) as := by
    refine always_of_step (fun s a s' hI hs => ?_) ⟨⟨.init hb, Sys.Issued.init _ _⟩, hstart⟩ as
    obtain ⟨⟨hI, hS⟩, hconf⟩ := hI
    have hcond : EnvoiSepare pages s a := by
      rcases a with _ | n | n | n | b'
      · trivial
      · exact fun t _ _ _ _ _ => h.separee _
      all_goals trivial
    exact ⟨⟨hI.step (pas_of_sansSuppression hs), hS.step hs⟩,
      (pas_confidentielle_iff hI hS hconf hs).mpr hcond⟩
  exact hall.mono fun s hs => hs.2

/-! ### Two parents without a document -/

/-- Accounts `p` and `q` of the role parent, without a parents document, and the teacher `t`. -/
def sansFiche : Base :=
  let compte (roleId : String) : Document :=
    newDoc 0 [texte .roleId roleId, texte .etablissementId "e"]
  ((((((baseVide.putDoc .roles "rp" (newDoc 0 [texte .nom "parent"])).putDoc
    .roles "re" (newDoc 0 [texte .nom "enseignant"])).putDoc
    .utilisateurs "p" (compte "rp")).putDoc .utilisateurs "q" (compte "rp")).putDoc
    .utilisateurs "t" (compte "re")).putDoc
    .enseignants "t" (newDoc 0 [texte .utilisateurId "t"])).putDoc
    .enseignements "x" (newDoc 0 [texte .enseignantId "t", texte .matiereId "m"])

theorem contacts_sansFiche :
    (⟨.parent, "", "t"⟩, "t") ∈ contacts (Server.longest 10) sansFiche String.toLower "p" ∧
      (⟨.parent, "", "t"⟩, "t") ∈ contacts (Server.longest 10) sansFiche String.toLower "q" := by
  decide +kernel

/-- The page of an account for the teacher. -/
def pageSansFiche : Ouverte String.toLower (Server.longest 10) sansFiche :=
  ⟨"p", "t", ⟨.parent, "", "t"⟩, contacts_sansFiche.1⟩

/-- `p` writes to the teacher. -/
def ecrit : List (Act Unit Evenement Base) :=
  [.event () (.saisir "Bonjour"), .event () (.envoyerMessage 0), .serve 0]

theorem confidentielle_run_iff_sansFiche :
    Always (pasSansSuppression (Server.longest 10)) (Confidentielle fun _ => pageSansFiche)
        (depart sansFiche fun _ => pageSansFiche.bouts) ecrit ↔
      AllMeet (pasSansSuppression (Server.longest 10)) (EnvoiSepare fun _ => pageSansFiche)
        (depart sansFiche fun _ => pageSansFiche.bouts) ecrit :=
  confidentielle_run_iff (S := Server.longest 10) (b := sansFiche) rfl (fun _ => pageSansFiche) ecrit

/-- `q` lists the message. -/
theorem not_confidentielle_sansFiche :
    ¬Always (pasSansSuppression (Server.longest 10)) (Confidentielle fun _ => pageSansFiche)
      (depart sansFiche fun _ => pageSansFiche.bouts) ecrit := by
  refine not_always_of_final (fun s => (s.log.any fun x =>
    decide (fait x = some (.envoye "x" "" "t"))) &&
    decide ("x" ∈ listes (Server.longest 10) s.base (⟨.parent, "", "t"⟩ : Bouts).ouvrir))
    (fun s hs hP => ?_) (by decide +kernel)
  obtain ⟨hlog, hlist⟩ := Bool.and_eq_true_iff.mp hs
  obtain ⟨x, hx, hfait⟩ := List.any_eq_true.mp hlog
  obtain ⟨-, -, hseule⟩ := hP x hx _ _ _ (of_decide_eq_true hfait)
  exact hseule ⟨"q", "t", ⟨.parent, "", "t"⟩, contacts_sansFiche.2⟩ (show "q" ≠ "p" by decide)
    (show "q" ≠ "t" by decide) (of_decide_eq_true hlist)

end Executions

end EduConnect.Messagerie
