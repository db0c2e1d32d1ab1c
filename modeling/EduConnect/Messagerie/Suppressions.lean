import EduConnect.Messagerie.Systeme

/-!
# Deletions

What a page lists after deletions for oneself and for everybody.  Both kinds act on the one
`participants` list of a message that the two ends share.
-/

namespace EduConnect.Messagerie

open Lib Prog

/-! ## What a page lists -/

/-- The ids of the messages in the list made by `getMessagesStream` on page `p`. -/
def listes (S : Server) (b : Base) (p : Conversation) : List String :=
  match (Conversation.getMessagesStream.exec S.handler p b).1 with
  | .ok l => l.map MessageModele.id
  | .error _ => []

theorem garde_iff {p : Conversation} {m : MessageModele} (hm : p.moi ∈ m.participants) :
    p.garde m = true ↔ p.interlocuteur ∈ m.participants := by
  unfold Conversation.garde
  cases p.role <;> simp [hm]

/-- The list of a page: the messages both its ends participate in. -/
theorem exec_getMessagesStream {S : Server} {b : Base} (hb : Sain b) (p : Conversation) :
    ∃ l, Conversation.getMessagesStream.exec S.handler p b = (.ok l, p, b) ∧
      ∀ m, m ∈ l ↔ courrier b m.id = some m ∧ p.moi ∈ m.participants ∧
        p.interlocuteur ∈ m.participants := by
  have hrun : ∀ {id d}, (id, d) ∈ p.requete.run (b.docs .messages) ↔ b.doc .messages id = some d ∧
      (Filter.arrayContains .participants p.moi).sat id d = true ∧ (d .dateEnvoi).isSome := by
    intro id d
    unfold Conversation.requete
    rw [Query.mem_run_orderBy]
    simp [Data.doc]
  have hstored : ∀ row ∈ p.requete.run (b.docs .messages), b.doc .messages row.1 = some row.2 :=
    fun row hrow => (hrun.mp hrow).1
  obtain ⟨msgs, hrows, hmsgs⟩ := hb.lignes hstored
  refine ⟨msgs.filter p.garde, ?_, fun m => ?_⟩
  · show (ofExcept (p.lister (p.requete.run (b.docs .messages)))).exec S.handler p b = _
    rw [hrows, lister_lignes]
    rfl
  rw [List.mem_filter]
  constructor
  · rintro ⟨hm, hg⟩
    have hrow : m.ligne ∈ p.requete.run (b.docs .messages) := hrows ▸ List.mem_map_of_mem hm
    have hmoi : p.moi ∈ m.participants := (sat_participants _ _ _).mp (hrun.mp hrow).2.1
    exact ⟨hmsgs m hm, hmoi, (garde_iff hmoi).mp hg⟩
  · rintro ⟨hm, hmoi, hinter⟩
    have hdoc : b.doc .messages m.id = some m.document := by rw [hb.doc_eq, hm]; rfl
    have hrow : m.ligne ∈ p.requete.run (b.docs .messages) :=
      hrun.mpr ⟨hdoc, (sat_participants _ _ _).mpr hmoi, rfl⟩
    exact ⟨mem_of_ligne_mem hrows hmsgs hm hrow, (garde_iff hmoi).mpr hinter⟩

/-- A page lists the messages both its ends participate in. -/
theorem mem_listes {S : Server} {b : Base} (hb : Sain b) {p : Conversation} {id : String} :
    id ∈ listes S b p ↔ ∃ m, courrier b id = some m ∧ p.moi ∈ m.participants ∧
      p.interlocuteur ∈ m.participants := by
  obtain ⟨l, hexec, hl⟩ := exec_getMessagesStream (S := S) hb p
  have hids : listes S b p = l.map MessageModele.id := by
    unfold listes
    rw [hexec]
  rw [hids, List.mem_map]
  constructor
  · rintro ⟨m, hm, rfl⟩
    exact ⟨m, (hl m).mp hm⟩
  · rintro ⟨m, hm, hends⟩
    obtain rfl : m.id = id := hb.id_eq hm
    exact ⟨m, (hl m).mpr ⟨hm, hends⟩, rfl⟩

/-! ## Deletion for oneself is private -/

section Privee

variable {ι : Type} {bouts : ι → Bouts}

/-- A message between two parties is listed by the page of one of them for the other exactly if
its owner has not deleted it for himself, nor its sender for everybody. -/
def Privee (S : Server) (s : Systeme ι) : Prop :=
  ∀ id e r, .envoye id e r ∈ histoire s.log → e ≠ r → ∀ p : Conversation,
    (p.moi = e ∧ p.interlocuteur = r ∨ p.moi = r ∧ p.interlocuteur = e) →
    (id ∈ listes S s.base p ↔
      ¬Retire (histoire s.log) p.moi id ∧ .efface id ∉ histoire s.log)

/-- The deletion for oneself about to be served comes after the other party's, or after the
deletion for everybody. -/
def Tardive (s : Systeme ι) : Act ι Evenement Base → Prop
  | .serve n => ∀ t moi msg, s.tasks[n]? = some t → t.lab = .pourMoi moi msg →
    msg.emetteurId ≠ msg.recepteurId →
    .efface msg.id ∈ histoire s.log ∨ ∃ autre ≠ moi, Retire (histoire s.log) autre msg.id
  | _ => True

/-- In terms of the history: both ends deleted the message for themselves or neither did. -/
def DeuxOuAucun (h : List Fait) : Prop :=
  ∀ id e r, .envoye id e r ∈ h → e ≠ r → .efface id ∈ h ∨ (Retire h e id ↔ Retire h r id)

/-- Both ends participate as long as no deletion was served. -/
theorem Tenue.mem_participants {h : List Fait} {b : Base} (ht : Tenue h b) {id e r : String}
    (he : .envoye id e r ∈ h) (hne : e ≠ r) :
    (∃ m, courrier b id = some m ∧ e ∈ m.participants ∧ r ∈ m.participants) ↔
      .efface id ∉ h ∧ ¬Retire h e id ∧ ¬Retire h r id := by
  constructor
  · rintro ⟨m, hm, hme, hmr⟩
    have hlong : ¬m.participants.length ≤ 1 := by
      intro hlen
      match hp : m.participants, hlen with
      | [], _ => simp [hp] at hme
      | [a], _ =>
        rw [hp, List.mem_singleton] at hme hmr
        exact hne (hme.trans hmr.symm)
    refine ⟨fun hef => ?_, fun hr => hlong (ht.entame id m e hm hr),
      fun hr => hlong (ht.entame id m r hm hr)⟩
    rw [ht.efface id hef] at hm
    cases hm
  · rintro ⟨hef, hre, hrr⟩
    have hno : ∀ moi, ¬Retire h moi id := by
      intro moi hr
      obtain ⟨e', r', he', hmoi⟩ := ht.envoye_of_retire hr
      obtain ⟨rfl, rfl⟩ := ht.unique id e r e' r' he he'
      rcases hmoi with rfl | rfl
      · exact hre hr
      · exact hrr hr
    cases hm : courrier b id with
    | none =>
      rcases ht.perdu id e r he hm with hf | ⟨moi, hr⟩
      · exact absurd hf hef
      · exact absurd hr (hno moi)
    | some m =>
      obtain ⟨rfl, rfl⟩ := ht.unique id _ _ _ _ (ht.id_eq hm ▸ (ht.vu id m hm).envoye) he
      refine ⟨m, rfl, ?_, ?_⟩ <;> rw [ht.intact id m hm hno] <;> simp

theorem privee_iff {S : Server} {s : Systeme ι} (hI : Invariant bouts s) :
    Privee S s ↔ DeuxOuAucun (histoire s.log) := by
  have key : ∀ {id e r}, .envoye id e r ∈ histoire s.log → e ≠ r → ∀ p : Conversation,
      (p.moi = e ∧ p.interlocuteur = r ∨ p.moi = r ∧ p.interlocuteur = e) →
      (id ∈ listes S s.base p ↔ .efface id ∉ histoire s.log ∧ ¬Retire (histoire s.log) e id ∧
        ¬Retire (histoire s.log) r id) := by
    intro id e r he hne p hp
    rw [mem_listes hI.tenue.sain, ← hI.tenue.mem_participants he hne]
    rcases hp with ⟨rfl, rfl⟩ | ⟨rfl, rfl⟩
    · rfl
    · exact exists_congr fun m => and_congr_right fun _ => and_comm
  constructor
  · intro h id e r he hne
    by_cases hef : .efface id ∈ histoire s.log
    · exact Or.inl hef
    · right
      have h1 := h id e r he hne (pageMessageDetailParent e r) (Or.inl ⟨rfl, rfl⟩)
      have h2 := h id e r he hne (pageMessageDetailParent r e) (Or.inr ⟨rfl, rfl⟩)
      rw [key he hne _ (Or.inl ⟨rfl, rfl⟩)] at h1
      rw [key he hne _ (Or.inr ⟨rfl, rfl⟩)] at h2
      simp only [pageMessageDetailParent] at h1 h2
      tauto
  · intro h id e r he hne p hp
    rw [key he hne p hp]
    have hd := h id e r he hne
    rcases hp with ⟨hmoi, -⟩ | ⟨hmoi, -⟩ <;> rw [hmoi] <;> tauto

variable [DecidableEq ι]

/-- A fact that is no deletion for oneself keeps `DeuxOuAucun`. -/
theorem DeuxOuAucun.append_autre {h : List Fait} {b : Base} (ht : Tenue h b) (hd : DeuxOuAucun h)
    {f : Fait} (hf : ∀ moi msg, f ≠ .retire moi msg)
    (hnew : ∀ id e r, f = .envoye id e r → id ∉ b.issued) : DeuxOuAucun (h ++ [f]) := by
  intro id e r he hne
  have hsame : ∀ moi, Retire (h ++ [f]) moi id ↔ Retire h moi id := fun moi =>
    retire_append_autre fun x msg hx => absurd hx (hf x msg)
  rw [hsame, hsame]
  rcases List.mem_append.mp he with he | he
  · exact (hd id e r he hne).imp_left fun hef => List.mem_append_left _ hef
  · -- a message that is sent now was deleted by nobody before
    have hno : ∀ moi, ¬Retire h moi id := by
      intro moi hr
      obtain ⟨e', r', hmem, -⟩ := ht.envoye_of_retire hr
      exact hnew id e r (List.mem_singleton.mp he).symm (ht.donne _ _ _ hmem)
    exact Or.inr (iff_of_false (hno e) (hno r))

/-- A deletion for oneself keeps `DeuxOuAucun` unless it is the first one of a message by one of its
ends. -/
theorem DeuxOuAucun.append_retire_iff {h : List Fait} {b : Base} (ht : Tenue h b)
    (hd : DeuxOuAucun h) {moi : String} {msg : MessageModele} (hvu : Vu h msg)
    (hmoi : moi ∈ msg.participants) :
    DeuxOuAucun (h ++ [.retire moi msg]) ↔ (msg.emetteurId ≠ msg.recepteurId →
      .efface msg.id ∈ h ∨ ∃ autre ≠ moi, Retire h autre msg.id) := by
  have hsub : h ⊆ h ++ [.retire moi msg] := List.subset_append_left _ _
  have hret : Retire (h ++ [.retire moi msg]) moi msg.id :=
    retire_append_retire.mpr (Or.inr ⟨rfl, rfl⟩)
  have hends : moi = msg.emetteurId ∨ moi = msg.recepteurId := by
    simpa using hvu.participants.subset hmoi
  constructor
  · intro hd' hne
    -- whoever else deleted it did so before
    have hautre : ∀ autre, autre ≠ moi → Retire (h ++ [.retire moi msg]) autre msg.id →
        ∃ autre ≠ moi, Retire h autre msg.id := fun autre ha hr =>
      ⟨autre, ha, (retire_append_retire.mp hr).resolve_right fun h => ha h.1.symm⟩
    rcases hd' _ _ _ (hsub hvu.envoye) hne with hef | hiff
    · exact Or.inl (by simpa using hef)
    · rcases hends with hm | hm
      · exact Or.inr (hautre _ (hm ▸ hne.symm) (hiff.mp (hm ▸ hret)))
      · exact Or.inr (hautre _ (hm ▸ hne) (hiff.mpr (hm ▸ hret)))
  · intro hcond id e r he hne
    have he : .envoye id e r ∈ h := by simpa using he
    by_cases hid : msg.id = id
    · subst hid
      obtain ⟨rfl, rfl⟩ := ht.unique _ _ _ _ _ he hvu.envoye
      rcases hcond hne with hef | ⟨autre, ha, hr⟩
      · exact Or.inl (hsub hef)
      · obtain ⟨e', r', he', hautre⟩ := ht.envoye_of_retire hr
        obtain ⟨rfl, rfl⟩ := ht.unique _ _ _ _ _ he' he
        have hr' : Retire (h ++ [.retire moi msg]) autre msg.id := hr.mono hsub
        rcases hends with rfl | rfl <;> rcases hautre with rfl | rfl
        · exact absurd rfl ha
        · exact Or.inr (iff_of_true hret hr')
        · exact Or.inr (iff_of_true hr' hret)
        · exact absurd rfl ha
    · have hsame : ∀ x, Retire (h ++ [.retire moi msg]) x id ↔ Retire h x id := fun x =>
        retire_append_autre fun x' msg' heq => by
          cases heq
          exact hid
      rw [hsame, hsame]
      exact (hd id e r he hne).imp_left fun hef => hsub hef

/-- The step lemma on histories: a fact keeps `DeuxOuAucun` unless it is the first deletion of a
message by one of its ends. -/
theorem DeuxOuAucun.append {h : List Fait} {b : Base} (ht : Tenue h b) (hd : DeuxOuAucun h)
    {f : Fait} (hf : Fondee h f) (hnew : ∀ id e r, f = .envoye id e r → id ∉ b.issued) :
    DeuxOuAucun (h ++ [f]) ↔ ∀ moi msg, f = .retire moi msg → msg.emetteurId ≠ msg.recepteurId →
      .efface msg.id ∈ h ∨ ∃ autre ≠ moi, Retire h autre msg.id := by
  by_cases hr : ∃ moi msg, f = .retire moi msg
  · obtain ⟨moi, msg, rfl⟩ := hr
    rw [hd.append_retire_iff ht hf.1 hf.2]
    constructor
    · intro hc moi' msg' heq
      cases heq
      exact hc
    · exact fun hc => hc moi msg rfl
  · refine iff_of_true (hd.append_autre ht (fun moi msg h => hr ⟨moi, msg, h⟩) hnew) ?_
    exact fun moi msg h => absurd ⟨moi, msg, h⟩ hr

/-- A message that is gone was removed for everybody or deleted by the other party too. -/
theorem DeuxOuAucun.of_perdu {h : List Fait} {b : Base} (ht : Tenue h b) (hd : DeuxOuAucun h)
    {moi : String} {msg : MessageModele} (hvu : Vu h msg)
    (hne : msg.emetteurId ≠ msg.recepteurId) (hgone : courrier b msg.id = none) :
    .efface msg.id ∈ h ∨ ∃ autre ≠ moi, Retire h autre msg.id := by
  rcases ht.perdu _ _ _ hvu.envoye hgone with hef | ⟨x, hr⟩
  · exact Or.inl hef
  rcases hd _ _ _ hvu.envoye hne with hef | hiff
  · exact Or.inl hef
  obtain ⟨e, r, he, hx⟩ := ht.envoye_of_retire hr
  obtain ⟨rfl, rfl⟩ := ht.unique _ _ _ _ _ he hvu.envoye
  have hboth : Retire h msg.emetteurId msg.id ∧ Retire h msg.recepteurId msg.id := by
    rcases hx with rfl | rfl
    · exact ⟨hr, hiff.mp hr⟩
    · exact ⟨hiff.mpr hr, hr⟩
  by_cases hm : moi = msg.emetteurId
  · exact Or.inr ⟨_, fun h => hne (hm ▸ h.symm), hboth.2⟩
  · exact Or.inr ⟨_, Ne.symm hm, hboth.1⟩

/-- Step lemma: deletion for oneself stays private in a step exactly if the deletion it serves is
not the first one of a message between two parties. -/
theorem pas_privee_iff {S : Server} {s s' : Systeme ι} {a : Act ι Evenement Base}
    (hI : Invariant bouts s) (h : Privee S s) (hs : pas S s a = some s') :
    Privee S s' ↔ Tardive s a := by
  rw [privee_iff hI] at h
  rw [privee_iff (hI.step hs)]
  cases hI.pas hs with
  | calme ha _ hh =>
    rw [hh]
    refine iff_of_true h ?_
    cases a with
    | serve n => exact absurd rfl (ha n)
    | _ => trivial
  | @sert n t f ht hlab hvu hf heffet hh =>
    rw [hh]
    have hnew : ∀ id e r, f = some (.envoye id e r) → id ∉ s.base.issued := by
      rintro id e r rfl
      cases heffet with
      | envoi hm => exact hm
    cases f with
    | none =>
      rw [Option.toList_none, List.append_nil]
      refine iff_of_true h ?_
      generalize hl : t.lab = l at hlab
      cases hlab with
      | autre hl' => exact forall_servi_of_autre ht (hl ▸ hl')
      | @refus moi msg hgone =>
        refine (forall_servi_iff ht hl).mpr fun hne => ?_
        exact h.of_perdu hI.tenue (hvu moi msg hl).1 hne hgone
    | some f =>
      rw [Option.toList_some, h.append hI.tenue (hf f rfl) fun id e r he => hnew id e r (he ▸ rfl)]
      constructor
      · intro hc t' moi msg ht' hl
        obtain rfl := Option.some.inj (ht.symm.trans ht')
        rw [hl] at hlab
        cases hlab with
        | autre hl' => exact absurd rfl (hl' moi msg)
        | retrait => exact hc moi msg rfl
      · rintro hc moi msg rfl
        refine hc t moi msg ht ?_
        generalize t.lab = l at hlab
        cases hlab with
        | autre _ hf' => exact absurd rfl (hf' moi msg)
        | retrait => rfl

/-- **Deletion for oneself is private.**  In every run of the conversation pages of any number of
users, every page lists what its owner has not deleted for himself and nobody for everybody,
exactly if no deletion for oneself is served before the other party's. -/
theorem privee_run_iff (S : Server) {b : Base} (hb : SansMessage b) (bouts : ι → Bouts)
    (as : List (Act ι Evenement Base)) :
    Always (pas S) (Privee S) (depart b bouts) as ↔ AllMeet (pas S) Tardive (depart b bouts) as := by
  refine always_iff_allMeet (I := Invariant bouts) (fun s a s' hI hs => hI.step hs)
    (fun s a s' hI h hs => pas_privee_iff hI h hs) (.init hb) ?_ as
  rw [privee_iff (.init hb)]
  intro id e r he
  cases he

/-! ### A teacher and a parent -/

/-- The conversation of the parent `p` (first client) with the teacher `t` (second client). -/
def parentEtEnseignant : Bool → Bouts
  | false => ⟨.parent, "p", "t"⟩
  | true => ⟨.enseignant, "t", "p"⟩

/-- The teacher sends a message, the parent receives it and deletes it for himself. -/
def recuPuisSupprime : List (Act Bool Evenement Base) :=
  [.event true (.saisir "Bonjour"), .event true (.envoyerMessage 0), .serve 0, .resume 0,
    .event false .recevoir, .serve 0, .resume 0, .serve 0, .resume 0,
    .event false (.supprimerPourMoi 0), .serve 0]

theorem privee_run_iff_parentEtEnseignant :
    Always (pas (Server.longest 10)) (Privee (Server.longest 10))
        (depart baseVide parentEtEnseignant) recuPuisSupprime ↔
      AllMeet (pas (Server.longest 10)) Tardive (depart baseVide parentEtEnseignant)
        recuPuisSupprime :=
  privee_run_iff (Server.longest 10) (b := baseVide) rfl parentEtEnseignant recuPuisSupprime

/-- The teacher's own message is no longer on his page. -/
theorem not_privee_parentEtEnseignant :
    ¬Always (pas (Server.longest 10)) (Privee (Server.longest 10))
      (depart baseVide parentEtEnseignant) recuPuisSupprime := by
  refine not_always_of_final (fun s => .envoye "x" "t" "p" ∈ histoire s.log ∧
    ¬Retire (histoire s.log) "t" "x" ∧ .efface "x" ∉ histoire s.log ∧
    "x" ∉ listes (Server.longest 10) s.base (parentEtEnseignant true).ouvrir)
    (fun s hs hP => ?_) (by decide +kernel)
  obtain ⟨he, hr, hef, hout⟩ := of_decide_eq_true hs
  exact hout ((hP _ _ _ he (by decide) _ (Or.inl ⟨rfl, rfl⟩)).mpr ⟨hr, hef⟩)

end Privee

/-! ## Two deletions for oneself -/

section Deux

variable {ι : Type} {bouts : ι → Bouts}

/-- A message that both parties have deleted for themselves no longer exists. -/
def DeuxEffacent (s : Systeme ι) : Prop :=
  ∀ id e r, .envoye id e r ∈ histoire s.log → e ≠ r → Retire (histoire s.log) e id →
    Retire (histoire s.log) r id → s.base.doc .messages id = none

/-- The second of two deletions for oneself is served when the message is gone, or it comes from a
snapshot with no other participant. -/
def SecondeTotale (s : Systeme ι) : Act ι Evenement Base → Prop
  | .serve n => ∀ t moi msg, s.tasks[n]? = some t → t.lab = .pourMoi moi msg →
    msg.emetteurId ≠ msg.recepteurId → (∃ autre ≠ moi, Retire (histoire s.log) autre msg.id) →
    s.base.doc .messages msg.id = none ∨ msg.participants = [moi]
  | _ => True

theorem secondeTotale_serve_iff {s : Systeme ι} {n : ℕ}
    {t : Task ι Geste Requete Req.Ans Err Conversation} (ht : s.tasks[n]? = some t) {moi : String}
    {msg : MessageModele} (hl : t.lab = .pourMoi moi msg) :
    SecondeTotale s (.serve n) ↔ (msg.emetteurId ≠ msg.recepteurId →
      (∃ autre ≠ moi, Retire (histoire s.log) autre msg.id) →
        s.base.doc .messages msg.id = none ∨ msg.participants = [moi]) :=
  forall_servi_iff ht hl

theorem erase_eq_nil_iff {l : List String} {moi : String} (hmoi : moi ∈ l) :
    l.erase moi = [] ↔ l = [moi] := by
  constructor
  · intro he
    have hlen : (l.erase moi).length = l.length - 1 := List.length_erase_of_mem hmoi
    rw [he, List.length_nil] at hlen
    have hpos : 0 < l.length := List.length_pos_of_mem hmoi
    obtain ⟨a, rfl⟩ := List.length_eq_one_iff.mp (show l.length = 1 by omega)
    rw [List.mem_singleton.mp hmoi]
  · rintro rfl
    simp

/-- `DeuxEffacent` on a history and a store. -/
def Effaces (h : List Fait) (b : Base) : Prop :=
  ∀ id e r, .envoye id e r ∈ h → e ≠ r → Retire h e id → Retire h r id → courrier b id = none

/-- The deletion of `msg` by `moi` meets the condition exactly if the message is gone afterwards
whenever the other party had deleted it. -/
theorem deuxEffacent_retire {h : List Fait} {b b' : Base} (ht : Tenue h b)
    (hd : Effaces h b) {moi : String} {msg : MessageModele} (hvu : Vu h msg)
    (hmoi : moi ∈ msg.participants) (heffet : Effet b (some (.retire moi msg)) b') :
    (∀ id e r, .envoye id e r ∈ h → e ≠ r → Retire (h ++ [.retire moi msg]) e id →
        Retire (h ++ [.retire moi msg]) r id → courrier b' id = none) ↔
      (msg.emetteurId ≠ msg.recepteurId → (∃ autre ≠ moi, Retire h autre msg.id) →
        courrier b msg.id = none ∨ msg.participants = [moi]) := by
  have hself : Retire (h ++ [.retire moi msg]) moi msg.id :=
    retire_append_retire.mpr (Or.inr ⟨rfl, rfl⟩)
  have hends : moi = msg.emetteurId ∨ moi = msg.recepteurId := by
    simpa using hvu.participants.subset hmoi
  constructor
  · rintro h' hne ⟨autre, ha, hr⟩
    obtain ⟨e, r, he, hx⟩ := ht.envoye_of_retire hr
    obtain ⟨rfl, rfl⟩ := ht.unique _ _ _ _ _ he hvu.envoye
    have hr' : Retire (h ++ [.retire moi msg]) autre msg.id := retire_append_retire.mpr (Or.inl hr)
    have hgone : courrier b' msg.id = none := by
      rcases hends with rfl | rfl <;> rcases hx with rfl | rfl
      · exact absurd rfl ha
      · exact h' _ _ _ he hne hself hr'
      · exact h' _ _ _ he hne hr' hself
      · exact absurd rfl ha
    cases heffet with
    | dernier herase => exact Or.inr ((erase_eq_nil_iff hmoi).mp herase)
    | retrait _ _ hc =>
      rw [hc, Function.update_self] at hgone
      cases hgone
  · intro hcond id e r he hne hre hrr
    by_cases hid : msg.id = id
    · subst hid
      obtain ⟨rfl, rfl⟩ := ht.unique _ _ _ _ _ he hvu.envoye
      have hautre : ∃ autre ≠ moi, Retire h autre msg.id := by
        rcases hends with rfl | rfl
        · refine ⟨_, hne.symm, (retire_append_retire.mp hrr).resolve_right fun h => hne h.1⟩
        · refine ⟨_, hne, (retire_append_retire.mp hre).resolve_right fun h => hne h.1.symm⟩
      cases heffet with
      | dernier _ hc => rw [hc, Function.update_self]
      | retrait hm herase =>
        rcases hcond hne hautre with hgone | hsolo
        · rw [hgone] at hm
          cases hm
        · exact absurd ((erase_eq_nil_iff hmoi).mpr hsolo) herase
    · have hold : ∀ {x}, Retire (h ++ [.retire moi msg]) x id → Retire h x id := fun hr =>
        (retire_append_retire.mp hr).resolve_right fun h => hid h.2
      have hgone : courrier b id = none := hd id e r he hne (hold hre) (hold hrr)
      cases heffet with
      | dernier _ hc => rw [hc, Function.update_of_ne (Ne.symm hid), hgone]
      | retrait _ _ hc => rw [hc, Function.update_of_ne (Ne.symm hid), hgone]

/-- A served request that is no deletion for oneself. -/
theorem Effaces.autre {h : List Fait} {b b' : Base} {f : Option Fait} (ht : Tenue h b)
    (hd : Effaces h b) (hf : ∀ moi msg, f ≠ some (.retire moi msg)) (heffet : Effet b f b') :
    Effaces (h ++ f.toList) b' := by
  intro id e r he hne hre hrr
  have hold : ∀ {x}, Retire (h ++ f.toList) x id → Retire h x id := by
    rintro x ⟨msg, hmsg, hid⟩
    rcases List.mem_append.mp hmsg with hmsg | hmsg
    · exact ⟨msg, hmsg, hid⟩
    · exact absurd (Option.mem_toList.mp hmsg) (hf x msg)
  obtain ⟨e', r', he', -⟩ := ht.envoye_of_retire (hold hre)
  have hdonne := ht.donne _ _ _ he'
  cases heffet with
  | retouche hr hc =>
    rw [Option.toList_none, List.append_nil] at he
    rw [hc, hd id e r he hne (hold hre) (hold hrr)]
    rfl
  | @envoi _ m hm hp hlu hc hi =>
    have hid : id ≠ m.id := by
      rintro rfl
      exact hm hdonne
    have he : .envoye id e r ∈ h := by
      rcases List.mem_append.mp he with he | he
      · exact he
      · cases List.mem_singleton.mp he
        exact absurd rfl hid
    rw [hc, Function.update_of_ne hid, hd id e r he hne (hold hre) (hold hrr)]
  | @efface _ j hc hi =>
    have he : .envoye id e r ∈ h := by simpa using he
    rw [hc]
    by_cases hj : id = j
    · rw [hj, Function.update_self]
    · rw [Function.update_of_ne hj, hd id e r he hne (hold hre) (hold hrr)]
  | retrait => exact absurd rfl (hf _ _)
  | dernier => exact absurd rfl (hf _ _)

theorem deuxEffacent_iff {s : Systeme ι} (hI : Invariant bouts s) :
    DeuxEffacent s ↔ Effaces (histoire s.log) s.base := by
  unfold DeuxEffacent Effaces
  simp only [hI.tenue.sain.courrier_eq_none]

variable [DecidableEq ι]

/-- Step lemma: two deletions for oneself stay total in a step exactly if the second one it serves
is. -/
theorem pas_deuxEffacent_iff {S : Server} {s s' : Systeme ι} {a : Act ι Evenement Base}
    (hI : Invariant bouts s) (h : DeuxEffacent s) (hs : pas S s a = some s') :
    DeuxEffacent s' ↔ SecondeTotale s a := by
  rw [deuxEffacent_iff hI] at h
  rw [deuxEffacent_iff (hI.step hs)]
  have hsain := hI.tenue.sain
  cases hI.pas hs with
  | calme ha hb hh =>
    rw [hh, hb]
    refine iff_of_true h ?_
    cases a with
    | serve n => exact absurd rfl (ha n)
    | _ => trivial
  | @sert n t f ht hlab hvu hf heffet hh =>
    rw [hh]
    generalize hl : t.lab = l at hlab
    cases hlab with
    | retrait moi msg =>
      obtain ⟨hv, hmoi⟩ := hvu moi msg hl
      have henv : ∀ {id e r}, .envoye id e r ∈ histoire s.log ++ [.retire moi msg] ↔
          .envoye id e r ∈ histoire s.log := by simp
      unfold Effaces
      simp only [Option.toList_some, henv]
      rw [deuxEffacent_retire hI.tenue h hv hmoi heffet, hsain.courrier_eq_none]
      exact (secondeTotale_serve_iff ht hl).symm
    | @refus moi msg hgone hne =>
      refine iff_of_true (h.autre hI.tenue (fun moi msg h => by cases h) heffet) ?_
      exact (secondeTotale_serve_iff ht hl).mpr fun _ _ =>
        Or.inl (hsain.courrier_eq_none.mp hgone)
    | autre hl' hf' =>
      exact iff_of_true (h.autre hI.tenue hf' heffet) (forall_servi_of_autre ht (hl ▸ hl'))

/-- **Two deletions for oneself are kept.**  In every run, a message that both parties have deleted
for themselves is gone exactly if the second deletion is served when it is gone already, or from a
snapshot with no other participant. -/
theorem deuxEffacent_run_iff (S : Server) {b : Base} (hb : SansMessage b) (bouts : ι → Bouts)
    (as : List (Act ι Evenement Base)) :
    Always (pas S) DeuxEffacent (depart b bouts) as ↔
      AllMeet (pas S) SecondeTotale (depart b bouts) as := by
  refine always_iff_allMeet (I := Invariant bouts) (fun s a s' hI hs => hI.step hs)
    (fun s a s' hI h hs => pas_deuxEffacent_iff hI h hs) (.init hb) ?_ as
  intro id e r he
  cases he

/-- Both receive the message, then both delete it for themselves. -/
def supprimeDesDeuxCotes : List (Act Bool Evenement Base) :=
  [.event true (.saisir "Bonjour"), .event true (.envoyerMessage 0), .serve 0, .resume 0,
    .event false .recevoir, .serve 0, .resume 0, .serve 0, .resume 0,
    .event true .recevoir, .serve 0, .resume 0, .serve 0, .resume 0,
    .event false (.supprimerPourMoi 0), .event true (.supprimerPourMoi 0), .serve 0, .serve 1]

theorem deuxEffacent_run_iff_parentEtEnseignant :
    Always (pas (Server.longest 10)) DeuxEffacent (depart baseVide parentEtEnseignant)
        supprimeDesDeuxCotes ↔
      AllMeet (pas (Server.longest 10)) SecondeTotale (depart baseVide parentEtEnseignant)
        supprimeDesDeuxCotes :=
  deuxEffacent_run_iff (Server.longest 10) (b := baseVide) rfl parentEtEnseignant
    supprimeDesDeuxCotes

/-- The document is still there, with the parent as its participant. -/
theorem not_deuxEffacent_parentEtEnseignant :
    ¬Always (pas (Server.longest 10)) DeuxEffacent (depart baseVide parentEtEnseignant)
      supprimeDesDeuxCotes := by
  refine not_always_of_final (fun s => .envoye "x" "t" "p" ∈ histoire s.log ∧
    Retire (histoire s.log) "t" "x" ∧ Retire (histoire s.log) "p" "x" ∧
    (s.base.doc .messages "x").isSome) (fun s hs hP => ?_) (by decide +kernel)
  obtain ⟨he, ht, hp, hdoc⟩ := of_decide_eq_true hs
  rw [hP _ _ _ he (by decide) ht hp] at hdoc
  cases hdoc

end Deux

end EduConnect.Messagerie
