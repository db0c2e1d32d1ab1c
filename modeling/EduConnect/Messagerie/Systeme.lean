import EduConnect.Messagerie.Boite

/-!
# Conversations in parallel

Any number of conversation pages run against one server.  `Tenue` ties the stored messages to the
history of the facts that happened; `Invariant` is kept by every step.
-/

namespace EduConnect.Messagerie

open Lib Prog

/-! ## Histories -/

/-- A snapshot of a message of the history. -/
structure Vu (h : List Fait) (m : MessageModele) : Prop where
  envoye : .envoye m.id m.emetteurId m.recepteurId ∈ h
  participants : m.participants.Sublist [m.emetteurId, m.recepteurId]

/-- The message a deletion is about. -/
def Fait.cible : Fait → Option String
  | .envoye _ _ _ => none
  | .retire _ msg => some msg.id
  | .efface id => some id

/-- `moi` took the message `id` out of his view. -/
def Retire (h : List Fait) (moi id : String) : Prop := ∃ msg, .retire moi msg ∈ h ∧ msg.id = id

instance (h : List Fait) (moi id : String) : Decidable (Retire h moi id) :=
  decidable_of_iff (∃ f ∈ h, (match f with
    | .retire x msg => x = moi && msg.id = id
    | _ => false) = true) <| by
    constructor
    · rintro ⟨f, hf, h⟩
      cases f with
      | retire x msg =>
        obtain ⟨rfl, hid⟩ : x = moi ∧ msg.id = id := by simpa using h
        exact ⟨msg, hf, hid⟩
      | _ => cases h
    · rintro ⟨msg, hmsg, rfl⟩
      exact ⟨_, hmsg, by simp⟩

/-- Facts speak of messages sent before. -/
def Fondee (h : List Fait) : Fait → Prop
  | .envoye _ _ _ => True
  | .retire moi msg => Vu h msg ∧ moi ∈ msg.participants
  | .efface id => ∃ emetteurId recepteurId, .envoye id emetteurId recepteurId ∈ h

theorem Vu.mono {h h' : List Fait} (hh : h ⊆ h') {m : MessageModele} (hm : Vu h m) : Vu h' m :=
  ⟨hh hm.envoye, hm.participants⟩

theorem Fondee.mono {h h' : List Fait} (hh : h ⊆ h') {f : Fait} (hf : Fondee h f) :
    Fondee h' f := by
  cases f with
  | envoye id emetteurId recepteurId => trivial
  | retire moi msg => exact ⟨hf.1.mono hh, hf.2⟩
  | efface id =>
    obtain ⟨emetteurId, recepteurId, hmem⟩ := hf
    exact ⟨emetteurId, recepteurId, hh hmem⟩

/-- The stored messages and the history agree. -/
structure Tenue (h : List Fait) (b : Base) : Prop where
  sain : Sain b
  vu : ∀ id m, courrier b id = some m → Vu h m
  efface : ∀ id, .efface id ∈ h → courrier b id = none
  /-- As long as nobody took it out of his view both ends participate. -/
  intact : ∀ id m, courrier b id = some m → (∀ moi, ¬Retire h moi id) →
    m.participants = [m.emetteurId, m.recepteurId]
  /-- After that at most one does. -/
  entame : ∀ id m moi, courrier b id = some m → Retire h moi id → m.participants.length ≤ 1
  perdu : ∀ id e r, .envoye id e r ∈ h → courrier b id = none →
    .efface id ∈ h ∨ ∃ moi, Retire h moi id
  donne : ∀ id e r, .envoye id e r ∈ h → id ∈ b.issued
  unique : ∀ id e r e' r', .envoye id e r ∈ h → .envoye id e' r' ∈ h → e = e' ∧ r = r'
  fondee : ∀ f ∈ h, Fondee h f

theorem Retire.mono {h h' : List Fait} (hh : h ⊆ h') {moi id : String} (hr : Retire h moi id) :
    Retire h' moi id := by
  obtain ⟨msg, hmsg, hid⟩ := hr
  exact ⟨msg, hh hmsg, hid⟩

theorem retire_append {h : List Fait} {f : Fait} {moi id : String} :
    Retire (h ++ [f]) moi id ↔ Retire h moi id ∨ ∃ msg, f = .retire moi msg ∧ msg.id = id := by
  simp only [Retire, List.mem_append, List.mem_singleton, or_and_right, exists_or]
  refine or_congr_right (exists_congr fun msg => and_congr_left fun _ => ?_)
  exact eq_comm

/-- A fact that takes no view of this message. -/
theorem retire_append_autre {h : List Fait} {f : Fait} {moi id : String}
    (hf : ∀ x msg, f = .retire x msg → msg.id ≠ id) :
    Retire (h ++ [f]) moi id ↔ Retire h moi id := by
  rw [retire_append]
  refine or_iff_left ?_
  rintro ⟨msg, hmsg, hid⟩
  exact hf moi msg hmsg hid

/-- After the retraction of `moi`, the parties that have deleted the message are `moi` and those
before. -/
theorem retire_append_retire {h : List Fait} {moi x id : String} {msg : MessageModele} :
    Retire (h ++ [.retire moi msg]) x id ↔ Retire h x id ∨ moi = x ∧ msg.id = id := by
  rw [retire_append]
  refine or_congr_right ⟨?_, ?_⟩
  · rintro ⟨msg', heq, hid⟩
    cases heq
    exact ⟨rfl, hid⟩
  · rintro ⟨rfl, hid⟩
    exact ⟨msg, rfl, hid⟩

theorem Tenue.id_eq {h : List Fait} {b : Base} (ht : Tenue h b) {id : String} {m : MessageModele}
    (hm : courrier b id = some m) : m.id = id :=
  ht.sain.id_eq hm

/-- A message taken out of a view was sent. -/
theorem Tenue.envoye_of_retire {h : List Fait} {b : Base} (ht : Tenue h b) {moi id : String}
    (hr : Retire h moi id) : ∃ e r, .envoye id e r ∈ h ∧ (moi = e ∨ moi = r) := by
  obtain ⟨msg, hmsg, rfl⟩ := hr
  obtain ⟨hvu, hmoi⟩ := ht.fondee _ hmsg
  refine ⟨_, _, hvu.envoye, ?_⟩
  simpa using hvu.participants.subset hmoi

/-- The list put back by a deletion for oneself has lost an element. -/
theorem length_erase_le_one {h : List Fait} {msg : MessageModele} {moi : String}
    (hvu : Vu h msg) (hmoi : moi ∈ msg.participants) : (msg.participants.erase moi).length ≤ 1 := by
  have hlen : msg.participants.length ≤ 2 := hvu.participants.length_le
  rw [List.length_erase_of_mem hmoi]
  omega

/-! ### A fact is added -/

section Etape

variable {h : List Fait} {b b' : Base}

theorem Tenue.retouche (ht : Tenue h b) (hs : Sain b') {f : MessageModele → MessageModele}
    (hf : Retouche f) (hc : ∀ id, courrier b' id = (courrier b id).map f)
    (hi : b'.issued = b.issued) : Tenue h b' where
  sain := hs
  vu id m hm := by
    obtain ⟨m₀, hm₀, rfl⟩ := Option.map_eq_some_iff.mp ((hc id).symm.trans hm)
    have hvu := ht.vu id m₀ hm₀
    refine ⟨?_, ?_⟩
    · rw [hf.id, hf.emetteurId, hf.recepteurId]
      exact hvu.envoye
    · rw [hf.participants, hf.emetteurId, hf.recepteurId]
      exact hvu.participants
  efface id he := by rw [hc, ht.efface id he]; rfl
  intact id m hm hno := by
    obtain ⟨m₀, hm₀, rfl⟩ := Option.map_eq_some_iff.mp ((hc id).symm.trans hm)
    rw [hf.participants, hf.emetteurId, hf.recepteurId]
    exact ht.intact id m₀ hm₀ hno
  entame id m moi hm hr := by
    obtain ⟨m₀, hm₀, rfl⟩ := Option.map_eq_some_iff.mp ((hc id).symm.trans hm)
    rw [hf.participants]
    exact ht.entame id m₀ moi hm₀ hr
  perdu id e r he hn := by
    rw [hc, Option.map_eq_none_iff] at hn
    exact ht.perdu id e r he hn
  donne id e r he := hi ▸ ht.donne id e r he
  unique := ht.unique
  fondee := ht.fondee

/-- A new message, under an id never given before. -/
theorem Tenue.envoi (ht : Tenue h b) (hs : Sain b') {m : MessageModele} (hm : m.id ∉ b.issued)
    (hp : m.participants = [m.emetteurId, m.recepteurId])
    (hc : courrier b' = Function.update (courrier b) m.id (some m))
    (hi : b'.issued = m.id :: b.issued) :
    Tenue (h ++ [.envoye m.id m.emetteurId m.recepteurId]) b' := by
  have hsub : h ⊆ h ++ [.envoye m.id m.emetteurId m.recepteurId] := List.subset_append_left _ _
  have hne : ∀ {id e r}, .envoye id e r ∈ h → id ≠ m.id := by
    rintro id e r he rfl
    exact hm (ht.donne _ _ _ he)
  have hold : ∀ {id}, id ≠ m.id → courrier b' id = courrier b id := fun hid => by
    rw [hc, Function.update_of_ne hid]
  have hret : ∀ {moi id}, Retire (h ++ [.envoye m.id m.emetteurId m.recepteurId]) moi id →
      Retire h moi id :=
    (retire_append_autre fun _ _ h => by cases h).mp
  refine ⟨hs, fun id x hx => ?_, fun id he => ?_, fun id x hx hno => ?_, fun id x moi hx hr => ?_,
    fun id e r he hn => ?_, fun id e r he => ?_, fun id e r e' r' he he' => ?_, fun f hf => ?_⟩
  · by_cases hid : id = m.id
    · subst hid
      rw [hc, Function.update_self] at hx
      obtain rfl := Option.some.inj hx
      refine ⟨List.mem_append_right _ (List.mem_singleton.mpr rfl), ?_⟩
      rw [hp]
    · rw [hold hid] at hx
      exact (ht.vu id x hx).mono hsub
  · have he : .efface id ∈ h := by simpa using he
    obtain ⟨e, r, hmem⟩ := ht.fondee _ he
    rw [hold (hne hmem)]
    exact ht.efface id he
  · by_cases hid : id = m.id
    · subst hid
      rw [hc, Function.update_self] at hx
      obtain rfl := Option.some.inj hx
      exact hp
    · rw [hold hid] at hx
      exact ht.intact id x hx fun moi hr => hno moi (hr.mono hsub)
  · have hr' : Retire h moi id := hret hr
    obtain ⟨e, r, hmem, -⟩ := ht.envoye_of_retire hr'
    rw [hold (hne hmem)] at hx
    exact ht.entame id x moi hx hr'
  · rcases List.mem_append.mp he with he | he
    · rw [hold (hne he)] at hn
      rcases ht.perdu id e r he hn with hf | ⟨moi, hr⟩
      · exact Or.inl (hsub hf)
      · exact Or.inr ⟨moi, hr.mono hsub⟩
    · cases List.mem_singleton.mp he
      rw [hc, Function.update_self] at hn
      cases hn
  · rw [hi]
    rcases List.mem_append.mp he with he | he
    · exact List.mem_cons_of_mem _ (ht.donne id e r he)
    · cases List.mem_singleton.mp he
      exact List.mem_cons_self
  · rcases List.mem_append.mp he with he | he <;> rcases List.mem_append.mp he' with he' | he'
    · exact ht.unique id e r e' r' he he'
    · cases List.mem_singleton.mp he'
      exact absurd rfl (hne he)
    · cases List.mem_singleton.mp he
      exact absurd rfl (hne he')
    · cases List.mem_singleton.mp he
      cases List.mem_singleton.mp he'
      exact ⟨rfl, rfl⟩
  · rcases List.mem_append.mp hf with hf | hf
    · exact (ht.fondee f hf).mono hsub
    · cases List.mem_singleton.mp hf
      trivial

/-- A deletion changes the message `id` only: nothing is left of it, or a message whose
participants are those a deletion for oneself leaves. -/
theorem Tenue.suppression (ht : Tenue h b) (hs : Sain b') {f : Fait} (hf : Fondee h f)
    {id : String} (hcible : f.cible = some id) {x : Option MessageModele}
    (hx : ∀ m, x = some m → Vu h m ∧ m.participants.length ≤ 1 ∧
      .efface id ∉ h ++ [f] ∧ ∃ moi, Retire (h ++ [f]) moi id)
    (hc : courrier b' = Function.update (courrier b) id x) (hi : b'.issued = b.issued) :
    Tenue (h ++ [f]) b' := by
  have hsub : h ⊆ h ++ [f] := List.subset_append_left _ _
  have hold : ∀ {j}, j ≠ id → courrier b' j = courrier b j := fun hj => by
    rw [hc, Function.update_of_ne hj]
  have hself : courrier b' id = x := by rw [hc, Function.update_self]
  have henv : ∀ {j e r}, .envoye j e r ∈ h ++ [f] → .envoye j e r ∈ h := by
    intro j e r he
    rcases List.mem_append.mp he with he | he
    · exact he
    · obtain rfl := List.mem_singleton.mp he
      cases hcible
  have hret : ∀ {j moi}, j ≠ id → Retire (h ++ [f]) moi j → Retire h moi j := by
    intro j moi hj hr
    rcases retire_append.mp hr with hr | ⟨msg, rfl, hid⟩
    · exact hr
    · exact absurd (hid ▸ Option.some.inj hcible) hj
  have heff : ∀ {j}, j ≠ id → .efface j ∈ h ++ [f] → .efface j ∈ h := by
    intro j hj he
    rcases List.mem_append.mp he with he | he
    · exact he
    · obtain rfl := List.mem_singleton.mp he
      exact absurd (Option.some.inj hcible) hj
  have htouche : .efface id ∈ h ++ [f] ∨ ∃ moi, Retire (h ++ [f]) moi id := by
    have hmem : f ∈ h ++ [f] := List.mem_append_right _ (List.mem_singleton.mpr rfl)
    cases f with
    | envoye j e r => cases hcible
    | retire moi msg => exact Or.inr ⟨moi, msg, hmem, Option.some.inj hcible⟩
    | efface j =>
      obtain rfl := Option.some.inj hcible
      exact Or.inl hmem
  refine ⟨hs, fun j m hm => ?_, fun j he => ?_, fun j m hm hno => ?_, fun j m moi hm hr => ?_,
    fun j e r he hn => ?_, fun j e r he => hi ▸ ht.donne j e r (henv he),
    fun j e r e' r' he he' => ht.unique j e r e' r' (henv he) (henv he'), fun g hg => ?_⟩
  · by_cases hj : j = id
    · subst hj
      exact (hx m (hself.symm.trans hm)).1.mono hsub
    · exact (ht.vu j m (hold hj ▸ hm)).mono hsub
  · by_cases hj : j = id
    · subst hj
      rw [hself]
      cases hxm : x with
      | none => rfl
      | some m => exact absurd he (hx m hxm).2.2.1
    · rw [hold hj]
      exact ht.efface j (heff hj he)
  · by_cases hj : j = id
    · subst hj
      obtain ⟨-, -, -, moi, hr⟩ := hx m (hself.symm.trans hm)
      exact absurd hr (hno moi)
    · exact ht.intact j m (hold hj ▸ hm) fun moi hr => hno moi (hr.mono hsub)
  · by_cases hj : j = id
    · subst hj
      exact (hx m (hself.symm.trans hm)).2.1
    · exact ht.entame j m moi (hold hj ▸ hm) (hret hj hr)
  · by_cases hj : j = id
    · subst hj
      exact htouche
    · rcases ht.perdu j e r (henv he) (hold hj ▸ hn) with hef | ⟨moi, hr⟩
      · exact Or.inl (hsub hef)
      · exact Or.inr ⟨moi, hr.mono hsub⟩
  · rcases List.mem_append.mp hg with hg | hg
    · exact (ht.fondee g hg).mono hsub
    · obtain rfl := List.mem_singleton.mp hg
      exact hf.mono hsub

/-- The stored messages and the history agree after every served request. -/
theorem Tenue.effet (ht : Tenue h b) (hs : Sain b') {f : Option Fait} (hf : ∀ x ∈ f, Fondee h x)
    (he : Effet b f b') : Tenue (h ++ f.toList) b' := by
  cases he with
  | retouche hr hc hi =>
    rw [Option.toList_none, List.append_nil]
    exact ht.retouche hs hr hc hi
  | envoi hm hp _ hc hi => exact ht.envoi hs hm hp hc hi
  | @retrait _ moi msg m hm hne hc hi =>
    obtain ⟨hvu, hmoi⟩ := hf _ rfl
    refine ht.suppression hs ⟨hvu, hmoi⟩ rfl ?_ hc hi
    rintro m' hm'
    obtain rfl := Option.some.inj hm'
    have hvum : Vu h m := ht.vu _ m hm
    obtain ⟨hem, hrec⟩ := ht.unique _ _ _ _ _ (ht.id_eq hm ▸ hvum.envoye) hvu.envoye
    refine ⟨⟨hvum.envoye, ?_⟩, length_erase_le_one hvu hmoi, fun hef => ?_, moi, msg, ?_, rfl⟩
    · rw [hem, hrec]
      exact List.erase_sublist.trans hvu.participants
    · have hef : .efface msg.id ∈ h := by simpa using hef
      rw [ht.efface _ hef] at hm
      cases hm
    · exact List.mem_append_right _ (List.mem_singleton.mpr rfl)
  | dernier _ hc hi =>
    exact ht.suppression hs (hf _ rfl) rfl (fun m hm => by cases hm) hc hi
  | efface hc hi =>
    exact ht.suppression hs (hf _ rfl) rfl (fun m hm => by cases hm) hc hi

end Etape

/-! ## The pages under the rule -/

section Pages

variable {ι : Type}

def histoire (w : List (Echange ι)) : List Fait := w.filterMap fait

theorem histoire_append (w : List (Echange ι)) (x : Echange ι) :
    histoire (w ++ [x]) = histoire w ++ (fait x).toList := by
  unfold histoire
  rw [List.filterMap_append]
  cases hx : fait x <;> simp [hx]

theorem histoire_subset {w w' : List (Echange ι)} (hw : w <+: w') : histoire w ⊆ histoire w' :=
  (hw.filterMap fait).subset

variable (bouts : ι → Bouts)

/-- The page of `i` keeps its two ends and holds snapshots of messages it is an end of. -/
structure PageTenue (w : List (Echange ι)) (i : ι) (p : Conversation) : Prop where
  role : p.role = (bouts i).role
  moi : p.moi = (bouts i).moi
  interlocuteur : p.interlocuteur = (bouts i).interlocuteur
  vus : ∀ m ∈ p.vus, Vu (histoire w) m ∧ p.moi ∈ m.participants

/-- A request conforms to its label, and the label to what the page may do. -/
def Emise (w : List (Echange ι)) (i : ι) (l : Geste) (r : Requete) : Prop :=
  Conforme l r ∧ match l with
    | .envoi emetteurId recepteurId _ =>
      emetteurId = (bouts i).moi ∧ recepteurId = (bouts i).interlocuteur
    | .pourMoi moi msg => moi = (bouts i).moi ∧ Vu (histoire w) msg ∧ moi ∈ msg.participants
    | .pourTous msg => Vu (histoire w) msg ∧ msg.emetteurId = (bouts i).moi
    | _ => True

/-- The rows are messages of the history that match the query. -/
def LignesLues (h : List Fait) (q : Query Champ) (rows : List (String × Document)) : Prop :=
  ∃ msgs : List MessageModele, rows = msgs.map MessageModele.ligne ∧
    ∀ m ∈ msgs, Vu h m ∧ ∀ c ∈ q.filters, c.sat m.id m.document = true

/-- An emission lists messages of the history. -/
def Lue (w : List (Echange ι)) : Echange ι → Prop
  | ⟨_, .lecture, .query _ q, .ok rows⟩ => LignesLues (histoire w) q rows
  | _ => True

variable {bouts}

theorem PageTenue.mono (w w' : List (Echange ι)) (i : ι) (p : Conversation) (hw : w <+: w')
    (h : PageTenue bouts w i p) : PageTenue bouts w' i p :=
  ⟨h.role, h.moi, h.interlocuteur,
    fun m hm => ⟨(h.vus m hm).1.mono (histoire_subset hw), (h.vus m hm).2⟩⟩

theorem Emise.mono (w w' : List (Echange ι)) (i : ι) (l : Geste) (r : Requete) (hw : w <+: w')
    (h : Emise bouts w i l r) : Emise bouts w' i l r := by
  refine ⟨h.1, ?_⟩
  have hsub := histoire_subset hw
  cases l with
  | pourMoi moi msg => exact ⟨h.2.1, h.2.2.1.mono hsub, h.2.2.2⟩
  | pourTous msg => exact ⟨h.2.1.mono hsub, h.2.2⟩
  | _ => exact h.2

theorem Lue.mono {w w' : List (Echange ι)} (hw : w <+: w') {x : Echange ι} (h : Lue w x) :
    Lue w' x := by
  unfold Lue at h ⊢
  split
  · obtain ⟨msgs, hrows, hmsgs⟩ := h
    exact ⟨msgs, hrows, fun m hm => ⟨(hmsgs m hm).1.mono (histoire_subset hw), (hmsgs m hm).2⟩⟩
  · trivial

theorem Bouts.ouvrir_eq (c : Bouts) :
    c.ouvrir = { role := c.role, moi := c.moi, interlocuteur := c.interlocuteur } := by
  obtain ⟨role, moi, interlocuteur⟩ := c
  cases role <;> rfl

theorem PageTenue.start (i : ι) : PageTenue bouts [] i (bouts i).ouvrir := by
  rw [Bouts.ouvrir_eq]
  exact ⟨rfl, rfl, rfl, fun m hm => by cases hm⟩

/-! ### Each action of a page -/

abbrev Regle (bouts : ι → Bouts) {α : Type} (i : ι)
    (Q : Except Err α → List (Echange ι) → Conversation → Prop) (p : Action Geste Conversation α)
    (w : List (Echange ι)) (s : Conversation) : Prop :=
  p.Ok (PageTenue bouts) (Emise bouts) (fun w x _ => Lue w x) i Q w s

variable {w : List (Echange ι)} {i : ι} {s : Conversation}

theorem regle_marquer (messages : List MessageModele) (h : PageTenue bouts w i s) :
    Regle bouts i (fun _ v x => PageTenue bouts v i x)
      (Conversation.marquerMessagesCommeLus messages) w s := by
  have hemise : Emise bouts w i .marquage (.commit (Conversation.marques s.moi messages)) :=
    ⟨⟨_, _, rfl⟩, trivial⟩
  exact ok_page.mpr (ok_call.mpr ⟨h, hemise, fun a w' s' _ _ hI _ => hI⟩)

theorem regle_recevoir (h : PageTenue bouts w i s) :
    Regle bouts i (fun _ v x => PageTenue bouts v i x) Conversation.recevoir w s := by
  refine ok_bind.mpr (ok_page.mpr (ok_call_bind.mpr ⟨h, ⟨⟨_, rfl⟩, trivial⟩, ?_⟩))
  rintro (e | rows) w' s' hw hmem hI hlue
  · exact hI
  · obtain ⟨msgs, hrows, hmsgs⟩ := hlue
    obtain rfl : rows = msgs.map MessageModele.ligne := hrows
    refine ok_ofExcept.mpr ?_
    rw [lister_lignes]
    refine ok_setState.mpr (regle_marquer _ ⟨hI.role, hI.moi, hI.interlocuteur, fun m hm => ?_⟩)
    rcases List.mem_append.mp hm with hm | hm
    · exact hI.vus m hm
    · obtain ⟨hvu, hsat⟩ := hmsgs m (List.mem_filter.mp hm).1
      -- the query asked for messages `moi` participates in
      have hmoi := hsat (.arrayContains .participants s.moi) (List.mem_singleton.mpr rfl)
      rw [sat_participants, h.moi, ← hI.moi] at hmoi
      exact ⟨hvu, hmoi⟩

theorem regle_reconstruire (h : PageTenue bouts w i s) :
    Regle bouts i (fun _ v x => PageTenue bouts v i x) Conversation.reconstruire w s :=
  ok_page.mpr (regle_marquer _ h)

theorem regle_deposer (contenu : String) (maintenant : ℤ) (h : PageTenue bouts w i s) :
    Regle bouts i (fun _ v x => PageTenue bouts v i x) (s.deposer contenu maintenant) w s := by
  unfold Conversation.deposer
  cases hm : s.messageEnCoursEdition with
  | some m =>
    have hemise : Emise bouts w i (.edition m.id contenu)
        (.write (.update .messages m.id [texte .contenu contenu])) := ⟨rfl, trivial⟩
    refine ok_call_bind.mpr ⟨h, hemise, ?_⟩
    rintro (e | a) w' s' hw hmem hI -
    · exact hI
    · exact ok_setState_ret.mpr ⟨hI.role, hI.moi, hI.interlocuteur, hI.vus⟩
  | none =>
    have hemise : Emise bouts w i (.envoi s.moi s.interlocuteur contenu)
        (.add .messages (s.nouveau contenu maintenant).toMap) :=
      ⟨⟨_, rfl, rfl, rfl, rfl, rfl⟩, h.moi, h.interlocuteur⟩
    refine ok_call_bind.mpr ⟨h, hemise, ?_⟩
    rintro (e | a) w' s' hw hmem hI -
    · exact hI
    · exact ok_ret.mpr hI

theorem regle_envoyer (maintenant : ℤ) (h : PageTenue bouts w i s) :
    Regle bouts i (fun _ v x => PageTenue bouts v i x) (Conversation.envoyerMessage maintenant)
      w s := by
  unfold Regle Conversation.envoyerMessage
  rw [ok_page]
  generalize trim s.controller = contenu
  by_cases hvide : contenu = ""
  · rw [if_pos hvide]
    exact ok_ret.mpr h
  rw [if_neg hvide, ok_bind]
  refine (regle_deposer contenu maintenant h).mono fun a v x hx => ?_
  cases a with
  | error e => exact hx
  | ok u => exact ok_setState_ret.mpr ⟨hx.role, hx.moi, hx.interlocuteur, hx.vus⟩

theorem regle_pourMoi {msg : MessageModele} (hmsg : msg ∈ s.vus) (h : PageTenue bouts w i s) :
    Regle bouts i (fun _ v x => PageTenue bouts v i x) (Conversation.supprimerPourMoi msg) w s := by
  obtain ⟨hvu, hmoi⟩ := h.vus msg hmsg
  have hemise : Emise bouts w i (.pourMoi s.moi msg) (.write (Conversation.retrait s.moi msg)) :=
    ⟨rfl, h.moi, hvu, hmoi⟩
  exact ok_page.mpr (ok_call.mpr ⟨h, hemise, fun a w' s' _ _ hI _ => hI⟩)

theorem regle_pourTous {msg : MessageModele} (hmsg : msg ∈ s.vus) (h : PageTenue bouts w i s) :
    Regle bouts i (fun _ v x => PageTenue bouts v i x) (Conversation.supprimerPourTous msg) w s := by
  refine ok_page.mpr ?_
  by_cases he : msg.emetteurId = s.moi
  · rw [if_neg (not_not.mpr he)]
    have hemise : Emise bouts w i (.pourTous msg) (.write (.delete .messages msg.id)) :=
      ⟨rfl, (h.vus msg hmsg).1, he.trans h.moi⟩
    exact ok_call.mpr ⟨h, hemise, fun a w' s' _ _ hI _ => hI⟩
  · rw [if_pos he]
    exact ok_ret.mpr h

/-- Every action of a page follows the rule. -/
theorem regle_on {ev : Evenement} {p : Action Geste Conversation Unit} (hp : s.on ev = some p)
    (h : PageTenue bouts w i s) : Regle bouts i (fun _ v x => PageTenue bouts v i x) p w s := by
  cases ev with
  | recevoir =>
    obtain rfl := Option.some.inj hp
    exact regle_recevoir h
  | reconstruire =>
    obtain rfl := Option.some.inj hp
    exact regle_reconstruire h
  | saisir contenu =>
    obtain rfl := Option.some.inj hp
    exact ok_setState_ret.mpr ⟨h.role, h.moi, h.interlocuteur, h.vus⟩
  | envoyerMessage maintenant =>
    obtain rfl := Option.some.inj hp
    exact regle_envoyer maintenant h
  | repondre n =>
    obtain ⟨msg, -, rfl⟩ := Option.map_eq_some_iff.mp hp
    exact ok_setState_ret.mpr ⟨h.role, h.moi, h.interlocuteur, h.vus⟩
  | annulerReponse =>
    obtain rfl := Option.some.inj hp
    exact ok_setState_ret.mpr ⟨h.role, h.moi, h.interlocuteur, h.vus⟩
  | modifier n =>
    obtain ⟨msg, -, rfl⟩ := Option.map_eq_some_iff.mp hp
    exact ok_setState_ret.mpr ⟨h.role, h.moi, h.interlocuteur, h.vus⟩
  | supprimerPourMoi n =>
    obtain ⟨msg, hmsg, rfl⟩ := Option.map_eq_some_iff.mp hp
    exact regle_pourMoi (List.mem_of_getElem? hmsg) h
  | supprimerPourTous n =>
    obtain ⟨msg, hmsg, rfl⟩ := Option.map_eq_some_iff.mp hp
    exact regle_pourTous (List.mem_of_getElem? (Option.filter_eq_some_iff.mp hmsg).1) h

/-! ## The system -/

abbrev Systeme (ι : Type) := Sys ι Geste Requete Req.Ans Err Conversation Base

/-- The conversation pages on the server `S`. -/
def messagerie (ι : Type) (S : Server) :
    Spec ι Geste Requete Req.Ans Err Conversation Base Evenement where
  handler := S.handler
  lost := .unavailable
  on _ ev p := p.on ev

/-- A step of the conversation pages; nobody else writes. -/
def pas [DecidableEq ι] (S : Server) (s : Systeme ι) (a : Act ι Evenement Base) :
    Option (Systeme ι) :=
  s.closedStep (messagerie ι S) a

variable (bouts)

/-- What every reachable state satisfies. -/
structure Invariant (s : Systeme ι) : Prop where
  regle : s.Ok (PageTenue bouts) (Emise bouts) fun w x _ => Lue w x
  lues : ∀ x ∈ s.log, Lue s.log x
  tenue : Tenue (histoire s.log) s.base

variable {bouts}

/-- A request sent under the rule makes a founded fact. -/
theorem fondee_of_emise {x : Echange ι} (hx : Emise bouts w x.who x.lab x.req) :
    ∀ f ∈ fait x, Fondee (histoire w) f := by
  intro f hf
  obtain ⟨i, l, r, a⟩ := x
  cases l with
  | envoi emetteurId recepteurId contenu =>
    obtain ⟨m, rfl, rfl, -, -, rfl⟩ := hx.1
    cases a with
    | error e => cases hf
    | ok id =>
      obtain rfl := Option.some.inj hf
      trivial
  | pourMoi moi msg =>
    cases a with
    | error e => cases hf
    | ok u =>
      obtain rfl := Option.some.inj hf
      exact hx.2.2
  | pourTous msg =>
    cases a with
    | error e => cases hf
    | ok u =>
      obtain rfl := Option.some.inj hf
      exact ⟨_, _, hx.2.1.envoye⟩
  | _ => cases hf

/-- The answer to a query of the messages. -/
theorem lue_handler {S : Server} {b : Base} {l : Geste} {r : Requete}
    (hr : Conforme l r) (ht : Tenue (histoire w) b) (i : ι) :
    Lue w ⟨i, l, r, (S.handler r b).1⟩ := by
  cases l with
  | lecture =>
    obtain ⟨q, rfl⟩ := hr
    cases hq : q.filters.any (Filter.refused S.maxIn) with
    | true =>
      have hans : (S.handler (.query .messages q : Requete) b).1 = .error .invalidArgument := by
        simp only [Server.handler, hq, if_true]
      rw [hans]
      trivial
    | false =>
      have hans : (S.handler (.query .messages q : Requete) b).1 = .ok (q.run (b.docs .messages)) := by
        simp only [Server.handler, hq]
        rfl
      rw [hans]
      obtain ⟨msgs, hrows, hmsgs⟩ := ht.sain.lignes fun row hrow => (Query.of_mem_run hrow).1
      refine ⟨msgs, hrows, fun m hm => ⟨ht.vu _ m (hmsgs m hm), ?_⟩⟩
      have hrow : m.ligne ∈ q.run (b.docs .messages) := hrows ▸ List.mem_map_of_mem hm
      exact (Query.of_mem_run hrow).2
  | envoi emetteurId recepteurId contenu =>
    obtain ⟨m, -, -, -, -, rfl⟩ := hr
    trivial
  | marquage =>
    obtain ⟨moi, messages, rfl⟩ := hr
    trivial
  | _ =>
    obtain rfl := hr
    trivial

/-- An answered request keeps the invariant. -/
theorem Invariant.answer {s : Systeme ι} (h : Invariant bouts s) {n : ℕ}
    {t : Task ι Geste Requete Req.Ans Err Conversation} (ht : s.tasks[n]? = some t)
    {a : Except Err (Req.Ans t.req)} {b' : Base}
    (hlue : Lue s.log ⟨t.who, t.lab, t.req, a⟩)
    (htenue : Tenue (histoire (s.log ++ [⟨t.who, t.lab, t.req, a⟩])) b') :
    Invariant bouts { s.answer n t a with base := b' } := by
  have hw : s.log <+: (s.answer n t a).log := List.prefix_append _ _
  have hans := h.regle.answer PageTenue.mono Emise.mono ht a
  refine ⟨⟨hans.page, hans.task, hans.sent⟩, fun x hx => ?_, htenue⟩
  rcases List.mem_append.mp hx with hx | hx
  · exact (h.lues x hx).mono hw
  · obtain rfl := List.mem_singleton.mp hx
    exact hlue.mono hw

/-- A request that fails makes no fact. -/
theorem fait_error {i : ι} {l : Geste} {r : Requete} {e : Err} :
    fait (⟨i, l, r, .error e⟩ : Echange ι) = none := by
  cases l with
  | envoi emetteurId recepteurId contenu => cases r <;> rfl
  | _ => rfl

theorem lue_error {i : ι} {l : Geste} {r : Requete} {e : Err} :
    Lue w (⟨i, l, r, .error e⟩ : Echange ι) := by
  cases l with
  | lecture => cases r <;> trivial
  | _ => trivial

/-- **Step lemma.** -/
theorem Invariant.step [DecidableEq ι] {S : Server} {s s' : Systeme ι} {a : Act ι Evenement Base}
    (h : Invariant bouts s) (hs : pas S s a = some s') : Invariant bouts s' := by
  have hstep := Sys.step_of_closedStep hs
  have hregle : ∀ s'' a, s.step (messagerie ι S) a = some s'' →
      s''.Ok (PageTenue bouts) (Emise bouts) fun w x _ => Lue w x := by
    intro s'' a ha
    refine h.regle.step (messagerie ι S) PageTenue.mono
      Emise.mono (fun w i ev p q hq hI => regle_on hq hI) ?_ ha
    cases a with
    | resume n =>
      intro t ht a ha
      exact h.lues _ ((h.regle.task t (List.mem_of_getElem? ht)).logged a ha)
    | _ => trivial
  cases Sys.step_cases hstep with
  | event hp => exact ⟨hregle _ _ hstep, h.lues, h.tenue⟩
  | @serve n t ht hans =>
    have hemise := (h.regle.task t (List.mem_of_getElem? ht)).issued
    obtain ⟨hsain, heffet⟩ := effet_handler S h.tenue.sain hemise.1 t.who
    refine h.answer ht (lue_handler hemise.1 h.tenue t.who) ?_
    rw [histoire_append]
    exact h.tenue.effet hsain (fondee_of_emise (x := ⟨_, _, _, _⟩) hemise) heffet
  | @lose n t ht hans =>
    refine h.answer ht lue_error ?_
    rw [histoire_append, fait_error, Option.toList_none, List.append_nil]
    exact h.tenue
  | resume ht hans => exact ⟨hregle _ _ hstep, h.lues, h.tenue⟩
  | other b => cases hs

/-! ### What a step does -/

/-- A served label and the fact it makes: only a deletion for oneself takes a message out of a
view, and it fails only when the message is gone. -/
inductive Etiquette (b : Base) : Geste → Option Fait → Prop where
  | retrait (moi : String) (msg : MessageModele) :
    Etiquette b (.pourMoi moi msg) (some (.retire moi msg))
  | refus {moi : String} {msg : MessageModele} (h : courrier b msg.id = none)
    (hne : msg.participants.erase moi ≠ []) : Etiquette b (.pourMoi moi msg) none
  | autre {l : Geste} {f : Option Fait} (hl : ∀ moi msg, l ≠ .pourMoi moi msg)
    (hf : ∀ moi msg, f ≠ some (.retire moi msg)) : Etiquette b l f

theorem etiquette_handler {S : Server} {b : Base} {l : Geste} {r : Requete}
    (hr : Conforme l r) (i : ι) : Etiquette b l (fait ⟨i, l, r, (S.handler r b).1⟩) := by
  cases l with
  | pourMoi moi msg =>
    obtain rfl := hr
    cases hw : (Conversation.retrait moi msg).apply b with
    | some b' =>
      rw [handler_write_of_some hw]
      exact .retrait moi msg
    | none =>
      rw [handler_write_of_none hw]
      by_cases he : msg.participants.erase moi = []
      · rw [Conversation.retrait, if_pos he] at hw
        cases hw
      · rw [Conversation.retrait, if_neg he] at hw
        exact .refus (courrier_of_none (Option.map_eq_none_iff.mp hw)) he
  | envoi emetteurId recepteurId contenu =>
    refine .autre (fun _ _ h => by cases h) fun moi msg h => ?_
    obtain ⟨m, -, -, -, -, rfl⟩ := hr
    cases h
  | pourTous msg =>
    obtain rfl := hr
    refine .autre (fun _ _ h => by cases h) fun moi m h => ?_
    cases h
  | _ => exact .autre (fun _ _ h => by cases h) fun _ _ h => by cases h

section Servi

variable {s : Systeme ι} {n : ℕ} {t : Task ι Geste Requete Req.Ans Err Conversation}
  {C : String → MessageModele → Prop}

/-- A condition on the deletion for oneself that is served. -/
theorem forall_servi_iff (ht : s.tasks[n]? = some t) {moi : String} {msg : MessageModele}
    (hl : t.lab = .pourMoi moi msg) :
    (∀ t' moi' msg', s.tasks[n]? = some t' → t'.lab = .pourMoi moi' msg' → C moi' msg') ↔
      C moi msg := by
  constructor
  · exact fun hc => hc t moi msg ht hl
  · intro hc t' moi' msg' ht' hl'
    obtain rfl := Option.some.inj (ht.symm.trans ht')
    cases hl.symm.trans hl'
    exact hc

theorem forall_servi_of_autre (ht : s.tasks[n]? = some t) (hl : ∀ moi msg, t.lab ≠ .pourMoi moi msg) :
    ∀ t' moi msg, s.tasks[n]? = some t' → t'.lab = .pourMoi moi msg → C moi msg := by
  intro t' moi msg ht' hl'
  obtain rfl := Option.some.inj (ht.symm.trans ht')
  exact absurd hl' (hl moi msg)

end Servi

/-- A step changes nothing on the server, or serves one request. -/
inductive Pas (s s' : Systeme ι) : Act ι Evenement Base → Prop where
  | calme {a : Act ι Evenement Base} (ha : ∀ n, a ≠ .serve n) (hb : s'.base = s.base)
    (hh : histoire s'.log = histoire s.log) : Pas s s' a
  | sert {n : ℕ} {t : Task ι Geste Requete Req.Ans Err Conversation} {f : Option Fait}
    (ht : s.tasks[n]? = some t) (hlab : Etiquette s.base t.lab f)
    (hvu : ∀ moi msg, t.lab = .pourMoi moi msg →
      Vu (histoire s.log) msg ∧ moi ∈ msg.participants)
    (hf : ∀ x ∈ f, Fondee (histoire s.log) x) (heffet : Effet s.base f s'.base)
    (hh : histoire s'.log = histoire s.log ++ f.toList) : Pas s s' (.serve n)

theorem Invariant.pas [DecidableEq ι] {S : Server} {s s' : Systeme ι} {a : Act ι Evenement Base}
    (h : Invariant bouts s) (hs : pas S s a = some s') : Pas s s' a := by
  cases Sys.step_cases (Sys.step_of_closedStep hs) with
  | event hp => exact .calme (fun n h => by cases h) rfl rfl
  | @serve n t ht hans =>
    have hemise := (h.regle.task t (List.mem_of_getElem? ht)).issued
    refine .sert ht (etiquette_handler hemise.1 t.who) (fun moi msg hl => ?_)
      (fondee_of_emise (x := ⟨_, _, _, _⟩) hemise)
      (effet_handler S h.tenue.sain hemise.1 t.who).2 (histoire_append _ _)
    have hlab := hemise.2
    rw [hl] at hlab
    exact hlab.2
  | @lose n t ht hans =>
    refine .calme (fun n h => by cases h) rfl ?_
    rw [show (s.answer n t _).log = s.log ++ [_] from rfl, histoire_append, fait_error,
      Option.toList_none, List.append_nil]
  | resume ht hans => exact .calme (fun n h => by cases h) rfl rfl
  | other b => cases hs

/-- No message has been sent yet. -/
def SansMessage (b : Base) : Prop := b.docs .messages = Table.empty

theorem Tenue.vide {b : Base} (hb : SansMessage b) : Tenue [] b := by
  have hdoc : ∀ id, b.doc .messages id = none := fun id => by
    rw [Data.doc, hb, Table.find_empty]
  have hvide : ∀ id, courrier b id = none := fun id => courrier_of_none (hdoc id)
  refine ⟨fun id d hd => ?_, fun id m hm => ?_, by simp, fun id m hm => ?_,
    fun id m moi hm => ?_, by simp, by simp, by simp, by simp⟩
  · rw [hdoc] at hd; cases hd
  · rw [hvide] at hm; cases hm
  · rw [hvide] at hm; cases hm
  · rw [hvide] at hm; cases hm

/-- The conversations are opened on a store without messages. -/
def depart (b : Base) (bouts : ι → Bouts) : Systeme ι := Sys.init b fun i => (bouts i).ouvrir

theorem Invariant.init {b : Base} (hb : SansMessage b) : Invariant bouts (depart b bouts) :=
  ⟨Sys.Ok.init PageTenue.start b, by simp [depart, Sys.init], Tenue.vide hb⟩

end Pages

end EduConnect.Messagerie
