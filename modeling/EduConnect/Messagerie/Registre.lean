import EduConnect.Messagerie.Systeme

/-!
# The records of the messages

The three conversation pages write the same documents, some of them from old snapshots.  Who a
message is from and for and when it was sent never change; its text changes by its sender only, and
its mark by its receiver.
-/

namespace EduConnect.Messagerie

open Lib Prog

/-! ## What may become of a message -/

/-- A message that says something, seen by one of its ends at least and by nobody else. -/
structure MessageModele.Valide (m : MessageModele) : Prop where
  contenu : trim m.contenu ≠ ""
  present : m.participants ≠ []
  bouts : m.participants ⊆ [m.emetteurId, m.recepteurId]

/-- Every document of the collection holds a valid message. -/
def Valides (b : Base) : Prop :=
  ∀ id d, b.doc .messages id = some d → ∃ m : MessageModele, d = m.document ∧ m.Valide

/-- Who a message is from and for, and when it was sent. -/
def MessageModele.entete (m : MessageModele) : String × String × ℤ :=
  (m.emetteurId, m.recepteurId, m.dateEnvoi)

/-- What a request of the page of `moi` makes of the message under an id, which has been given or
not. -/
inductive Evolution (moi : String) (l : Geste) (donne : Prop) :
    Option MessageModele → Option MessageModele → Prop where
  | reste (x : Option MessageModele) : Evolution moi l donne x x
  | nouveau {m : MessageModele} (hd : ¬donne) (hm : m.Valide) : Evolution moi l donne none (some m)
  | contenu {m : MessageModele} {c : String} (he : m.emetteurId = moi) (hc : trim c ≠ "") :
    Evolution moi l donne (some m) (some { m with contenu := c })
  | lu {m : MessageModele} (hr : m.recepteurId = moi) :
    Evolution moi l donne (some m) (some { m with lu := true })
  | participants {m : MessageModele} {ps : List String} (hne : ps ≠ [])
    (hsub : ps ⊆ [m.emetteurId, m.recepteurId]) :
    Evolution moi l donne (some m) (some { m with participants := ps })
  /-- Nobody else participated. -/
  | dernier {m msg : MessageModele} (hl : l = .pourMoi moi msg) (hid : msg.id = m.id)
    (hseul : msg.participants.erase moi = []) : Evolution moi l donne (some m) none
  | efface {m msg : MessageModele} (hl : l = .pourTous msg) (hid : msg.id = m.id)
    (he : m.emetteurId = moi) : Evolution moi l donne (some m) none

theorem Evolution.valide {moi : String} {l : Geste} {donne : Prop} {x y : Option MessageModele}
    (h : Evolution moi l donne x y) (hx : ∀ m ∈ x, m.Valide) : ∀ m ∈ y, m.Valide := by
  intro m hm
  cases h with
  | reste => exact hx m hm
  | nouveau hd hvalide =>
    obtain rfl := Option.some.inj hm
    exact hvalide
  | contenu he hc =>
    obtain rfl := Option.some.inj hm
    exact ⟨hc, (hx _ rfl).present, (hx _ rfl).bouts⟩
  | lu hr =>
    obtain rfl := Option.some.inj hm
    exact ⟨(hx _ rfl).contenu, (hx _ rfl).present, (hx _ rfl).bouts⟩
  | participants hne hsub =>
    obtain rfl := Option.some.inj hm
    exact ⟨(hx _ rfl).contenu, hne, hsub⟩
  | dernier | efface => cases hm

/-- The heading stays, for an id that has been given. -/
theorem Evolution.entete {moi : String} {l : Geste} {donne : Prop} {x y : Option MessageModele}
    (h : Evolution moi l donne x y) (hd : donne) :
    ∀ m' ∈ y, ∃ m ∈ x, m'.entete = m.entete := by
  intro m' hm'
  cases h with
  | reste => exact ⟨m', hm', rfl⟩
  | nouveau hnon => exact absurd hd hnon
  | contenu | lu | participants =>
    obtain rfl := Option.some.inj hm'
    exact ⟨_, rfl, rfl⟩
  | dernier | efface => cases hm'

/-! ## What the pages hold and send -/

section Pages

variable {ι : Type} (bouts : ι → Bouts)

/-- The page marks and edits messages it has seen, and edits its own only. -/
structure PageSuivie (w : List (Echange ι)) (i : ι) (p : Conversation) : Prop
    extends PageTenue bouts w i p where
  listes : p.messages ⊆ p.vus
  edition : ∀ m ∈ p.messageEnCoursEdition, m ∈ p.vus ∧ m.emetteurId = p.moi

/-- What a page may write. -/
def EmiseSuivie (w : List (Echange ι)) (i : ι) (l : Geste) (r : Requete) : Prop :=
  Emise bouts w i l r ∧ match l with
    | .envoi emetteurId recepteurId contenu => trim contenu ≠ "" ∧
      ∃ m : MessageModele, m.emetteurId = emetteurId ∧ m.recepteurId = recepteurId ∧
        m.participants = [emetteurId, recepteurId] ∧ m.contenu = contenu ∧
          r = .add .messages m.toMap
    | .edition id contenu => trim contenu ≠ "" ∧
      ∃ m, Vu (histoire w) m ∧ m.id = id ∧ m.emetteurId = (bouts i).moi
    | .marquage => ∃ messages, (∀ m ∈ messages, Vu (histoire w) m) ∧
      r = .commit (Conversation.marques (bouts i).moi messages)
    | _ => True

variable {bouts} {w : List (Echange ι)} {i : ι} {s : Conversation}

theorem PageSuivie.mono (w w' : List (Echange ι)) (i : ι) (p : Conversation) (hw : w <+: w')
    (h : PageSuivie bouts w i p) : PageSuivie bouts w' i p :=
  ⟨h.toPageTenue.mono w w' i p hw, h.listes, h.edition⟩

theorem EmiseSuivie.mono (w w' : List (Echange ι)) (i : ι) (l : Geste) (r : Requete)
    (hw : w <+: w') (h : EmiseSuivie bouts w i l r) : EmiseSuivie bouts w' i l r := by
  refine ⟨h.1.mono w w' i l r hw, ?_⟩
  have hsub := histoire_subset hw
  cases l with
  | edition id contenu =>
    obtain ⟨hc, m, hvu, hm⟩ := h.2
    exact ⟨hc, m, hvu.mono hsub, hm⟩
  | marquage =>
    obtain ⟨messages, hvus, hr⟩ := h.2
    exact ⟨messages, fun m hm => (hvus m hm).mono hsub, hr⟩
  | _ => exact h.2

theorem PageSuivie.start (i : ι) : PageSuivie bouts [] i (bouts i).ouvrir := by
  refine ⟨PageTenue.start i, ?_, ?_⟩ <;> rw [Bouts.ouvrir_eq]
  · exact List.Subset.refl _
  · exact fun m hm => by cases hm

/-! ### Each action of a page -/

abbrev Suit (bouts : ι → Bouts) {α : Type} (i : ι)
    (Q : Except Err α → List (Echange ι) → Conversation → Prop) (p : Action Geste Conversation α)
    (w : List (Echange ι)) (s : Conversation) : Prop :=
  p.Ok (PageSuivie bouts) (EmiseSuivie bouts) (fun w x _ => Lue w x) i Q w s

theorem suit_marquer {messages : List MessageModele} (hvus : messages ⊆ s.vus)
    (h : PageSuivie bouts w i s) :
    Suit bouts i (fun _ v x => PageSuivie bouts v i x)
      (Conversation.marquerMessagesCommeLus messages) w s := by
  have hemise : EmiseSuivie bouts w i .marquage (.commit (Conversation.marques s.moi messages)) :=
    ⟨⟨⟨_, _, rfl⟩, trivial⟩, messages, fun m hm => (h.vus m (hvus hm)).1, by rw [h.moi]⟩
  exact ok_page.mpr (ok_call.mpr ⟨h, hemise, fun a w' s' _ _ hI _ => hI⟩)

theorem suit_recevoir (h : PageSuivie bouts w i s) :
    Suit bouts i (fun _ v x => PageSuivie bouts v i x) Conversation.recevoir w s := by
  refine ok_bind.mpr (ok_page.mpr (ok_call_bind.mpr ⟨h, ⟨⟨⟨_, rfl⟩, trivial⟩, trivial⟩, ?_⟩))
  rintro (e | rows) w' s' hw hmem hI hlue
  · exact hI
  · obtain ⟨msgs, hrows, hmsgs⟩ := hlue
    obtain rfl : rows = msgs.map MessageModele.ligne := hrows
    refine ok_ofExcept.mpr ?_
    rw [lister_lignes]
    refine ok_setState.mpr (suit_marquer (List.subset_append_right _ _) ?_)
    refine ⟨⟨hI.role, hI.moi, hI.interlocuteur, fun m hm => ?_⟩, List.subset_append_right _ _,
      fun m hm => ⟨List.mem_append_left _ (hI.edition m hm).1, (hI.edition m hm).2⟩⟩
    rcases List.mem_append.mp hm with hm | hm
    · exact hI.vus m hm
    · obtain ⟨hvu, hsat⟩ := hmsgs m (List.mem_filter.mp hm).1
      have hmoi := hsat (.arrayContains .participants s.moi) (List.mem_singleton.mpr rfl)
      rw [sat_participants, h.moi, ← hI.moi] at hmoi
      exact ⟨hvu, hmoi⟩

theorem suit_deposer {contenu : String} (hc : trim contenu ≠ "") (maintenant : ℤ)
    (h : PageSuivie bouts w i s) :
    Suit bouts i (fun _ v x => PageSuivie bouts v i x) (s.deposer contenu maintenant) w s := by
  unfold Conversation.deposer
  rcases hm : s.messageEnCoursEdition with _ | m
  · have hemise : EmiseSuivie bouts w i (.envoi s.moi s.interlocuteur contenu)
        (.add .messages (s.nouveau contenu maintenant).toMap) :=
      ⟨⟨⟨_, rfl, rfl, rfl, rfl, rfl⟩, h.moi, h.interlocuteur⟩, hc, _, rfl, rfl, rfl, rfl, rfl⟩
    refine ok_call_bind.mpr ⟨h, hemise, ?_⟩
    rintro (e | a) w' s' hw hmem hI -
    · exact hI
    · exact ok_ret.mpr hI
  · obtain ⟨hvu, he⟩ := h.edition m hm
    have hemise : EmiseSuivie bouts w i (.edition m.id contenu)
        (.write (.update .messages m.id [texte .contenu contenu])) :=
      ⟨⟨rfl, trivial⟩, hc, m, (h.vus m hvu).1, rfl, he.trans h.moi⟩
    refine ok_call_bind.mpr ⟨h, hemise, ?_⟩
    rintro (e | a) w' s' hw hmem hI -
    · exact hI
    · exact ok_setState_ret.mpr ⟨⟨hI.role, hI.moi, hI.interlocuteur, hI.vus⟩, hI.listes, nofun⟩

theorem suit_envoyer (maintenant : ℤ) (h : PageSuivie bouts w i s) :
    Suit bouts i (fun _ v x => PageSuivie bouts v i x) (Conversation.envoyerMessage maintenant)
      w s := by
  unfold Suit Conversation.envoyerMessage
  rw [ok_page]
  by_cases hvide : trim s.controller = ""
  · rw [if_pos hvide]
    exact ok_ret.mpr h
  rw [if_neg hvide, ok_bind]
  have hc : trim (trim s.controller) ≠ "" := by rwa [trim_trim]
  refine (suit_deposer hc maintenant h).mono fun a v x hx => ?_
  cases a with
  | error e => exact hx
  | ok u =>
    exact ok_setState_ret.mpr ⟨⟨hx.role, hx.moi, hx.interlocuteur, hx.vus⟩, hx.listes, hx.edition⟩

theorem suit_pourMoi {msg : MessageModele} (hmsg : msg ∈ s.vus) (h : PageSuivie bouts w i s) :
    Suit bouts i (fun _ v x => PageSuivie bouts v i x) (Conversation.supprimerPourMoi msg) w s := by
  obtain ⟨hvu, hmoi⟩ := h.vus msg hmsg
  have hemise : EmiseSuivie bouts w i (.pourMoi s.moi msg)
      (.write (Conversation.retrait s.moi msg)) := ⟨⟨rfl, h.moi, hvu, hmoi⟩, trivial⟩
  exact ok_page.mpr (ok_call.mpr ⟨h, hemise, fun a w' s' _ _ hI _ => hI⟩)

theorem suit_pourTous {msg : MessageModele} (hmsg : msg ∈ s.vus) (h : PageSuivie bouts w i s) :
    Suit bouts i (fun _ v x => PageSuivie bouts v i x) (Conversation.supprimerPourTous msg)
      w s := by
  refine ok_page.mpr ?_
  by_cases he : msg.emetteurId = s.moi
  · rw [if_neg (not_not.mpr he)]
    have hemise : EmiseSuivie bouts w i (.pourTous msg) (.write (.delete .messages msg.id)) :=
      ⟨⟨rfl, (h.vus msg hmsg).1, he.trans h.moi⟩, trivial⟩
    exact ok_call.mpr ⟨h, hemise, fun a w' s' _ _ hI _ => hI⟩
  · rw [if_pos he]
    exact ok_ret.mpr h

/-- Every action of a page follows the rule. -/
theorem suit_on {ev : Evenement} {p : Action Geste Conversation Unit} (hp : s.on ev = some p)
    (h : PageSuivie bouts w i s) : Suit bouts i (fun _ v x => PageSuivie bouts v i x) p w s := by
  cases ev with
  | recevoir =>
    obtain rfl := Option.some.inj hp
    exact suit_recevoir h
  | reconstruire =>
    obtain rfl := Option.some.inj hp
    exact ok_page.mpr (suit_marquer h.listes h)
  | envoyerMessage maintenant =>
    obtain rfl := Option.some.inj hp
    exact suit_envoyer maintenant h
  | modifier n =>
    obtain ⟨msg, hmsg, rfl⟩ := Option.map_eq_some_iff.mp hp
    obtain ⟨hn, he⟩ := Option.filter_eq_some_iff.mp hmsg
    refine ok_setState_ret.mpr ⟨⟨h.role, h.moi, h.interlocuteur, h.vus⟩, h.listes, fun m hm => ?_⟩
    obtain rfl := Option.some.inj hm
    exact ⟨List.mem_of_getElem? hn, of_decide_eq_true he⟩
  | supprimerPourMoi n =>
    obtain ⟨msg, hmsg, rfl⟩ := Option.map_eq_some_iff.mp hp
    exact suit_pourMoi (List.mem_of_getElem? hmsg) h
  | supprimerPourTous n =>
    obtain ⟨msg, hmsg, rfl⟩ := Option.map_eq_some_iff.mp hp
    exact suit_pourTous (List.mem_of_getElem? (Option.filter_eq_some_iff.mp hmsg).1) h
  | saisir contenu =>
    obtain rfl := Option.some.inj hp
    exact ok_setState_ret.mpr ⟨⟨h.role, h.moi, h.interlocuteur, h.vus⟩, h.listes, h.edition⟩
  | repondre n =>
    obtain ⟨msg, -, rfl⟩ := Option.map_eq_some_iff.mp hp
    exact ok_setState_ret.mpr ⟨⟨h.role, h.moi, h.interlocuteur, h.vus⟩, h.listes, h.edition⟩
  | annulerReponse =>
    obtain rfl := Option.some.inj hp
    exact ok_setState_ret.mpr ⟨⟨h.role, h.moi, h.interlocuteur, h.vus⟩, h.listes, h.edition⟩

/-! ## What the server makes of it -/

/-- A snapshot of the history and the stored message have the same ends. -/
theorem Tenue.bouts_eq {h : List Fait} {b : Base} (ht : Tenue h b) {id : String}
    {m msg : MessageModele} (hm : courrier b id = some m) (hvu : Vu h msg) (hid : msg.id = id) :
    m.emetteurId = msg.emetteurId ∧ m.recepteurId = msg.recepteurId := by
  have henv := (ht.vu id m hm).envoye
  rw [ht.id_eq hm] at henv
  exact ht.unique id _ _ _ _ henv (hid ▸ hvu.envoye)

/-- A request that changes the message `j` only. -/
theorem evolution_update {moi : String} {l : Geste} {b b' : Base} {j : String}
    {x : Option MessageModele} (hc : courrier b' = Function.update (courrier b) j x)
    (hj : Evolution moi l (j ∈ b.issued) (courrier b j) x) (id : String) :
    Evolution moi l (id ∈ b.issued) (courrier b id) (courrier b' id) := by
  rw [hc]
  by_cases hid : id = j
  · subst hid
    rwa [Function.update_self]
  · rw [Function.update_of_ne hid]
    exact .reste _

/-- The effect of a deletion for oneself. -/
theorem evolution_retrait (S : Server) {h : List Fait} {b : Base} (ht : Tenue h b) (moi : String)
    {msg : MessageModele} (hvu : Vu h msg) (id : String) :
    Evolution moi (.pourMoi moi msg) (id ∈ b.issued) (courrier b id)
      (courrier (S.handler (.write (Conversation.retrait moi msg) : Requete) b).2 id) := by
  by_cases he : msg.participants.erase moi = []
  · have hw : Conversation.retrait moi msg = .delete .messages msg.id := if_pos he
    rw [hw, handler_delete]
    refine evolution_update (courrier_eraseDoc b _) ?_ id
    rcases hm : courrier b msg.id with _ | m
    · exact .reste _
    · exact .dernier rfl (ht.id_eq hm).symm he
  · have hw : Conversation.retrait moi msg = .update .messages msg.id
        [textes .participants (msg.participants.erase moi)] := if_neg he
    rw [hw]
    rcases handler_update S ht.sain msg.id fun m => writeFields_participants b.clock m
      (msg.participants.erase moi) with h | ⟨m, b', hm, h, -, -, hupdate⟩
    · rw [h]
      exact .reste _
    rw [h]
    refine evolution_update hupdate ?_ id
    rw [hm]
    have hends := ht.bouts_eq hm hvu rfl
    refine .participants he fun x hx => ?_
    rw [hends.1, hends.2]
    exact hvu.participants.subset (List.mem_of_mem_erase hx)

/-- **Effect of a request** on the message under each id. -/
theorem evolution_handler (S : Server) {b : Base} (ht : Tenue (histoire w) b) {l : Geste}
    {r : Requete} (hr : EmiseSuivie bouts w i l r) (id : String) :
    Evolution (bouts i).moi l (id ∈ b.issued) (courrier b id)
      (courrier (S.handler r b).2 id) := by
  have hsain := ht.sain
  have hrefus : S.handler r b = (.error .notFound, b) →
      Evolution (bouts i).moi l (id ∈ b.issued) (courrier b id)
        (courrier (S.handler r b).2 id) := by
    intro he
    rw [he]
    exact .reste _
  cases l with
  | lecture =>
    obtain ⟨q, rfl⟩ := hr.1.1
    have hkeep : (S.handler (.query .messages q : Requete) b).2 = b := handler_lecture trivial
    rw [hkeep]
    exact .reste _
  | envoi emetteurId recepteurId contenu =>
    obtain ⟨hc, m, rfl, rfl, hp, rfl, rfl⟩ := hr.2
    refine evolution_update (courrier_putDoc b (S.newDocId b .messages) m) ?_ id
    have hnew : S.newDocId b .messages ∉ b.issued := S.newDocId_not_mem_issued b .messages
    rcases hm : courrier b (S.newDocId b .messages) with _ | m'
    · refine .nouveau hnew ⟨hc, ?_, fun x hx => hp ▸ hx⟩
      show m.participants ≠ []
      rw [hp]
      exact List.cons_ne_nil _ _
    · have henv := (ht.vu _ m' hm).envoye
      rw [ht.id_eq hm] at henv
      exact absurd (ht.donne _ _ _ henv) hnew
  | edition j contenu =>
    obtain rfl := hr.1.1
    obtain ⟨hc, msg, hvu, rfl, he⟩ := hr.2
    rcases handler_update S hsain msg.id fun m => writeFields_contenu b.clock m contenu with
      h | ⟨m, b', hm, h, -, -, hupdate⟩
    · exact hrefus h
    rw [h]
    refine evolution_update hupdate ?_ id
    rw [hm]
    have hends := ht.bouts_eq hm hvu rfl
    exact .contenu (hends.1.trans he) hc
  | marquage =>
    obtain ⟨messages, hvus, rfl⟩ := hr.2
    rcases handler_marques S hsain (bouts i).moi messages with h | ⟨b', h, -, -, hc⟩
    · exact hrefus h
    rw [h, hc id]
    rcases hm : courrier b id with _ | m
    · exact .reste _
    rw [Option.map_some]
    split_ifs with hmarque
    · obtain ⟨msg, hmsg, hid, hmoi, -⟩ := hmarque
      have hends := ht.bouts_eq hm (hvus msg hmsg) (hid.trans (ht.id_eq hm))
      exact .lu (hends.2.trans hmoi)
    · exact .reste _
  | pourMoi moi msg =>
    obtain ⟨rfl, rfl, hvu, hmoi⟩ := hr.1
    exact evolution_retrait S ht (bouts i).moi hvu id
  | pourTous msg =>
    obtain ⟨rfl, hvu, he⟩ := hr.1
    rw [handler_delete]
    refine evolution_update (courrier_eraseDoc b _) ?_ id
    rcases hm : courrier b msg.id with _ | m
    · exact .reste _
    · have hends := ht.bouts_eq hm hvu rfl
      exact .efface rfl (ht.id_eq hm).symm (hends.1.trans he)

/-- Ids stay given. -/
theorem Effet.issued {b b' : Base} {f : Option Fait} (h : Effet b f b') :
    ∀ id ∈ b.issued, id ∈ b'.issued := by
  cases h with
  | envoi _ _ _ _ hi =>
    rw [hi]
    exact fun id => List.mem_cons_of_mem _
  | retouche _ _ hi | retrait _ _ _ hi | dernier _ _ hi | efface _ hi =>
    rw [hi]
    exact fun _ hid => hid

/-! ## Runs -/

variable {S : Server} {s s' : Systeme ι} {a : Act ι Evenement Base}

variable (bouts) in
/-- What every reachable state satisfies. -/
structure Registre (s : Systeme ι) : Prop where
  regle : s.Ok (PageSuivie bouts) (EmiseSuivie bouts) fun w x _ => Lue w x
  invariant : Invariant bouts s
  valides : ∀ id m, courrier s.base id = some m → m.Valide

theorem Registre.init {b : Base} (hb : SansMessage b) : Registre bouts (depart b bouts) := by
  refine ⟨Sys.Ok.init PageSuivie.start b, Invariant.init hb, fun id m hm => ?_⟩
  have hvu := (Tenue.vide hb).vu id m hm
  cases hvu.envoye

theorem Registre.valides_base (h : Registre bouts s) : Valides s.base := by
  intro id d hd
  obtain ⟨m, rfl⟩ := h.invariant.tenue.sain id d hd
  exact ⟨{ m with id := id }, rfl, h.valides id _ (courrier_of_doc hd)⟩

variable [DecidableEq ι]

/-- A step leaves the messages alone, or serves a request that changes each as it may. -/
theorem Registre.evolution (h : Registre bouts s) (hs : pas S s a = some s') :
    s'.base = s.base ∨ ∃ n t, a = .serve n ∧ s.tasks[n]? = some t ∧
      EmiseSuivie bouts s.log t.who t.lab t.req ∧
      (∀ id ∈ s.base.issued, id ∈ s'.base.issued) ∧ ∀ id, Evolution (bouts t.who).moi t.lab
        (id ∈ s.base.issued) (courrier s.base id) (courrier s'.base id) := by
  cases Sys.step_cases (Sys.step_of_closedStep hs) with
  | event hp => exact Or.inl rfl
  | @serve n t ht hans =>
    have hemise := (h.regle.task t (List.mem_of_getElem? ht)).issued
    have heffet := (effet_handler S h.invariant.tenue.sain hemise.1.1 t.who).2
    exact Or.inr ⟨n, t, rfl, ht, hemise, heffet.issued,
      evolution_handler S h.invariant.tenue hemise⟩
  | lose ht hans => exact Or.inl rfl
  | resume ht hans => exact Or.inl rfl
  | other b => cases hs

/-- **Step lemma.** -/
theorem Registre.step (h : Registre bouts s) (hs : pas S s a = some s') : Registre bouts s' := by
  refine ⟨?_, h.invariant.step hs, fun id m hm => ?_⟩
  · refine h.regle.step (messagerie ι S) PageSuivie.mono EmiseSuivie.mono
      (fun w i ev p q hq hI => suit_on hq hI) ?_ (Sys.step_of_closedStep hs)
    cases a with
    | resume n =>
      intro t ht a ha
      exact h.invariant.lues _ ((h.regle.task t (List.mem_of_getElem? ht)).logged a ha)
    | _ => trivial
  · rcases h.evolution hs with hb | ⟨n, t, -, -, -, -, hevol⟩
    · rw [hb] at hm
      exact h.valides id m hm
    · exact (hevol id).valide (fun m hm => h.valides id m hm) m hm

theorem Registre.run (h : Registre bouts s) {as : List (Act ι Evenement Base)}
    (hrun : as.foldlM (pas S) s = some s') : Registre bouts s' :=
  (always_of_step (fun _ _ _ h hs => h.step hs) h as).final hrun

/-- The heading of a message is the same in every state that holds it. -/
theorem Registre.entete_eq (h : Registre bouts s) {as : List (Act ι Evenement Base)}
    (hrun : as.foldlM (pas S) s = some s') {id : String} {m m' : MessageModele}
    (hm : courrier s.base id = some m) (hm' : courrier s'.base id = some m') :
    m'.entete = m.entete := by
  have hdonne : id ∈ s.base.issued := by
    have henv := (h.invariant.tenue.vu id m hm).envoye
    rw [h.invariant.tenue.id_eq hm] at henv
    exact h.invariant.tenue.donne _ _ _ henv
  have hall : Always (pas S) (fun v => Registre bouts v ∧ id ∈ v.base.issued ∧
      ∀ x, courrier v.base id = some x → x.entete = m.entete) s as := by
    refine always_of_step (fun v a v' hv hs => ?_) ⟨h, hdonne, fun x hx => ?_⟩ as
    · obtain ⟨hreg, hd, hentete⟩ := hv
      rcases hreg.evolution hs with hb | ⟨n, t, -, -, -, hissued, hevol⟩
      · rw [hb]
        exact ⟨hreg.step hs, hd, hentete⟩
      · refine ⟨hreg.step hs, hissued id hd, fun x hx => ?_⟩
        obtain ⟨y, hy, heq⟩ := (hevol id).entete hd x hx
        exact heq.trans (hentete y hy)
    · obtain rfl := Option.some.inj (hm.symm.trans hx)
      rfl
  exact (hall.final hrun).2.2 m' hm'

/-! ### Who changes what -/

variable (bouts)

omit [DecidableEq ι] in
/-- The step serves a request of a page of `moi`. -/
def Par (moi : String) (s : Systeme ι) (a : Act ι Evenement Base) : Prop :=
  ∃ n t, a = .serve n ∧ s.tasks[n]? = some t ∧ (bouts t.who).moi = moi

/-- The text changes by the sender, the mark by the receiver; a message is removed for all by its
sender, or goes with the last of its participants. -/
structure Discipline (s s' : Systeme ι) (a : Act ι Evenement Base) : Prop where
  contenu : ∀ id m m', courrier s.base id = some m → courrier s'.base id = some m' →
    m'.contenu ≠ m.contenu → Par bouts m.emetteurId s a
  lu : ∀ id m m', courrier s.base id = some m → courrier s'.base id = some m' → m'.lu ≠ m.lu →
    m.lu = false ∧ m'.lu = true ∧ Par bouts m.recepteurId s a
  pourTous : ∀ n t msg, a = .serve n → s.tasks[n]? = some t → t.lab = .pourTous msg →
    (bouts t.who).moi = msg.emetteurId ∧
      ∀ m, courrier s.base msg.id = some m → m.emetteurId = msg.emetteurId
  disparu : ∀ id m, courrier s.base id = some m → courrier s'.base id = none →
    ∃ n t msg, a = .serve n ∧ s.tasks[n]? = some t ∧ msg.id = id ∧
      (t.lab = .pourTous msg ∧ (bouts t.who).moi = m.emetteurId ∨
        t.lab = .pourMoi (bouts t.who).moi msg ∧ msg.participants.erase (bouts t.who).moi = [])

variable {bouts}

theorem Registre.discipline (h : Registre bouts s) (hs : pas S s a = some s') :
    Discipline bouts s s' a := by
  have hpourTous : ∀ n t msg, a = .serve n → s.tasks[n]? = some t → t.lab = .pourTous msg →
      (bouts t.who).moi = msg.emetteurId ∧
        ∀ m, courrier s.base msg.id = some m → m.emetteurId = msg.emetteurId := by
    intro n t msg _ ht hl
    have hemise := (h.regle.task t (List.mem_of_getElem? ht)).issued.1.2
    rw [hl] at hemise
    exact ⟨hemise.2.symm, fun m hm => (h.invariant.tenue.bouts_eq hm hemise.1 rfl).1⟩
  rcases h.evolution hs with hb | ⟨n, t, ha, ht, -, -, hevol⟩
  · refine ⟨fun id m m' hm hm' hne => ?_, fun id m m' hm hm' hne => ?_, hpourTous,
      fun id m hm hm' => ?_⟩
    · rw [hb, hm] at hm'
      exact absurd (congrArg MessageModele.contenu (Option.some.inj hm')).symm hne
    · rw [hb, hm] at hm'
      exact absurd (congrArg MessageModele.lu (Option.some.inj hm')).symm hne
    · rw [hb, hm] at hm'
      cases hm'
  · refine ⟨fun id m m' hm hm' hne => ?_, fun id m m' hm hm' hne => ?_, hpourTous,
      fun id m hm hm' => ?_⟩
    · have hid := hevol id
      rw [hm, hm'] at hid
      cases hid with
      | contenu he hc => exact ⟨n, t, ha, ht, he.symm⟩
      | reste | lu | participants => exact absurd rfl hne
    · have hid := hevol id
      rw [hm, hm'] at hid
      cases hid with
      | lu hr =>
        have hlu := Bool.eq_false_of_not_eq_true fun hlu => hne hlu.symm
        exact ⟨hlu, rfl, n, t, ha, ht, hr.symm⟩
      | reste | contenu | participants => exact absurd rfl hne
    · have hid := hevol id
      have heq := h.invariant.tenue.id_eq hm
      rw [hm, hm'] at hid
      cases hid with
      | @dernier _ msg hl hmsg hseul =>
        exact ⟨n, t, msg, ha, ht, hmsg.trans heq, Or.inr ⟨hl, hseul⟩⟩
      | @efface _ msg hl hmsg he =>
        exact ⟨n, t, msg, ha, ht, hmsg.trans heq, Or.inl ⟨hl, he.symm⟩⟩

/-- **Message records.**  In every run every stored message is valid, its heading never changes, and
each step keeps the discipline. -/
theorem registre_tenu (S : Server) {b : Base} (hb : SansMessage b) (bouts : ι → Bouts) :
    (∀ as, Always (pas S) (fun s => Valides s.base) (depart b bouts) as) ∧
    (∀ (as bs : List (Act ι Evenement Base)) (s s' : Systeme ι),
      as.foldlM (pas S) (depart b bouts) = some s → bs.foldlM (pas S) s = some s' →
        ∀ id m m', courrier s.base id = some m → courrier s'.base id = some m' →
          m'.entete = m.entete) ∧
    ∀ (as : List (Act ι Evenement Base)) (s : Systeme ι) (a : Act ι Evenement Base)
      (s' : Systeme ι), as.foldlM (pas S) (depart b bouts) = some s → pas S s a = some s' →
        Discipline bouts s s' a := by
  have hinit : Registre bouts (depart b bouts) := .init hb
  refine ⟨fun as => ?_, fun as bs s s' has hbs id m m' hm hm' => ?_, fun as s a s' has hs => ?_⟩
  · exact (always_of_step (fun _ _ _ h hs => h.step hs) hinit as).mono
      fun s h => h.valides_base
  · exact (hinit.run has).entete_eq hbs hm hm'
  · exact (hinit.run has).discipline hs

end Pages

/-! ## A correction -/

/-- A student `e` and a teacher `t`. -/
def eleveEtEnseignant : Bool → Bouts
  | true => ⟨.eleve, "e", "t"⟩
  | false => ⟨.enseignant, "t", "e"⟩

/-- The student sends a message and corrects it; the teacher reads it. -/
def envoyePuisCorrige : List (Act Bool Evenement Base) :=
  [.event true (.saisir "Bonjour "), .event true (.envoyerMessage 0), .serve 0, .resume 0,
    .event true .recevoir, .serve 0, .resume 0, .serve 0, .resume 0,
    .event true (.modifier 0), .event true (.saisir " Bonsoir"), .event true (.envoyerMessage 1),
    .event false .recevoir, .serve 1, .resume 1, .serve 1, .serve 0]

example : (envoyePuisCorrige.foldlM (pas (Server.longest 10))
      (depart baseVide eleveEtEnseignant)).map (fun s => courrier s.base "x") =
    some (some ⟨"x", "Bonsoir", "e", "t", 0, true, ["e", "t"]⟩) := by decide +kernel

theorem registre_tenu_eleveEtEnseignant :
    Always (pas (Server.longest 10)) (fun s => Valides s.base)
      (depart baseVide eleveEtEnseignant) envoyePuisCorrige :=
  (registre_tenu (Server.longest 10) (b := baseVide) rfl eleveEtEnseignant).1 envoyePuisCorrige

end EduConnect.Messagerie
