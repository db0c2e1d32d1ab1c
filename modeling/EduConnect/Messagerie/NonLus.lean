import EduConnect.Messagerie.Compteurs
import EduConnect.Messagerie.Suppressions

/-!
# Unread messages

The badge of a teacher's home page, the counters of his messaging list and the marking done by a
conversation page choose messages by different fields: `recepteurId`, `emetteurId` together with
`participants`, and `participants` alone.
-/

namespace EduConnect.Messagerie

open Lib Prog

/-! ## The unread messages of a teacher -/

section NonLus

variable {S : Server} {b : Base} {moi : String}

/-- The rows of that query are the stored messages to `moi` that are unread. -/
theorem Sain.nonLus (hb : Sain b) (moi : String) : ∃ msgs : List MessageModele,
    (requeteNonLus moi).run (b.docs .messages) = msgs.map MessageModele.ligne ∧
    ∀ m, m ∈ msgs ↔ courrier b m.id = some m ∧ m.recepteurId = moi ∧ m.lu = false := by
  have hrun : ∀ {id d}, (id, d) ∈ (requeteNonLus moi).run (b.docs .messages) ↔
      b.doc .messages id = some d ∧ ∀ c ∈ (requeteNonLus moi).filters, c.sat id d = true :=
    Query.mem_run
  have hstored : ∀ row ∈ (requeteNonLus moi).run (b.docs .messages),
      b.doc .messages row.1 = some row.2 := fun row hrow => (hrun.mp hrow).1
  have hsat : ∀ m : MessageModele, (∀ c ∈ (requeteNonLus moi).filters,
      c.sat m.id m.document = true) ↔ m.recepteurId = moi ∧ m.lu = false := by
    intro m
    have hrec : m.document .recepteurId = some (.str m.recepteurId) := rfl
    have hlu : m.document .lu = some (.bool m.lu) := rfl
    simp [requeteNonLus, Filter.sat, hrec, hlu, Value.scalar]
  obtain ⟨msgs, hrows, hmsgs⟩ := hb.lignes hstored
  refine ⟨msgs, hrows, fun m => ⟨fun hm => ?_, fun h => ?_⟩⟩
  · have hrow : m.ligne ∈ (requeteNonLus moi).run (b.docs .messages) :=
      hrows ▸ List.mem_map_of_mem hm
    exact ⟨hmsgs m hm, (hsat m).mp (hrun.mp hrow).2⟩
  · obtain ⟨hm, hcrit⟩ := h
    have hdoc : b.doc .messages m.id = some m.document := by rw [hb.doc_eq, hm]; rfl
    have hrow : m.ligne ∈ (requeteNonLus moi).run (b.docs .messages) :=
      hrun.mpr ⟨hdoc, (hsat m).mpr hcrit⟩
    exact mem_of_ligne_mem hrows hmsgs hm hrow

/-- The badge of a home page that has subscribed for the document `moi` of its teacher. -/
def badge (b : Base) (moi : String) : ℕ :=
  (Enseignant.HomeEnseignant.souscrire
    { etablissementId := "", utilisateurId := "", enseignantId := some moi }).nbMessagesNonLus b

theorem badge_eq (b : Base) (moi : String) :
    badge b moi = ((requeteNonLus moi).run (b.docs .messages)).length := rfl

/-- Every home page that listens to the messages for `moi` shows it. -/
theorem nbMessagesNonLus_eq {p : Enseignant.HomeEnseignant}
    (hecoute : p.ecran.ecoute .messages = true) (hmoi : p.enseignantId = some moi) :
    p.nbMessagesNonLus b = badge b moi := by
  rw [badge_eq, Enseignant.HomeEnseignant.nbMessagesNonLus, if_pos hecoute, hmoi]
  rfl

/-! ### The counters -/

/-- Messages written by the application have lists of participants. -/
theorem lisibles_of_lignes {msgs : List MessageModele}
    (hrows : (requeteNonLus moi).run (b.docs .messages) = msgs.map MessageModele.ligne) :
    nonLusLisibles b moi = true := by
  unfold nonLusLisibles
  rw [hrows, List.all_map, List.all_eq_true]
  exact fun m _ => rfl

/-- A sender's messages are counted when he is among their participants. -/
theorem nbNonLusDe_of_lignes {msgs : List MessageModele}
    (hrows : (requeteNonLus moi).run (b.docs .messages) = msgs.map MessageModele.ligne)
    (x : String) : nbNonLusDe b moi x = msgs.countP fun m =>
      decide (m.emetteurId = x) && decide (m.emetteurId ∈ m.participants) := by
  rw [nbNonLusDe_eq, hrows, List.countP_map]
  refine List.countP_congr fun m _ => ?_
  have hvient : vientDe x m.document = (decide (some m.emetteurId = some x) &&
      (m.participants.map Value.str).any (Value.isStr (φ := Champ) x)) := rfl
  rw [Function.comp_apply, MessageModele.ligne, hvient, Value.any_isStr_map_str]
  by_cases hx : m.emetteurId = x
  · simp [hx]
  · simp [hx]

/-- The sum of the counters shown next to the correspondents. -/
def sommeParExpediteur (S : Server) (b : Base) (moi : String) (parents eleves : List String) : ℕ :=
  let p := apres S b (do
    MessagerieEnseignant.chargerNbMessagesNonLusParExpediteur parents true
    MessagerieEnseignant.chargerNbMessagesNonLusParExpediteur eleves false)
    { utilisateurId := "", etablissementId := "", enseignantDocId := some moi }
  (parents.map fun e => (p.nbMessagesNonLusParents e).getD 0).sum +
    (eleves.map fun e => (p.nbMessagesNonLusEleves e).getD 0).sum

theorem somme_eq {msgs : List MessageModele}
    (hrows : (requeteNonLus moi).run (b.docs .messages) = msgs.map MessageModele.ligne)
    {parents eleves : List String} (hnodup : (parents ++ eleves).Nodup) :
    sommeParExpediteur S b moi parents eleves = msgs.countP fun m =>
      decide (m.emetteurId ∈ parents ++ eleves) && decide (m.emetteurId ∈ m.participants) := by
  obtain ⟨hparents, heleves, -⟩ := List.nodup_append.mp hnodup
  have hlisibles := lisibles_of_lignes hrows
  -- a list read back from its own map
  have hval : ∀ ids : List String, (ids.map fun e => ((if ids = [] then fun _ => none
      else carteNonLus b moi ids) e).getD 0) = ids.map (nbNonLusDe b moi) := by
    intro ids
    refine List.map_congr_left fun e he => ?_
    rw [if_neg (List.ne_nil_of_mem he), carteNonLus, if_pos he, Option.getD_some]
  let p₀ : MessagerieEnseignant :=
    { utilisateurId := "", etablissementId := "", enseignantDocId := some moi }
  let p₁ := if parents = [] then p₀ else p₀.noter true (carteNonLus b moi parents)
  let p₂ := if eleves = [] then p₁ else p₁.noter false (carteNonLus b moi eleves)
  have hp₁ : p₁.enseignantDocId = some moi := by
    unfold p₁
    split_ifs <;> rfl
  have hexec : apres S b (do
      MessagerieEnseignant.chargerNbMessagesNonLusParExpediteur parents true
      MessagerieEnseignant.chargerNbMessagesNonLusParExpediteur eleves false) p₀ = p₂ := by
    unfold apres
    rw [bind_eq, exec_bind, MessagerieEnseignant.exec_chargerNb rfl hlisibles hparents true]
    show ((MessagerieEnseignant.chargerNbMessagesNonLusParExpediteur eleves false).exec
      S.handler p₁ b).2.1 = p₂
    rw [MessagerieEnseignant.exec_chargerNb hp₁ hlisibles heleves false]
  have hfst : p₂.nbMessagesNonLusParents = if parents = [] then fun _ => none
      else carteNonLus b moi parents := by
    unfold p₂ p₁
    split_ifs <;> rfl
  have hsnd : p₂.nbMessagesNonLusEleves = if eleves = [] then fun _ => none
      else carteNonLus b moi eleves := by
    unfold p₂ p₁
    split_ifs <;> rfl
  unfold sommeParExpediteur
  rw [hexec]
  dsimp only
  rw [hfst, hsnd, hval, hval, ← List.sum_append, ← List.map_append,
    List.map_congr_left fun e _ => nbNonLusDe_of_lignes hrows e]
  exact sum_countP_key hnodup MessageModele.emetteurId _ msgs

/-! ### Opening the conversations -/

/-- The store after an emission of the stream on page `p` and the marking it starts. -/
def ouvrir (S : Server) (b : Base) (p : Conversation) : Base :=
  (Conversation.recevoir.exec S.handler p b).2.2

/-- The page of `p` lists the message, and its owner is the one to read it. -/
def aLire (p : Conversation) (m : MessageModele) : Bool :=
  decide (m.recepteurId = p.moi) &&
    (decide (p.moi ∈ m.participants) && decide (p.interlocuteur ∈ m.participants))

theorem courrier_ouvrir (hb : Sain b) (p : Conversation) :
    Sain (ouvrir S b p) ∧ ∀ id, courrier (ouvrir S b p) id =
      (courrier b id).map fun m => { m with lu := m.lu || aLire p m } := by
  obtain ⟨l, hl, hmem⟩ := exec_getMessagesStream (S := S) hb p
  have hstored : ∀ msg ∈ l, (courrier b msg.id).isSome := fun msg hmsg => by
    rw [((hmem msg).mp hmsg).1]
    rfl
  obtain ⟨b', hb'⟩ := (exists_marques hb hstored :
    ∃ b', (Conversation.marques p.moi l).foldlM Write.apply b = some b')
  have hserved : S.handler (.commit (Conversation.marques p.moi l) : Requete) b = (.ok (), b') := by
    simp only [Server.handler, hb']
  have hbase : ouvrir S b p = b' := by
    unfold ouvrir Conversation.recevoir
    rw [exec_bind, hl]
    let q : Conversation := { p with messages := l, vus := p.vus ++ l }
    show ((Conversation.marquerMessagesCommeLus l).exec S.handler q b).2.2 = b'
    have hcall : (Conversation.marquerMessagesCommeLus l).exec S.handler q b =
        (Prog.call Geste.marquage (Req.commit (Conversation.marques p.moi l))).exec S.handler q b :=
      rfl
    rw [hcall, Prog.call, exec_await, hserved]
    rfl
  obtain ⟨hsain, -, hc⟩ := courrier_marques hb hb'
  rw [hbase]
  refine ⟨hsain, fun id => ?_⟩
  rw [hc]
  refine Option.map_congr fun m hm => ?_
  -- the only message of the list stored under this id is `m`
  have hlisted : (∃ msg ∈ l, msg.id = m.id ∧ msg.recepteurId = p.moi ∧ msg.lu = false) ↔
      m.lu = false ∧ aLire p m = true := by
    have hm' : courrier b m.id = some m := by rw [hb.id_eq hm]; exact hm
    constructor
    · rintro ⟨msg, hmsg, hid, hrec, hlu⟩
      obtain ⟨hsame, hmoi, hinter⟩ := (hmem msg).mp hmsg
      rw [hid, hm'] at hsame
      obtain rfl := Option.some.inj hsame
      exact ⟨hlu, by simp [aLire, hrec, hmoi, hinter]⟩
    · rintro ⟨hlu, hlire⟩
      obtain ⟨hrec, hmoi, hinter⟩ : m.recepteurId = p.moi ∧ p.moi ∈ m.participants ∧
          p.interlocuteur ∈ m.participants := by simpa [aLire] using hlire
      exact ⟨m, (hmem m).mpr ⟨hm', hmoi, hinter⟩, rfl, hrec, hlu⟩
  by_cases hmark : m.lu = false ∧ aLire p m = true
  · rw [if_pos (hlisted.mpr hmark), hmark.2, Bool.or_true]
  · rw [if_neg fun h => hmark (hlisted.mp h)]
    have hlu : (m.lu || aLire p m) = m.lu := by
      cases hlu : m.lu with
      | true => rfl
      | false => simpa [hlu] using hmark
    rw [hlu]

/-- The pages a teacher opens from the list, one for each correspondent. -/
def conversations (moi : String) (parents eleves : List String) : List Conversation :=
  (parents.map fun e => pageMessageDetail moi (some e) none) ++
    eleves.map fun e => pageMessageDetail moi none (some e)

theorem courrier_foldl_ouvrir (hb : Sain b) (pages : List Conversation) :
    Sain (pages.foldl (ouvrir S) b) ∧ ∀ id, courrier (pages.foldl (ouvrir S) b) id =
      (courrier b id).map fun m => { m with lu := m.lu || pages.any fun p => aLire p m } := by
  induction pages generalizing b with
  | nil => exact ⟨hb, fun id => by simp⟩
  | cons p pages ih =>
    obtain ⟨hsain, hc⟩ := courrier_ouvrir (S := S) hb p
    obtain ⟨hsain', hc'⟩ := ih hsain
    refine ⟨hsain', fun id => ?_⟩
    rw [List.foldl_cons, hc', hc, Option.map_map]
    refine Option.map_congr fun m _ => ?_
    simp only [Function.comp_apply, aLire, List.any_cons, Bool.or_assoc]

theorem any_conversations {parents eleves : List String} {m : MessageModele} :
    ((conversations moi parents eleves).any fun p => aLire p m) = true ↔
      m.recepteurId = moi ∧ moi ∈ m.participants ∧ ∃ e ∈ parents ++ eleves, e ∈ m.participants := by
  rw [List.any_eq_true]
  constructor
  · rintro ⟨p, hp, hlire⟩
    obtain ⟨hrec, hmoi, hinter⟩ : m.recepteurId = p.moi ∧ p.moi ∈ m.participants ∧
        p.interlocuteur ∈ m.participants := by simpa [aLire] using hlire
    rcases List.mem_append.mp hp with hp | hp <;> obtain ⟨e, he, rfl⟩ := List.mem_map.mp hp
    · exact ⟨hrec, hmoi, e, List.mem_append_left _ he, hinter⟩
    · exact ⟨hrec, hmoi, e, List.mem_append_right _ he, hinter⟩
  · rintro ⟨hrec, hmoi, e, he, hinter⟩
    rcases List.mem_append.mp he with he | he
    · refine ⟨pageMessageDetail moi (some e) none,
        List.mem_append_left _ (List.mem_map_of_mem he), ?_⟩
      simp [aLire, pageMessageDetail, hrec, hmoi, hinter]
    · refine ⟨pageMessageDetail moi none (some e),
        List.mem_append_right _ (List.mem_map_of_mem he), ?_⟩
      simp [aLire, pageMessageDetail, hrec, hmoi, hinter]

/-- The badge is 0 when every message is read. -/
theorem badge_eq_zero (hb : Sain b) : badge b moi = 0 ↔
    ∀ id m, courrier b id = some m → m.recepteurId = moi → m.lu = true := by
  obtain ⟨msgs, hrows, hmsgs⟩ := hb.nonLus moi
  rw [badge_eq, hrows, List.length_map, List.length_eq_zero_iff, List.eq_nil_iff_forall_not_mem]
  constructor
  · intro h id m hm hrec
    by_contra hlu
    obtain rfl : m.id = id := hb.id_eq hm
    exact h m ((hmsgs m).mpr ⟨hm, hrec, Bool.not_eq_true _ ▸ hlu⟩)
  · intro h m hm
    obtain ⟨hstored, hrec, hlu⟩ := (hmsgs m).mp hm
    rw [h _ m hstored hrec] at hlu
    cases hlu

/-! ## Agreement -/

/-- Every sender of a stored message to `moi` is in one of the lists, and nobody is listed twice. -/
structure Repertoire (b : Base) (moi : String) (parents eleves : List String) : Prop where
  nodup : (parents ++ eleves).Nodup
  complet : ∀ id m, courrier b id = some m → m.recepteurId = moi → m.emetteurId ∈ parents ++ eleves

/-- The senders of the stored messages. -/
def emetteurs (b : Base) : List String :=
  ((b.docs .messages).rows.filterMap fun row =>
    (MessageModele.fromMap row.1 row.2).toOption.map MessageModele.emetteurId).dedup

theorem repertoire_emetteurs (b : Base) (moi : String) : Repertoire b moi (emetteurs b) [] := by
  refine ⟨?_, fun id m hm _ => ?_⟩
  · rw [List.append_nil]
    exact List.nodup_dedup _
  · obtain ⟨d, hd, hread⟩ := Option.bind_eq_some_iff.mp hm
    rw [List.append_nil, emetteurs, List.mem_dedup, List.mem_filterMap]
    exact ⟨(id, d), Table.find_eq_some_iff.mp hd, by rw [hread]; rfl⟩

/-- The badge and the counters agree, and opening every conversation clears the badge. -/
def Accord (S : Server) (b : Base) (moi : String) : Prop :=
  ∀ parents eleves, Repertoire b moi parents eleves →
    badge b moi = sommeParExpediteur S b moi parents eleves ∧
      badge ((conversations moi parents eleves).foldl (ouvrir S) b) moi = 0

/-- Both ends of an unread message to `moi` participate in it. -/
def NonLusEntiers (moi : String) (b : Base) : Prop :=
  ∀ id m, courrier b id = some m → m.recepteurId = moi → m.lu = false →
    m.emetteurId ∈ m.participants ∧ m.recepteurId ∈ m.participants

theorem accord_iff (hb : Sain b) : Accord S b moi ↔ NonLusEntiers moi b := by
  obtain ⟨msgs, hrows, hmsgs⟩ := hb.nonLus moi
  have hcourrier : ∀ {id m}, courrier b id = some m → m.recepteurId = moi → m.lu = false →
      m ∈ msgs := by
    intro id m hm hrec hlu
    obtain rfl : m.id = id := hb.id_eq hm
    exact (hmsgs m).mpr ⟨hm, hrec, hlu⟩
  -- the counters add up to the unread messages whose sender participates
  have hsomme : ∀ {parents eleves}, Repertoire b moi parents eleves →
      (badge b moi = sommeParExpediteur S b moi parents eleves ↔
        ∀ m ∈ msgs, m.emetteurId ∈ m.participants) := by
    intro parents eleves hrep
    rw [badge_eq, somme_eq hrows hrep.nodup, hrows, List.length_map, eq_comm,
      List.countP_eq_length]
    refine forall₂_congr fun m hm => ?_
    obtain ⟨hstored, hrec, -⟩ := (hmsgs m).mp hm
    simp only [hrep.complet _ m hstored hrec, decide_true, Bool.true_and, decide_eq_true_eq]
  -- the messages marked are those with `moi` and a correspondent among the participants
  have hzero : ∀ {parents eleves}, (badge ((conversations moi parents eleves).foldl (ouvrir S) b)
      moi = 0 ↔ ∀ m ∈ msgs, moi ∈ m.participants ∧
        ∃ e ∈ parents ++ eleves, e ∈ m.participants) := by
    intro parents eleves
    obtain ⟨hsain, hc⟩ := courrier_foldl_ouvrir (S := S) hb (conversations moi parents eleves)
    rw [badge_eq_zero hsain]
    constructor
    · intro h m hm
      obtain ⟨hstored, hrec, hnon⟩ := (hmsgs m).mp hm
      have hafter := (hc m.id).trans (congrArg _ hstored)
      have hread : (m.lu || (conversations moi parents eleves).any fun p => aLire p m) = true :=
        h m.id _ hafter hrec
      rw [hnon, Bool.false_or] at hread
      exact (any_conversations.mp hread).2
    · intro h id m hm hrec
      obtain ⟨m₀, hm₀, rfl⟩ := Option.map_eq_some_iff.mp ((hc id).symm.trans hm)
      cases hnon : m₀.lu with
      | true => rfl
      | false => exact any_conversations.mpr ⟨hrec, h m₀ (hcourrier hm₀ hrec hnon)⟩
  constructor
  · intro h id m hm hrec hnon
    have hrep := repertoire_emetteurs b moi
    obtain ⟨hbadge, hclear⟩ := h _ _ hrep
    have hmem := hcourrier hm hrec hnon
    exact ⟨(hsomme hrep).mp hbadge m hmem, hrec ▸ (hzero.mp hclear m hmem).1⟩
  · intro h parents eleves hrep
    rw [hsomme hrep, hzero]
    refine ⟨fun m hm => ?_, fun m hm => ?_⟩ <;>
      obtain ⟨hstored, hrec, hnon⟩ := (hmsgs m).mp hm
    · exact (h _ m hstored hrec hnon).1
    · obtain ⟨he, hr⟩ := h _ m hstored hrec hnon
      exact ⟨hrec ▸ hr, m.emetteurId, hrep.complet _ m hstored hrec, he⟩

end NonLus

/-! ## Runs -/

section Executions

variable {ι : Type} {bouts : ι → Bouts} {moi : String}

/-- A deletion for oneself of a message to `moi` between two parties is served when no unread
message is left under its id, or it comes from a snapshot with no other participant. -/
def ApresLecture (moi : String) (s : Systeme ι) : Act ι Evenement Base → Prop
  | .serve n => ∀ t x msg, s.tasks[n]? = some t → t.lab = .pourMoi x msg → msg.recepteurId = moi →
    msg.emetteurId ≠ msg.recepteurId →
    (∀ m, courrier s.base msg.id = some m → m.lu = true) ∨ msg.participants = [x]
  | _ => True

theorem apresLecture_serve_iff {s : Systeme ι} {n : ℕ}
    {t : Task ι Geste Requete Req.Ans Err Conversation} (ht : s.tasks[n]? = some t) {x : String}
    {msg : MessageModele} (hl : t.lab = .pourMoi x msg) :
    ApresLecture moi s (.serve n) ↔ (msg.recepteurId = moi → msg.emetteurId ≠ msg.recepteurId →
      (∀ m, courrier s.base msg.id = some m → m.lu = true) ∨ msg.participants = [x]) :=
  forall_servi_iff ht hl

theorem NonLusEntiers.retouche {b b' : Base} (h : NonLusEntiers moi b)
    {f : MessageModele → MessageModele} (hf : Retouche f)
    (hc : ∀ id, courrier b' id = (courrier b id).map f) : NonLusEntiers moi b' := by
  intro id m hm hrec hlu
  obtain ⟨m₀, hm₀, rfl⟩ := Option.map_eq_some_iff.mp ((hc id).symm.trans hm)
  rw [hf.recepteurId] at hrec
  have hlu₀ : m₀.lu = false := by
    by_contra hne
    rw [hf.lu m₀ (Bool.not_eq_false _ ▸ hne)] at hlu
    cases hlu
  rw [hf.emetteurId, hf.recepteurId, hf.participants]
  exact h id m₀ hm₀ hrec hlu₀

/-- A change of one message keeps `NonLusEntiers` exactly if the new message meets it. -/
theorem NonLusEntiers.update {b b' : Base} (h : NonLusEntiers moi b) {id : String}
    {x : Option MessageModele} (hc : courrier b' = Function.update (courrier b) id x) :
    NonLusEntiers moi b' ↔ ∀ m, x = some m → m.recepteurId = moi → m.lu = false →
      m.emetteurId ∈ m.participants ∧ m.recepteurId ∈ m.participants := by
  constructor
  · intro h' m hm
    exact h' id m (by rw [hc, Function.update_self, hm])
  · intro hx j m hm
    rw [hc] at hm
    by_cases hj : j = id
    · subst hj
      rw [Function.update_self] at hm
      exact hx m hm
    · rw [Function.update_of_ne hj] at hm
      exact h j m hm

/-- At most one of the two ends of a message is left after a deletion for oneself. -/
theorem retrait_entiers_iff {h : List Fait} {msg m : MessageModele} {x : String} (hvu : Vu h msg)
    (hx : x ∈ msg.participants) (hem : m.emetteurId = msg.emetteurId)
    (hrec : m.recepteurId = msg.recepteurId) :
    (m.emetteurId ∈ msg.participants.erase x ∧ m.recepteurId ∈ msg.participants.erase x) ↔
      msg.emetteurId = msg.recepteurId ∧ msg.participants.erase x ≠ [] := by
  have hlen := length_erase_le_one hvu hx
  have hsub : msg.participants.erase x ⊆ [msg.emetteurId, msg.recepteurId] :=
    (List.erase_sublist.trans hvu.participants).subset
  rw [hem, hrec]
  match hp : msg.participants.erase x, hlen with
  | [], _ => simp
  | [a], _ =>
    rw [hp] at hsub
    have ha : a = msg.emetteurId ∨ a = msg.recepteurId := by simpa using hsub List.mem_cons_self
    simp only [List.mem_singleton, ne_eq, List.cons_ne_self, not_false_eq_true, and_true]
    constructor
    · rintro ⟨he, hr⟩
      exact he.trans hr.symm
    · intro heq
      rcases ha with rfl | rfl
      · exact ⟨rfl, heq.symm⟩
      · exact ⟨heq, rfl⟩

/-- A deletion for oneself keeps both ends of the unread messages exactly if it comes after the
reading. -/
theorem NonLusEntiers.retrait_iff {h : List Fait} {b b' : Base} (ht : Tenue h b)
    (hn : NonLusEntiers moi b) {x : String} {msg : MessageModele} (hv : Vu h msg)
    (hx : x ∈ msg.participants) (heffet : Effet b (some (.retire x msg)) b') :
    NonLusEntiers moi b' ↔ (msg.recepteurId = moi → msg.emetteurId ≠ msg.recepteurId →
      (∀ m, courrier b msg.id = some m → m.lu = true) ∨ msg.participants = [x]) := by
  cases heffet with
  | @retrait _ _ _ m hm hne hc _ =>
    have hvm : Vu h m := ht.vu _ m hm
    obtain ⟨hem, hrec⟩ := ht.unique _ _ _ _ _ (ht.id_eq hm ▸ hvm.envoye) hv.envoye
    have hsolo : msg.participants ≠ [x] := fun hp => hne ((erase_eq_nil_iff hx).mpr hp)
    have hkeep := retrait_entiers_iff hv hx hem hrec
    rw [hn.update hc]
    constructor
    · intro hafter hmoi hdiff
      left
      intro m' hm'
      obtain rfl := Option.some.inj (hm.symm.trans hm')
      by_contra hlu
      have hends := hafter _ rfl (hrec.trans hmoi) (Bool.not_eq_true _ ▸ hlu)
      exact hdiff (hkeep.mp hends).1
    · rintro hc' m' hm' hmoi hlu
      obtain rfl := Option.some.inj hm'
      refine hkeep.mpr ⟨?_, hne⟩
      by_contra hdiff
      rcases hc' (hrec.symm.trans hmoi) hdiff with hread | hp
      · rw [hread m hm] at hlu
        cases hlu
      · exact hsolo hp
  | dernier he hc _ =>
    refine iff_of_true ((hn.update hc).mpr fun m hm => by cases hm) fun _ _ => Or.inr ?_
    exact (erase_eq_nil_iff hx).mp he

/-- A served request that is no deletion for oneself. -/
theorem NonLusEntiers.autre {b b' : Base} (hn : NonLusEntiers moi b) {f : Option Fait}
    (hf : ∀ x msg, f ≠ some (.retire x msg)) (heffet : Effet b f b') : NonLusEntiers moi b' := by
  cases heffet with
  | retouche hr hc _ => exact hn.retouche hr hc
  | @envoi _ m hm hp hlu hc _ =>
    refine (hn.update hc).mpr fun m' hm' _ _ => ?_
    obtain rfl := Option.some.inj hm'
    rw [hp]
    simp
  | efface hc _ => exact (hn.update hc).mpr fun m hm => by cases hm
  | retrait => exact absurd rfl (hf _ _)
  | dernier => exact absurd rfl (hf _ _)

variable [DecidableEq ι]

/-- Step lemma: both ends keep participating in the unread messages to `moi` exactly if the
deletion for oneself that the step serves comes after the reading. -/
theorem pas_nonLusEntiers_iff {S : Server} {s s' : Systeme ι} {a : Act ι Evenement Base}
    (hI : Invariant bouts s) (h : NonLusEntiers moi s.base) (hs : pas S s a = some s') :
    NonLusEntiers moi s'.base ↔ ApresLecture moi s a := by
  cases hI.pas hs with
  | calme ha hb _ =>
    rw [hb]
    refine iff_of_true h ?_
    cases a with
    | serve n => exact absurd rfl (ha n)
    | _ => trivial
  | @sert n t f ht hlab hvu hf heffet hh =>
    generalize hl : t.lab = l at hlab
    cases hlab with
    | retrait x msg =>
      obtain ⟨hv, hx⟩ := hvu x msg hl
      exact (h.retrait_iff hI.tenue hv hx heffet).trans (apresLecture_serve_iff ht hl).symm
    | @refus x msg hgone hne =>
      refine iff_of_true (h.autre (fun x msg h => by cases h) heffet) ?_
      refine (apresLecture_serve_iff ht hl).mpr fun _ _ => Or.inl fun m hm => ?_
      rw [hgone] at hm
      cases hm
    | autre hl' hf' =>
      exact iff_of_true (h.autre hf' heffet) (forall_servi_of_autre ht (hl ▸ hl'))

/-- **Unread counts agree and can be cleared.**  In every run the badge of `moi` is the sum of the
counters of his correspondents, and opening every conversation clears it, exactly if no message to
him is deleted for oneself by one of two parties while it is unread. -/
theorem accord_run_iff (S : Server) {b : Base} (hb : SansMessage b) (bouts : ι → Bouts)
    (moi : String) (as : List (Act ι Evenement Base)) :
    Always (pas S) (fun s => Accord S s.base moi) (depart b bouts) as ↔
      AllMeet (pas S) (ApresLecture moi) (depart b bouts) as := by
  refine always_iff_allMeet (I := Invariant bouts) (fun s a s' hI hs => hI.step hs)
    (fun s a s' hI h hs => ?_) (.init hb) ?_ as
  · rw [accord_iff hI.tenue.sain] at h
    rw [accord_iff (hI.step hs).tenue.sain]
    exact pas_nonLusEntiers_iff hI h hs
  · show Accord S b moi
    rw [accord_iff (Tenue.vide hb).sain]
    intro id m hm
    rw [courrier_of_none] at hm
    · cases hm
    · rw [Data.doc, hb, Table.find_empty]

/-- The parent sends a message, receives it and deletes it for himself. -/
def envoyePuisSupprime : List (Act Bool Evenement Base) :=
  [.event false (.saisir "Bonjour"), .event false (.envoyerMessage 0), .serve 0, .resume 0,
    .event false .recevoir, .serve 0, .resume 0, .serve 0, .resume 0,
    .event false (.supprimerPourMoi 0), .serve 0]

theorem accord_run_iff_parentEtEnseignant :
    Always (pas (Server.longest 10)) (fun s => Accord (Server.longest 10) s.base "t")
        (depart baseVide parentEtEnseignant) envoyePuisSupprime ↔
      AllMeet (pas (Server.longest 10)) (ApresLecture "t") (depart baseVide parentEtEnseignant)
        envoyePuisSupprime :=
  accord_run_iff (Server.longest 10) (b := baseVide) rfl parentEtEnseignant "t" envoyePuisSupprime

/-- The badge counts the message and no counter does. -/
theorem not_accord_parentEtEnseignant :
    ¬Always (pas (Server.longest 10)) (fun s => Accord (Server.longest 10) s.base "t")
      (depart baseVide parentEtEnseignant) envoyePuisSupprime := by
  refine not_always_of_final (fun s => badge s.base "t" ≠
    sommeParExpediteur (Server.longest 10) s.base "t" (emetteurs s.base) []) (fun s hs hP => ?_)
    (by decide +kernel)
  exact of_decide_eq_true hs (hP _ _ (repertoire_emetteurs s.base "t")).1

end Executions

end EduConnect.Messagerie
