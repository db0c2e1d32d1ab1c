import EduConnect.Lib.Sorted
import EduConnect.Lib.Stored
import EduConnect.Lignes
import EduConnect.Messagerie.Boite

/-!
# The repository of messages

`DepotMessage.recupererMessages` reads every message and keeps those between two users, a
conversation page asks for the messages it takes part in by the field `participants`.  The decoder
fills that field in where a document does not have it, the query does not: the two agree as long as
no message of the conversation lacks it.
-/

namespace EduConnect.Messagerie

open Lib Prog

/-! ## DepotMessage -/

/-- The `where` of `recupererMessages`. -/
def MessageModele.entre (utilisateur1Id utilisateur2Id : String) (msg : MessageModele) : Bool :=
  msg.emetteurId = utilisateur1Id && msg.recepteurId = utilisateur2Id ||
    msg.emetteurId = utilisateur2Id && msg.recepteurId = utilisateur1Id

/-- One emission of `DepotMessage.recupererMessages`. -/
def DepotMessage.recupererMessages {Λ σ : Type} (l : Λ) (utilisateur1Id utilisateur2Id : String) :
    Action Λ σ (List MessageModele) :=
  (Prog.call l (Req.query .messages ⟨[], some (.dateEnvoi, false), none⟩)).bind fun docs =>
  (ofExcept (List.mapM (fun doc : String × Document => MessageModele.fromMap doc.1 doc.2) docs)).bind
    fun msgs => ret (msgs.filter (MessageModele.entre utilisateur1Id utilisateur2Id))

/-- What the repository returns for two users. -/
def auDepot (S : Server) (b : Base) (a₁ a₂ : String) : Except Err (List MessageModele) :=
  ((DepotMessage.recupererMessages () a₁ a₂ : Action Unit Unit _).exec S.handler () b).1

/-- What the page of a conversation shows. -/
def aLaPage (S : Server) (b : Base) (c : Bouts) : Except Err (List MessageModele) :=
  (Conversation.getMessagesStream.exec S.handler c.ouvrir b).1

/-! ## Documents of both formats -/

/-- The document is a message that nobody has taken out of his view: its participants, listed or
filled in, are the two ends. -/
def Entier (id : String) (d : Document) : Prop :=
  ∃ m, MessageModele.fromMap id d = .ok m ∧ m.participants = [m.emetteurId, m.recepteurId]

section Decodage

variable {id : String} {d : Document} {m : MessageModele}

/-- What a decoded document holds. -/
theorem of_fromMap (h : MessageModele.fromMap id d = .ok m) :
    m.id = id ∧ d .dateEnvoi = some (.stamp m.dateEnvoi) ∧
      (d .participants = none ∨ strsOf (d .participants) = m.participants) := by
  obtain ⟨emetteurId, -, h⟩ := bind_eq_ok_iff.mp h
  obtain ⟨recepteurId, -, h⟩ := bind_eq_ok_iff.mp h
  obtain ⟨contenu, -, h⟩ := bind_eq_ok_iff.mp h
  obtain ⟨dateEnvoi, hdate, h⟩ := bind_eq_ok_iff.mp h
  obtain ⟨lu, -, h⟩ := bind_eq_ok_iff.mp h
  have hstamp : d .dateEnvoi = some (.stamp dateEnvoi) := by
    unfold Doc.get at hdate
    rcases hd : d .dateEnvoi with _ | v
    · rw [hd] at hdate
      cases hdate
    · rw [hd] at hdate
      cases v with
      | stamp t =>
        obtain rfl := Except.ok.inj hdate
        rfl
      | _ => cases hdate
  rcases hd : d .participants with _ | v
  · rw [hd] at h
    obtain rfl := Except.ok.inj h
    exact ⟨rfl, hstamp, Or.inl rfl⟩
  · rw [hd] at h
    obtain ⟨participants, hpart, h⟩ := bind_eq_ok_iff.mp h
    obtain rfl := Except.ok.inj h
    have hget : d.get .participants = v := by rw [Doc.get, hd, Option.getD_some]
    cases v with
    | list l =>
      have hstrs : (d.get .participants).orStrs = .ok participants := by
        rw [hget]
        exact hpart
      refine ⟨rfl, hstamp, Or.inr ?_⟩
      rw [← hd]
      exact strsOf_of_orStrs hstrs
    | _ => cases hpart

end Decodage

/-- The message in a row that can be decoded. -/
def messageDe (doc : String × Document) : MessageModele :=
  ((MessageModele.fromMap doc.1 doc.2).toOption).getD ⟨doc.1, "", "", "", 0, false, []⟩

theorem messageDe_of_ok {doc : String × Document} {m : MessageModele}
    (h : MessageModele.fromMap doc.1 doc.2 = .ok m) : messageDe doc = m := by
  rw [messageDe, h]
  rfl

/-! ## The two lists -/

section Listes

variable {S : Server} {b : Base}

/-- All the messages, in the order both sides use. -/
def chronologie (b : Base) : List (String × Document) :=
  (⟨[], some (.dateEnvoi, false), none⟩ : Query Champ).run (b.docs .messages)

theorem entier_of_mem (hb : Stored .messages Entier b) {doc : String × Document}
    (h : doc ∈ chronologie b) : MessageModele.fromMap doc.1 doc.2 = .ok (messageDe doc) ∧
      (messageDe doc).participants = [(messageDe doc).emetteurId, (messageDe doc).recepteurId] := by
  obtain ⟨m, hm, hp⟩ := hb doc.1 doc.2 (Query.of_mem_run h).1
  rw [messageDe_of_ok hm]
  exact ⟨hm, hp⟩

theorem mem_chronologie (hb : Stored .messages Entier b) {id : String} {d : Document} :
    (id, d) ∈ chronologie b ↔ b.doc .messages id = some d := by
  refine Query.mem_run_orderBy.trans ⟨And.left, fun h => ⟨h, List.forall_mem_nil _, ?_⟩⟩
  obtain ⟨m, hm, -⟩ := hb id d h
  rw [(of_fromMap hm).2.1]
  rfl

theorem mapM_messageDe (hb : Stored .messages Entier b) (docs : List (String × Document))
    (h : ∀ doc ∈ docs, doc ∈ chronologie b) :
    docs.mapM (fun doc => MessageModele.fromMap doc.1 doc.2) = Except.ok (docs.map messageDe) :=
  mapM_eq_ok fun doc hdoc => (entier_of_mem hb (h doc hdoc)).1

theorem auDepot_eq (hb : Stored .messages Entier b) (a₁ a₂ : String) : auDepot S b a₁ a₂ =
    .ok (((chronologie b).filter fun doc => (messageDe doc).entre a₁ a₂).map messageDe) := by
  have hdocs := mapM_messageDe hb (chronologie b) fun _ h => h
  show ((ofExcept (List.mapM _ (chronologie b))).bind _ |>.exec S.handler () b).1 = _
  rw [hdocs, ofExcept_ok, bind_ret, List.filter_map]
  rfl

/-- The page filters what the query finds, which is a part of all the messages. -/
theorem aLaPage_eq (hb : Stored .messages Entier b) (c : Bouts) : aLaPage S b c =
    .ok (((chronologie b).filter fun doc =>
      decide (c.moi ∈ strsOf (doc.2 .participants)) && c.ouvrir.garde (messageDe doc)).map
        messageDe) := by
  have hmoi : c.ouvrir.moi = c.moi := by
    obtain ⟨role, moi, interlocuteur⟩ := c
    cases role <;> rfl
  have hstamp : ∀ id d, (b.docs .messages).find id = some d →
      ∃ τ, d .dateEnvoi = some (.stamp τ) := by
    intro id d hd
    obtain ⟨m, hm, -⟩ := hb id d hd
    exact ⟨_, (of_fromMap hm).2.1⟩
  have hrun : c.ouvrir.requete.run (b.docs .messages) = (chronologie b).filter
      fun doc => decide (c.moi ∈ strsOf (doc.2 .participants)) := by
    rw [Conversation.requete, hmoi, Query.run_orderBy_eq_filter hstamp]
    refine List.filter_congr fun doc _ => ?_
    rw [List.all_cons, List.all_nil, Bool.and_true]
    exact Bool.eq_iff_iff.mpr (Filter.sat_arrayContains.trans decide_eq_true_iff.symm)
  have hdocs := mapM_messageDe hb (c.ouvrir.requete.run (b.docs .messages)) (by
    rw [hrun]
    exact fun _ h => List.mem_of_mem_filter h)
  show ((ofExcept (c.ouvrir.lister (c.ouvrir.requete.run (b.docs .messages)))).exec S.handler _ b).1 = _
  rw [Conversation.lister, hdocs, hrun]
  show Except.ok (List.filter _ (List.map _ _)) = _
  rw [List.filter_map, List.filter_filter]
  refine congrArg (fun l => Except.ok (List.map messageDe l)) (List.filter_congr fun doc _ => ?_)
  rw [Bool.and_comm, Function.comp_apply]

/-- The page lists a message of the conversation if its document has its participants. -/
theorem page_iff (hb : Stored .messages Entier b) {c : Bouts} (hc : c.moi ≠ c.interlocuteur)
    {doc : String × Document} (h : doc ∈ chronologie b) :
    c.moi ∈ strsOf (doc.2 .participants) ∧ c.ouvrir.garde (messageDe doc) = true ↔
      (messageDe doc).entre c.moi c.interlocuteur = true ∧ (doc.2 .participants).isSome = true := by
  obtain ⟨hm, hp⟩ := entier_of_mem hb h
  have hentre : (messageDe doc).entre c.moi c.interlocuteur = true ↔
      c.moi ∈ (messageDe doc).participants ∧ c.interlocuteur ∈ (messageDe doc).participants := by
    rw [hp]
    simp only [MessageModele.entre, Bool.or_eq_true, Bool.and_eq_true, decide_eq_true_eq,
      List.mem_cons, List.not_mem_nil, or_false]
    constructor
    · rintro (⟨he, hr⟩ | ⟨he, hr⟩)
      · exact ⟨Or.inl he.symm, Or.inr hr.symm⟩
      · exact ⟨Or.inr hr.symm, Or.inl he.symm⟩
    · rintro ⟨hmoi | hmoi, hlui | hlui⟩
      · exact absurd (hmoi.trans hlui.symm) hc
      · exact Or.inl ⟨hmoi.symm, hlui.symm⟩
      · exact Or.inr ⟨hlui.symm, hmoi.symm⟩
      · exact absurd (hmoi.trans hlui.symm) hc
  rcases (of_fromMap hm).2.2 with hnone | hstrs
  · rw [hnone]
    refine iff_of_false (fun h => ?_) fun h => ?_
    · exact List.not_mem_nil h.1
    · exact Bool.false_ne_true h.2
  · have hgarde : c.moi ∈ (messageDe doc).participants → (c.ouvrir.garde (messageDe doc) = true ↔
        c.interlocuteur ∈ (messageDe doc).participants) := by
      intro hmoi
      obtain ⟨role, moi, interlocuteur⟩ := c
      cases role with
      | parent =>
        refine Bool.and_eq_true_iff.trans ⟨fun h => of_decide_eq_true h.2, fun h => ?_⟩
        exact ⟨decide_eq_true hmoi, decide_eq_true h⟩
      | enseignant => exact decide_eq_true_iff
      | eleve => exact decide_eq_true_iff
    rw [hstrs, hentre]
    constructor
    · rintro ⟨hmoi, hlui⟩
      refine ⟨⟨hmoi, (hgarde hmoi).mp hlui⟩, ?_⟩
      rw [Option.isSome_iff_ne_none]
      intro hnone
      rw [hnone, strsOf_none] at hstrs
      rw [← hstrs] at hmoi
      exact List.not_mem_nil hmoi
    · rintro ⟨⟨hmoi, hlui⟩, -⟩
      exact ⟨hmoi, (hgarde hmoi).mpr hlui⟩

end Listes

/-- **The repository and the page.**  On messages that nobody has taken out of his view, the
repository and the page of a conversation list the same messages in the same order exactly if no
message of the conversation lacks the field `participants`. -/
theorem auDepot_eq_aLaPage_iff (S : Server) {b : Base} (hb : Stored .messages Entier b) {c : Bouts}
    (hc : c.moi ≠ c.interlocuteur) : auDepot S b c.moi c.interlocuteur = aLaPage S b c ↔
      ∀ id d m, b.doc .messages id = some d → MessageModele.fromMap id d = .ok m →
        m.entre c.moi c.interlocuteur = true → (d .participants).isSome = true := by
  rw [auDepot_eq hb, aLaPage_eq hb, Except.ok.injEq]
  constructor
  · intro heq id d m hd hm hentre
    have hdoc := (mem_chronologie hb).mpr hd
    have hmde : messageDe (id, d) = m := messageDe_of_ok hm
    have hmem : m ∈ ((chronologie b).filter fun doc =>
        (messageDe doc).entre c.moi c.interlocuteur).map messageDe :=
      List.mem_map.mpr ⟨(id, d), List.mem_filter.mpr ⟨hdoc, hmde ▸ hentre⟩, hmde⟩
    rw [heq] at hmem
    obtain ⟨⟨id', d'⟩, hdoc', hmde'⟩ := List.mem_map.mp hmem
    obtain ⟨hchrono, htest⟩ := List.mem_filter.mp hdoc'
    rw [Bool.and_eq_true, decide_eq_true_eq, page_iff hb hc hchrono] at htest
    -- the row of the page is that of the message, which holds its id
    obtain ⟨m', hm', -⟩ := hb id' d' ((mem_chronologie hb).mp hchrono)
    have hde : messageDe (id', d') = m' := messageDe_of_ok hm'
    have hm'm : m' = m := hde.symm.trans hmde'
    obtain rfl : id' = id := by rw [← (of_fromMap hm').1, ← (of_fromMap hm).1, hm'm]
    obtain rfl := Option.some.inj (((mem_chronologie hb).mp hchrono).symm.trans hd)
    exact htest.2
  · intro h
    refine congrArg _ (List.filter_congr fun doc hdoc => ?_)
    obtain ⟨hm, -⟩ := entier_of_mem hb hdoc
    have hpage := page_iff hb hc hdoc
    rw [Bool.eq_iff_iff, Bool.and_eq_true, decide_eq_true_eq, hpage]
    refine ⟨fun hentre => ⟨hentre, ?_⟩, And.left⟩
    exact h doc.1 doc.2 _ ((mem_chronologie hb).mp hdoc) hm hentre

/-! ### A message of the old format -/

/-- A message of the teacher `t` to the parent `p`, as it was stored before `participants` was. -/
def messageAncien : Document :=
  newDoc 0 [texte .contenu "bonjour", texte .emetteurId "t", texte .recepteurId "p",
    (.dateEnvoi, .put (.stamp 1)), (.lu, .put (.bool false))]

/-- Its answer, with the field. -/
def reponse : MessageModele := ⟨"", "merci", "p", "t", 2, false, ["p", "t"]⟩

/-- The answer alone, then both messages. -/
def boiteNouvelle : Base := baseVide.putDoc .messages "y" reponse.document

def boiteAncienne : Base := boiteNouvelle.putDoc .messages "x" messageAncien

theorem entiers_boiteNouvelle : Stored .messages Entier boiteNouvelle := by
  have hvide : Stored .messages Entier baseVide := fun id d hd => by cases hd
  exact hvide.putDoc fun _ => ⟨{ reponse with id := "y" }, reponse.fromMap_document "y", rfl⟩

theorem entiers_boiteAncienne : Stored .messages Entier boiteAncienne :=
  entiers_boiteNouvelle.putDoc fun _ =>
    ⟨⟨"x", "bonjour", "t", "p", 1, false, ["t", "p"]⟩, rfl, rfl⟩

theorem auDepot_eq_aLaPage_nouvelle : auDepot (Server.longest 10) boiteNouvelle "t" "p" =
    aLaPage (Server.longest 10) boiteNouvelle ⟨.enseignant, "t", "p"⟩ := by
  refine (auDepot_eq_aLaPage_iff (Server.longest 10) entiers_boiteNouvelle
    (c := ⟨.enseignant, "t", "p"⟩) (by decide)).mpr fun id d m hd _ _ => ?_
  have hsome : Stored .messages (fun _ d => (d .participants).isSome = true) boiteNouvelle := by
    have hvide : Stored .messages (fun _ d => (d .participants).isSome = true) baseVide :=
      fun id d hd => by cases hd
    exact hvide.putDoc fun _ => rfl
  exact hsome id d hd

/-- The repository lists the old message, the page does not. -/
theorem message_ancien_perdu : Stored .messages Entier boiteAncienne ∧
    auDepot (Server.longest 10) boiteAncienne "t" "p" ≠
      aLaPage (Server.longest 10) boiteAncienne ⟨.enseignant, "t", "p"⟩ := by
  refine ⟨entiers_boiteAncienne, fun h => ?_⟩
  have hdepot : (auDepot (Server.longest 10) boiteAncienne "t" "p").toOption.map List.length =
      some 2 := by
    decide +kernel
  have hpage : (aLaPage (Server.longest 10) boiteAncienne
      ⟨.enseignant, "t", "p"⟩).toOption.map List.length = some 1 := by
    decide +kernel
  rw [h, hpage] at hdepot
  cases hdepot

end EduConnect.Messagerie
