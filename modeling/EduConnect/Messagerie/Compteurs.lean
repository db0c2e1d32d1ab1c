import EduConnect.Lib.Tranches
import EduConnect.Lignes
import EduConnect.Messagerie.Listes

/-!
# The counters of unread messages

`_chargerNbMessagesNonLusParExpediteur` takes the ids of the senders ten by ten, makes the same
query for each slice and adds what it finds to one map. The ids are the keys of a map, so that no
sender is counted twice. `comptage` is what the loop computes, whatever the size of the slices.
-/

namespace EduConnect.Messagerie

open Lib Prog Donnees

/-! ## The unread messages of a sender -/

/-- The query of the badge and of the counters. -/
def requeteNonLus (moi : String) : Query Champ :=
  ⟨[.isEqualTo .recepteurId (.str moi), .isEqualTo .lu (.bool false)], none, none⟩

/-- A message to `moi` that is unread. -/
def estNonLu (moi : String) (d : Document) : Bool :=
  (d.get .recepteurId).isStr moi && decide ((d.get .lu).scalar = some (.bool false))

/-- A message from `x`, an absent sender being `''`, with `x` among its participants. -/
def vientDe (x : String) (d : Document) : Bool :=
  decide (((d.get .emetteurId).orStr "").toOption = some x) &&
    (arrayOf (d .participants)).any (Value.isStr x)

/-- The number of unread messages to `moi` from `x`. -/
def nbNonLusDe (b : Base) (moi x : String) : ℕ :=
  (b.docs .messages).rows.countP fun row => estNonLu moi row.2 && vientDe x row.2

/-- The participants are a list, or absent. -/
def participantsLisibles (d : Document) : Bool :=
  match d.get .participants with
  | .null => true
  | .list _ => true
  | _ => false

/-- The unread messages to `moi` have lists of participants. -/
def nonLusLisibles (b : Base) (moi : String) : Bool :=
  ((requeteNonLus moi).run (b.docs .messages)).all fun row => participantsLisibles row.2

/-- Each id of the list with the number of its unread messages. -/
def carteNonLus (b : Base) (moi : String) (ids : List String) : String → Option ℕ :=
  fun x => if x ∈ ids then some (nbNonLusDe b moi x) else none

/-- The map of the counters; reading participants that are no list throws. -/
def comptage (b : Base) (moi : String) (ids : List String) : Except Err (String → Option ℕ) :=
  if ids = [] ∨ nonLusLisibles b moi then .ok (carteNonLus b moi ids) else .error .type

theorem estNonLu_iff {moi : String} {d : Document} : estNonLu moi d = true ↔
    d .recepteurId = some (.str moi) ∧ d .lu = some (.bool false) := by
  unfold estNonLu
  rw [Bool.and_eq_true, Doc.isStr_get_iff, decide_eq_true_eq]
  refine and_congr_right fun _ => ?_
  unfold Doc.get
  rcases d .lu with _ | v
  · simp [Value.scalar]
  · cases v <;> simp [Value.scalar]

theorem run_requeteNonLus (b : Base) (moi : String) :
    (requeteNonLus moi).run (b.docs .messages) =
      (b.docs .messages).rows.filter fun row => estNonLu moi row.2 := by
  show (b.docs .messages).rows.filter _ = _
  refine List.filter_congr fun row _ => ?_
  rw [Bool.eq_iff_iff, estNonLu_iff, List.all_eq_true]
  show (∀ c ∈ (requeteNonLus moi).filters, c.sat row.1 row.2 = true) ↔ _
  rw [requeteNonLus, List.forall_mem_cons, List.forall_mem_singleton, Filter.sat_isEqualTo_bool,
    Filter.sat_isEqualTo_str]

/-- They are counted among the rows of the query. -/
theorem nbNonLusDe_eq (b : Base) (moi x : String) : nbNonLusDe b moi x =
    ((requeteNonLus moi).run (b.docs .messages)).countP fun row => vientDe x row.2 := by
  rw [run_requeteNonLus, List.countP_filter]
  refine List.countP_congr fun row _ => ?_
  rw [Bool.and_comm]

namespace MessagerieEnseignant

/-! ## The loop over the slices -/

/-- The loop over the places where the slices of `batchSize` ids start. -/
def compterTranches (batchSize : ℕ) (expediteurIds : List String) (enseignantDocId : String) :
    List ℕ → (String → Option ℕ) → Action Unit MessagerieEnseignant (String → Option ℕ)
  | [], nbNonLusMap => ret nbNonLusMap
  | i :: suite, nbNonLusMap =>
    match sublist expediteurIds i (finTranche batchSize expediteurIds.length i) with
    | none => fail horsBornes
    | some batchIds => do
      let docs ← chercher () .messages
        [.isEqualTo .recepteurId (.str enseignantDocId), .isEqualTo .lu (.bool false)]
      let nbNonLusMap ← ofExcept (batchIds.foldlM (compter docs) nbNonLusMap)
      compterTranches batchSize expediteurIds enseignantDocId suite nbNonLusMap

/-- `_chargerNbMessagesNonLusParExpediteur` for another constant `batchSize`. -/
def chargerNbParTranches (batchSize : ℕ) (expediteurIds : List String) (isParent : Bool) :
    Action Unit MessagerieEnseignant Unit := do
  match (← page).enseignantDocId with
  | none => return
  | some enseignantDocId =>
    if expediteurIds = [] then return
    let nbNonLusMap ← compterTranches batchSize expediteurIds enseignantDocId
      (debuts batchSize expediteurIds.length) fun _ => none
    setState (noter isParent nbNonLusMap)

section Boucle

variable {S : Server} {b : Base} {moi : String} {p : MessagerieEnseignant}

theorem compterTranches_of_mapM {k : ℕ} {ids : List String} {is : List ℕ}
    {ls : List (List String)} (nb : String → Option ℕ)
    (h : is.mapM (fun i => sublist ids i (finTranche k ids.length i)) = some ls) :
    compterTranches k ids moi is nb = compterLots moi ls nb := by
  induction is generalizing ls nb with
  | nil =>
    obtain rfl : [] = ls := Option.some.inj h
    rfl
  | cons i is ih =>
    obtain ⟨lot, suite, hlot, hsuite, rfl⟩ := mapM_cons_eq_some_iff.mp h
    unfold compterTranches compterLots
    rw [hlot]
    dsimp only
    congr 1
    funext docs
    congr 1
    funext nb'
    exact ih nb' hsuite

/-- No slice is out of range, and the slices are the batches. -/
theorem compterTranches_debuts {k : ℕ} (hk : 0 < k) (ids : List String) (nb : String → Option ℕ) :
    compterTranches k ids moi (debuts k ids.length) nb = compterLots moi (lots k ids) nb :=
  compterTranches_of_mapM nb (mapM_sublist_debuts hk ids)

theorem chargerNbParTranches_ten (ids : List String) (isParent : Bool) :
    chargerNbParTranches 10 ids isParent = chargerNbMessagesNonLusParExpediteur ids isParent := by
  unfold chargerNbParTranches chargerNbMessagesNonLusParExpediteur
  refine congrArg (Bind.bind page) (funext fun p => ?_)
  cases p.enseignantDocId with
  | none => rfl
  | some enseignantDocId =>
    dsimp only
    rw [compterTranches_debuts (by decide)]

/-! ### One turn -/

theorem orList_participants {d : Document} : (d.get .participants).orList =
    if participantsLisibles d then .ok (arrayOf (d .participants)) else .error .type := by
  unfold participantsLisibles Doc.get
  rcases d .participants with _ | v
  · rfl
  · cases v <;> rfl

theorem isStr_emetteur (v : Valeur) (x : String) : (match v with
    | .null => decide (x = "")
    | v => v.isStr x) = decide ((v.orStr "").toOption = some x) := by
  cases v <;> simp [Value.orStr, Value.asStr, Value.isStr, Except.toOption, eq_comm]

theorem nonLuDe_eq {d : Document} (hd : estNonLu moi d = true) (x : String) :
    nonLuDe x d = if participantsLisibles d then .ok (vientDe x d) else .error .type := by
  have hlu : (d.get .lu).asBool = .ok false := by
    rw [Doc.get, (estNonLu_iff.mp hd).2]
    rfl
  unfold nonLuDe vientDe
  rw [orList_participants, hlu, ← isStr_emetteur]
  by_cases hp : participantsLisibles d = true
  · rw [if_pos hp, if_pos hp, Bool.and_comm]
    rfl
  · rw [if_neg hp, if_neg hp]
    rfl

/-- The turn of a sender adds the number of his messages. -/
theorem compter_eq (b : Base) (moi : String) (nb : String → Option ℕ) (x : String) :
    compter ((requeteNonLus moi).run (b.docs .messages)) nb x =
      if nonLusLisibles b moi then
        .ok (Function.update nb x (some ((nb x).getD 0 + nbNonLusDe b moi x)))
      else .error .type := by
  have hmap : ((requeteNonLus moi).run (b.docs .messages)).mapM (fun doc => nonLuDe x doc.2) =
      if nonLusLisibles b moi then
        .ok (((requeteNonLus moi).run (b.docs .messages)).map fun row => vientDe x row.2)
      else .error .type := by
    refine mapM_eq_ite fun row hrow => ?_
    rw [run_requeteNonLus, List.mem_filter] at hrow
    exact nonLuDe_eq hrow.2 x
  have hcount : (((requeteNonLus moi).run (b.docs .messages)).map
      fun row => vientDe x row.2).count true = nbNonLusDe b moi x := by
    rw [nbNonLusDe_eq, List.count, List.countP_map]
    refine List.countP_congr fun row _ => ?_
    rw [Function.comp_apply, beq_true]
  unfold compter
  rw [hmap]
  by_cases hb : nonLusLisibles b moi = true
  · rw [if_pos hb, if_pos hb, ← hcount]
    rfl
  · rw [if_neg hb, if_neg hb]
    rfl

/-! ### All the turns -/

/-- After the batches the map holds the ids of the batches. -/
theorem exec_compterLots_of_lisibles (hb : nonLusLisibles b moi = true) (ls : List (List String))
    (nb : String → Option ℕ) : (compterLots moi ls nb).exec S.handler p b =
      (.ok (addCounts (nbNonLusDe b moi) ls.flatten nb), p, b) := by
  induction ls generalizing nb with
  | nil => rfl
  | cons lot ls ih =>
    have hlot : lot.foldlM (compter ((requeteNonLus moi).run (b.docs .messages))) nb =
        .ok (addCounts (nbNonLusDe b moi) lot nb) := by
      refine foldlM_eq_ok (fun nb x _ => ?_) nb
      rw [compter_eq, if_pos hb]
    show ((ofExcept (lot.foldlM (compter ((requeteNonLus moi).run (b.docs .messages))) nb)).bind
      _).exec S.handler p b = _
    rw [hlot, ofExcept_ok, bind_ret, ih, List.flatten_cons, addCounts_append]

/-- The first turn throws. -/
theorem exec_compterLots_of_illisible (hb : ¬nonLusLisibles b moi = true) {lot : List String}
    (hlot : lot ≠ []) (ls : List (List String)) (nb : String → Option ℕ) :
    (compterLots moi (lot :: ls) nb).exec S.handler p b = (.error .type, p, b) := by
  obtain ⟨x, suite, rfl⟩ := List.exists_cons_of_ne_nil hlot
  have herror : (x :: suite).foldlM (compter ((requeteNonLus moi).run (b.docs .messages))) nb =
      .error .type := by
    rw [List.foldlM_cons, compter_eq, if_neg hb]
    rfl
  show ((ofExcept ((x :: suite).foldlM
    (compter ((requeteNonLus moi).run (b.docs .messages))) nb)).bind _).exec S.handler p b = _
  rw [herror]
  rfl

/-- The loop computes `comptage`, in slices of any size. -/
theorem exec_compterTranches {k : ℕ} (hk : 0 < k) {ids : List String} (hids : ids.Nodup) :
    (compterTranches k ids moi (debuts k ids.length) fun _ => none).exec S.handler p b =
      (comptage b moi ids, p, b) := by
  rw [compterTranches_debuts hk]
  unfold comptage
  by_cases hb : nonLusLisibles b moi = true
  · rw [exec_compterLots_of_lisibles hb, flatten_lots hk, if_pos (.inr hb),
      addCounts_of_nodup hids fun _ _ => rfl]
    rfl
  · by_cases hvide : ids = []
    · subst hvide
      rw [if_pos (.inl rfl)]
      rfl
    · have hpos : 0 < ids.length := List.length_pos_iff.mpr hvide
      have hpremier : ids.take k ≠ [] := by
        rw [← List.length_pos_iff, List.length_take]
        omega
      rw [if_neg (not_or.mpr ⟨hvide, hb⟩), lots_cons hk hvide]
      exact exec_compterLots_of_illisible hb hpremier _ _

/-- What the page becomes. -/
theorem exec_chargerNbParTranches {k : ℕ} (hk : 0 < k) (hp : p.enseignantDocId = some moi)
    {ids : List String} (hids : ids.Nodup) (isParent : Bool) :
    (chargerNbParTranches k ids isParent).exec S.handler p b =
      if ids = [] then (.ok (), p, b)
      else if nonLusLisibles b moi then (.ok (), p.noter isParent (carteNonLus b moi ids), b)
      else (.error .type, p, b) := by
  unfold chargerNbParTranches
  simp only [bind_eq, page, bind_read, bind_ret, exec_read, hp]
  by_cases hvide : ids = []
  · rw [if_pos hvide, if_pos hvide]
    rfl
  · rw [if_neg hvide, if_neg hvide, exec_bind, exec_compterTranches hk hids, comptage]
    by_cases hb : nonLusLisibles b moi = true
    · rw [if_pos (.inr hb), if_pos hb]
      rfl
    · rw [if_neg (not_or.mpr ⟨hvide, hb⟩), if_neg hb]

/-- What the page becomes, with batches of ten. -/
theorem exec_chargerNb (hp : p.enseignantDocId = some moi) (hb : nonLusLisibles b moi = true)
    {ids : List String} (hids : ids.Nodup) (isParent : Bool) :
    (chargerNbMessagesNonLusParExpediteur ids isParent).exec S.handler p b =
      (.ok (), if ids = [] then p else p.noter isParent (carteNonLus b moi ids), b) := by
  rw [← chargerNbParTranches_ten, exec_chargerNbParTranches (by decide) hp hids, if_pos hb]
  split_ifs <;> rfl

theorem carteNonLus_perm {ids ids' : List String} (h : ids'.Perm ids) :
    carteNonLus b moi ids' = carteNonLus b moi ids := by
  funext x
  simp only [carteNonLus, h.mem_iff]

/-- The map has the ids of the list and the numbers of their unread messages, whatever the size of
the slices and the order of the list. -/
theorem nonLus_par_tranches (S : Server) (b : Base) (hp : p.enseignantDocId = some moi)
    {ids : List String} (hids : ids.Nodup) (isParent : Bool) :
    (∀ batchSize, 0 < batchSize →
      (compterTranches batchSize ids moi (debuts batchSize ids.length) fun _ => none).exec
        S.handler p b = (comptage b moi ids, p, b)) ∧
    (chargerNbMessagesNonLusParExpediteur ids isParent).exec S.handler p b =
      (if ids = [] then (.ok (), p, b)
      else if nonLusLisibles b moi then (.ok (), p.noter isParent (carteNonLus b moi ids), b)
      else (.error .type, p, b)) ∧
    chargerNbParTranches 10 ids isParent = chargerNbMessagesNonLusParExpediteur ids isParent ∧
    ∀ ids', ids'.Perm ids → ∀ batchSize, 0 < batchSize →
      (chargerNbParTranches batchSize ids' isParent).exec S.handler p b =
        (chargerNbMessagesNonLusParExpediteur ids isParent).exec S.handler p b := by
  have hdix := chargerNbParTranches_ten ids isParent
  refine ⟨fun k hk => exec_compterTranches hk hids, ?_, hdix, ?_⟩
  · rw [← hdix, exec_chargerNbParTranches (by decide) hp hids]
  · intro ids' hperm k hk
    have hvide : ids' = [] ↔ ids = [] := by
      rw [← List.length_eq_zero_iff, hperm.length_eq, List.length_eq_zero_iff]
    rw [← hdix, exec_chargerNbParTranches hk hp (hperm.nodup_iff.mpr hids),
      exec_chargerNbParTranches (by decide) hp hids, carteNonLus_perm hperm]
    simp only [hvide]

end Boucle

/-- The teacher `t` has two unread messages of `e`, one of `f` and one that `f` has left. -/
def boiteDeQuatre : Base :=
  [MessageModele.mk "m1" "Bonjour" "e" "t" 0 false ["e", "t"],
    .mk "m2" "Bonsoir" "e" "t" 1 false ["e", "t"],
    .mk "m3" "Merci" "f" "t" 2 false ["f", "t"],
    .mk "m4" "Non" "f" "t" 3 false ["t"]].foldl
      (fun b m => b.putDoc .messages m.id m.document) baseVide

/-- The list of the teacher `t`. -/
def listeDeT : MessagerieEnseignant :=
  { utilisateurId := "u", etablissementId := "s", enseignantDocId := some "t" }

example : ["f", "e", "g"].map (carteNonLus boiteDeQuatre "t" ["f", "e"]) =
    [some 1, some 2, none] := by decide +kernel

theorem nonLus_par_tranches_boiteDeQuatre : nonLusLisibles boiteDeQuatre "t" = true ∧
    ∀ batchSize, 0 < batchSize →
      (compterTranches batchSize ["f", "e"] "t" (debuts batchSize 2) fun _ => none).exec
        (Server.longest 10).handler listeDeT boiteDeQuatre =
          (comptage boiteDeQuatre "t" ["f", "e"], listeDeT, boiteDeQuatre) := by
  have hids : ["f", "e"].Nodup := by decide
  have hp : listeDeT.enseignantDocId = some "t" := rfl
  exact ⟨by decide +kernel,
    (nonLus_par_tranches (Server.longest 10) boiteDeQuatre hp hids true).1⟩

end MessagerieEnseignant

end EduConnect.Messagerie
