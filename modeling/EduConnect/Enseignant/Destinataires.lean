import EduConnect.Enseignant.Devoirs
import EduConnect.Lib.Faults

/-!
# The recipients of a homework

`_submit` of `CreationDevoirPage` over a connection that may lose any of its reads.  Both helpers
that compute the recipients turn a failure into an empty list, which is then published.
-/

namespace EduConnect.Enseignant

open Lib Prog

/-- A read of the database. -/
def estLecture : Requete → Bool
  | .get _ _ => true
  | .query _ _ => true
  | _ => false

section Destinataires

variable {S : Server} {b : Base} {plan : ℕ → Option Err} {n : ℕ} {p : CreationDevoirPage}
  {classeId : String} {ids : List String}

/-- The backend some of whose reads fail. -/
abbrev lecturesPerdues (S : Server) (plan : ℕ → Option Err) :
    (r : Requete) → Base × ℕ → Except Err (Req.Ans r) × (Base × ℕ) :=
  losing estLecture plan S.handler

/-! ## The roster and the parents -/

/-- The class exists and has the roster `ids`; no document has the empty id. -/
def Roster (b : Base) (classeId : String) (ids : List String) : Prop :=
  classeId ≠ "" ∧ ∃ classe, b.doc .classes classeId = some classe ∧
    (classe.get .elevesIds).orStrs = .ok ids

/-- A document of `famille` of one of the students. -/
def FamilleDe (b : Base) (ids : List String) (famille : Document) : Prop :=
  ∃ id, b.doc .famille id = some famille ∧ ∃ e ∈ ids, famille .eleveId = some (.str e)

/-- The parent named by a document of `famille` of one of the students. -/
def ParentDe (b : Base) (ids : List String) (v : Valeur) : Prop :=
  v ≠ .null ∧ ∃ famille, FamilleDe b ids famille ∧ famille .parentId = some v

/-- Every document of `famille` of the students names a parent. -/
def ParentsNommes (b : Base) (ids : List String) : Prop :=
  ∀ famille, FamilleDe b ids famille → ∃ parentId, famille .parentId = some (.str parentId)

theorem Roster.unique {ids' : List String} (h : Roster b classeId ids)
    (h' : Roster b classeId ids') : ids = ids' := by
  obtain ⟨-, classe, hclasse, hids⟩ := h
  obtain ⟨-, classe', hclasse', hids'⟩ := h'
  obtain rfl := Option.some.inj (hclasse.symm.trans hclasse')
  exact Except.ok.inj (hids.symm.trans hids')

theorem familleDe_flatten {l : List (List String)} {famille : Document} :
    FamilleDe b l.flatten famille ↔ ∃ lot ∈ l, FamilleDe b lot famille := by
  constructor
  · rintro ⟨id, hid, e, he, hf⟩
    obtain ⟨lot, hlot, hel⟩ := List.mem_flatten.mp he
    exact ⟨lot, hlot, id, hid, e, hel, hf⟩
  · rintro ⟨lot, hlot, id, hid, e, he, hf⟩
    exact ⟨id, hid, e, List.mem_flatten.mpr ⟨lot, hlot, he⟩, hf⟩

/-! ## What the helpers return -/

/-- The answer to the query on a batch. -/
abbrev famillesDuLot (b : Base) (lot : List String) : List (String × Document) :=
  (⟨[.whereIn .eleveId lot], none, none⟩ : Query Champ).run (b.docs .famille)

theorem mem_famillesDuLot {lot : List String} {famille : Document} :
    (∃ id, (id, famille) ∈ famillesDuLot b lot) ↔ FamilleDe b lot famille := by
  refine exists_congr fun id => Query.mem_run.trans (and_congr_right fun _ => ?_)
  simp only [List.forall_mem_singleton, Filter.sat_whereIn]

/-- The parents of a batch. -/
abbrev parentsDuLot (b : Base) (lot : List String) : Except Err (List String) :=
  (famillesDuLot b lot).mapM fun doc => (doc.2.get .parentId).asStr

/-- A batch whose documents all name a parent gives their parents. -/
theorem parentsDuLot_of_nommes {lot : List String} (h : ParentsNommes b lot) :
    ∃ l, parentsDuLot b lot = .ok l ∧ ∀ x, x ∈ l ↔ ParentDe b lot (.str x) := by
  have hok : ∀ doc ∈ famillesDuLot b lot, ∃ x, (doc.2.get .parentId).asStr = .ok x ∧ True := by
    intro doc hdoc
    obtain ⟨x, hx⟩ := h doc.2 (mem_famillesDuLot.mp ⟨doc.1, hdoc⟩)
    exact ⟨x, Doc.asStr_get_iff.mpr hx, trivial⟩
  obtain ⟨l, hl, -⟩ := exists_mapM_of_forall hok
  refine ⟨l, hl, fun x => ⟨fun hx => ?_, ?_⟩⟩
  · obtain ⟨doc, hdoc, hval⟩ := exists_of_mem_mapM hl hx
    exact ⟨nofun, doc.2, mem_famillesDuLot.mp ⟨doc.1, hdoc⟩, Doc.asStr_get_iff.mp hval⟩
  · rintro ⟨-, famille, hf, hx⟩
    obtain ⟨id, hid⟩ := mem_famillesDuLot.mpr hf
    obtain ⟨y, hy, hval⟩ := exists_mem_of_mapM hl hid
    obtain rfl := Except.ok.inj ((Doc.asStr_get_iff.mpr hx).symm.trans hval)
    exact hy

/-- A batch with a document that names none gives an error. -/
theorem parentsDuLot_of_not_nommes {lot : List String} (h : ¬ParentsNommes b lot) :
    ∃ e, parentsDuLot b lot = .error e := by
  cases hl : parentsDuLot b lot with
  | error e => exact ⟨e, rfl⟩
  | ok l =>
    refine absurd (fun famille hf => ?_) h
    obtain ⟨id, hid⟩ := mem_famillesDuLot.mpr hf
    obtain ⟨x, -, hx⟩ := exists_mem_of_mapM hl hid
    exact ⟨x, Doc.asStr_get_iff.mp hx⟩

/-! ## The helpers -/

/-- A query whose filter is accepted is answered, unless the read is lost. -/
theorem exec_famille {lot : List String} (hlot : lot ≠ []) (hmax : lot.length ≤ S.maxIn) :
    (chercher .familles .famille [.whereIn .eleveId lot] :
        Action EtapeDevoir CreationDevoirPage _).exec (lecturesPerdues S plan) p (b, n) =
      ((plan n).elim (.ok (famillesDuLot b lot)) .error, p, (b, n + 1)) := by
  have hserved : S.handler (.query .famille ⟨[.whereIn .eleveId lot], none, none⟩ : Requete) b =
      (.ok (famillesDuLot b lot), b) := by
    have hok : ([.whereIn .eleveId lot] : List (Lib.Filter Champ)).any (Filter.refused S.maxIn) =
        false := by
      simp [Filter.refused, hlot, hmax]
    simp only [Server.handler, hok]
    rfl
  have hanswer : lecturesPerdues S plan
      (.query .famille ⟨[.whereIn .eleveId lot], none, none⟩ : Requete) (b, n) =
        ((plan n).elim (.ok (famillesDuLot b lot)) .error, (b, n + 1)) := by
    cases hplan : plan n with
    | none => exact (losing_of_none rfl hplan).trans (by rw [hserved]; rfl)
    | some e => exact losing_of_fault rfl hplan
  exact (exec_call _ _ _ _).trans (congrArg (fun x => (x.1, p, x.2)) hanswer)

/-- The loop goes on with the next batch. -/
theorem exec_suite {lot : List String} {lots : List (List String)} {l : List String}
    {r : Except Err (List String)} {x : Base × ℕ} (hl : parentsDuLot b lot = .ok l)
    (hx : (CreationDevoirPage.chargerParentsParLot lots).exec (lecturesPerdues S plan) p (b, n) =
      (r, p, x)) :
    (Prog.bind (ofExcept (parentsDuLot b lot)) fun ids =>
      Prog.bind (CreationDevoirPage.chargerParentsParLot lots) fun rest =>
        ret (ids.eraseDups ++ rest)).exec (lecturesPerdues S plan) p (b, n) =
      (r.map fun rest => l.eraseDups ++ rest, p, x) := by
  rw [hl]
  show exec _ (Prog.bind (CreationDevoirPage.chargerParentsParLot lots) _) p _ = _
  rw [exec_bind, hx]
  cases r <;> rfl

variable (plan p) in
/-- The loop over the batches: it ends with the parents, or at the first read that is lost or batch
that names no parent. -/
theorem exec_chargerParentsParLot {lots : List (List String)}
    (hlots : ∀ lot ∈ lots, lot ≠ [] ∧ lot.length ≤ S.maxIn) (n : ℕ) :
    (∃ l, (CreationDevoirPage.chargerParentsParLot lots).exec (lecturesPerdues S plan) p (b, n) =
        (.ok l, p, (b, n + lots.length)) ∧
      (∀ i < lots.length, plan (n + i) = none) ∧ (∀ lot ∈ lots, ParentsNommes b lot) ∧
      ∀ x, x ∈ l ↔ ∃ lot ∈ lots, ParentDe b lot (.str x)) ∨
    ∃ e k lot, (CreationDevoirPage.chargerParentsParLot lots).exec (lecturesPerdues S plan) p (b, n) =
        (.error e, p, (b, n + k + 1)) ∧
      lots[k]? = some lot ∧ (∀ i < k, plan (n + i) = none) ∧
      (∀ j < k, ∀ lot, lots[j]? = some lot → ParentsNommes b lot) ∧
      (plan (n + k) ≠ none ∨ ¬ParentsNommes b lot) := by
  induction lots generalizing n with
  | nil => exact Or.inl ⟨[], rfl, nofun, nofun, by simp⟩
  | cons lot lots ih =>
    obtain ⟨hne, hmax⟩ := hlots lot List.mem_cons_self
    rw [CreationDevoirPage.chargerParentsParLot]
    simp only [bind_eq]
    rw [exec_bind, exec_famille hne hmax]
    cases hplan : plan n with
    | some e =>
      refine Or.inr ⟨e, 0, lot, rfl, rfl, nofun, nofun, Or.inl ?_⟩
      rw [Nat.add_zero, hplan]
      nofun
    | none =>
      by_cases hnoms : ParentsNommes b lot
      · obtain ⟨l, hl, hmem⟩ := parentsDuLot_of_nommes hnoms
        have hrest : ∀ i, plan (n + (i + 1)) = plan (n + 1 + i) := fun i => by
          rw [Nat.add_right_comm, Nat.add_assoc]
        rcases ih (fun lot h => hlots lot (List.mem_cons_of_mem _ h)) (n + 1) with
          ⟨l', hl', hplan', hnoms', hmem'⟩ | ⟨e, k, lot', he, hk, hplan', hnoms', harret⟩
        · refine Or.inl ⟨l.eraseDups ++ l', (exec_suite hl hl').trans ?_, fun i hi => ?_,
            List.forall_mem_cons.mpr ⟨hnoms, hnoms'⟩, fun x => ?_⟩
          · rw [List.length_cons, Nat.add_assoc, Nat.add_comm 1]
            rfl
          · cases i with
            | zero => exact hplan
            | succ i => exact (hrest i).trans (hplan' i (Nat.lt_of_succ_lt_succ hi))
          · rw [List.mem_append, List.mem_eraseDups, hmem, hmem', List.exists_mem_cons_iff]
        · refine Or.inr ⟨e, k + 1, lot', (exec_suite hl he).trans ?_, hk, fun i hi => ?_,
            fun j hj => ?_, (hrest k).symm ▸ harret⟩
          · rw [Nat.add_assoc n 1 k, Nat.add_comm 1 k]
            rfl
          · cases i with
            | zero => exact hplan
            | succ i => exact (hrest i).trans (hplan' i (Nat.lt_of_succ_lt_succ hi))
          · cases j with
            | zero => exact fun lot' hlot' => Option.some.inj hlot' ▸ hnoms
            | succ j => exact hnoms' j (Nat.lt_of_succ_lt_succ hj)
      · obtain ⟨e, he⟩ := parentsDuLot_of_not_nommes hnoms
        refine Or.inr ⟨e, 0, lot, ?_, rfl, nofun, nofun, Or.inr hnoms⟩
        show exec _ (Prog.bind (ofExcept (parentsDuLot b lot)) _) p _ = _
        rw [he]
        rfl

/-- The reads of the batches that are made are answered: a lost one comes after a batch that names
no parent, where the loop has ended. -/
def LotsServis (b : Base) (plan : ℕ → Option Err) (n : ℕ) (ids : List String) : Prop :=
  ∀ i < (lots 10 ids).length, plan (n + i) ≠ none →
    ∃ j < i, ∃ lot, (lots 10 ids)[j]? = some lot ∧ ¬ParentsNommes b lot

theorem familleDe_lots {famille : Document} :
    FamilleDe b ids famille ↔ ∃ lot ∈ lots 10 ids, FamilleDe b lot famille := by
  rw [← familleDe_flatten, flatten_lots (by decide)]

theorem parentsNommes_lots :
    ParentsNommes b ids ↔ ∀ lot ∈ lots 10 ids, ParentsNommes b lot := by
  constructor
  · exact fun h lot hlot famille hf => h famille (familleDe_lots.mpr ⟨lot, hlot, hf⟩)
  · intro h famille hf
    obtain ⟨lot, hlot, hf⟩ := familleDe_lots.mp hf
    exact h lot hlot famille hf

theorem parentDe_lots {v : Valeur} : ParentDe b ids v ↔ ∃ lot ∈ lots 10 ids, ParentDe b lot v := by
  constructor
  · rintro ⟨hv, famille, hf, hx⟩
    obtain ⟨lot, hlot, hf⟩ := familleDe_lots.mp hf
    exact ⟨lot, hlot, hv, famille, hf, hx⟩
  · rintro ⟨lot, hlot, hv, famille, hf, hx⟩
    exact ⟨hv, famille, familleDe_lots.mpr ⟨lot, hlot, hf⟩, hx⟩

/-- What `_chargerParentsDesEleves` returns when it starts after `n` reads and ends after `m`: the
parents, or nothing at the first read that is lost or batch that names no parent. -/
structure ParentsLus (b : Base) (plan : ℕ → Option Err) (n : ℕ) (ids parents : List String)
    (m : ℕ) : Prop where
  le : n ≤ m
  nodup : parents.Nodup
  servis_iff : (∀ i, n ≤ i → i < m → plan i = none) ↔ LotsServis b plan n ids
  complets : LotsServis b plan n ids → ParentsNommes b ids →
    ∀ x, x ∈ parents ↔ ParentDe b ids (.str x)
  vides : LotsServis b plan n ids → ¬ParentsNommes b ids → parents = []

/-- It depends on the documents only. -/
theorem ParentsLus.congr {b₁ : Base} {m : ℕ} {parents : List String}
    (hdoc : ∀ c id, b₁.doc c id = b.doc c id) (h : ParentsLus b₁ plan n ids parents m) :
    ParentsLus b plan n ids parents m := by
  have hfamille : FamilleDe b₁ = FamilleDe b := by
    funext ids famille
    simp only [FamilleDe, hdoc]
  have hnoms : ParentsNommes b₁ = ParentsNommes b := by
    funext ids
    simp only [ParentsNommes, hfamille]
  have hservi : LotsServis b₁ = LotsServis b := by
    funext plan n ids
    simp only [LotsServis, hnoms]
  have hparent : ParentDe b₁ = ParentDe b := by
    funext ids v
    simp only [ParentDe, hfamille]
  obtain ⟨hle, hnodup, hiff, hcomplets, hvides⟩ := h
  rw [hservi] at hiff hcomplets hvides
  rw [hnoms] at hcomplets hvides
  rw [hparent] at hcomplets
  exact ⟨hle, hnodup, hiff, hcomplets, hvides⟩

theorem exec_chargerParentsDesEleves (h10 : 10 ≤ S.maxIn) (ids : List String) (n : ℕ) :
    ∃ parents m, (CreationDevoirPage.chargerParentsDesEleves ids).exec (lecturesPerdues S plan) p
        (b, n) = (.ok parents, p, (b, m)) ∧ ParentsLus b plan n ids parents m := by
  have hlots : ∀ lot ∈ lots 10 ids, lot ≠ [] ∧ lot.length ≤ S.maxIn := fun lot hlot =>
    have h := length_of_mem_lots (by decide) hlot
    ⟨h.1, h.2.trans h10⟩
  have hexec : ∀ {r x}, (CreationDevoirPage.chargerParentsParLot (lots 10 ids)).exec
      (lecturesPerdues S plan) p (b, n) = (r, p, x) →
      (CreationDevoirPage.chargerParentsDesEleves ids).exec (lecturesPerdues S plan) p (b, n) =
        (.ok ((r.map List.eraseDups).toOption.getD []), p, x) := by
    intro r x hr
    rw [CreationDevoirPage.chargerParentsDesEleves, exec_catching]
    by_cases hids : ids = []
    · obtain rfl := hids
      obtain ⟨rfl, -, rfl⟩ := Prod.mk.inj hr
      rfl
    · rw [if_neg hids]
      simp only [bind_eq]
      rw [exec_bind, hr]
      cases r <;> rfl
  rcases exec_chargerParentsParLot plan p hlots n with
    ⟨l, hl, hplan, hnoms, hmem⟩ | ⟨e, k, lot, he, hk, hplan, hnoms, harret⟩
  · refine ⟨_, _, hexec hl, by omega, nodup_eraseDups l,
      ⟨fun _ i hi hlost => ?_, fun _ i hni hi => ?_⟩, fun _ _ x => ?_,
      fun _ hnot => absurd (parentsNommes_lots.mpr hnoms) hnot⟩
    · exact absurd (hplan i hi) hlost
    · obtain ⟨j, rfl⟩ := Nat.exists_eq_add_of_le hni
      exact hplan j (by omega)
    · show x ∈ l.eraseDups ↔ _
      rw [List.mem_eraseDups, hmem, parentDe_lots]
  · have hlt : k < (lots 10 ids).length := (List.getElem?_eq_some_iff.mp hk).1
    have hservi : LotsServis b plan n ids ↔ plan (n + k) = none := by
      constructor
      · intro h
        by_contra hlost
        obtain ⟨j, hj, lot', hlot', hnot⟩ := h k hlt hlost
        exact hnot (hnoms j hj lot' hlot')
      · intro hk' i hi hlost
        have hki : k < i := by
          rcases Nat.lt_trichotomy i k with h | rfl | h
          · exact absurd (hplan i h) hlost
          · exact absurd hk' hlost
          · exact h
        exact ⟨k, hki, lot, hk, harret.resolve_left (not_not_intro hk')⟩
    refine ⟨_, _, hexec he, by omega, List.nodup_nil, ?_, fun h hall => ?_, fun _ _ => rfl⟩
    · rw [hservi]
      constructor
      · exact fun h => h (n + k) (by omega) (by omega)
      · intro hk' i hni hi
        obtain ⟨j, rfl⟩ := Nat.exists_eq_add_of_le hni
        rcases Nat.lt_or_ge j k with h | h
        · exact hplan j h
        · obtain rfl : j = k := by omega
          exact hk'
    · refine absurd (parentsNommes_lots.mp hall lot (List.mem_of_getElem? hk)) ?_
      exact harret.resolve_left (not_not_intro (hservi.mp h))

/-- What `_chargerElevesIdsDeClasse` returns: the roster if there is one and the read is answered. -/
structure ElevesLus (b : Base) (plan : ℕ → Option Err) (classeId : String) (n : ℕ)
    (eleves : List String) (m : ℕ) : Prop where
  le : n ≤ m ∧ m ≤ n + 1
  roster : ∀ ids, Roster b classeId ids → m = n + 1 ∧ (plan n = none → eleves = ids)

theorem ElevesLus.congr {b₁ : Base} {m : ℕ} {eleves : List String}
    (hdoc : ∀ c id, b₁.doc c id = b.doc c id) (h : ElevesLus b₁ plan classeId n eleves m) :
    ElevesLus b plan classeId n eleves m :=
  ⟨h.le, fun ids hids => h.roster ids (by simpa only [Roster, hdoc] using hids)⟩

theorem exec_chargerElevesIdsDeClasse (classeId : String) (n : ℕ) :
    ∃ eleves m, (CreationDevoirPage.chargerElevesIdsDeClasse classeId).exec
        (lecturesPerdues S plan) p (b, n) = (.ok eleves, p, (b, m)) ∧
      ElevesLus b plan classeId n eleves m := by
  rw [CreationDevoirPage.chargerElevesIdsDeClasse, exec_catching]
  simp only [bind_eq]
  rw [exec_bind]
  by_cases hid : classeId = ""
  · rw [lireDoc, if_pos hid]
    exact ⟨[], n, rfl, by omega, fun ids h => absurd hid h.1⟩
  · have hanswer : (lireDoc .eleves .classes classeId : Action EtapeDevoir CreationDevoirPage _).exec
        (lecturesPerdues S plan) p (b, n) =
          ((plan n).elim (.ok (b.doc .classes classeId)) .error, p, (b, n + 1)) := by
      rw [lireDoc, if_neg hid]
      have h : lecturesPerdues S plan (.get .classes classeId : Requete) (b, n) =
          ((plan n).elim (.ok (b.doc .classes classeId)) .error, (b, n + 1)) := by
        cases hplan : plan n with
        | none => exact losing_of_none rfl hplan
        | some e => exact losing_of_fault rfl hplan
      exact (exec_call _ _ _ _).trans (congrArg (fun x => (x.1, p, x.2)) h)
    rw [hanswer]
    cases hplan : plan n with
    | some e => exact ⟨[], n + 1, rfl, by omega, fun ids _ =>
        ⟨rfl, fun h => absurd (hplan.symm.trans h) nofun⟩⟩
    | none =>
      cases hdoc : b.doc .classes classeId with
      | none =>
        refine ⟨[], n + 1, rfl, by omega, fun ids h => ?_⟩
        obtain ⟨-, classe, hclasse, -⟩ := h
        exact absurd (hdoc.symm.trans hclasse) nofun
      | some classe =>
        cases hlus : (classe.get .elevesIds).orStrs with
        | error e =>
          refine ⟨[], n + 1, ?_, by omega, fun ids h => ?_⟩
          · simp only [Option.elim_none, hlus]
            rfl
          · obtain ⟨-, classe', hclasse, hids⟩ := h
            obtain rfl := Option.some.inj (hdoc.symm.trans hclasse)
            exact absurd (hlus.symm.trans hids) nofun
        | ok eleves =>
          refine ⟨eleves, n + 1, ?_, by omega, fun ids h => ⟨rfl, fun _ => ?_⟩⟩
          · simp only [Option.elim_none, hlus]
            rfl
          · exact Roster.unique ⟨hid, classe, hdoc, hlus⟩ h

/-! ## The submission -/

/-- The page passes the checks of `_submit`. -/
def Complete (p : CreationDevoirPage) : Prop :=
  p.valide = true ∧ p.classeSelectionneeId ≠ none ∧ p.matiereSelectionneeId ≠ none ∧
    p.dateRemise ≠ none ∧ p.enseignantDocId ≠ none

/-- It passes them and its file can be read. -/
def Publiable (p : CreationDevoirPage) : Prop :=
  Complete p ∧ ∀ fichier, p.fichier = some fichier → fichier.lisible = true

theorem ends_submit_of_complete {P : Base × ℕ → Prop} {maintenant : ℤ} (hp : Complete p) :
    (CreationDevoirPage.submit maintenant).Ends (lecturesPerdues S plan) (fun _ _ x => P x) p
        (b, n) ↔
      (CreationDevoirPage.envoyer maintenant).Ends (lecturesPerdues S plan) (fun _ _ x => P x)
        { p with submitting := true } (b, n) := by
  obtain ⟨hvalide, hclasse, hmatiere, hdate, henseignant⟩ := hp
  rw [CreationDevoirPage.submit]
  simp only [bind_eq, ends_page_bind, hvalide, Bool.not_true, Bool.false_eq_true, if_false, hclasse,
    hmatiere, hdate, henseignant]
  refine ends_setState_bind.trans (ends_ensuring.trans (ends_catching.trans ?_))
  unfold Ends
  rcases exec _ _ _ _ with ⟨e | a, s', b'⟩ <;> rfl

/-- An incomplete page sends nothing. -/
theorem ends_submit_of_not_complete {maintenant : ℤ} (hp : ¬Complete p) :
    (CreationDevoirPage.submit maintenant).Ends (lecturesPerdues S plan)
      (fun _ _ x => x.1 = b) p (b, n) := by
  rw [CreationDevoirPage.submit]
  simp only [bind_eq, ends_page_bind]
  by_cases hvalide : p.valide = true
  · simp only [hvalide, Bool.not_true, Bool.false_eq_true, if_false]
    by_cases hclasse : p.classeSelectionneeId = none
    · rw [if_pos hclasse]
      rfl
    rw [if_neg hclasse]
    by_cases hmatiere : p.matiereSelectionneeId = none
    · rw [if_pos hmatiere]
      rfl
    rw [if_neg hmatiere]
    by_cases hdate : p.dateRemise = none
    · rw [if_pos hdate]
      rfl
    rw [if_neg hdate]
    by_cases henseignant : p.enseignantDocId = none
    · rw [if_pos henseignant]
      rfl
    exact absurd ⟨hvalide, hclasse, hmatiere, hdate, henseignant⟩ hp
  · rw [if_pos (by simpa using hvalide)]
    rfl

/-- The upload of the file leaves the documents. -/
theorem exec_joindre (hp : ∀ fichier, p.fichier = some fichier → fichier.lisible = true) :
    ∃ fichier b₁, (CreationDevoirPage.joindre p.fichier).exec (lecturesPerdues S plan) p (b, n) =
      (.ok fichier, p, (b₁, n)) ∧ b₁.docs = b.docs := by
  cases hf : p.fichier with
  | none => exact ⟨_, b, rfl, rfl⟩
  | some fichier =>
    have hlisible := hp fichier hf
    refine ⟨(some (S.newId b.files), fichier.extension),
      { b with files := b.files.put (S.newId b.files) () }, ?_, rfl⟩
    rw [CreationDevoirPage.joindre, CreationDevoirPage.uploadFichierAppwrite]
    simp only [hlisible]
    -- the page still has the file when the upload has ended
    have htype : p.fichierType = .ok fichier.extension := by rw [CreationDevoirPage.fichierType, hf]
    show (Prog.bind (ofExcept p.fichierType) _).exec (lecturesPerdues S plan) p _ = _
    rw [htype]
    rfl

/-- A file that cannot be read ends the submission. -/
theorem ends_envoyer_of_not_lisible {fichier : FichierJoint} {maintenant : ℤ}
    (hf : p.fichier = some fichier) (hlisible : fichier.lisible = false) :
    (CreationDevoirPage.envoyer maintenant).Ends (lecturesPerdues S plan) (fun _ _ x => x.1 = b) p
      (b, n) := by
  have hjoint : ∃ e p', (CreationDevoirPage.joindre p.fichier).exec (lecturesPerdues S plan) p
      (b, n) = (.error e, p', (b, n)) := by
    rw [hf, CreationDevoirPage.joindre, CreationDevoirPage.uploadFichierAppwrite]
    simp only [hlisible]
    exact ⟨_, _, rfl⟩
  obtain ⟨e, p', hjoint⟩ := hjoint
  rw [CreationDevoirPage.envoyer]
  simp only [bind_eq]
  refine ends_page_bind.mpr ?_
  unfold Ends
  rw [exec_bind, hjoint]

/-- One homework is added, sent to what the helpers have returned. -/
def Publication (b : Base) (plan : ℕ → Option Err) (classeId : String) (x : Base × ℕ) : Prop :=
  ∃ eleves m parents d id₀, ElevesLus b plan classeId 0 eleves m ∧
    ParentsLus b plan m eleves parents x.2 ∧ d .eleveIds = some (.strs eleves) ∧
    d .parentIds = some (.strs parents) ∧ b.doc .devoirs id₀ = none ∧
    ∀ id, x.1.doc .devoirs id = if id = id₀ then some d else b.doc .devoirs id

theorem ends_envoyer {maintenant : ℤ} (h10 : 10 ≤ S.maxIn) (hp : Publiable p)
    (hc : p.classeSelectionneeId = some classeId) :
    (CreationDevoirPage.envoyer maintenant).Ends (lecturesPerdues S plan)
      (fun _ _ x => Publication b plan classeId x) p (b, 0) := by
  obtain ⟨⟨-, -, hmatiere, hdate, henseignant⟩, hfichier⟩ := hp
  obtain ⟨matiereId, hmatiere⟩ := Option.ne_none_iff_exists'.mp hmatiere
  obtain ⟨dateRemise, hdate⟩ := Option.ne_none_iff_exists'.mp hdate
  obtain ⟨enseignantId, henseignant⟩ := Option.ne_none_iff_exists'.mp henseignant
  obtain ⟨fichier, b₁, hjoint, hdocs⟩ :=
    exec_joindre (S := S) (b := b) (n := 0) hfichier
  obtain ⟨eleves, m, heleves, hlus⟩ :=
    exec_chargerElevesIdsDeClasse (S := S) (p := p) (b := b₁) classeId 0
  obtain ⟨parents, m', hparents, hlus'⟩ :=
    exec_chargerParentsDesEleves (S := S) (p := p) (b := b₁) h10 eleves m
  rw [CreationDevoirPage.envoyer]
  simp only [bind_eq]
  refine ends_page_bind.mpr ((ends_bind_of_exec hjoint).mpr (ends_page_bind.mpr ?_))
  rw [hc]
  refine (ends_bind_of_exec heleves).mpr ((ends_bind_of_exec hparents).mpr (ends_page_bind.mpr ?_))
  rw [henseignant]
  have hdevoir : ∃ d, p.devoir enseignantId dateRemise maintenant eleves parents fichier = .ok d ∧
      d.eleveIds = eleves ∧ d.parentIds = parents := by
    rw [CreationDevoirPage.devoir, hc, hmatiere]
    exact ⟨_, rfl, rfl, rfl⟩
  obtain ⟨d, hd, rfl, rfl⟩ := hdevoir
  have hajout : (DevoirRepository.ajouterDevoir .ajout d :
      Action EtapeDevoir CreationDevoirPage _).exec (lecturesPerdues S plan) p (b₁, m') =
        (.ok (S.newDocId b₁ .devoirs), p, (S.addDoc .devoirs b₁ d.toMap, m')) :=
    exec_call (h := lecturesPerdues S plan) _ (Req.add .devoirs d.toMap : Requete) p (b₁, m')
  simp only [hdate, idDeDocument, ofExcept_ok, bind_ret]
  rw [hd]
  refine (ends_bind_of_exec hajout).mpr ?_
  have hdoc : ∀ c id, b₁.doc c id = b.doc c id := fun c id => by rw [Data.doc, Data.doc, hdocs]
  refine ⟨d.eleveIds, m, d.parentIds, newDoc b₁.clock d.toMap, S.newDocId b₁ .devoirs, ?_, ?_, rfl,
    rfl, ?_, fun id => ?_⟩
  · exact hlus.congr hdoc
  · exact hlus'.congr hdoc
  · rw [← hdoc]
    exact S.doc_newDocId b₁ .devoirs
  · show (Data.putDoc b₁ .devoirs _ _).doc .devoirs id = _
    rw [Data.doc_putDoc, hdoc]
    by_cases hid : id = S.newDocId b₁ .devoirs
    · rw [if_pos ⟨rfl, hid⟩, if_pos hid]
    · rw [if_neg fun h => hid h.2, if_neg hid]

/-! ## Who receives a homework -/

/-- The document names the roster of the class and, once each, the parents of its students. -/
def Destinataires (b : Base) (classeId : String) (d : Document) : Prop :=
  ∃ ids parents, Roster b classeId ids ∧ d .eleveIds = some (.strs ids) ∧
    d .parentIds = some (.list parents) ∧ parents.Nodup ∧ ∀ v, v ∈ parents ↔ ParentDe b ids v

/-- A homework that is added has all its recipients, and none is added when a read is lost. -/
def Fidele (b : Base) (plan : ℕ → Option Err) (p : CreationDevoirPage) (x : Base × ℕ) : Prop :=
  ∀ id d, b.doc .devoirs id = none → x.1.doc .devoirs id = some d → (∀ i < x.2, plan i = none) ∧
    ∃ classeId, p.classeSelectionneeId = some classeId ∧ Destinataires b classeId d

/-- The recipients can be computed: the class has a roster, no read is lost, and the documents of
`famille` of its students all name a parent, or none does. -/
def Calculables (b : Base) (plan : ℕ → Option Err) (classeId : String) : Prop :=
  ∃ ids, Roster b classeId ids ∧ plan 0 = none ∧ LotsServis b plan 1 ids ∧
    (ParentsNommes b ids ∨ ∀ v, ¬ParentDe b ids v)

/-- What is published is right if and only if the recipients can be computed. -/
theorem fidele_iff {x : Base × ℕ} (hc : p.classeSelectionneeId = some classeId)
    (h : Publication b plan classeId x) : Fidele b plan p x ↔ Calculables b plan classeId := by
  obtain ⟨eleves, m, parents, d, id₀, heleves, hparents, hde, hdp, hneuf, hdocs⟩ := h
  have hajoute : x.1.doc .devoirs id₀ = some d := (hdocs id₀).trans (if_pos rfl)
  constructor
  · intro h
    obtain ⟨hplan, classeId', hc', ids, parents', hroster, hids, hlist, -, hmem⟩ :=
      h id₀ d hneuf hajoute
    obtain rfl : classeId = classeId' := Option.some.inj (hc.symm.trans hc')
    obtain ⟨hm, hroster'⟩ := heleves.roster ids hroster
    have hle := hparents.le
    have hzero : plan 0 = none := hplan 0 (by omega)
    obtain rfl := hroster' hzero
    obtain rfl : m = 1 := hm
    have hservi : LotsServis b plan 1 eleves := hparents.servis_iff.mp fun i _ hi => hplan i hi
    refine ⟨eleves, hroster, hzero, hservi, ?_⟩
    by_cases hnoms : ParentsNommes b eleves
    · exact Or.inl hnoms
    · obtain rfl := hparents.vides hservi hnoms
      obtain rfl : parents' = [] := Value.list.inj (Option.some.inj (hlist.symm.trans hdp))
      exact Or.inr fun v hv => absurd ((hmem v).mpr hv) List.not_mem_nil
  · rintro ⟨ids, hroster, hzero, hservi, hnoms⟩ id d' hnone hd'
    obtain rfl : id = id₀ := by
      by_contra hid
      rw [hdocs, if_neg hid, hnone] at hd'
      cases hd'
    obtain rfl := Option.some.inj (hajoute.symm.trans hd')
    obtain ⟨hm, hroster'⟩ := heleves.roster ids hroster
    obtain rfl := hroster' hzero
    obtain rfl : m = 1 := hm
    refine ⟨fun i hi => ?_, classeId, hc, eleves, parents.map .str, hroster, hde, hdp,
      hparents.nodup.map fun _ _ => Value.str.inj, fun v => ?_⟩
    · rcases Nat.eq_zero_or_pos i with rfl | hpos
      · exact hzero
      · exact hparents.servis_iff.mpr hservi i hpos hi
    · by_cases hall : ParentsNommes b eleves
      · have hmem := hparents.complets hservi hall
        constructor
        · intro hv
          obtain ⟨y, hy, rfl⟩ := List.mem_map.mp hv
          exact (hmem y).mp hy
        · intro hv
          obtain ⟨y, rfl⟩ : ∃ y, v = .str y := by
            obtain ⟨-, famille, hf, hval⟩ := hv
            obtain ⟨y, hy⟩ := hall famille hf
            exact ⟨y, Option.some.inj (hval.symm.trans hy)⟩
          exact List.mem_map_of_mem ((hmem y).mpr hv)
      · obtain rfl := hparents.vides hservi hall
        have hnone := hnoms.resolve_left hall
        refine ⟨fun hv => ?_, fun hv => absurd hv (hnone v)⟩
        cases hv

/-- The recipients of what a submission adds are right if and only if the page cannot publish or
the recipients can be computed. -/
theorem destinataires_iff (h10 : 10 ≤ S.maxIn) (b : Base) (plan : ℕ → Option Err)
    (p : CreationDevoirPage) (maintenant : ℤ) :
    (CreationDevoirPage.submit maintenant).Ends (lecturesPerdues S plan)
        (fun _ _ x => Fidele b plan p x) p (b, 0) ↔
      (Publiable p → ∀ classeId, p.classeSelectionneeId = some classeId →
        Calculables b plan classeId) := by
  by_cases hp : Publiable p
  · obtain ⟨classeId, hc⟩ := Option.ne_none_iff_exists'.mp hp.1.2.1
    have hpub : (CreationDevoirPage.envoyer maintenant).Ends (lecturesPerdues S plan)
        (fun _ _ x => Publication b plan classeId x) { p with submitting := true } (b, 0) :=
      ends_envoyer h10 hp hc
    refine (ends_submit_of_complete hp.1).trans ((fidele_iff hc hpub).trans ?_)
    constructor
    · exact fun h _ classeId' hc' => Option.some.inj (hc.symm.trans hc') ▸ h
    · exact fun h => h hp classeId hc
  · refine iff_of_true ?_ fun h => absurd h hp
    have hintact : ∀ {x : Base × ℕ}, x.1 = b → Fidele b plan p x := by
      rintro ⟨_, m⟩ rfl id d hnone hd
      cases hnone.symm.trans hd
    by_cases hcomplete : Complete p
    · have hfichier : ∃ fichier, p.fichier = some fichier ∧ fichier.lisible = false := by
        by_contra h
        refine hp ⟨hcomplete, fun fichier hf => ?_⟩
        by_contra hnot
        exact h ⟨fichier, hf, Bool.not_eq_true _ ▸ hnot⟩
      obtain ⟨fichier, hf, hlisible⟩ := hfichier
      have hf : { p with submitting := true }.fichier = some fichier := hf
      refine (ends_submit_of_complete hcomplete).mpr ?_
      exact (ends_envoyer_of_not_lisible hf hlisible).mono fun _ _ _ hx => hintact hx
    · exact (ends_submit_of_not_complete hcomplete).mono fun _ _ _ hx => hintact hx

end Destinataires

/-- A class of one student, whose family names a parent. -/
def baseUnParent : Base :=
  (baseVide.putDoc .classes "c" (newDoc 0 [textes .elevesIds ["a"]])).putDoc .famille "f"
    (newDoc 0 [texte .eleveId "a", texte .parentId "p"])

def devoirPret : CreationDevoirPage :=
  { enseignantUtilisateurId := "u", etablissementId := "e", enseignantDocId := some "t",
    classeSelectionneeId := some "c", matiereSelectionneeId := some "m", titre := "Exercices",
    description := "Page 12", dateRemise := some 7 }

/-- Without lost reads. -/
theorem destinataires_unParent :
    (CreationDevoirPage.submit 5).Ends (lecturesPerdues (Server.longest 10) fun _ => none)
        (fun _ _ x => Fidele baseUnParent (fun _ => none) devoirPret x) devoirPret
        (baseUnParent, 0) ↔
      (Publiable devoirPret → ∀ classeId, devoirPret.classeSelectionneeId = some classeId →
        Calculables baseUnParent (fun _ => none) classeId) :=
  destinataires_iff (by decide) baseUnParent (fun _ => none) devoirPret 5

/-- The read of the class is lost: the homework is sent to nobody. -/
theorem devoir_sans_destinataire :
    ¬(CreationDevoirPage.submit 5).Ends
      (lecturesPerdues (Server.longest 10) fun n => if n = 0 then some .unavailable else none)
      (fun _ _ x => Fidele baseUnParent (fun n => if n = 0 then some .unavailable else none)
        devoirPret x) devoirPret (baseUnParent, 0) := by
  intro h
  have hpublie : (CreationDevoirPage.submit 5).Ends
      (lecturesPerdues (Server.longest 10) fun n => if n = 0 then some .unavailable else none)
      (fun _ _ x => ((x.1.doc .devoirs "x").map fun d => strsOf (d .eleveIds)) = some [])
      devoirPret (baseUnParent, 0) := by
    unfold Ends
    decide +kernel
  obtain ⟨d, hd, hvide⟩ := Option.map_eq_some_iff.mp hpublie
  obtain ⟨-, classeId, hc, ids, -, ⟨-, classe, hclasse, hids⟩, heleves, -⟩ :=
    h "x" d (by decide +kernel) hd
  obtain rfl := Option.some.inj hc
  obtain rfl : newDoc 0 [textes .elevesIds ["a"]] = classe := Option.some.inj hclasse
  obtain rfl : ["a"] = ids := Except.ok.inj hids
  rw [heleves, strsOf_strs] at hvide
  cases hvide

end EduConnect.Enseignant
