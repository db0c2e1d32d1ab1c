import EduConnect.Enseignant.Interruptions
import EduConnect.Lib.Stored

/-!
# Who was there

A roll call divides the students of the page into those who are ticked and those who are not, and
`DeposAppel.getAbsencesParEleve` finds it again for the latter.
-/

namespace EduConnect.Enseignant

open Lib Prog Donnees

/-! ## The repository -/

/-- `DeposAppel.getAbsencesParEleve`. -/
def DeposAppel.getAbsencesParEleve {Λ σ : Type} (l : Λ) (eleveId : String) :
    Action Λ σ (List AppelModele) :=
  catching (do
    let docs ← Prog.call l (Req.query .appels
      ⟨[.arrayContains .elevesAbsents eleveId], some (.date, true), none⟩)
    ofExcept (docs.mapM fun doc => AppelModele.fromMap doc.2 doc.1))
    fun e => fail e

section Depot

variable {Λ σ : Type} {S : Server} {b : Base} {l : Λ} {s : σ} {d : Document} {id : String}

/-- Every stored roll call can be decoded. -/
def AppelsLisibles (b : Base) : Prop :=
  ∀ id d, b.doc .appels id = some d → ∃ m, AppelModele.fromMap d id = .ok m

theorem appel_of_fromMap {m : AppelModele} (h : AppelModele.fromMap d id = .ok m) :
    m.id = id ∧ (d .date).isSome := by
  unfold AppelModele.fromMap at h
  obtain ⟨classeId, -, h⟩ := bind_eq_ok_iff.mp h
  obtain ⟨etablissementId, -, h⟩ := bind_eq_ok_iff.mp h
  obtain ⟨matiereId, -, h⟩ := bind_eq_ok_iff.mp h
  obtain ⟨enseignantId, -, h⟩ := bind_eq_ok_iff.mp h
  obtain ⟨presents, -, h⟩ := bind_eq_ok_iff.mp h
  obtain ⟨absents, -, h⟩ := bind_eq_ok_iff.mp h
  obtain ⟨date, hdate, h⟩ := bind_eq_ok_iff.mp h
  obtain ⟨createdAt, -, h⟩ := bind_eq_ok_iff.mp h
  obtain rfl := Except.ok.inj h
  refine ⟨rfl, ?_⟩
  unfold Doc.get at hdate
  cases hd : d .date with
  | none =>
    rw [hd] at hdate
    cases hdate
  | some v => rfl

/-- The repository returns the stored roll calls whose list of absents has the student. -/
theorem exec_getAbsencesParEleve (hb : AppelsLisibles b) (eleveId : String) :
    ∃ ms, (DeposAppel.getAbsencesParEleve l eleveId : Action Λ σ _).exec S.handler s b =
        (.ok ms, s, b) ∧
      ∀ id d, b.doc .appels id = some d →
        ((∃ m ∈ ms, m.id = id) ↔ eleveId ∈ strsOf (d .elevesAbsents)) := by
  have hmem : ∀ {id d}, (id, d) ∈ (⟨[.arrayContains .elevesAbsents eleveId], some (.date, true),
      none⟩ : Query Champ).run (b.docs .appels) ↔
        b.doc .appels id = some d ∧ eleveId ∈ strsOf (d .elevesAbsents) ∧ (d .date).isSome := by
    intro id d
    rw [Query.mem_run_orderBy, List.forall_mem_singleton, Filter.sat_arrayContains]
    rfl
  have hlus : ∀ doc ∈ (⟨[.arrayContains .elevesAbsents eleveId], some (.date, true),
      none⟩ : Query Champ).run (b.docs .appels), ∃ m, AppelModele.fromMap doc.2 doc.1 = .ok m ∧
        True := by
    intro doc hdoc
    obtain ⟨m, hm⟩ := hb doc.1 doc.2 (hmem.mp hdoc).1
    exact ⟨m, hm, trivial⟩
  obtain ⟨ms, hms, -⟩ := exists_mapM_of_forall hlus
  refine ⟨ms, ?_, fun id d hd => ⟨?_, fun habs => ?_⟩⟩
  · have hcall : (Prog.call l (Req.query .appels ⟨[.arrayContains .elevesAbsents eleveId],
        some (.date, true), none⟩) : Action Λ σ _).exec S.handler s b = (.ok _, s, b) :=
      exec_call l (Req.query .appels _ : Requete) s b
    rw [DeposAppel.getAbsencesParEleve, exec_catching]
    simp only [bind_eq]
    rw [exec_bind, hcall]
    simp only [hms]
    rfl
  · rintro ⟨m, hm, rfl⟩
    obtain ⟨⟨id', d'⟩, hdoc, hval⟩ := exists_of_mem_mapM hms hm
    obtain ⟨hd', habs, -⟩ := hmem.mp hdoc
    obtain rfl : m.id = id' := (appel_of_fromMap hval).1
    obtain rfl := Option.some.inj (hd.symm.trans hd')
    exact habs
  · obtain ⟨m, hm⟩ := hb id d hd
    obtain ⟨hid, hdate⟩ := appel_of_fromMap hm
    obtain ⟨m', hm', hval⟩ := exists_mem_of_mapM hms (hmem.mpr ⟨hd, habs, hdate⟩)
    obtain rfl := Except.ok.inj (hm.symm.trans hval)
    exact ⟨m, hm', hid⟩

end Depot

namespace AppelPage

/-! ## A roll call -/

variable {p q : AppelPage} {fs : Champs}

/-- The students of the page, each once, and those who are ticked among them. -/
structure Coherente (p : AppelPage) : Prop where
  ids : (p.eleves.map Eleve.eleveId).Nodup
  presents : p.presents ⊆ p.eleves.map Eleve.eleveId
  nodup : p.presents.Nodup

/-- The document divides the students of the page into those who are ticked and the others, and is
decoded so. -/
structure Partition (p : AppelPage) (fs : Champs) : Prop where
  presents : ∀ now, newDoc now fs .elevesPresents = some (.strs p.presents)
  absents : ∀ now, newDoc now fs .elevesAbsents = some (.strs p.absents)
  nodup_presents : p.presents.Nodup
  nodup_absents : p.absents.Nodup
  disjoints : ∀ e ∈ p.presents, e ∉ p.absents
  tous : ∀ e, e ∈ p.eleves.map Eleve.eleveId ↔ e ∈ p.presents ∨ e ∈ p.absents
  non_coches : ∀ e, e ∈ p.absents ↔ e ∈ p.eleves.map Eleve.eleveId ∧ e ∉ p.presents
  relu : ∀ now id, ∃ m, AppelModele.fromMap (newDoc now fs) id = .ok m ∧ m.id = id ∧
    m.elevesPresents = p.presents ∧ m.elevesAbsents = p.absents

/-- What the page sends is decoded by the model. -/
theorem fromMap_appel (p : AppelPage) (classeId matiereId enseignantId : String) (h : Horloge)
    (now : ℤ) (id : String) :
    AppelModele.fromMap (newDoc now (p.appel classeId matiereId enseignantId h)) id = .ok
      { id := id, classeId := classeId, etablissementId := p.etablissementId
        matiereId := matiereId, enseignantId := enseignantId, elevesPresents := p.presents
        elevesAbsents := p.absents, date := h.appel, createdAt := h.appel } := by
  have hpresents : (newDoc now (p.appel classeId matiereId enseignantId h)).get .elevesPresents =
      .strs p.presents := rfl
  have habsents : (newDoc now (p.appel classeId matiereId enseignantId h)).get .elevesAbsents =
      .strs p.absents := rfl
  simp only [AppelModele.fromMap, hpresents, habsents, Value.orStrs_strs]
  rfl

theorem mem_absents {e : String} :
    e ∈ p.absents ↔ e ∈ p.eleves.map Eleve.eleveId ∧ e ∉ p.presents := by
  rw [absents, List.mem_filter, decide_eq_true_iff]

theorem Coherente.partition (hp : Coherente p) (classeId matiereId enseignantId : String)
    (h : Horloge) : Partition p (p.appel classeId matiereId enseignantId h) := by
  refine ⟨fun _ => rfl, fun _ => rfl, hp.nodup, hp.ids.filter _,
    fun e he habs => (mem_absents.mp habs).2 he, fun e => ⟨fun he => ?_, ?_⟩, fun e => mem_absents, fun now id =>
      ⟨_, fromMap_appel p classeId matiereId enseignantId h now id, rfl, rfl, rfl⟩⟩
  · by_cases hpres : e ∈ p.presents
    · exact Or.inl hpres
    · exact Or.inr (mem_absents.mpr ⟨he, hpres⟩)
  · rintro (he | he)
    · exact hp.presents he
    · exact (mem_absents.mp he).1

/-! ## Each action of the page -/

section Regles

variable {ι : Type} {w w' : List (EchangeAppel ι)} {i : ι} {l : EtapeAppel} {r : Requete}

/-- No roster that was read has a student twice. -/
def RostersSimples (w : List (EchangeAppel ι)) : Prop :=
  ∀ i classeId ids, RosterLu w i classeId ids → ids.Nodup

/-- The page as long as the rosters are simple. -/
def PageCoherente (w : List (EchangeAppel ι)) (_ : ι) (p : AppelPage) : Prop :=
  RostersSimples w → Coherente p

/-- What the page asks for: reads, notifications, and roll calls made of coherent pages. -/
def Demande (w : List (EchangeAppel ι)) (_ : ι) (_ : EtapeAppel) (r : Requete) : Prop :=
  Lecture r ∨ (∃ ds, r = .addAll .notifications ds) ∨
    ∃ p classeId matiereId enseignantId h,
      r = .add .appels (appel p classeId matiereId enseignantId h) ∧ (RostersSimples w → Coherente p)

/-- Nothing more is assumed of an answer. -/
abbrev Toute (_ : List (EchangeAppel ι)) (_ : EchangeAppel ι) (_ : AppelPage) : Prop := True

theorem RostersSimples.of_prefix (hw : w <+: w') (h : RostersSimples w') : RostersSimples w :=
  fun i c ids hlu => h i c ids (hlu.mono hw)

theorem PageCoherente.mono (w w' : List (EchangeAppel ι)) (i : ι) (p : AppelPage) (hw : w <+: w')
    (h : PageCoherente w i p) : PageCoherente w' i p :=
  fun hs => h (hs.of_prefix hw)

theorem Demande.mono (w w' : List (EchangeAppel ι)) (i : ι) (l : EtapeAppel) (r : Requete)
    (hw : w <+: w') (h : Demande w i l r) : Demande w' i l r := by
  rcases h with h | h | ⟨p, c, m, e, horloge, hr, hp⟩
  · exact Or.inl h
  · exact Or.inr (Or.inl h)
  · exact Or.inr (Or.inr ⟨p, c, m, e, horloge, hr, fun hs => hp (hs.of_prefix hw)⟩)

theorem Coherente.congr (h : Coherente p) (he : q.eleves = p.eleves) (hp : q.presents = p.presents) :
    Coherente q := by
  obtain ⟨hids, hsub, hnodup⟩ := h
  rw [← he] at hids hsub
  rw [← hp] at hsub hnodup
  exact ⟨hids, hsub, hnodup⟩

/-- A list of students of which none is ticked. -/
theorem coherente_of_vide (hids : (p.eleves.map Eleve.eleveId).Nodup) (hp : p.presents = []) :
    Coherente p := by
  refine ⟨hids, ?_, ?_⟩ <;> rw [hp]
  · exact List.nil_subset _
  · exact List.nodup_nil

theorem Coherente.cocher (h : Coherente p) {id : String} (hid : id ∈ p.eleves.map Eleve.eleveId) :
    Coherente { p with
      presents := if id ∈ p.presents then p.presents.filter (· ≠ id) else p.presents ++ [id] } := by
  by_cases hin : id ∈ p.presents
  · simp only [if_pos hin]
    exact ⟨h.ids, List.Subset.trans List.filter_sublist.subset h.presents, h.nodup.filter _⟩
  · simp only [if_neg hin]
    refine ⟨h.ids, List.append_subset.mpr ⟨h.presents, by simpa using hid⟩, ?_⟩
    refine List.nodup_append.mpr ⟨h.nodup, List.nodup_singleton _, fun a ha b hb => ?_⟩
    rintro rfl
    exact hin (List.mem_singleton.mp hb ▸ ha)

theorem Coherente.toutCocher (h : Coherente p) :
    Coherente { p with presents := (p.eleves.map Eleve.eleveId).eraseDups } :=
  ⟨h.ids, fun _ he => List.mem_eraseDups.mp he, nodup_eraseDups _⟩

/-- The rule of the page of `i`. -/
abbrev Suit {α : Type} (i : ι) (Q : Except Err α → List (EchangeAppel ι) → AppelPage → Prop)
    (p : Action EtapeAppel AppelPage α) (w : List (EchangeAppel ι)) (s : AppelPage) : Prop :=
  p.Ok PageCoherente Demande Toute i Q w s

theorem suit_chargerEleves (classeId : String) (h : PageCoherente w i p) :
    Suit i (fun _ v x => PageCoherente v i x) (chargerEleves classeId) w p := by
  unfold chargerEleves
  simp only [bind_eq]
  refine ok_bind.mpr (ok_lireDoc h (Or.inl trivial) h ?_)
  rintro (e | doc) w₁ s₁ - hmem h₁
  · exact h₁
  refine ok_bind.mpr (ok_ofExcept.mpr ?_)
  rcases hids : elevesIds doc with e | ids
  · exact h₁
  refine ok_bind.mpr ((ok_chargerTous ids (fun _ _ _ => Or.inl trivial) h₁).mono ?_)
  rintro (e | results) w₂ s₂ ⟨hw₂, h₂, hsub⟩
  · exact h₂
  refine ok_call_bind.mpr ⟨h₂, Or.inl trivial, ?_⟩
  rintro (e | u) w₃ s₃ hw₃ - h₃ -
  · exact h₃
  refine ok_setState_ret.mpr fun hs => coherente_of_vide ?_ rfl
  -- the students are in the order of a roster that was read
  have hlu : RosterLu w₃ i classeId ids := ⟨doc, (hw₂.trans hw₃).subset hmem, hids⟩
  exact (hs i classeId ids hlu).sublist (hsub results rfl)

theorem suit_notifier (absents : List String) (horloge : Horloge) (h : PageCoherente w i p) :
    Suit i (fun _ v x => PageCoherente v i x) (notifier absents horloge) w p := by
  unfold notifier
  by_cases habs : absents = []
  · rw [if_pos habs]
    exact ok_ret.mpr h
  rw [if_neg habs]
  refine ok_call_bind.mpr ⟨h, Or.inl trivial, ?_⟩
  rintro (e | familles) w' s' - - h' -
  · exact h'
  refine ok_page.mpr (ok_bind.mpr (ok_ofExcept.mpr ?_))
  rcases List.mapM (s'.notification horloge) familles with e | notifs
  · exact h'
  refine ok_catching.mpr ((ok_call (r := Req.addAll .notifications
    (notifs.map NotificationModele.toMap))).mpr ⟨h', Or.inr (Or.inl ⟨_, rfl⟩), ?_⟩)
  rintro (e | u) w'' s'' - - h'' -
  · exact ok_fail.mpr h''
  · exact h''

theorem suit_enregistrerAppel (horloge : Horloge) (h : PageCoherente w i p) :
    Suit i (fun _ v x => PageCoherente v i x) (enregistrerAppel horloge) w p := by
  unfold enregistrerAppel
  refine ok_page.mpr ?_
  rcases p.classeChoisieId with _ | classeId
  · exact ok_ret.mpr h
  rcases p.matiereChoisieId with _ | matiereId
  · exact ok_ret.mpr h
  rcases p.enseignantId with _ | enseignantId
  · exact ok_ret.mpr h
  have hsaving : PageCoherente w i (sur (fun c => { c with saving := true }) p) :=
    fun hs => (h hs).congr rfl rfl
  refine ok_setState.mpr (ok_call_bind.mpr
    ⟨hsaving, Or.inr (Or.inr ⟨p, classeId, matiereId, enseignantId, horloge, rfl, h⟩), ?_⟩)
  rintro (e | id) w' s' - - h' -
  · exact h'
  refine ok_bind.mpr ((suit_notifier p.absents horloge h').mono ?_)
  rintro (e | u) w'' s'' h''
  · exact h''
  · exact ok_setState_ret.mpr fun _ => coherente_of_vide List.nodup_nil rfl

theorem suit_on {ev : Evenement} {prog : Action EtapeAppel AppelPage Unit}
    (hp : p.on ev = some prog) (h : PageCoherente w i p) :
    Suit i (fun _ v x => PageCoherente v i x) prog w p := by
  have hsur : ∀ w f, Choix.Remplit f → ∀ s : AppelPage, PageCoherente w i s →
      PageCoherente w i (sur f s) := fun w f _ s hs hw => (hs hw).congr rfl rfl
  have hlit : ∀ (w : List (EchangeAppel ι)) (l : EtapeAppel) r, Choix.Lit .choix l r →
      Demande w i l r := fun w l r hr => Or.inl hr.2
  rcases ev with _ | n | n | n | _ | _ | horloge
  · obtain rfl := Option.some.inj hp
    refine Keeps.ok (fun w => ?_) ?_ hlit h
    · exact Choix.keeps_initData (fun f hf => hsur w f hf.1) _ _ (keeps_ret _) fun _ =>
        (keeps_setState _).mpr (hsur w _ fun c => ⟨rfl, rfl, rfl⟩)
    · refine Choix.issues_initData _ _ ?_ fun e => ?_ <;> trivial
  all_goals
    unfold on at hp
    dsimp only at hp
    split_ifs at hp
  · obtain ⟨c, -, rfl⟩ := Option.map_eq_some_iff.mp hp
    refine ok_setState.mpr (Keeps.ok (fun w => ?_) (Choix.issues_chargerMatieres _ _) hlit
      fun _ => coherente_of_vide List.nodup_nil rfl)
    exact Choix.keeps_chargerMatieres (fun f hf => hsur w f hf.1) _ _
  · obtain ⟨c, -, hm⟩ := Option.bind_eq_some_iff.mp hp
    obtain ⟨m, -, rfl⟩ := Option.map_eq_some_iff.mp hm
    exact ok_setState.mpr (suit_chargerEleves c fun _ => coherente_of_vide List.nodup_nil rfl)
  · obtain ⟨e, he, rfl⟩ := Option.map_eq_some_iff.mp hp
    have hid : e.eleveId ∈ p.eleves.map Eleve.eleveId := List.mem_map_of_mem (List.mem_of_getElem? he)
    exact ok_setState_ret.mpr fun hs => (h hs).cocher hid
  · obtain rfl := Option.some.inj hp
    exact ok_setState_ret.mpr fun hs => (h hs).toutCocher
  · obtain rfl := Option.some.inj hp
    exact ok_setState_ret.mpr fun hs => coherente_of_vide (h hs).ids rfl
  · obtain rfl := Option.some.inj hp
    exact suit_enregistrerAppel horloge h

end Regles

end AppelPage

/-! ## Runs -/

section Runs

open AppelPage

variable {ι : Type} {S : Server} {s s' : SystemeAppel ι} {n : ℕ}

/-- The roll call an exchange has added, and its id. -/
def ecriture : EchangeAppel ι → Option (Champs × String)
  | ⟨_, _, .add .appels fs, .ok id⟩ => some (fs, id)
  | _ => none

theorem of_ecriture {x : EchangeAppel ι} {fs : Champs} {id : String}
    (h : ecriture x = some (fs, id)) : x.req = .add .appels fs ∧ ∀ e, x.ans ≠ .error e := by
  unfold ecriture at h
  split at h
  · cases h
    exact ⟨rfl, nofun⟩
  · cases h

/-- The roll calls are stored as they were sent, and all of them can be read. -/
structure Gardes (s : SystemeAppel ι) : Prop where
  lisibles : AppelsLisibles s.base
  stockes : ∀ x ∈ s.log, ∀ fs id, ecriture x = some (fs, id) →
    ∃ now, s.base.doc .appels id = some (newDoc now fs)

/-- What holds of the ticks, of what is sent and of what is stored. -/
structure Releve (S : Server) (s : SystemeAppel ι) : Prop where
  coches : ∀ i, (s.pages i).presents ⊆ (s.pages i).eleves.map Eleve.eleveId
  /-- What is sent when the button is pressed now. -/
  envoi : ∀ i h, ∀ t ∈ ((enregistrerAppel h).seg i (s.pages i)).2,
    ∃ fs, t.req = .add .appels fs ∧ Partition (s.pages i) fs
  /-- What was sent is a partition and comes back for the absents, now. -/
  relu : ∀ x ∈ s.log, ∀ fs id, ecriture x = some (fs, id) → (∃ p, Partition p fs) ∧
    ∀ p, Partition p fs → ∀ e, ∃ ms, (DeposAppel.getAbsencesParEleve () e :
        Action Unit Unit _).exec S.handler () s.base = (.ok ms, (), s.base) ∧
      ((∃ m ∈ ms, m.id = id) ↔ e ∈ p.eleves.map Eleve.eleveId ∧ e ∉ p.presents)

/-- Nobody else changes the roll calls. -/
def AppelsIntacts (s : SystemeAppel ι) : Act ι Evenement Base → Prop
  | .other b => b.docs .appels = s.base.docs .appels
  | _ => True

theorem Releve.of_invariants (h : s.Ok PageCoherente Demande Toute) (hg : Gardes s)
    (hs : RostersSimples s.log) : Releve S s := by
  refine ⟨fun i => (h.page i hs).presents, fun i horloge t ht => ?_, fun x hx fs id hxe => ?_⟩
  · rcases seg_enregistrerAppel_cases horloge i (s.pages i) with hseg | ⟨c, m, e, hseg⟩
    · rw [hseg] at ht
      cases ht
    · rw [hseg] at ht
      obtain rfl := Option.some.inj ht
      exact ⟨_, rfl, (h.page i hs).partition c m e horloge⟩
  · obtain ⟨now, hdoc⟩ := hg.stockes x hx fs id hxe
    refine ⟨?_, fun p hp e => ?_⟩
    · rcases h.sent x hx with hr | ⟨ds, hr⟩ | ⟨p, c, m, e, horloge, hr, hp⟩
      · rw [(of_ecriture hxe).1] at hr
        exact hr.elim
      · rw [(of_ecriture hxe).1] at hr
        cases hr
      · rw [(of_ecriture hxe).1] at hr
        obtain rfl : fs = p.appel c m e horloge := by
          cases hr
          rfl
        exact ⟨p, (hp hs).partition c m e horloge⟩
    · obtain ⟨ms, hms, hmem⟩ := exec_getAbsencesParEleve (S := S) (l := ()) (s := ()) hg.lisibles e
      refine ⟨ms, hms, (hmem id _ hdoc).trans ?_⟩
      rw [hp.absents now, strsOf_strs]
      exact hp.non_coches e

/-- What is served keeps the roll calls. -/
theorem Gardes.serve (hg : Gardes s) {t : Task ι EtapeAppel Requete Req.Ans Err AppelPage}
    (hd : Demande s.log t.who t.lab t.req) :
    Gardes { s.answer n t (S.handler t.req s.base).1 with base := (S.handler t.req s.base).2 } := by
  obtain ⟨who, lab, req, k, ans⟩ := t
  have hancien : ∀ {b' : Base} {x : EchangeAppel ι}, (∀ id d, s.base.doc .appels id = some d →
      b'.doc .appels id = some d) → (∀ fs id, ecriture x = some (fs, id) →
        ∃ now, b'.doc .appels id = some (newDoc now fs)) → ∀ y ∈ s.log ++ [x], ∀ fs id,
          ecriture y = some (fs, id) → ∃ now, b'.doc .appels id = some (newDoc now fs) := by
    intro b' x hb hx y hy fs id hye
    rcases List.mem_append.mp hy with hy | hy
    · obtain ⟨now, hdoc⟩ := hg.stockes y hy fs id hye
      exact ⟨now, hb id _ hdoc⟩
    · rw [List.mem_singleton.mp hy] at hye
      exact hx fs id hye
  -- a request that is no roll call leaves the collection
  have hautre : req.Avoids .appels → (∀ fs, req ≠ .add .appels fs) → Gardes
      { s.answer n ⟨who, lab, req, k, ans⟩ (S.handler req s.base).1 with
        base := (S.handler req s.base).2 } := by
    intro havoids hne
    have hdoc : ∀ id, (S.handler req s.base).2.doc .appels id = s.base.doc .appels id :=
      fun id => congrArg (fun t => t.find id) (docs_handler_of_avoids havoids)
    refine ⟨fun id d hd => hg.lisibles id d ((hdoc id).symm.trans hd),
      hancien (fun id d hd => (hdoc id).trans hd) fun fs id hx => ?_⟩
    exact absurd (of_ecriture hx).1 (hne fs)
  rcases hd with hr | ⟨ds, rfl⟩ | ⟨p, c, m, e, horloge, rfl, -⟩
  · refine hautre ?_ fun fs hfs => ?_
    · cases req <;> trivial
    · have hr : Lecture req := hr
      rw [hfs] at hr
      exact hr
  · exact hautre (fun h => by cases h) fun fs hfs => by cases hfs
  · have hdoc : ∀ id, (S.addDoc .appels s.base (p.appel c m e horloge)).doc .appels id =
        if id = S.newDocId s.base .appels then some (newDoc s.base.clock (p.appel c m e horloge))
        else s.base.doc .appels id := by
      intro id
      show (Data.putDoc s.base .appels _ _).doc .appels id = _
      rw [Data.doc_putDoc]
      simp only [true_and]
    refine ⟨fun id d hd => ?_, hancien (fun id d hd => ?_) fun fs id hx => ?_⟩
    · have hd : (S.addDoc .appels s.base (p.appel c m e horloge)).doc .appels id = some d := hd
      rw [hdoc] at hd
      by_cases hid : id = S.newDocId s.base .appels
      · rw [if_pos hid] at hd
        obtain rfl := Option.some.inj hd
        exact ⟨_, fromMap_appel p c m e horloge _ id⟩
      · rw [if_neg hid] at hd
        exact hg.lisibles id d hd
    · have hne : id ≠ S.newDocId s.base .appels := by
        rintro rfl
        rw [S.doc_newDocId] at hd
        cases hd
      exact (hdoc id).trans ((if_neg hne).trans hd)
    · have hx : some (p.appel c m e horloge, S.newDocId s.base .appels) = some (fs, id) := hx
      obtain ⟨rfl, rfl⟩ := Prod.mk.inj (Option.some.inj hx)
      exact ⟨s.base.clock, (hdoc _).trans (if_pos rfl)⟩

variable [DecidableEq ι]

theorem Gardes.step (hg : Gardes s) (h : s.Ok PageCoherente Demande Toute)
    {a : Act ι Evenement Base} (ha : AppelsIntacts s a) (hs : s.step (appels ι S) a = some s') :
    Gardes s' := by
  cases Sys.step_cases hs with
  | event _ => exact ⟨hg.lisibles, hg.stockes⟩
  | serve ht _ => exact hg.serve (h.task _ (List.mem_of_getElem? ht)).issued
  | @lose n t ht hans =>
    refine ⟨hg.lisibles, fun x hx fs id hxe => ?_⟩
    rcases List.mem_append.mp hx with hx | hx
    · exact hg.stockes x hx fs id hxe
    · rw [List.mem_singleton.mp hx] at hxe
      exact absurd rfl ((of_ecriture hxe).2 _)
  | resume _ _ => exact ⟨hg.lisibles, hg.stockes⟩
  | other b =>
    have hdoc : ∀ id, b.doc .appels id = s.base.doc .appels id :=
      fun id => congrArg (fun t => t.find id) ha
    refine ⟨fun id d hd => hg.lisibles id d ((hdoc id).symm.trans hd), fun x hx fs id hxe => ?_⟩
    obtain ⟨now, hd⟩ := hg.stockes x hx fs id hxe
    exact ⟨now, (hdoc id).trans hd⟩

/-- **A roll call is a partition of the students, and comes back for the absents.**  In every run of
roll-call pages in which nobody else changes the roll calls, as long as no roster that was read has a
student twice: what is ticked is among the students, what is sent divides them, and what was sent is
returned to those who were not ticked. -/
theorem releve_run (S : Server) {b : Base} (hb : AppelsLisibles b) {pages : ι → AppelPage}
    (hp : ∀ i, Coherente (pages i)) {as : List (Act ι Evenement Base)}
    (has : AllMeet (Sys.step (appels ι S)) AppelsIntacts (Sys.init b pages) as) :
    Always (Sys.step (appels ι S)) (fun s => RostersSimples s.log → Releve S s)
      (Sys.init b pages) as := by
  have hstart : (Sys.init b pages : SystemeAppel ι).Ok PageCoherente Demande Toute ∧
      Gardes (Sys.init b pages : SystemeAppel ι) :=
    ⟨Sys.Ok.init (fun i _ => hp i) b, hb, fun x hx => absurd hx List.not_mem_nil⟩
  have hstep : ∀ s a s', s.Ok PageCoherente Demande Toute ∧ Gardes s → AppelsIntacts s a →
      s.step (appels ι S) a = some s' → s'.Ok PageCoherente Demande Toute ∧ Gardes s' := by
    rintro s a s' ⟨h, hg⟩ ha hs
    refine ⟨h.step (appels ι S) PageCoherente.mono Demande.mono
      (fun w i ev s p hp hI => suit_on hp hI) ?_ hs, hg.step h ha hs⟩
    cases a with
    | resume n => exact fun _ _ _ _ => trivial
    | _ => trivial
  exact (always_of_allMeet hstep hstart has).mono fun s h hs => .of_invariants h.1 h.2 hs

end Runs

/-- A test that an action is not one of somebody else. -/
def deLaPage : Act Unit Evenement Base → Bool
  | .other _ => false
  | _ => true

/-- The roll call of one absent student is stored and comes back. -/
theorem releve_run_unAbsent : Always (Sys.step (appels Unit (Server.longest 10)))
    (fun s => AppelPage.RostersSimples s.log → Releve (Server.longest 10) s)
    (Sys.init baseVide fun _ => pageUnAbsent) (appelUnAbsent false) :=
  releve_run (Server.longest 10) (fun _ _ hd => by cases hd)
    (fun _ => AppelPage.coherente_of_vide (by decide) rfl)
    (allMeet_of_checkAll (fun _ => deLaPage) (fun _ a ha => by
      cases a with
      | other e => cases ha
      | _ => trivial) (by decide +kernel))

end EduConnect.Enseignant
