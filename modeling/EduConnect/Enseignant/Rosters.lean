import EduConnect.Enseignant.Appel

/-!
# Roll calls and rosters

Whether a stored roll call is about students of the class it names.  The list on the page belongs to
the class chosen as long as no load of another class comes in.
-/

namespace EduConnect.Enseignant

open Lib Prog

section Rosters

variable {ι : Type}

abbrev EchangeAppel (ι : Type) := Exchange ι EtapeAppel Requete Req.Ans Err

/-- `_chargerEleves` on the page of `i` read the roster `ids` of a class. -/
def RosterLu (w : List (EchangeAppel ι)) (i : ι) (classeId : String) (ids : List String) : Prop :=
  ∃ doc : Option Document,
    (⟨i, .roster classeId, .get .classes classeId, .ok doc⟩ : EchangeAppel ι) ∈ w ∧
      AppelPage.elevesIds doc = .ok ids

/-- The students of a roll call are on a roster, as read, of the class it names. -/
def AppelExact (w : List (EchangeAppel ι)) (i : ι) (r : Requete) : Prop :=
  ∀ fs, r = .add .appels fs → ∃ classeId ids, newDoc 0 fs .classeId = some (.str classeId) ∧
    RosterLu w i classeId ids ∧ strsOf (newDoc 0 fs .elevesPresents) ⊆ ids ∧
    strsOf (newDoc 0 fs .elevesAbsents) ⊆ ids

/-- The students on the page are on a roster, as read, of the class chosen. -/
structure ListeExacte (w : List (EchangeAppel ι)) (i : ι) (p : AppelPage) : Prop where
  presents : p.presents ⊆ p.eleves.map Eleve.eleveId
  roster : ∀ classeId, p.classeChoisieId = some classeId → p.eleves ≠ [] →
    ∃ ids, RosterLu w i classeId ids ∧ p.eleves.map Eleve.eleveId ⊆ ids

/-- No other class is chosen when the students of a class arrive. -/
def ClasseInchangee (_ : List (EchangeAppel ι)) (x : EchangeAppel ι) (p : AppelPage) : Prop :=
  ∀ classeId, x.lab = .attente classeId →
    p.classeChoisieId = none ∨ p.classeChoisieId = some classeId

theorem RosterLu.mono {w w' : List (EchangeAppel ι)} (hw : w <+: w') {i : ι} {classeId : String}
    {ids : List String} (h : RosterLu w i classeId ids) : RosterLu w' i classeId ids := by
  obtain ⟨doc, hmem, hids⟩ := h
  exact ⟨doc, hw.subset hmem, hids⟩

theorem ListeExacte.mono (w w' : List (EchangeAppel ι)) (i : ι) (p : AppelPage) (hw : w <+: w')
    (h : ListeExacte w i p) : ListeExacte w' i p := by
  refine ⟨h.presents, fun c hc hne => ?_⟩
  obtain ⟨ids, hlu, hsub⟩ := h.roster c hc hne
  exact ⟨ids, hlu.mono hw, hsub⟩

theorem AppelExact.mono (w w' : List (EchangeAppel ι)) (i : ι) (_ : EtapeAppel) (r : Requete)
    (hw : w <+: w') (h : AppelExact w i r) : AppelExact w' i r := by
  intro fs hfs
  obtain ⟨c, ids, hc, hlu, hp, ha⟩ := h fs hfs
  exact ⟨c, ids, hc, hlu.mono hw, hp, ha⟩

/-- A page without students. -/
theorem ListeExacte.vide {w : List (EchangeAppel ι)} {i : ι} {p : AppelPage} (he : p.eleves = [])
    (hp : p.presents = []) : ListeExacte w i p := by
  refine ⟨?_, fun c _ hne => absurd he hne⟩
  rw [hp]
  exact List.nil_subset _

/-- An update of the presents that keeps them among the students. -/
theorem ListeExacte.pointer {w : List (EchangeAppel ι)} {i : ι} {p : AppelPage}
    (h : ListeExacte w i p) {l : List String} (hl : l ⊆ p.eleves.map Eleve.eleveId) :
    ListeExacte w i { p with presents := l } :=
  ⟨hl, h.roster⟩

/-- An update that keeps the class chosen, the students and the presents. -/
theorem ListeExacte.congr {w : List (EchangeAppel ι)} {i : ι} {p q : AppelPage}
    (h : ListeExacte w i p) (hc : q.classeChoisieId = p.classeChoisieId)
    (he : q.eleves = p.eleves) (hp : q.presents = p.presents) : ListeExacte w i q := by
  refine ⟨?_, ?_⟩
  · rw [he, hp]
    exact h.presents
  · rw [hc, he]
    exact h.roster

/-! ## Each action of the page -/

namespace AppelPage

/-- The rule of the page of `i`. -/
abbrev Regle {α : Type} (i : ι)
    (Q : Except Err α → List (EchangeAppel ι) → AppelPage → Prop)
    (p : Action EtapeAppel AppelPage α) (w : List (EchangeAppel ι)) (s : AppelPage) : Prop :=
  p.Ok ListeExacte (fun w i _ r => AppelExact w i r) ClasseInchangee i Q w s

variable {w : List (EchangeAppel ι)} {i : ι} {s : AppelPage}

theorem exact_of_lecture {l : EtapeAppel} (w : List (EchangeAppel ι)) (l' : EtapeAppel)
    (r : Requete) (h : Choix.Lit l l' r) : AppelExact w i r := by
  rintro fs rfl
  exact h.2.elim

theorem exacte_sur {f : Choix → Choix} (hf : Choix.Remplit f) (p : AppelPage)
    (h : ListeExacte w i p) : ListeExacte w i (sur f p) :=
  h.congr (hf p.toChoix).1 rfl rfl

/-! The load of the students, under any rule that lets it read. -/

section Charge

variable {I : List (EchangeAppel ι) → ι → AppelPage → Prop}
  {G : List (EchangeAppel ι) → ι → EtapeAppel → Requete → Prop}
  {C : List (EchangeAppel ι) → EchangeAppel ι → AppelPage → Prop} {classeId : String}

/-- One student is loaded: the record is about the student asked for. -/
theorem ok_chargerEleve {id : String} (hread : ∀ v c x, G v i (.eleve classeId) (.get c x))
    (h : I w i s) : (chargerEleve classeId id).Ok I G C i (fun a v x => w <+: v ∧ I v i x ∧
      ∀ e, a = .ok (some e) → e.eleveId = id) w s := by
  unfold chargerEleve
  simp only [bind_eq]
  refine ok_bind.mpr (ok_lireDoc h (hread _ _ _) ⟨List.prefix_refl w, h, fun e he => by cases he⟩ ?_)
  rintro (e | _ | eDoc) w' s' hw - hI
  · exact ⟨hw, hI, fun e he => by cases he⟩
  · exact ok_ret.mpr ⟨hw, hI, fun e he => by cases he⟩
  refine ok_bind.mpr (ok_ofExcept.mpr ?_)
  rcases (eDoc.field .utilisateurId).bind reference with e | _ | uId
  · exact ⟨hw, hI, fun e he => by cases he⟩
  · exact ok_ret.mpr ⟨hw, hI, fun e he => by cases he⟩
  refine ok_call_bind.mpr ⟨hI, hread _ _ _, ?_⟩
  rintro (e | _ | uDoc) w'' s'' hw' - hI' -
  · exact ⟨hw.trans hw', hI', fun e he => by cases he⟩
  · exact ok_ret.mpr ⟨hw.trans hw', hI', fun e he => by cases he⟩
  have hfin : ∀ {a : Except Err (Option Eleve)}, (∀ e, a = .ok (some e) → e.eleveId = id) →
      w <+: w'' ∧ I w'' i s'' ∧ ∀ e, a = .ok (some e) → e.eleveId = id :=
    fun ha => ⟨hw.trans hw', hI', ha⟩
  refine ok_bind.mpr (ok_ofExcept.mpr ?_)
  rcases uDoc.field .prenom with e | prenom
  · exact hfin fun e he => by cases he
  refine ok_bind.mpr (ok_ofExcept.mpr ?_)
  rcases uDoc.field .nom with e | nom
  · exact hfin fun e he => by cases he
  refine ok_bind.mpr (ok_ofExcept.mpr ?_)
  rcases uDoc.field .photo with e | photo
  · exact hfin fun e he => by cases he
  · refine ok_ret.mpr (hfin fun e he => ?_)
    cases he
    rfl

/-- The records are about students of the roster, in its order. -/
theorem ok_chargerTous (l : List String) (hread : ∀ v c x, G v i (.eleve classeId) (.get c x))
    (h : I w i s) : (chargerTous classeId l).Ok I G C i (fun a v x => w <+: v ∧ I v i x ∧
      ∀ results, a = .ok results → (results.reduceOption.map Eleve.eleveId).Sublist l) w s := by
  induction l generalizing w s with
  | nil =>
    refine ok_ret.mpr ⟨List.prefix_refl w, h, fun results hr => ?_⟩
    cases hr
    exact List.Sublist.refl _
  | cons id l ih =>
    refine ok_bind.mpr ((ok_chargerEleve hread h).mono ?_)
    rintro (e | eleve) w' s' ⟨hw, hI, hid⟩
    · exact ⟨hw, hI, fun results hr => by cases hr⟩
    refine ok_bind.mpr ((ih hI).mono ?_)
    rintro (e | results) w'' s'' ⟨hw', hI', hsub⟩
    · exact ⟨hw.trans hw', hI', fun results hr => by cases hr⟩
    refine ok_ret.mpr ⟨hw.trans hw', hI', fun all hall => ?_⟩
    cases hall
    have hrest := hsub results rfl
    rcases eleve with _ | e
    · exact hrest.trans (List.sublist_cons_self _ _)
    · show (e.eleveId :: results.reduceOption.map Eleve.eleveId).Sublist (id :: l)
      rw [hid e rfl]
      exact hrest.cons_cons id

end Charge

theorem regle_chargerEleves (classeId : String) (h : ListeExacte w i s) :
    Regle i (fun _ v x => ListeExacte v i x) (chargerEleves classeId) w s := by
  have hread : ∀ {v c x}, AppelExact v i (.get c x) := by
    intro v c x fs hfs
    cases hfs
  unfold chargerEleves
  simp only [bind_eq]
  refine ok_bind.mpr (ok_lireDoc h hread h ?_)
  rintro (e | doc) w₁ s₁ - hmem h₁
  · exact h₁
  refine ok_bind.mpr (ok_ofExcept.mpr ?_)
  rcases hids : elevesIds doc with e | ids
  · exact h₁
  have hlu : RosterLu w₁ i classeId ids := ⟨doc, hmem, hids⟩
  refine ok_bind.mpr ((ok_chargerTous ids (fun _ _ _ => hread) h₁).mono ?_)
  rintro (e | results) w₂ s₂ ⟨hw₂, h₂, hsub⟩
  · exact h₂
  have hpause : AppelExact w₂ i .pause := fun fs hfs => by cases hfs
  refine ok_call_bind.mpr ⟨h₂, hpause, ?_⟩
  rintro (e | u) w₃ s₃ hw - h₃ hC
  · exact h₃
  refine ok_setState_ret.mpr ⟨List.nil_subset _, fun c hc _ => ?_⟩
  -- the class chosen is the one that was loaded
  have hsame : c = classeId := by
    rcases hC classeId rfl with hnone | hsome
    · rw [hnone] at hc
      cases hc
    · exact Option.some.inj (hc.symm.trans hsome)
  subst hsame
  exact ⟨ids, hlu.mono (hw₂.trans hw), (hsub results rfl).subset⟩

theorem regle_notifier (absents : List String) (horloge : Horloge) (h : ListeExacte w i s) :
    Regle i (fun _ v x => ListeExacte v i x) (notifier absents horloge) w s := by
  unfold notifier
  by_cases habs : absents = []
  · rw [if_pos habs]
    exact ok_ret.mpr h
  rw [if_neg habs]
  have hread : AppelExact w i (.query .famille ⟨[.whereIn .eleveId absents], none, none⟩) :=
    fun fs hfs => by cases hfs
  refine ok_call_bind.mpr ⟨h, hread, ?_⟩
  rintro (e | familles) w' s' - - h' -
  · exact h'
  refine ok_page.mpr (ok_bind.mpr (ok_ofExcept.mpr ?_))
  rcases List.mapM (s'.notification horloge) familles with e | notifs
  · exact h'
  have hadd : AppelExact w' i (.addAll .notifications (notifs.map NotificationModele.toMap)) :=
    fun fs hfs => by cases hfs
  refine ok_catching.mpr ((ok_call (r := Req.addAll .notifications
    (notifs.map NotificationModele.toMap))).mpr ⟨h', hadd, ?_⟩)
  rintro (e | u) w'' s'' - - h'' -
  · exact ok_fail.mpr h''
  · exact h''

/-- The document added speaks of the page as it was when the button was pressed. -/
theorem exact_appel (h : ListeExacte w i s) {classeId : String} (hc : s.classeChoisieId = some classeId)
    (hne : s.eleves ≠ []) (matiereId enseignantId : String) (horloge : Horloge) :
    AppelExact w i (.add .appels (s.appel classeId matiereId enseignantId horloge)) := by
  rintro fs hfs
  obtain rfl : s.appel classeId matiereId enseignantId horloge = fs := by
    cases hfs
    rfl
  obtain ⟨ids, hlu, hsub⟩ := h.roster classeId hc hne
  refine ⟨classeId, ids, rfl, hlu, ?_, ?_⟩
  · have hpres : strsOf (newDoc 0 (s.appel classeId matiereId enseignantId horloge) .elevesPresents)
        = s.presents := strsOf_strs _
    rw [hpres]
    exact List.Subset.trans h.presents hsub
  · have habs : strsOf (newDoc 0 (s.appel classeId matiereId enseignantId horloge) .elevesAbsents)
        = s.absents := strsOf_strs _
    rw [habs]
    exact List.Subset.trans List.filter_sublist.subset hsub

theorem regle_enregistrer (horloge : Horloge) (hne : s.eleves ≠ []) (h : ListeExacte w i s) :
    Regle i (fun _ v x => ListeExacte v i x) (enregistrerAppel horloge) w s := by
  unfold enregistrerAppel
  refine ok_page.mpr ?_
  rcases hc : s.classeChoisieId with _ | classeId
  · exact ok_ret.mpr h
  rcases s.matiereChoisieId with _ | matiereId
  · exact ok_ret.mpr h
  rcases s.enseignantId with _ | enseignantId
  · exact ok_ret.mpr h
  have hsaving : ListeExacte w i (sur (fun c => { c with saving := true }) s) := h.congr rfl rfl rfl
  refine ok_setState.mpr (ok_call_bind.mpr ⟨hsaving, exact_appel h hc hne _ _ _, ?_⟩)
  rintro (e | id) w' s' - - h' -
  · exact h'
  refine ok_bind.mpr ((regle_notifier s.absents horloge h').mono ?_)
  rintro (e | u) w'' s'' h''
  · exact h''
  · exact ok_setState_ret.mpr (.vide rfl rfl)

/-- Every action of the page follows the rule. -/
theorem regle_on {ev : Evenement} {p : Action EtapeAppel AppelPage Unit} (hp : s.on ev = some p)
    (h : ListeExacte w i s) : Regle i (fun _ v x => ListeExacte v i x) p w s := by
  rcases ev with _ | n | n | n | _ | _ | horloge
  · obtain rfl := Option.some.inj hp
    refine Keeps.ok (fun w => ?_) ?_ (exact_of_lecture (l := .choix)) h
    · exact Choix.keeps_initData (fun f hf s hs => exacte_sur hf.1 s hs) _ _ (keeps_ret _)
        fun e => (keeps_setState _).mpr fun s hs => hs.congr rfl rfl rfl
    · refine Choix.issues_initData _ _ ?_ fun e => ?_ <;> trivial
  all_goals
    unfold on at hp
    dsimp only at hp
    split_ifs at hp
  · obtain ⟨c, -, rfl⟩ := Option.map_eq_some_iff.mp hp
    refine ok_setState.mpr (Keeps.ok (fun w => ?_) (Choix.issues_chargerMatieres _ _)
      (exact_of_lecture (l := .choix)) (.vide rfl rfl))
    exact Choix.keeps_chargerMatieres (fun f hf s hs => exacte_sur hf.1 s hs) _ _
  · obtain ⟨c, -, hm⟩ := Option.bind_eq_some_iff.mp hp
    obtain ⟨m, -, rfl⟩ := Option.map_eq_some_iff.mp hm
    exact ok_setState.mpr (regle_chargerEleves c (.vide rfl rfl))
  · obtain ⟨e, he, rfl⟩ := Option.map_eq_some_iff.mp hp
    refine ok_setState_ret.mpr (h.pointer ?_)
    have hid : e.eleveId ∈ s.eleves.map Eleve.eleveId := List.mem_map_of_mem (List.mem_of_getElem? he)
    split_ifs
    · exact List.Subset.trans List.filter_sublist.subset h.presents
    · exact List.append_subset.mpr ⟨h.presents, by simpa using hid⟩
  · obtain rfl := Option.some.inj hp
    refine ok_setState_ret.mpr (h.pointer fun x hx => ?_)
    exact List.mem_eraseDups.mp hx
  · obtain rfl := Option.some.inj hp
    exact ok_setState_ret.mpr (h.pointer (List.nil_subset _))
  · obtain rfl := Option.some.inj hp
    have hne : s.eleves ≠ [] := fun he => by simp_all
    exact regle_enregistrer horloge hne h

end AppelPage

/-! ## Runs -/

abbrev SystemeAppel (ι : Type) := Sys ι EtapeAppel Requete Req.Ans Err AppelPage Base

/-- The roll-call pages of any number of teachers on the server `S`. -/
def appels (ι : Type) (S : Server) :
    Spec ι EtapeAppel Requete Req.Ans Err AppelPage Base AppelPage.Evenement where
  handler := S.handler
  lost := .unavailable
  on _ ev p := p.on ev

/-- Every roll call sent is about students on a roster of its class. -/
def AppelsExacts (s : SystemeAppel ι) : Prop := ∀ x ∈ s.log, AppelExact s.log x.who x.req

variable [DecidableEq ι]

/-- **A roll call is about the class it names.**  In every run of roll-call pages in which no other
class is chosen when the students of a class arrive, every roll call sent names students of a roster
of its class only. -/
theorem appelsExacts_run (S : Server) (b : Base) (pages : ι → String × String)
    (as : List (Act ι AppelPage.Evenement Base)) {s : SystemeAppel ι}
    (hs : s = Sys.init b fun i => { etablissementId := (pages i).1, utilisateurId := (pages i).2 })
    (h : AllMeet (Sys.step (appels ι S)) (Sys.Resumes ClasseInchangee) s as) :
    Always (Sys.step (appels ι S)) AppelsExacts s as := by
  have hstart : s.Ok ListeExacte (fun w i _ r => AppelExact w i r) ClasseInchangee := by
    rw [hs]
    exact Sys.Ok.init (fun i => .vide rfl rfl) b
  have hall := Sys.always_ok (appels ι S) ListeExacte.mono AppelExact.mono
    (fun w i ev s p hp hI => AppelPage.regle_on hp hI) hstart h
  exact hall.mono fun s hs => hs.sent

end Rosters

/-! ### Two classes -/

/-- The teacher `t` of the classes `A`, with the student `a`, and `B`, with the student `b`. -/
def deuxClasses : Base :=
  let classe (nom eleve : String) : Document :=
    newDoc 0 [texte .nom nom, texte .niveau "1", texte .etablissementId "e",
      textes .enseignantsIds ["t"], textes .matieresIds ["m"], textes .elevesIds [eleve]]
  let compte (nom : String) : Document :=
    newDoc 0 [texte .prenom "", texte .nom nom, texte .photo ""]
  ((((((((baseVide.putDoc .enseignants "t" (newDoc 0 [texte .utilisateurId "u"])).putDoc
    .classes "A" (classe "A" "a")).putDoc .classes "B" (classe "B" "b")).putDoc
    .enseignements "x" (newDoc 0 [texte .enseignantId "t", texte .matiereId "m"])).putDoc
    .matieres "m" (newDoc 0 [texte .nom "Maths"])).putDoc
    .eleves "a" (newDoc 0 [texte .utilisateurId "ua"])).putDoc
    .eleves "b" (newDoc 0 [texte .utilisateurId "ub"])).putDoc
    .utilisateurs "ua" (compte "a")).putDoc .utilisateurs "ub" (compte "b")

def pageAppel : AppelPage := { etablissementId := "e", utilisateurId := "u" }

/-- The roll of class `A` is called. -/
def appelDeA : List (Act Unit AppelPage.Evenement Base) :=
  [.event () .ouvrir] ++ poursuivre 0 4 ++ [.event () (.classe 0)] ++ poursuivre 0 3 ++
    [.event () (.matiere 0)] ++ poursuivre 0 4 ++
    [.event () (.enregistrer ⟨0, 0, "08:00"⟩), .serve 0]

/-- The students of `A` arrive after those of `B`, which has been chosen since. -/
def appelDeB : List (Act Unit AppelPage.Evenement Base) :=
  [.event () .ouvrir] ++ poursuivre 0 4 ++ [.event () (.classe 0)] ++ poursuivre 0 3 ++
    [.event () (.matiere 0)] ++ poursuivre 0 3 ++
    [.event () (.classe 1)] ++ poursuivre 1 3 ++ [.event () (.matiere 0)] ++ poursuivre 1 4 ++
    poursuivre 0 1 ++ [.event () (.enregistrer ⟨0, 0, "08:00"⟩), .serve 0]

/-- A test of `ClasseInchangee`. -/
def arriveBien (s : SystemeAppel Unit) : Act Unit AppelPage.Evenement Base → Bool
  | .resume n => (s.tasks[n]?).all fun t =>
    match t.lab with
    | .attente c => (s.pages t.who).classeChoisieId.all (· = c)
    | _ => true
  | _ => true

theorem resumes_of_arriveBien (s : SystemeAppel Unit) (a : Act Unit AppelPage.Evenement Base)
    (h : arriveBien s a = true) : Sys.Resumes ClasseInchangee s a := by
  rcases a with _ | _ | _ | n | _
  case resume =>
    intro t ht a _ c hc
    have hc' : t.lab = .attente c := hc
    simp only [arriveBien, ht, Option.all_some, hc'] at h
    rcases hp : (s.pages t.who).classeChoisieId with _ | d
    · exact Or.inl rfl
    · rw [hp, Option.all_some] at h
      exact Or.inr (congrArg some (of_decide_eq_true h))
  all_goals trivial

theorem appelsExacts_run_appelDeA :
    Always (Sys.step (appels Unit (Server.longest 10))) AppelsExacts
      (Sys.init deuxClasses fun _ => pageAppel) appelDeA :=
  appelsExacts_run (Server.longest 10) deuxClasses (fun _ => ("e", "u")) appelDeA rfl
    (allMeet_of_checkAll arriveBien resumes_of_arriveBien (by decide +kernel))

/-- A test of a roll call sent for class `B` with the student `a`, when no roster read of `B` has
him. -/
def appelDAutrui (s : SystemeAppel Unit) : Bool :=
  (s.log.any fun x => match x.req with
    | .add .appels fs => (newDoc 0 fs .classeId).any (Value.isStr "B") &&
      decide ("a" ∈ strsOf (newDoc 0 fs .elevesAbsents))
    | _ => false) &&
  s.log.all fun x => match x with
    | ⟨_, _, .get .classes "B", .ok doc⟩ =>
      (AppelPage.elevesIds doc).toOption.all fun ids => decide ("a" ∉ ids)
    | _ => true

/-- The roll call sent names class `B` and the student of `A`. -/
theorem not_appelsExacts_appelDeB :
    ¬Always (Sys.step (appels Unit (Server.longest 10))) AppelsExacts
      (Sys.init deuxClasses fun _ => pageAppel) appelDeB := by
  refine not_always_of_final appelDAutrui (fun s hs hP => ?_) (by decide +kernel)
  obtain ⟨hany, hall⟩ := Bool.and_eq_true_iff.mp hs
  obtain ⟨x, hx, hreq⟩ := List.any_eq_true.mp hany
  split at hreq
  · rename_i fs hfs
    obtain ⟨hB, ha⟩ := Bool.and_eq_true_iff.mp hreq
    obtain ⟨c, ids, hc, ⟨doc, hmem, hids⟩, -, habs⟩ := hP x hx fs hfs
    obtain rfl : c = "B" := by simpa [hc, Value.isStr] using hB
    have hnot := List.all_eq_true.mp hall _ hmem
    have hnot' : (AppelPage.elevesIds doc).toOption.all (fun ids => decide ("a" ∉ ids)) = true := hnot
    simp only [hids, Except.toOption, Option.all_some] at hnot'
    exact of_decide_eq_true hnot' (habs (of_decide_eq_true ha))
  · cases hreq

end EduConnect.Enseignant
