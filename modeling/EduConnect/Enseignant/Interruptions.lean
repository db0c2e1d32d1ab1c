import EduConnect.Enseignant.Rosters
import EduConnect.Lib.Lock
import EduConnect.Lib.Lots

/-!
# Roll calls that are interrupted

`enregistrerAppel` raises `saving`, adds the roll call, notifies the parents and lowers `saving` at
the end, without `try`: a call that ends by an exception leaves the flag up, and the roll call it has
added.
-/

namespace EduConnect.Enseignant

open Lib Prog

namespace AppelPage

/-! ## The call, cut at its awaits -/

/-- The awaits of `enregistrerAppel`. -/
def enAppel : EtapeAppel → Bool
  | .appel => true
  | .famille => true
  | .notifications => true
  | _ => false

def suiteAppel (absents : List String) (h : Horloge) (a : Except Err String) :
    Action EtapeAppel AppelPage Unit :=
  Prog.bind (ofExcept a) fun _ => Prog.bind (notifier absents h) fun _ => setState vider

def suiteFamille (h : Horloge) (a : Except Err (List (String × Document))) :
    Action EtapeAppel AppelPage Unit :=
  Prog.bind (Prog.bind (ofExcept a) fun familles => Prog.bind page fun p =>
    Prog.bind (ofExcept (familles.mapM (p.notification h)))
      (ajouterNotificationsParLot .notifications)) fun _ => setState vider

def suiteNotifications (a : Except Err Unit) : Action EtapeAppel AppelPage Unit :=
  Prog.bind (catching (ofExcept a) fun e => fail (.exception
    ("Erreur lors de l'ajout par lot des notifications : " ++ texteErreur e)))
    fun _ => setState vider

/-- A suspended call. -/
inductive Tache {ι : Type} : Task ι EtapeAppel Requete Req.Ans Err AppelPage → Prop where
  | appel {i : ι} {fs : Champs} {absents : List String} {h : Horloge} {a : Option (Except Err String)} :
    Tache ⟨i, .appel, .add .appels fs, suiteAppel absents h, a⟩
  | famille {i : ι} {q : Query Champ} {h : Horloge}
    {a : Option (Except Err (List (String × Document)))} :
    Tache ⟨i, .famille, .query .famille q, suiteFamille h, a⟩
  | notifications {i : ι} {ds : List Champs} {a : Option (Except Err Unit)} :
    Tache ⟨i, .notifications, .addAll .notifications ds, suiteNotifications, a⟩

variable {ι : Type} {i : ι} {p : AppelPage} {h : Horloge}

/-- Without a class, a subject or a teacher the call does nothing. -/
theorem seg_enregistrerAppel_cases (h : Horloge) (i : ι) (p : AppelPage) :
    (enregistrerAppel h).seg i p = (p, none) ∨
      ∃ classeId matiereId enseignantId, (enregistrerAppel h).seg i p =
        (sur (fun c => { c with saving := true }) p,
          some ⟨i, .appel, .add .appels (p.appel classeId matiereId enseignantId h),
            suiteAppel p.absents h, none⟩) := by
  obtain ⟨k, hk, hcases⟩ := enregistrerAppel_eq h
  have hseg : (enregistrerAppel h).seg i p = (k p).seg i p := by rw [hk]; rfl
  rcases hcases p with ⟨-, hkp⟩ | ⟨classeId, matiereId, enseignantId, -, -, -, hkp⟩
  · exact Or.inl (by rw [hseg, hkp]; rfl)
  · exact Or.inr ⟨classeId, matiereId, enseignantId, by rw [hseg, hkp]; rfl⟩

theorem seg_suiteAppel (absents : List String) (a : Except Err String) :
    (suiteAppel absents h a).seg i p = match a with
      | .error _ => (p, none)
      | .ok _ => if absents = [] then (vider p, none) else
        (p, some ⟨i, .famille, .query .famille ⟨[.whereIn .eleveId absents], none, none⟩,
          suiteFamille h, none⟩) := by
  cases a with
  | error e => rfl
  | ok id =>
    by_cases habs : absents = []
    · rw [suiteAppel, notifier, if_pos habs]
      exact (if_pos habs).symm
    · rw [suiteAppel, notifier, if_neg habs]
      exact (if_neg habs).symm

theorem seg_suiteFamille_of_ok {familles : List (String × Document)} {ns : List NotificationModele}
    (hns : familles.mapM (p.notification h) = .ok ns) :
    (suiteFamille h (.ok familles)).seg i p = (p, some ⟨i, .notifications,
      .addAll .notifications (ns.map NotificationModele.toMap), suiteNotifications, none⟩) := by
  show Prog.seg i (Prog.bind (Prog.bind (ofExcept (familles.mapM (p.notification h))) _) _) p = _
  rw [hns]
  rfl

theorem seg_suiteFamille_of_error {familles : List (String × Document)} {e : Err}
    (he : familles.mapM (p.notification h) = .error e) :
    (suiteFamille h (.ok familles)).seg i p = (p, none) := by
  show Prog.seg i (Prog.bind (Prog.bind (ofExcept (familles.mapM (p.notification h))) _) _) p = _
  rw [he]
  rfl

theorem seg_suiteNotifications (a : Except Err Unit) :
    (suiteNotifications a).seg i p = match a with
      | .error _ => (p, none)
      | .ok _ => (vider p, none) := by
  cases a <;> rfl

/-! ## What lets a call go on -/

/-- The parents of the families can be notified. -/
def Notifiable (p : AppelPage) (familles : List (String × Document)) : Prop :=
  ∀ doc ∈ familles, p.enseignantId ≠ none ∧ p.classeChoisieId ≠ none ∧ p.matiereChoisieId ≠ none ∧
    ∃ famille, FamilleModele.fromMap doc.2 doc.1 = .ok famille

/-- The families an answer brings. -/
def famillesLues : EchangeAppel ι → List (String × Document)
  | ⟨_, .famille, .query _ _, .ok familles⟩ => familles
  | _ => []

/-- A call of the page `p` goes on with an answer: the request has succeeded and, after the
families, the selections are still there and every family can be read. -/
def Aboutie (x : EchangeAppel ι) (p : AppelPage) : Prop :=
  (∃ v, x.ans = .ok v) ∧ Notifiable p (famillesLues x)

theorem notification_ok_iff {doc : String × Document} :
    (∃ n, p.notification h doc = .ok n) ↔ p.enseignantId ≠ none ∧ p.classeChoisieId ≠ none ∧
      p.matiereChoisieId ≠ none ∧ ∃ famille, FamilleModele.fromMap doc.2 doc.1 = .ok famille := by
  unfold notification
  cases hf : FamilleModele.fromMap doc.2 doc.1 with
  | error e => exact ⟨fun ⟨n, hn⟩ => (by cases hn), fun ⟨_, _, _, f, hf⟩ => (by cases hf)⟩
  | ok famille =>
    cases he : p.enseignantId with
    | none => exact ⟨fun ⟨n, hn⟩ => (by cases hn), fun hall => absurd rfl hall.1⟩
    | some e =>
      cases hc : p.classeChoisieId with
      | none => exact ⟨fun ⟨n, hn⟩ => (by cases hn), fun hall => absurd rfl hall.2.1⟩
      | some c =>
        cases hm : p.matiereChoisieId with
        | none => exact ⟨fun ⟨n, hn⟩ => (by cases hn), fun hall => absurd rfl hall.2.2.1⟩
        | some m => exact ⟨fun _ => ⟨nofun, nofun, nofun, famille, rfl⟩, fun _ => ⟨_, rfl⟩⟩

theorem mapM_notification_iff {familles : List (String × Document)} :
    (∃ ns, familles.mapM (p.notification h) = .ok ns) ↔ Notifiable p familles := by
  constructor
  · rintro ⟨ns, hns⟩ doc hdoc
    obtain ⟨n, -, hn⟩ := exists_mem_of_mapM hns hdoc
    exact notification_ok_iff.mp ⟨n, hn⟩
  · intro hall
    have hok : ∀ doc ∈ familles, ∃ n, p.notification h doc = .ok n ∧ True := fun doc hdoc =>
      have ⟨n, hn⟩ := notification_ok_iff.mpr (hall doc hdoc)
      ⟨n, hn, trivial⟩
    obtain ⟨ns, hns, -⟩ := exists_mapM_of_forall hok
    exact ⟨ns, hns⟩

/-- A resumed call ends where it is, or it goes on: it ends with an empty page, or it waits again
after the roll call was added. -/
theorem seg_tache {t : Task ι EtapeAppel Requete Req.Ans Err AppelPage} (ht : Tache t)
    (a : Except Err (Req.Ans t.req)) (p : AppelPage) :
    (¬Aboutie ⟨t.who, t.lab, t.req, a⟩ p ∧ (t.k a).seg t.who p = (p, none)) ∨
    (Aboutie ⟨t.who, t.lab, t.req, a⟩ p ∧ ((t.k a).seg t.who p = (vider p, none) ∨
      ∃ t', (t.k a).seg t.who p = (p, some t') ∧ Tache t' ∧ t'.who = t.who ∧ t'.lab ≠ .appel)) := by
  have hvide : ∀ {x : EchangeAppel ι} {e}, x.ans = .error e → ¬Aboutie x p := by
    rintro x e he ⟨⟨v, hv⟩, -⟩
    cases he.symm.trans hv
  have hsans : ∀ {x : EchangeAppel ι}, famillesLues x = [] → (∃ v, x.ans = .ok v) → Aboutie x p :=
    fun hx hv => ⟨hv, fun doc hdoc => by rw [hx] at hdoc; cases hdoc⟩
  revert a
  cases ht with
  | @appel i fs absents h ans =>
    rintro (e | id : Except Err String)
    · exact Or.inl ⟨hvide rfl, seg_suiteAppel absents _⟩
    · refine Or.inr ⟨hsans rfl ⟨id, rfl⟩, ?_⟩
      by_cases habs : absents = []
      · exact Or.inl ((seg_suiteAppel absents _).trans (if_pos habs))
      · exact Or.inr ⟨_, (seg_suiteAppel absents _).trans (if_neg habs), .famille, rfl, nofun⟩
  | @famille i q h ans =>
    rintro (e | familles : Except Err (List (String × Document)))
    · exact Or.inl ⟨hvide rfl, rfl⟩
    · by_cases hall : Notifiable p familles
      · obtain ⟨ns, hns⟩ := (mapM_notification_iff (h := h)).mpr hall
        exact Or.inr ⟨⟨⟨familles, rfl⟩, hall⟩,
          Or.inr ⟨_, seg_suiteFamille_of_ok hns, .notifications, rfl, nofun⟩⟩
      · cases hns : familles.mapM (p.notification h) with
        | error e => exact Or.inl ⟨fun hab => hall hab.2, seg_suiteFamille_of_error hns⟩
        | ok ns => exact absurd (mapM_notification_iff.mp ⟨ns, hns⟩) hall
  | @notifications i ds ans =>
    rintro (e | u : Except Err Unit)
    · exact Or.inl ⟨hvide rfl, seg_suiteNotifications _⟩
    · exact Or.inr ⟨hsans rfl ⟨u, rfl⟩, Or.inl (seg_suiteNotifications _)⟩

/-! ## The other programs -/

/-- A program that leaves the flag and the messages alone and is no call. -/
structure Neutre (q : Action EtapeAppel AppelPage Unit) : Prop where
  keeps : ∀ b m, q.Keeps fun s => s.saving = b ∧ s.messages = m
  issues : q.Issues fun l _ => enAppel l = false

theorem Neutre.seg {q : Action EtapeAppel AppelPage Unit} (hq : Neutre q) (p : AppelPage) :
    (q.seg i p).1.saving = p.saving ∧ (q.seg i p).1.messages = p.messages ∧
      ∀ t ∈ (q.seg i p).2, t.who = i ∧ enAppel t.lab = false ∧ ∀ a, Neutre (t.k a) := by
  obtain ⟨hsaving, hmessages⟩ := ((hq.keeps p.saving p.messages).seg (i := i) p).1 ⟨rfl, rfl⟩
  refine ⟨hsaving, hmessages, fun t ht => ?_⟩
  obtain ⟨hwho, -, hlab, hissues⟩ := hq.issues.seg p t ht
  exact ⟨hwho, hlab, fun a => ⟨fun b m => ((hq.keeps b m).seg p).2 t ht a, hissues a⟩⟩

theorem neutre_setState {f : AppelPage → AppelPage} (hs : ∀ p, (f p).saving = p.saving)
    (hm : ∀ p, (f p).messages = p.messages) : Neutre (setState f) :=
  ⟨fun _ _ => (keeps_setState _).mpr fun p hp => ⟨(hs p).trans hp.1, (hm p).trans hp.2⟩, trivial⟩

theorem neutre_of_lit {q : Action EtapeAppel AppelPage Unit}
    (hk : ∀ b m, q.Keeps fun s => s.saving = b ∧ s.messages = m)
    (hi : q.Issues (Choix.Lit .choix)) : Neutre q :=
  ⟨hk, hi.mono fun l _ hl => by rw [hl.1]; rfl⟩

/-- An event starts a call on a page that is not saving, or another program. -/
theorem on_cases {ev : Evenement} {q : Action EtapeAppel AppelPage Unit} (hq : p.on ev = some q) :
    Neutre q ∨ p.saving = false ∧ ∃ h, q = enregistrerAppel h := by
  have hsur : ∀ b m f, Choix.Remplit f → ∀ s : AppelPage, s.saving = b ∧ s.messages = m →
      (sur f s).saving = b ∧ (sur f s).messages = m :=
    fun b m f hf s hs => ⟨(hf s.toChoix).2.2.trans hs.1, hs.2⟩
  rcases ev with _ | n | n | n | _ | _ | h
  · obtain rfl := Option.some.inj hq
    refine Or.inl (neutre_of_lit (fun b m => ?_) ?_)
    · exact Choix.keeps_initData (fun f hf => hsur b m f hf.1) _ _ (keeps_ret _) fun _ =>
        (keeps_setState _).mpr (hsur b m _ fun c => ⟨rfl, rfl, rfl⟩)
    · refine Choix.issues_initData _ _ ?_ fun e => ?_ <;> trivial
  all_goals
    unfold on at hq
    dsimp only at hq
    split_ifs at hq
  · obtain ⟨c, -, rfl⟩ := Option.map_eq_some_iff.mp hq
    refine Or.inl (neutre_of_lit (fun b m => ?_) (.bind trivial fun _ =>
      Choix.issues_chargerMatieres _ _))
    exact .bind ((keeps_setState _).mpr fun _ hs => hs) fun _ =>
      Choix.keeps_chargerMatieres (fun f hf => hsur b m f hf.1) _ _
  · obtain ⟨c, -, hm⟩ := Option.bind_eq_some_iff.mp hq
    obtain ⟨m, -, rfl⟩ := Option.map_eq_some_iff.mp hm
    refine Or.inl ⟨fun b m => ?_, .bind trivial fun _ => (issues_chargerEleves c).mono ?_⟩
    · exact .bind ((keeps_setState _).mpr fun _ hs => hs) fun _ =>
        keeps_chargerEleves c fun _ _ hs => hs
    · rintro l r ⟨rfl | rfl | rfl, -⟩ <;> rfl
  · obtain ⟨e, -, rfl⟩ := Option.map_eq_some_iff.mp hq
    exact Or.inl (neutre_setState (fun _ => rfl) fun _ => rfl)
  · obtain rfl := Option.some.inj hq
    exact Or.inl (neutre_setState (fun _ => rfl) fun _ => rfl)
  · obtain rfl := Option.some.inj hq
    exact Or.inl (neutre_setState (fun _ => rfl) fun _ => rfl)
  · rename_i hopen
    rw [not_or, not_or] at hopen
    exact Or.inr ⟨Bool.not_eq_true _ ▸ hopen.2.2, h, (Option.some.inj hq).symm⟩

end AppelPage

/-! ## Runs -/

section Runs

open AppelPage

variable {ι : Type}

/-- Two suspended calls are on different pages. -/
def Distincts (t t' : Task ι EtapeAppel Requete Req.Ans Err AppelPage) : Prop :=
  enAppel t.lab = true → enAppel t'.lab = true → t.who ≠ t'.who

theorem Distincts.symm {t t' : Task ι EtapeAppel Requete Req.Ans Err AppelPage}
    (h : Distincts t t') : Distincts t' t :=
  fun ht' ht => (h ht ht').symm

variable {S : Server} {pages₀ : ι → AppelPage} {s s' : SystemeAppel ι}
  {i : ι} {n : ℕ} {t : Task ι EtapeAppel Requete Req.Ans Err AppelPage}

/-- What the suspended programs are: calls as the code made them, one a page at most and with the
flag up, and programs that are no call. -/
structure Suspendus (s : SystemeAppel ι) : Prop where
  appel : ∀ t ∈ s.tasks, enAppel t.lab = true → Tache t ∧ (s.pages t.who).saving = true
  autre : ∀ t ∈ s.tasks, enAppel t.lab = false → ∀ a, Neutre (t.k a)
  distincts : s.tasks.Pairwise Distincts

theorem Suspendus.eraseIdx (h : Suspendus s) (ht : s.tasks[n]? = some t) :
    Suspendus { s with tasks := s.tasks.eraseIdx n } :=
  ⟨fun t' ht' => h.appel t' (List.mem_of_mem_eraseIdx ht'),
    fun t' ht' => h.autre t' (List.mem_of_mem_eraseIdx ht'),
    (pairwise_eraseIdx Distincts.symm ht h.distincts).2⟩

theorem Suspendus.answer (h : Suspendus s) (ht : s.tasks[n]? = some t)
    (a : Except Err (Req.Ans t.req)) : Suspendus (s.answer n t a) := by
  have hmem := List.mem_of_getElem? ht
  refine ⟨fun t' ht' hin => ?_, fun t' ht' hout => ?_, ?_⟩
  · rcases List.mem_or_eq_of_mem_set ht' with ht' | rfl
    · exact h.appel t' ht' hin
    · obtain ⟨htache, hup⟩ := h.appel t hmem hin
      refine ⟨?_, hup⟩
      cases htache
      · exact .appel
      · exact .famille
      · exact .notifications
  · rcases List.mem_or_eq_of_mem_set ht' with ht' | rfl
    · exact h.autre t' ht' hout
    · exact h.autre t hmem hout
  · obtain ⟨hfirst, hrest⟩ := pairwise_eraseIdx Distincts.symm ht h.distincts
    obtain ⟨hn, -⟩ := List.getElem?_eq_some_iff.mp ht
    refine ((List.set_perm_cons_eraseIdx hn _).pairwise_iff Distincts.symm).mpr ?_
    exact List.pairwise_cons.mpr ⟨hfirst, hrest⟩

/-- No call is suspended on a page that is not saving. -/
theorem Suspendus.seul (h : Suspendus s) (hi : (s.pages i).saving = false) :
    ∀ t ∈ s.tasks, enAppel t.lab = true → t.who ≠ i := by
  intro t ht hin hwho
  have hup := (h.appel t ht hin).2
  rw [hwho, hi] at hup
  cases hup

/-- The exchange has added a roll call. -/
def ajoute (x : EchangeAppel ι) : Bool := x.lab = .appel && x.ans.isOk

/-- The suspended call has added its roll call. -/
def aAjoute (t : Task ι EtapeAppel Requete Req.Ans Err AppelPage) : Bool :=
  match t.lab with
  | .appel => t.ans.any Except.isOk
  | l => enAppel l

theorem aAjoute_of_autre {t : Task ι EtapeAppel Requete Req.Ans Err AppelPage}
    (h : enAppel t.lab = false) : aAjoute t = false := by
  obtain ⟨who, lab, req, k, ans⟩ := t
  cases lab <;> first | rfl | cases h

theorem aAjoute_of_ne {t : Task ι EtapeAppel Requete Req.Ans Err AppelPage}
    (hlab : t.lab ≠ .appel) (h : enAppel t.lab = true) : aAjoute t = true := by
  unfold aAjoute
  split
  · contradiction
  · exact h

variable [DecidableEq ι]

/-- How many roll calls the page has added. -/
def ajouts (w : List (EchangeAppel ι)) (i : ι) : ℕ := w.countP fun x => x.who = i && ajoute x

/-- How many suspended calls of the page have added theirs. -/
def enAttente (l : List (Task ι EtapeAppel Requete Req.Ans Err AppelPage)) (i : ι) : ℕ :=
  l.countP fun t => t.who = i && aAjoute t

/-- The page is free when no call is suspended, and every roll call it has added comes from a call
that has ended normally, which shows a message, or goes on. -/
structure Recuperable (pages₀ : ι → AppelPage) (s : SystemeAppel ι) : Prop where
  libre : ∀ i, (∀ t ∈ s.tasks, t.who = i → enAppel t.lab = false) → (s.pages i).saving = false
  compte : ∀ i, (pages₀ i).messages.length + ajouts s.log i =
    (s.pages i).messages.length + enAttente s.tasks i

/-- A program that is no call starts or goes on. -/
theorem Suspendus.start (h : Suspendus s) {q : Action EtapeAppel AppelPage Unit} (hq : Neutre q) :
    Suspendus (s.start i q) := by
  obtain ⟨hsaving, -, hnew⟩ := hq.seg (i := i) (s.pages i)
  have hflag : ∀ j, ((s.start i q).pages j).saving = (s.pages j).saving := by
    intro j
    by_cases hj : j = i
    · subst hj
      simpa [Sys.start] using hsaving
    · simp [Sys.start, Function.update_of_ne hj]
  refine ⟨fun t ht hin => ?_, fun t ht hout => ?_, ?_⟩
  · rcases List.mem_append.mp ht with ht | ht
    · exact ⟨(h.appel t ht hin).1, (hflag t.who).trans (h.appel t ht hin).2⟩
    · obtain ⟨-, hlab, -⟩ := hnew t (Option.mem_toList.mp ht)
      cases hin.symm.trans hlab
  · rcases List.mem_append.mp ht with ht | ht
    · exact h.autre t ht hout
    · exact (hnew t (Option.mem_toList.mp ht)).2.2
  · refine List.pairwise_append.mpr ⟨h.distincts, ?_, fun t _ t' ht' _ hin => ?_⟩
    · rcases (q.seg i (s.pages i)).2 with _ | t
      · exact List.Pairwise.nil
      · exact List.pairwise_singleton _ _
    · obtain ⟨-, hlab, -⟩ := hnew t' (Option.mem_toList.mp ht')
      cases hin.symm.trans hlab

/-- A call goes on, or ends, on a page where no other call is suspended. -/
theorem Suspendus.start_appel (h : Suspendus s)
    (hseul : ∀ t ∈ s.tasks, enAppel t.lab = true → t.who ≠ i) {q : Action EtapeAppel AppelPage Unit}
    (hq : ∀ t ∈ (q.seg i (s.pages i)).2, t.who = i ∧ enAppel t.lab = true ∧ Tache t ∧
      (q.seg i (s.pages i)).1.saving = true) : Suspendus (s.start i q) := by
  refine ⟨fun t ht hin => ?_, fun t ht hout => ?_, ?_⟩
  · rcases List.mem_append.mp ht with ht | ht
    · have hne := hseul t ht hin
      obtain ⟨htache, hup⟩ := h.appel t ht hin
      exact ⟨htache, by simpa [Sys.start, Function.update_of_ne hne] using hup⟩
    · obtain ⟨hwho, -, htache, hup⟩ := hq t (Option.mem_toList.mp ht)
      rw [hwho]
      exact ⟨htache, by simpa [Sys.start] using hup⟩
  · rcases List.mem_append.mp ht with ht | ht
    · exact h.autre t ht hout
    · obtain ⟨-, hin, -⟩ := hq t (Option.mem_toList.mp ht)
      cases hin.symm.trans hout
  · refine List.pairwise_append.mpr ⟨h.distincts, ?_, fun t ht t' ht' hin _ => ?_⟩
    · rcases (q.seg i (s.pages i)).2 with _ | t
      · exact List.Pairwise.nil
      · exact List.pairwise_singleton _ _
    · rw [(hq t' (Option.mem_toList.mp ht')).1]
      exact hseul t ht hin

/-! ### Counting -/

/-- What a task counts for. -/
def poids (i : ι) (t : Task ι EtapeAppel Requete Req.Ans Err AppelPage) : ℕ :=
  if t.who = i && aAjoute t then 1 else 0

theorem enAttente_eraseIdx {l : List (Task ι EtapeAppel Requete Req.Ans Err AppelPage)}
    (ht : l[n]? = some t) (i : ι) :
    enAttente l i = enAttente (l.eraseIdx n) i + poids i t := by
  obtain ⟨hn, rfl⟩ := List.getElem?_eq_some_iff.mp ht
  have hperm := (List.getElem_cons_eraseIdx_perm hn).countP_eq fun t => t.who = i && aAjoute t
  rw [enAttente, ← hperm, List.countP_cons]
  rfl

theorem enAttente_set {l : List (Task ι EtapeAppel Requete Req.Ans Err AppelPage)}
    (ht : l[n]? = some t) (t' : Task ι EtapeAppel Requete Req.Ans Err AppelPage) (i : ι) :
    enAttente (l.set n t') i = enAttente (l.eraseIdx n) i + poids i t' := by
  obtain ⟨hn, -⟩ := List.getElem?_eq_some_iff.mp ht
  rw [enAttente, (List.set_perm_cons_eraseIdx hn t').countP_eq, List.countP_cons]
  rfl

theorem poids_of_ne (h : t.who ≠ i) : poids i t = 0 := by
  simp [poids, h]

theorem poids_of_ajoute (h : aAjoute t = true) : poids t.who t = 1 := by
  simp [poids, h]

/-- Recording an answer counts a roll call in the log and in its call. -/
theorem Recuperable.answer (h : Recuperable pages₀ s) (ht : s.tasks[n]? = some t)
    (hans : t.ans = none) (a : Except Err (Req.Ans t.req)) :
    Recuperable pages₀ (s.answer n t a) := by
  refine ⟨fun i hi => h.libre i fun t' ht' hwho => ?_, fun i => ?_⟩
  · obtain ⟨m, hm, rfl⟩ := List.mem_iff_getElem.mp ht'
    by_cases hmn : m = n
    · subst hmn
      obtain rfl : s.tasks[m] = t := Option.some.inj ((List.getElem?_eq_getElem hm).symm.trans ht)
      exact hi { s.tasks[m] with ans := some a } (List.mem_set hm _) hwho
    · refine hi s.tasks[m] (List.mem_iff_getElem.mpr ⟨m, by simpa [Sys.answer] using hm, ?_⟩) hwho
      exact List.getElem_set_ne (Ne.symm hmn) _
  · have hcompte := h.compte i
    have hlog : ajouts (s.answer n t a).log i =
        ajouts s.log i + if t.who = i && ajoute ⟨t.who, t.lab, t.req, a⟩ then 1 else 0 := by
      rw [ajouts, Sys.answer, List.countP_append, List.countP_singleton]
      rfl
    have htaches : enAttente (s.answer n t a).tasks i =
        enAttente (s.tasks.eraseIdx n) i + poids i { t with ans := some a } := enAttente_set ht _ i
    have havant := enAttente_eraseIdx ht i
    have hpage : ((s.answer n t a).pages i).messages.length = (s.pages i).messages.length := rfl
    have hpoids : poids i { t with ans := some a } =
        poids i t + if t.who = i && ajoute ⟨t.who, t.lab, t.req, a⟩ then 1 else 0 := by
      obtain ⟨who, lab, req, k, ans⟩ := t
      obtain rfl : ans = none := hans
      cases lab <;> simp [poids, aAjoute, ajoute, enAppel]
    rw [hlog, htaches, hpage]
    omega

/-- A task that is no call does not count. -/
theorem Recuperable.eraseIdx (h : Recuperable pages₀ s) (ht : s.tasks[n]? = some t)
    (hin : enAppel t.lab = false) : Recuperable pages₀ { s with tasks := s.tasks.eraseIdx n } := by
  refine ⟨fun i hi => h.libre i fun t' ht' hwho => ?_, fun i => ?_⟩
  · rcases eq_or_mem_eraseIdx ht ht' with rfl | ht'
    · exact hin
    · exact hi t' ht' hwho
  · have hnul : poids i t = 0 := by simp [poids, aAjoute_of_autre hin]
    have hun := enAttente_eraseIdx ht i
    rw [hnul, Nat.add_zero] at hun
    exact hun ▸ h.compte i

/-- A program that is no call keeps the property. -/
theorem Recuperable.start (h : Recuperable pages₀ s) {q : Action EtapeAppel AppelPage Unit}
    (hq : Neutre q) : Recuperable pages₀ (s.start i q) := by
  obtain ⟨hsaving, hmessages, hnew⟩ := hq.seg (i := i) (s.pages i)
  have hpage : ∀ j, ((s.start i q).pages j).saving = (s.pages j).saving ∧
      ((s.start i q).pages j).messages = (s.pages j).messages := by
    intro j
    by_cases hj : j = i
    · subst hj
      simpa [Sys.start] using ⟨hsaving, hmessages⟩
    · simp [Sys.start, Function.update_of_ne hj]
  refine ⟨fun j hj => (hpage j).1.trans (h.libre j fun t ht => hj t (List.mem_append_left _ ht)),
    fun j => ?_⟩
  have hzero : enAttente (s.start i q).tasks j = enAttente s.tasks j := by
    have hnul : enAttente (q.seg i (s.pages i)).2.toList j = 0 := by
      refine List.countP_eq_zero.mpr fun t ht hcount => ?_
      obtain ⟨-, hlab, -⟩ := hnew t (Option.mem_toList.mp ht)
      exact absurd (Bool.and_eq_true_iff.mp hcount).2 (by simp [aAjoute_of_autre hlab])
    show enAttente (s.tasks ++ _) j = _
    rw [enAttente, List.countP_append]
    exact congrArg _ hnul
  rw [hzero, (hpage j).2]
  exact h.compte j

/-- A call that starts keeps the property. -/
theorem Recuperable.start_enregistrerAppel (h : Recuperable pages₀ s) (horloge : Horloge) :
    Recuperable pages₀ (s.start i (enregistrerAppel horloge)) := by
  rcases seg_enregistrerAppel_cases horloge i (s.pages i) with hseg | ⟨c, m, e, hseg⟩
  · have hrien : s.start i (enregistrerAppel horloge) = s := by
      simp [Sys.start, hseg]
    rw [hrien]
    exact h
  · have hmessages : ∀ j, ((s.start i (enregistrerAppel horloge)).pages j).messages =
        (s.pages j).messages := by
      intro j
      by_cases hj : j = i
      · subst hj
        simp [Sys.start, hseg, sur]
      · simp [Sys.start, Function.update_of_ne hj]
    have htaches : (s.start i (enregistrerAppel horloge)).tasks = s.tasks ++
        [⟨i, .appel, .add .appels ((s.pages i).appel c m e horloge),
          suiteAppel (s.pages i).absents horloge, none⟩] := by
      simp [Sys.start, hseg]
    refine ⟨fun j hj => ?_, fun j => ?_⟩
    · by_cases hji : j = i
      · have hnon := hj _ (htaches ▸ List.mem_append_right _ List.mem_cons_self) hji.symm
        cases hnon
      · have hpage : (s.start i (enregistrerAppel horloge)).pages j = s.pages j :=
          Function.update_of_ne hji _ _
        rw [hpage]
        exact h.libre j fun t ht => hj t (htaches ▸ List.mem_append_left _ ht)
    · have hnul : enAttente [(⟨i, .appel, .add .appels ((s.pages i).appel c m e horloge),
          suiteAppel (s.pages i).absents horloge, none⟩ :
            Task ι EtapeAppel Requete Req.Ans Err AppelPage)] j = 0 := by
        simp [enAttente, aAjoute]
      rw [hmessages, htaches, enAttente, List.countP_append]
      show _ + ajouts s.log j = _ + (enAttente s.tasks j + enAttente _ j)
      rw [hnul]
      exact h.compte j

theorem Recuperable.libre_autre (h : Recuperable pages₀ s) (ht : s.tasks[n]? = some t) {j : ι}
    (hj : j ≠ t.who)
    (hall : ∀ t' ∈ s.tasks.eraseIdx n, t'.who = j → enAppel t'.lab = false) :
    (s.pages j).saving = false := by
  refine h.libre j fun t' ht' hwho => ?_
  rcases eq_or_mem_eraseIdx ht ht' with rfl | ht'
  · exact absurd hwho.symm hj
  · exact hall t' ht' hwho

theorem enAttente_eraseIdx_of_ne {l : List (Task ι EtapeAppel Requete Req.Ans Err AppelPage)}
    (ht : l[n]? = some t) {j : ι} (hj : j ≠ t.who) :
    enAttente (l.eraseIdx n) j = enAttente l j := by
  rw [enAttente_eraseIdx ht, poids_of_ne (Ne.symm hj), Nat.add_zero]

/-- A call that ends shows its message. -/
theorem Recuperable.resume_fin (h : Recuperable pages₀ s) (ht : s.tasks[n]? = some t)
    (hajoute : aAjoute t = true) {a : Except Err (Req.Ans t.req)}
    (hseg : (t.k a).seg t.who (s.pages t.who) = (vider (s.pages t.who), none)) :
    Recuperable pages₀ ({ s with tasks := s.tasks.eraseIdx n }.start t.who (t.k a)) := by
  have hpages : ∀ j, j ≠ t.who → ({ s with tasks := s.tasks.eraseIdx n }.start t.who
      (t.k a)).pages j = s.pages j := fun j hj => Function.update_of_ne hj _ _
  have hpage : ({ s with tasks := s.tasks.eraseIdx n }.start t.who (t.k a)).pages t.who =
      vider (s.pages t.who) := by
    simp [Sys.start, hseg]
  have htaches : ({ s with tasks := s.tasks.eraseIdx n }.start t.who (t.k a)).tasks =
      s.tasks.eraseIdx n := by
    simp [Sys.start, hseg]
  refine ⟨fun j hj => ?_, fun j => ?_⟩
  · by_cases hjt : j = t.who
    · rw [hjt, hpage]
      rfl
    · rw [hpages j hjt]
      exact h.libre_autre ht hjt (htaches ▸ hj)
  · have hcompte := h.compte j
    rw [htaches]
    by_cases hjt : j = t.who
    · subst hjt
      have hun := enAttente_eraseIdx ht t.who
      rw [poids_of_ajoute hajoute] at hun
      rw [hpage, vider, List.length_append, List.length_singleton]
      show _ + ajouts s.log t.who = _
      omega
    · rw [hpages j hjt, enAttente_eraseIdx_of_ne ht hjt]
      exact hcompte

/-- A call that goes on still counts its roll call. -/
theorem Recuperable.resume_suite (h : Recuperable pages₀ s) (ht : s.tasks[n]? = some t)
    (hajoute : aAjoute t = true) {a : Except Err (Req.Ans t.req)}
    {t' : Task ι EtapeAppel Requete Req.Ans Err AppelPage}
    (hseg : (t.k a).seg t.who (s.pages t.who) = (s.pages t.who, some t')) (hwho : t'.who = t.who)
    (hcall : enAppel t'.lab = true) (hpoids : aAjoute t' = true) :
    Recuperable pages₀ ({ s with tasks := s.tasks.eraseIdx n }.start t.who (t.k a)) := by
  have hpages : ∀ j, ({ s with tasks := s.tasks.eraseIdx n }.start t.who (t.k a)).pages j =
      s.pages j := by
    intro j
    by_cases hj : j = t.who
    · subst hj
      simp [Sys.start, hseg]
    · exact Function.update_of_ne hj _ _
  have htaches : ({ s with tasks := s.tasks.eraseIdx n }.start t.who (t.k a)).tasks =
      s.tasks.eraseIdx n ++ [t'] := by
    simp [Sys.start, hseg]
  refine ⟨fun j hj => ?_, fun j => ?_⟩
  · rw [hpages]
    by_cases hjt : j = t.who
    · have hnon := hj t' (htaches ▸ List.mem_append_right _ List.mem_cons_self) (hwho.trans hjt.symm)
      cases hcall.symm.trans hnon
    · exact h.libre_autre ht hjt fun t'' ht'' => hj t'' (htaches ▸ List.mem_append_left _ ht'')
  · have hcompte := h.compte j
    have hnouveau : enAttente [t'] j = poids j t' := List.countP_singleton
    rw [hpages, htaches, enAttente, List.countP_append]
    show _ + ajouts s.log j = _ + (enAttente (s.tasks.eraseIdx n) j + enAttente [t'] j)
    rw [hnouveau]
    by_cases hjt : j = t.who
    · subst hjt
      have hun := enAttente_eraseIdx ht t.who
      have hun' := poids_of_ajoute hpoids
      rw [hwho] at hun'
      rw [poids_of_ajoute hajoute] at hun
      omega
    · rw [enAttente_eraseIdx_of_ne ht hjt, poids_of_ne (hwho.trans_ne (Ne.symm hjt)), Nat.add_zero]
      exact hcompte

/-- A call that is resumed keeps the property if and only if it goes on with its answer. -/
theorem recuperable_resume_iff (hS : Suspendus s) (h : Recuperable pages₀ s)
    (ht : s.tasks[n]? = some t) (hin : enAppel t.lab = true) {a : Except Err (Req.Ans t.req)}
    (hans : t.ans = some a) :
    Recuperable pages₀ ({ s with tasks := s.tasks.eraseIdx n }.start t.who (t.k a)) ↔
      Aboutie ⟨t.who, t.lab, t.req, a⟩ (s.pages t.who) := by
  obtain ⟨htache, hup⟩ := hS.appel t (List.mem_of_getElem? ht) hin
  have hseul := (pairwise_eraseIdx Distincts.symm ht hS.distincts).1
  have hajoute : Aboutie ⟨t.who, t.lab, t.req, a⟩ (s.pages t.who) → aAjoute t = true := by
    rintro ⟨⟨v, hv⟩, -⟩
    have hv : a = .ok v := hv
    unfold aAjoute
    split
    · rw [hans, hv]
      rfl
    · exact hin
  rcases seg_tache htache a (s.pages t.who) with
    ⟨hnon, hseg⟩ | ⟨houi, hseg | ⟨t', hseg, htache', hwho, hlab⟩⟩
  · refine iff_of_false (fun h' => ?_) hnon
    have hdown := h'.libre t.who fun t' ht' hwho => ?_
    · simp [Sys.start, hseg, hup] at hdown
    · simp only [Sys.start, hseg, Option.toList_none, List.append_nil] at ht'
      by_contra hcall
      exact hseul t' ht' hin (Bool.not_eq_false _ ▸ hcall) hwho.symm
  · exact iff_of_true (h.resume_fin ht (hajoute houi) hseg) houi
  · have hcall : enAppel t'.lab = true := by cases htache' <;> rfl
    have hpoids : aAjoute t' = true := aAjoute_of_ne hlab hcall
    exact iff_of_true (h.resume_suite ht (hajoute houi) hseg hwho hcall hpoids) houi

/-! ### Steps -/

theorem Suspendus.step (h : Suspendus s) {a : Act ι Evenement Base}
    (hs : s.step (appels ι S) a = some s') : Suspendus s' := by
  cases Sys.step_cases hs with
  | @event i ev q hq =>
    rcases on_cases hq with hneutre | ⟨hdown, horloge, rfl⟩
    · exact h.start hneutre
    · refine h.start_appel (h.seul hdown) fun t ht => ?_
      rcases seg_enregistrerAppel_cases horloge i (s.pages i) with hseg | ⟨c, m, e, hseg⟩
      · rw [hseg] at ht
        cases ht
      · rw [hseg] at ht ⊢
        obtain rfl := Option.some.inj ht
        exact ⟨rfl, rfl, .appel, rfl⟩
  | serve ht _ =>
    have hans := h.answer ht ((appels ι S).handler _ s.base).1
    exact ⟨hans.appel, hans.autre, hans.distincts⟩
  | lose ht _ => exact h.answer ht _
  | @resume n t a ht hans =>
    cases hin : enAppel t.lab with
    | false => exact (h.eraseIdx ht).start (h.autre t (List.mem_of_getElem? ht) hin a)
    | true =>
      obtain ⟨htache, hup⟩ := h.appel t (List.mem_of_getElem? ht) hin
      have hseul := (pairwise_eraseIdx Distincts.symm ht h.distincts).1
      refine (h.eraseIdx ht).start_appel
        (fun t' ht' hin' => (hseul t' ht' hin hin').symm) fun t' ht' => ?_
      rcases seg_tache htache a (s.pages t.who) with
        ⟨-, hseg⟩ | ⟨-, hseg | ⟨t'', hseg, htache', hwho, -⟩⟩
      · rw [hseg] at ht'
        cases ht'
      · rw [hseg] at ht'
        cases ht'
      · rw [hseg] at ht' ⊢
        obtain rfl := Option.some.inj ht'
        refine ⟨hwho, ?_, htache', hup⟩
        cases htache' <;> rfl
  | other b => exact ⟨h.appel, h.autre, h.distincts⟩

/-- A call that is resumed finds an answer it goes on with. -/
def Aboutit (_ : List (EchangeAppel ι)) (x : EchangeAppel ι) (p : AppelPage) : Prop :=
  enAppel x.lab = true → Aboutie x p

theorem recuperable_step_iff (hS : Suspendus s) (h : Recuperable pages₀ s)
    {a : Act ι Evenement Base} (hs : s.step (appels ι S) a = some s') :
    Recuperable pages₀ s' ↔ Sys.Resumes Aboutit s a := by
  cases Sys.step_cases hs with
  | @event i ev q hq =>
    refine iff_of_true ?_ trivial
    rcases on_cases hq with hneutre | ⟨hdown, horloge, rfl⟩
    · exact h.start hneutre
    · exact h.start_enregistrerAppel horloge
  | serve ht hans =>
    refine iff_of_true ?_ trivial
    have h' := h.answer ht hans ((appels ι S).handler _ s.base).1
    exact ⟨h'.libre, h'.compte⟩
  | lose ht hans => exact iff_of_true (h.answer ht hans _) trivial
  | @resume n t a ht hans =>
    have hcond : Sys.Resumes Aboutit s (.resume n : Act ι Evenement Base) ↔
        Aboutit s.log ⟨t.who, t.lab, t.req, a⟩ (s.pages t.who) := by
      constructor
      · exact fun h => h t ht a hans
      · intro h t' ht' a' hans'
        obtain rfl := Option.some.inj (ht.symm.trans ht')
        obtain rfl := Option.some.inj (hans.symm.trans hans')
        exact h
    rw [hcond]
    cases hin : enAppel t.lab with
    | true =>
      refine (recuperable_resume_iff hS h ht hin hans).trans ⟨fun h _ => h, fun h => h hin⟩
    | false =>
      refine iff_of_true ?_ fun hin' => absurd hin' (by rw [hin]; nofun)
      exact (h.eraseIdx ht hin).start (hS.autre t (List.mem_of_getElem? ht) hin a)
  | other b => exact iff_of_true ⟨h.libre, h.compte⟩ trivial

/-- **A roll call can be made again after a failure** if and only if no call ever fails: in every run
of roll-call pages, calls end with the page free and leave no roll call behind when they throw, as
long as every call that is resumed finds an answer it goes on with. -/
theorem recuperable_iff (S : Server) (b : Base) {pages : ι → AppelPage}
    (hp : ∀ i, (pages i).saving = false) (as : List (Act ι Evenement Base)) :
    Always (Sys.step (appels ι S)) (Recuperable pages) (Sys.init b pages) as ↔
      AllMeet (Sys.step (appels ι S)) (Sys.Resumes Aboutit) (Sys.init b pages) as := by
  have hS : Suspendus (Sys.init b pages : SystemeAppel ι) :=
    ⟨fun t ht => absurd ht List.not_mem_nil, fun t ht => absurd ht List.not_mem_nil,
      List.Pairwise.nil⟩
  have hR : Recuperable pages (Sys.init b pages : SystemeAppel ι) := ⟨fun i _ => hp i, fun i => rfl⟩
  exact always_iff_allMeet (fun _ _ _ h hs => Suspendus.step h hs)
    (fun _ _ _ hS h hs => recuperable_step_iff hS h hs) hS hR as

end Runs

/-- A page with a class, a subject and one student, who is absent. -/
def pageUnAbsent : AppelPage :=
  { etablissementId := "e", utilisateurId := "u", enseignantId := some "t"
    classeChoisieId := some "c", matiereChoisieId := some "m", loading := false
    eleves := [⟨"a", .str "", .str "a"⟩] }

/-- A run in which the request of the families is answered, or lost. -/
def appelUnAbsent (perdue : Bool) : List (Act Unit AppelPage.Evenement Base) :=
  [.event () (.enregistrer ⟨0, 0, "08:00"⟩), .serve 0, .resume 0,
    if perdue then .lose 0 else .serve 0, .resume 0]

/-- A test of `Aboutit`. -/
def aboutit (s : SystemeAppel Unit) : Act Unit AppelPage.Evenement Base → Bool
  | .resume n => s.tasks[n]?.all fun t => t.ans.all fun a => a.isOk &&
      (AppelPage.famillesLues ⟨t.who, t.lab, t.req, a⟩).isEmpty
  | _ => true

theorem resumes_of_aboutit (s : SystemeAppel Unit) (a : Act Unit AppelPage.Evenement Base)
    (h : aboutit s a = true) : Sys.Resumes Aboutit s a := by
  cases a with
  | resume n =>
    intro t ht a hans _
    simp only [aboutit, ht, hans, Option.all_some, Bool.and_eq_true, List.isEmpty_iff] at h
    obtain ⟨hok, hvide⟩ := h
    refine ⟨?_, fun doc hdoc => ?_⟩
    · cases ha : a with
      | ok v => exact ⟨v, rfl⟩
      | error e =>
        rw [ha] at hok
        cases hok
    · rw [hvide] at hdoc
      cases hdoc
  | _ => trivial

theorem recuperable_appelUnAbsent :
    Always (Sys.step (appels Unit (Server.longest 10))) (Recuperable fun _ => pageUnAbsent)
      (Sys.init baseVide fun _ => pageUnAbsent) (appelUnAbsent false) :=
  (recuperable_iff (Server.longest 10) baseVide (fun _ => rfl) _).mpr
    (allMeet_of_checkAll aboutit resumes_of_aboutit (by decide +kernel))

/-- The families are not read: the roll call is stored and the button stays disabled. -/
theorem appel_bloque :
    ¬Always (Sys.step (appels Unit (Server.longest 10))) (Recuperable fun _ => pageUnAbsent)
      (Sys.init baseVide fun _ => pageUnAbsent) (appelUnAbsent true) := by
  refine not_always_of_final (fun s => s.tasks.isEmpty && (s.pages ()).saving)
    (fun s hs hR => ?_) (by decide +kernel)
  obtain ⟨hvide, hup⟩ := Bool.and_eq_true_iff.mp hs
  have hdown := hR.libre () fun t ht => by
    rw [List.isEmpty_iff.mp hvide] at ht
    cases ht
  rw [hdown] at hup
  cases hup

end EduConnect.Enseignant
