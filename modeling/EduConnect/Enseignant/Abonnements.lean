import EduConnect.Enseignant.Accueil
import EduConnect.Lib.Lock

/-!
# The subscriptions of the home page of a teacher

`HomeEnseignant` loads once, and it subscribes before it refreshes its page: a load which is still
suspended when the page is disposed of subscribes all the same.
-/

namespace EduConnect.Enseignant

open Lib Prog Commun

/-- The end of a load, which may subscribe to some of the streams. -/
def Souscrit (e e' : Ecran) : Prop :=
  e' = e ∨ ∃ l : List Flux, l ≠ [] ∧ l.Nodup ∧ l ⊆ HomeEnseignant.flux ∧
    e' = { e with abonnements := e.abonnements.listenAll l }

theorem souscrit_souscrire {e₀ : Ecran} {x : HomeEnseignant} (h : x.ecran = e₀) :
    Souscrit e₀ x.souscrire.ecran := by
  subst h
  have hflux : x.fluxCharges ≠ [] ∧ x.fluxCharges.Nodup ∧ x.fluxCharges ⊆ HomeEnseignant.flux := by
    unfold HomeEnseignant.fluxCharges
    rcases x.enseignantId.isSome with _ | _ <;> decide
  exact Or.inr ⟨x.fluxCharges, hflux.1, hflux.2.1, hflux.2.2, rfl⟩

/-- A load leaves the subscriptions alone up to its end. -/
theorem charge_loadUserData : Charge HomeEnseignant.ecran Souscrit HomeEnseignant.loadUserData := by
  have herr : ∀ (s₀ s : HomeEnseignant), s.ecran = s₀.ecran → Souscrit s₀.ecran s.ecran :=
    fun s₀ s h => Or.inl h
  refine fun x => segs_page_bind.mpr ?_
  refine Keeps.segs_bind (fun v => .ite trivial (keeps_call _ _)) rfl (fun e => herr) ?_
  rintro (_ | data) s₀ s h
  · exact herr s₀ s h
  refine Segs.ofExcept_bind (fun m _ => ?_) fun e _ => herr s₀ s h
  refine segs_setState_bind.mpr ?_
  refine Keeps.segs_bind (fun v => keeps_call _ _) h (fun e => herr) fun docs s₀ s h => ?_
  refine Keeps.segs_bind (fun v => ?_) h (fun e => herr) fun _ s₀ s h => ?_
  · rcases docs with _ | ⟨doc, docs⟩
    · trivial
    · exact (keeps_setState _).mpr fun y hy => hy
  refine Keeps.segs_bind (fun v => ?_) h (fun e => herr) fun _ s₀ s h => ?_
  · refine .catching (.bind keeps_page fun p => .bind (.ite trivial (keeps_call _ _)) ?_)
      fun e => trivial
    rintro (_ | data)
    · trivial
    exact .ite (.bind (keeps_ofExcept _) fun f => (keeps_setState _).mpr fun y hy => hy) trivial
  have hfin := souscrit_souscrire h
  refine segs_setState_bind.mpr (segs_bind.mpr (segs_page_bind.mpr ?_))
  rcases s.souscrire.utilisateurModele with _ | m
  · exact hfin
  · exact segs_rafraichir_fin fun _ => hfin

/-- What is suspended of a load, which has begun. -/
structure Chargement (p : Action EtapeAccueil HomeEnseignant Unit) : Prop where
  charge : Charge HomeEnseignant.ecran Souscrit p
  demarre : p.Keeps fun x => x.demarre = true

theorem chargement_initState : Chargement
    ((setState fun p => { p with demarre := true }).bind fun _ => HomeEnseignant.loadUserData) := by
  refine ⟨charge_loadUserData.apres fun x => rfl, ?_⟩
  refine .bind ((keeps_setState _).mpr fun x _ => rfl) fun _ => ?_
  refine HomeEnseignant.keeps_loadUserData ?_ ?_ ?_ ?_ ?_ <;> intros <;> assumption

theorem Chargement.seg {ι : Type} {i : ι} {p : Action EtapeAccueil HomeEnseignant Unit}
    (h : Chargement p) (x : HomeEnseignant) :
    ((p.seg i x).2 = none ∧ Souscrit x.ecran (p.seg i x).1.ecran) ∨
      ∃ t, (p.seg i x).2 = some t ∧ t.who = i ∧ (p.seg i x).1.ecran = x.ecran ∧
        ∀ a, Chargement (t.k a) := by
  rcases h.charge.seg (i := i) (x := x) with hfin | ⟨t, ht, hi, hvue, hk⟩
  · exact Or.inl hfin
  · exact Or.inr ⟨t, ht, hi, hvue, fun a => ⟨hk a, ((h.demarre.seg x).2 t ht a)⟩⟩

/-! ## The one load of a page -/

section Runs

variable {ι : Type}

/-- A page has one load at most, and no subscriptions before it ends. -/
structure UnSeulChargement (s : SystemeAccueil ι) : Prop where
  seule : s.tasks.Pairwise fun t t' => t.who ≠ t'.who
  chargements : ∀ t ∈ s.tasks, ∀ a, Chargement (t.k a)
  suspendus : ∀ t ∈ s.tasks, (s.pages t.who).demarre = true ∧
    (s.pages t.who).ecran.abonnements.active = []
  avant : ∀ i, (s.pages i).demarre = false → (s.pages i).ecran.abonnements.active = []
  bien : ∀ i, (s.pages i).ecran.Bien HomeEnseignant.flux

variable {S : Server} {s s' : SystemeAccueil ι} {a : Act ι EvAccueil Base}

theorem UnSeulChargement.sansFuite (h : UnSeulChargement s) : SansFuite HomeEnseignant.ecran s :=
  fun i => ⟨(h.bien i).unique, fun hd _ => (h.bien i).fini hd⟩

theorem UnSeulChargement.eraseIdx (h : UnSeulChargement s) {n : ℕ}
    {t : Task ι EtapeAccueil Requete Req.Ans Err HomeEnseignant} (ht : s.tasks[n]? = some t) :
    UnSeulChargement { s with tasks := s.tasks.eraseIdx n } where
  seule := (pairwise_eraseIdx Ne.symm ht h.seule).2
  chargements t ht := h.chargements t (List.mem_of_mem_eraseIdx ht)
  suspendus t ht := h.suspendus t (List.mem_of_mem_eraseIdx ht)
  avant := h.avant
  bien := h.bien

theorem UnSeulChargement.answer (h : UnSeulChargement s) {n : ℕ}
    {t : Task ι EtapeAccueil Requete Req.Ans Err HomeEnseignant} (ht : s.tasks[n]? = some t)
    (a : Except Err (Req.Ans t.req)) : UnSeulChargement (s.answer n t a) := by
  obtain ⟨hfirst, hrest⟩ := pairwise_eraseIdx Ne.symm ht h.seule
  obtain ⟨hn, -⟩ := List.getElem?_eq_some_iff.mp ht
  have hmem := List.mem_of_getElem? ht
  refine ⟨?_, fun t' ht' => ?_, fun t' ht' => ?_, h.avant, h.bien⟩
  · refine ((List.set_perm_cons_eraseIdx hn _).pairwise_iff Ne.symm).mpr ?_
    exact List.pairwise_cons.mpr ⟨hfirst, hrest⟩
  · rcases List.mem_or_eq_of_mem_set ht' with ht' | rfl
    · exact h.chargements t' ht'
    · exact h.chargements t hmem
  · rcases List.mem_or_eq_of_mem_set ht' with ht' | rfl
    · exact h.suspendus t' ht'
    · exact h.suspendus t hmem

variable [DecidableEq ι] {i : ι} {p : Action EtapeAccueil HomeEnseignant Unit}

/-- The load of a page without tasks and subscriptions goes on.  If it subscribes, the page must not
have been disposed of. -/
theorem UnSeulChargement.start (h : UnSeulChargement s) (hseul : ∀ t ∈ s.tasks, t.who ≠ i)
    (hp : Chargement p) (hvide : (s.pages i).ecran.abonnements.active = [])
    (hdem : (p.seg i (s.pages i)).1.demarre = true)
    (hcond : (s.pages i).ecran.abonnements.next < (p.seg i (s.pages i)).1.ecran.abonnements.next →
      (s.pages i).ecran.demonte = false) : UnSeulChargement (s.start i p) := by
  have hpage : (s.start i p).pages i = (p.seg i (s.pages i)).1 := Function.update_self ..
  have hautres : ∀ j, j ≠ i → (s.start i p).pages j = s.pages j :=
    fun j hj => Function.update_of_ne hj _ _
  have hanciennes : ∀ t ∈ s.tasks, ((s.start i p).pages t.who).demarre = true ∧
      ((s.start i p).pages t.who).ecran.abonnements.active = [] := by
    intro t ht
    rw [hautres _ (hseul t ht)]
    exact h.suspendus t ht
  have havant : ∀ j, ((s.start i p).pages j).demarre = false →
      ((s.start i p).pages j).ecran.abonnements.active = [] := by
    intro j hj
    by_cases hji : j = i
    · subst hji
      rw [hpage, hdem] at hj
      cases hj
    · rw [hautres j hji] at hj ⊢
      exact h.avant j hj
  have hbien : (p.seg i (s.pages i)).1.ecran.Bien HomeEnseignant.flux →
      ∀ j, ((s.start i p).pages j).ecran.Bien HomeEnseignant.flux := by
    intro hi j
    by_cases hji : j = i
    · subst hji
      rwa [hpage]
    · rw [hautres j hji]
      exact h.bien j
  rcases hp.seg (i := i) (s.pages i) with ⟨hfin, hsouscrit⟩ | ⟨t, ht, hi, hecran, hk⟩
  · have htasks : (s.start i p).tasks = s.tasks := by
      show s.tasks ++ (p.seg i (s.pages i)).2.toList = s.tasks
      rw [hfin]
      exact List.append_nil _
    refine ⟨htasks ▸ h.seule, htasks ▸ h.chargements, htasks ▸ hanciennes, havant, hbien ?_⟩
    rcases hsouscrit with heq | ⟨l, hne, hnodup, hsub, heq⟩
    · rw [heq]
      exact h.bien i
    · rw [heq, Subscriptions.next_listenAll] at hcond
      rw [heq]
      have hpos := List.length_pos_iff.mpr hne
      exact Ecran.bien_listenAll hvide (hcond (Nat.lt_add_of_pos_right hpos)) hnodup hsub
  · have htasks : (s.start i p).tasks = s.tasks ++ [t] := by
      show s.tasks ++ (p.seg i (s.pages i)).2.toList = s.tasks ++ [t]
      rw [ht]
      rfl
    refine ⟨?_, ?_, ?_, havant, hbien (hecran ▸ h.bien i)⟩
    · rw [htasks]
      refine List.pairwise_append.mpr ⟨h.seule, List.pairwise_singleton _ _, fun t' ht' u hu => ?_⟩
      obtain rfl := List.mem_singleton.mp hu
      rw [hi]
      exact hseul t' ht'
    · rw [htasks]
      exact List.forall_mem_append.mpr ⟨h.chargements, List.forall_mem_singleton.mpr hk⟩
    · rw [htasks]
      refine List.forall_mem_append.mpr ⟨hanciennes, List.forall_mem_singleton.mpr ?_⟩
      rw [hi, hpage, hecran]
      exact ⟨hdem, hvide⟩

/-- An event that does not load may dispose of the page, no more. -/
theorem UnSeulChargement.setState (h : UnSeulChargement s) {f : HomeEnseignant → HomeEnseignant}
    (hdem : (f (s.pages i)).demarre = (s.pages i).demarre)
    (hecran : (f (s.pages i)).ecran = (s.pages i).ecran ∨
      (f (s.pages i)).ecran = (s.pages i).ecran.dispose HomeEnseignant.flux) :
    UnSeulChargement (s.start i (setState f)) := by
  have hvide : (f (s.pages i)).ecran.Bien HomeEnseignant.flux ∧
      ((s.pages i).ecran.abonnements.active = [] →
        (f (s.pages i)).ecran.abonnements.active = []) := by
    rcases hecran with heq | heq
    · rw [heq]
      exact ⟨h.bien i, id⟩
    · rw [heq]
      exact ⟨(h.bien i).dispose,
        fun _ => Subscriptions.active_cancelAll_of_tracked (h.bien i).suivis⟩
  have hpage : (s.start i (Prog.setState f)).pages i = f (s.pages i) := Function.update_self ..
  have hautres : ∀ j, j ≠ i → (s.start i (Prog.setState f)).pages j = s.pages j :=
    fun j hj => Function.update_of_ne hj _ _
  have htasks : (s.start i (Prog.setState f)).tasks = s.tasks := List.append_nil _
  refine ⟨htasks ▸ h.seule, htasks ▸ h.chargements, htasks ▸ fun t ht => ?_, fun j hj => ?_,
    fun j => ?_⟩
  · obtain ⟨hd, ha⟩ := h.suspendus t ht
    by_cases hti : t.who = i
    · rw [hti] at hd ha
      rw [hti, hpage]
      exact ⟨hdem.trans hd, hvide.2 ha⟩
    · rw [hautres _ hti]
      exact ⟨hd, ha⟩
  · by_cases hji : j = i
    · subst hji
      rw [hpage] at hj ⊢
      exact hvide.2 (h.avant j (hdem.symm.trans hj))
    · rw [hautres j hji] at hj ⊢
      exact h.avant j hj
  · by_cases hji : j = i
    · subst hji
      rw [hpage]
      exact hvide.1
    · rw [hautres j hji]
      exact h.bien j

/-- A load that subscribes on a page which has been disposed of leaks its subscriptions. -/
theorem not_sansFuite_start (hseul : ∀ t ∈ s.tasks, t.who ≠ i) (hp : Chargement p)
    (hlt : (s.pages i).ecran.abonnements.next < (p.seg i (s.pages i)).1.ecran.abonnements.next)
    (hd : (s.pages i).ecran.demonte = true) : ¬SansFuite HomeEnseignant.ecran (s.start i p) := by
  intro hP
  have hpage : (s.start i p).pages i = (p.seg i (s.pages i)).1 := Function.update_self ..
  rcases hp.seg (i := i) (s.pages i) with ⟨hfin, heq | ⟨l, hne, -, -, heq⟩⟩ | ⟨t, -, -, heq, -⟩
  · rw [heq] at hlt
    exact lt_irrefl _ hlt
  · have htasks : ∀ t ∈ (s.start i p).tasks, t.who ≠ i := by
      show ∀ t ∈ s.tasks ++ (p.seg i (s.pages i)).2.toList, t.who ≠ i
      rw [hfin, Option.toList_none, List.append_nil]
      exact hseul
    have hactive := (hP i).2
    rw [hpage, heq] at hactive
    have hkeys := Subscriptions.active_listenAll (s.pages i).ecran.abonnements l
    rw [hactive hd htasks] at hkeys
    exact hne (List.append_eq_nil_iff.mp hkeys.symm).2
  · rw [heq] at hlt
    exact lt_irrefl _ hlt

omit [DecidableEq ι] in
/-- What an event runs: the load, or a change that subscribes to nothing. -/
theorem programme_abonnements {ev : EvAccueil} {x : HomeEnseignant} (h : x.programme ev = some p) :
    (x.demarre = false ∧ Chargement p ∧ (p.seg i x).1.demarre = true) ∨
      ∃ f : HomeEnseignant → HomeEnseignant, p = Prog.setState f ∧ (f x).demarre = x.demarre ∧
        ((f x).ecran = x.ecran ∨ (f x).ecran = x.ecran.dispose HomeEnseignant.flux) := by
  cases ev with
  | initState =>
    obtain ⟨hd, h⟩ := Option.ite_none_left_eq_some.mp h
    obtain rfl := Option.some.inj h
    refine Or.inl ⟨Bool.eq_false_of_not_eq_true hd, chargement_initState, ?_⟩
    exact ((chargement_initState.demarre.seg { x with demarre := true }).1 rfl)
  | dispose =>
    obtain ⟨-, h⟩ := Option.ite_none_left_eq_some.mp h
    exact Or.inr ⟨_, (Option.some.inj h).symm, rfl, Or.inr rfl⟩
  | rebuild =>
    obtain ⟨-, h⟩ := Option.ite_none_left_eq_some.mp h
    refine Or.inr ⟨_, (Option.some.inj h).symm, ?_⟩
    unfold HomeEnseignant.build
    rcases x.utilisateurModele with _ | m
    · exact ⟨rfl, Or.inl rfl⟩
    · exact ⟨rfl, Or.inl rfl⟩
  | tap index =>
    obtain ⟨-, h⟩ := Option.ite_none_right_eq_some.mp h
    exact Or.inr ⟨_, (Option.some.inj h).symm, rfl, Or.inl rfl⟩

omit [DecidableEq ι] in
theorem UnSeulChargement.avant_initState (h : UnSeulChargement s)
    (hd : (s.pages i).demarre = false) : ∀ t ∈ s.tasks, t.who ≠ i := by
  rintro t ht rfl
  rw [(h.suspendus t ht).1] at hd
  cases hd

/-- A step that subscribes on no page which has been disposed of keeps the invariant. -/
theorem UnSeulChargement.step (h : UnSeulChargement s)
    (hstep : s.step (accueilsEnseignant ι S) a = some s')
    (hcond : AbonneSi HomeEnseignant.ecran (accueilsEnseignant ι S) (fun e => e.demonte = false)
      s a) : UnSeulChargement s' := by
  cases Sys.step_cases hstep with
  | @event i ev p hp =>
    rcases programme_abonnements (i := i) hp with ⟨hd, hc, hdem⟩ | ⟨f, rfl, hdem, hecran⟩
    · refine h.start (h.avant_initState hd) hc (h.avant i hd) hdem fun hlt => hcond i ⟨p, ?_, hlt⟩
      show Option.map _ ((accueilsEnseignant ι S).on i ev (s.pages i)) = _
      rw [hp]
      rfl
    · exact h.setState hdem hecran
  | serve ht hans =>
    have hsuite := h.answer ht ((accueilsEnseignant ι S).handler _ s.base).1
    exact ⟨hsuite.seule, hsuite.chargements, hsuite.suspendus, hsuite.avant, hsuite.bien⟩
  | lose ht hans => exact h.answer ht _
  | @resume n t b ht hans =>
    have hmem := List.mem_of_getElem? ht
    have hk := h.chargements t hmem b
    obtain ⟨hd, hvide⟩ := h.suspendus t hmem
    refine (h.eraseIdx ht).start (fun t' ht' => ?_) hk hvide ((hk.demarre.seg _).1 hd) fun hlt => ?_
    · exact ((pairwise_eraseIdx Ne.symm ht h.seule).1 t' ht').symm
    · refine hcond t.who ⟨t.k b, ?_, hlt⟩
      obtain ⟨i, l, r, k, _ | c⟩ := t
      · cases hans
      · obtain rfl : c = b := Option.some.inj hans
        rw [Sys.runs, ht]
  | other b => exact ⟨h.seule, h.chargements, h.suspendus, h.avant, h.bien⟩

/-- A step that subscribes on a page which has been disposed of leaks. -/
theorem UnSeulChargement.perdu (h : UnSeulChargement s)
    (hstep : s.step (accueilsEnseignant ι S) a = some s')
    (habonne : Abonne HomeEnseignant.ecran (accueilsEnseignant ι S) s a i)
    (hd : (s.pages i).ecran.demonte = true) : ¬SansFuite HomeEnseignant.ecran s' := by
  obtain ⟨p, hruns, hlt⟩ := habonne
  rcases Sys.step_of_runs hstep hruns with ⟨ev, rfl, hp, rfl⟩ | ⟨n, t, b, ht, rfl, rfl, rfl⟩
  · rcases programme_abonnements (i := i) hp with ⟨hdem, hc, -⟩ | ⟨f, rfl, hdem, hecran⟩
    · exact not_sansFuite_start (h.avant_initState hdem) hc hlt hd
    · have hlt : (s.pages i).ecran.abonnements.next < (f (s.pages i)).ecran.abonnements.next := hlt
      rcases hecran with heq | heq
      · rw [heq] at hlt
        exact absurd hlt (lt_irrefl _)
      · rw [heq, Ecran.dispose, Subscriptions.next_cancelAll] at hlt
        exact absurd hlt (lt_irrefl _)
  · have hmem := List.mem_of_getElem? ht
    refine not_sansFuite_start (fun t' ht' => ?_) (h.chargements t hmem b) hlt hd
    exact ((pairwise_eraseIdx Ne.symm ht h.seule).1 t' ht').symm

/-- The home page of a teacher leaks nothing exactly if no load subscribes after its disposal. -/
theorem sansFuite_enseignant_iff (b : Base) (utilisateurs etablissements : ι → String)
    (as : List (Act ι EvAccueil Base)) :
    Always (Sys.step (accueilsEnseignant ι S)) (SansFuite HomeEnseignant.ecran)
        (departAccueil b utilisateurs etablissements) as ↔
      AllMeet (Sys.step (accueilsEnseignant ι S)) (AbonneSi HomeEnseignant.ecran
          (accueilsEnseignant ι S) fun e => e.demonte = false)
        (departAccueil b utilisateurs etablissements) as := by
  refine always_iff_allMeet_of_loss (Q := UnSeulChargement) (fun s h => h.sansFuite)
    (fun s a s' h hstep hcond => h.step hstep hcond) (fun s a s' h hstep hcond => ?_) ?_ as
  · obtain ⟨i, hi⟩ := not_forall.mp hcond
    obtain ⟨habonne, hd⟩ := Classical.not_imp.mp hi
    exact h.perdu hstep habonne (Bool.eq_true_of_not_eq_false hd)
  · refine ⟨List.Pairwise.nil, fun t ht => ?_, fun t ht => ?_, fun i _ => rfl,
      fun i => Ecran.bien_of_vide rfl⟩
    · cases ht
    · cases ht

end Runs

end EduConnect.Enseignant
