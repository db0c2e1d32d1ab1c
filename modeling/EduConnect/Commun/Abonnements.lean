import EduConnect.Lib.Moments
import EduConnect.Lib.Segments
import EduConnect.Lib.Subscriptions
import EduConnect.Schema

/-!
# The subscriptions of a home page

A home page subscribes to its streams at the end of a load, keeps the subscriptions in fields and
cancels what the fields hold when it is disposed of.  The pages differ in what they do before they
subscribe.
-/

namespace EduConnect.Commun

open Lib Prog

/-- The streams a home page listens to. -/
inductive Flux where
  | messages | notifications | devoirs | annonces
  deriving DecidableEq

/-- What all home pages have in common. -/
structure Ecran where
  abonnements : Subscriptions Flux := {}
  /-- The page has been disposed of. -/
  demonte : Bool := false

/-- `dispose`, which cancels the subscriptions to `flux`. -/
def Ecran.dispose (flux : List Flux) (e : Ecran) : Ecran where
  abonnements := e.abonnements.cancelAll flux
  demonte := true

/-- The page listens to the stream `f`. -/
def Ecran.ecoute (e : Ecran) (f : Flux) : Bool := decide (f ∈ e.abonnements.active.map Prod.fst)

/-- `setState(() {})`, which throws on a page that has been disposed of. -/
def rafraichir {Λ σ : Type} (vue : σ → Ecran) : Action Λ σ Unit := do
  let p ← page
  if (vue p).demonte then fail (.exception "setState() called after dispose()") else ret ()

/-! ## The document of an account -/

/-- The id of the first document of `c` that carries the account. -/
def ficheDe (b : Base) (c : Collection) (utilisateurId : String) : Option String :=
  ((⟨[.isEqualTo .utilisateurId (.str utilisateurId)], none, some 1⟩ : Query Champ).run
    (b.docs c)).head?.map Prod.fst

/-- Going on with that document. -/
theorem ends_fiche_bind {Λ σ α : Type} {S : Server} {b : Base} {c : Collection}
    {utilisateurId : String} {l : Λ} {f : List (String × Document) → Action Λ σ α}
    {Q : Except Err α → σ → Base → Prop} {p : σ}
    (haucune : ficheDe b c utilisateurId = none → (f []).Ends S.handler Q p b)
    (hune : ∀ id d docs, ficheDe b c utilisateurId = some id →
      (f ((id, d) :: docs)).Ends S.handler Q p b) :
    (Prog.bind (chercherPremier l c [.isEqualTo .utilisateurId (.str utilisateurId)]) f).Ends
      S.handler Q p b := by
  refine ends_chercherPremier_bind (fun _ => ?_) fun hrefus => nomatch hrefus
  unfold ficheDe at haucune hune
  rcases hrows : (⟨[.isEqualTo .utilisateurId (.str utilisateurId)], none, some 1⟩ :
    Query Champ).run (b.docs c) with _ | ⟨⟨id, d⟩, docs⟩
  · exact haucune (by rw [hrows]; rfl)
  · exact hune id d docs (by rw [hrows]; rfl)

/-- Documents named after their accounts. -/
theorem ficheDe_eq {b : Base} {c : Collection} {utilisateurId : String}
    (hc : ∀ id d, (b.docs c).find id = some d → d .utilisateurId = some (.str id))
    (hu : (b.doc c utilisateurId).isSome) : ficheDe b c utilisateurId = some utilisateurId := by
  obtain ⟨d, hd⟩ := Option.isSome_iff_exists.mp hu
  rw [ficheDe, Query.run_premier_of_id hc utilisateurId,
    show (b.docs c).find utilisateurId = some d from hd]
  rfl

/-! ## Subscriptions -/

section Lois

variable {ι Λ σ Ev : Type} (vue : σ → Ecran)

/-- At most one subscription of each stream is active, and none once the page has been disposed of
and its loads have ended. -/
def SansFuite (s : Sys ι Λ Requete Req.Ans Err σ Base) : Prop :=
  ∀ i, (vue (s.pages i)).abonnements.AtMostOne ∧
    ((vue (s.pages i)).demonte = true → (∀ t ∈ s.tasks, t.who ≠ i) →
      (vue (s.pages i)).abonnements.active = [])

/-- The step makes a subscription of the page of `i`. -/
def Abonne (P : Spec ι Λ Requete Req.Ans Err σ Base Ev) (s : Sys ι Λ Requete Req.Ans Err σ Base)
    (a : Act ι Ev Base) (i : ι) : Prop :=
  ∃ p, s.runs P a = some (i, p) ∧ (vue (s.pages i)).abonnements.next <
    (vue (p.seg i (s.pages i)).1).abonnements.next

/-- A step that makes a subscription finds the page as `C` says. -/
def AbonneSi (P : Spec ι Λ Requete Req.Ans Err σ Base Ev) (C : Ecran → Prop)
    (s : Sys ι Λ Requete Req.Ans Err σ Base) (a : Act ι Ev Base) : Prop :=
  ∀ i, Abonne vue P s a i → C (vue (s.pages i))

/-- A load leaves the subscriptions alone up to its end, which moves the page along `A`. -/
def Charge (A : Ecran → Ecran → Prop) (p : Action Λ σ Unit) : Prop :=
  ∀ x, p.Segs (fun x y => vue y = vue x) (fun _ x y => A (vue x) (vue y)) x x

variable {vue} {A : Ecran → Ecran → Prop} {p : Action Λ σ Unit} {i : ι} {x : σ}

/-- A load has ended, or is suspended and has changed nothing. -/
theorem Charge.seg (h : Charge vue A p) :
    ((p.seg i x).2 = none ∧ A (vue x) (vue (p.seg i x).1)) ∨
      ∃ t, (p.seg i x).2 = some t ∧ t.who = i ∧ vue (p.seg i x).1 = vue x ∧
        ∀ a, Charge vue A (t.k a) := by
  rcases (h x).seg (i := i) with ⟨hfin, -, hA⟩ | ⟨t, ht, hi, hvue, hk⟩
  · exact Or.inl ⟨hfin, hA⟩
  · exact Or.inr ⟨t, ht, hi, hvue, fun a x' => hk a x'⟩

theorem Charge.vue_seg (h : Charge vue A p) (hA : ∀ e, A e e) :
    A (vue x) (vue (p.seg i x).1) := by
  rcases h.seg (i := i) (x := x) with ⟨-, h⟩ | ⟨t, -, -, hvue, -⟩
  · exact h
  · rw [hvue]
    exact hA _

theorem Charge.task (h : Charge vue A p) : ∀ t ∈ (p.seg i x).2, ∀ a, Charge vue A (t.k a) := by
  intro t ht
  rcases h.seg (i := i) (x := x) with ⟨hfin, -⟩ | ⟨t', ht', -, -, hk⟩
  · rw [hfin] at ht
    cases ht
  · rw [ht'] at ht
    obtain rfl := Option.some.inj ht
    exact hk

theorem Charge.catching (h : Charge vue A p) : Charge vue A (p.catching fun _ => ret ()) := by
  refine fun x => segs_catching.mpr ((h x).mono fun a s₀ s hA => ?_)
  cases a with
  | error e => exact hA
  | ok a => exact hA

/-- The subscriptions are as they should be, and held in their fields. -/
structure Ecran.Bien (flux : List Flux) (e : Ecran) : Prop where
  unique : e.abonnements.AtMostOne
  suivis : e.abonnements.Tracked flux
  fini : e.demonte = true → e.abonnements.active = []

theorem Ecran.bien_of_vide {flux : List Flux} {e : Ecran} (h : e.abonnements.active = []) :
    e.Bien flux := by
  refine ⟨?_, Subscriptions.tracked_of_empty h, fun _ => h⟩
  unfold Subscriptions.AtMostOne
  rw [h]
  exact List.nodup_nil

theorem Ecran.Bien.dispose {flux : List Flux} {e : Ecran} (h : e.Bien flux) :
    (e.dispose flux).Bien flux :=
  Ecran.bien_of_vide (Subscriptions.active_cancelAll_of_tracked h.suivis)

/-- Subscribing on a page without subscriptions that has not been disposed of. -/
theorem Ecran.bien_listenAll {flux ks : List Flux} {e : Ecran} (h : e.abonnements.active = [])
    (hd : e.demonte = false) (hks : ks.Nodup) (hsub : ks ⊆ flux) :
    ({ e with abonnements := e.abonnements.listenAll ks } : Ecran).Bien flux := by
  refine ⟨Subscriptions.atMostOne_listenAll h hks,
    (Subscriptions.tracked_listenAll h hks).mono hsub, fun hd' => ?_⟩
  rw [show e.demonte = true from hd'] at hd
  cases hd

/-- The end of a load that refreshes its page before it subscribes. -/
def Ecran.Rafraichi (abonner : Subscriptions Flux → Subscriptions Flux) (e e' : Ecran) : Prop :=
  e' = e ∨ (e.demonte = false ∧ e' = { e with abonnements := abonner e.abonnements })

/-- Where the segment started does not matter beyond its subscriptions. -/
theorem segs_of_vue {x' y : σ} (hx : vue x' = vue x)
    (h : p.Segs (fun x y => vue y = vue x) (fun _ x y => A (vue x) (vue y)) x y) :
    p.Segs (fun x y => vue y = vue x) (fun _ x y => A (vue x) (vue y)) x' y := by
  induction p generalizing y with
  | ret a =>
    show A (vue x') (vue y)
    rw [hx]
    exact h
  | fail e =>
    show A (vue x') (vue y)
    rw [hx]
    exact h
  | read k ih => exact ih y h
  | write f p ih => exact ih h
  | await l r k ih => exact ⟨h.1.trans hx.symm, h.2⟩

/-- A load after a change of the page that leaves the subscriptions alone. -/
theorem Charge.apres {f : σ → σ} (hf : ∀ x, vue (f x) = vue x) (h : Charge vue A p) :
    Charge vue A ((setState f).bind fun _ => p) :=
  fun x => segs_setState_bind.mpr (segs_of_vue (hf x).symm (h (f x)))

/-- Refreshing a page changes nothing, whether it throws or not. -/
theorem segs_rafraichir_fin {Q : σ → σ → Prop} {Post : Except Err Unit → σ → σ → Prop} {s₀ s : σ}
    (h : ∀ a, Post a s₀ s) : (rafraichir vue : Action Λ σ Unit).Segs Q Post s₀ s := by
  refine segs_page_bind.mpr ?_
  by_cases hd : (vue s).demonte = true
  · rw [if_pos hd]
    exact h _
  · rw [if_neg hd]
    exact h _

/-- A load refreshes its page, unless it has been disposed of, before it subscribes. -/
theorem segs_rafraichir {abonner : Subscriptions Flux → Subscriptions Flux} {s₀ s : σ}
    (h : vue s = vue s₀) (hp : (vue s).demonte = false → p.Segs (fun x y => vue y = vue x)
      (fun _ x y => Ecran.Rafraichi abonner (vue x) (vue y)) s₀ s) :
    ((rafraichir vue).bind fun _ => p).Segs (fun x y => vue y = vue x)
      (fun _ x y => Ecran.Rafraichi abonner (vue x) (vue y)) s₀ s := by
  show ((if (vue s).demonte then fail (.exception "setState() called after dispose()")
    else ret ()).bind fun _ => p).Segs _ _ s₀ s
  rcases hd : (vue s).demonte with _ | _
  · exact hp hd
  · exact Or.inl h

/-- The end of such a load. -/
theorem Ecran.rafraichi_abonner (abonner : Subscriptions Flux → Subscriptions Flux)
    {e₀ e : Ecran} (h : e = e₀) (hd : e.demonte = false) :
    Ecran.Rafraichi abonner e₀ { e with abonnements := abonner e.abonnements } := by
  subst h
  exact Or.inr ⟨hd, rfl⟩

/-! ### What a step does to the subscriptions -/

section Pas

variable [DecidableEq ι] {P : Spec ι Λ Requete Req.Ans Err σ Base Ev} {flux : List Flux}
  {s s' : Sys ι Λ Requete Req.Ans Err σ Base} {a : Act ι Ev Base}

/-- The events of a page start its loads and dispose of it. -/
def Evenements (P : Spec ι Λ Requete Req.Ans Err σ Base Ev) (vue : σ → Ecran) (flux : List Flux)
    (A : Ecran → Ecran → Prop) : Prop :=
  ∀ i ev x p, P.on i ev x = some p → Charge vue A p ∨
    ((p.seg i x).2 = none ∧ vue (p.seg i x).1 = (vue x).dispose flux)

theorem Evenements.kind (hon : Evenements P vue flux A) (h : s.Kind (Charge vue A))
    (hstep : s.step P a = some s') : s'.Kind (Charge vue A) := by
  refine h.step (fun i p x hp => hp.task) (fun i ev x p hp t ht => ?_) hstep
  rcases hon i ev x p hp with hp | ⟨hfin, -⟩
  · exact hp.task t ht
  · rw [hfin] at ht
    cases ht

/-- One page runs a program, and moves along `A` or is disposed of; the others stay. -/
theorem Evenements.ecran (hon : Evenements P vue flux A) (hA : ∀ e, A e e)
    (h : s.Kind (Charge vue A)) (hstep : s.step P a = some s') :
    (s.runs P a = none ∧ s'.pages = s.pages) ∨ ∃ i p, s.runs P a = some (i, p) ∧
      (∀ j, j ≠ i → s'.pages j = s.pages j) ∧ s'.pages i = (p.seg i (s.pages i)).1 ∧
        (A (vue (s.pages i)) (vue (s'.pages i)) ∨
          vue (s'.pages i) = (vue (s.pages i)).dispose flux) := by
  cases h.moves hstep with
  | stays hruns hpages _ => exact Or.inl ⟨hruns, hpages⟩
  | runs i p hruns hp hpages _ =>
    refine Or.inr ⟨i, p, hruns, fun j hj => ?_, ?_, ?_⟩
    · rw [hpages, Function.update_of_ne hj]
    · rw [hpages, Function.update_self]
    · rw [hpages, Function.update_self]
      rcases hp with ⟨ev, -, hon'⟩ | ⟨-, hp⟩
      · exact (hon i ev _ p hon').imp (fun hp => hp.vue_seg hA) fun hp => hp.2
      · exact Or.inl (hp.vue_seg hA)

end Pas

/-! ### Pages that refresh before they subscribe -/

section Rafraichis

variable [DecidableEq ι] {P : Spec ι Λ Requete Req.Ans Err σ Base Ev} {flux : List Flux}
  {s s' : Sys ι Λ Requete Req.Ans Err σ Base} {a : Act ι Ev Base}
  {abonner : Subscriptions Flux → Subscriptions Flux} {C : Ecran → Prop}

/-- Nothing leaks exactly in the runs that subscribe where `C` holds, if `C` is what a subscription
needs. -/
theorem sansFuite_iff_of (hon : Evenements P vue flux (Ecran.Rafraichi abonner))
    (hnext : ∀ t, t.next < (abonner t).next)
    (hbien : ∀ e : Ecran, e.Bien flux → e.demonte = false → C e →
      ({ e with abonnements := abonner e.abonnements } : Ecran).Bien flux)
    (hperdu : ∀ e : Ecran, e.Bien flux → ¬C e → ¬(abonner e.abonnements).AtMostOne) (b : Base)
    {pages : ι → σ} (hpages : ∀ i, (vue (pages i)).Bien flux) (as : List (Act ι Ev Base)) :
    Always (Sys.step P) (SansFuite vue) (Sys.init b pages) as ↔
      AllMeet (Sys.step P) (AbonneSi vue P C) (Sys.init b pages) as := by
  have hrefl : ∀ e, Ecran.Rafraichi abonner e e := fun e => Or.inl rfl
  refine always_iff_allMeet_of_loss (Q := fun s => s.Kind (Charge vue (Ecran.Rafraichi abonner)) ∧
    ∀ i, (vue (s.pages i)).Bien flux) ?_ ?_ ?_ ⟨Sys.Kind.init _ _, hpages⟩ as
  · exact fun s h i => ⟨(h.2 i).unique, fun hd _ => (h.2 i).fini hd⟩
  · rintro s a s' ⟨hkind, hs⟩ hstep hcond
    refine ⟨hon.kind hkind hstep, fun j => ?_⟩
    rcases hon.ecran hrefl hkind hstep with ⟨-, hpages⟩ | ⟨i, p, hruns, hautres, hpage, hvue⟩
    · rw [hpages]
      exact hs j
    by_cases hji : j = i
    · subst hji
      rcases hvue with (heq | ⟨hd, heq⟩) | heq
      · rw [heq]
        exact hs j
      · have habonne : Abonne vue P s a j := by
          refine ⟨p, hruns, ?_⟩
          rw [← hpage, heq]
          exact hnext _
        rw [heq]
        exact hbien _ (hs j) hd (hcond j habonne)
      · rw [heq]
        exact (hs j).dispose
    · rw [hautres j hji]
      exact hs j
  · rintro s a s' ⟨hkind, hs⟩ hstep hcond hP
    obtain ⟨i, hi⟩ := not_forall.mp hcond
    obtain ⟨⟨p, hruns, hlt⟩, hC⟩ := Classical.not_imp.mp hi
    rcases hon.ecran hrefl hkind hstep with ⟨hnone, -⟩ | ⟨i', p', hruns', -, hpage, hvue⟩
    · rw [hnone] at hruns
      cases hruns
    obtain ⟨rfl, rfl⟩ := Prod.mk.inj (Option.some.inj (hruns.symm.trans hruns'))
    rw [← hpage] at hlt
    rcases hvue with (heq | ⟨-, heq⟩) | heq
    · rw [heq] at hlt
      exact lt_irrefl _ hlt
    · have hunique := (hP i).1
      rw [heq] at hunique
      exact hperdu _ (hs i) hC hunique
    · rw [heq, Ecran.dispose, Subscriptions.next_cancelAll] at hlt
      exact lt_irrefl _ hlt

end Rafraichis

end Lois

end EduConnect.Commun
