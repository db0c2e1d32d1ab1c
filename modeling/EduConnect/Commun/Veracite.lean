import EduConnect.Commun.Session

/-!
# Is the controller right about the session?

The machine of the calls of `_handleLogin`, `connecter`, `deconnecter` and `logoutUser`, each run to
its end with its own faults, and the condition under which each call keeps the controller right.
-/

namespace EduConnect.Commun

open Lib Prog

/-! ## The machine -/

inductive Appel where
  | connecter (email motDePasse : String)
  | handleLogin (email password : String) (rememberMe : Bool)
  | deconnecter
  | logoutUser

namespace Appel

def programme (toLowerCase : String → String) : Appel → Action Unit Application Unit
  | connecter email motDePasse => do
    let _ ← Commun.connecter email motDePasse
    ret ()
  | handleLogin email password rememberMe =>
    Commun.handleLogin toLowerCase email password rememberMe
  | deconnecter => Commun.deconnecter
  | logoutUser => Commun.logoutUser

def EstLogin : Appel → Prop
  | handleLogin _ _ _ => True
  | _ => False

end Appel

/-- The application and the data, with the last call and the application before it. -/
structure Etat where
  app : Application
  base : Base
  avant : Application := {}
  dernier : Option Appel := none

namespace Etat

variable (toLowerCase : String → String) (S : Server)

/-- One call, run to its end under the faults it meets. -/
def appeler (s : Etat) (c : Appel × List (Option Err)) : Option Etat :=
  let x := (c.1.programme toLowerCase).exec (pannes S) s.app (s.base, c.2)
  some ⟨x.2.1, x.2.2.1, s.app, some c.1⟩

/-- The application as it starts, without a session. -/
def demarrage (b : Base) : Etat := ⟨{}, { b with session := none }, {}, none⟩

end Etat

/-! ## What should hold -/

/-- The controller tells the truth about the session. -/
structure Veridique (a : ControleurAuth) (b : Base) : Prop where
  connecte : a.statut = .connecte ↔ b.session.isSome
  utilisateur : a.statut = .connecte → a.utilisateurFirebase = b.session
  role : a.statut = .connecte → ∃ u r, b.session = some u ∧ roleDe b u = some r ∧ a.role = some r
  ferme : a.statut = .erreur ∨ a.statut = .deconnecte →
    a.utilisateurFirebase = none ∧ a.role = none ∧ b.session = none

/-- The controller is right, and a login that did not go to a home page left no session. -/
def Etat.Juste (s : Etat) : Prop :=
  Veridique s.app.auth s.base ∧
    ((∃ c, s.dernier = some c ∧ c.EstLogin) → ¬VersAccueil s.avant s.app → s.base.session = none)

/-! ## When a call keeps it -/

/-- Firebase refuses the sign-in, or the request is lost. -/
def Refusee (b : Base) (f : List (Option Err)) (email motDePasse : String) : Prop :=
  nextFault f ≠ none ∨ compteDe b email motDePasse = none

/-- The condition on a call: a refused sign-in finds no session, an accepted one succeeds to its
end, and `logoutUser` does not close a session. -/
def Sure (toLowerCase : String → String) (s : Etat) (c : Appel × List (Option Err)) : Prop :=
  match c.1 with
  | .connecter email motDePasse =>
    Refusee s.base c.2 email motDePasse ∧ s.base.session = none ∨
      ∃ u, nextFault c.2 = none ∧ compteDe s.base email motDePasse = some u ∧
        UtilisateurCharge s.base u c.2.tail
  | .handleLogin email password _ =>
    Refusee s.base c.2 (trim email) (trim password) ∧ s.base.session = none ∨
      ∃ u, nextFault c.2 = none ∧ compteDe s.base (trim email) (trim password) = some u ∧
        UtilisateurCharge s.base u c.2.tail ∧
        AccueilOuvert toLowerCase s.base u c.2.tail.tail.tail.tail
  | .deconnecter => True
  | .logoutUser => s.base.session = none ∨ ¬SessionFermee s.base c.2

section Etapes

variable {toLowerCase : String → String} {S : Server} {s s' : Etat} {f : List (Option Err)}
  {a : ControleurAuth} {b b' : Base}

/-- An open session contradicts an error of the controller. -/
theorem not_veridique_erreur {m : Option String} {u : String} (hs : b.session = some u) :
    ¬Veridique { messageErreur := m, statut := .erreur } b := by
  intro h
  have hnone := (h.ferme (.inl rfl)).2.2
  rw [hs] at hnone
  exact nomatch hnone

theorem veridique_connecte {u : String} {r : RoleModele} {m : Option String}
    (hs : b.session = some u) (hr : roleDe b u = some r) :
    Veridique ⟨some u, some r, .connecte, m⟩ b where
  connecte := by simp [hs]
  utilisateur _ := hs.symm
  role _ := ⟨u, r, hs, hr, rfl⟩
  ferme h := by simp at h

theorem veridique_deconnecte (hs : b.session = none) : Veridique {} b where
  connecte := by simp [hs]
  utilisateur h := nomatch h
  role h := nomatch h
  ferme _ := ⟨rfl, rfl, hs⟩

/-- A refused sign-in is told truthfully exactly when there was no session. -/
theorem veridique_refus_iff (hcours : a.statut ≠ .enCours) (h : Veridique a b) {m : Option String} :
    Veridique { a with messageErreur := m, statut := .erreur } b ↔ b.session = none := by
  constructor
  · exact fun h' => (h'.ferme (.inl rfl)).2.2
  · intro hs
    have hferme : a.statut = .erreur ∨ a.statut = .deconnecte := by
      cases hstatut : a.statut with
      | deconnecte => exact .inr rfl
      | erreur => exact .inl rfl
      | enCours => exact absurd hstatut hcours
      | connecte =>
        have hsome := h.connecte.mp hstatut
        rw [hs] at hsome
        exact nomatch hsome
    obtain ⟨hu, hr, -⟩ := h.ferme hferme
    exact ⟨by simp [hs], (fun h => nomatch h), (fun h => nomatch h), fun _ => ⟨hu, hr, hs⟩⟩

/-- What is true stays true when the session and the roles do not change. -/
theorem Veridique.congr {a' : ControleurAuth} (h : Veridique a b)
    (ha : a' = { a with messageErreur := a'.messageErreur }) (hs : b'.session = b.session)
    (hr : ∀ u, roleDe b' u = roleDe b u) : Veridique a' b' := by
  obtain ⟨h₁, h₂, h₃, h₄⟩ := h
  rw [ha]
  refine ⟨by rw [hs]; exact h₁, by rw [hs]; exact h₂, fun hc => ?_, by rw [hs]; exact h₄⟩
  obtain ⟨u, r, hu, hr', har⟩ := h₃ hc
  exact ⟨u, r, hs.trans hu, (hr u).trans hr', har⟩

theorem not_refusee {email motDePasse u : String} (hf : nextFault f = none)
    (hu : compteDe b email motDePasse = some u) : ¬Refusee b f email motDePasse := by
  rintro (hrefus | hrefus)
  · exact hrefus hf
  · rw [hu] at hrefus
    cases hrefus

/-- `connecter` keeps the controller right exactly under its condition. -/
theorem veridique_connecter_iff {p : Application} (hcours : p.auth.statut ≠ .enCours)
    (h : Veridique p.auth b) (email motDePasse : String) :
    (connecter email motDePasse).Ends (pannes S) (fun _ p' x => Veridique p'.auth x.1 ↔
      Refusee b f email motDePasse ∧ b.session = none ∨
        ∃ u, nextFault f = none ∧ compteDe b email motDePasse = some u ∧
          UtilisateurCharge b u f.tail) p (b, f) := by
  refine ends_connecter (fun hrefus => ?_) (fun u r hf hu hc hr => ?_) fun u hf hu hc m b' f' hs => ?_
  · refine (veridique_refus_iff hcours h).trans ⟨fun hs => .inl ⟨hrefus, hs⟩, ?_⟩
    rintro (⟨-, hs⟩ | ⟨u, hf, hu, -⟩)
    · exact hs
    · exact absurd hrefus (not_refusee hf hu)
  · refine iff_of_true (veridique_connecte avecStatut_session ?_) (.inr ⟨u, hf, hu, hc⟩)
    exact (roleDe_avecStatut u).trans hr
  · refine iff_of_false (not_veridique_erreur hs) ?_
    rintro (⟨hrefus, -⟩ | ⟨u', -, hu', hc'⟩)
    · exact not_refusee hf hu hrefus
    · obtain rfl : u = u' := Option.some.inj (hu.symm.trans hu')
      exact hc hc'

/-- `_handleLogin` keeps it, and leaves no session without a home page, exactly under its own. -/
theorem juste_handleLogin_iff {p : Application} (hcours : p.auth.statut ≠ .enCours)
    (h : Veridique p.auth b) (email password : String) (rememberMe : Bool) :
    (handleLogin toLowerCase email password rememberMe).Ends (pannes S) (fun _ p' x =>
      (Veridique p'.auth x.1 ∧ (¬VersAccueil p p' → x.1.session = none)) ↔
      Refusee b f (trim email) (trim password) ∧ b.session = none ∨
        ∃ u, nextFault f = none ∧ compteDe b (trim email) (trim password) = some u ∧
          UtilisateurCharge b u f.tail ∧ AccueilOuvert toLowerCase b u f.tail.tail.tail.tail)
      p (b, f) := by
  refine ends_handleLogin (fun hrefus _ p' f' hp hvers => ?_)
    (fun u r hf hu hc hr _ p' b' f' hp hs _ hr' hvers => ?_)
    fun u hf hu hc _ _ p' b' f' _ hs hvers => ?_
  · rw [hp, veridique_refus_iff hcours h]
    constructor
    · exact fun hs => .inl ⟨hrefus, hs.1⟩
    · rintro (⟨-, hs⟩ | ⟨u, hf, hu, -⟩)
      · exact ⟨hs, fun _ => hs⟩
      · exact absurd hrefus (not_refusee hf hu)
  · rw [hp]
    constructor
    · rintro ⟨-, hnone⟩
      refine .inr ⟨u, hf, hu, hc, hvers.mp ?_⟩
      by_contra hferme
      have hnone := hnone hferme
      rw [hs] at hnone
      exact nomatch hnone
    · rintro (⟨hrefus, -⟩ | ⟨u', -, hu', -, haccueil⟩)
      · exact absurd hrefus (not_refusee hf hu)
      · obtain rfl : u = u' := Option.some.inj (hu.symm.trans hu')
        exact ⟨veridique_connecte hs hr', fun hferme => absurd (hvers.mpr haccueil) hferme⟩
  · refine iff_of_false (fun hjuste => ?_) ?_
    · have hnone := hjuste.2 hvers
      rw [hs] at hnone
      exact nomatch hnone
    · rintro (⟨hrefus, -⟩ | ⟨u', -, hu', hc', -⟩)
      · exact not_refusee hf hu hrefus
      · obtain rfl : u = u' := Option.some.inj (hu.symm.trans hu')
        exact hc hc'

/-- `deconnecter` always keeps it. -/
theorem veridique_deconnecter {p : Application} (h : Veridique p.auth b) :
    deconnecter.Ends (pannes S) (fun _ p' x => Veridique p'.auth x.1) p (b, f) := by
  simp only [deconnecter, setAuth, bind_eq]
  refine ends_catching.mpr (ends_bind.mpr (ends_fermerSession (fun _ f' => ?_) ?_))
  · exact veridique_deconnecte sessionFermee_session
  · intro _ e b' f' hs hr
    exact h.congr rfl hs hr

/-- `logoutUser` keeps it exactly when it closes no session. -/
theorem veridique_logoutUser_iff {p : Application} (h : Veridique p.auth b) :
    logoutUser.Ends (pannes S) (fun _ p' x => Veridique p'.auth x.1 ↔
      b.session = none ∨ ¬SessionFermee b f) p (b, f) := by
  simp only [logoutUser, pushReplacementNamed, showSnackBar, bind_eq]
  refine ends_catching.mpr (ends_bind.mpr (ends_fermerSession (fun hferme f' => ?_) ?_))
  · refine (ends_setState _).mpr ⟨fun h' => ?_, ?_⟩
    · rcases hs : b.session with _ | u
      · exact .inl rfl
      · have hconnecte := h.connecte.mpr (by rw [hs]; rfl)
        have hsome := h'.connecte.mp hconnecte
        rw [sessionFermee_session] at hsome
        cases hsome
    · rintro (hs | houverte)
      · have hb : sessionFermee b = b := by
          unfold sessionFermee
          rw [hs]
        rw [hb]
        exact h
      · exact absurd hferme houverte
  · intro hferme e b' f' hs hr
    exact (ends_setState _).mpr (iff_of_true (h.congr rfl hs hr) (.inr hferme))

end Etapes

/-! ## Runs -/

section Run

variable {toLowerCase : String → String} {S : Server} {s s' : Etat} {c : Appel × List (Option Err)}

/-- What a call ends in holds of the next state. -/
theorem of_appeler {P : Application → Base → Prop} (hs' : s.appeler toLowerCase S c = some s')
    (h : (c.1.programme toLowerCase).Ends (pannes S) (fun _ p' x => P p' x.1) s.app (s.base, c.2)) :
    P s'.app s'.base ∧ s'.avant = s.app ∧ s'.dernier = some c.1 := by
  obtain rfl := Option.some.inj hs'
  exact ⟨h, rfl, rfl⟩

/-- No call ends while the controller is waiting. -/
theorem appeler_statut (h : s.app.auth.statut ≠ .enCours)
    (hs' : s.appeler toLowerCase S c = some s') : s'.app.auth.statut ≠ .enCours := by
  refine (of_appeler (P := fun p' _ => p'.auth.statut ≠ .enCours) hs' ?_).1
  obtain ⟨c, f⟩ := c
  cases c with
  | connecter email motDePasse =>
    refine ends_bind.mpr (ends_connecter (fun _ => ?_) (fun _ _ _ _ _ _ => ?_) ?_)
    · exact fun h => nomatch h
    · exact fun h => nomatch h
    · exact fun _ _ _ _ _ _ _ _ h => nomatch h
  | handleLogin email password rememberMe =>
    refine ends_handleLogin (fun _ _ p' _ hp _ => ?_) (fun _ _ _ _ _ _ _ p' _ _ hp _ _ _ _ => ?_)
      fun _ _ _ _ _ _ p' _ _ hp _ _ => ?_
    · rw [hp]
      exact fun h => nomatch h
    · rw [hp]
      exact fun h => nomatch h
    · rw [hp]
      exact fun h => nomatch h
  | deconnecter =>
    refine ends_catching.mpr (ends_bind.mpr (ends_fermerSession (fun _ _ => ?_) ?_))
    · exact fun h => nomatch h
    · exact fun _ _ _ _ _ _ => h
  | logoutUser =>
    refine ends_catching.mpr (ends_bind.mpr (ends_fermerSession (fun _ _ => ?_) ?_))
    · exact h
    · exact fun _ _ _ _ _ _ => h

/-- A call that is no login says nothing of home pages. -/
theorem juste_iff_of_not_login (hs' : s.appeler toLowerCase S c = some s') (hc : ¬c.1.EstLogin) :
    s'.Juste ↔ Veridique s'.app.auth s'.base := by
  obtain rfl := Option.some.inj hs'
  refine and_iff_left ?_
  rintro ⟨c', hc', hlogin⟩
  obtain rfl : c.1 = c' := Option.some.inj hc'
  exact absurd hlogin hc

/-- From a right state, a call leads to a right state exactly under its condition. -/
theorem appeler_juste_iff (hcours : s.app.auth.statut ≠ .enCours) (h : s.Juste)
    (hs' : s.appeler toLowerCase S c = some s') : s'.Juste ↔ Sure toLowerCase s c := by
  obtain ⟨c, f⟩ := c
  cases c with
  | connecter email motDePasse =>
    rw [juste_iff_of_not_login hs' id]
    refine (of_appeler (P := fun p' b' => Veridique p'.auth b' ↔
      Sure toLowerCase s (.connecter email _, f)) hs' ?_).1
    refine ends_bind.mpr ((veridique_connecter_iff hcours h.1 email motDePasse).mono ?_)
    rintro (e | u) p' x hiff
    · exact hiff
    · exact hiff
  | handleLogin email password rememberMe =>
    obtain rfl := Option.some.inj hs'
    refine Iff.trans (and_congr_right fun _ => ?_)
      (juste_handleLogin_iff (S := S) (f := f) hcours h.1 email password rememberMe)
    exact ⟨fun h => h ⟨_, rfl, trivial⟩, fun h _ => h⟩
  | deconnecter =>
    rw [juste_iff_of_not_login hs' id]
    exact iff_of_true (of_appeler (P := fun p' b' => Veridique p'.auth b') hs'
      (veridique_deconnecter h.1)).1 trivial
  | logoutUser =>
    rw [juste_iff_of_not_login hs' id]
    exact (of_appeler (P := fun p' b' => Veridique p'.auth b' ↔
      Sure toLowerCase s (.logoutUser, f)) hs' (veridique_logoutUser_iff h.1)).1

end Run

/-- From the start, the controller is right after every call of a run exactly if every call meets
its condition. -/
theorem juste_run_iff (toLowerCase : String → String) (S : Server) (b : Base)
    (cs : List (Appel × List (Option Err))) :
    Always (Etat.appeler toLowerCase S) Etat.Juste (Etat.demarrage b) cs ↔
      AllMeet (Etat.appeler toLowerCase S) (Sure toLowerCase) (Etat.demarrage b) cs := by
  refine always_iff_allMeet (I := fun s => s.app.auth.statut ≠ .enCours)
    (fun _ _ _ hI hs' => appeler_statut hI hs')
    (fun _ _ _ hI h hs' => appeler_juste_iff hI h hs')
    (by decide : StatutConnexion.deconnecte ≠ .enCours) ⟨?_, ?_⟩ cs
  · exact veridique_deconnecte rfl
  · rintro ⟨c, hc, -⟩
    exact nomatch hc

/-! A user without a role signs in. -/

/-- The store of Anne, whose `utilisateurs` document names no role. -/
def baseDAnne : Base :=
  { baseVide.putDoc .utilisateurs "u1" (newDoc 0 [texte .email "anne@ecole.fr"]) with
    accounts := Table.empty.put "u1" ("anne@ecole.fr", "secret1") }

/-- The sign-in fails, the controller says there is an error, and the session is open. -/
theorem not_juste_baseDAnne :
    ¬Always (Etat.appeler String.toLower (Server.longest 10)) Etat.Juste
      (Etat.demarrage baseDAnne) [(.connecter "anne@ecole.fr" "secret1", [])] := by
  refine not_always_of_final
    (fun s => decide (s.app.auth.statut = .erreur) && s.base.session.isSome) (fun s hs h => ?_)
    (by decide +kernel)
  obtain ⟨hstatut, hsession⟩ := Bool.and_eq_true_iff.mp hs
  rw [(h.1.ferme (.inl (of_decide_eq_true hstatut))).2.2] at hsession
  exact nomatch hsession

end EduConnect.Commun
