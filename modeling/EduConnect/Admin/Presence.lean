import EduConnect.Admin.Inscriptions
import EduConnect.Commun.Session

/-!
# Who is logged in while accounts are created

An administrator logs in, creates accounts and logs out.  A created account becomes the current user
of the client, so that the administrator stays logged in only as long as no creation gets as far as
an account.
-/

namespace EduConnect.Admin

open Lib Prog Commun

/-! ## The run -/

/-- One press of the button of a screen, with its faults. -/
structure Creation where
  ecran : EcranAjout
  page : ecran.Page
  pannes : List (Option Err)

namespace Creation

/-- The data after the press. -/
def executer (S : Server) (b : Base) (i : Creation) : Option Base :=
  some (EcranAjout.execution S i.ecran i.page b i.pannes).2

/-- The press creates an account. -/
def CompteCree (b : Base) (i : Creation) : Prop := i.ecran.CompteCree i.page b i.pannes

end Creation

/-- The application and the data after `_handleLogin`. -/
def apresLogin (toLowerCase : String → String) (S : Server) (p : Application) (b : Base)
    (email password : String) (rememberMe : Bool) (f : List (Option Err)) : Application × Base :=
  let x := (handleLogin toLowerCase email password rememberMe).exec (pannes S) p (b, f)
  (x.2.1, x.2.2.1)

/-- The data after a `logoutUser` without faults. -/
def apresLogout (S : Server) (p : Application) (b : Base) : Base :=
  (logoutUser.exec (pannes S) p (b, [])).2.2.1

/-- The login opens the home page of the administrators for the user `a`. -/
def LoginAdministrateur (p : Application) (x : Application × Base) (a : String) : Prop :=
  ∃ arguments, x.1.navigations = p.navigations ++ [⟨"/home_admin", arguments⟩] ∧
    x.2.session = some a

def statutDe (b : Base) (u : String) : Option Valeur := (b.doc .utilisateurs u).bind (· .statut)

/-- From `b` to `b'`, `a` is marked as away, and nobody else's presence changes. -/
def DeconnexionDe (a : String) (b b' : Base) : Prop :=
  statutDe b' a = some (.bool false) ∧ ∀ u, u ≠ a → statutDe b' u = statutDe b u

/-! ## Login and logout -/

section

variable {toLowerCase : String → String} {S : Server} {p : Application} {b : Base} {a : String}

/-- After a login the user of the session has an account and a document. -/
theorem apresLogin_connu {email password : String} {rememberMe : Bool} {f : List (Option Err)}
    (h : LoginAdministrateur p (apresLogin toLowerCase S p b email password rememberMe f) a) :
    ((apresLogin toLowerCase S p b email password rememberMe f).2.accounts.find a).isSome ∧
      ((apresLogin toLowerCase S p b email password rememberMe f).2.doc .utilisateurs a).isSome := by
  have hends : (handleLogin toLowerCase email password rememberMe).Ends (pannes S) (fun _ p' x =>
      VersAccueil p p' → ∃ u, x.1.session = some u ∧ (x.1.accounts.find u).isSome ∧
        (x.1.doc .utilisateurs u).isSome) p (b, f) := by
    refine ends_handleLogin (fun _ _ _ _ _ hvers hvers' => absurd hvers' hvers)
      (fun u r hf hu _ _ _ p' b' f' _ hs haccounts hr _ _ => ?_)
      fun _ _ _ _ _ _ _ _ _ _ _ hvers hvers' => absurd hvers' hvers
    refine ⟨u, hs, ?_, doc_of_roleDe (by rw [hr]; rfl)⟩
    obtain ⟨⟨v, x⟩, hrow, rfl⟩ := Option.map_eq_some_iff.mp hu
    have hfind : b'.accounts.find v = some x := by
      rw [haccounts]
      exact Table.find_eq_some_iff.mpr (List.mem_of_find?_eq_some hrow)
    rw [hfind]
    rfl
  obtain ⟨arguments, hnav, hs⟩ := h
  have hvers : VersAccueil p (apresLogin toLowerCase S p b email password rememberMe f).1 :=
    ⟨_, by show "/home_admin" ∈ accueils; decide, hnav⟩
  obtain ⟨u, hu, hcompte, hdoc⟩ := hends hvers
  obtain rfl : a = u := Option.some.inj (hs.symm.trans hu)
  exact ⟨hcompte, hdoc⟩

/-- A logout marks the user of the session as away. -/
theorem apresLogout_deconnexion (hs : b.session = some a) (hdoc : (b.doc .utilisateurs a).isSome) :
    DeconnexionDe a b (apresLogout S p b) := by
  have hferme : SessionFermee b [] := by
    unfold SessionFermee
    rw [hs]
    exact ⟨rfl, hdoc, rfl⟩
  have hends : logoutUser.Ends (pannes S) (fun _ _ x => x.1 = sessionFermee b) p (b, []) := by
    refine ends_catching.mpr (ends_bind.mpr (ends_fermerSession (fun _ _ => ?_) fun h => ?_))
    · exact (ends_setState _).mpr rfl
    · exact absurd hferme h
  have hb : apresLogout S p b = sessionFermee b := hends
  have hfermee : sessionFermee b = { avecStatut b a false with session := none } := by
    unfold sessionFermee
    rw [hs]
  have hdocs : ∀ u, (apresLogout S p b).doc .utilisateurs u =
      (avecStatut b a false).doc .utilisateurs u := fun u => by
    rw [hb, hfermee]
    rfl
  obtain ⟨d, hd⟩ := Option.isSome_iff_exists.mp hdoc
  refine ⟨?_, fun u hu => ?_⟩
  · rw [statutDe, hdocs, doc_avecStatut, if_pos ⟨rfl, rfl⟩, hd]
    rfl
  · rw [statutDe, statutDe, hdocs, doc_avecStatut, if_neg fun h => hu h.2]

/-! ## Creations -/

/-- A creation without an account keeps the session and the documents. -/
theorem executer_sans_compte {i : Creation} {b' : Base} (hi : ¬i.CompteCree b)
    (h : i.executer S b = some b') : b'.session = b.session ∧ b'.docs = b.docs := by
  obtain rfl := Option.some.inj h
  obtain ⟨t, ht⟩ := (EcranAjout.execution_sans_compte (S := S) hi).base
  rw [ht]
  exact ⟨rfl, rfl⟩

/-- An account to come is nobody's. -/
theorem executer_session_iff {i : Creation} {b' : Base} (hcompte : (b.accounts.find a).isSome)
    (hs : b.session = some a) (h : i.executer S b = some b') :
    b'.session = some a ↔ ¬i.CompteCree b := by
  constructor
  · intro hs' hi
    obtain rfl := Option.some.inj h
    have hnouveau := (EcranAjout.execution_avec_compte (S := S) hi).session
    obtain rfl : S.newId b.accounts = a := Option.some.inj (hnouveau.symm.trans hs')
    rw [S.find_newId] at hcompte
    exact nomatch hcompte
  · exact fun hi => (executer_sans_compte hi h).1.trans hs

theorem executer_compte {i : Creation} {b' : Base} (hcompte : (b.accounts.find a).isSome)
    (h : i.executer S b = some b') : (b'.accounts.find a).isSome := by
  obtain rfl := Option.some.inj h
  by_cases hi : i.CompteCree b
  · rw [(EcranAjout.execution_avec_compte (S := S) hi).accounts, Table.find_put]
    split_ifs
    · rfl
    · exact hcompte
  · obtain ⟨t, ht⟩ := (EcranAjout.execution_sans_compte (S := S) hi).base
    rw [ht]
    exact hcompte

/-- A run whose creations make no account keeps the session and the documents. -/
theorem run_sans_compte {is : List Creation} {b' : Base} (hs : b.session = some a)
    (h : AllMeet (Creation.executer S) (fun b i => ¬i.CompteCree b) b is)
    (hrun : is.foldlM (Creation.executer S) b = some b') :
    b'.session = some a ∧ b'.docs = b.docs := by
  have hrule := always_of_allMeet (P := fun b₁ : Base => b₁.session = some a ∧ b₁.docs = b.docs)
    (fun b₁ i b₂ hb hi hstep => ?_) ⟨hs, rfl⟩ h
  · exact hrule.final hrun
  · obtain ⟨hs', hdocs⟩ := executer_sans_compte hi hstep
    exact ⟨hs'.trans hb.1, hdocs.trans hb.2⟩

end

/-- The administrator `a` is the user of the session after each creation, and the logout concerns
him and nobody else, exactly if no creation of the run makes an account. -/
theorem session_administrateur_iff (toLowerCase : String → String) (S : Server)
    (p q : Application) (b : Base) (email password : String) (rememberMe : Bool)
    (f : List (Option Err)) (a : String) (is : List Creation)
    (hlogin : LoginAdministrateur p (apresLogin toLowerCase S p b email password rememberMe f) a) :
    let b₁ := (apresLogin toLowerCase S p b email password rememberMe f).2
    (Always (Creation.executer S) (fun b => b.session = some a) b₁ is ∧
      ∀ b₂, is.foldlM (Creation.executer S) b₁ = some b₂ →
        DeconnexionDe a b₂ (apresLogout S q b₂)) ↔
      AllMeet (Creation.executer S) (fun b i => ¬i.CompteCree b) b₁ is := by
  intro b₁
  obtain ⟨hcompte, hdoc⟩ := apresLogin_connu hlogin
  obtain ⟨arguments, -, hs⟩ := hlogin
  have hiff : Always (Creation.executer S) (fun b => b.session = some a) b₁ is ↔
      AllMeet (Creation.executer S) (fun b i => ¬i.CompteCree b) b₁ is :=
    always_iff_allMeet (I := fun b : Base => (b.accounts.find a).isSome = true)
      (fun _ _ _ hI h => executer_compte hI h)
      (fun _ _ _ hI hP h => executer_session_iff hI hP h) hcompte hs is
  rw [hiff]
  refine and_iff_left_of_imp fun hmeet b₂ hrun => ?_
  obtain ⟨hs₂, hdocs⟩ := run_sans_compte hs hmeet hrun
  refine apresLogout_deconnexion hs₂ ?_
  rw [Data.doc, hdocs]
  exact hdoc

/-! An administrator creates the account of a parent. -/

/-- The administrator `u1` of the establishment `E`, and the roles. -/
def baseDirection : Base :=
  { ((baseVide.putDoc .utilisateurs "u1"
      (newDoc 0 [texte .roleId "r0", texte .etablissementId "E", (.statut, .put (.bool false))])).putDoc
    .roles "r0" (newDoc 0 [texte .nom "administrateur"])).putDoc
    .roles "r1" (newDoc 0 [texte .nom "parent"]) with
    accounts := Table.empty.put "u1" ("direction@ecole.fr", "secret0") }

def creationParent (pannes : List (Option Err)) : Creation where
  ecran := .parent
  page :=
    { nom := "Dupont", prenom := "Anne", email := "anne@ecole.fr", telephone := "0601020304"
      adresse := "1 rue Haute", motDePasse := "secret1", etablissementId := "E" }
  pannes := pannes

/-- The request for the account is lost: the administrator stays logged in and logs out. -/
theorem session_administrateur_iff_perdue :
    let b₁ := (apresLogin String.toLower (Server.longest 10) {} baseDirection "direction@ecole.fr"
      "secret0" false []).2
    Always (Creation.executer (Server.longest 10)) (fun b => b.session = some "u1") b₁
        [creationParent [none, some .unavailable]] ∧
      ∀ b₂, [creationParent [none, some .unavailable]].foldlM
          (Creation.executer (Server.longest 10)) b₁ = some b₂ →
        DeconnexionDe "u1" b₂ (apresLogout (Server.longest 10) {} b₂) :=
  (session_administrateur_iff String.toLower (Server.longest 10) {} {} baseDirection
    "direction@ecole.fr" "secret0" false [] "u1" [creationParent [none, some .unavailable]]
    ⟨some ⟨"E", some "u1"⟩, by decide +kernel, by decide +kernel⟩).mpr
    fun _ _ => ⟨fun hcree => (nomatch hcree.2.2.2.1), trivial⟩

/-- The account is created: the session is the parent's, who is marked as away by the logout of the
administrator. -/
theorem not_session_administrateur :
    let b₁ := (apresLogin String.toLower (Server.longest 10) {} baseDirection "direction@ecole.fr"
      "secret0" false []).2
    LoginAdministrateur {} (apresLogin String.toLower (Server.longest 10) {} baseDirection
        "direction@ecole.fr" "secret0" false []) "u1" ∧
      ¬Always (Creation.executer (Server.longest 10)) (fun b => b.session = some "u1") b₁
        [creationParent []] ∧
      ∃ b₂, [creationParent []].foldlM (Creation.executer (Server.longest 10)) b₁ = some b₂ ∧
        ¬DeconnexionDe "u1" b₂ (apresLogout (Server.longest 10) {} b₂) := by
  refine ⟨⟨some ⟨"E", some "u1"⟩, by decide +kernel, by decide +kernel⟩, ?_, _, rfl, ?_⟩
  · refine not_always_of_final (fun b => decide (b.session ≠ some "u1")) (fun b hb => ?_)
      (by decide +kernel)
    exact of_decide_eq_true hb
  · rintro ⟨hstatut, -⟩
    have hfaux := congrArg (fun v : Option Valeur => v.any fun v => decide (v.scalar =
      some (.bool false))) hstatut
    exact absurd hfaux (by decide +kernel)

end EduConnect.Admin
