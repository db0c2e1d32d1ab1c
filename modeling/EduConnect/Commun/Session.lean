import EduConnect.Commun.Connexion
import EduConnect.Lib.Runs

/-!
# What the controller says of the session

Any sequence of sign-ins and sign-outs, each run to its end behind a connection that may lose
requests.  A sign-in that fails after Firebase has accepted it leaves the session open, and
`logoutUser` closes the session without telling the controller.
-/

namespace EduConnect.Commun

open Lib Prog

/-! ## What the store says -/

/-- The account of an email and a password. -/
def compteDe (b : Base) (email motDePasse : String) : Option String :=
  (b.accounts.rows.find? fun a => a.2 = (email, motDePasse)).map Prod.fst

/-- The role stored as `data` under the id `roleId`. -/
def modeleDeRole (roleId : String) (data : Document) : Option RoleModele := do
  let nom ← (data.get .nom).asStr.toOption
  let description ← ((data.get .description).orStr "").toOption
  some ⟨roleId, nom, description⟩

/-- The role named by a `utilisateurs` document. -/
def roleDuDocument (b : Base) (data : Document) : Option RoleModele :=
  match data.get .roleId with
  | .str roleId => if roleId = "" then none else (b.doc .roles roleId).bind (modeleDeRole roleId)
  | _ => none

/-- The role of the user `uid`. -/
def roleDe (b : Base) (uid : String) : Option RoleModele :=
  (b.doc .utilisateurs uid).bind (roleDuDocument b)

/-- The data with the presence of `uid` set to `v`. -/
def avecStatut (b : Base) (uid : String) (v : Bool) : Base :=
  match b.doc .utilisateurs uid with
  | some d => b.putDoc .utilisateurs uid (writeFields b.clock d [(.statut, .put (.bool v))])
  | none => b

section Store

variable {b : Base} {uid : String} {v : Bool}

theorem avecStatut_session : (avecStatut b uid v).session = b.session := by
  unfold avecStatut
  split <;> rfl

theorem avecStatut_accounts : (avecStatut b uid v).accounts = b.accounts := by
  unfold avecStatut
  split <;> rfl

theorem doc_avecStatut {c : Collection} {id : String} : (avecStatut b uid v).doc c id =
    if c = .utilisateurs ∧ id = uid then
      (b.doc .utilisateurs uid).map fun d => writeFields b.clock d [(.statut, .put (.bool v))]
    else b.doc c id := by
  unfold avecStatut
  rcases hd : b.doc .utilisateurs uid with _ | d
  · by_cases h : c = .utilisateurs ∧ id = uid
    · rw [if_pos h, h.1, h.2, hd]
      rfl
    · rw [if_neg h]
  · exact Data.doc_putDoc ..

/-- The presence of a user says nothing of the other fields. -/
theorem get_writeFields_statut (d : Document) (now : ℤ) {c : Champ} (hc : c ≠ .statut) :
    (writeFields now d [(.statut, .put (.bool v))]).get c = d.get c := by
  rw [Doc.get, Doc.get, writeFields_of_not_mem (by simpa using hc)]

theorem roleDuDocument_avecStatut (d : Document) (now : ℤ) :
    roleDuDocument (avecStatut b uid v) (writeFields now d [(.statut, .put (.bool v))]) =
      roleDuDocument b d := by
  unfold roleDuDocument
  rw [get_writeFields_statut d now (by decide)]
  simp only [doc_avecStatut, reduceCtorEq, false_and, if_false]

theorem roleDuDocument_avecStatut_autre (d : Document) :
    roleDuDocument (avecStatut b uid v) d = roleDuDocument b d := by
  unfold roleDuDocument
  simp only [doc_avecStatut, reduceCtorEq, false_and, if_false]

theorem roleDe_avecStatut (uid' : String) : roleDe (avecStatut b uid v) uid' = roleDe b uid' := by
  unfold roleDe
  rw [doc_avecStatut]
  by_cases h : uid' = uid
  · subst h
    rw [if_pos ⟨rfl, rfl⟩]
    rcases b.doc .utilisateurs uid' with _ | d
    · rfl
    · exact roleDuDocument_avecStatut d _
  · rw [if_neg fun hc => h hc.2]
    rcases b.doc .utilisateurs uid' with _ | d
    · rfl
    · exact roleDuDocument_avecStatut_autre d

/-- The establishment of the user `uid`, a non-empty text. -/
def etablissementDUtilisateur (b : Base) (uid : String) : Option String :=
  ((b.doc .utilisateurs uid).bind fun d => (etablissementDe d).toOption.join).filter (· ≠ "")

theorem etablissement_avecStatut (uid' : String) :
    etablissementDUtilisateur (avecStatut b uid v) uid' = etablissementDUtilisateur b uid' := by
  unfold etablissementDUtilisateur
  rw [doc_avecStatut]
  by_cases h : uid' = uid
  · subst h
    rw [if_pos ⟨rfl, rfl⟩]
    rcases b.doc .utilisateurs uid' with _ | d
    · rfl
    · simp only [Option.map_some, Option.bind_some, etablissementDe]
      rw [get_writeFields_statut d _ (by decide)]
  · rw [if_neg fun hc => h hc.2]

end Store

/-! ## Home pages -/

def accueils : List String :=
  ["/home_super_admin", "/home_admin", "/home_enseignant", "/home_Parent", "/home_eleve"]

/-- From `p` to `p'` the application has gone to a home page. -/
def VersAccueil (p p' : Application) : Prop :=
  ∃ n : Navigation, n.route ∈ accueils ∧ p'.navigations = p.navigations ++ [n]

theorem not_versAccueil_of_eq {p p' : Application} (h : p'.navigations = p.navigations) :
    ¬VersAccueil p p' := by
  rintro ⟨n, -, hn⟩
  have hlength := congrArg List.length (h.symm.trans hn)
  simp at hlength

theorem not_versAccueil_of_ne {p p' : Application} {n : Navigation} (hn : n.route ∉ accueils)
    (h : p'.navigations = p.navigations ++ [n]) : ¬VersAccueil p p' := by
  rintro ⟨n', hn', h'⟩
  obtain rfl : n = n' := by simpa using h.symm.trans h'
  exact hn hn'

theorem mem_accueils {roleNom route : String} (h : accueilDe roleNom = some route) :
    route ∈ accueils := by
  unfold accueilDe at h
  split at h
  · cases h
    decide
  · cases h
    decide
  · cases h
    decide
  · cases h
    decide
  · exact nomatch h

/-! ## Rules -/

section Regles

variable {S : Server} {p : Application} {b : Base} {f : List (Option Err)} {uid : String}
  {toLowerCase : String → String}

/-- The presence of `uid` is updated if its document is there and the request is not lost. -/
theorem ends_update_statut {Q : Except Err Unit → Application → Base × List (Option Err) → Prop}
    {v : Bool}
    (hfait : nextFault f = none → (b.doc .utilisateurs uid).isSome →
      Q (.ok ()) p (avecStatut b uid v, f.tail))
    (hechec : nextFault f ≠ none ∨ b.doc .utilisateurs uid = none →
      ∀ e, Q (.error e) p (b, f.tail)) :
    (ecrire () (.update .utilisateurs uid [(.statut, .put (.bool v))])).Ends (pannes S) Q p
      (b, f) := by
  refine ends_ecrire_reseau.mpr ?_
  rcases hd : b.doc .utilisateurs uid with _ | d
  · exact (ends_update_absent_pannes hd).mpr
      ⟨fun e _ => hechec (.inr hd) e, fun _ => hechec (.inr hd) _⟩
  · refine (ends_update_pannes hd).mpr ⟨fun e he => hechec (.inl ?_) e, fun hf => ?_⟩
    · rw [he]
      exact fun h => nomatch h
    · have hstatut : avecStatut b uid v =
          b.putDoc .utilisateurs uid (writeFields b.clock d [(.statut, .put (.bool v))]) := by
        simp only [avecStatut, hd]
      rw [← hstatut]
      exact hfait hf (by rw [hd]; rfl)

theorem ends_lireRole {Q : Except Err RoleModele → Application → Base × List (Option Err) → Prop}
    {data : Document}
    (hlu : ∀ r, nextFault f = none → roleDuDocument b data = some r → Q (.ok r) p (b, f.tail))
    (hechec : nextFault f ≠ none ∨ roleDuDocument b data = none →
      ∀ e f', Q (.error e) p (b, f')) :
    (lireRole data).Ends (pannes S) Q p (b, f) := by
  unfold lireRole
  unfold roleDuDocument at hlu hechec
  cases hv : data.get .roleId with
  | null => exact hechec (.inr (by rw [hv])) _ _
  | str roleId =>
    rw [hv] at hlu hechec
    refine ends_bind.mpr ((ends_ofExcept _).mpr ?_)
    rw [show (Value.str roleId : Valeur).asStr = .ok roleId from rfl]
    dsimp only
    unfold lireDoc
    by_cases hid : roleId = ""
    · rw [if_pos hid]
      exact hechec (.inr (if_pos hid)) _ _
    rw [if_neg hid]
    simp only [if_neg hid] at hlu hechec
    refine ends_bind.mpr (ends_lire_reseau.mpr ⟨fun e he => hechec (.inl ?_) _ _, fun hf => ?_⟩)
    · rw [he]
      exact fun h => nomatch h
    dsimp only
    rcases hdoc : b.doc .roles roleId with _ | roleData
    · exact hechec (.inr (by rw [hdoc]; rfl)) _ _
    rw [hdoc, Option.bind_some, modeleDeRole] at hlu hechec
    refine ends_bind.mpr ((ends_ofExcept _).mpr ?_)
    rcases hnom : (roleData.get .nom).asStr with e | nom
    · exact hechec (.inr (by rw [hnom]; rfl)) _ _
    refine ends_bind.mpr ((ends_ofExcept _).mpr ?_)
    rcases hdesc : (roleData.get .description).orStr "" with e | description
    · exact hechec (.inr (by rw [hnom, hdesc]; rfl)) _ _
    · exact hlu _ hf (by rw [hnom, hdesc]; rfl)
  | bool _ => exact hechec (.inr (by rw [hv])) _ _
  | num _ => exact hechec (.inr (by rw [hv])) _ _
  | stamp _ => exact hechec (.inr (by rw [hv])) _ _
  | list _ => exact hechec (.inr (by rw [hv])) _ _
  | map _ => exact hechec (.inr (by rw [hv])) _ _

/-- What follows a sign-in of `uid` all succeeds: no request is lost, and the user has a role. -/
def UtilisateurCharge (b : Base) (uid : String) (f : List (Option Err)) : Prop :=
  nextFault f = none ∧ nextFault f.tail = none ∧ nextFault f.tail.tail = none ∧
    (roleDe b uid).isSome

theorem doc_of_roleDe (h : (roleDe b uid).isSome) : (b.doc .utilisateurs uid).isSome := by
  unfold roleDe at h
  rcases hd : b.doc .utilisateurs uid with _ | d
  · rw [hd] at h
    exact nomatch h
  · rfl

theorem ends_chargerUtilisateur
    {Q : Except Err RoleModele → Application → Base × List (Option Err) → Prop}
    (hcharge : ∀ r, UtilisateurCharge b uid f → roleDe b uid = some r →
      Q (.ok r) p (avecStatut b uid true, f.tail.tail.tail))
    (hechec : ¬UtilisateurCharge b uid f →
      ∀ e b' f', b'.session = b.session → Q (.error e) p (b', f')) :
    (chargerUtilisateur uid).Ends (pannes S) Q p (b, f) := by
  simp only [chargerUtilisateur, bind_eq]
  refine ends_bind.mpr (ends_update_statut (fun hf hd => ?_) fun h e => ?_)
  · refine ends_bind.mpr (ends_lire_reseau.mpr ⟨fun e he => ?_, fun hf' => ?_⟩)
    · refine hechec (fun h => ?_) _ _ _ avecStatut_session
      rw [h.2.1] at he
      exact nomatch he
    dsimp only
    obtain ⟨d, hd⟩ := Option.isSome_iff_exists.mp hd
    have hrole : roleDe b uid = roleDuDocument (avecStatut b uid true)
        (writeFields b.clock d [(.statut, .put (.bool true))]) := by
      rw [roleDuDocument_avecStatut, roleDe, hd]
      rfl
    rw [doc_avecStatut, if_pos ⟨rfl, rfl⟩, hd]
    refine ends_lireRole (fun r hf'' hr => ?_) fun h e f' => ?_
    · exact hcharge r ⟨hf, hf', hf'', by rw [hrole, hr]; rfl⟩ (hrole.trans hr)
    · refine hechec (fun hcharge => ?_) _ _ _ avecStatut_session
      obtain ⟨-, -, hf'', hr⟩ := hcharge
      rcases h with h | h
      · exact h hf''
      · rw [hrole, h] at hr
        exact nomatch hr
  · refine hechec (fun hcharge => ?_) _ _ _ rfl
    rcases h with h | h
    · exact h hcharge.1
    · have hd := doc_of_roleDe hcharge.2.2.2
      rw [h] at hd
      exact nomatch hd

theorem ends_connecterFirebase {email motDePasse : String}
    {Q : Except Err (Option String) → Application → Base × List (Option Err) → Prop}
    (haccepte : ∀ u, nextFault f = none → compteDe b email motDePasse = some u →
      Q (.ok (some u)) p ({ b with session := some u }, f.tail))
    (hrefus : nextFault f ≠ none ∨ compteDe b email motDePasse = none →
      Q (.ok none) p (b, f.tail)) :
    (connecterFirebase email motDePasse).Ends (pannes S) Q p (b, f) := by
  simp only [connecterFirebase, bind_eq]
  refine ends_catching.mpr (ends_bind.mpr (ends_seConnecter_reseau.mpr
    ⟨fun e he => hrefus (.inl ?_), fun hf => ?_⟩))
  · rw [he]
    exact fun h => nomatch h
  · unfold compteDe at haccepte hrefus
    rcases ha : b.accounts.rows.find? fun a => a.2 = (email, motDePasse) with _ | a
    · rw [ha] at hrefus
      simp only [Server.handler, ha]
      exact hrefus (.inr rfl)
    · rw [ha] at haccepte
      simp only [Server.handler, ha]
      exact haccepte a.1 hf rfl

/-- `connecter`: refused, it leaves the session as it was; accepted, it opens the session, whether
the rest succeeds or not. -/
theorem ends_connecter {email motDePasse : String}
    {Q : Except Err Bool → Application → Base × List (Option Err) → Prop}
    (hrefus : nextFault f ≠ none ∨ compteDe b email motDePasse = none →
      Q (.ok false) { p with auth := { p.auth with
        messageErreur := some "Échec de la connexion. Vérifie tes identifiants."
        statut := .erreur } } (b, f.tail))
    (hcharge : ∀ u r, nextFault f = none → compteDe b email motDePasse = some u →
      UtilisateurCharge b u f.tail → roleDe b u = some r →
      Q (.ok true) { p with auth := ⟨some u, some r, .connecte, none⟩ }
        (avecStatut { b with session := some u } u true, f.tail.tail.tail.tail))
    (hechec : ∀ u, nextFault f = none → compteDe b email motDePasse = some u →
      ¬UtilisateurCharge b u f.tail → ∀ m b' f', b'.session = some u →
      Q (.ok false) { p with auth := { messageErreur := some m, statut := .erreur } } (b', f')) :
    (connecter email motDePasse).Ends (pannes S) Q p (b, f) := by
  simp only [connecter, setAuth, bind_eq]
  refine ends_setState_bind.mpr (ends_catching.mpr (ends_bind.mpr ?_))
  refine ends_connecterFirebase (fun u hf hu => ?_) hrefus
  refine ends_setState_bind.mpr (ends_bind.mpr (ends_chargerUtilisateur (fun r hc hr => ?_) ?_))
  · exact hcharge u r hf hu hc hr
  · intro hc e b' f' hsession
    exact hechec u hf hu hc _ _ _ hsession

/-- After the sign-in of `uid` the login page goes to a home page: the second update of the presence
is not lost, and the user is a super administrator, or has an establishment and one of the four
other roles, and his document is read again. -/
def AccueilOuvert (toLowerCase : String → String) (b : Base) (uid : String)
    (f : List (Option Err)) : Prop :=
  nextFault f = none ∧ ∃ r, roleDe b uid = some r ∧ (toLowerCase r.nom = "superadmin" ∨
    nextFault f.tail = none ∧ (etablissementDUtilisateur b uid).isSome ∧
      (accueilDe (toLowerCase r.nom)).isSome)

/-- `ouvrirAccueil` reads the user once, and goes home if he has an establishment and a home. -/
theorem ends_ouvrirAccueil {roleNom : String} : (ouvrirAccueil uid roleNom).Ends (pannes S)
    (fun _ p' x => p'.auth = p.auth ∧ x.1 = b ∧ (VersAccueil p p' ↔ nextFault f = none ∧
      (etablissementDUtilisateur b uid).isSome ∧ (accueilDe roleNom).isSome)) p (b, f) := by
  simp only [ouvrirAccueil, showSnackBar, pushReplacementNamed, chargementFini, bind_eq]
  refine ends_bind.mpr (ends_lire_reseau.mpr ⟨fun e he => ⟨rfl, rfl, ?_⟩, fun hf => ?_⟩)
  · refine iff_of_false (not_versAccueil_of_eq rfl) ?_
    rw [he]
    exact fun h => nomatch h.1
  dsimp only
  unfold etablissementDUtilisateur
  rcases b.doc .utilisateurs uid with _ | d
  · refine ends_setState_bind.mpr ((ends_setState _).mpr ⟨rfl, rfl, ?_⟩)
    exact iff_of_false (not_versAccueil_of_eq rfl) fun h => nomatch h.2.1
  refine ends_bind.mpr ((ends_ofExcept _).mpr ?_)
  rw [Option.bind_some]
  rcases etablissementDe d with e | _ | etablissementId
  · exact ⟨rfl, rfl, iff_of_false (not_versAccueil_of_eq rfl) fun h => nomatch h.2.1⟩
  · refine ends_setState_bind.mpr ((ends_setState _).mpr ⟨rfl, rfl, ?_⟩)
    exact iff_of_false (not_versAccueil_of_eq rfl) fun h => nomatch h.2.1
  dsimp only
  have hetab : ((Except.ok (some etablissementId) : Except Err (Option String)).toOption.join.filter
      (· ≠ "")).isSome ↔ etablissementId ≠ "" := by
    rw [show (Except.ok (some etablissementId) : Except Err (Option String)).toOption.join =
      some etablissementId from rfl]
    simp
  by_cases hvide : etablissementId = ""
  · rw [if_pos hvide]
    refine ends_setState_bind.mpr ((ends_setState _).mpr ⟨rfl, rfl, ?_⟩)
    exact iff_of_false (not_versAccueil_of_eq rfl) fun h => hetab.mp h.2.1 hvide
  rw [if_neg hvide]
  rcases haccueil : accueilDe roleNom with _ | route
  · refine ends_setState_bind.mpr (ends_setState_bind.mpr ((ends_setState _).mpr ⟨rfl, rfl, ?_⟩))
    refine iff_of_false (not_versAccueil_of_ne (n := ⟨"/login", none⟩) (by decide) rfl) ?_
    exact fun h => nomatch h.2.2
  · refine ends_setState_bind.mpr ((ends_setState _).mpr ⟨rfl, rfl, ?_⟩)
    exact iff_of_true ⟨_, mem_accueils haccueil, rfl⟩ ⟨hf, hetab.mpr hvide, rfl⟩

/-- `apresConnexion` keeps the session and the controller. -/
theorem ends_apresConnexion {r : RoleModele} (hauth : p.auth.role = some r)
    (hsession : b.session = some uid) (hr : roleDe b uid = some r) :
    (apresConnexion toLowerCase).Ends (pannes S) (fun _ p' x => p'.auth = p.auth ∧
      x.1.session = some uid ∧ x.1.accounts = b.accounts ∧ roleDe x.1 uid = some r ∧
      (VersAccueil p p' ↔ AccueilOuvert toLowerCase b uid f)) p (b, f) := by
  simp only [apresConnexion, showSnackBar, pushReplacementNamed, chargementFini, bind_eq]
  refine ends_bind.mpr (ends_utilisateurCourant.mpr ?_)
  rw [hsession]
  dsimp only
  refine ends_bind.mpr (ends_update_statut (fun hf _ => ?_) fun h e => ?_)
  · refine ends_page_bind.mpr ?_
    rw [hauth]
    dsimp only
    have hb : (avecStatut b uid true).session = some uid := avecStatut_session.trans hsession
    have hrole : roleDe (avecStatut b uid true) uid = some r := (roleDe_avecStatut uid).trans hr
    by_cases hsuper : toLowerCase r.nom = "superadmin"
    · rw [if_pos hsuper]
      refine ends_setState_bind.mpr ((ends_setState _).mpr
        ⟨rfl, hb, avecStatut_accounts, hrole, ?_⟩)
      exact iff_of_true ⟨_, by decide, rfl⟩ ⟨hf, r, hr, .inl hsuper⟩
    · rw [if_neg hsuper]
      refine ends_ouvrirAccueil.mono ?_
      rintro a p' x ⟨hp, hx, hvers⟩
      rw [hx]
      refine ⟨hp, hb, avecStatut_accounts, hrole, hvers.trans ?_⟩
      rw [etablissement_avecStatut]
      constructor
      · exact fun h => ⟨hf, r, hr, .inr h⟩
      · rintro ⟨-, r', hr', h | h⟩
        · obtain rfl : r = r' := Option.some.inj (hr.symm.trans hr')
          exact absurd h hsuper
        · obtain rfl : r = r' := Option.some.inj (hr.symm.trans hr')
          exact h
  · refine ⟨rfl, hsession, rfl, hr, iff_of_false (not_versAccueil_of_eq rfl) ?_⟩
    rintro ⟨hf, -⟩
    rcases h with h | h
    · exact h hf
    · have hsome : (roleDe b uid).isSome := by rw [hr]; rfl
      have hd := doc_of_roleDe hsome
      rw [h] at hd
      exact nomatch hd

/-- `_handleLogin`: refused, it leaves the session as it was; accepted, the session is open, whether
a home page opens or not. -/
theorem ends_handleLogin {email password : String} {rememberMe : Bool}
    {Q : Except Err Unit → Application → Base × List (Option Err) → Prop}
    (hrefus : nextFault f ≠ none ∨ compteDe b (trim email) (trim password) = none →
      ∀ a p' f', p'.auth = { p.auth with
        messageErreur := some "Échec de la connexion. Vérifie tes identifiants."
        statut := .erreur } → ¬VersAccueil p p' → Q a p' (b, f'))
    (hcharge : ∀ u r, nextFault f = none → compteDe b (trim email) (trim password) = some u →
      UtilisateurCharge b u f.tail → roleDe b u = some r → ∀ a p' b' f',
      p'.auth = ⟨some u, some r, .connecte, none⟩ → b'.session = some u →
      b'.accounts = b.accounts → roleDe b' u = some r →
      (VersAccueil p p' ↔ AccueilOuvert toLowerCase b u f.tail.tail.tail.tail) → Q a p' (b', f'))
    (hechec : ∀ u, nextFault f = none → compteDe b (trim email) (trim password) = some u →
      ¬UtilisateurCharge b u f.tail → ∀ m a p' b' f',
      p'.auth = { messageErreur := some m, statut := .erreur } → b'.session = some u →
      ¬VersAccueil p p' → Q a p' (b', f')) :
    (handleLogin toLowerCase email password rememberMe).Ends (pannes S) Q p (b, f) := by
  simp only [handleLogin, memoriser, showSnackBar, chargementFini, bind_eq]
  refine ends_setState_bind.mpr (ends_bind.mpr (ends_connecter (fun h => ?_) ?_ ?_))
  · refine ends_setState_bind.mpr (ends_setState_bind.mpr ((ends_setState _).mpr ?_))
    exact hrefus h _ _ _ rfl (not_versAccueil_of_eq rfl)
  · intro u r hf hu hc hr
    have hrole : roleDe { b with session := some u } u = some r := hr
    have hrole' : roleDe (avecStatut { b with session := some u } u true) u = some r :=
      (roleDe_avecStatut u).trans hrole
    refine ends_setState_bind.mpr ((ends_apresConnexion (r := r) rfl avecStatut_session hrole').mono
      ?_)
    rintro a p' ⟨b', f'⟩ ⟨hp, hsession, haccounts, hr', hvers⟩
    refine hcharge u r hf hu hc hr a p' b' f' hp hsession
      (haccounts.trans avecStatut_accounts) hr' (hvers.trans ?_)
    unfold AccueilOuvert
    rw [roleDe_avecStatut, etablissement_avecStatut]
    exact Iff.rfl
  · intro u hf hu hc m b' f' hsession
    refine ends_setState_bind.mpr (ends_setState_bind.mpr ((ends_setState _).mpr ?_))
    exact hechec u hf hu hc m _ _ _ _ rfl hsession (not_versAccueil_of_eq rfl)

/-- The session is closed: no request is lost, and the user of the session has a document. -/
def SessionFermee (b : Base) (f : List (Option Err)) : Prop :=
  match b.session with
  | none => nextFault f = none
  | some uid => nextFault f = none ∧ (b.doc .utilisateurs uid).isSome ∧ nextFault f.tail = none

/-- The data after the session is closed: its user is marked as away. -/
def sessionFermee (b : Base) : Base :=
  match b.session with
  | none => b
  | some uid => { avecStatut b uid false with session := none }

theorem sessionFermee_session : (sessionFermee b).session = none := by
  unfold sessionFermee
  split
  · assumption
  · rfl

theorem ends_fermerSession {Q : Except Err Unit → Application → Base × List (Option Err) → Prop}
    (hferme : SessionFermee b f → ∀ f', Q (.ok ()) p (sessionFermee b, f'))
    (hechec : ¬SessionFermee b f → ∀ e b' f', b'.session = b.session →
      (∀ u, roleDe b' u = roleDe b u) → Q (.error e) p (b', f')) :
    fermerSession.Ends (pannes S) Q p (b, f) := by
  simp only [fermerSession, bind_eq]
  refine ends_bind.mpr (ends_utilisateurCourant.mpr ?_)
  unfold SessionFermee sessionFermee at *
  rcases hs : b.session with _ | u
  · simp only [hs] at hferme hechec
    refine ends_seDeconnecter_reseau.mpr ⟨fun e he => ?_, fun hf => ?_⟩
    · refine hechec (fun hf => ?_) e b _ hs fun _ => rfl
      rw [he] at hf
      exact nomatch hf
    · have hb : { b with session := none } = b := by rw [← hs]
      rw [hb]
      exact hferme hf _
  · simp only [hs] at hferme hechec
    refine ends_bind.mpr (ends_update_statut (fun hf hd => ?_) fun h e => ?_)
    · refine ends_seDeconnecter_reseau.mpr ⟨fun e he => ?_, fun hf' => ?_⟩
      · refine hechec (fun h => ?_) e _ _ (avecStatut_session.trans hs) roleDe_avecStatut
        rw [h.2.2] at he
        exact nomatch he
      · exact hferme ⟨hf, hd, hf'⟩ _
    · refine hechec (fun hc => ?_) e b _ hs fun _ => rfl
      rcases h with h | h
      · exact h hc.1
      · rw [h] at hc
        exact nomatch hc.2.1

end Regles

/-! ## The page a user is taken to -/

/-- From `p` to `p'` the application has gone to `route`. -/
def VersPage (route : String) (p p' : Application) : Prop :=
  ∃ arguments, p'.navigations = p.navigations ++ [⟨route, arguments⟩]

/-- Where the login page takes a user whose role is named `nom`. -/
def routeDe (toLowerCase : String → String) (nom : String) : String :=
  if toLowerCase nom = "superadmin" then "/home_super_admin"
  else (accueilDe (toLowerCase nom)).getD "/login"

section Routes

variable {S : Server} {p : Application} {b : Base} {uid : String} {toLowerCase : String → String}

theorem ends_ouvrirAccueil_route {roleNom : String}
    (hetab : (etablissementDUtilisateur b uid).isSome) :
    (ouvrirAccueil uid roleNom).Ends (pannes S)
      (fun _ p' _ => VersPage ((accueilDe roleNom).getD "/login") p p') p (b, []) := by
  simp only [ouvrirAccueil, showSnackBar, pushReplacementNamed, chargementFini, bind_eq]
  refine ends_bind.mpr (ends_lire_reseau.mpr ⟨nofun, fun _ => ?_⟩)
  dsimp only
  unfold etablissementDUtilisateur at hetab
  rcases hd : b.doc .utilisateurs uid with _ | d
  · rw [hd] at hetab
    exact nomatch hetab
  rw [hd, Option.bind_some] at hetab
  refine ends_bind.mpr ((ends_ofExcept _).mpr ?_)
  rcases hlu : etablissementDe d with e | _ | etablissementId
  · rw [hlu] at hetab
    exact nomatch hetab
  · rw [hlu] at hetab
    exact nomatch hetab
  rw [hlu] at hetab
  dsimp only
  have hvide : etablissementId ≠ "" := by
    rintro rfl
    exact nomatch hetab
  rw [if_neg hvide]
  rcases accueilDe roleNom with _ | route
  · exact ends_setState_bind.mpr (ends_setState_bind.mpr ((ends_setState _).mpr ⟨none, rfl⟩))
  · exact ends_setState_bind.mpr ((ends_setState _).mpr ⟨_, rfl⟩)

theorem ends_apresConnexion_route {r : RoleModele} (hauth : p.auth.role = some r)
    (hsession : b.session = some uid) (hr : roleDe b uid = some r)
    (hetab : toLowerCase r.nom = "superadmin" ∨ (etablissementDUtilisateur b uid).isSome) :
    (apresConnexion toLowerCase).Ends (pannes S)
      (fun _ p' _ => VersPage (routeDe toLowerCase r.nom) p p') p (b, []) := by
  simp only [apresConnexion, showSnackBar, pushReplacementNamed, chargementFini, bind_eq]
  refine ends_bind.mpr (ends_utilisateurCourant.mpr ?_)
  rw [hsession]
  dsimp only
  refine ends_bind.mpr (ends_update_statut (fun _ _ => ?_) fun h e => ?_)
  · refine ends_page_bind.mpr ?_
    rw [hauth]
    dsimp only
    unfold routeDe
    by_cases hsuper : toLowerCase r.nom = "superadmin"
    · rw [if_pos hsuper, if_pos hsuper]
      exact ends_setState_bind.mpr ((ends_setState _).mpr ⟨none, rfl⟩)
    · rw [if_neg hsuper, if_neg hsuper]
      refine ends_ouvrirAccueil_route ?_
      rw [etablissement_avecStatut]
      exact hetab.resolve_left hsuper
  · have hrole : (roleDe b uid).isSome := by rw [hr]; rfl
    have hd := doc_of_roleDe hrole
    rcases h with h | h
    · exact absurd rfl h
    · rw [h] at hd
      exact nomatch hd

/-- Without a lost request, a user with a role, and with an establishment if the role is not the one
of a super administrator, is taken to the page of the role. -/
theorem ends_handleLogin_route {email password : String} {rememberMe : Bool} {r : RoleModele}
    (hu : compteDe b (trim email) (trim password) = some uid) (hr : roleDe b uid = some r)
    (hetab : toLowerCase r.nom = "superadmin" ∨ (etablissementDUtilisateur b uid).isSome) :
    (handleLogin toLowerCase email password rememberMe).Ends (pannes S)
      (fun _ p' _ => VersPage (routeDe toLowerCase r.nom) p p') p (b, []) := by
  have hcharge : UtilisateurCharge b uid [] := ⟨rfl, rfl, rfl, by rw [hr]; rfl⟩
  simp only [handleLogin, memoriser, showSnackBar, chargementFini, bind_eq]
  refine ends_setState_bind.mpr (ends_bind.mpr (ends_connecter (fun h => ?_) ?_ ?_))
  · rcases h with h | h
    · exact absurd rfl h
    · exact nomatch hu.symm.trans h
  · intro u r' _ hu' _ hr'
    obtain rfl : uid = u := Option.some.inj (hu.symm.trans hu')
    obtain rfl : r = r' := Option.some.inj (hr.symm.trans hr')
    refine ends_setState_bind.mpr (ends_apresConnexion_route (r := r) rfl avecStatut_session
      ((roleDe_avecStatut uid).trans hr) ?_)
    rw [etablissement_avecStatut]
    exact hetab
  · intro u _ hu' hc
    obtain rfl : uid = u := Option.some.inj (hu.symm.trans hu')
    exact absurd hcharge hc

end Routes

end EduConnect.Commun
