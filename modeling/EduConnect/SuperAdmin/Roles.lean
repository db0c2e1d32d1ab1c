import EduConnect.SuperAdmin.Comptes
import EduConnect.Commun.Session

/-!
# Role names at creation and at login

Five screens create accounts.  Each looks for the document of its role by the exact name; the login
page lowers the name of the role before it chooses a home page.
-/

namespace EduConnect.SuperAdmin

open Lib Prog Admin Commun

/-! ## The five screens -/

inductive EcranCompte where
  | superAdmin
  | ecran (e : EcranAjout)
  deriving DecidableEq

namespace EcranCompte

/-- The state of the screen. -/
abbrev Page : EcranCompte → Type
  | superAdmin => AjoutSuperAdministrateur
  | ecran e => e.Page

/-- The name the screen looks for. -/
def nomRole : EcranCompte → String
  | superAdmin => "Superadmin"
  | ecran e => e.flux.nomRole

/-- The query of the screen: the id of the role. -/
def chercherRole : (r : EcranCompte) → Action Etape r.Page (Option String)
  | superAdmin => AjoutSuperAdministrateur.chercherRole
  | ecran e => e.flux.chercherRole

/-- The page and the data after a press of the button. -/
def execution (S : Server) :
    (r : EcranCompte) → r.Page → Base → List (Option Err) → r.Page × Base
  | superAdmin => AjoutSuperAdministrateur.execution S
  | ecran e => e.execution S

/-- The press added the message of success. -/
def Reussie : (r : EcranCompte) → r.Page → r.Page → Prop
  | superAdmin => AjoutSuperAdministrateur.Reussie
  | ecran e => e.Reussie

def email : (r : EcranCompte) → r.Page → String
  | superAdmin, p => p.email
  | ecran e, p => (e.flux.saisie p).email

def motDePasse : (r : EcranCompte) → r.Page → String
  | superAdmin, p => p.motDePasse
  | ecran e, p => (e.flux.saisie p).motDePasse

/-- The home page of the role. -/
def accueil : EcranCompte → String
  | superAdmin => "/home_super_admin"
  | ecran .administrateur => "/home_admin"
  | ecran .enseignant => "/home_enseignant"
  | ecran .parent => "/home_Parent"
  | ecran .eleve => "/home_eleve"

/-- The lowered name for which the login page opens that home page. -/
def nomConnexion : EcranCompte → String
  | superAdmin => "superadmin"
  | ecran .administrateur => "administrateur"
  | ecran .enseignant => "enseignant"
  | ecran .parent => "parent"
  | ecran .eleve => "eleve"

instance (r : EcranCompte) : Nonempty r.Page := by
  cases r with
  | superAdmin => exact ⟨{}⟩
  | ecran e =>
    cases e with
    | eleve => exact ⟨{ etablissementId := "" }⟩
    | parent => exact ⟨{ etablissementId := "" }⟩
    | enseignant => exact ⟨{ etablissementId := "" }⟩
    | administrateur => exact ⟨{}⟩

end EcranCompte

/-- The establishment the screen writes into the new `utilisateurs` document. -/
def etablissementSaisi : (e : EcranAjout) → e.Page → String
  | .eleve, p => p.etablissementId
  | .parent, p => p.etablissementId
  | .enseignant, p => p.etablissementId
  | .administrateur, p => p.etablissementIdSelectionne.getD ""

/-- The page has an establishment, handed over by the home page of the administrator; there is none for
a super administrator. -/
def EcranCompte.AvecEtablissement : (r : EcranCompte) → r.Page → Prop
  | superAdmin, _ => True
  | ecran e, p => etablissementSaisi e p ≠ ""

/-! ## What the claimed agreement speaks of -/

section Accord

variable (toLowerCase : String → String) (S : Server) (b : Base) (r : EcranCompte)

/-- Some stored role has the name `nom`. -/
def RoleStocke (nom : String) : Prop :=
  ∃ id d, b.doc .roles id = some d ∧ d .nom = some (.str nom)

/-- The screen finds a document of its role. -/
def Trouve : Prop :=
  ∀ p, r.chercherRole.Ends S.handler (fun a _ _ => ∃ id, a = .ok (some id)) p b

/-- The login page takes every user of an establishment whose role has the name `nom` to `route`. -/
def Mene (nom route : String) : Prop :=
  ∀ (b : Base) (p : Application) (email motDePasse : String) (rememberMe : Bool) (u : String)
    (role : RoleModele), compteDe b (trim email) (trim motDePasse) = some u →
    roleDe b u = some role → role.nom = nom → (etablissementDUtilisateur b u).isSome →
    (handleLogin toLowerCase email motDePasse rememberMe).Ends (pannes S)
      (fun _ p' _ => VersPage route p p') p (b, [])

/-- Some stored role name is dispatched to the home page of the role. -/
def Dispatche : Prop := ∃ nom, RoleStocke b nom ∧ Mene toLowerCase S nom r.accueil

/-- A user the screen creates, whatever requests are lost before it reports success, signs in with the
texts of the form and is taken to the home page of the role. -/
def Accueillis : Prop :=
  ∀ (p : r.Page) (f : List (Option Err)) (rememberMe : Bool) (app : Application),
    r.AvecEtablissement p → r.Reussie p (r.execution S p b f).1 →
    (handleLogin toLowerCase (r.email p) (r.motDePasse p) rememberMe).Ends (pannes S)
      (fun _ app' _ => VersPage r.accueil app app') app ((r.execution S p b f).2, [])

/-- Creation and login agree on the role. -/
def Accord : Prop :=
  (Trouve S b r ↔ Dispatche toLowerCase S b r) ∧ Accueillis toLowerCase S b r

/-- The role is not stored under another case of its name alone. -/
def SansVariante : Prop :=
  ∀ nom, RoleStocke b nom → toLowerCase nom = r.nomConnexion → RoleStocke b r.nomRole

end Accord

/-! ## What the screen finds -/

section Recherche

variable {S : Server} {b : Base} {r : EcranCompte}

theorem doc_of_roleNomme {nom id : String} (h : roleNomme b nom = some id) :
    ∃ d, b.doc .roles id = some d ∧ d .nom = some (.str nom) := by
  obtain ⟨a, ha, rfl⟩ := Option.map_eq_some_iff.mp h
  obtain ⟨hd, hsat⟩ := Query.of_mem_run (List.mem_of_head? ha)
  exact ⟨a.2, hd, Filter.sat_isEqualTo_str.mp (hsat _ List.mem_cons_self)⟩

theorem roleNomme_isSome_iff {nom : String} : (roleNomme b nom).isSome ↔ RoleStocke b nom := by
  constructor
  · intro h
    obtain ⟨id, hid⟩ := Option.isSome_iff_exists.mp h
    obtain ⟨d, hd, hnom⟩ := doc_of_roleNomme hid
    exact ⟨id, d, hd, hnom⟩
  · rintro ⟨id, d, hd, hnom⟩
    have hmem : (id, d) ∈ (⟨[.isEqualTo .nom (.str nom)], none, none⟩ : Query Champ).run
        (b.docs .roles) := by
      refine Query.mem_run.mpr ⟨hd, fun c hc => ?_⟩
      obtain rfl := List.mem_singleton.mp hc
      exact Filter.sat_isEqualTo_str.mpr hnom
    have hne : (⟨[.isEqualTo .nom (.str nom)], none, some 1⟩ : Query Champ).run (b.docs .roles) ≠
        [] := by
      have hprefixe : (⟨[.isEqualTo .nom (.str nom)], none, some 1⟩ : Query Champ).run
          (b.docs .roles) = ((⟨[.isEqualTo .nom (.str nom)], none, none⟩ : Query Champ).run
            (b.docs .roles)).take 1 := rfl
      rw [hprefixe]
      obtain ⟨a, l, hl⟩ := List.exists_cons_of_ne_nil (List.ne_nil_of_mem hmem)
      rw [hl]
      exact List.cons_ne_nil a _
    unfold roleNomme
    obtain ⟨a, l, hl⟩ := List.exists_cons_of_ne_nil hne
    rw [hl]
    rfl

/-- Both lookups make the same query. -/
theorem ends_chercherRole {p : r.Page} {Q : Except Err (Option String) → r.Page → Base → Prop} :
    r.chercherRole.Ends S.handler Q p b ↔ Q (.ok (roleNomme b r.nomRole)) p b := by
  cases r <;> exact Iff.rfl

theorem trouve_iff : Trouve S b r ↔ RoleStocke b r.nomRole := by
  have hok : ∀ p : r.Page,
      r.chercherRole.Ends S.handler (fun a _ _ => ∃ id, a = .ok (some id)) p b ↔
        (roleNomme b r.nomRole).isSome := fun p => by
    rw [ends_chercherRole, Option.isSome_iff_exists]
    exact exists_congr fun id => ⟨Except.ok.inj, congrArg Except.ok⟩
  rw [← roleNomme_isSome_iff]
  constructor
  · intro h
    obtain ⟨p⟩ : Nonempty r.Page := inferInstance
    exact (hok p).mp (h p)
  · exact fun h p => (hok p).mpr h

end Recherche

/-! ## What the login page does with a name -/

section Connexion

variable {toLowerCase : String → String} {S : Server} {b : Base} {r : EcranCompte}

/-- A name is dispatched to the home page of the role exactly when it lowers to its login name. -/
theorem routeDe_eq_iff {nom : String} :
    routeDe toLowerCase nom = r.accueil ↔ toLowerCase nom = r.nomConnexion := by
  unfold routeDe
  generalize toLowerCase nom = bas
  constructor
  · intro h
    by_cases hsuper : bas = "superadmin"
    · rw [if_pos hsuper] at h
      rcases r with _ | _ | _ | _ | _ <;> first | exact hsuper | exact absurd h (by decide)
    · rw [if_neg hsuper] at h
      unfold accueilDe at h
      -- each home page belongs to one role
      split at h <;> rcases r with _ | _ | _ | _ | _ <;>
        first | rfl | exact absurd h (by decide)
  · rintro rfl
    rcases r with _ | _ | _ | _ | _ <;> rfl

theorem versPage_unique {route route' : String} {p p' : Application} (h : VersPage route p p')
    (h' : VersPage route' p p') : route = route' := by
  obtain ⟨_, h⟩ := h
  obtain ⟨_, h'⟩ := h'
  have hlast := List.append_cancel_left (h.symm.trans h')
  exact congrArg Navigation.route (List.cons.inj hlast).1

/-- The documents of a user and of his role, named `nom`. -/
def documentsDUnUtilisateur (nom : String) : Base :=
  (baseVide.putDoc .utilisateurs "u" (newDoc 0
    [texte .roleId "r", texte .etablissementId "e"])).putDoc .roles "r" (newDoc 0
      [texte .nom nom, texte .description "d"])

/-- A store with one user, whose role has the name `nom`. -/
def baseDUnUtilisateur (nom : String) : Base :=
  { documentsDUnUtilisateur nom with
    accounts := Table.empty.put "u" ("u@ecole.cm", "secret") }

theorem doc_baseDUnUtilisateur (nom : String) : (baseDUnUtilisateur nom).doc .utilisateurs "u" =
    some (newDoc 0 [texte .roleId "r", texte .etablissementId "e"]) := by
  show (documentsDUnUtilisateur nom).doc .utilisateurs "u" = _
  rw [documentsDUnUtilisateur, Data.doc_putDoc, if_neg (by decide), Data.doc_putDoc,
    if_pos ⟨rfl, rfl⟩]

theorem compteDe_baseDUnUtilisateur (nom : String) :
    compteDe (baseDUnUtilisateur nom) (trim "u@ecole.cm") (trim "secret") = some "u" := by
  show ((Table.empty.put "u" ("u@ecole.cm", "secret") : Table String (String × String)).rows.find?
    fun a => a.2 = (trim "u@ecole.cm", trim "secret")).map Prod.fst = some "u"
  decide +kernel

theorem roleDe_baseDUnUtilisateur (nom : String) :
    roleDe (baseDUnUtilisateur nom) "u" = some ⟨"r", nom, "d"⟩ := by
  have hrole : (baseDUnUtilisateur nom).doc .roles "r" =
      some (newDoc 0 [texte .nom nom, texte .description "d"]) := by
    show (documentsDUnUtilisateur nom).doc .roles "r" = _
    rw [documentsDUnUtilisateur, Data.doc_putDoc, if_pos ⟨rfl, rfl⟩]
  rw [roleDe, doc_baseDUnUtilisateur, Option.bind_some]
  show (if "r" = "" then none else ((baseDUnUtilisateur nom).doc .roles "r").bind
    (modeleDeRole "r")) = _
  rw [if_neg (by decide), hrole]
  rfl

theorem mene_iff {nom route : String} :
    Mene toLowerCase S nom route ↔ routeDe toLowerCase nom = route := by
  constructor
  · intro h
    have hcompte := compteDe_baseDUnUtilisateur nom
    have hrole := roleDe_baseDUnUtilisateur nom
    have hetab : (etablissementDUtilisateur (baseDUnUtilisateur nom) "u").isSome := by
      rw [etablissementDUtilisateur, doc_baseDUnUtilisateur]
      rfl
    have hroute : (handleLogin toLowerCase "u@ecole.cm" "secret" false).Ends (pannes S)
        (fun _ p' _ => VersPage (routeDe toLowerCase nom) {} p') {}
          (baseDUnUtilisateur nom, []) :=
      ends_handleLogin_route hcompte hrole (.inr hetab)
    exact versPage_unique hroute (h _ {} _ _ false _ _ hcompte hrole rfl hetab)
  · rintro rfl b p email motDePasse rememberMe u role hu hrole rfl hetab
    exact ends_handleLogin_route hu hrole (.inr hetab)

theorem dispatche_iff : Dispatche toLowerCase S b r ↔
    ∃ nom, RoleStocke b nom ∧ toLowerCase nom = r.nomConnexion :=
  exists_congr fun _ => and_congr_right fun _ => mene_iff.trans routeDe_eq_iff

end Connexion

/-! ## The users the screens create -/

section Creation

variable {toLowerCase : String → String} {S : Server} {b b' : Base} {r : EcranCompte}

/-- A new account answers to its email and password. -/
theorem compteDe_cree {email motDePasse : String} (hc : CompteAccepte b email motDePasse)
    (h : b'.accounts = b.accounts.put (S.newId b.accounts) (email, motDePasse)) :
    compteDe b' email motDePasse = some (S.newId b.accounts) := by
  have hmem : (S.newId b.accounts, (email, motDePasse)) ∈ b'.accounts.rows := by
    rw [← Table.find_eq_some_iff, h, Table.find_put_self]
  have hseul : ∀ a ∈ b'.accounts.rows, a.2 = (email, motDePasse) → a.1 = S.newId b.accounts := by
    rintro ⟨u, c⟩ ha rfl
    by_contra hne
    rw [← Table.find_eq_some_iff, h, Table.find_put_ne _ hne, Table.find_eq_some_iff] at ha
    have hlibre := List.any_eq_false.mp hc.1 _ ha
    exact hlibre (decide_eq_true rfl)
  unfold compteDe
  rcases hfind : b'.accounts.rows.find? fun a => a.2 = (email, motDePasse) with _ | a
  · exact absurd (decide_eq_true rfl) (List.find?_eq_none.mp hfind _ hmem)
  · have ha : a.2 = (email, motDePasse) := by simpa using List.find?_some hfind
    rw [hfind, Option.map_some, hseul a (List.mem_of_find?_eq_some hfind) ha]

/-- A user created with the role of the name `nom` is taken to the page of that name. -/
theorem ends_handleLogin_cree {email motDePasse nom roleId : String} {d : Document}
    {rememberMe : Bool} {app : Application} (hb : Stored .roles RoleSaisi b)
    (hc : CompteAccepte b (trim email) (trim motDePasse))
    (haccounts : b'.accounts =
      b.accounts.put (S.newId b.accounts) (trim email, trim motDePasse))
    (hrole : roleNomme b nom = some roleId) (hroles : b'.docs .roles = b.docs .roles)
    (hd : b'.doc .utilisateurs (S.newId b.accounts) = some d)
    (hroleId : d.get .roleId = .str roleId)
    (hetab : toLowerCase nom = "superadmin" ∨
      ∃ etab, etab ≠ "" ∧ d.get .etablissementId = .str etab) :
    (handleLogin toLowerCase email motDePasse rememberMe).Ends (pannes S)
      (fun _ app' _ => VersPage (routeDe toLowerCase nom) app app') app (b', []) := by
  obtain ⟨data, hdata, hnom⟩ := doc_of_roleNomme hrole
  obtain ⟨hid, -, description, -, hdescription⟩ := hb _ _ hdata
  have hdata' : b'.doc .roles roleId = some data := by
    rw [Data.doc, hroles]
    exact hdata
  have hroleDe : roleDe b' (S.newId b.accounts) = some ⟨roleId, nom, description⟩ := by
    rw [roleDe, hd, Option.bind_some]
    unfold roleDuDocument
    rw [hroleId]
    dsimp only
    rw [if_neg hid, hdata', Option.bind_some, modeleDeRole, Doc.get, hnom, Doc.get, hdescription]
    rfl
  refine ends_handleLogin_route (compteDe_cree hc haccounts) hroleDe (hetab.imp_right ?_)
  rintro ⟨etab, hne, hetab⟩
  rw [etablissementDUtilisateur, hd, Option.bind_some, etablissementDe, hetab]
  show (Option.filter (· ≠ "") (some etab)).isSome
  rw [Option.filter_some, if_pos (decide_eq_true hne)]
  rfl

/-- What the four screens write of the role and of the establishment. -/
theorem utilisateur_apres {e : EcranAjout} {p : e.Page} (u roleId : String) (file : Option String) :
    (e.apres S p u roleId file b).docs .roles = b.docs .roles ∧
      ∃ d, (e.apres S p u roleId file b).doc .utilisateurs u = some d ∧
        d.get .roleId = .str roleId ∧ d.get .etablissementId = .str (etablissementSaisi e p) := by
  cases e with
  | eleve =>
    have hdocs : (EcranAjout.eleve.apres S p u roleId file b).docs .utilisateurs =
        (b.docs .utilisateurs).put u
          (newDoc b.clock (AjoutEleve.utilisateurData p u roleId file)) :=
      AjoutEleve.inscrit_docs_ne (by decide)
    refine ⟨AjoutEleve.inscrit_docs_ne (by decide),
      newDoc b.clock (AjoutEleve.utilisateurData p u roleId file), ?_, rfl, rfl⟩
    rw [Data.doc, hdocs, Table.find_put_self]
  | parent => exact ⟨rfl, _, Table.find_put_self _ _ _, rfl, rfl⟩
  | enseignant => exact ⟨rfl, _, Table.find_put_self _ _ _, rfl, rfl⟩
  | administrateur => exact ⟨rfl, _, Table.find_put_self _ _ _, rfl, rfl⟩

theorem accueillis (hbas : ∀ r : EcranCompte, toLowerCase r.nomRole = r.nomConnexion)
    (hb : Stored .roles RoleSaisi b) : Accueillis toLowerCase S b r := by
  intro p f rememberMe app hetab hreussie
  cases r with
  | superAdmin =>
    obtain ⟨hc, haccounts, roleId, hrole, hdocs⟩ :=
      AjoutSuperAdministrateur.creation_of_reussie hreussie
    have hroute : routeDe toLowerCase "Superadmin" = EcranCompte.accueil .superAdmin :=
      routeDe_eq_iff.mpr (hbas .superAdmin)
    rw [← hroute]
    have hd : (EcranCompte.superAdmin.execution S p b f).2.doc .utilisateurs (S.newId b.accounts) =
        some (newDoc b.clock (p.userData (S.newId b.accounts) roleId ++
          [texte .typeUtilisateur "superadministrateur"])) :=
      (congrArg (Table.find · (S.newId b.accounts)) (congrFun hdocs .utilisateurs)).trans
        (Table.find_put_self _ _ _)
    exact ends_handleLogin_cree hb hc haccounts hrole (congrFun hdocs .roles) hd rfl
      (.inl (hbas .superAdmin))
  | ecran e =>
    obtain ⟨hcompte, -, roleId, hrole, hdocs⟩ := EcranAjout.execution_reussie hreussie
    have haccounts := (EcranAjout.execution_avec_compte (S := S) hcompte).accounts
    obtain ⟨hroles, d, hd, hroleId, hsaisi⟩ := utilisateur_apres (S := S) (b := b) (p := p)
      (S.newId b.accounts) roleId (e.flux.fichier S p b f)
    have hroute : routeDe toLowerCase e.flux.nomRole = EcranCompte.accueil (.ecran e) :=
      routeDe_eq_iff.mpr (hbas (.ecran e))
    rw [← hroute]
    refine ends_handleLogin_cree hb hcompte.2.2.2.2 haccounts hrole ?_ ?_ hroleId
      (.inr ⟨_, hetab, hsaisi⟩)
    · exact (congrFun hdocs .roles).trans hroles
    · exact (congrArg (Table.find · (S.newId b.accounts)) (congrFun hdocs .utilisateurs)).trans hd

/-- **Agreement.**  Over roles entered on the screen, creation and login agree on a role exactly when it
is not stored under another case of its name alone. -/
theorem accordDesRoles_iff (toLowerCase : String → String)
    (hbas : ∀ r : EcranCompte, toLowerCase r.nomRole = r.nomConnexion) (S : Server) (b : Base)
    (hb : Stored .roles RoleSaisi b) (r : EcranCompte) :
    Accord toLowerCase S b r ↔ SansVariante toLowerCase b r := by
  unfold Accord
  rw [trouve_iff, dispatche_iff, and_iff_left (accueillis hbas hb)]
  constructor
  · exact fun h nom hnom hnomBas => h.mpr ⟨nom, hnom, hnomBas⟩
  · intro h
    constructor
    · exact fun hnom => ⟨r.nomRole, hnom, hbas r⟩
    · rintro ⟨nom, hnom, hnomBas⟩
      exact h nom hnom hnomBas

/-- The role of the super administrators, entered in small letters. -/
def roleSuperadmin : Base :=
  baseVide.putDoc .roles "r1" (newDoc 0 (AjoutRole.roleData "superadmin" "Tous les droits"))

theorem doc_roleSuperadmin {id : String} {d : Document} :
    roleSuperadmin.doc .roles id = some d ↔
      id = "r1" ∧ newDoc 0 (AjoutRole.roleData "superadmin" "Tous les droits") = d := by
  rw [roleSuperadmin, Data.doc_putDoc]
  by_cases hid : id = "r1"
  · rw [if_pos ⟨rfl, hid⟩, Option.some.injEq, and_iff_right hid]
  · rw [if_neg fun h => hid h.2]
    exact iff_of_false nofun fun h => hid h.1

theorem roleSaisi_roleSuperadmin : Stored .roles RoleSaisi roleSuperadmin := by
  intro id d hd
  obtain ⟨rfl, rfl⟩ := doc_roleSuperadmin.mp hd
  exact ⟨by decide, _, _, rfl, rfl⟩

theorem toLower_nomRole (r : EcranCompte) : r.nomRole.toLower = r.nomConnexion := by
  rcases r with _ | _ | _ | _ | _ <;> decide +kernel

theorem accordDesRoles_superadmin :
    Accord String.toLower (Server.longest 10) roleSuperadmin .superAdmin ↔
      SansVariante String.toLower roleSuperadmin .superAdmin :=
  accordDesRoles_iff String.toLower toLower_nomRole (Server.longest 10) roleSuperadmin
    roleSaisi_roleSuperadmin .superAdmin

/-- The login page takes the users of that role home, and the screen does not find the role. -/
theorem not_accord_superadmin : Stored .roles RoleSaisi roleSuperadmin ∧
    ¬Accord String.toLower (Server.longest 10) roleSuperadmin .superAdmin := by
  refine ⟨roleSaisi_roleSuperadmin, fun h => ?_⟩
  have hdispatche : Dispatche String.toLower (Server.longest 10) roleSuperadmin .superAdmin :=
    dispatche_iff.mpr ⟨"superadmin", ⟨"r1", _, doc_roleSuperadmin.mpr ⟨rfl, rfl⟩, rfl⟩,
      by decide +kernel⟩
  obtain ⟨id, d, hd, hnom⟩ := trouve_iff.mp (h.1.mpr hdispatche)
  obtain ⟨-, rfl⟩ := doc_roleSuperadmin.mp hd
  have hnoms : "superadmin" = "Superadmin" := Value.str.inj (Option.some.inj hnom)
  exact absurd hnoms (by decide)

end Creation

end EduConnect.SuperAdmin
