import EduConnect.Admin.Edition
import EduConnect.Admin.Profil
import EduConnect.Commun.Session
import EduConnect.Lib.Lots

/-!
# Credentials after edits

Sequences of edits of one user on the profile page and on the screens that edit users.  The email a
user signs in with is kept by Firebase and stored in `utilisateurs`; the profile page changes the
second one, and sends new passwords to Appwrite.
-/

namespace EduConnect.Admin

open Lib Prog Donnees Commun

/-! ## The system -/

/-- The data, the account of the user at Appwrite, the profile page, the model the screens of the
administrator open on, and the last password that was set. -/
structure Identifiants (α : Type) where
  base : Base
  appwrite : α
  profil : ProfilUtilisateur
  lu : Option UtilisateurModele := none
  motDePasse : String

inductive Modification where
  /-- The profile page loads. -/
  | ouvrirProfil
  | informations (nom prenom email : String)
  | motDePasse (mdp confirmation : String)
  /-- A list of users is read. -/
  | lireUtilisateur
  | utilisateur (ecran : EcranEdition) (nom prenom email telephone adresse : String)

/-- The screen opened on `u`, with the texts of its form. -/
def saisir (u : UtilisateurModele) (nom prenom email telephone adresse : String) :
    ModificationUtilisateur :=
  { ModificationUtilisateur.ouvrir u with
    nom := nom, prenom := prenom, email := email, telephone := telephone, adresse := adresse }

namespace Identifiants

variable {α : Type} (S : Server) (maj : (m : String) → α → Except Err Unit × α)

instance {ecran : EcranEdition} {p : ModificationUtilisateur} {b : Base} {f : List (Option Err)} :
    Decidable (Reussie S ecran p b f) := inferInstanceAs (Decidable (_ = _))

/-- One edit with the requests that are lost; only an edit that is reported successful is a step. -/
def pas (s : Identifiants α) : Modification × List (Option Err) → Option (Identifiants α)
  | (.ouvrirProfil, f) =>
    some { s with
      profil := (ProfilUtilisateur.chargerInfos.exec (faulty S.handler) s.profil (s.base, f)).2.1 }
  | (.informations nom prenom email, f) =>
    let x := (ProfilUtilisateur.modifierInformations nom prenom email).exec (faulty S.handler)
      s.profil (s.base, f)
    if x.2.1.dialoguesFermes = s.profil.dialoguesFermes + 1 then
      some { s with profil := x.2.1, base := x.2.2.1 }
    else none
  | (.motDePasse mdp confirmation, _) =>
    let x := (ProfilUtilisateur.modifierMotDePasse mdp confirmation).exec maj s.profil s.appwrite
    if x.2.1.dialoguesFermes = s.profil.dialoguesFermes + 1 then
      some { s with profil := x.2.1, appwrite := x.2.2, motDePasse := trim mdp }
    else none
  | (.lireUtilisateur, _) => do
    let d ← s.base.doc .utilisateurs s.profil.utilisateurId
    let u ← (UtilisateurModele.fromMap d s.profil.utilisateurId).toOption
    some { s with lu := some u }
  | (.utilisateur ecran nom prenom email telephone adresse, f) => do
    let u ← s.lu
    let p := saisir u nom prenom email telephone adresse
    if Reussie S ecran p s.base f then some { s with base := (apresEdition S ecran p s.base f).2 }
    else none

/-- The email stored in `utilisateurs`. -/
def emailStocke (s : Identifiants α) : Option Valeur :=
  (s.base.doc .utilisateurs s.profil.utilisateurId).bind (· .email)

/-- The user signs in with the stored email and the last password. -/
def Utilisables (s : Identifiants α) : Prop :=
  ∃ email, s.emailStocke = some (.str email) ∧ ∀ app, (connecter email s.motDePasse).Ends (pannes S)
    (fun a app' _ => a = .ok true ∧ app'.auth.utilisateurFirebase = some s.profil.utilisateurId) app
    (s.base, [])

/-- The edit leaves the email and the password as they are. -/
def Conserves (s : Identifiants α) : Modification × List (Option Err) → Prop
  | (.informations _ _ email, _) => s.emailStocke = some (.str (trim email))
  | (.utilisateur _ _ _ email _ _, _) => s.emailStocke = some (.str (trim email))
  | (.motDePasse mdp _, _) => trim mdp = s.motDePasse
  | _ => True

/-! ## When the user signs in -/

section Connexion

variable {S : Server} {b : Base} {email motDePasse uid : String} {app : Application}

theorem ends_connecter_iff :
    (connecter email motDePasse).Ends (pannes S)
      (fun a app' _ => a = .ok true ∧ app'.auth.utilisateurFirebase = some uid) app (b, []) ↔
      compteDe b email motDePasse = some uid ∧ (roleDe b uid).isSome := by
  constructor
  · intro h
    have hends : (connecter email motDePasse).Ends (pannes S) (fun a app' _ =>
        a = .ok true ∧ app'.auth.utilisateurFirebase = some uid →
          compteDe b email motDePasse = some uid ∧ (roleDe b uid).isSome) app (b, []) := by
      refine ends_connecter (fun _ => ?_) (fun u r _ hu _ hr => ?_) fun u _ _ _ m b' f' _ => ?_
      · rintro ⟨h, -⟩
        exact absurd (Except.ok.inj h) (by decide)
      · rintro ⟨-, h⟩
        obtain rfl : u = uid := Option.some.inj h
        exact ⟨hu, by rw [hr]; rfl⟩
      · rintro ⟨h, -⟩
        exact absurd (Except.ok.inj h) (by decide)
    exact hends h
  · rintro ⟨hu, hr⟩
    refine ends_connecter (fun h => ?_) (fun u r _ hu' _ _ => ?_) fun u _ hu' hc => ?_
    · rcases h with h | h
      · exact absurd rfl h
      · exact nomatch hu.symm.trans h
    · obtain rfl : uid = u := Option.some.inj (hu.symm.trans hu')
      exact ⟨rfl, rfl⟩
    · obtain rfl : uid = u := Option.some.inj (hu.symm.trans hu')
      exact absurd ⟨rfl, rfl, rfl, hr⟩ hc

/-- An account has one email and one password. -/
theorem compteDe_unique {email' motDePasse' : String} (h : compteDe b email motDePasse = some uid)
    (h' : compteDe b email' motDePasse' = some uid) :
    email = email' ∧ motDePasse = motDePasse' := by
  have hcompte : ∀ {e m : String}, compteDe b e m = some uid →
      b.accounts.find uid = some (e, m) := by
    intro e m he
    obtain ⟨a, ha, rfl⟩ := Option.map_eq_some_iff.mp he
    have hpaire : a.2 = (e, m) := by simpa using List.find?_some ha
    rw [Table.find_eq_some_iff, ← hpaire]
    exact List.mem_of_find?_eq_some ha
  exact Prod.mk.inj (Option.some.inj ((hcompte h).symm.trans (hcompte h')))

end Connexion

section Pas

variable {S : Server} {maj : (m : String) → α → Except Err Unit × α} {s s' : Identifiants α}

theorem utilisables_iff : s.Utilisables S ↔ ∃ email, s.emailStocke = some (.str email) ∧
    compteDe s.base email s.motDePasse = some s.profil.utilisateurId ∧
      (roleDe s.base s.profil.utilisateurId).isSome := by
  refine exists_congr fun email => and_congr_right fun _ => ?_
  constructor
  · exact fun h => ends_connecter_iff.mp (h {})
  · exact fun h app => ends_connecter_iff.mpr h

/-- The data after a write of the user that leaves him the role he has. -/
structure Ecrit (s : Identifiants α) (email : String) (b' : Base) : Prop where
  docs : ∃ d d', s.base.doc .utilisateurs s.profil.utilisateurId = some d ∧
    b' = s.base.putDoc .utilisateurs s.profil.utilisateurId d' ∧
    d' .email = some (.str email) ∧ d'.get .roleId = d.get .roleId

/-- The role of the user, and the one of the model that was read. -/
structure Coherents (s : Identifiants α) : Prop where
  role : (roleDe s.base s.profil.utilisateurId).isSome
  lu : ∀ u, s.lu = some u → u.id = s.profil.utilisateurId ∧
    ∀ d, s.base.doc .utilisateurs s.profil.utilisateurId = some d → d.get .roleId = .str u.roleId

theorem roleDe_ecrit {email : String} {b' : Base} (h : Ecrit s email b') :
    roleDe b' s.profil.utilisateurId = roleDe s.base s.profil.utilisateurId := by
  obtain ⟨d, d', hd, rfl, -, hrole⟩ := h.docs
  have hroles : ∀ id, (s.base.putDoc .utilisateurs s.profil.utilisateurId d').doc .roles id =
      s.base.doc .roles id := fun id => by
    rw [Data.doc_putDoc, if_neg fun hk => nomatch hk.1]
  rw [roleDe, roleDe, hd, Data.doc_putDoc, if_pos ⟨rfl, rfl⟩, Option.bind_some, Option.bind_some]
  unfold roleDuDocument
  rw [hrole]
  simp only [hroles]

/-- A user with a role names it by a text. -/
theorem get_roleId_of_roleDe {b : Base} {uid : String} (h : (roleDe b uid).isSome) :
    ∃ d rid, b.doc .utilisateurs uid = some d ∧ d.get .roleId = .str rid := by
  obtain ⟨d, hd⟩ := Option.isSome_iff_exists.mp (doc_of_roleDe h)
  rw [roleDe, hd, Option.bind_some] at h
  unfold roleDuDocument at h
  split at h
  · next rid hrid => exact ⟨d, rid, hd, hrid⟩
  · cases h

theorem roleId_of_fromMap {d : Document} {id rid : String} {u : UtilisateurModele}
    (h : UtilisateurModele.fromMap d id = .ok u) (hrid : d.get .roleId = .str rid) :
    u.id = id ∧ u.roleId = rid := by
  unfold UtilisateurModele.fromMap at h
  iterate 7 obtain ⟨_, _, h⟩ := bind_eq_ok_iff.mp h
  obtain ⟨roleId, hroleId, h⟩ := bind_eq_ok_iff.mp h
  iterate 2 obtain ⟨_, _, h⟩ := bind_eq_ok_iff.mp h
  obtain rfl := Except.ok.inj h
  rw [hrid] at hroleId
  exact ⟨rfl, (Except.ok.inj hroleId).symm⟩

/-- What a successful edit does. -/
inductive Effet (s : Identifiants α) (a : Modification × List (Option Err)) (s' : Identifiants α) :
    Prop
  | lecture (base : s'.base = s.base) (motDePasse : s'.motDePasse = s.motDePasse)
      (lu : s'.lu = s.lu ∨ ∃ d u, s.base.doc .utilisateurs s.profil.utilisateurId = some d ∧
        UtilisateurModele.fromMap d s.profil.utilisateurId = .ok u ∧ s'.lu = some u)
      (conserves : s.Conserves a)
  | ecriture (email : String) (base : Ecrit s email s'.base)
      (motDePasse : s'.motDePasse = s.motDePasse) (lu : s'.lu = s.lu)
      (conserves : s.Conserves a ↔ s.emailStocke = some (.str email))
  | motDePasse (base : s'.base = s.base) (lu : s'.lu = s.lu)
      (conserves : s.Conserves a ↔ s'.motDePasse = s.motDePasse)

theorem effet_of_pas {a : Modification × List (Option Err)} (hs : Coherents s)
    (h : pas S maj s a = some s') :
    s'.profil.utilisateurId = s.profil.utilisateurId ∧ Effet s a s' := by
  obtain ⟨m, f⟩ := a
  cases m with
  | ouvrirProfil =>
    obtain rfl := Option.some.inj h
    obtain ⟨-, hid, -⟩ := ProfilUtilisateur.ends_chargerInfos (S := S) (p := s.profil)
      (b := s.base) (f := f)
    exact ⟨hid, .lecture rfl rfl (.inl rfl) trivial⟩
  | informations nom prenom email =>
    obtain ⟨hid, hecrit⟩ := ProfilUtilisateur.ends_modifierInformations (S := S) (p := s.profil)
      (b := s.base) (f := f) nom prenom email
    simp only [pas] at h
    split_ifs at h with hferme
    obtain rfl := Option.some.inj h
    obtain ⟨d, hd, hbase⟩ := hecrit hferme
    exact ⟨hid, .ecriture (trim email) ⟨d, _, hd, hbase, rfl, rfl⟩ rfl rfl Iff.rfl⟩
  | motDePasse mdp confirmation =>
    obtain ⟨hid, -⟩ := ProfilUtilisateur.ends_modifierMotDePasse maj (p := s.profil)
      (x := s.appwrite) mdp confirmation
    simp only [pas] at h
    split_ifs at h with hferme
    obtain rfl := Option.some.inj h
    exact ⟨hid, .motDePasse rfl rfl Iff.rfl⟩
  | lireUtilisateur =>
    obtain ⟨d, hd, h⟩ := Option.bind_eq_some_iff.mp h
    obtain ⟨u, hu, h⟩ := Option.bind_eq_some_iff.mp h
    obtain rfl := Option.some.inj h
    have hmodele : UtilisateurModele.fromMap d s.profil.utilisateurId = .ok u := by
      rcases hlu : UtilisateurModele.fromMap d s.profil.utilisateurId with e | u'
      · rw [hlu] at hu
        exact nomatch hu
      · rw [hlu] at hu
        exact congrArg Except.ok (Option.some.inj hu)
    exact ⟨rfl, .lecture rfl rfl (.inr ⟨d, u, hd, hmodele, rfl⟩) trivial⟩
  | utilisateur ecran nom prenom email telephone adresse =>
    obtain ⟨u, hu, h⟩ := Option.bind_eq_some_iff.mp h
    obtain ⟨hid, hroleId⟩ := hs.lu u hu
    dsimp only at h
    split_ifs at h with hreussie
    obtain rfl := Option.some.inj h
    obtain ⟨d, hd, hbase⟩ := apresEdition_of_reussie hreussie
    have hd' : s.base.doc .utilisateurs s.profil.utilisateurId = some d := hid ▸ hd
    refine ⟨rfl, .ecriture (trim email) ⟨d, _, hd', hid ▸ hbase, rfl, ?_⟩ rfl rfl Iff.rfl⟩
    rw [hroleId d hd']
    rfl

theorem coherents_pas {a : Modification × List (Option Err)} (hs : Coherents s)
    (h : pas S maj s a = some s') : Coherents s' := by
  obtain ⟨hid, heffet⟩ := effet_of_pas hs h
  cases heffet with
  | lecture hbase _ hlu _ =>
    refine ⟨by rw [hbase, hid]; exact hs.role, fun u hu => ?_⟩
    rw [hbase, hid]
    rcases hlu with hlu | ⟨d, u', hd, hmodele, hlu⟩
    · exact hs.lu u (hlu ▸ hu)
    · obtain rfl : u' = u := Option.some.inj (hlu.symm.trans hu)
      obtain ⟨d', rid, hd', hrid⟩ := get_roleId_of_roleDe hs.role
      obtain rfl : d = d' := Option.some.inj (hd.symm.trans hd')
      obtain ⟨hu', hroleId⟩ := roleId_of_fromMap hmodele hrid
      refine ⟨hu', fun d' hd' => ?_⟩
      rw [← Option.some.inj (hd.symm.trans hd'), hrid, hroleId]
  | ecriture email hecrit _ hlu _ =>
    refine ⟨by rw [hid, roleDe_ecrit hecrit]; exact hs.role, fun u hu => ?_⟩
    obtain ⟨hu', hroleId⟩ := hs.lu u (hlu ▸ hu)
    obtain ⟨d, d', hd, hbase, -, hrole⟩ := hecrit.docs
    refine ⟨hu'.trans hid.symm, fun d₁ hd₁ => ?_⟩
    rw [hid, hbase, Data.doc_putDoc, if_pos ⟨rfl, rfl⟩] at hd₁
    rw [← Option.some.inj hd₁, hrole]
    exact hroleId d hd
  | motDePasse hbase hlu _ =>
    refine ⟨by rw [hbase, hid]; exact hs.role, fun u hu => ?_⟩
    rw [hbase, hid]
    exact hs.lu u (hlu ▸ hu)

/-- After one edit the user can sign in exactly if it leaves the email and the password. -/
theorem utilisables_pas_iff {a : Modification × List (Option Err)} (hs : Coherents s)
    (hu : s.Utilisables S) (h : pas S maj s a = some s') : s'.Utilisables S ↔ s.Conserves a := by
  obtain ⟨hid, heffet⟩ := effet_of_pas hs h
  obtain ⟨email₀, hemail₀, hcompte₀, hrole₀⟩ := utilisables_iff.mp hu
  rw [utilisables_iff, hid]
  cases heffet with
  | lecture hbase hmdp _ hcons =>
    refine iff_of_true ⟨email₀, ?_, ?_⟩ hcons
    · rw [emailStocke, hbase, hid]
      exact hemail₀
    · rw [hbase, hmdp]
      exact ⟨hcompte₀, hrole₀⟩
  | ecriture email hecrit hmdp _ hcons =>
    have hrole := roleDe_ecrit hecrit
    obtain ⟨d, d', -, hbase, hemail, -⟩ := hecrit.docs
    have hstocke : s'.emailStocke = some (.str email) := by
      rw [emailStocke, hid, hbase, Data.doc_putDoc, if_pos ⟨rfl, rfl⟩]
      exact hemail
    have hcomptes : ∀ e m, compteDe s'.base e m = compteDe s.base e m := fun e m => by
      rw [hbase]
      rfl
    rw [hcons, hstocke, hmdp, hrole, hemail₀]
    simp only [hcomptes]
    constructor
    · rintro ⟨e, he, hcompte, -⟩
      rw [he, (compteDe_unique hcompte₀ hcompte).1]
    · intro he
      exact ⟨email₀, he.symm, hcompte₀, hrole₀⟩
  | motDePasse hbase _ hcons =>
    have hstocke : s'.emailStocke = some (.str email₀) := by
      rw [emailStocke, hbase, hid]
      exact hemail₀
    rw [hcons, hstocke, hbase]
    constructor
    · rintro ⟨e, -, hcompte, -⟩
      exact (compteDe_unique hcompte₀ hcompte).2.symm
    · intro hmdp
      rw [hmdp]
      exact ⟨email₀, rfl, hcompte₀, hrole₀⟩

/-- **Credentials.**  A user who can sign in with the stored email and the last password still can after
each edit of a run exactly if all of them leave the email and the password as they are. -/
theorem utilisables_iff_conserves (S : Server) (maj : (m : String) → α → Except Err Unit × α)
    {s : Identifiants α} (hs : s.Utilisables S) (hlu : s.lu = none)
    (as : List (Modification × List (Option Err))) :
    Always (pas S maj) (Utilisables S) s as ↔ AllMeet (pas S maj) Conserves s as := by
  obtain ⟨-, -, -, hrole⟩ := utilisables_iff.mp hs
  have hcoherents : Coherents s := ⟨hrole, fun u hu => nomatch hlu.symm.trans hu⟩
  exact always_iff_allMeet (fun _ _ _ hc h => coherents_pas hc h)
    (fun _ _ _ hc hu h => utilisables_pas_iff hc hu h) hcoherents hs as

/-- Anne, a teacher, with the account and the documents her creation leaves. -/
def anne : UtilisateurModele where
  id := "u"
  nom := "Nom"
  prenom := "Anne"
  email := "anne@ecole.cm"
  numeroTelephone := "600000"
  adresse := "Ville"
  motDePasse := "secret"
  statut := false
  roleId := "r"
  etablissementId := "e"
  photo := none

def identifiantsDAnne : Identifiants Unit where
  base := { (baseVide.putDoc .utilisateurs "u" (newDoc 0 anne.toMap)).putDoc .roles "r"
    (newDoc 0 [texte .nom "enseignant", texte .description "d"]) with
    accounts := Table.empty.put "u" ("anne@ecole.cm", "secret") }
  appwrite := ()
  profil := { utilisateurId := "u" }
  motDePasse := "secret"

theorem utilisables_identifiantsDAnne :
    identifiantsDAnne.Utilisables (Server.longest 10) := by
  refine utilisables_iff.mpr ⟨"anne@ecole.cm", rfl, ?_, ?_⟩
  · decide +kernel
  · rfl

/-- Appwrite accepts every password. -/
def accepter (_ : String) (x : Unit) : Except Err Unit × Unit := (.ok (), x)

/-- Another name, and the same password. -/
def modificationsSansEffet : List (Modification × List (Option Err)) :=
  [(.ouvrirProfil, []), (.informations "Autre" "Anne" "anne@ecole.cm", []),
    (.motDePasse "secret" "secret", [])]

theorem utilisables_iff_conserves_anne :
    Always (pas (Server.longest 10) accepter) (Utilisables (Server.longest 10)) identifiantsDAnne
        modificationsSansEffet ↔
      AllMeet (pas (Server.longest 10) accepter) Conserves identifiantsDAnne
        modificationsSansEffet :=
  utilisables_iff_conserves (Server.longest 10) accepter utilisables_identifiantsDAnne rfl
    modificationsSansEffet

/-- Anne changes her email on the profile page. -/
def nouvelEmail : List (Modification × List (Option Err)) :=
  [(.ouvrirProfil, []), (.informations "Nom" "Anne" "anne@autre.cm", [])]

/-- No account has the stored email and the last password. -/
def sansCompte (s : Identifiants α) : Bool :=
  match s.emailStocke with
  | some (.str email) => (compteDe s.base email s.motDePasse).isNone
  | _ => true

theorem not_utilisables_of_sansCompte (h : s.sansCompte = true) : ¬s.Utilisables S := by
  intro hu
  obtain ⟨email, hemail, hcompte, -⟩ := utilisables_iff.mp hu
  unfold sansCompte at h
  rw [hemail] at h
  dsimp only at h
  rw [hcompte] at h
  exact nomatch h

/-- The edit is saved, and she cannot sign in with the stored email. -/
theorem not_utilisables_nouvelEmail : identifiantsDAnne.Utilisables (Server.longest 10) ∧
    ¬Always (pas (Server.longest 10) accepter) (Utilisables (Server.longest 10)) identifiantsDAnne
      nouvelEmail :=
  ⟨utilisables_identifiantsDAnne,
    not_always_of_final sansCompte (fun _ => not_utilisables_of_sansCompte) (by decide +kernel)⟩

end Pas

end Identifiants

end EduConnect.Admin
