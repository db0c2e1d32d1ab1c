import EduConnect.Admin.Inscriptions

/-!
# Roles and super administrators

`AjoutRoleVue` adds a document to `roles`, `AjoutSuperAdministrateurVue` creates the account of a
super administrator.
-/

namespace EduConnect.SuperAdmin

open Lib Prog Admin

/-! ## AjoutRoleVue -/

/-- `_AjoutRoleVueState` with the texts of its form. -/
structure AjoutRole where
  nom : String := ""
  description : String := ""
  messages : List Message := []

namespace AjoutRole

def afficherMessage (titre message : String) (type : DialogType) : Action Etape AjoutRole Unit :=
  setState fun p => { p with messages := p.messages ++ [⟨titre, message, type⟩] }

/-- The validators of the form. -/
def validate (p : AjoutRole) : Bool := p.nom ≠ "" && p.description ≠ ""

/-- The fields of the new `roles` document. -/
def roleData (nom description : String) : Champs := [texte .nom nom, texte .description description]

/-- `DepotRole.ajouterRole`. -/
def ajouterRole (nom description : String) : Action Etape AjoutRole Unit := do
  let _ ← ajouter .autre .roles (roleData nom description)
  ret ()

def enregistrerRole : Action Etape AjoutRole Unit := do
  let p ← page
  if p.validate then
    catching (do
      ajouterRole (trim p.nom) (trim p.description)
      afficherMessage "Succès" "Le rôle a été ajouté avec succès" .success
      setState fun p => { p with nom := "", description := "" }) fun e =>
      afficherMessage "Erreur" ("Échec de l'ajout du rôle : " ++ texteErreur e) .error
  else ret ()

end AjoutRole

/-- A document of `roles` as the screen writes it: an id, a name and a description. -/
def RoleSaisi (id : String) (d : Document) : Prop :=
  id ≠ "" ∧ ∃ nom description, d .nom = some (.str nom) ∧ d .description = some (.str description)

/-- The screen keeps the form of the roles. -/
theorem preserves_enregistrerRole {S : Server} (hS : ∀ l, S.fresh l ≠ "") :
    AjoutRole.enregistrerRole.Preserves S.handler (Stored .roles RoleSaisi) := by
  have hissues : AjoutRole.enregistrerRole.Issues fun _ r =>
      ∃ nom description, r = Req.add .roles (AjoutRole.roleData nom description) := by
    refine .bind (fun _ => trivial) fun p => .ite (.catching ?_ fun e => trivial) trivial
    exact .bind (.bind ((issues_ajouter _ _ _).mpr ⟨_, _, rfl⟩) fun _ => trivial) fun _ => trivial
  refine hissues.preserves ?_
  rintro _ _ b ⟨nom, description, rfl⟩ hb
  have hrole : RoleSaisi (S.newDocId b .roles)
      (newDoc b.clock (AjoutRole.roleData nom description)) :=
    ⟨hS _, nom, description, rfl, rfl⟩
  have hput : Stored .roles RoleSaisi (b.putDoc .roles (S.newDocId b .roles)
      (newDoc b.clock (AjoutRole.roleData nom description))) := hb.putDoc fun _ => hrole
  exact hput.congr rfl

/-! ## AjoutSuperAdministrateurVue -/

/-- `_AjoutSuperAdministrateurVueState` with the texts of its form. -/
structure AjoutSuperAdministrateur where
  nom : String := ""
  prenom : String := ""
  email : String := ""
  telephone : String := ""
  adresse : String := ""
  motDePasse : String := ""
  loading : Bool := false
  messages : List Message := []

namespace AjoutSuperAdministrateur

def afficherMessage (titre message : String) (type : DialogType) :
    Action Etape AjoutSuperAdministrateur Unit :=
  setState fun p => { p with messages := p.messages ++ [⟨titre, message, type⟩] }

/-- The validators of the form. -/
def validate (p : AjoutSuperAdministrateur) : Bool :=
  [p.nom, p.prenom, p.email, p.telephone, p.adresse, p.motDePasse].all (· ≠ "") &&
    debuteParEmail p.email && decide (6 ≤ utf16Length p.motDePasse)

/-- The id of the role; the first one of that name. -/
def chercherRole : Action Etape AjoutSuperAdministrateur (Option String) := do
  let docs ← chercherPremier .autre .roles [.isEqualTo .nom (.str "Superadmin")]
  ret (docs.head?.map Prod.fst)

/-- `userData`. -/
def userData (p : AjoutSuperAdministrateur) (userId roleId : String) : Champs :=
  [texte .uid userId, texte .nom (trim p.nom), texte .prenom (trim p.prenom),
    texte .email (trim p.email), texte .numeroTelephone (trim p.telephone),
    texte .adresse (trim p.adresse), (.statut, .put (.bool false)), texte .photoUrl "",
    texte .roleId roleId, (.createdAt, .serverTimestamp)]

/-- The fields of the new `authentification` document. -/
def authentificationData (p : AjoutSuperAdministrateur) (userId roleId : String) : Champs :=
  [texte .email (trim p.email), texte .roleId roleId, texte .uid userId]

/-- The text of a `FirebaseAuthException`, or of another error. -/
def messageEchec : Err → String
  | .auth "email-already-in-use" _ => "Cet email est déjà utilisé."
  | .auth "weak-password" _ => "Mot de passe trop faible (minimum 6 caractères)."
  | .auth _ message => message.getD "Erreur inconnue lors de la création du compte."
  | e => "Échec de l'enregistrement : " ++ texteErreur e

/-- The documents of the new account. -/
def enregistrerDocuments (userId roleId : String) : Action Etape AjoutSuperAdministrateur Unit := do
  let p ← page
  ecrire .autre (.set .superadministrateurs userId (p.userData userId roleId))
  ecrire .autre (.set .utilisateurs userId
    (p.userData userId roleId ++ [texte .typeUtilisateur "superadministrateur"]))
  let p ← page
  ecrire .autre (.set .authentification userId (p.authentificationData userId roleId))

/-- The body of the `try`. -/
def creer : Action Etape AjoutSuperAdministrateur Unit := do
  let roleId ← chercherRole
  match roleId with
  | none =>
    afficherMessage "Erreur" "Le rôle 'superadmin' est introuvable dans la base de données." .error
    setState fun p => { p with loading := false }
  | some roleId =>
    let p ← page
    let userId ← creerCompte .autre (trim p.email) (trim p.motDePasse)
    enregistrerDocuments userId roleId
    afficherMessage "Succès" "Super administrateur ajouté avec succès" .success

def enregistrerSuperAdministrateur : Action Etape AjoutSuperAdministrateur Unit := do
  let p ← page
  if p.validate then
    setState fun p => { p with loading := true }
    ensuring (catching creer fun e => afficherMessage "Erreur" (messageEchec e) .error) fun p =>
      { p with loading := false }
  else ret ()

/-! ### What a press of the button stores -/

/-- The press added the message of success. -/
def Reussie (p p' : AjoutSuperAdministrateur) : Prop :=
  p'.messages = p.messages ++
    [⟨"Succès", "Super administrateur ajouté avec succès", .success⟩]

/-- The data with the documents of the new account `u`. -/
def apres (p : AjoutSuperAdministrateur) (u r : String) (b : Base) : Base :=
  ((b.putDoc .superadministrateurs u (newDoc b.clock (p.userData u r))).putDoc .utilisateurs u
    (newDoc b.clock (p.userData u r ++ [texte .typeUtilisateur "superadministrateur"]))).putDoc
    .authentification u (newDoc b.clock (p.authentificationData u r))

variable {S : Server} {p p' : AjoutSuperAdministrateur} {b b' : Base} {f : List (Option Err)}

/-- A press that succeeds has created the account, with the role of that name. -/
structure Creation (S : Server) (p : AjoutSuperAdministrateur) (b b' : Base) : Prop where
  compte : CompteAccepte b (trim p.email) (trim p.motDePasse)
  accounts : b'.accounts = b.accounts.put (S.newId b.accounts) (trim p.email, trim p.motDePasse)
  docs : ∃ r, roleNomme b "Superadmin" = some r ∧
    b'.docs = (p.apres (S.newId b.accounts) r b).docs

theorem not_reussie_of_erreur {message : String}
    (h : p'.messages = p.messages ++ [⟨"Erreur", message, .error⟩]) : ¬Reussie p p' := by
  intro hr
  have hlast := List.append_cancel_left (h.symm.trans hr)
  simp at hlast

theorem not_reussie_of_eq (h : p'.messages = p.messages) : ¬Reussie p p' := by
  intro hr
  have hlength := congrArg List.length (h.symm.trans hr)
  simp at hlength

/-- What a part of the press may end in: an error with the page as it was, a failure that is
announced, or the new account. -/
def Issue (S : Server) (p : AjoutSuperAdministrateur) (b : Base) (a : Except Err Unit)
    (p' : AjoutSuperAdministrateur) (b' : Base) : Prop :=
  (∃ e, a = .error e ∧ p'.messages = p.messages) ∨
    (a = .ok () ∧ ∃ message, p'.messages = p.messages ++ [⟨"Erreur", message, .error⟩]) ∨
    (a = .ok () ∧ Reussie p p' ∧ Creation S p b b')

theorem ends_enregistrerDocuments {u r : String} :
    (enregistrerDocuments u r).Ends (faulty S.handler) (fun a p' x => p' = p ∧
      (a = .ok () → x.1 = p.apres u r b)) p (b, f) := by
  simp only [enregistrerDocuments, bind_eq]
  rw [ends_page_bind]
  refine ends_bind.mpr (ends_set_pannes.mpr ⟨fun e _ => ⟨rfl, nofun⟩, fun _ => ?_⟩)
  refine ends_bind.mpr (ends_set_pannes.mpr ⟨fun e _ => ⟨rfl, nofun⟩, fun _ => ?_⟩)
  refine ends_page_bind.mpr ?_
  exact ends_set_pannes.mpr ⟨fun e _ => ⟨rfl, nofun⟩, fun _ => ⟨rfl, fun _ => rfl⟩⟩

theorem ends_creer :
    creer.Ends (faulty S.handler) (fun a p' x => Issue S p b a p' x.1) p (b, f) := by
  simp only [creer, chercherRole, bind_eq]
  refine ends_bind.mpr (ends_bind.mpr ((ends_requete_pannes rfl).mpr
    ⟨fun e _ => .inl ⟨e, rfl, rfl⟩, fun _ => ?_⟩))
  refine (ends_ret _).mpr ?_
  show Prog.Ends _ _ (match roleNomme b "Superadmin" with
    | none => _
    | some _ => _) _ _
  rcases hrole : roleNomme b "Superadmin" with _ | r
  · exact .inr (.inl ⟨rfl, _, rfl⟩)
  dsimp only
  rw [ends_page_bind]
  by_cases hc : CompteAccepte b (trim p.email) (trim p.motDePasse)
  · refine ends_bind.mpr ((ends_creerCompte_pannes hc).mpr
      ⟨fun e _ => .inl ⟨e, rfl, rfl⟩, fun _ => ?_⟩)
    refine ends_bind.mpr (ends_enregistrerDocuments.mono ?_)
    rintro (e | u) p' ⟨b', f'⟩ ⟨rfl, hb'⟩
    · exact .inl ⟨e, rfl, rfl⟩
    · have hbase := hb' rfl
      dsimp only at hbase
      subst hbase
      exact .inr (.inr ⟨rfl, rfl, hc, rfl, r, hrole, rfl⟩)
  · exact ends_bind.mpr (ends_creerCompte_refus_pannes hc fun e => .inl ⟨e, rfl, rfl⟩)

variable (S) in
/-- The page and the data after a press of the button. -/
def execution (p : AjoutSuperAdministrateur) (b : Base) (f : List (Option Err)) :
    AjoutSuperAdministrateur × Base :=
  let x := enregistrerSuperAdministrateur.exec (faulty S.handler) p (b, f)
  (x.2.1, x.2.2.1)

/-- Success means that the account was created and its documents written. -/
theorem creation_of_reussie (h : Reussie p (execution S p b f).1) :
    Creation S p b (execution S p b f).2 := by
  have hends : enregistrerSuperAdministrateur.Ends (faulty S.handler)
      (fun _ p' x => Reussie p p' → Creation S p b x.1) p (b, f) := by
    simp only [enregistrerSuperAdministrateur, bind_eq]
    rw [ends_page_bind]
    by_cases hp : p.validate = true
    · rw [if_pos hp]
      refine ends_setState_bind.mpr (ends_ensuring.mpr (ends_catching.mpr (ends_creer.mono ?_)))
      rintro (e | u) p' x (⟨e', he, hm⟩ | ⟨he, message, hm⟩ | ⟨he, -, hc⟩)
      · exact fun hr => absurd hr (not_reussie_of_erreur (congrArg (· ++ _) hm))
      · cases he
      · cases he
      · cases he
      · exact fun hr => absurd hr (not_reussie_of_erreur hm)
      · exact fun _ => ⟨hc.compte, hc.accounts, hc.docs⟩
    · rw [if_neg hp]
      exact fun hr => absurd hr (not_reussie_of_eq rfl)
  exact hends h

end AjoutSuperAdministrateur

end EduConnect.SuperAdmin
