import EduConnect.SuperAdmin.Roles

/-!
# DepotAdministrateur

`ajouterAdministrateur` says that it finds the role "administrateur", gives it to the user, and adds
the document of `administrateurs`.  It finds the role and adds the document; the user keeps the role
he had.
-/

namespace EduConnect.SuperAdmin

open Lib Prog Admin Donnees

/-- `donnees/modeles/AdministrateurModele.dart`. -/
structure AdministrateurModele where
  id : String
  utilisateurId : String

/-- The id is not stored. -/
def AdministrateurModele.toMap (a : AdministrateurModele) : Champs := lienUtilisateur a.utilisateurId

namespace DepotAdministrateur

variable {σ : Type}

/-- `DepotUtilisateur.getUtilisateurParId`. -/
def getUtilisateurParId (id : String) : Action Etape σ (Option UtilisateurModele) := do
  let doc ← lireDoc .autre .utilisateurs id
  match doc with
  | some data => do
    let utilisateur ← ofExcept (UtilisateurModele.fromMap data id)
    ret (some utilisateur)
  | none => ret none

def ajouterAdministrateur (admin : AdministrateurModele) : Action Etape σ Unit := do
  let docs ← chercherPremier .autre .roles [.isEqualTo .nom (.str "administrateur")]
  if docs = [] then
    fail (.exception "Le rôle \"administrateur\" est introuvable dans Firestore.")
  else
    let utilisateur ← getUtilisateurParId admin.utilisateurId
    match utilisateur with
    | none => fail (.exception "Utilisateur introuvable.")
    | some _ =>
      -- `doc` refuses an empty id
      if admin.id = "" then fail .invalidArgument
      else ecrire .autre (.set .administrateurs admin.id admin.toMap)

/-- The screen adds an administrator under the id of his account. -/
theorem ajouterAdministrateur_eq {uid : String} (h : uid ≠ "") :
    AjoutAdministrateur.ajouterAdministrateur uid = ajouterAdministrateur ⟨uid, uid⟩ := by
  simp only [AjoutAdministrateur.ajouterAdministrateur, ajouterAdministrateur, getUtilisateurParId,
    AjoutAdministrateur.getUtilisateurParId, lireDoc, if_neg h]
  rfl

/-! ## What the comment promises -/

/-- `id` is the id of a role of that name. -/
def EstRole (b : Base) (nom id : String) : Prop :=
  ∃ r, b.doc .roles id = some r ∧ r .nom = some (.str nom)

/-- The user has the role "administrateur". -/
def Attribue (b : Base) (a : AdministrateurModele) : Prop :=
  ∃ d roleId, b.doc .utilisateurs a.utilisateurId = some d ∧ d .roleId = some (.str roleId) ∧
    EstRole b "administrateur" roleId

/-- What is promised of a call that succeeds. -/
structure Promesse (a : AdministrateurModele) (b b' : Base) : Prop where
  lien : ∃ d, b'.doc .administrateurs a.id = some d ∧
    d .utilisateurId = some (.str a.utilisateurId)
  role : Attribue b' a
  documents : ∀ c id, (c, id) ≠ (.administrateurs, a.id) →
    (c, id) ≠ (.utilisateurs, a.utilisateurId) → b'.doc c id = b.doc c id
  utilisateur : ∀ d d', b.doc .utilisateurs a.utilisateurId = some d →
    b'.doc .utilisateurs a.utilisateurId = some d' → ∀ f, f ≠ .roleId → d' f = d f
  administrateur : ∀ d d', b.doc .administrateurs a.id = some d →
    b'.doc .administrateurs a.id = some d' → ∀ f, f ≠ .utilisateurId → d' f = d f
  reste : { b' with docs := b.docs } = b

/-- Whatever requests are lost, a call that succeeds keeps the promise and one that throws leaves the
data as they were. -/
def Conforme (S : Server) (b : Base) (a : AdministrateurModele) : Prop :=
  ∀ f : List (Option Err), (ajouterAdministrateur a : Action Etape Unit Unit).Ends
    (faulty S.handler) (fun r _ x => match r with
      | .ok _ => Promesse a b x.1
      | .error _ => x.1 = b) () (b, f)

/-! ## What a call does -/

/-- The call succeeds when no request is lost. -/
structure Accepte (b : Base) (a : AdministrateurModele) : Prop where
  role : RoleStocke b "administrateur"
  utilisateurId : a.utilisateurId ≠ ""
  utilisateur : ∃ d u, b.doc .utilisateurs a.utilisateurId = some d ∧
    UtilisateurModele.fromMap d a.utilisateurId = .ok u
  id : a.id ≠ ""

/-- The data with the document of the administrator. -/
def avecLien (a : AdministrateurModele) (b : Base) : Base :=
  b.putDoc .administrateurs a.id (newDoc b.clock a.toMap)

/-- How a call ends. -/
def Issue (a : AdministrateurModele) (b : Base) (f : List (Option Err)) (r : Except Err Unit)
    (b' : Base) : Prop :=
  (r = .ok () ∧ b' = avecLien a b ∧ Accepte b a) ∨
    ((∃ e, r = .error e) ∧ b' = b ∧ (Accepte b a → f ≠ []))

variable {S : Server} {b : Base} {a : AdministrateurModele} {f : List (Option Err)} {s : σ}

theorem issue_perdu {e : Err} (h : f ≠ []) : Issue a b f (.error e) b :=
  .inr ⟨⟨e, rfl⟩, rfl, fun _ => h⟩

theorem issue_refus {e : Err} (h : ¬Accepte b a) : Issue a b f (.error e) b :=
  .inr ⟨⟨e, rfl⟩, rfl, fun ha => absurd ha h⟩

/-- A fault that comes later means that faults were given. -/
theorem ne_nil_of_tail {g : List (Option Err)} (h : g.tail ≠ []) : g ≠ [] := by
  rintro rfl
  exact h rfl

theorem ne_nil_of_fault {g : List (Option Err)} {e : Err} (h : nextFault g = some e) : g ≠ [] := by
  rintro rfl
  exact nomatch h

/-- The user is read, or the call fails. -/
theorem ends_getUtilisateurParId {id : String} :
    (getUtilisateurParId id : Action Etape σ _).Ends (faulty S.handler) (fun r s' x => s' = s ∧
      x.1 = b ∧ match r with
        | .ok (some _) => x.2 = f.tail ∧ id ≠ "" ∧ ∃ d u, b.doc .utilisateurs id = some d ∧
            UtilisateurModele.fromMap d id = .ok u
        | .ok none => b.doc .utilisateurs id = none
        | .error _ => f ≠ [] ∨ id = "" ∨ ∀ d u, b.doc .utilisateurs id = some d →
            UtilisateurModele.fromMap d id ≠ .ok u) s (b, f) := by
  simp only [getUtilisateurParId, lireDoc, bind_eq]
  by_cases hid : id = ""
  · rw [if_pos hid]
    exact ⟨rfl, rfl, .inr (.inl hid)⟩
  rw [if_neg hid]
  refine ends_bind.mpr (ends_lire_pannes.mpr ⟨fun e he => ?_, fun _ => ?_⟩)
  · exact ⟨rfl, rfl, .inl (ne_nil_of_fault he)⟩
  rcases hd : b.doc .utilisateurs id with _ | d
  · exact ⟨rfl, rfl, rfl⟩
  refine ends_bind.mpr ((ends_ofExcept _).mpr ?_)
  rcases hu : UtilisateurModele.fromMap d id with e | u
  · refine ⟨rfl, rfl, .inr (.inr ?_)⟩
    rintro d' u hd'
    obtain rfl := Option.some.inj hd'
    rw [hu]
    exact nofun
  · exact ⟨rfl, rfl, rfl, hid, d, u, rfl, hu⟩

theorem ends_ajouterAdministrateur :
    (ajouterAdministrateur a : Action Etape σ Unit).Ends (faulty S.handler)
      (fun r _ x => Issue a b f r x.1) s (b, f) := by
  simp only [ajouterAdministrateur, bind_eq]
  refine ends_bind.mpr ((ends_requete_pannes rfl).mpr ⟨fun e he => ?_, fun _ => ?_⟩)
  · exact issue_perdu (ne_nil_of_fault he)
  dsimp only
  by_cases hvide : (⟨[.isEqualTo .nom (.str "administrateur")], none, some 1⟩ : Query Champ).run
    (b.docs .roles) = []
  · rw [if_pos hvide]
    show Issue a b f (.error _) b
    refine issue_refus fun ha => ?_
    have hrole := roleNomme_isSome_iff.mpr ha.role
    rw [roleNomme, hvide] at hrole
    cases hrole
  rw [if_neg hvide]
  have hrole : RoleStocke b "administrateur" := by
    refine roleNomme_isSome_iff.mp ?_
    rw [roleNomme]
    simpa [List.head?_eq_none_iff, Option.isSome_iff_ne_none] using hvide
  refine ends_bind.mpr (ends_getUtilisateurParId.mono ?_)
  rintro (e | _ | u) s' ⟨b', f'⟩ ⟨rfl, rfl, h⟩
  · rcases h with h | h | h
    · exact issue_perdu (ne_nil_of_tail h)
    · exact issue_refus fun ha => ha.utilisateurId h
    · refine issue_refus fun ha => ?_
      obtain ⟨d, u, hd, hu⟩ := ha.utilisateur
      exact h d u hd hu
  · refine issue_refus fun ha => ?_
    obtain ⟨d, -, hd, -⟩ := ha.utilisateur
    cases hd.symm.trans h
  · obtain ⟨hf, hu, hlu⟩ := h
    dsimp only at hf ⊢
    by_cases hid : a.id = ""
    · rw [if_pos hid]
      exact issue_refus fun ha => ha.id hid
    · rw [if_neg hid]
      refine ends_set_pannes.mpr ⟨fun e he => ?_, fun _ => ?_⟩
      · rw [hf] at he
        exact issue_perdu (ne_nil_of_tail (ne_nil_of_tail (ne_nil_of_fault he)))
      · exact .inl ⟨rfl, rfl, hrole, hu, hlu, hid⟩

/-! ## When the promise is kept -/

/-- No other field is stored in the document the call writes, as the comment of the class has it. -/
def LienSeul (b : Base) (a : AdministrateurModele) : Prop :=
  ∀ d, b.doc .administrateurs a.id = some d → ∀ f, f ≠ .utilisateurId → d f = none

theorem doc_avecLien : (avecLien a b).doc .administrateurs a.id = some (newDoc b.clock a.toMap) := by
  rw [avecLien, Data.doc_putDoc, if_pos ⟨rfl, rfl⟩]

theorem doc_avecLien_ne {c : Collection} {id : String} (h : (c, id) ≠ (.administrateurs, a.id)) :
    (avecLien a b).doc c id = b.doc c id := by
  rw [avecLien, Data.doc_putDoc, if_neg]
  rintro ⟨rfl, rfl⟩
  exact h rfl

/-- The call assigns no role. -/
theorem attribue_avecLien : Attribue (avecLien a b) a ↔ Attribue b a := by
  have hdocs : ∀ {c} id, c ≠ .administrateurs → (avecLien a b).doc c id = b.doc c id := by
    intro c id hc
    exact doc_avecLien_ne fun h => hc (congrArg Prod.fst h)
  unfold Attribue EstRole
  simp only [hdocs _ (show Collection.utilisateurs ≠ .administrateurs by decide),
    hdocs _ (show Collection.roles ≠ .administrateurs by decide)]

theorem toMap_ne {f : Champ} (h : f ≠ .utilisateurId) : newDoc b.clock a.toMap f = none := by
  refine writeFields_of_not_mem ?_
  intro hmem
  exact h (List.mem_singleton.mp hmem)

theorem promesse_iff : Promesse a b (avecLien a b) ↔ Attribue b a ∧ LienSeul b a := by
  constructor
  · intro h
    refine ⟨attribue_avecLien.mp h.role, fun d hd f hf => ?_⟩
    rw [← h.administrateur d _ hd doc_avecLien f hf]
    exact toMap_ne hf
  · rintro ⟨hrole, hseul⟩
    have hutilisateur : (avecLien a b).doc .utilisateurs a.utilisateurId =
        b.doc .utilisateurs a.utilisateurId := doc_avecLien_ne (by simp)
    refine ⟨⟨_, doc_avecLien, rfl⟩, attribue_avecLien.mpr hrole, ?_, ?_, ?_, rfl⟩
    · exact fun c id hne _ => doc_avecLien_ne hne
    · intro d d' hd hd' f _
      rw [hutilisateur, hd] at hd'
      obtain rfl := Option.some.inj hd'
      rfl
    · intro d d' hd hd' f hf
      rw [doc_avecLien] at hd'
      obtain rfl := Option.some.inj hd'
      rw [hseul d hd f hf]
      exact toMap_ne hf

/-- **The documented contract.**  `ajouterAdministrateur` keeps it exactly when the call cannot succeed,
or the user already has the role and the document it writes held no other field. -/
theorem ajouterAdministrateur_conforme_iff (S : Server) (b : Base) (a : AdministrateurModele) :
    Conforme S b a ↔ (Accepte b a → Attribue b a ∧ LienSeul b a) := by
  constructor
  · intro h ha
    have hissue : Issue a b [] _ _ := ends_ajouterAdministrateur (S := S) (s := ())
    have hfin := h []
    unfold Ends at hfin
    rcases hissue with ⟨hr, hb, -⟩ | ⟨-, -, hne⟩
    · rw [hr, hb] at hfin
      exact promesse_iff.mp hfin
    · exact absurd rfl (hne ha)
  · intro h f
    refine ends_ajouterAdministrateur.mono ?_
    rintro r s' x (⟨rfl, hb, ha⟩ | ⟨⟨e, rfl⟩, hb, -⟩)
    · show Promesse a b x.1
      rw [hb]
      exact promesse_iff.mpr (h ha)
    · exact hb

/-- A user who is a parent, made an administrator. -/
def baseDUnParent : Base :=
  ((baseVide.putDoc .roles "r1" (newDoc 0 (AjoutRole.roleData "administrateur" "Gestion"))).putDoc
    .roles "r2" (newDoc 0 (AjoutRole.roleData "parent" "Suivi"))).putDoc .utilisateurs "u"
      (newDoc 0 [texte .nom "Ngono", texte .roleId "r2"])

/-- The parent is registered as an administrator and keeps the role of a parent. -/
theorem not_conforme_parent : ¬Conforme (Server.longest 10) baseDUnParent ⟨"u", "u"⟩ := by
  intro h
  have hfin := h []
  unfold Ends at hfin
  have hok : (ajouterAdministrateur ⟨"u", "u"⟩ : Action Etape Unit Unit).exec
      (faulty (Server.longest 10).handler) () (baseDUnParent, []) =
        (.ok (), (), avecLien ⟨"u", "u"⟩ baseDUnParent, []) := rfl
  rw [hok] at hfin
  obtain ⟨d, roleId, hd, hroleId, r, hr, hnom⟩ := hfin.role
  obtain rfl := Option.some.inj hd
  obtain rfl : "r2" = roleId := Value.str.inj (Option.some.inj hroleId)
  obtain rfl := Option.some.inj hr
  have hnoms : "parent" = "administrateur" := Value.str.inj (Option.some.inj hnom)
  exact absurd hnoms (by decide)

end DepotAdministrateur

end EduConnect.SuperAdmin
