import EduConnect.Commun.Abonnements
import EduConnect.Modeles

/-!
# The home page of a teacher

`HomeEnseignant` shows its navigation as soon as the account has been read, while its pages are made
at the end of the load: until then they are five empty ones, for six entries.
-/

namespace EduConnect.Enseignant

open Lib Prog Donnees Commun

/-- The page behind an entry, with what it is given. -/
inductive PageEnseignant where
  /-- `SizedBox()`. -/
  | vide
  | dashboard (enseignant : UtilisateurModele)
  | appel (etablissementId utilisateurId : String)
  | annonces (etablissementId enseignantId : String)
  | messagerie (etablissementId utilisateurId : String)
  | devoirs (etablissementId enseignantUtilisateurId : String)
  | notes (etablissementId utilisateurId : String)

def pageTitles : List String := ["Accueil", "Appel", "Annonces", "Messagerie", "Devoirs", "notes"]

/-- `_HomeEnseignantState`. -/
structure HomeEnseignant where
  etablissementId : String
  utilisateurId : String
  selectedIndex : ℕ := 0
  utilisateurPhotoFileId : Option String := none
  enseignantId : Option String := none
  utilisateurModele : Option UtilisateurModele := none
  pages : List PageEnseignant := List.replicate 5 .vide
  ecran : Ecran := {}
  /-- `initState` has been called. -/
  demarre : Bool := false
  /-- The last build is the scaffold with its navigation. -/
  construit : Bool := false
  /-- The index and the number of pages, for each build that came to `pages[_selectedIndex]`. -/
  acces : List (ℕ × ℕ) := []

inductive EtapeAccueil where
  | utilisateur | personne | photo
  deriving DecidableEq

/-- What happens to the page. -/
inductive EvAccueil where
  | initState
  | dispose
  | rebuild
  /-- A tap on an entry of the navigation. -/
  | tap (index : ℕ)

namespace HomeEnseignant

/-- `_chargerPhotoUtilisateur`. -/
def chargerPhotoUtilisateur : Action EtapeAccueil HomeEnseignant Unit :=
  catching (do
    let p ← page
    match ← lireDoc .photo .utilisateurs p.utilisateurId with
    | none => return
    | some data =>
      if (data .photoFileId).isSome then
        let fileId ← ofExcept (data.get .photoFileId).optStr
        setState fun p => { p with utilisateurPhotoFileId := fileId })
    fun _ => ret ()

/-- The streams the page listens to. -/
def flux : List Flux := [.messages, .notifications, .annonces]

/-- Those the load subscribes to. -/
def fluxCharges (p : HomeEnseignant) : List Flux :=
  if p.enseignantId.isSome then flux else [.notifications, .annonces]

/-- The subscriptions of `_loadUserData`. -/
def souscrire (p : HomeEnseignant) : HomeEnseignant :=
  { p with ecran := { p.ecran with
      abonnements := p.ecran.abonnements.listenAll p.fluxCharges } }

/-- The pages of the user. -/
def pagesDe (p : HomeEnseignant) (enseignant : UtilisateurModele) : List PageEnseignant :=
  [.dashboard enseignant, .appel p.etablissementId p.utilisateurId,
    .annonces p.etablissementId p.utilisateurId, .messagerie p.etablissementId p.utilisateurId,
    .devoirs p.etablissementId p.utilisateurId, .notes p.etablissementId p.utilisateurId]

/-- The document found for the teacher, if any. -/
def noterEnseignant : List (String × Document) → Action EtapeAccueil HomeEnseignant Unit
  | [] => ret ()
  | doc :: _ => setState fun p => { p with enseignantId := some doc.1 }

/-- `pages = [..]`, with `utilisateurModele!`. -/
def poserPages : Action EtapeAccueil HomeEnseignant Unit := do
  let p ← page
  match p.utilisateurModele with
  | none => fail .type
  | some enseignant => setState fun p => { p with pages := p.pagesDe enseignant }

/-- `_loadUserData`. -/
def loadUserData : Action EtapeAccueil HomeEnseignant Unit := do
  let p ← page
  match ← lireDoc .utilisateur .utilisateurs p.utilisateurId with
  | none => return
  | some data =>
    let modele ← ofExcept (UtilisateurModele.fromMap data p.utilisateurId)
    setState fun p => { p with utilisateurModele := some modele }
    let docs ← chercherPremier .personne .enseignants
      [.isEqualTo .utilisateurId (.str p.utilisateurId)]
    noterEnseignant docs
    chargerPhotoUtilisateur
    setState souscrire
    poserPages
    rafraichir ecran

/-- The page once it is loaded on the data `b`. -/
def ouvrir (S : Server) (b : Base) (etablissementId utilisateurId : String) : HomeEnseignant :=
  (loadUserData.exec S.handler { etablissementId, utilisateurId } b).2.1

/-- `nbMessagesNonLus`, when the data are `b`. -/
def nbMessagesNonLus (b : Base) (p : HomeEnseignant) : ℕ :=
  if p.ecran.ecoute .messages then
    match p.enseignantId with
    | none => 0
    | some enseignantId =>
      ((⟨[.isEqualTo .recepteurId (.str enseignantId), .isEqualTo .lu (.bool false)], none, none⟩ :
        Query Champ).run (b.docs .messages)).length
  else 0

/-- `build`. -/
def build (p : HomeEnseignant) : HomeEnseignant :=
  if p.utilisateurModele.isNone then { p with construit := false }
  else { p with
    acces := p.acces ++ [(p.selectedIndex, p.pages.length)]
    -- out of range, the build throws
    construit := decide (p.selectedIndex < p.pages.length) }

/-- The program of an event.  The load starts once; the entries of a scaffold can be tapped. -/
def programme (ev : EvAccueil) (p : HomeEnseignant) :
    Option (Action EtapeAccueil HomeEnseignant Unit) :=
  match ev with
  | .initState =>
    if p.demarre then none
    else some ((setState fun p => { p with demarre := true }).bind fun _ => loadUserData)
  | .dispose =>
    if p.ecran.demonte then none
    else some (setState fun p => { p with ecran := p.ecran.dispose flux })
  | .rebuild => if p.ecran.demonte then none else some (setState build)
  | .tap index =>
    if p.construit && !p.ecran.demonte && decide (index < pageTitles.length) then
      some (setState fun p => { p with selectedIndex := index })
    else none

/-! ## What a load finds -/

section Chargement

variable {S : Server} {b : Base} {etablissementId utilisateurId : String}

/-- The pages are still the empty ones. -/
def Provisoires (p : HomeEnseignant) : Prop := p.pages = List.replicate 5 .vide

/-- The load can decode the account. -/
def CompteLisible (b : Base) (utilisateurId : String) : Prop :=
  utilisateurId ≠ "" ∧ ∃ d m, b.doc .utilisateurs utilisateurId = some d ∧
    UtilisateurModele.fromMap d utilisateurId = .ok m

/-- The load has made the pages and subscribed. -/
structure Prete (etablissementId utilisateurId : String) (p : HomeEnseignant) : Prop where
  pages : ∃ enseignant, p.pages = [.dashboard enseignant, .appel etablissementId utilisateurId,
    .annonces etablissementId utilisateurId, .messagerie etablissementId utilisateurId,
    .devoirs etablissementId utilisateurId, .notes etablissementId utilisateurId]
  ecoute : p.ecran.ecoute .annonces = true

/-- It has not. -/
structure EnAttente (p : HomeEnseignant) : Prop where
  pages : p.Provisoires
  ecoute : ∀ f, p.ecran.ecoute f = false

/-- The photo is read in a `try`. -/
theorem ends_chargerPhotoUtilisateur {p : HomeEnseignant}
    {Q : Except Err Unit → HomeEnseignant → Base → Prop}
    (h : ∀ fileId, Q (.ok ()) { p with utilisateurPhotoFileId := fileId } b) :
    chargerPhotoUtilisateur.Ends S.handler Q p b := by
  refine ends_catching.mpr (ends_page_bind.mpr (ends_bind.mpr ?_))
  unfold lireDoc
  by_cases hid : p.utilisateurId = ""
  · rw [if_pos hid]
    exact h p.utilisateurPhotoFileId
  rw [if_neg hid]
  refine (ends_lire _ _ _).mpr ?_
  rcases b.doc .utilisateurs p.utilisateurId with _ | d
  · exact h p.utilisateurPhotoFileId
  dsimp only
  by_cases hphoto : (d .photoFileId).isSome = true
  · rw [if_pos hphoto]
    refine ends_bind.mpr ((ends_ofExcept _).mpr ?_)
    rcases (d.get .photoFileId).optStr with e | fileId
    · exact h p.utilisateurPhotoFileId
    · exact (ends_setState _).mpr (h fileId)
  · rw [if_neg hphoto]
    exact h p.utilisateurPhotoFileId

/-- A load that cannot decode the account makes no page and subscribes to nothing. -/
theorem ends_loadUserData : loadUserData.Ends S.handler (fun _ p _ =>
    (CompteLisible b utilisateurId → p.Prete etablissementId utilisateurId) ∧
      (¬CompteLisible b utilisateurId → p.EnAttente)) { etablissementId, utilisateurId } b := by
  have hattente : ¬CompteLisible b utilisateurId →
      (CompteLisible b utilisateurId → Prete etablissementId utilisateurId
        { etablissementId, utilisateurId }) ∧
      (¬CompteLisible b utilisateurId → EnAttente { etablissementId, utilisateurId }) := fun h =>
    ⟨fun h' => absurd h' h, fun _ => ⟨rfl, fun _ => rfl⟩⟩
  refine ends_page_bind.mpr (ends_bind.mpr ?_)
  unfold lireDoc
  by_cases hid : utilisateurId = ""
  · rw [if_pos hid]
    exact hattente fun h => h.1 hid
  rw [if_neg hid]
  refine (ends_lire _ _ _).mpr ?_
  rcases hd : b.doc .utilisateurs utilisateurId with _ | d
  · refine hattente ?_
    rintro ⟨-, d, m, hd', -⟩
    cases hd.symm.trans hd'
  refine ends_bind.mpr ((ends_ofExcept _).mpr ?_)
  rcases hm : UtilisateurModele.fromMap d utilisateurId with e | modele
  · refine hattente ?_
    rintro ⟨-, d', m, hd', hm'⟩
    obtain rfl : d = d' := Option.some.inj (hd.symm.trans hd')
    cases hm.symm.trans hm'
  have hlisible : CompteLisible b utilisateurId := ⟨hid, d, modele, hd, hm⟩
  have hprete : ∀ p : HomeEnseignant, p.Prete etablissementId utilisateurId →
      (CompteLisible b utilisateurId → p.Prete etablissementId utilisateurId) ∧
      (¬CompteLisible b utilisateurId → p.EnAttente) := fun p hp =>
    ⟨fun _ => hp, fun h => absurd hlisible h⟩
  refine ends_setState_bind.mpr (ends_fiche_bind (fun _ => ?_) fun id _ _ _ => ?_)
  · refine ends_bind.mpr ((ends_ret ()).mpr (ends_bind.mpr (ends_chargerPhotoUtilisateur
      fun fileId => ?_)))
    exact hprete _ ⟨⟨modele, rfl⟩, rfl⟩
  · refine ends_setState_bind.mpr (ends_bind.mpr (ends_chargerPhotoUtilisateur fun fileId => ?_))
    exact hprete _ ⟨⟨modele, rfl⟩, rfl⟩

theorem prete_ouvrir (S : Server) (etablissementId : String) (h : CompteLisible b utilisateurId) :
    (ouvrir S b etablissementId utilisateurId).Prete etablissementId utilisateurId :=
  (ends_loadUserData (S := S)).1 h

theorem enAttente_ouvrir (S : Server) (etablissementId : String)
    (h : ¬CompteLisible b utilisateurId) : (ouvrir S b etablissementId utilisateurId).EnAttente :=
  (ends_loadUserData (S := S)).2 h

/-- Without a file of the account the page keeps its photo. -/
theorem ends_chargerPhoto_sansFichier {p : HomeEnseignant}
    {Q : Except Err Unit → HomeEnseignant → Base → Prop}
    (h : ∀ d, b.doc .utilisateurs p.utilisateurId = some d → d .photoFileId = none)
    (hQ : Q (.ok ()) p b) : chargerPhotoUtilisateur.Ends S.handler Q p b := by
  refine ends_catching.mpr (ends_page_bind.mpr (ends_bind.mpr ?_))
  unfold lireDoc
  split_ifs
  · exact hQ
  refine (ends_lire _ _ _).mpr ?_
  rcases hd : b.doc .utilisateurs p.utilisateurId with _ | d
  · exact hQ
  dsimp only
  rw [h d hd]
  exact hQ

theorem photo_ouvrir (S : Server) (etablissementId : String)
    (h : ∀ d, b.doc .utilisateurs utilisateurId = some d → d .photoFileId = none) :
    (ouvrir S b etablissementId utilisateurId).utilisateurPhotoFileId = none := by
  have hload : loadUserData.Ends S.handler (fun _ p _ => p.utilisateurPhotoFileId = none)
      { etablissementId, utilisateurId } b := by
    refine ends_page_bind.mpr (ends_bind.mpr ?_)
    unfold lireDoc
    split_ifs
    · rfl
    refine (ends_lire _ _ _).mpr ?_
    rcases b.doc .utilisateurs utilisateurId with _ | d
    · rfl
    refine ends_bind.mpr ((ends_ofExcept _).mpr ?_)
    rcases UtilisateurModele.fromMap d utilisateurId with e | modele
    · rfl
    refine ends_setState_bind.mpr (ends_fiche_bind (fun _ => ?_) fun id _ _ _ => ?_)
    · refine ends_bind.mpr ((ends_ret ()).mpr (ends_bind.mpr ?_))
      exact ends_chargerPhoto_sansFichier h rfl
    · exact ends_setState_bind.mpr (ends_bind.mpr (ends_chargerPhoto_sansFichier h rfl))
  exact hload

end Chargement

/-! ## The index and the pages -/

/-- The index is that of an entry, and a page lacks for the last one only as long as the pages are
the empty ones. -/
structure Range (p : HomeEnseignant) : Prop where
  index : p.selectedIndex < pageTitles.length
  pages : p.Provisoires ∨ p.pages.length = pageTitles.length

/-- The part of the page a load leaves alone. -/
def navigation (p : HomeEnseignant) : ℕ × List (ℕ × ℕ) := (p.selectedIndex, p.acces)

/-- A load moves the pages from the empty ones to those of the user; it leaves the navigation. -/
structure Chargeur (p : Action EtapeAccueil HomeEnseignant Unit) : Prop where
  navigation : ∀ v, p.Keeps fun x => x.navigation = v
  pages : p.Keeps fun x => x.Provisoires ∨ x.pages.length = pageTitles.length

theorem keeps_rafraichir {Λ σ : Type} {J : σ → Prop} (vue : σ → Ecran) :
    (rafraichir vue : Action Λ σ Unit).Keeps J :=
  .bind keeps_page fun _ => .ite trivial trivial

/-- What a load keeps, one page update after the other. -/
theorem keeps_loadUserData {J : HomeEnseignant → Prop}
    (hmodele : ∀ x m, J x → J { x with utilisateurModele := m })
    (hid : ∀ x id, J x → J { x with enseignantId := id })
    (hphoto : ∀ x f, J x → J { x with utilisateurPhotoFileId := f })
    (hecran : ∀ x e, J x → J { x with ecran := e })
    (hpages : ∀ x l, J x → l.length = pageTitles.length → J { x with pages := l }) :
    loadUserData.Keeps J := by
  have hcharger : chargerPhotoUtilisateur.Keeps J := by
    refine .catching (.bind keeps_page fun p => .bind (.ite trivial (keeps_call _ _)) ?_) ?_
    · rintro (_ | data)
      · trivial
      · refine .ite (.bind (keeps_ofExcept _) fun f => ?_) trivial
        exact (keeps_setState _).mpr fun x hx => hphoto x f hx
    · exact fun e => trivial
  refine .bind keeps_page fun p => .bind (.ite trivial (keeps_call _ _)) ?_
  rintro (_ | data)
  · trivial
  refine .bind (keeps_ofExcept _) fun m => .bind ((keeps_setState _).mpr fun x hx => ?_) fun _ => ?_
  · exact hmodele x _ hx
  refine .bind (keeps_call _ _) fun docs => .bind ?_ fun _ => .bind hcharger fun _ => ?_
  · rcases docs with _ | ⟨doc, docs⟩
    · trivial
    · exact (keeps_setState _).mpr fun x hx => hid x _ hx
  refine .bind ((keeps_setState _).mpr fun x hx => hecran x _ hx) fun _ => ?_
  refine .bind (.bind keeps_page fun p => ?_) fun _ => keeps_rafraichir _
  rcases p.utilisateurModele with _ | m
  · trivial
  · exact (keeps_setState _).mpr fun x hx => hpages x _ hx rfl

theorem chargeur_loadUserData : Chargeur loadUserData where
  navigation v := by
    refine keeps_loadUserData ?_ ?_ ?_ ?_ ?_ <;> intros <;> assumption
  pages := by
    refine keeps_loadUserData ?_ ?_ ?_ ?_ ?_
    · exact fun x m hx => hx
    · exact fun x id hx => hx
    · exact fun x f hx => hx
    · exact fun x e hx => hx
    · exact fun x l _ hl => Or.inr hl

theorem Chargeur.task {ι : Type} {i : ι} {p : Action EtapeAccueil HomeEnseignant Unit}
    (h : Chargeur p) (x : HomeEnseignant) : ∀ t ∈ (p.seg i x).2, ∀ a, Chargeur (t.k a) :=
  fun t ht a => ⟨fun v => ((h.navigation v).seg x).2 t ht a, (h.pages.seg x).2 t ht a⟩

theorem Chargeur.navigation_seg {ι : Type} {i : ι} {p : Action EtapeAccueil HomeEnseignant Unit}
    (h : Chargeur p) (x : HomeEnseignant) : (p.seg i x).1.navigation = x.navigation :=
  ((h.navigation x.navigation).seg x).1 rfl

theorem Chargeur.range {ι : Type} {i : ι} {p : Action EtapeAccueil HomeEnseignant Unit}
    (h : Chargeur p) {x : HomeEnseignant} (hx : x.Range) : (p.seg i x).1.Range := by
  refine ⟨?_, (h.pages.seg x).1 hx.pages⟩
  have hindex := congrArg Prod.fst (h.navigation_seg (i := i) x)
  exact lt_of_eq_of_lt hindex hx.index

theorem Range.build {x : HomeEnseignant} (hx : x.Range) : x.build.Range := by
  unfold HomeEnseignant.build
  rcases x.utilisateurModele with _ | m
  · exact ⟨hx.index, hx.pages⟩
  · exact ⟨hx.index, hx.pages⟩

theorem programme_cases {ev : EvAccueil} {x : HomeEnseignant}
    {p : Action EtapeAccueil HomeEnseignant Unit} (h : x.programme ev = some p) :
    (ev = .rebuild ∧ p = setState build) ∨
      (∃ index, ev = .tap index ∧ index < pageTitles.length ∧
        p = setState fun x => { x with selectedIndex := index }) ∨
      (ev ≠ .rebuild ∧ Chargeur p) := by
  cases ev with
  | initState =>
    obtain ⟨-, h⟩ := Option.ite_none_left_eq_some.mp h
    obtain rfl := Option.some.inj h
    refine Or.inr (Or.inr ⟨nofun, fun v => ?_, ?_⟩)
    · refine .bind ((keeps_setState _).mpr fun x hx => hx) fun _ => ?_
      exact chargeur_loadUserData.navigation v
    · exact .bind ((keeps_setState _).mpr fun x hx => hx) fun _ => chargeur_loadUserData.pages
  | dispose =>
    obtain ⟨-, h⟩ := Option.ite_none_left_eq_some.mp h
    obtain rfl := Option.some.inj h
    exact Or.inr (Or.inr ⟨nofun, fun v => (keeps_setState _).mpr fun x hx => hx,
      (keeps_setState _).mpr fun x hx => hx⟩)
  | rebuild =>
    obtain ⟨-, h⟩ := Option.ite_none_left_eq_some.mp h
    exact Or.inl ⟨rfl, (Option.some.inj h).symm⟩
  | tap index =>
    obtain ⟨hindex, h⟩ := Option.ite_none_right_eq_some.mp h
    have hlt := of_decide_eq_true (Bool.and_eq_true_iff.mp hindex).2
    exact Or.inr (Or.inl ⟨index, rfl, hlt, (Option.some.inj h).symm⟩)

end HomeEnseignant

/-! ## Runs -/

section Runs

variable {ι : Type}

abbrev SystemeAccueil (ι : Type) := Sys ι EtapeAccueil Requete Req.Ans Err HomeEnseignant Base

/-- The home pages of any number of teachers on the server `S`. -/
def accueilsEnseignant (ι : Type) (S : Server) :
    Spec ι EtapeAccueil Requete Req.Ans Err HomeEnseignant Base EvAccueil where
  handler := S.handler
  lost := .unavailable
  on _ ev p := p.programme ev

/-- The pages before they are built. -/
def departAccueil (b : Base) (utilisateurs etablissements : ι → String) : SystemeAccueil ι :=
  Sys.init b fun i => {
    etablissementId := etablissements i
    utilisateurId := utilisateurs i }

/-- Every build that came to `pages[_selectedIndex]` found a page there. -/
def AccesJustes (s : SystemeAccueil ι) : Prop := ∀ i, ∀ a ∈ (s.pages i).acces, a.1 < a.2

/-- A page that shows its navigation is not built with the last entry selected before its pages have
been made. -/
def DernierePageFaite (s : SystemeAccueil ι) (a : Act ι EvAccueil Base) : Prop :=
  ∀ i, a = .event i .rebuild → (s.pages i).utilisateurModele ≠ none →
    (s.pages i).selectedIndex + 1 = pageTitles.length → ¬(s.pages i).Provisoires

/-- What the loads keep. -/
structure Charges (s : SystemeAccueil ι) : Prop where
  suspendus : s.Kind HomeEnseignant.Chargeur
  pages : ∀ i, (s.pages i).Range

variable {S : Server} {s s' : SystemeAccueil ι} {a : Act ι EvAccueil Base}

/-- A build finds its page exactly if the last one is not missing. -/
theorem build_juste_iff {x : HomeEnseignant} (hx : x.Range) (hacces : ∀ a ∈ x.acces, a.1 < a.2) :
    (∀ a ∈ x.build.acces, a.1 < a.2) ↔ (x.utilisateurModele ≠ none →
      x.selectedIndex + 1 = pageTitles.length → ¬x.Provisoires) := by
  unfold HomeEnseignant.build
  rcases hm : x.utilisateurModele with _ | m
  · exact ⟨fun _ h => absurd rfl h, fun _ => hacces⟩
  · show (∀ a ∈ x.acces ++ [(x.selectedIndex, x.pages.length)], a.1 < a.2) ↔ _
    have hlen : pageTitles.length = 6 := rfl
    have hindex := hx.index
    have hnouveau : (∀ a ∈ x.acces ++ [(x.selectedIndex, x.pages.length)], a.1 < a.2) ↔
        x.selectedIndex < x.pages.length := by
      rw [List.forall_mem_append, List.forall_mem_singleton]
      exact and_iff_right hacces
    rw [hnouveau]
    have hprov : x.Provisoires → x.pages.length = 5 := fun h => by rw [h, List.length_replicate]
    constructor
    · intro hlt _ hlast hp
      have hcinq := hprov hp
      omega
    · intro h
      by_cases hp : x.Provisoires
      · have hcinq := hprov hp
        have hlast : ¬x.selectedIndex + 1 = pageTitles.length := fun hl =>
          h (Option.some_ne_none m) hl hp
        omega
      · have hsix := hx.pages.resolve_left hp
        omega

variable [DecidableEq ι]

theorem Charges.step (h : Charges s) (hstep : s.step (accueilsEnseignant ι S) a = some s') :
    Charges s' := by
  refine ⟨h.suspendus.step (S := accueilsEnseignant ι S) (fun i p x hp => hp.task x) ?_ hstep,
    fun i => ?_⟩
  · intro i ev x p hp t ht
    rcases HomeEnseignant.programme_cases hp with ⟨-, rfl⟩ | ⟨_, -, -, rfl⟩ | ⟨-, hp⟩
    · cases ht
    · cases ht
    · exact hp.task x t ht
  · cases h.suspendus.moves hstep with
    | stays _ hpages _ =>
      rw [hpages]
      exact h.pages i
    | runs j p _ hp hpages _ =>
      rw [hpages]
      by_cases hij : i = j
      · subst hij
        rw [Function.update_self]
        rcases hp with ⟨ev, -, hon⟩ | ⟨-, hp⟩
        · rcases HomeEnseignant.programme_cases hon with ⟨-, rfl⟩ | ⟨index, -, hlt, rfl⟩ | ⟨-, hp⟩
          · exact (h.pages i).build
          · exact ⟨hlt, (h.pages i).pages⟩
          · exact hp.range (h.pages i)
        · exact hp.range (h.pages i)
      · rw [Function.update_of_ne hij]
        exact h.pages i

/-- **Step rule**: a step keeps the accesses right exactly if it builds no page that lacks. -/
theorem accesJustes_step (h : Charges s) (hP : AccesJustes s)
    (hstep : s.step (accueilsEnseignant ι S) a = some s') :
    AccesJustes s' ↔ DernierePageFaite s a := by
  cases h.suspendus.moves hstep with
  | stays hruns hpages _ =>
    refine iff_of_true (fun i => hpages ▸ hP i) ?_
    rintro i rfl
    obtain ⟨p, hp⟩ := Sys.runs_of_step_event hstep
    rw [hruns] at hp
    cases hp
  | runs i p _ hp hpages _ =>
    have hpage : AccesJustes s' ↔ ∀ a ∈ (p.seg i (s.pages i)).1.acces, a.1 < a.2 := by
      refine ⟨fun h => ?_, fun h j => ?_⟩
      · have hi := h i
        rwa [hpages, Function.update_self] at hi
      · rw [hpages]
        by_cases hij : j = i
        · subst hij
          rwa [Function.update_self]
        · rw [Function.update_of_ne hij]
          exact hP j
    rw [hpage]
    have hchargeur : HomeEnseignant.Chargeur p → (p.seg i (s.pages i)).1.acces =
        (s.pages i).acces := fun hp => congrArg Prod.snd (hp.navigation_seg (s.pages i))
    rcases hp with ⟨ev, rfl, hon⟩ | ⟨⟨n, rfl⟩, hp⟩
    · rcases HomeEnseignant.programme_cases hon with ⟨rfl, rfl⟩ | ⟨index, rfl, -, rfl⟩ | ⟨hev, hp⟩
      · refine (build_juste_iff (h.pages i) (hP i)).trans ⟨?_, fun h => h i rfl⟩
        intro h j hj
        obtain rfl := (Act.event.inj hj).1
        exact h
      · refine iff_of_true (hP i) ?_
        rintro j hj
        cases hj
      · rw [hchargeur hp]
        exact iff_of_true (hP i) fun j hj => absurd (Act.event.inj hj).2 hev
    · rw [hchargeur hp]
      exact iff_of_true (hP i) nofun

/-- **When the home page of a teacher never indexes outside its pages.** -/
theorem accesJustes_iff (S : Server) (b : Base) (utilisateurs etablissements : ι → String)
    (as : List (Act ι EvAccueil Base)) :
    Always (Sys.step (accueilsEnseignant ι S)) AccesJustes
        (departAccueil b utilisateurs etablissements) as ↔
      AllMeet (Sys.step (accueilsEnseignant ι S)) DernierePageFaite
        (departAccueil b utilisateurs etablissements) as := by
  refine always_iff_allMeet (I := Charges) (fun s a s' h hstep => h.step hstep)
    (fun s a s' h hP hstep => accesJustes_step h hP hstep) ?_ (fun i a ha => (by cases ha)) as
  exact ⟨Sys.Kind.init _ _, fun i => ⟨Nat.succ_pos _, Or.inl rfl⟩⟩

end Runs

/-! ## A tap before the pages are made -/

/-- The account of a teacher. -/
def compteEnseignant : Base :=
  baseVide.putDoc .utilisateurs "u" (newDoc 0 [texte .nom "Nom", texte .prenom "Prénom"])

/-- The account is read, the navigation is built, its last entry is tapped and it is built again. -/
def tapAvantLaFin : List (Act Unit EvAccueil Base) :=
  [.event () .initState, .serve 0, .resume 0, .event () .rebuild, .event () (.tap 5),
    .event () .rebuild]

/-- There is no sixth page yet. -/
theorem not_accesJustes_tapAvantLaFin :
    ¬ Always (Sys.step (accueilsEnseignant Unit (Server.longest 10))) AccesJustes
      (departAccueil compteEnseignant (fun _ => "u") fun _ => "e") tapAvantLaFin := by
  refine not_always_of_final (fun s => (s.pages ()).acces.any fun a => decide (a.2 ≤ a.1))
    (fun s hbad hP => ?_) (by decide +kernel)
  obtain ⟨a, ha, hle⟩ := List.any_eq_true.mp hbad
  exact absurd (of_decide_eq_true hle) (not_le.mpr (hP () a ha))

end EduConnect.Enseignant
