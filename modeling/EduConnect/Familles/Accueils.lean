import EduConnect.Commun.Abonnements

/-!
# The home pages of the families

`HomeParent` and `HomeEleve` load again after each visit of the profile.  The page of a student
cancels its subscriptions before it subscribes again; the page of a parent does not.
-/

namespace EduConnect.Familles

open Lib Prog Commun

inductive EtapeHome where
  | personne | utilisateur
  deriving DecidableEq

/-- What happens to a home page. -/
inductive EvHome where
  /-- `initState`, or a return from the profile. -/
  | charger
  | dispose

/-- The streams of both pages. -/
def fluxFamille : List Flux := [.messages, .notifications, .devoirs, .annonces]

/-! ## The page of a parent -/

/-- The page behind an entry, with what it is given. -/
inductive PageParent where
  /-- `SizedBox()`. -/
  | vide
  | enfants (etablissementId parentId : String)
  | notifications (parentId : String)
  | messagerie (etablissementId utilisateurId parentId : String)
  | devoirs (utilisateurId : String)
  | annonces (utilisateurId etablissementId : String)

/-- `_HomeParentState`. -/
structure HomeParent where
  etablissementId : String
  utilisateurId : String
  parentId : Option String := none
  /-- The file of the photo. -/
  photo : Option String := none
  pages : List PageParent :=
    [.enfants etablissementId utilisateurId, .vide, .vide, .devoirs utilisateurId, .vide]
  ecran : Ecran := {}

namespace HomeParent

/-- The document found for the parent, if any. -/
def noterParent : List (String × Document) → Action EtapeHome HomeParent Unit
  | [] => ret ()
  | doc :: _ => setState fun p => { p with parentId := some doc.1 }

/-- The photo, kept as it was without an id. -/
def garder (fileId : Option String) (p : HomeParent) : HomeParent :=
  match fileId.filter (· ≠ "") with
  | some fileId => { p with photo := some fileId }
  | none => p

/-- The id of a signed-in account is never empty. -/
def lirePhoto : Action EtapeHome HomeParent Unit := do
  let p ← page
  match ← lire .utilisateur .utilisateurs p.utilisateurId with
  | none => return
  | some data =>
    if (data .photo).isSome then
      let fileId ← ofExcept (data.get .photoFileId).optStr
      setState (garder fileId)

/-- The pages that need the parent's id. -/
def poserPages (p : HomeParent) : HomeParent :=
  let parentId := p.parentId.getD ""
  let pages := p.pages.set 1 (.notifications parentId)
  let pages := pages.set 2 (.messagerie p.etablissementId p.utilisateurId parentId)
  { p with pages := pages.set 4 (.annonces parentId p.etablissementId) }

/-- `_listenToRealtimeData`. -/
def listenToRealtimeData : Action EtapeHome HomeParent Unit := do
  let p ← page
  match p.parentId with
  | none => return
  | some _ => setState fun p => { p with ecran := { p.ecran with
      abonnements := p.ecran.abonnements.listenAll fluxFamille } }

/-- `_loadParentData`. -/
def loadParentData : Action EtapeHome HomeParent Unit :=
  catching (do
    let p ← page
    let docs ← chercherPremier .personne .parents [.isEqualTo .utilisateurId (.str p.utilisateurId)]
    noterParent docs
    lirePhoto
    setState poserPages
    rafraichir ecran
    listenToRealtimeData)
    fun _ => ret ()

/-- The id whose stream `f` the page listens to. -/
def ecoute (p : HomeParent) (f : Flux) : Option String :=
  if p.ecran.ecoute f then p.parentId else none

/-- The page once it is loaded on the data `b`. -/
def ouvrir (S : Server) (b : Base) (etablissementId utilisateurId : String) : HomeParent :=
  (loadParentData.exec S.handler { etablissementId, utilisateurId } b).2.1

/-- The program of an event. -/
def programme (ev : EvHome) (p : HomeParent) : Option (Action EtapeHome HomeParent Unit) :=
  match ev with
  | .charger => some loadParentData
  | .dispose =>
    if p.ecran.demonte then none
    else some (setState fun p => { p with ecran := p.ecran.dispose fluxFamille })

end HomeParent

/-! ## The page of a student -/

/-- The page behind an entry, with what it is given. -/
inductive PageEleve where
  /-- `SizedBox()`. -/
  | vide
  | notes (utilisateurId : String)
  | notifications (utilisateurId : String)
  | messagerie (etablissementId utilisateurId eleveId : String)
  | devoirs (eleveId : String)
  | annonces (utilisateurId etablissementId : String)

/-- `_HomeEleveState`. -/
structure HomeEleve where
  etablissementId : String
  utilisateurId : String
  eleveId : Option String := none
  /-- The file of the photo. -/
  photo : Option String := none
  pages : List PageEleve :=
    [.notes utilisateurId, .notifications utilisateurId, .vide, .vide, .vide]
  ecran : Ecran := {}

namespace HomeEleve

/-- The pages that need the student's id. -/
def poserPages (eleveId : String) (p : HomeEleve) : HomeEleve :=
  let pages := p.pages.set 2 (.messagerie p.etablissementId p.utilisateurId eleveId)
  let pages := pages.set 3 (.devoirs eleveId)
  { p with
    eleveId := some eleveId
    pages := pages.set 4 (.annonces p.utilisateurId p.etablissementId) }

/-- The document found for the student, if any. -/
def noterEleve : List (String × Document) → Action EtapeHome HomeEleve Unit
  | [] => ret ()
  | doc :: _ => setState (poserPages doc.1)

/-- The photo, none without an id. -/
def lirePhoto : Action EtapeHome HomeEleve Unit := do
  let p ← page
  match ← lire .utilisateur .utilisateurs p.utilisateurId with
  | none => return
  | some data =>
    let fileId ← ofExcept (data.get .photoFileId).optStr
    setState fun p => { p with photo := fileId.filter (· ≠ "") }

/-- `_listenToRealtimeData`. -/
def listenToRealtimeData : Action EtapeHome HomeEleve Unit := do
  let p ← page
  match p.eleveId with
  | none => return
  | some _ => setState fun p => { p with ecran := { p.ecran with
      abonnements := (p.ecran.abonnements.cancelAll fluxFamille).listenAll fluxFamille } }

/-- `_initEleveData`. -/
def initEleveData : Action EtapeHome HomeEleve Unit :=
  catching (do
    let p ← page
    let docs ← chercherPremier .personne .eleves [.isEqualTo .utilisateurId (.str p.utilisateurId)]
    noterEleve docs
    lirePhoto
    rafraichir ecran
    listenToRealtimeData)
    fun _ => ret ()

/-- The id whose stream `f` the page listens to. -/
def ecoute (p : HomeEleve) (f : Flux) : Option String :=
  if p.ecran.ecoute f then p.eleveId else none

/-- The page once it is loaded on the data `b`. -/
def ouvrir (S : Server) (b : Base) (etablissementId utilisateurId : String) : HomeEleve :=
  (initEleveData.exec S.handler { etablissementId, utilisateurId } b).2.1

/-- The program of an event. -/
def programme (ev : EvHome) (p : HomeEleve) : Option (Action EtapeHome HomeEleve Unit) :=
  match ev with
  | .charger => some initEleveData
  | .dispose =>
    if p.ecran.demonte then none
    else some (setState fun p => { p with ecran := p.ecran.dispose fluxFamille })

end HomeEleve

/-! ## What a load finds -/

/-- The load of a parent's page can read the photo of the account. -/
def HomeParent.PhotoLisible (b : Base) (utilisateurId : String) : Prop :=
  ∀ d, b.doc .utilisateurs utilisateurId = some d → (d .photo).isSome →
    ∃ fileId, (d.get .photoFileId).optStr = .ok fileId

/-- That of a student's page, which does not look at `photo`. -/
def HomeEleve.PhotoLisible (b : Base) (utilisateurId : String) : Prop :=
  ∀ d, b.doc .utilisateurs utilisateurId = some d →
    ∃ fileId, (d.get .photoFileId).optStr = .ok fileId

section Chargements

variable {S : Server} {b : Base} {etablissementId utilisateurId : String}

theorem ecoute_listenAll : ∀ f ∈ fluxFamille,
    ({ abonnements := Subscriptions.listenAll {} fluxFamille } : Ecran).ecoute f = true := by
  decide

namespace HomeParent

/-- The load has made the pages and subscribed for the document of the account. -/
structure Prete (b : Base) (etablissementId utilisateurId : String) (p : HomeParent) : Prop where
  pages : p.pages = [.enfants etablissementId utilisateurId,
    .notifications ((ficheDe b .parents utilisateurId).getD ""),
    .messagerie etablissementId utilisateurId ((ficheDe b .parents utilisateurId).getD ""),
    .devoirs utilisateurId, .annonces ((ficheDe b .parents utilisateurId).getD "") etablissementId]
  ecoute : ∀ f ∈ fluxFamille, p.ecoute f = ficheDe b .parents utilisateurId

/-- It has not. -/
structure EnAttente (etablissementId utilisateurId : String) (p : HomeParent) : Prop where
  pages : p.pages = [.enfants etablissementId utilisateurId, .vide, .vide, .devoirs utilisateurId,
    .vide]
  ecoute : ∀ f, p.ecoute f = none

/-- The page after the photo, which may be kept as it was. -/
theorem ends_lirePhoto {p : HomeParent} {Q : Except Err Unit → HomeParent → Base → Prop}
    (hlue : PhotoLisible b p.utilisateurId → ∀ photo, Q (.ok ()) { p with photo := photo } b)
    (herr : ¬PhotoLisible b p.utilisateurId → ∀ e, Q (.error e) p b) :
    lirePhoto.Ends S.handler Q p b := by
  refine ends_page_bind.mpr (ends_bind.mpr ((ends_lire _ _ _).mpr ?_))
  rcases hd : b.doc .utilisateurs p.utilisateurId with _ | d
  · exact hlue (fun d hd' => nomatch hd.symm.trans hd') p.photo
  have hseul : ∀ d', b.doc .utilisateurs p.utilisateurId = some d' → d = d' := fun d' hd' =>
    Option.some.inj (hd.symm.trans hd')
  dsimp only
  by_cases hphoto : (d .photo).isSome = true
  · rw [if_pos hphoto]
    refine ends_bind.mpr ((ends_ofExcept _).mpr ?_)
    rcases hfile : (d.get .photoFileId).optStr with e | fileId
    · refine herr (fun h => ?_) e
      obtain ⟨fileId, hlu⟩ := h d hd hphoto
      rw [hfile] at hlu
      cases hlu
    · have hlisible : PhotoLisible b p.utilisateurId := fun d' hd' _ => by
        obtain rfl := hseul d' hd'
        exact ⟨fileId, hfile⟩
      refine (ends_setState _).mpr ?_
      unfold garder
      rcases fileId.filter (· ≠ "") with _ | fileId
      · exact hlue hlisible p.photo
      · exact hlue hlisible (some fileId)
  · rw [if_neg hphoto]
    refine hlue (fun d' hd' h => ?_) p.photo
    obtain rfl := hseul d' hd'
    exact absurd h hphoto

/-- A load that cannot read the photo makes no page and subscribes to nothing. -/
theorem ends_loadParentData : loadParentData.Ends S.handler (fun _ p _ =>
    (PhotoLisible b utilisateurId → p.Prete b etablissementId utilisateurId) ∧
      (¬PhotoLisible b utilisateurId → p.EnAttente etablissementId utilisateurId))
    { etablissementId, utilisateurId } b := by
  refine ends_catching.mpr (ends_page_bind.mpr (ends_fiche_bind (fun hid => ?_)
    fun id d docs hid => ?_))
  · refine ends_bind.mpr ((ends_ret ()).mpr (ends_bind.mpr (ends_lirePhoto (fun h photo => ?_)
      fun h e => ?_)))
    · refine ⟨fun _ => ⟨?_, fun _ _ => hid.symm⟩, fun h' => absurd h h'⟩
      rw [hid]
      rfl
    · exact ⟨fun h' => absurd h' h, fun _ => ⟨rfl, fun _ => rfl⟩⟩
  · refine ends_setState_bind.mpr (ends_bind.mpr (ends_lirePhoto (fun h photo => ?_)
      fun h e => ?_))
    · refine ⟨fun _ => ⟨?_, fun f hf => ?_⟩, fun h' => absurd h h'⟩
      · rw [hid]
        rfl
      · rw [hid]
        exact if_pos (ecoute_listenAll f hf)
    · exact ⟨fun h' => absurd h' h, fun _ => ⟨rfl, fun _ => rfl⟩⟩

theorem prete_ouvrir (S : Server) (etablissementId : String) (h : PhotoLisible b utilisateurId) :
    (ouvrir S b etablissementId utilisateurId).Prete b etablissementId utilisateurId :=
  (ends_loadParentData (S := S)).1 h

theorem enAttente_ouvrir (S : Server) (etablissementId : String)
    (h : ¬PhotoLisible b utilisateurId) :
    (ouvrir S b etablissementId utilisateurId).EnAttente etablissementId utilisateurId :=
  (ends_loadParentData (S := S)).2 h

/-- Without a file of the account the page keeps its photo. -/
theorem ends_lirePhoto_sansFichier {p : HomeParent}
    {Q : Except Err Unit → HomeParent → Base → Prop}
    (h : ∀ d, b.doc .utilisateurs p.utilisateurId = some d → d .photoFileId = none)
    (hQ : Q (.ok ()) p b) : lirePhoto.Ends S.handler Q p b := by
  refine ends_page_bind.mpr (ends_bind.mpr ((ends_lire _ _ _).mpr ?_))
  rcases hd : b.doc .utilisateurs p.utilisateurId with _ | d
  · exact hQ
  dsimp only
  split_ifs
  · refine ends_bind.mpr ((ends_ofExcept _).mpr ?_)
    rw [Doc.get, h d hd]
    exact hQ
  · exact hQ

theorem photo_ouvrir (S : Server) (etablissementId : String)
    (h : ∀ d, b.doc .utilisateurs utilisateurId = some d → d .photoFileId = none) :
    (ouvrir S b etablissementId utilisateurId).photo = none := by
  have hload : loadParentData.Ends S.handler (fun _ p _ => p.photo = none)
      { etablissementId, utilisateurId } b := by
    refine ends_catching.mpr (ends_page_bind.mpr (ends_fiche_bind (fun _ => ?_)
      fun id d docs _ => ?_))
    · exact ends_bind.mpr ((ends_ret ()).mpr (ends_bind.mpr (ends_lirePhoto_sansFichier h rfl)))
    · exact ends_setState_bind.mpr (ends_bind.mpr (ends_lirePhoto_sansFichier h rfl))
  exact hload

end HomeParent

namespace HomeEleve

/-- The pages of a student with the document `id`. -/
def pagesDe (etablissementId utilisateurId id : String) : List PageEleve :=
  [.notes utilisateurId, .notifications utilisateurId,
    .messagerie etablissementId utilisateurId id, .devoirs id,
    .annonces utilisateurId etablissementId]

/-- The pages wait for the document of the account, the subscriptions for the photo as well. -/
structure Chargee (b : Base) (etablissementId utilisateurId : String) (p : HomeEleve) : Prop where
  pages : ∀ id, ficheDe b .eleves utilisateurId = some id →
    p.pages = pagesDe etablissementId utilisateurId id
  vides : ficheDe b .eleves utilisateurId = none →
    p.pages = [.notes utilisateurId, .notifications utilisateurId, .vide, .vide, .vide]
  ecoute : PhotoLisible b utilisateurId →
    ∀ f ∈ fluxFamille, p.ecoute f = ficheDe b .eleves utilisateurId
  muette : ¬PhotoLisible b utilisateurId → ∀ f, p.ecoute f = none

theorem ends_lirePhoto {p : HomeEleve} {Q : Except Err Unit → HomeEleve → Base → Prop}
    (hlue : PhotoLisible b p.utilisateurId → ∀ photo, Q (.ok ()) { p with photo := photo } b)
    (herr : ¬PhotoLisible b p.utilisateurId → ∀ e, Q (.error e) p b) :
    lirePhoto.Ends S.handler Q p b := by
  refine ends_page_bind.mpr (ends_bind.mpr ((ends_lire _ _ _).mpr ?_))
  rcases hd : b.doc .utilisateurs p.utilisateurId with _ | d
  · exact hlue (fun d hd' => nomatch hd.symm.trans hd') p.photo
  refine ends_bind.mpr ((ends_ofExcept _).mpr ?_)
  rcases hfile : (d.get .photoFileId).optStr with e | fileId
  · refine herr (fun h => ?_) e
    obtain ⟨fileId, hlu⟩ := h d hd
    rw [hfile] at hlu
    cases hlu
  · refine (ends_setState _).mpr (hlue (fun d' hd' => ?_) _)
    obtain rfl : d = d' := Option.some.inj (hd.symm.trans hd')
    exact ⟨fileId, hfile⟩

theorem ends_initEleveData : initEleveData.Ends S.handler (fun _ p _ =>
    p.Chargee b etablissementId utilisateurId) { etablissementId, utilisateurId } b := by
  refine ends_catching.mpr (ends_page_bind.mpr (ends_fiche_bind (fun hid => ?_)
    fun id d docs hid => ?_))
  · refine ends_bind.mpr ((ends_ret ()).mpr (ends_bind.mpr (ends_lirePhoto (fun h photo => ?_)
      fun h e => ?_)))
    · refine ⟨fun id hid' => ?_, fun _ => rfl, fun _ _ _ => hid.symm, fun h' => absurd h h'⟩
      cases hid.symm.trans hid'
    · refine ⟨fun id hid' => ?_, fun _ => rfl, fun h' => absurd h' h, fun _ _ => rfl⟩
      cases hid.symm.trans hid'
  · refine ends_setState_bind.mpr (ends_bind.mpr (ends_lirePhoto (fun h photo => ?_)
      fun h e => ?_))
    · refine ⟨fun id' hid' => ?_, fun hid' => ?_, fun _ f hf => ?_, fun h' => absurd h h'⟩
      · obtain rfl := Option.some.inj (hid.symm.trans hid')
        rfl
      · cases hid.symm.trans hid'
      · rw [hid]
        exact if_pos (ecoute_listenAll f hf)
    · refine ⟨fun id' hid' => ?_, fun hid' => ?_, fun h' => absurd h' h, fun _ _ => rfl⟩
      · obtain rfl := Option.some.inj (hid.symm.trans hid')
        rfl
      · cases hid.symm.trans hid'

theorem chargee_ouvrir (S : Server) (b : Base) (etablissementId utilisateurId : String) :
    (ouvrir S b etablissementId utilisateurId).Chargee b etablissementId utilisateurId :=
  ends_initEleveData (S := S)

/-- Without a file of the account the page has no photo. -/
theorem ends_lirePhoto_sansFichier {p : HomeEleve} {Q : Except Err Unit → HomeEleve → Base → Prop}
    (h : ∀ d, b.doc .utilisateurs p.utilisateurId = some d → d .photoFileId = none)
    (hp : p.photo = none) (hQ : Q (.ok ()) p b) : lirePhoto.Ends S.handler Q p b := by
  refine ends_page_bind.mpr (ends_bind.mpr ((ends_lire _ _ _).mpr ?_))
  rcases hd : b.doc .utilisateurs p.utilisateurId with _ | d
  · exact hQ
  refine ends_bind.mpr ((ends_ofExcept _).mpr ?_)
  rw [Doc.get, h d hd]
  have hpage : { p with photo := none } = p := by rw [← hp]
  refine (ends_setState _).mpr ?_
  show Q (.ok ()) { p with photo := none } b
  rw [hpage]
  exact hQ

theorem photo_ouvrir (S : Server) (etablissementId : String)
    (h : ∀ d, b.doc .utilisateurs utilisateurId = some d → d .photoFileId = none) :
    (ouvrir S b etablissementId utilisateurId).photo = none := by
  have hload : initEleveData.Ends S.handler (fun _ p _ => p.photo = none)
      { etablissementId, utilisateurId } b := by
    refine ends_catching.mpr (ends_page_bind.mpr (ends_fiche_bind (fun _ => ?_)
      fun id d docs _ => ?_))
    · refine ends_bind.mpr ((ends_ret ()).mpr (ends_bind.mpr ?_))
      exact ends_lirePhoto_sansFichier h rfl rfl
    · exact ends_setState_bind.mpr (ends_bind.mpr (ends_lirePhoto_sansFichier h rfl rfl))
  exact hload

end HomeEleve

end Chargements

/-! ## What the loads do to the subscriptions -/

/-- A load that looks for the document of the account and for the photo, and subscribes at its end. -/
theorem charge_fiche {σ : Type} {vue : σ → Ecran} {A : Ecran → Ecran → Prop} (hA : ∀ e, A e e)
    {c : Collection} {fs : σ → List (Lib.Filter Champ)}
    {noter : List (String × Document) → Action EtapeHome σ Unit} {photo fin : Action EtapeHome σ Unit}
    (hnoter : ∀ docs v, (noter docs).Keeps fun p => vue p = v)
    (hphoto : ∀ v, photo.Keeps fun p => vue p = v)
    (hfin : ∀ s₀ s, vue s = vue s₀ →
      fin.Segs (fun x y => vue y = vue x) (fun _ x y => A (vue x) (vue y)) s₀ s) :
    Charge vue A (catching (do
      let p ← page
      let docs ← chercherPremier .personne c (fs p)
      noter docs
      photo
      fin) fun _ => ret ()) := by
  have herr : ∀ s₀ s : σ, vue s = vue s₀ → A (vue s₀) (vue s) := fun s₀ s h => by
    rw [h]
    exact hA _
  refine Charge.catching fun x => segs_page_bind.mpr ?_
  refine Keeps.segs_bind (fun v => keeps_call _ _) rfl (fun e => herr) fun docs s₀ s h => ?_
  refine Keeps.segs_bind (hnoter docs) h (fun e => herr) fun _ s₀ s h => ?_
  exact Keeps.segs_bind hphoto h (fun e => herr) fun _ s₀ s h => hfin s₀ s h

theorem HomeParent.charge_loadParentData :
    Charge HomeParent.ecran (Ecran.Rafraichi (·.listenAll fluxFamille)) loadParentData := by
  refine charge_fiche (fun e => Or.inl rfl) (fun docs v => ?_) (fun v => ?_) fun s₀ s h => ?_
  · rcases docs with _ | ⟨doc, docs⟩
    · trivial
    · exact (keeps_setState _).mpr fun y hy => hy
  · refine .bind keeps_page fun p => .bind (keeps_call _ _) ?_
    rintro (_ | data)
    · trivial
    refine .ite (.bind (keeps_ofExcept _) fun fileId => ?_) trivial
    refine (keeps_setState _).mpr fun y hy => ?_
    unfold garder
    rcases fileId.filter (· ≠ "") with _ | fileId
    · exact hy
    · exact hy
  refine segs_setState_bind.mpr (segs_rafraichir h fun hd => segs_page_bind.mpr ?_)
  rcases (poserPages s).parentId with _ | parentId
  · exact Or.inl h
  · exact Ecran.rafraichi_abonner (·.listenAll fluxFamille) h hd

theorem HomeEleve.charge_initEleveData : Charge HomeEleve.ecran
    (Ecran.Rafraichi fun a => (a.cancelAll fluxFamille).listenAll fluxFamille) initEleveData := by
  refine charge_fiche (fun e => Or.inl rfl) (fun docs v => ?_) (fun v => ?_) fun s₀ s h => ?_
  · rcases docs with _ | ⟨doc, docs⟩
    · trivial
    · exact (keeps_setState _).mpr fun y hy => hy
  · refine .bind keeps_page fun p => .bind (keeps_call _ _) ?_
    rintro (_ | data)
    · trivial
    exact .bind (keeps_ofExcept _) fun fileId => (keeps_setState _).mpr fun y hy => hy
  refine segs_rafraichir h fun hd => segs_page_bind.mpr ?_
  rcases s.eleveId with _ | eleveId
  · exact Or.inl h
  · exact Ecran.rafraichi_abonner (fun a => (a.cancelAll fluxFamille).listenAll fluxFamille) h hd

/-! ## Runs -/

section Runs

variable {ι : Type}

abbrev SystemeParent (ι : Type) := Sys ι EtapeHome Requete Req.Ans Err HomeParent Base

abbrev SystemeEleve (ι : Type) := Sys ι EtapeHome Requete Req.Ans Err HomeEleve Base

/-- The home pages of any number of parents on the server `S`. -/
def accueilsParent (ι : Type) (S : Server) :
    Spec ι EtapeHome Requete Req.Ans Err HomeParent Base EvHome where
  handler := S.handler
  lost := .unavailable
  on _ ev p := p.programme ev

/-- The home pages of any number of students on the server `S`. -/
def accueilsEleve (ι : Type) (S : Server) :
    Spec ι EtapeHome Requete Req.Ans Err HomeEleve Base EvHome where
  handler := S.handler
  lost := .unavailable
  on _ ev p := p.programme ev

/-- The pages before they are built. -/
def departParent (b : Base) (utilisateurs etablissements : ι → String) : SystemeParent ι :=
  Sys.init b fun i => {
    etablissementId := etablissements i
    utilisateurId := utilisateurs i }

def departEleve (b : Base) (utilisateurs etablissements : ι → String) : SystemeEleve ι :=
  Sys.init b fun i => {
    etablissementId := etablissements i
    utilisateurId := utilisateurs i }

variable {S : Server}

theorem evenements_parent : Evenements (accueilsParent ι S) HomeParent.ecran fluxFamille
    (Ecran.Rafraichi (·.listenAll fluxFamille)) := by
  rintro i (_ | _) x p hp
  · obtain rfl := Option.some.inj hp
    exact Or.inl HomeParent.charge_loadParentData
  · obtain ⟨-, hp⟩ := Option.ite_none_left_eq_some.mp hp
    obtain rfl := Option.some.inj hp
    exact Or.inr ⟨rfl, rfl⟩

theorem evenements_eleve : Evenements (accueilsEleve ι S) HomeEleve.ecran fluxFamille
    (Ecran.Rafraichi fun a => (a.cancelAll fluxFamille).listenAll fluxFamille) := by
  rintro i (_ | _) x p hp
  · obtain rfl := Option.some.inj hp
    exact Or.inl HomeEleve.charge_initEleveData
  · obtain ⟨-, hp⟩ := Option.ite_none_left_eq_some.mp hp
    obtain rfl := Option.some.inj hp
    exact Or.inr ⟨rfl, rfl⟩

theorem nodup_fluxFamille : fluxFamille.Nodup := by decide

variable [DecidableEq ι]

/-- The home page of a student never leaks a subscription. -/
theorem sansFuite_eleve (b : Base) (utilisateurs etablissements : ι → String)
    (as : List (Act ι EvHome Base)) :
    Always (Sys.step (accueilsEleve ι S)) (SansFuite HomeEleve.ecran)
      (departEleve b utilisateurs etablissements) as := by
  refine (sansFuite_iff_of (C := fun _ => True) evenements_eleve (fun t => ?_) ?_
    (fun e _ h => absurd trivial h) b (fun i => Ecran.bien_of_vide rfl) as).mpr ?_
  · rw [Subscriptions.next_listenAll, Subscriptions.next_cancelAll]
    exact Nat.lt_add_of_pos_right (Nat.succ_pos 3)
  · intro e he hd _
    have hvide := Subscriptions.active_cancelAll_of_tracked he.suivis
    have hfrais : ({ e with abonnements := e.abonnements.cancelAll fluxFamille } : Ecran).demonte =
        false := hd
    exact Ecran.bien_listenAll hvide hfrais nodup_fluxFamille (List.Subset.refl _)
  · exact allMeet_of_invariant (I := fun _ => True) (fun _ _ _ _ _ => trivial)
      (fun _ _ _ _ _ => trivial) trivial as

/-- That of a parent leaks none exactly if no load subscribes while there are subscriptions. -/
theorem sansFuite_parent_iff (b : Base) (utilisateurs etablissements : ι → String)
    (as : List (Act ι EvHome Base)) :
    Always (Sys.step (accueilsParent ι S)) (SansFuite HomeParent.ecran)
        (departParent b utilisateurs etablissements) as ↔
      AllMeet (Sys.step (accueilsParent ι S)) (AbonneSi HomeParent.ecran (accueilsParent ι S)
        fun e => e.abonnements.active = []) (departParent b utilisateurs etablissements) as := by
  refine sansFuite_iff_of evenements_parent (fun t => ?_) ?_ ?_ b
    (fun i => Ecran.bien_of_vide rfl) as
  · rw [Subscriptions.next_listenAll]
    exact Nat.lt_add_of_pos_right (Nat.succ_pos 3)
  · intro e _ hd hvide
    exact Ecran.bien_listenAll hvide hd nodup_fluxFamille (List.Subset.refl _)
  · intro e he hactive
    obtain ⟨a, ha⟩ := List.exists_mem_of_ne_nil _ hactive
    exact Subscriptions.not_atMostOne_listenAll (List.mem_map_of_mem ha) (he.suivis a ha).1

end Runs

end EduConnect.Familles
