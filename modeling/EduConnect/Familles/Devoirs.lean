import EduConnect.Modeles
import EduConnect.Lib.Sched
import EduConnect.Lib.Lots

/-!
# Homework read by students and parents

`DevoirElevePage` and `ListeDevoirsParentPage` list the homework of one reader, and a tap on an
entry writes back its list `lu`, as the page last received it, with the reader added.  Any number of
these pages run against one server: a mark survives as long as the lists written after it contain
it.
-/

namespace EduConnect.Familles

open Lib Prog

/-! ## The two pages -/

inductive RoleLecteur where
  | eleve | parent
  deriving DecidableEq

/-- The field of a homework that names its readers of this role. -/
def RoleLecteur.destinataires : RoleLecteur → Champ
  | eleve => .eleveIds
  | parent => .parentIds

/-- A page of homework: its reader, what the stream last brought, and the entries whose detail page
was opened. -/
structure ListeDevoirs where
  role : RoleLecteur
  lecteurId : String
  docs : List (String × Document) := []
  details : List String := []

def DevoirElevePage (eleveId : String) : ListeDevoirs := { role := .eleve, lecteurId := eleveId }

def ListeDevoirsParentPage (utilisateurId : String) : ListeDevoirs :=
  { role := .parent, lecteurId := utilisateurId }

/-- What an entry is built from. -/
structure EntreeDevoir where
  id : String
  titre : String
  description : String
  classeId : String
  matiereId : String
  lus : List String
  dateRemise : Option ℤ

/-- `v as Timestamp?`. -/
def horodatageOption : Valeur → Except Err (Option ℤ)
  | .null => .ok none
  | v => v.asStamp.map some

/-- The parent's page looks for the names of its children among them. -/
def elevesDuDevoir : RoleLecteur → Document → Except Err (List String)
  | .eleve, _ => .ok []
  | .parent, data => (data.get .eleveIds).orStrs

/-- The `itemBuilder`. -/
def EntreeDevoir.deDocument (role : RoleLecteur) (doc : String × Document) :
    Except Err EntreeDevoir := do
  let _ ← elevesDuDevoir role doc.2
  return {
    id := doc.1
    titre := ← (doc.2.get .titre).orStr "Sans titre"
    description := ← (doc.2.get .description).orStr ""
    classeId := ← (doc.2.get .classeId).orStr ""
    matiereId := ← (doc.2.get .matiereId).orStr ""
    lus := ← (doc.2.get .lu).orStrs
    dateRemise := ← horodatageOption (doc.2.get .dateRemise) }

namespace ListeDevoirs

inductive Attente where
  | snapshots
  /-- The update of `_marquerCommeLu`, called with the readers the page has. -/
  | marquerCommeLu (devoirDocId : String) (lus : List String)

inductive Evenement where
  /-- The stream is about to emit. -/
  | snapshots
  /-- A tap on the entry of a homework. -/
  | onTap (devoirDocId : String)

/-- `_devoirsStream`. -/
def requete (p : ListeDevoirs) : Query Champ :=
  ⟨[.arrayContains p.role.destinataires p.lecteurId], some (.dateCreation, true), none⟩

def recevoir : Action Attente ListeDevoirs Unit := do
  let p ← page
  let docs ← Prog.call .snapshots (Req.query .devoirs p.requete)
  setState fun p => { p with docs := docs }

/-- `_marquerCommeLu`. -/
def marquerCommeLu (devoirDocId : String) (lus : Option (List String)) :
    Action Attente ListeDevoirs Unit := do
  let p ← page
  if p.lecteurId ∈ lus.getD [] then return
  ecrire (.marquerCommeLu devoirDocId (lus.getD []))
    (.update .devoirs devoirDocId [textes .lu (lus.getD [] ++ [p.lecteurId])])

def onTap (e : EntreeDevoir) : Action Attente ListeDevoirs Unit := do
  marquerCommeLu e.id (some e.lus)
  setState fun p => { p with details := p.details ++ [e.id] }

/-- The entry of a homework, if the page shows it. -/
def entree (p : ListeDevoirs) (devoirDocId : String) : Option EntreeDevoir :=
  (p.docs.find? fun doc => doc.1 = devoirDocId).bind fun doc =>
    (EntreeDevoir.deDocument p.role doc).toOption

/-- Whether an entry is shown as read. -/
def estLu (p : ListeDevoirs) (e : EntreeDevoir) : Bool := p.lecteurId ∈ e.lus

def on (p : ListeDevoirs) : Evenement → Option (Action Attente ListeDevoirs Unit)
  | .snapshots => some recevoir
  | .onTap devoirDocId => (p.entree devoirDocId).map onTap

end ListeDevoirs

/-- An entry has the id of its document and its readers. -/
theorem EntreeDevoir.deDocument_ok {role : RoleLecteur} {doc : String × Document}
    {e : EntreeDevoir} (h : EntreeDevoir.deDocument role doc = .ok e) :
    e.id = doc.1 ∧ strsOf (doc.2 .lu) = e.lus := by
  unfold EntreeDevoir.deDocument at h
  obtain ⟨_, -, h⟩ := bind_eq_ok_iff.mp h
  obtain ⟨titre, -, h⟩ := bind_eq_ok_iff.mp h
  obtain ⟨description, -, h⟩ := bind_eq_ok_iff.mp h
  obtain ⟨classeId, -, h⟩ := bind_eq_ok_iff.mp h
  obtain ⟨matiereId, -, h⟩ := bind_eq_ok_iff.mp h
  obtain ⟨lus, hlus, h⟩ := bind_eq_ok_iff.mp h
  obtain ⟨dateRemise, -, h⟩ := bind_eq_ok_iff.mp h
  obtain rfl := Except.ok.inj h
  exact ⟨rfl, strsOf_of_orStrs hlus⟩

/-- An entry shown is decoded from a document of the last snapshot. -/
theorem ListeDevoirs.entree_eq_some {p : ListeDevoirs} {devoirDocId : String} {e : EntreeDevoir}
    (h : p.entree devoirDocId = some e) :
    ∃ doc ∈ p.docs, doc.1 = e.id ∧ strsOf (doc.2 .lu) = e.lus := by
  obtain ⟨doc, hdoc, he⟩ := Option.bind_eq_some_iff.mp h
  have hok : EntreeDevoir.deDocument p.role doc = .ok e := by
    cases hd : EntreeDevoir.deDocument p.role doc with
    | error e' => rw [hd] at he; cases he
    | ok e' =>
      rw [hd] at he
      obtain rfl := Option.some.inj he
      rfl
  obtain ⟨hid, hlus⟩ := EntreeDevoir.deDocument_ok hok
  exact ⟨doc, List.mem_of_find?_eq_some hdoc, hid.symm, hlus⟩

/-! ## The pages in parallel -/

section Systeme

variable {ι : Type}

abbrev SystemeDevoirs (ι : Type) :=
  Sys ι ListeDevoirs.Attente Requete Req.Ans Err ListeDevoirs Base

abbrev EchangeDevoirs (ι : Type) := Exchange ι ListeDevoirs.Attente Requete Req.Ans Err

/-- The homework pages on the server `S`. -/
def lectures (ι : Type) (S : Server) :
    Spec ι ListeDevoirs.Attente Requete Req.Ans Err ListeDevoirs Base ListeDevoirs.Evenement where
  handler := S.handler
  lost := .unavailable
  on _ ev p := p.on ev

/-- A step of the homework pages; nobody else writes. -/
def pasDevoirs [DecidableEq ι] (S : Server) (s : SystemeDevoirs ι)
    (a : Act ι ListeDevoirs.Evenement Base) : Option (SystemeDevoirs ι) :=
  s.closedStep (lectures ι S) a

/-- The pages are opened on the data `b`. -/
def ouvertureDevoirs (b : Base) (pages : ι → ListeDevoirs) : SystemeDevoirs ι :=
  Sys.init b fun i => { role := (pages i).role, lecteurId := (pages i).lecteurId }

/-- The list of readers a homework stores. -/
def lusStockes (b : Base) (devoirId : String) : Option Valeur :=
  (b.doc .devoirs devoirId).bind fun doc => doc .lu

variable (b₀ : Base) (pages : ι → ListeDevoirs)

/-- The reader an exchange has marked on a homework. -/
def marque (devoirId : String) (x : EchangeDevoirs ι) : Option String :=
  match x.lab, x.ans with
  | .marquerCommeLu id _, .ok _ => if id = devoirId then some (pages x.who).lecteurId else none
  | _, _ => none

/-- The readers whose marks the server has applied, in order. -/
def marques (w : List (EchangeDevoirs ι)) (devoirId : String) : List String :=
  w.filterMap (marque pages devoirId)

/-- What the homework would store if each mark had been an `arrayUnion`. -/
def lusAtomiques (w : List (EchangeDevoirs ι)) (devoirId : String) : Option Valeur :=
  arrayUnions b₀.clock (lusStockes b₀ devoirId) (marques pages w devoirId)

/-- No mark is lost: each homework stores the readers that `arrayUnion` would have stored, and so
everyone who opened it. -/
structure SansPerte (s : SystemeDevoirs ι) : Prop where
  lus : ∀ id doc, s.base.doc .devoirs id = some doc → ∀ u,
    u ∈ strsOf (doc .lu) ↔ u ∈ strsOf (lusAtomiques b₀ pages s.log id)
  ouverts : ∀ i, ∀ id ∈ (s.pages i).details, ∀ doc, s.base.doc .devoirs id = some doc →
    (pages i).lecteurId ∈ strsOf (doc .lu)

/-- When the server applies a mark, every reader stored is the one who made it or was in the list
that his page had when he tapped. -/
def EcritAJour (s : SystemeDevoirs ι) : Act ι ListeDevoirs.Evenement Base → Prop
  | .serve n => ∀ t, s.tasks[n]? = some t → ∀ id lus, t.lab = .marquerCommeLu id lus →
      ∀ u ∈ strsOf (lusStockes s.base id), u ∈ lus ∨ u = (s.pages t.who).lecteurId
  | _ => True

/-! ### What the pages know -/

/-- `u` was a reader of the homework, or has been marked. -/
def Attendu (w : List (EchangeDevoirs ι)) (devoirId u : String) : Prop :=
  u ∈ strsOf (lusAtomiques b₀ pages w devoirId)

/-- The documents show nothing but marks that were made. -/
def LusFideles (w : List (EchangeDevoirs ι)) (docs : List (String × Document)) : Prop :=
  ∀ doc ∈ docs, ∀ u ∈ strsOf (doc.2 .lu), Attendu b₀ pages w doc.1 u

/-- The page keeps its reader and holds nothing but marks that were made. -/
structure PageFidele (w : List (EchangeDevoirs ι)) (i : ι) (p : ListeDevoirs) : Prop where
  lecteur : p.lecteurId = (pages i).lecteurId
  docs : LusFideles b₀ pages w p.docs
  details : ∀ id ∈ p.details, Attendu b₀ pages w id (pages i).lecteurId

/-- A page asks for its homework, or writes marks that were made and its own. -/
def Demande (w : List (EchangeDevoirs ι)) (i : ι) (l : ListeDevoirs.Attente) (r : Requete) : Prop :=
  match l with
  | .snapshots => ∃ q, r = .query .devoirs q
  | .marquerCommeLu id lus => (∀ u ∈ lus, Attendu b₀ pages w id u) ∧
      r = .write (.update .devoirs id [textes .lu (lus ++ [(pages i).lecteurId])])

def EmissionFidele (w : List (EchangeDevoirs ι)) : EchangeDevoirs ι → Prop
  | ⟨_, .snapshots, .query _ _, .ok docs⟩ => LusFideles b₀ pages w docs
  | _ => True

variable {b₀ pages} {w w' : List (EchangeDevoirs ι)}

theorem attendu_iff {id u : String} : Attendu b₀ pages w id u ↔
    u ∈ strsOf (lusStockes b₀ id) ∨ u ∈ marques pages w id :=
  mem_strsOf_arrayUnions

theorem marques_append {x : EchangeDevoirs ι} {id : String} :
    marques pages (w ++ [x]) id = marques pages w id ++ (marque pages id x).toList := by
  unfold marques
  rw [List.filterMap_append]
  cases hx : marque pages id x <;> simp [hx]

/-- One more exchange adds the reader it has marked. -/
theorem attendu_append {x : EchangeDevoirs ι} {id u : String} :
    Attendu b₀ pages (w ++ [x]) id u ↔ Attendu b₀ pages w id u ∨ marque pages id x = some u := by
  rw [attendu_iff, attendu_iff, marques_append, List.mem_append, Option.mem_toList, or_assoc]

theorem Attendu.mono {id u : String} (hw : w <+: w') (h : Attendu b₀ pages w id u) :
    Attendu b₀ pages w' id u := by
  rw [attendu_iff] at h ⊢
  exact h.imp_right fun hu => (hw.filterMap (marque pages id)).subset hu

/-- Whoever made an applied mark is expected among the readers. -/
theorem attendu_of_mem {i : ι} {id : String} {lus : List String} {r : Requete} {a : Req.Ans r}
    (h : (⟨i, .marquerCommeLu id lus, r, .ok a⟩ : EchangeDevoirs ι) ∈ w) :
    Attendu b₀ pages w id (pages i).lecteurId := by
  refine attendu_iff.mpr (Or.inr (List.mem_filterMap.mpr ⟨_, h, ?_⟩))
  simp [marque]

theorem PageFidele.mono (w w' : List (EchangeDevoirs ι)) (i : ι) (p : ListeDevoirs) (hw : w <+: w')
    (h : PageFidele b₀ pages w i p) : PageFidele b₀ pages w' i p :=
  ⟨h.lecteur, fun doc hdoc u hu => (h.docs doc hdoc u hu).mono hw,
    fun id hid => (h.details id hid).mono hw⟩

theorem Demande.mono (w w' : List (EchangeDevoirs ι)) (i : ι) (l : ListeDevoirs.Attente)
    (r : Requete) (hw : w <+: w') (h : Demande b₀ pages w i l r) : Demande b₀ pages w' i l r := by
  cases l with
  | snapshots => exact h
  | marquerCommeLu id lus => exact ⟨fun u hu => (h.1 u hu).mono hw, h.2⟩

theorem EmissionFidele.mono {x : EchangeDevoirs ι} (hw : w <+: w')
    (h : EmissionFidele b₀ pages w x) : EmissionFidele b₀ pages w' x := by
  unfold EmissionFidele at h ⊢
  split
  · exact fun doc hdoc u hu => (h doc hdoc u hu).mono hw
  · trivial

/-! ### Each action of a page -/

variable {i : ι} {p : ListeDevoirs}

abbrev RegleDevoirs (b₀ : Base) (pages : ι → ListeDevoirs) {α : Type} (i : ι)
    (Q : Except Err α → List (EchangeDevoirs ι) → ListeDevoirs → Prop)
    (a : Action ListeDevoirs.Attente ListeDevoirs α) (w : List (EchangeDevoirs ι))
    (p : ListeDevoirs) : Prop :=
  a.Ok (PageFidele b₀ pages) (Demande b₀ pages) (fun w x _ => EmissionFidele b₀ pages w x) i Q w p

theorem regle_snapshots (h : PageFidele b₀ pages w i p) :
    RegleDevoirs b₀ pages i (fun _ v x => PageFidele b₀ pages v i x) ListeDevoirs.recevoir w p := by
  refine ok_page.mpr (ok_call_bind.mpr ⟨h, ⟨_, rfl⟩, ?_⟩)
  rintro (e | docs) w' p' - - hI hdocs
  · exact hI
  · exact ok_setState_ret.mpr ⟨hI.lecteur, hdocs, hI.details⟩

/-- Once `_marquerCommeLu` has completed, the reader is expected among those of the homework. -/
theorem regle_marquerCommeLu {id : String} {lus : List String}
    (hlus : ∀ u ∈ lus, Attendu b₀ pages w id u) (h : PageFidele b₀ pages w i p) :
    RegleDevoirs b₀ pages i (fun a v x => PageFidele b₀ pages v i x ∧
      (a = .ok () → Attendu b₀ pages v id (pages i).lecteurId))
      (ListeDevoirs.marquerCommeLu id (some lus)) w p := by
  refine ok_page.mpr ?_
  by_cases hlu : p.lecteurId ∈ (some lus).getD []
  · rw [if_pos hlu]
    exact ok_ret.mpr ⟨h, fun _ => h.lecteur ▸ hlus _ hlu⟩
  · rw [if_neg hlu]
    have hdemande : Demande b₀ pages w i (.marquerCommeLu id lus)
        (.write (.update .devoirs id [textes .lu (lus ++ [p.lecteurId])])) :=
      ⟨hlus, by rw [h.lecteur]⟩
    refine ok_call.mpr ⟨h, hdemande, fun a w' p' _ hmem hI _ => ⟨hI, ?_⟩⟩
    rintro rfl
    exact attendu_of_mem hmem

theorem regle_onTap {id : String} {e : EntreeDevoir} (he : p.entree id = some e)
    (h : PageFidele b₀ pages w i p) :
    RegleDevoirs b₀ pages i (fun _ v x => PageFidele b₀ pages v i x) (ListeDevoirs.onTap e) w p := by
  obtain ⟨doc, hdoc, hid, hlu⟩ := ListeDevoirs.entree_eq_some he
  have hlus : ∀ u ∈ e.lus, Attendu b₀ pages w e.id u := by
    rw [← hlu, ← hid]
    exact h.docs doc hdoc
  refine ok_bind.mpr ((regle_marquerCommeLu hlus h).mono fun a v x hx => ?_)
  obtain ⟨hpage, hmarque⟩ := hx
  cases a with
  | error e' => exact hpage
  | ok u =>
    refine ok_setState_ret.mpr ⟨hpage.lecteur, hpage.docs, fun id hid => ?_⟩
    rcases List.mem_append.mp hid with hid | hid
    · exact hpage.details id hid
    · obtain rfl := List.mem_singleton.mp hid
      exact hmarque rfl

/-- Every action of a page follows the rule. -/
theorem regle_devoirs {ev : ListeDevoirs.Evenement}
    {a : Action ListeDevoirs.Attente ListeDevoirs Unit} (ha : p.on ev = some a)
    (h : PageFidele b₀ pages w i p) :
    RegleDevoirs b₀ pages i (fun _ v x => PageFidele b₀ pages v i x) a w p := by
  cases ev with
  | snapshots =>
    obtain rfl := Option.some.inj ha
    exact regle_snapshots h
  | onTap id =>
    obtain ⟨e, he, rfl⟩ := Option.map_eq_some_iff.mp ha
    exact regle_onTap he h

/-! ### The invariant -/

section

variable (b₀ pages)

/-- What every reachable state satisfies. -/
structure InvariantDevoirs (s : SystemeDevoirs ι) : Prop where
  regle : s.Ok (PageFidele b₀ pages) (Demande b₀ pages) fun w x _ => EmissionFidele b₀ pages w x
  emissions : ∀ x ∈ s.log, EmissionFidele b₀ pages s.log x
  bornes : ∀ id, ∀ u ∈ strsOf (lusStockes s.base id), Attendu b₀ pages s.log id u

end

/-- A request that fails marks nobody and brings nothing. -/
theorem marque_error {i : ι} {l : ListeDevoirs.Attente} {r : Requete} {e : Err} {id : String} :
    marque pages id (⟨i, l, r, .error e⟩ : EchangeDevoirs ι) = none := by
  cases l <;> rfl

theorem emission_error {i : ι} {l : ListeDevoirs.Attente} {r : Requete} {e : Err} :
    EmissionFidele b₀ pages w (⟨i, l, r, .error e⟩ : EchangeDevoirs ι) := by
  cases l <;> cases r <;> trivial

theorem attendu_append_of_none {x : EchangeDevoirs ι} (hx : ∀ id, marque pages id x = none)
    {id u : String} : Attendu b₀ pages (w ++ [x]) id u ↔ Attendu b₀ pages w id u := by
  rw [attendu_append, hx]
  simp

/-- The readers stored after a list of them is written. -/
theorem lusStockes_ecrit {b : Base} {id : String} (doc : Document) (lus : List String)
    (id' : String) :
    lusStockes (b.putDoc .devoirs id (writeFields b.clock doc [textes .lu lus])) id' =
      if id' = id then some (.strs lus) else lusStockes b id' := by
  unfold lusStockes
  rw [Data.doc_putDoc]
  by_cases hid : id' = id
  · rw [if_pos hid, if_pos ⟨rfl, hid⟩]
    simp [textes, FieldOp.eval]
  · rw [if_neg hid, if_neg fun h => hid h.2]

section

variable (b₀ pages)

/-- A step leaves the homework and the marks as they are, or serves a mark. -/
inductive PasDevoirs (s s' : SystemeDevoirs ι) : Act ι ListeDevoirs.Evenement Base → Prop where
  | calme {a : Act ι ListeDevoirs.Evenement Base} (hb : s'.base = s.base)
    (hlog : ∀ id u, Attendu b₀ pages s'.log id u ↔ Attendu b₀ pages s.log id u)
    (hajour : EcritAJour s a) : PasDevoirs s s' a
  | ecrit {n : ℕ} {t : Task ι ListeDevoirs.Attente Requete Req.Ans Err ListeDevoirs}
    {id u : String} {lus : List String} {doc : Document} (ht : s.tasks[n]? = some t)
    (hl : t.lab = .marquerCommeLu id lus) (hu : (s.pages t.who).lecteurId = u)
    (hlus : ∀ v ∈ lus, Attendu b₀ pages s.log id v) (hdoc : s.base.doc .devoirs id = some doc)
    (hb : s'.base = s.base.putDoc .devoirs id
      (writeFields s.base.clock doc [textes .lu (lus ++ [u])]))
    (hlog : ∀ id' v, Attendu b₀ pages s'.log id' v ↔
      Attendu b₀ pages s.log id' v ∨ id' = id ∧ v = u) : PasDevoirs s s' (.serve n)

end

/-- Serving a request. -/
theorem pasDevoirs_serve {S : Server} {s : SystemeDevoirs ι} (h : InvariantDevoirs b₀ pages s)
    {n : ℕ} {t : Task ι ListeDevoirs.Attente Requete Req.Ans Err ListeDevoirs}
    (ht : s.tasks[n]? = some t) :
    PasDevoirs b₀ pages s
      { s.answer n t (S.handler t.req s.base).1 with base := (S.handler t.req s.base).2 }
      (.serve n) := by
  obtain ⟨who, lab, req, k, ans⟩ := t
  have hdemande : Demande b₀ pages s.log who lab req :=
    (h.regle.task _ (List.mem_of_getElem? ht)).issued
  cases lab with
  | snapshots =>
    obtain ⟨q, rfl⟩ := hdemande
    refine .calme (handler_lecture trivial) (fun id u => attendu_append_of_none fun id => rfl) ?_
    rintro t' ht' id lus hl
    obtain rfl := Option.some.inj (ht.symm.trans ht')
    cases hl
  | marquerCommeLu id lus =>
    obtain ⟨hlus, rfl⟩ := hdemande
    cases hdoc : s.base.doc .devoirs id with
    | none =>
      have hw : (Write.update .devoirs id [textes .lu (lus ++ [(pages who).lecteurId])] :
          Ecriture).apply s.base = none := by simp [Write.apply, hdoc]
      rw [handler_write_of_none hw]
      refine .calme rfl (fun id' u => attendu_append_of_none fun id => marque_error) ?_
      rintro t' ht' id' lus' hl u hu
      obtain rfl := Option.some.inj (ht.symm.trans ht')
      cases hl
      simp [lusStockes, hdoc] at hu
    | some doc =>
      have hw : (Write.update .devoirs id [textes .lu (lus ++ [(pages who).lecteurId])] :
          Ecriture).apply s.base = some (s.base.putDoc .devoirs id (writeFields s.base.clock doc
            [textes .lu (lus ++ [(pages who).lecteurId])])) := by simp [Write.apply, hdoc]
      rw [handler_write_of_some hw]
      refine .ecrit ht rfl (h.regle.page who).lecteur hlus hdoc rfl fun id' v => ?_
      show Attendu b₀ pages (s.log ++ [_]) id' v ↔ _
      rw [attendu_append]
      refine or_congr_right ?_
      simp [marque, eq_comm]

/-- What a step does to the homework. -/
theorem InvariantDevoirs.pas [DecidableEq ι] {S : Server} {s s' : SystemeDevoirs ι}
    {a : Act ι ListeDevoirs.Evenement Base} (h : InvariantDevoirs b₀ pages s)
    (hs : pasDevoirs S s a = some s') : PasDevoirs b₀ pages s s' a := by
  cases Sys.step_cases (Sys.step_of_closedStep hs) with
  | event hp => exact .calme rfl (fun _ _ => Iff.rfl) trivial
  | serve ht hans => exact pasDevoirs_serve h ht
  | lose ht hans =>
    exact .calme rfl (fun id u => attendu_append_of_none fun id => marque_error) trivial
  | resume ht hans => exact .calme rfl (fun _ _ => Iff.rfl) trivial
  | other b => cases hs

/-- An emission brings documents of the store, which show nothing but marks that were made. -/
theorem emission_serve {S : Server} {s : SystemeDevoirs ι} (h : InvariantDevoirs b₀ pages s)
    {t : Task ι ListeDevoirs.Attente Requete Req.Ans Err ListeDevoirs} (ht : t ∈ s.tasks) :
    EmissionFidele b₀ pages s.log ⟨t.who, t.lab, t.req, (S.handler t.req s.base).1⟩ := by
  obtain ⟨who, lab, req, k, ans⟩ := t
  have hdemande : Demande b₀ pages s.log who lab req := (h.regle.task _ ht).issued
  cases lab with
  | marquerCommeLu id lus => trivial
  | snapshots =>
    obtain ⟨q, rfl⟩ := hdemande
    cases hq : q.filters.any (Filter.refused S.maxIn) with
    | true =>
      have hans : (S.handler (.query .devoirs q : Requete) s.base).1 =
          .error .invalidArgument := by simp only [Server.handler, hq, if_true]
      show EmissionFidele _ _ _ ⟨who, .snapshots, .query .devoirs q, _⟩
      rw [hans]
      trivial
    | false =>
      have hans : (S.handler (.query .devoirs q : Requete) s.base).1 =
          .ok (q.run (s.base.docs .devoirs)) := by
        simp only [Server.handler, hq]
        rfl
      show EmissionFidele _ _ _ ⟨who, .snapshots, .query .devoirs q, _⟩
      rw [hans]
      rintro ⟨id, doc⟩ hdoc u hu
      refine h.bornes id u ?_
      have hstocke : s.base.doc .devoirs id = some doc := (Query.of_mem_run hdoc).1
      rwa [lusStockes, hstocke, Option.bind_some]

/-- **Step lemma.** -/
theorem InvariantDevoirs.step [DecidableEq ι] {S : Server} {s s' : SystemeDevoirs ι}
    {a : Act ι ListeDevoirs.Evenement Base} (h : InvariantDevoirs b₀ pages s)
    (hs : pasDevoirs S s a = some s') : InvariantDevoirs b₀ pages s' := by
  have hstep := Sys.step_of_closedStep hs
  have hregle : s'.Ok (PageFidele b₀ pages) (Demande b₀ pages)
      fun w x _ => EmissionFidele b₀ pages w x := by
    refine h.regle.step (lectures ι S) PageFidele.mono Demande.mono
      (fun w i ev p q hq hI => regle_devoirs hq hI) ?_ hstep
    cases a with
    | resume n =>
      intro t ht a ha
      exact h.emissions _ ((h.regle.task t (List.mem_of_getElem? ht)).logged a ha)
    | _ => trivial
  have hemissions : ∀ x ∈ s'.log, EmissionFidele b₀ pages s'.log x := by
    have hrepondu : ∀ x : EchangeDevoirs ι, EmissionFidele b₀ pages s.log x →
        ∀ y ∈ s.log ++ [x], EmissionFidele b₀ pages (s.log ++ [x]) y := by
      intro x hx y hy
      rcases List.mem_append.mp hy with hy | hy
      · exact (h.emissions y hy).mono (List.prefix_append _ _)
      · obtain rfl := List.mem_singleton.mp hy
        exact hx.mono (List.prefix_append _ _)
    cases Sys.step_cases hstep with
    | event hp => exact h.emissions
    | serve ht hans => exact hrepondu _ (emission_serve h (List.mem_of_getElem? ht))
    | lose ht hans => exact hrepondu _ emission_error
    | resume ht hans => exact h.emissions
    | other b => exact h.emissions
  refine ⟨hregle, hemissions, fun id u hu => ?_⟩
  cases h.pas hs with
  | calme hb hlog hajour =>
    rw [hb] at hu
    exact (hlog id u).mpr (h.bornes id u hu)
  | @ecrit n t id₁ u₁ lus doc ht hl hlecteur hlus hdoc hb hlog =>
    rw [hb, lusStockes_ecrit] at hu
    rw [hlog]
    by_cases hid : id = id₁
    · subst hid
      rw [if_pos rfl, strsOf_strs] at hu
      rcases List.mem_append.mp hu with hu | hu
      · exact Or.inl (hlus u hu)
      · exact Or.inr ⟨rfl, List.mem_singleton.mp hu⟩
    · rw [if_neg hid] at hu
      exact Or.inl (h.bornes id u hu)

theorem InvariantDevoirs.init : InvariantDevoirs b₀ pages (ouvertureDevoirs b₀ pages) where
  regle := Sys.Ok.init (fun i => ⟨rfl, by simp [LusFideles], by simp⟩) b₀
  emissions := by simp [ouvertureDevoirs, Sys.init]
  bornes id u hu := attendu_iff.mpr (Or.inl hu)

/-! ### Marks that survive -/

/-- Under the invariant, no mark is lost when every expected reader is stored. -/
theorem sansPerte_iff {s : SystemeDevoirs ι} (h : InvariantDevoirs b₀ pages s) :
    SansPerte b₀ pages s ↔ ∀ id doc, s.base.doc .devoirs id = some doc →
      ∀ u, Attendu b₀ pages s.log id u → u ∈ strsOf (doc .lu) := by
  constructor
  · exact fun hs id doc hdoc u hu => (hs.lus id doc hdoc u).mpr hu
  · intro hs
    refine ⟨fun id doc hdoc u => ⟨fun hu => h.bornes id u ?_, hs id doc hdoc u⟩, ?_⟩
    · rwa [lusStockes, hdoc, Option.bind_some]
    · intro i id hid doc hdoc
      exact hs id doc hdoc _ ((h.regle.page i).details id hid)

/-- One step keeps all marks exactly if the list its page had is up to date. -/
theorem sansPerte_step [DecidableEq ι] {S : Server} {s s' : SystemeDevoirs ι}
    {a : Act ι ListeDevoirs.Evenement Base} (h : InvariantDevoirs b₀ pages s)
    (hp : SansPerte b₀ pages s) (hs : pasDevoirs S s a = some s') :
    SansPerte b₀ pages s' ↔ EcritAJour s a := by
  rw [sansPerte_iff (h.step hs)]
  have hstocke := (sansPerte_iff h).mp hp
  cases h.pas hs with
  | calme hb hlog hajour =>
    refine iff_of_true (fun id doc hdoc u hu => ?_) hajour
    rw [hb] at hdoc
    exact hstocke id doc hdoc u ((hlog id u).mp hu)
  | @ecrit n t id u lus doc ht hl hlecteur hlus hdoc hb hlog =>
    -- the document written, and the readers it had
    let doc' := writeFields s.base.clock doc [textes .lu (lus ++ [u])]
    have hdoc' : s'.base.doc .devoirs id = some doc' := by simp [hb, Data.doc_putDoc, doc']
    have hlu' : doc' .lu = some (.strs (lus ++ [u])) := by simp [doc', textes, FieldOp.eval]
    have hlus' : lusStockes s.base id = doc .lu := by rw [lusStockes, hdoc, Option.bind_some]
    constructor
    · rintro hjuste t' ht' id' lus' hl' v hv
      obtain rfl := Option.some.inj (ht.symm.trans ht')
      obtain ⟨rfl, rfl⟩ := ListeDevoirs.Attente.marquerCommeLu.inj (hl.symm.trans hl')
      have hattendu := (hlog id v).mpr (Or.inl (h.bornes id v hv))
      have hmem := hjuste id doc' hdoc' v hattendu
      rw [hlu', strsOf_strs] at hmem
      rcases List.mem_append.mp hmem with hmem | hmem
      · exact Or.inl hmem
      · exact Or.inr ((List.mem_singleton.mp hmem).trans hlecteur.symm)
    · intro hajour id₁ doc₁ hdoc₁ v hv
      by_cases hid : id₁ = id
      · subst hid
        obtain rfl := Option.some.inj (hdoc'.symm.trans hdoc₁)
        rw [hlu', strsOf_strs]
        rcases (hlog id₁ v).mp hv with hv | ⟨-, rfl⟩
        · have hlu : v ∈ strsOf (lusStockes s.base id₁) := by
            rw [hlus']
            exact hstocke id₁ doc hdoc v hv
          refine List.mem_append.mpr ((hajour t ht id₁ lus hl v hlu).imp_right fun hv => ?_)
          exact List.mem_singleton.mpr (hv.trans hlecteur)
        · exact List.mem_append_right _ (List.mem_singleton.mpr rfl)
      · have hdoc₀ : s.base.doc .devoirs id₁ = some doc₁ := by
          rwa [hb, Data.doc_putDoc, if_neg fun hc => hid hc.2] at hdoc₁
        rcases (hlog id₁ v).mp hv with hv | ⟨hid', -⟩
        · exact hstocke id₁ doc₁ hdoc₀ v hv
        · exact absurd hid' hid

variable (b₀ pages)

/-- **Read marks.**  A run of the homework pages loses no mark exactly if, each time a mark is
applied, the list its page had when the reader tapped names every other reader stored. -/
theorem marques_gardees [DecidableEq ι] (S : Server)
    (as : List (Act ι ListeDevoirs.Evenement Base)) :
    Always (pasDevoirs S) (SansPerte b₀ pages) (ouvertureDevoirs b₀ pages) as ↔
      AllMeet (pasDevoirs S) EcritAJour (ouvertureDevoirs b₀ pages) as := by
  refine always_iff_allMeet (fun _ _ _ h hs => h.step hs)
    (fun _ _ _ h hp hs => sansPerte_step h hp hs) InvariantDevoirs.init ?_ as
  refine (sansPerte_iff InvariantDevoirs.init).mpr fun id doc hdoc u hu => ?_
  rcases attendu_iff.mp hu with hu | hu
  · have hdoc : b₀.doc .devoirs id = some doc := hdoc
    rwa [lusStockes, hdoc, Option.bind_some] at hu
  · cases hu

end Systeme

/-- A homework for two students. -/
def devoirDeuxEleves : Enseignant.DevoirModele where
  id := "d"
  titre := "Lecture"
  description := ""
  etablissementId := "E"
  classeId := "c"
  matiereId := "m"
  enseignantId := "t"
  eleveIds := ["a", "b"]
  parentIds := []
  lusPar := []
  dateRemise := 0
  fichierUrl := none
  fichierType := none
  dateCreation := 0

def baseDeuxEleves : Base :=
  baseVide.putDoc .devoirs "d" (newDoc 0 devoirDeuxEleves.toMap)

def deuxEleves (i : Bool) : ListeDevoirs := DevoirElevePage (if i then "a" else "b")

/-- Both students receive the homework unread, open it, and their marks are served in turn. -/
def deuxLectures : List (Act Bool ListeDevoirs.Evenement Base) :=
  [.event true .snapshots, .serve 0, .resume 0, .event false .snapshots, .serve 0, .resume 0,
    .event true (.onTap "d"), .event false (.onTap "d"), .serve 0, .serve 1, .resume 0, .resume 0]

/-- Both calls have completed, and the second student only is stored. -/
theorem marque_perdue : ¬Always (pasDevoirs (Server.longest 10))
    (fun s => s.tasks = [] → SansPerte baseDeuxEleves deuxEleves s)
    (ouvertureDevoirs baseDeuxEleves deuxEleves) deuxLectures := by
  refine not_always_of_final (fun s => s.tasks.isEmpty && decide ("d" ∈ (s.pages true).details) &&
    (s.base.doc .devoirs "d").any fun doc => decide ("a" ∉ strsOf (doc .lu))) (fun s hs hP => ?_)
    (by decide +kernel)
  obtain ⟨hs, hdoc⟩ := Bool.and_eq_true_iff.mp hs
  obtain ⟨hfini, hdetail⟩ := Bool.and_eq_true_iff.mp hs
  obtain ⟨doc, hd, hperdu⟩ := (Option.any_eq_true _ _).mp hdoc
  have hsans := hP (List.isEmpty_iff.mp hfini)
  exact of_decide_eq_true hperdu (hsans.ouverts true "d" (of_decide_eq_true hdetail) doc hd)

end EduConnect.Familles
