import EduConnect.Schema
import EduConnect.Lib.Sched

/-!
# Links between parents and children

`DepotFamille` adds a link after a query for an existing one, and `LierParentEnfantVue` calls it on
every tap of its button.  Any number of callers run against one server: a link stays unique as long
as it is added to a collection that does not have it.
-/

namespace EduConnect.Admin

open Lib Prog

/-! ## The repository and its callers -/

inductive EtapeLien where
  | verification (parentId eleveId : String)
  | ajout (parentId eleveId : String)
  | suppression (relationId : String)

namespace DepotFamille

variable {σ : Type}

/-- The filters of the relation of a parent and a child. -/
def relation (parentId eleveId : String) : List (Lib.Filter Champ) :=
  [.isEqualTo .parentId (.str parentId), .isEqualTo .eleveId (.str eleveId)]

/-- The document added for a relation. -/
def nouvelle (parentId eleveId : String) : Champs :=
  [texte .parentId parentId, texte .eleveId eleveId, (.createdAt, .serverTimestamp)]

def ajouterRelation (parentId eleveId : String) : Action EtapeLien σ String :=
  catching (do
    match ← chercherPremier (.verification parentId eleveId) .famille
        (relation parentId eleveId) with
    | doc :: _ => return doc.1
    | [] => ajouter (.ajout parentId eleveId) .famille (nouvelle parentId eleveId))
    fun e => fail (.exception
      ("Erreur lors de l'ajout de la relation famille : " ++ texteErreur e))

def supprimerRelation (relationId : String) : Action EtapeLien σ Unit :=
  catching (if relationId = "" then fail .invalidArgument
    else ecrire (.suppression relationId) (.delete .famille relationId))
    fun e => fail (.exception
      ("Erreur lors de la suppression de la relation famille : " ++ texteErreur e))

end DepotFamille

/-- What a caller keeps of a call of `ajouterRelation`. -/
structure Retour where
  parentId : String
  eleveId : String
  id : String

/-- A caller of the repository; as `LierParentEnfantVue` it has a parent, shows messages, and is
closed by a successful link. -/
structure LierParentEnfant where
  parentId : String
  messages : List String := []
  fermee : Bool := false
  retours : List Retour := []

namespace LierParentEnfant

inductive Evenement where
  /-- A tap on the button `Lier` of a child. -/
  | lier (eleveDocId : String)
  /-- A call of `ajouterRelation` whose result is kept. -/
  | ajouterRelation (parentId eleveId : String)
  | supprimerRelation (relationId : String)

/-- `_lierParentEleve`. -/
def lierParentEleve (eleveDocId : String) : Action EtapeLien LierParentEnfant Unit :=
  catching (do
    let p ← page
    let _ ← DepotFamille.ajouterRelation p.parentId eleveDocId
    setState fun p => { p with messages := p.messages ++ ["Enfant lié ✅"], fermee := true })
    fun e => setState fun p =>
      { p with messages := p.messages ++ ["Erreur liaison : " ++ texteErreur e] }

/-- A call of the repository, its result kept. -/
def appeler (parentId eleveId : String) : Action EtapeLien LierParentEnfant Unit := do
  let id ← DepotFamille.ajouterRelation parentId eleveId
  setState fun p => { p with retours := p.retours ++ [⟨parentId, eleveId, id⟩] }

/-- The button stays enabled while its calls run. -/
def on (p : LierParentEnfant) : Evenement → Option (Action EtapeLien LierParentEnfant Unit)
  | .lier eleveDocId => if p.fermee then none else some (lierParentEleve eleveDocId)
  | .ajouterRelation parentId eleveId => some (appeler parentId eleveId)
  | .supprimerRelation relationId => some (DepotFamille.supprimerRelation relationId)

end LierParentEnfant

/-! ## The callers in parallel -/

section Systeme

variable {ι : Type}

abbrev SystemeLiens (ι : Type) := Sys ι EtapeLien Requete Req.Ans Err LierParentEnfant Base

abbrev EchangeLiens (ι : Type) := Exchange ι EtapeLien Requete Req.Ans Err

def liaisons (ι : Type) (S : Server) :
    Spec ι EtapeLien Requete Req.Ans Err LierParentEnfant Base LierParentEnfant.Evenement where
  handler := S.handler
  lost := .unavailable
  on _ ev p := p.on ev

/-- A step of the callers; nobody else writes. -/
def pasLiens [DecidableEq ι] (S : Server) (s : SystemeLiens ι)
    (a : Act ι LierParentEnfant.Evenement Base) : Option (SystemeLiens ι) :=
  s.closedStep (liaisons ι S) a

/-- The document `id` is a relation of the parent and the child. -/
def Lies (b : Base) (id parentId eleveId : String) : Prop :=
  ∃ doc, b.doc .famille id = some doc ∧ doc .parentId = some (.str parentId) ∧
    doc .eleveId = some (.str eleveId)

/-- At most one document for a parent and a child. -/
def LienUnique (b : Base) : Prop :=
  ∀ id id' parentId eleveId, Lies b id parentId eleveId → Lies b id' parentId eleveId → id = id'

/-- The id that a call of `ajouterRelation` returns with this exchange. -/
def rendu (x : EchangeLiens ι) : Option Retour :=
  match x with
  | ⟨_, .verification parentId eleveId, .query _ _, .ok (doc :: _)⟩ =>
    some ⟨parentId, eleveId, Prod.fst (β := Document) doc⟩
  | ⟨_, .ajout parentId eleveId, .add _ _, .ok id⟩ => some ⟨parentId, eleveId, id⟩
  | _ => none

/-- The ids a caller holds were returned with an exchange. -/
def RetoursRendus (w : List (EchangeLiens ι)) (_ : ι) (p : LierParentEnfant) : Prop :=
  ∀ r ∈ p.retours, ∃ x ∈ w, rendu x = some r

/-- The exchange has deleted the relation `id`. -/
def Efface (id : String) (x : EchangeLiens ι) : Prop :=
  match x.lab, x.ans with
  | .suppression relationId, .ok _ => relationId = id
  | _, _ => False

/-- Calls for the same parent and child, without a deletion of the relation in between, return the
same id. -/
def MemeId (w : List (EchangeLiens ι)) : Prop :=
  ∀ w₁ x w₂ y w₃ p e id id', w = w₁ ++ x :: w₂ ++ y :: w₃ → rendu x = some ⟨p, e, id⟩ →
    rendu y = some ⟨p, e, id'⟩ → (∀ z ∈ w₂, ¬Efface id z) → id = id'

/-- One link per parent and child, whose id all calls return. -/
structure LiensUniques (s : SystemeLiens ι) : Prop where
  unique : LienUnique s.base
  memeId : MemeId s.log
  rendus : ∀ i, RetoursRendus s.log i (s.pages i)

/-- A relation is added to a collection that does not have it. -/
def AjoutLibre (s : SystemeLiens ι) : Act ι LierParentEnfant.Evenement Base → Prop
  | .serve n => ∀ t, s.tasks[n]? = some t → ∀ p e, t.lab = .ajout p e →
      ∀ id, ¬Lies s.base id p e
  | _ => True

/-! ### The requests of a caller -/

/-- A request conforms to its label. -/
def EnvoiLien : EtapeLien → Requete → Prop
  | .verification p e, r => r = .query .famille ⟨DepotFamille.relation p e, none, some 1⟩
  | .ajout p e, r => r = .add .famille (DepotFamille.nouvelle p e)
  | .suppression id, r => r = .write (.delete .famille id)

theorem RetoursRendus.mono (w w' : List (EchangeLiens ι)) (i : ι) (p : LierParentEnfant)
    (hw : w <+: w') (h : RetoursRendus w i p) : RetoursRendus w' i p := by
  intro r hr
  obtain ⟨x, hx, hrendu⟩ := h r hr
  exact ⟨x, hw.subset hx, hrendu⟩

abbrev RegleLiens {α : Type} (i : ι)
    (Q : Except Err α → List (EchangeLiens ι) → LierParentEnfant → Prop)
    (a : Action EtapeLien LierParentEnfant α) (w : List (EchangeLiens ι)) (p : LierParentEnfant) :
    Prop :=
  a.Ok RetoursRendus (fun _ _ l r => EnvoiLien l r) (fun _ _ _ => True) i Q w p

variable {w : List (EchangeLiens ι)} {i : ι} {p : LierParentEnfant}

/-- The id a caller is given comes with an exchange. -/
abbrev Rendue (i : ι) (parentId eleveId : String) (a : Except Err String)
    (w : List (EchangeLiens ι)) (p : LierParentEnfant) : Prop :=
  RetoursRendus w i p ∧ ∀ id, a = .ok id → ∃ x ∈ w, rendu x = some ⟨parentId, eleveId, id⟩

theorem regle_nouvelle (parentId eleveId : String) (h : RetoursRendus w i p) :
    RegleLiens i (Rendue i parentId eleveId)
      (ajouter (.ajout parentId eleveId) .famille (DepotFamille.nouvelle parentId eleveId))
      w p := by
  have henvoi : EnvoiLien (.ajout parentId eleveId)
      (.add .famille (DepotFamille.nouvelle parentId eleveId)) := rfl
  refine ok_ajouter.mpr ⟨h, henvoi, ?_⟩
  rintro (e | id) w' p' - hmem hI -
  · exact ⟨hI, fun id hid => by cases hid⟩
  · refine ⟨hI, fun id' hid => ?_⟩
    obtain rfl := Except.ok.inj hid
    exact ⟨_, hmem, rfl⟩

theorem regle_ajouterRelation (parentId eleveId : String) (h : RetoursRendus w i p) :
    RegleLiens i (Rendue i parentId eleveId)
      (DepotFamille.ajouterRelation parentId eleveId) w p := by
  refine ok_catching.mpr (ok_call_bind.mpr ⟨h, rfl, ?_⟩)
  rintro (e | docs) w' p' - hmem hI -
  · exact ok_fail.mpr ⟨hI, fun id hid => by cases hid⟩
  · rcases (docs : List (String × Document)) with _ | ⟨doc, docs⟩
    · refine (regle_nouvelle parentId eleveId hI).mono fun a v x hx => ?_
      cases a with
      | error e => exact ok_fail.mpr ⟨hx.1, fun id hid => by cases hid⟩
      | ok id => exact hx
    · refine ok_ret.mpr ⟨hI, fun id hid => ?_⟩
      obtain rfl := Except.ok.inj hid
      exact ⟨_, hmem, rfl⟩

theorem regle_supprimer (relationId : String) (h : RetoursRendus w i p) :
    RegleLiens i (fun _ v x => RetoursRendus v i x)
      (ecrire (.suppression relationId) (.delete .famille relationId)) w p := by
  have henvoi : EnvoiLien (.suppression relationId) (.write (.delete .famille relationId)) := rfl
  exact ok_ecrire.mpr ⟨h, henvoi, fun _ _ _ _ _ hI _ => hI⟩

theorem regle_liens {ev : LierParentEnfant.Evenement} {a : Action EtapeLien LierParentEnfant Unit}
    (ha : p.on ev = some a) (h : RetoursRendus w i p) :
    RegleLiens i (fun _ v x => RetoursRendus v i x) a w p := by
  cases ev with
  | lier eleveDocId =>
    have ha : (if p.fermee then none else some (LierParentEnfant.lierParentEleve eleveDocId)) =
        some a := ha
    by_cases hf : p.fermee = true
    · rw [if_pos hf] at ha
      cases ha
    rw [if_neg hf] at ha
    obtain rfl := Option.some.inj ha
    refine ok_catching.mpr (ok_page.mpr (ok_bind.mpr ?_))
    refine (regle_ajouterRelation p.parentId eleveDocId h).mono fun a v x hx => ?_
    cases a with
    | error e => exact ok_setState_ret.mpr hx.1
    | ok id => exact ok_setState_ret.mpr hx.1
  | ajouterRelation parentId eleveId =>
    obtain rfl := Option.some.inj ha
    refine ok_bind.mpr ((regle_ajouterRelation parentId eleveId h).mono fun a v x hx => ?_)
    cases a with
    | error e => exact hx.1
    | ok id =>
      refine ok_setState_ret.mpr fun r hr => ?_
      rcases List.mem_append.mp hr with hr | hr
      · exact hx.1 r hr
      · obtain rfl := List.mem_singleton.mp hr
        exact hx.2 id rfl
  | supprimerRelation relationId =>
    obtain rfl := Option.some.inj ha
    refine ok_catching.mpr ?_
    by_cases hid : relationId = ""
    · rw [if_pos hid]
      exact ok_fail.mpr (ok_fail.mpr h)
    · rw [if_neg hid]
      refine (regle_supprimer relationId h).mono fun a v x hx => ?_
      cases a with
      | error e => exact ok_fail.mpr hx
      | ok u => exact hx

/-! ### The relations stored -/

theorem lies_addDoc {S : Server} {b : Base} {p e id q f : String} :
    Lies (S.addDoc .famille b (DepotFamille.nouvelle p e)) id q f ↔
      Lies b id q f ∨ id = S.newDocId b .famille ∧ q = p ∧ f = e := by
  have hdoc : (S.addDoc .famille b (DepotFamille.nouvelle p e)).doc .famille id =
      if id = S.newDocId b .famille then some (newDoc b.clock (DepotFamille.nouvelle p e))
      else b.doc .famille id := by
    rw [Server.addDoc, Data.doc_issue, Data.doc_putDoc]
    simp only [true_and]
  have hneuf : b.doc .famille (S.newDocId b .famille) = none := S.doc_newDocId b .famille
  have hparent : newDoc b.clock (DepotFamille.nouvelle p e) .parentId = some (.str p) := rfl
  have heleve : newDoc b.clock (DepotFamille.nouvelle p e) .eleveId = some (.str e) := rfl
  unfold Lies
  rw [hdoc]
  by_cases hid : id = S.newDocId b .famille
  · rw [if_pos hid]
    constructor
    · rintro ⟨doc, hd, hq, hf⟩
      obtain rfl := Option.some.inj hd
      cases hparent.symm.trans hq
      cases heleve.symm.trans hf
      exact Or.inr ⟨hid, rfl, rfl⟩
    · rintro (⟨doc, hd, -, -⟩ | ⟨-, rfl, rfl⟩)
      · rw [hid, hneuf] at hd
        cases hd
      · exact ⟨_, rfl, hparent, heleve⟩
  · rw [if_neg hid]
    exact ⟨Or.inl, fun h => h.resolve_right fun h => hid h.1⟩

theorem lies_eraseDoc {b : Base} {r id q f : String} :
    Lies (b.eraseDoc .famille r) id q f ↔ Lies b id q f ∧ id ≠ r := by
  unfold Lies
  rw [Data.doc_eraseDoc]
  by_cases hid : id = r
  · rw [if_pos ⟨rfl, hid⟩]
    refine ⟨?_, fun h => absurd hid h.2⟩
    rintro ⟨doc, hd, -, -⟩
    cases hd
  · rw [if_neg fun h => hid h.2]
    exact ⟨fun h => ⟨h, hid⟩, And.left⟩

/-- A query for a relation finds relations of the parent and the child. -/
theorem lies_of_mem_run {b : Base} {p e : String} {n : Option ℕ} {doc : String × Document}
    (h : doc ∈ (⟨DepotFamille.relation p e, none, n⟩ : Query Champ).run (b.docs .famille)) :
    Lies b doc.1 p e := by
  obtain ⟨hdoc, hfiltres⟩ := Query.of_mem_run h
  have hp : Filter.isEqualTo .parentId (.str p) ∈ DepotFamille.relation p e := List.mem_cons_self
  have he : Filter.isEqualTo .eleveId (.str e) ∈ DepotFamille.relation p e :=
    List.mem_cons_of_mem _ List.mem_cons_self
  exact ⟨doc.2, hdoc, Filter.sat_isEqualTo_str.mp (hfiltres _ hp),
    Filter.sat_isEqualTo_str.mp (hfiltres _ he)⟩

theorem mem_run_of_lies {b : Base} {id p e : String} (h : Lies b id p e) :
    ∃ doc, (id, doc) ∈ (⟨DepotFamille.relation p e, none, none⟩ : Query Champ).run
      (b.docs .famille) := by
  obtain ⟨doc, hdoc, hp, he⟩ := h
  refine ⟨doc, Query.mem_run.mpr ⟨hdoc, fun c hc => ?_⟩⟩
  rcases List.mem_cons.mp hc with rfl | hc
  · exact Filter.sat_isEqualTo_str.mpr hp
  · obtain rfl := List.mem_singleton.mp hc
    exact Filter.sat_isEqualTo_str.mpr he

/-! ### What a step does -/

/-- The steps, by what they do to the relations and the ids returned. -/
inductive PasLien (s : SystemeLiens ι) (a : Act ι LierParentEnfant.Evenement Base)
    (s' : SystemeLiens ι) : Prop where
  | calme (hb : s'.base = s.base) (hw : s'.log = s.log) (ha : AjoutLibre s a)
  | muet {x : EchangeLiens ι} (hb : s'.base = s.base) (hw : s'.log = s.log ++ [x])
    (hx : rendu x = none) (ha : AjoutLibre s a)
  | trouve {x : EchangeLiens ι} {r : Retour} (hb : s'.base = s.base) (hw : s'.log = s.log ++ [x])
    (hx : rendu x = some r) (hlies : Lies s.base r.id r.parentId r.eleveId) (ha : AjoutLibre s a)
  | ajoute {x : EchangeLiens ι} {r : Retour} (hw : s'.log = s.log ++ [x]) (hx : rendu x = some r)
    (hneuf : ∀ q f, ¬Lies s.base r.id q f)
    (hb : ∀ id q f, Lies s'.base id q f ↔
      Lies s.base id q f ∨ id = r.id ∧ q = r.parentId ∧ f = r.eleveId)
    (ha : AjoutLibre s a ↔ ∀ id, ¬Lies s.base id r.parentId r.eleveId)
  | efface {x : EchangeLiens ι} {r : String} (hw : s'.log = s.log ++ [x]) (hx : rendu x = none)
    (hefface : Efface r x) (hb : ∀ id q f, Lies s'.base id q f ↔ Lies s.base id q f ∧ id ≠ r)
    (ha : AjoutLibre s a)

/-- The rule's invariant of the callers. -/
abbrev LiensTenus (s : SystemeLiens ι) : Prop :=
  s.Ok RetoursRendus (fun _ _ l r => EnvoiLien l r) (fun _ _ _ => True)

theorem LiensTenus.step [DecidableEq ι] {S : Server} {s s' : SystemeLiens ι}
    {a : Act ι LierParentEnfant.Evenement Base} (h : LiensTenus s)
    (hs : pasLiens S s a = some s') : LiensTenus s' := by
  refine Sys.Ok.step (liaisons ι S) RetoursRendus.mono (fun _ _ _ _ _ _ h => h) ?_ h ?_
    (Sys.step_of_closedStep hs)
  · exact fun w i ev p a ha hI => regle_liens ha hI
  · cases a <;> simp [Sys.Resumes]

/-- A request served. -/
theorem pasLien_serve [DecidableEq ι] {S : Server} {s : SystemeLiens ι} {n : ℕ}
    {t : Task ι EtapeLien Requete Req.Ans Err LierParentEnfant} (ht : s.tasks[n]? = some t)
    (henvoi : EnvoiLien t.lab t.req) :
    PasLien s (.serve n) { s.answer n t (S.handler t.req s.base).1 with
      base := (S.handler t.req s.base).2 } := by
  obtain ⟨i, l, r, k, ans⟩ := t
  cases l with
  | verification p e =>
    obtain rfl : r = _ := henvoi
    have hlibre : AjoutLibre s (.serve n) := by
      intro t' ht' p' e' hl
      obtain rfl := Option.some.inj (ht.symm.trans ht')
      cases hl
    have hanswer : S.handler (.query .famille ⟨DepotFamille.relation p e, none, some 1⟩ : Requete)
        s.base = (.ok ((⟨DepotFamille.relation p e, none, some 1⟩ : Query Champ).run
          (s.base.docs .famille)), s.base) := rfl
    rw [hanswer]
    generalize hrun : (⟨DepotFamille.relation p e, none, some 1⟩ : Query Champ).run
      (s.base.docs .famille) = docs
    rcases docs with _ | ⟨doc, docs⟩
    · exact .muet rfl rfl rfl hlibre
    · refine .trouve (r := ⟨p, e, doc.1⟩) rfl rfl rfl ?_ hlibre
      have hdoc : doc ∈ (⟨DepotFamille.relation p e, none, some 1⟩ : Query Champ).run
          (s.base.docs .famille) := hrun ▸ List.mem_cons_self
      exact lies_of_mem_run hdoc
  | ajout p e =>
    obtain rfl : r = _ := henvoi
    refine .ajoute (r := ⟨p, e, S.newDocId s.base .famille⟩) rfl rfl ?_
      (fun id q f => lies_addDoc) ?_
    · rintro q f ⟨doc, hd, -, -⟩
      rw [S.doc_newDocId] at hd
      cases hd
    · constructor
      · exact fun h id => h _ ht p e rfl id
      · rintro h t' ht' p' e' hl id
        obtain rfl := Option.some.inj (ht.symm.trans ht')
        cases hl
        exact h id
  | suppression relationId =>
    obtain rfl : r = _ := henvoi
    refine .efface (r := relationId) rfl rfl rfl (fun id q f => lies_eraseDoc) ?_
    intro t' ht' p' e' hl
    obtain rfl := Option.some.inj (ht.symm.trans ht')
    cases hl

theorem LiensTenus.pas [DecidableEq ι] {S : Server} {s s' : SystemeLiens ι}
    {a : Act ι LierParentEnfant.Evenement Base} (h : LiensTenus s)
    (hs : pasLiens S s a = some s') : PasLien s a s' := by
  cases Sys.step_cases (Sys.step_of_closedStep hs) with
  | event hp => exact .calme rfl rfl trivial
  | @serve n t ht hans => exact pasLien_serve ht (h.task t (List.mem_of_getElem? ht)).issued
  | @lose n t ht hans =>
    refine .muet rfl rfl ?_ trivial
    obtain ⟨i, l, r, k, ans⟩ := t
    have hlog := (h.task _ (List.mem_of_getElem? ht)).issued
    cases l <;> obtain rfl : r = _ := hlog <;> rfl
  | resume ht hans => exact .calme rfl rfl trivial
  | other b => cases hs

/-! ## One link per parent and child -/

/-- A relation returned and not deleted since is stored. -/
def Vivant (s : SystemeLiens ι) : Prop :=
  ∀ w₁ x w₂ r, s.log = w₁ ++ x :: w₂ → rendu x = some r → (∀ z ∈ w₂, ¬Efface r.id z) →
    Lies s.base r.id r.parentId r.eleveId

/-- An exchange that keeps the relations it does not delete, and returns a relation stored. -/
theorem Vivant.snoc {s s' : SystemeLiens ι} (h : Vivant s) {x : EchangeLiens ι}
    (hw : s'.log = s.log ++ [x])
    (hgarde : ∀ id q f, Lies s.base id q f → ¬Efface id x → Lies s'.base id q f)
    (hx : ∀ r, rendu x = some r → Lies s'.base r.id r.parentId r.eleveId) : Vivant s' := by
  intro w₁ y w₂ r hlog hy hgardee
  rw [hw, snoc_eq_append_cons] at hlog
  rcases hlog with ⟨-, rfl, -⟩ | ⟨w₃, rfl, hlog⟩
  · exact hx r hy
  · refine hgarde _ _ _ (h w₁ y w₃ r hlog hy fun z hz => ?_) ?_
    · exact hgardee z (List.mem_append_left _ hz)
    · exact hgardee x (List.mem_append_right _ List.mem_cons_self)

theorem Vivant.pas {s s' : SystemeLiens ι} {a : Act ι LierParentEnfant.Evenement Base}
    (h : Vivant s) (hs : PasLien s a s') : Vivant s' := by
  cases hs with
  | calme hb hw ha =>
    intro w₁ x w₂ r hlog
    rw [hb]
    exact h w₁ x w₂ r (hw ▸ hlog)
  | muet hb hw hx ha =>
    refine h.snoc hw (fun id q f hlies _ => hb ▸ hlies) fun r hr => ?_
    rw [hx] at hr
    cases hr
  | trouve hb hw hx hlies ha =>
    refine h.snoc hw (fun id q f hlies _ => hb ▸ hlies) fun r hr => ?_
    obtain rfl := Option.some.inj (hx.symm.trans hr)
    rw [hb]
    exact hlies
  | ajoute hw hx hneuf hb ha =>
    refine h.snoc hw (fun id q f hlies _ => (hb id q f).mpr (Or.inl hlies)) fun r hr => ?_
    obtain rfl := Option.some.inj (hx.symm.trans hr)
    exact (hb _ _ _).mpr (Or.inr ⟨rfl, rfl, rfl⟩)
  | @efface x r hw hx hefface hb ha =>
    refine h.snoc hw (fun id q f hlies hgarde => (hb id q f).mpr ⟨hlies, ?_⟩) fun r hr => ?_
    · rintro rfl
      exact hgarde hefface
    · rw [hx] at hr
      cases hr

/-- Where links are unique, a call returns the id of the relation stored. -/
theorem MemeId.snoc {s s' : SystemeLiens ι} (h : MemeId s.log) (hv : Vivant s)
    (hu : LienUnique s'.base) {x : EchangeLiens ι} (hw : s'.log = s.log ++ [x])
    (hx : ∀ r, rendu x = some r → (∀ id q f, Lies s.base id q f → Lies s'.base id q f) ∧
      Lies s'.base r.id r.parentId r.eleveId) : MemeId s'.log := by
  intro w₁ y w₂ z w₃ p e id id' hlog hy hz hgarde
  rw [hw, snoc_eq_append_cons] at hlog
  rcases hlog with ⟨-, rfl, hlog⟩ | ⟨w₄, rfl, hlog⟩
  · obtain ⟨hmono, hlies⟩ := hx ⟨p, e, id'⟩ hz
    exact hu id id' p e (hmono _ _ _ (hv w₁ y w₂ ⟨p, e, id⟩ hlog.symm hy hgarde)) hlies
  · exact h w₁ y w₂ z w₄ p e id id' hlog hy hz hgarde

/-- A step keeps one link per parent and child exactly if it adds no second one. -/
theorem LiensUniques.pas_iff {s s' : SystemeLiens ι} {a : Act ι LierParentEnfant.Evenement Base}
    (h : LiensUniques s) (hv : Vivant s) (hs : PasLien s a s') (hs' : LiensTenus s') :
    LiensUniques s' ↔ AjoutLibre s a := by
  cases hs with
  | calme hb hw ha =>
    refine iff_of_true ⟨?_, ?_, hs'.page⟩ ha
    · rw [hb]
      exact h.unique
    · rw [hw]
      exact h.memeId
  | muet hb hw hx ha =>
    have hu : LienUnique s'.base := hb ▸ h.unique
    refine iff_of_true ⟨hu, h.memeId.snoc hv hu hw fun r hr => ?_, hs'.page⟩ ha
    rw [hx] at hr
    cases hr
  | trouve hb hw hx hlies ha =>
    have hu : LienUnique s'.base := hb ▸ h.unique
    refine iff_of_true ⟨hu, h.memeId.snoc hv hu hw fun r hr => ?_, hs'.page⟩ ha
    obtain rfl := Option.some.inj (hx.symm.trans hr)
    rw [hb]
    exact ⟨fun _ _ _ h => h, hlies⟩
  | @ajoute x r hw hx hneuf hb ha =>
    rw [ha]
    constructor
    · intro h' id hlies
      have hid : id = r.id := h'.unique id r.id _ _ ((hb _ _ _).mpr (Or.inl hlies))
        ((hb _ _ _).mpr (Or.inr ⟨rfl, rfl, rfl⟩))
      exact hneuf _ _ (hid ▸ hlies)
    · intro hlibre
      have hu : LienUnique s'.base := by
        intro id id' p e hl hl'
        rcases (hb _ _ _).mp hl with hl | ⟨rfl, rfl, rfl⟩
        · rcases (hb _ _ _).mp hl' with hl' | ⟨rfl, rfl, rfl⟩
          · exact h.unique id id' p e hl hl'
          · exact absurd hl (hlibre id)
        · rcases (hb _ _ _).mp hl' with hl' | ⟨rfl, -, -⟩
          · exact absurd hl' (hlibre id')
          · rfl
      refine ⟨hu, h.memeId.snoc hv hu hw fun r' hr => ?_, hs'.page⟩
      obtain rfl := Option.some.inj (hx.symm.trans hr)
      exact ⟨fun _ _ _ h => (hb _ _ _).mpr (Or.inl h), (hb _ _ _).mpr (Or.inr ⟨rfl, rfl, rfl⟩)⟩
  | efface hw hx hefface hb ha =>
    have hu : LienUnique s'.base := fun id id' p e hl hl' =>
      h.unique id id' p e ((hb _ _ _).mp hl).1 ((hb _ _ _).mp hl').1
    refine iff_of_true ⟨hu, h.memeId.snoc hv hu hw fun r hr => ?_, hs'.page⟩ ha
    rw [hx] at hr
    cases hr

/-- **One link per parent and child.**  In a run of the callers links stay unique, and the calls
for a pair return one id, exactly if every relation is added to a collection without it. -/
theorem liens_uniques_iff [DecidableEq ι] (S : Server) (parentIds : ι → String) {b₀ : Base}
    (h₀ : LienUnique b₀) (as : List (Act ι LierParentEnfant.Evenement Base)) :
    Always (pasLiens S) LiensUniques (Sys.init b₀ fun i => { parentId := parentIds i }) as ↔
      AllMeet (pasLiens S) AjoutLibre (Sys.init b₀ fun i => { parentId := parentIds i }) as := by
  refine always_iff_allMeet (I := fun s : SystemeLiens ι => LiensTenus s ∧ Vivant s)
    (fun s a s' h hs => ⟨h.1.step hs, h.2.pas (h.1.pas hs)⟩)
    (fun s a s' h hu hs => hu.pas_iff h.2 (h.1.pas hs) (h.1.step hs))
    ⟨Sys.Ok.init ?_ b₀, ?_⟩ ⟨h₀, ?_, ?_⟩ as
  · intro i r hr
    cases hr
  · intro w₁ x w₂ r hlog
    exact absurd hlog (by simp [Sys.init])
  · intro w₁ x w₂ y w₃ p e id id' hlog
    exact absurd hlog (by simp [Sys.init])
  · intro i r hr
    cases hr

end Systeme

theorem lienUnique_baseVide : LienUnique baseVide := by
  rintro id id' p e ⟨doc, hd, -, -⟩
  cases hd

/-- The relations of a parent and a child. -/
def relations (b : Base) (p e : String) : List (String × Document) :=
  (⟨DepotFamille.relation p e, none, none⟩ : Query Champ).run (b.docs .famille)

/-- A test of `AjoutLibre`. -/
def ajoutLibre (s : SystemeLiens Unit) : Act Unit LierParentEnfant.Evenement Base → Bool
  | .serve n => s.tasks[n]?.all fun t =>
    match t.lab with
    | .ajout p e => (relations s.base p e).isEmpty
    | _ => true
  | _ => true

theorem ajoutLibre_of_test (s : SystemeLiens Unit) (a : Act Unit LierParentEnfant.Evenement Base)
    (h : ajoutLibre s a = true) : AjoutLibre s a := by
  cases a with
  | serve n =>
    intro t ht p e hl id hlies
    obtain ⟨doc, hdoc⟩ := mem_run_of_lies hlies
    have hdoc : (id, doc) ∈ relations s.base p e := hdoc
    simp only [ajoutLibre, ht, Option.all_some, hl, List.isEmpty_iff] at h
    rw [h] at hdoc
    cases hdoc
  | _ => trivial

/-- A link made, deleted and made again, with a call for the same pair after it. -/
def lienRefait : List (Act Unit LierParentEnfant.Evenement Base) :=
  [.event () (.ajouterRelation "p" "e"), .serve 0, .resume 0, .serve 0, .resume 0,
    .event () (.supprimerRelation "x"), .serve 0, .resume 0, .event () (.ajouterRelation "p" "e"),
    .serve 0, .resume 0, .serve 0, .resume 0, .event () (.lier "e"), .serve 0, .resume 0]

theorem liens_uniques_lienRefait : Always (pasLiens (Server.longest 10)) LiensUniques
    (Sys.init baseVide fun _ : Unit => { parentId := "p" }) lienRefait :=
  (liens_uniques_iff (Server.longest 10) (fun _ => "p") lienUnique_baseVide lienRefait).mpr
    (allMeet_of_checkAll ajoutLibre ajoutLibre_of_test (by decide +kernel))

/-- Two taps on the button of one child; both queries are served before the additions. -/
def deuxTouches : List (Act Unit LierParentEnfant.Evenement Base) :=
  [.event () (.lier "e"), .event () (.lier "e"), .serve 0, .serve 1, .resume 0, .resume 0,
    .serve 0, .serve 1, .resume 0, .resume 0]

/-- A test of two relations of one parent and child. -/
def doublon (s : SystemeLiens Unit) : Bool :=
  match relations s.base "p" "e" with
  | x :: y :: _ => x.1 ≠ y.1
  | _ => false

theorem not_liensUniques_of_doublon {s : SystemeLiens Unit} (h : doublon s = true) :
    ¬LiensUniques s := by
  intro hs
  unfold doublon at h
  rcases hrun : relations s.base "p" "e" with _ | ⟨x, _ | ⟨y, l⟩⟩
  · rw [hrun] at h
    cases h
  · rw [hrun] at h
    cases h
  · rw [hrun] at h
    have hx : x ∈ relations s.base "p" "e" := hrun ▸ List.mem_cons_self
    have hy : y ∈ relations s.base "p" "e" :=
      hrun ▸ List.mem_cons_of_mem _ List.mem_cons_self
    exact of_decide_eq_true h
      (hs.unique x.1 y.1 "p" "e" (lies_of_mem_run hx) (lies_of_mem_run hy))

/-- Two taps store the link twice. -/
theorem lien_double : ¬Always (pasLiens (Server.longest 10)) LiensUniques
    (Sys.init baseVide fun _ : Unit => { parentId := "p" }) deuxTouches :=
  not_always_of_final doublon (fun _ => not_liensUniques_of_doublon) (by decide +kernel)

end EduConnect.Admin
