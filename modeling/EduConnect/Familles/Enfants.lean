import EduConnect.Lib.Tranches
import EduConnect.Lignes
import EduConnect.Modeles

/-!
# The children linked to a parent

`ListeEnfantsPage` and `DetailsParentVue` read the `famille` documents of a parent, then the
students they name, ten at a time.  A student named twice is listed once for each batch that names him.
-/

namespace EduConnect.Familles

open Lib Prog Donnees

/-! ## The two pages -/

/-- `_EnfantDetail`. -/
structure EnfantDetail where
  eleve : EleveModele
  utilisateur : UtilisateurModele
  classe : Donnees.ClasseModele

/-- `_ListeEnfantsPageState` and `_DetailsParentVueState`, with the parent and the establishment
they were opened for, and the texts of their snack bars. -/
structure EnfantsLies where
  parentId : String
  etablissementId : String
  isLoading : Bool := true
  enfantsDetails : List EnfantDetail := []
  classes : List Donnees.ClasseModele := []
  messages : List String := []

/-- `UtilisateurRoleEmpty`. -/
def utilisateurVide : UtilisateurModele :=
  ⟨"", "", "", "", "", "", "", false, "", "", none⟩

/-- The class shown for a student whose class is not there. -/
def classeInconnue : Donnees.ClasseModele := ⟨"", "Inconnue", "", [], []⟩

namespace EnfantsLies

/-- The end of the `catch`. -/
def echec (texte : String) : Action Unit EnfantsLies Unit :=
  setState fun p => { p with
    isLoading := false, messages := p.messages ++ ["Erreur chargement enfants liés : " ++ texte] }

/-- The documents with the ids `ids`; the database refuses an empty id. -/
def chargerParIds {α : Type} (c : Collection) (fromMap : Document → String → Except Err α)
    (ids : List String) : Action Unit EnfantsLies (List α) :=
  if "" ∈ ids then fail .invalidArgument else chargerModeles () c [.idIn ids] fromMap

/-- The documents with the ids `ids`, ten at a time. -/
def chargerTous {α : Type} (c : Collection) (fromMap : Document → String → Except Err α)
    (ids : List String) : Action Unit EnfantsLies (List α) :=
  parTranches horsBornes 10 ids (chargerParIds c fromMap) (debuts 10 ids.length)

/-- The entry of a student. -/
def detail (classes : List Donnees.ClasseModele) (utilisateurs : List UtilisateurModele)
    (eleve : EleveModele) : EnfantDetail where
  eleve := eleve
  utilisateur := (utilisateurs.find? fun u => u.id = eleve.utilisateurId).getD utilisateurVide
  classe := (classes.find? fun c => c.id = eleve.classeId).getD classeInconnue

/-- What follows the list of the linked students. -/
def chargerEleves (eleveIdsLies : List String) : Action Unit EnfantsLies Unit := do
  let eleves ← chargerTous .eleves EleveModele.fromMap eleveIdsLies
  let utilisateurs ←
    chargerTous .utilisateurs UtilisateurModele.fromMap (eleves.map (·.utilisateurId))
  setState fun p => { p with
    enfantsDetails := eleves.map (detail p.classes utilisateurs), isLoading := false }

/-- The classes of the establishment, then the children. -/
def charger : Action Unit EnfantsLies Unit := do
  let p ← page
  let classes ← chargerModeles () .classes
    [.isEqualTo .etablissementId (.str p.etablissementId)] Donnees.ClasseModele.fromMap
  setState fun p => { p with classes := classes }
  let familleSnap ← chercher () .famille [.isEqualTo .parentId (.str p.parentId)]
  let eleveIdsLies ← ofExcept (familleSnap.mapM fun doc => (doc.2.get .eleveId).asStr)
  if eleveIdsLies = [] then setState fun p => { p with enfantsDetails := [], isLoading := false }
  else chargerEleves eleveIdsLies

end EnfantsLies

/-- `ListeEnfantsPage._chargerEnfantsLies`. -/
def ListeEnfantsPage.chargerEnfantsLies : Action Unit EnfantsLies Unit := do
  setState fun p => { p with isLoading := true }
  catching EnfantsLies.charger fun e => EnfantsLies.echec (texteErreur e)

/-- `DetailsParentVue._chargerEnfantsLies`, which first asks for an establishment. -/
def DetailsParentVue.chargerEnfantsLies : Action Unit EnfantsLies Unit := do
  setState fun p => { p with isLoading := true }
  let p ← page
  if p.etablissementId = "" then EnfantsLies.echec "Établissement introuvable pour ce parent"
  else catching EnfantsLies.charger fun e => EnfantsLies.echec (texteErreur e)

/-- The page of the parent, or that of the administrator. -/
inductive PageEnfants where
  | liste
  | details

def PageEnfants.chargerEnfantsLies : PageEnfants → Action Unit EnfantsLies Unit
  | liste => ListeEnfantsPage.chargerEnfantsLies
  | details => DetailsParentVue.chargerEnfantsLies

/-! ## What a load by ids finds -/

section Lectures

variable {S : Server} {b : Base} {α : Type} {c : Collection}
  {fromMap : Document → String → Except Err α} {id : α → String}

/-- The ids of the documents of a batch. -/
theorem mem_ids_run {lot : List String} {x : String} :
    x ∈ ((⟨[.idIn lot], none, none⟩ : Query Champ).run (b.docs c)).map Prod.fst ↔
      x ∈ lot ∧ (b.doc c x).isSome := by
  rw [List.mem_map]
  constructor
  · rintro ⟨⟨i, d⟩, hmem, rfl⟩
    obtain ⟨hd, hsat⟩ := Query.mem_run.mp hmem
    have hd' : b.doc c i = some d := hd
    exact ⟨Filter.sat_idIn.mp (hsat _ List.mem_cons_self), by rw [hd']; rfl⟩
  · rintro ⟨hx, hd⟩
    obtain ⟨d, hd⟩ := Option.isSome_iff_exists.mp hd
    refine ⟨(x, d), Query.mem_run.mpr ⟨hd, fun y hy => ?_⟩, rfl⟩
    obtain rfl := List.mem_singleton.mp hy
    exact Filter.sat_idIn.mpr hx

theorem exec_chargerParIds (hmax : 10 ≤ S.maxIn) {ids lot : List String} (hlot : lot ∈ lots 10 ids)
    {p : EnfantsLies} : (EnfantsLies.chargerParIds c fromMap lot).exec S.handler p b =
      (if "" ∈ lot then .error .invalidArgument else
        ((⟨[.idIn lot], none, none⟩ : Query Champ).run (b.docs c)).mapM fun doc =>
          fromMap doc.2 doc.1, p, b) := by
  unfold EnfantsLies.chargerParIds
  by_cases hvide : "" ∈ lot
  · rw [if_pos hvide, if_pos hvide]
    rfl
  · obtain ⟨hne, hle⟩ := length_of_mem_lots (by decide) hlot
    have hlt : ¬S.maxIn < lot.length := by omega
    rw [if_neg hvide, if_neg hvide]
    exact exec_chargerModeles (by simp [Filter.refused, hne, hlt])

/-- Two places of a stored id are in one batch. -/
def SansReprise (b : Base) (c : Collection) (ids : List String) : Prop :=
  ∀ i j x, ids[i]? = some x → ids[j]? = some x → (b.doc c x).isSome → i / 10 = j / 10

/-- The documents can be loaded by their ids. -/
def ParIds (b : Base) (c : Collection) (fromMap : Document → String → Except Err α)
    (ids : List String) : Prop :=
  "" ∉ ids ∧ ∀ x ∈ ids, ∀ d, b.doc c x = some d → ∃ m, fromMap d x = .ok m

/-- The rows found batch by batch. -/
def lignesDesLots (b : Base) (c : Collection) (ids : List String) : List (String × Document) :=
  (lots 10 ids).flatMap fun lot => (⟨[.idIn lot], none, none⟩ : Query Champ).run (b.docs c)

theorem mem_lignesDesLots {ids : List String} {x : String} {d : Document} :
    (x, d) ∈ lignesDesLots b c ids ↔ b.doc c x = some d ∧ x ∈ ids := by
  rw [lignesDesLots, List.mem_flatMap, ← exists_lot_iff (k := 10) (by decide)]
  constructor
  · rintro ⟨lot, hlot, hdoc⟩
    obtain ⟨hd, hsat⟩ := Query.mem_run.mp hdoc
    exact ⟨hd, lot, hlot, Filter.sat_idIn.mp (hsat _ List.mem_cons_self)⟩
  · rintro ⟨hd, lot, hlot, hx⟩
    refine ⟨lot, hlot, Query.mem_run.mpr ⟨hd, fun y hy => ?_⟩⟩
    obtain rfl := List.mem_singleton.mp hy
    exact Filter.sat_idIn.mpr hx

/-- What the load of the ids answers: the models of the rows, or the refusal of an empty id. -/
theorem exec_chargerTous_eq (hmax : 10 ≤ S.maxIn) (ids : List String) (p : EnfantsLies) :
    ∃ r, (EnfantsLies.chargerTous c fromMap ids).exec S.handler p b = (r, p, b) ∧
      ("" ∈ ids → ∀ l, r ≠ .ok l) ∧
      ("" ∉ ids → r = (lignesDesLots b c ids).mapM fun doc => fromMap doc.2 doc.1) := by
  set lire : List String → Except Err (List α) := fun lot => if "" ∈ lot then
    .error .invalidArgument else ((⟨[.idIn lot], none, none⟩ : Query Champ).run (b.docs c)).mapM
      fun doc => fromMap doc.2 doc.1 with hlire
  refine ⟨((lots 10 ids).mapM lire).map List.flatten, ?_, fun hvide l hl => ?_, fun hvide => ?_⟩
  · unfold EnfantsLies.chargerTous
    rw [parTranches_debuts _ (by decide)]
    exact exec_parLots fun lot hlot => exec_chargerParIds hmax hlot
  · obtain ⟨lot, hlot, hmem⟩ := (exists_lot_iff (k := 10) (by decide)).mpr hvide
    rcases hls : (lots 10 ids).mapM lire with e | ls
    · rw [hls] at hl
      exact nomatch hl
    · obtain ⟨xs, -, hxs⟩ := exists_mem_of_mapM hls hlot
      rw [hlire] at hxs
      dsimp only at hxs
      rw [if_pos hmem] at hxs
      exact nomatch hxs
  · rw [lignesDesLots, ← mapM_mapM_flatten]
    refine congrArg (Except.map List.flatten) (mapM_congr_of_mem fun lot hlot => if_neg ?_)
    exact fun hmem => hvide ((exists_lot_iff (k := 10) (by decide)).mp ⟨lot, hlot, hmem⟩)

/-- The stored documents are found, and only those in two batches are found twice. -/
theorem exec_chargerTous (hid : ∀ d i m, fromMap d i = .ok m → id m = i) (hmax : 10 ≤ S.maxIn)
    (ids : List String) (p : EnfantsLies) :
    ∃ r, (EnfantsLies.chargerTous c fromMap ids).exec S.handler p b = (r, p, b) ∧
      ((∃ l, r = .ok l) ↔ ParIds b c fromMap ids) ∧ ∀ l, r = .ok l →
        (∀ m, m ∈ l ↔ ∃ d, b.doc c (id m) = some d ∧ id m ∈ ids ∧ fromMap d (id m) = .ok m) ∧
        ((l.map id).Nodup ↔ SansReprise b c ids) := by
  obtain ⟨r, hexec, hvide, hplein⟩ := exec_chargerTous_eq (b := b) (c := c) hmax ids p
  refine ⟨r, hexec, ?_⟩
  by_cases h : "" ∈ ids
  · constructor
    · refine iff_of_false ?_ fun h' => h'.1 h
      rintro ⟨l, hl⟩
      exact hvide h l hl
    · exact fun l hl => absurd hl (hvide h l)
  rw [hplein h]
  refine ⟨?_, fun l hl => ⟨mem_modeles hid (fun _ _ => mem_lignesDesLots) hl, ?_⟩⟩
  · rw [exists_mapM_iff, ParIds, and_iff_right h]
    constructor
    · exact fun h x hx d hd => h (x, d) (mem_lignesDesLots.mpr ⟨hd, hx⟩)
    · rintro h ⟨x, d⟩ hdoc
      obtain ⟨hd, hx⟩ := mem_lignesDesLots.mp hdoc
      exact h x hx d hd
  · rw [map_id_of_mapM hid hl, lignesDesLots, List.map_flatMap]
    exact nodup_flatMap_lots (by decide) (fun lot => Query.keys_run_nodup _ _) fun lot x =>
      mem_ids_run

end Lectures

/-! ## What the pages list -/

section Pages

variable {S : Server} {b : Base} {p : EnfantsLies}

/-- A `famille` document links the student `x` to the parent. -/
def LieA (b : Base) (parentId x : String) : Prop :=
  ∃ i d, b.doc .famille i = some d ∧ d .parentId = some (.str parentId) ∧
    d .eleveId = some (.str x)

/-- The students linked to the parent, one for each `famille` document, in the order of these. -/
def eleveIdsLies (b : Base) (parentId : String) : List String :=
  ((⟨[.isEqualTo .parentId (.str parentId)], none, none⟩ : Query Champ).run
    (b.docs .famille)).map fun doc => chaine doc.2 .eleveId

/-- The documents the page reads have the types it expects, and name what they refer to. -/
structure FamilleLisible (b : Base) (p : EnfantsLies) : Prop where
  classes : ∀ id d, b.doc .classes id = some d →
    d .etablissementId = some (.str p.etablissementId) →
      ∃ m, Donnees.ClasseModele.fromMap d id = .ok m
  famille : ∀ i d, b.doc .famille i = some d → d .parentId = some (.str p.parentId) →
    ∃ x, x ≠ "" ∧ d .eleveId = some (.str x)
  eleves : ∀ x d, LieA b p.parentId x → b.doc .eleves x = some d →
    ∃ m, EleveModele.fromMap d x = .ok m ∧ m.utilisateurId ≠ "" ∧
      ∀ u, b.doc .utilisateurs m.utilisateurId = some u →
        ∃ v, UtilisateurModele.fromMap u m.utilisateurId = .ok v

/-- The page of the administrator asks for an establishment. -/
def PageEnfants.Ouvrable : PageEnfants → EnfantsLies → Prop
  | liste, _ => True
  | details, p => p.etablissementId ≠ ""

/-- The students of the entries. -/
def EnfantsLies.listes (p : EnfantsLies) : List String := p.enfantsDetails.map (·.eleve.id)

/-- The list has one entry for each stored student linked to the parent. -/
def UneEntreeChacun (b : Base) (p p' : EnfantsLies) : Prop :=
  p'.listes.Nodup ∧ ∀ x, x ∈ p'.listes ↔ LieA b p.parentId x ∧ (b.doc .eleves x).isSome

/-- The load reports no error, and lists each linked student once. -/
def Conforme (S : Server) (b : Base) (page : PageEnfants) (p : EnfantsLies) : Prop :=
  page.chargerEnfantsLies.Ends S.handler
    (fun _ p' b' => b' = b ∧ p'.messages = p.messages ∧ UneEntreeChacun b p p') p b

/-- The ids the page reads, when each family names a student. -/
theorem mapM_eleveId {parentId : String} {ids : List String}
    (h : ((⟨[.isEqualTo .parentId (.str parentId)], none, none⟩ : Query Champ).run
      (b.docs .famille)).mapM (fun doc => (doc.2.get .eleveId).asStr) = Except.ok ids) :
    ids = eleveIdsLies b parentId ∧ (∀ x, x ∈ ids ↔ LieA b parentId x) ∧
      ∀ i d, b.doc .famille i = some d → d .parentId = some (.str parentId) →
        ∃ x ∈ ids, d .eleveId = some (.str x) := by
  have hlu : ∀ i d, b.doc .famille i = some d → d .parentId = some (.str parentId) →
      ∃ x ∈ ids, d .eleveId = some (.str x) := by
    intro i d hd hp
    obtain ⟨x, hx, hval⟩ := exists_mem_of_mapM h (Query.mem_run_isEqualTo.mpr ⟨hd, hp⟩)
    exact ⟨x, hx, Doc.asStr_get_iff.mp hval⟩
  refine ⟨?_, fun x => ⟨fun hx => ?_, ?_⟩, hlu⟩
  · have hmap := mapM_eq_ok (f := fun doc : String × Document => (doc.2.get .eleveId).asStr)
      (g := fun doc => chaine doc.2 .eleveId) (l :=
        (⟨[.isEqualTo .parentId (.str parentId)], none, none⟩ : Query Champ).run
          (b.docs .famille)) ?_
    · exact Except.ok.inj (h.symm.trans hmap)
    · rintro ⟨i, d⟩ hdoc
      obtain ⟨hd, hp⟩ := Query.mem_run_isEqualTo.mp hdoc
      obtain ⟨x, -, hx⟩ := hlu i d hd hp
      rw [chaine_of_str hx]
      exact Doc.asStr_get_iff.mpr hx
  · obtain ⟨⟨i, d⟩, hdoc, hval⟩ := exists_of_mem_mapM h hx
    obtain ⟨hd, hp⟩ := Query.mem_run_isEqualTo.mp hdoc
    exact ⟨i, d, hd, hp, Doc.asStr_get_iff.mp hval⟩
  · rintro ⟨i, d, hd, hp, hx⟩
    obtain ⟨x', hx', hval⟩ := hlu i d hd hp
    obtain rfl := Value.str.inj (Option.some.inj (hx.symm.trans hval))
    exact hx'

/-- How a load ends, from its body: an error, or the entries of the linked students. -/
def Fin (b : Base) (p : EnfantsLies) (a : Except Err Unit) (p' : EnfantsLies) (b' : Base) : Prop :=
  b' = b ∧ p'.messages = p.messages ∧ match a with
    | .error _ => ¬FamilleLisible b p
    | .ok _ => FamilleLisible b p ∧
      (∀ x, x ∈ p'.listes ↔ LieA b p.parentId x ∧ (b.doc .eleves x).isSome) ∧
      (p'.listes.Nodup ↔ SansReprise b .eleves (eleveIdsLies b p.parentId))

theorem ids_details {classes : List Donnees.ClasseModele} {utilisateurs : List UtilisateurModele}
    {eleves : List EleveModele} :
    ((eleves.map (EnfantsLies.detail classes utilisateurs)).map
      fun d : EnfantDetail => d.eleve.id) = eleves.map (·.id) := by
  rw [List.map_map]
  rfl

section Eleves

variable (hids : ∀ x, x ∈ eleveIdsLies b p.parentId ↔ LieA b p.parentId x)
include hids

/-- The students of a family that can be read are read. -/
theorem FamilleLisible.parIds (hl : FamilleLisible b p) :
    ParIds b .eleves EleveModele.fromMap (eleveIdsLies b p.parentId) := by
  constructor
  · intro hvide
    obtain ⟨i, d, hd, hp, hx⟩ := (hids "").mp hvide
    obtain ⟨x, hne, hx'⟩ := hl.famille i d hd hp
    exact hne (Value.str.inj (Option.some.inj (hx'.symm.trans hx)))
  · intro x hx d hd
    obtain ⟨m, hm, -⟩ := hl.eleves x d ((hids x).mp hx) hd
    exact ⟨m, hm⟩

variable {eleves : List EleveModele}
  (hpar : ParIds b .eleves EleveModele.fromMap (eleveIdsLies b p.parentId))
  (hmem : ∀ m, m ∈ eleves ↔ ∃ d, b.doc .eleves m.id = some d ∧
    m.id ∈ eleveIdsLies b p.parentId ∧ EleveModele.fromMap d m.id = .ok m)
include hpar hmem

/-- Once the students are read, only their accounts are left to read. -/
theorem familleLisible_iff
    (hclasses : ∀ id d, b.doc .classes id = some d →
      d .etablissementId = some (.str p.etablissementId) →
        ∃ m, Donnees.ClasseModele.fromMap d id = .ok m)
    (hfamille : ∀ i d, b.doc .famille i = some d → d .parentId = some (.str p.parentId) →
      ∃ x ∈ eleveIdsLies b p.parentId, d .eleveId = some (.str x)) :
    FamilleLisible b p ↔
      ParIds b .utilisateurs UtilisateurModele.fromMap (eleves.map (·.utilisateurId)) := by
  constructor
  · intro hl
    have heleve : ∀ m ∈ eleves, m.utilisateurId ≠ "" ∧
        ∀ u, b.doc .utilisateurs m.utilisateurId = some u →
          ∃ v, UtilisateurModele.fromMap u m.utilisateurId = .ok v := by
      intro m hm
      obtain ⟨d, hd, hx, hval⟩ := (hmem m).mp hm
      obtain ⟨m', hm', h⟩ := hl.eleves m.id d ((hids _).mp hx) hd
      obtain rfl := Except.ok.inj (hval.symm.trans hm')
      exact h
    constructor
    · intro hu
      obtain ⟨m, hm, hu⟩ := List.mem_map.mp hu
      exact (heleve m hm).1 hu
    · intro u hu d hd
      obtain ⟨m, hm, rfl⟩ := List.mem_map.mp hu
      exact (heleve m hm).2 d hd
  · rintro ⟨hu, hdecode⟩
    refine ⟨hclasses, fun i d hd hp => ?_, fun x d hx hd => ?_⟩
    · obtain ⟨x, hx, hval⟩ := hfamille i d hd hp
      exact ⟨x, fun h => hpar.1 (h ▸ hx), hval⟩
    · obtain ⟨m, hm⟩ := hpar.2 x ((hids x).mpr hx) d hd
      obtain rfl := EleveModele.id_of_fromMap hm
      have hmem' : m.utilisateurId ∈ eleves.map (·.utilisateurId) :=
        List.mem_map_of_mem ((hmem m).mpr ⟨d, hd, (hids _).mpr hx, hm⟩)
      exact ⟨m, hm, fun h => hu (h ▸ hmem'), hdecode _ hmem'⟩

/-- The students that are read are the linked ones that are stored. -/
theorem mem_eleves_iff {x : String} :
    x ∈ eleves.map (·.id) ↔ LieA b p.parentId x ∧ (b.doc .eleves x).isSome := by
  rw [← hids, List.mem_map]
  constructor
  · rintro ⟨m, hm, rfl⟩
    obtain ⟨d, hd, hx, -⟩ := (hmem m).mp hm
    exact ⟨hx, by rw [hd]; rfl⟩
  · rintro ⟨hx, hd⟩
    obtain ⟨d, hd⟩ := Option.isSome_iff_exists.mp hd
    obtain ⟨m, hm⟩ := hpar.2 x hx d hd
    obtain rfl := EleveModele.id_of_fromMap hm
    exact ⟨m, (hmem m).mpr ⟨d, hd, hx, hm⟩, rfl⟩

end Eleves

/-- Given the linked students, the entries of those that are stored. -/
theorem ends_chargerEleves (hmax : 10 ≤ S.maxIn) {q : EnfantsLies} (hq : q.messages = p.messages)
    (hclasses : ∀ id d, b.doc .classes id = some d →
      d .etablissementId = some (.str p.etablissementId) →
        ∃ m, Donnees.ClasseModele.fromMap d id = .ok m)
    (hids : ∀ x, x ∈ eleveIdsLies b p.parentId ↔ LieA b p.parentId x)
    (hfamille : ∀ i d, b.doc .famille i = some d → d .parentId = some (.str p.parentId) →
      ∃ x ∈ eleveIdsLies b p.parentId, d .eleveId = some (.str x)) :
    (EnfantsLies.chargerEleves (eleveIdsLies b p.parentId)).Ends S.handler
      (fun a p' b' => Fin b p a p' b') q b := by
  obtain ⟨r, hexec, hok, hlus⟩ := exec_chargerTous (b := b) (c := .eleves)
    (fun _ _ _ => EleveModele.id_of_fromMap) hmax (eleveIdsLies b p.parentId) q
  simp only [EnfantsLies.chargerEleves, bind_eq]
  rcases r with e | eleves
  · refine (ends_bind_of_exec_error hexec).mpr ⟨rfl, hq, fun hl => ?_⟩
    obtain ⟨l, hl⟩ := hok.mpr (hl.parIds hids)
    cases hl
  have hpar := hok.mp ⟨eleves, rfl⟩
  obtain ⟨hmem, hnodup⟩ := hlus eleves rfl
  obtain ⟨r, hexec', hok', -⟩ := exec_chargerTous (b := b) (c := .utilisateurs)
    (fun _ _ _ => UtilisateurModele.id_of_fromMap) hmax (eleves.map (·.utilisateurId)) q
  rw [ends_bind_of_exec hexec]
  have hlisible := familleLisible_iff hids hpar hmem hclasses hfamille
  rcases r with e | utilisateurs
  · refine (ends_bind_of_exec_error hexec').mpr ⟨rfl, hq, fun hl => ?_⟩
    obtain ⟨l, hl⟩ := hok'.mpr (hlisible.mp hl)
    cases hl
  · rw [ends_bind_of_exec hexec']
    refine ⟨rfl, hq, hlisible.mpr (hok'.mp ⟨utilisateurs, rfl⟩), fun x => ?_, ?_⟩
    · show x ∈ (eleves.map (EnfantsLies.detail q.classes utilisateurs)).map
        (fun d : EnfantDetail => d.eleve.id) ↔ _
      rw [ids_details]
      exact mem_eleves_iff hids hpar hmem
    · show ((eleves.map (EnfantsLies.detail q.classes utilisateurs)).map
        fun d : EnfantDetail => d.eleve.id).Nodup ↔ _
      rw [ids_details]
      exact hnodup

theorem ends_charger (hmax : 10 ≤ S.maxIn) {q : EnfantsLies} (hparent : q.parentId = p.parentId)
    (hetab : q.etablissementId = p.etablissementId) (hq : q.messages = p.messages) :
    EnfantsLies.charger.Ends S.handler (fun a p' b' => Fin b p a p' b') q b := by
  simp only [EnfantsLies.charger, bind_eq]
  rw [ends_page_bind, hparent, hetab]
  rcases hclasses : List.mapM (fun doc : String × Document =>
    Donnees.ClasseModele.fromMap doc.2 doc.1)
      ((⟨[.isEqualTo .etablissementId (.str p.etablissementId)], none, none⟩ : Query Champ).run
        (b.docs .classes)) with e | classes
  · have hexec : (chargerModeles () .classes [.isEqualTo .etablissementId (.str p.etablissementId)]
        Donnees.ClasseModele.fromMap).exec S.handler q b = (.error e, q, b) := by
      rw [exec_chargerModeles rfl, hclasses]
    refine (ends_bind_of_exec_error hexec).mpr ⟨rfl, hq, fun hl => ?_⟩
    obtain ⟨l, hl⟩ := exists_mapM_isEqualTo
      (g := fun doc => Donnees.ClasseModele.fromMap doc.2 doc.1) |>.mpr hl.classes
    exact nomatch hclasses.symm.trans hl
  have hexec : (chargerModeles () .classes [.isEqualTo .etablissementId (.str p.etablissementId)]
      Donnees.ClasseModele.fromMap).exec S.handler q b = (.ok classes, q, b) := by
    rw [exec_chargerModeles rfl, hclasses]
  have hc := exists_mapM_isEqualTo.mp ⟨classes, hclasses⟩
  rw [ends_bind_of_exec hexec, ends_setState_bind]
  refine ends_chercher_bind (fun _ => ends_bind.mpr ((ends_ofExcept _).mpr ?_)) nofun
  rcases hids : List.mapM (fun doc : String × Document => (doc.2.get .eleveId).asStr)
    ((⟨[.isEqualTo .parentId (.str p.parentId)], none, none⟩ : Query Champ).run
      (b.docs .famille)) with e | ids
  · refine ⟨rfl, hq, fun hl => ?_⟩
    obtain ⟨l, hl⟩ := exists_mapM_isEqualTo
      (g := fun doc => (doc.2.get .eleveId).asStr) |>.mpr fun i d hd hp => by
      obtain ⟨x, -, hx⟩ := hl.famille i d hd hp
      exact ⟨x, Doc.asStr_get_iff.mpr hx⟩
    exact nomatch hids.symm.trans hl
  obtain ⟨rfl, hlies, hfamille⟩ := mapM_eleveId hids
  dsimp only
  by_cases hvide : eleveIdsLies b p.parentId = []
  · rw [if_pos hvide]
    have hpersonne : ∀ x, ¬LieA b p.parentId x := by
      intro x hx
      rw [← hlies, hvide] at hx
      exact nomatch hx
    refine ⟨rfl, hq, ⟨hc, fun i d hd hp => ?_, fun x d hx => absurd hx (hpersonne x)⟩,
      fun x => ?_, ?_⟩
    · obtain ⟨x, hx, -⟩ := hfamille i d hd hp
      rw [hvide] at hx
      exact nomatch hx
    · exact iff_of_false List.not_mem_nil fun h => hpersonne x h.1
    · refine iff_of_true List.nodup_nil fun i j x hi => ?_
      rw [hvide] at hi
      exact nomatch hi
  · rw [if_neg hvide]
    exact ends_chargerEleves hmax hq hc hlies hfamille

/-- Each page loads the children, or reports an error. -/
theorem ends_chargerEnfantsLies (hmax : 10 ≤ S.maxIn) (page : PageEnfants) :
    page.chargerEnfantsLies.Ends S.handler (fun _ p' b' => b' = b ∧
      (page.Ouvrable p ∧ FamilleLisible b p → p'.messages = p.messages ∧
        (∀ x, x ∈ p'.listes ↔ LieA b p.parentId x ∧ (b.doc .eleves x).isSome) ∧
        (p'.listes.Nodup ↔ SansReprise b .eleves (eleveIdsLies b p.parentId))) ∧
      (¬(page.Ouvrable p ∧ FamilleLisible b p) → p'.messages ≠ p.messages)) p b := by
  have hcorps : ∀ hpage : page.Ouvrable p, (catching EnfantsLies.charger fun e =>
      EnfantsLies.echec (texteErreur e)).Ends S.handler (fun _ p' b' => b' = b ∧
        (page.Ouvrable p ∧ FamilleLisible b p → p'.messages = p.messages ∧
          (∀ x, x ∈ p'.listes ↔ LieA b p.parentId x ∧ (b.doc .eleves x).isSome) ∧
          (p'.listes.Nodup ↔ SansReprise b .eleves (eleveIdsLies b p.parentId))) ∧
        (¬(page.Ouvrable p ∧ FamilleLisible b p) → p'.messages ≠ p.messages))
        { p with isLoading := true } b := by
    intro hpage
    have hcharger : EnfantsLies.charger.Ends S.handler (fun a p' b' => Fin b p a p' b')
      { p with isLoading := true } b := ends_charger hmax rfl rfl rfl
    refine ends_catching.mpr (hcharger.mono ?_)
    rintro (e | _) p' b' ⟨rfl, hmessages, h⟩
    · refine ⟨rfl, fun hl => absurd hl.2 h, fun _ heq => ?_⟩
      have hplus : p'.messages ++ [_] = p.messages := heq
      rw [hmessages] at hplus
      simp at hplus
    · exact ⟨rfl, fun _ => ⟨hmessages, h.2⟩, fun hl => absurd ⟨hpage, h.1⟩ hl⟩
  cases page with
  | liste => exact ends_setState_bind.mpr (hcorps trivial)
  | details =>
    refine ends_setState_bind.mpr (ends_page_bind.mpr ?_)
    by_cases hetab : p.etablissementId = ""
    · rw [if_pos hetab]
      refine ⟨rfl, fun hl => absurd hetab hl.1, fun _ heq => ?_⟩
      have hplus : p.messages ++ [_] = p.messages := heq
      simp at hplus
    · rw [if_neg hetab]
      exact hcorps hetab

/-- **Linked children.**  Either page lists each linked student once exactly when it can read the
documents and no stored student is named in two batches of ten. -/
theorem enfants_conforme_iff (S : Server) (hmax : 10 ≤ S.maxIn) (b : Base) (page : PageEnfants)
    (p : EnfantsLies) : Conforme S b page p ↔ page.Ouvrable p ∧ FamilleLisible b p ∧
      SansReprise b .eleves (eleveIdsLies b p.parentId) := by
  have hends := ends_chargerEnfantsLies (b := b) (p := p) hmax page
  unfold Conforme Ends
  unfold Ends at hends
  obtain ⟨hb, hlu, hechec⟩ := hends
  constructor
  · rintro ⟨-, hmessages, hnodup, -⟩
    by_cases hl : page.Ouvrable p ∧ FamilleLisible b p
    · exact ⟨hl.1, hl.2, (hlu hl).2.2.mp hnodup⟩
    · exact absurd hmessages (hechec hl)
  · rintro ⟨hpage, hl, hsans⟩
    obtain ⟨hmessages, hmem, hnodup⟩ := hlu ⟨hpage, hl⟩
    exact ⟨hb, hmessages, hnodup.mpr hsans, hmem⟩

/-- A family that names eleven times a student: `e1` first and last. -/
def onzeLiens : Base :=
  (["f00", "f01", "f02", "f03", "f04", "f05", "f06", "f07", "f08", "f09", "f10"].foldl
    (fun b i => b.putDoc .famille i (newDoc 0 [texte .parentId "p",
      texte .eleveId (if i = "f00" ∨ i = "f10" then "e1" else "e2")])) baseVide).putDoc .eleves "e1"
        (newDoc 0 [texte .utilisateurId "u1", texte .classeId "c"])

theorem enfants_conforme_iff_onzeLiens :
    Conforme (Server.longest 10) onzeLiens .liste ⟨"p", "e", true, [], [], []⟩ ↔
      PageEnfants.liste.Ouvrable ⟨"p", "e", true, [], [], []⟩ ∧
        FamilleLisible onzeLiens ⟨"p", "e", true, [], [], []⟩ ∧
          SansReprise onzeLiens .eleves (eleveIdsLies onzeLiens "p") :=
  enfants_conforme_iff (Server.longest 10) (by decide) onzeLiens .liste ⟨"p", "e", true, [], [], []⟩

/-- The student named first and last is listed twice. -/
theorem not_conforme_onzeLiens :
    ¬Conforme (Server.longest 10) onzeLiens .liste ⟨"p", "e", true, [], [], []⟩ := by
  rintro ⟨-, -, hnodup, -⟩
  have hlistes : (ListeEnfantsPage.chargerEnfantsLies.exec (Server.longest 10).handler
      ⟨"p", "e", true, [], [], []⟩ onzeLiens).2.1.listes = ["e1", "e1"] := by
    decide +kernel
  have hnodup' : ["e1", "e1"].Nodup := hlistes ▸ hnodup
  exact absurd hnodup' (by decide)

end Pages

end EduConnect.Familles
