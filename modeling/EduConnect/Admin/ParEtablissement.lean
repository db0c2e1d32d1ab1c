import EduConnect.Lib.Stored
import EduConnect.Lib.Tranches
import EduConnect.Lignes
import EduConnect.Admin.Comptes

/-!
# Lookups by establishment

`DepotEnseignant.getParEtablissement` and `ListeEleves` look up the users of an establishment, then the
documents that refer to them, ten users at a time.
-/

namespace EduConnect.Admin

open Lib Prog Donnees

/-- `donnees/modeles/EnseignantModele.dart`. -/
structure EnseignantModele where
  id : String
  utilisateurId : String

def EnseignantModele.fromMap (map : Document) (id : String) : Except Err EnseignantModele := do
  return { id := id, utilisateurId := ← (map.get .utilisateurId).orStr "" }

namespace DepotEnseignant

variable {σ : Type}

def getParEtablissement (etablissementId : String) : Action Etape σ (List EnseignantModele) := do
  let utilisateursSnap ← chercher .autre .utilisateurs
    [.isEqualTo .etablissementId (.str etablissementId)]
  let uIds := utilisateursSnap.map Prod.fst
  if uIds = [] then ret []
  else parTranches horsBornes 10 uIds (fun batch => chargerModeles .autre .enseignants
    [.whereIn .utilisateurId batch] EnseignantModele.fromMap) (debuts 10 uIds.length)

end DepotEnseignant

namespace ListeEleves

/-- One turn of the loop of `_chargerDonnees`. -/
def chargerLot (batchIds : List String) : Action Etape ListeEleves (List EleveModele) := do
  let p ← page
  chargerModeles .autre .eleves (requeteEleves p.selectedClasseId batchIds) EleveModele.fromMap

/-- The loop, slice by slice. -/
def chargerTranches (userIds : List String) : Action Etape ListeEleves (List EleveModele) :=
  parTranches horsBornes 10 userIds chargerLot (debuts 10 userIds.length)

theorem chargerLots_eq (lots : List (List String)) : chargerLots lots = parLots chargerLot lots := by
  induction lots with
  | nil => rfl
  | cons batchIds lots ih =>
    unfold chargerLots parLots
    rw [ih]
    simp only [bind_eq, chargerLot, chargerModeles, bind_assoc]

/-- The loop over the batches is the loop over the slices. -/
theorem chargerLots_toChunks (userIds : List String) :
    chargerLots (userIds.toChunks 10) = chargerTranches userIds := by
  rw [toChunks_eq_lots (by decide), chargerLots_eq, chargerTranches, parTranches_debuts _ (by decide)]

end ListeEleves

/-! ## What the lookups find -/

section Recherches

variable {S : Server} {b : Base} {E : String} {c : Option String}

/-- `u` is a user of the establishment `E`. -/
def UtilisateurDe (b : Base) (E u : String) : Prop :=
  ∃ d, b.doc .utilisateurs u = some d ∧ d .etablissementId = some (.str E)

/-- The teacher `m` is stored, and refers to a user of `E`. -/
def EnseignantDe (b : Base) (E : String) (m : EnseignantModele) : Prop :=
  UtilisateurDe b E m.utilisateurId ∧ ∃ d, b.doc .enseignants m.id = some d ∧
    d .utilisateurId = some (.str m.utilisateurId)

/-- The class is the selected one, if one is selected. -/
def DeLaClasse (c : Option String) (d : Document) : Prop :=
  ∀ classeId, c = some classeId → classeId ≠ "" → d .classeId = some (.str classeId)

/-- The document of a student of `E`, in the selected class. -/
def DocumentDEleve (b : Base) (E : String) (c : Option String) (id : String) (d : Document) : Prop :=
  b.doc .eleves id = some d ∧ DeLaClasse c d ∧
    ∃ u, d .utilisateurId = some (.str u) ∧ UtilisateurDe b E u

/-- The list has one element for each `m` with `P m`, and ids are not repeated. -/
def Exactement {α : Type} (id : α → String) (P : α → Prop) (l : List α) : Prop :=
  (l.map id).Nodup ∧ ∀ m, m ∈ l ↔ P m

/-- The documents the page of the students reads have the types of their models. -/
structure Lisibles (b : Base) (E : String) (c : Option String) : Prop where
  classes : ∀ id d, b.doc .classes id = some d → d .etablissementId = some (.str E) →
    ∃ m, Donnees.ClasseModele.fromMap d id = .ok m
  utilisateurs : ∀ id d, b.doc .utilisateurs id = some d → d .etablissementId = some (.str E) →
    ∃ m, Donnees.UtilisateurModele.fromMap d id = .ok m
  eleves : ∀ id d, DocumentDEleve b E c id d → ∃ m, Donnees.EleveModele.fromMap d id = .ok m

/-- A query with a list of values has between one and ten of them. -/
def Bornee : Requete → Prop
  | .query _ q => ∀ ids, (∃ f, Filter.whereIn f ids ∈ q.filters) ∨ Filter.idIn ids ∈ q.filters →
      1 ≤ ids.length ∧ ids.length ≤ 10
  | _ => True

theorem bornee_whereIn {lot : List String} (h : lot ≠ [] ∧ lot.length ≤ 10) (c : Collection)
    (f : Champ) {fs : List (Lib.Filter Champ)} (hfs : ∀ x ∈ fs, ∃ g v, x = .isEqualTo g v) :
    Bornee (.query c ⟨.whereIn f lot :: fs, none, none⟩) := by
  have hlot : 1 ≤ lot.length ∧ lot.length ≤ 10 := ⟨List.length_pos_iff.mpr h.1, h.2⟩
  rintro ids (⟨g, hmem⟩ | hmem)
  · rcases List.mem_cons.mp hmem with heq | hmem
    · cases heq
      exact hlot
    · obtain ⟨_, _, heq⟩ := hfs _ hmem
      exact nomatch heq
  · rcases List.mem_cons.mp hmem with heq | hmem
    · exact nomatch heq
    · obtain ⟨_, _, heq⟩ := hfs _ hmem
      exact nomatch heq

theorem bornee_isEqualTo (c : Collection) (f : Champ) (v : Value.Scalar) :
    Bornee (.query c ⟨[.isEqualTo f v], none, none⟩) := by
  rintro ids (⟨g, hmem⟩ | hmem)
  · exact nomatch List.mem_singleton.mp hmem
  · exact nomatch List.mem_singleton.mp hmem

/-- The ids of the users of `E`. -/
theorem ids_utilisateurs (b : Base) (E : String) :
    (((⟨[.isEqualTo .etablissementId (.str E)], none, none⟩ : Query Champ).run
      (b.docs .utilisateurs)).map Prod.fst).Nodup ∧
    ∀ u, u ∈ ((⟨[.isEqualTo .etablissementId (.str E)], none, none⟩ : Query Champ).run
      (b.docs .utilisateurs)).map Prod.fst ↔ UtilisateurDe b E u := by
  refine ⟨Query.keys_run_nodup _ _, fun u => ?_⟩
  rw [List.mem_map]
  constructor
  · rintro ⟨⟨u', d⟩, hmem, rfl⟩
    exact ⟨d, Query.mem_run_isEqualTo.mp hmem⟩
  · rintro ⟨d, hd⟩
    exact ⟨(u, d), Query.mem_run_isEqualTo.mpr hd, rfl⟩

/-- A batch is accepted by the database. -/
theorem acceptee_whereIn (hmax : 10 ≤ S.maxIn) {ids lot : List String} (h : lot ∈ lots 10 ids)
    (f : Champ) {fs : List (Lib.Filter Champ)} (hfs : ∀ x ∈ fs, ∃ g v, x = .isEqualTo g v) :
    (Filter.whereIn f lot :: fs).any (Filter.refused S.maxIn) = false := by
  obtain ⟨hne, hle⟩ := length_of_mem_lots (by decide) h
  rw [List.any_eq_false]
  intro x hx
  rcases List.mem_cons.mp hx with rfl | hx
  · have hlt : ¬S.maxIn < lot.length := by omega
    simp [Filter.refused, hne, hlt]
  · obtain ⟨g, v, rfl⟩ := hfs x hx
    exact Bool.false_ne_true

/-! ### The teachers -/

theorem enseignant_fromMap {d : Document} {id u : String} (h : d .utilisateurId = some (.str u)) :
    EnseignantModele.fromMap d id = .ok ⟨id, u⟩ := by
  unfold EnseignantModele.fromMap Doc.get
  rw [h]
  rfl

theorem enseignant_id (d : Document) (id : String) (m : EnseignantModele)
    (h : EnseignantModele.fromMap d id = .ok m) : m.id = id := by
  obtain ⟨u, -, h⟩ := bind_eq_ok_iff.mp h
  obtain rfl := Except.ok.inj h
  rfl

/-- Every teacher of the establishment is found, once. -/
theorem exec_getParEtablissement (hmax : 10 ≤ S.maxIn) {σ : Type} (s : σ) :
    ∃ l, (DepotEnseignant.getParEtablissement E : Action Etape σ _).exec S.handler s b =
      (.ok l, s, b) ∧ Exactement EnseignantModele.id (EnseignantDe b E) l := by
  obtain ⟨hnodup, hids⟩ := ids_utilisateurs b E
  set ids := ((⟨[.isEqualTo .etablissementId (.str E)], none, none⟩ : Query Champ).run
    (b.docs .utilisateurs)).map Prod.fst with hdef
  have sansFiltre : ∀ x ∈ ([] : List (Lib.Filter Champ)), ∃ g v, x = Filter.isEqualTo g v :=
    fun x hx => absurd hx List.not_mem_nil
  unfold DepotEnseignant.getParEtablissement
  simp only [bind_eq, exec_bind]
  rw [exec_chercher rfl]
  dsimp only
  rw [← hdef, parTranches_debuts _ (by decide)]
  by_cases hvide : ids = []
  · rw [if_pos hvide]
    refine ⟨[], rfl, List.nodup_nil, fun m => iff_of_false List.not_mem_nil ?_⟩
    rintro ⟨hu, -⟩
    rw [← hids, hvide] at hu
    exact nomatch hu
  rw [if_neg hvide, exec_parLots fun lot hlot =>
    exec_chargerModeles (acceptee_whereIn hmax hlot .utilisateurId sansFiltre), mapM_mapM_flatten]
  have hperm := Query.run_whereIn_lots (k := 10) (by decide) hnodup .utilisateurId []
    (b.docs .enseignants)
  have hok : ∀ doc ∈ (lots 10 ids).flatMap fun lot =>
      (⟨[.whereIn .utilisateurId lot], none, none⟩ : Query Champ).run (b.docs .enseignants),
      ∃ m, EnseignantModele.fromMap doc.2 doc.1 = .ok m ∧ True := by
    intro doc hdoc
    obtain ⟨-, hsat⟩ := Query.mem_run.mp (hperm.mem_iff.mp hdoc)
    obtain ⟨u, -, hu⟩ := Filter.sat_whereIn.mp (hsat _ List.mem_cons_self)
    exact ⟨_, enseignant_fromMap hu, trivial⟩
  obtain ⟨l, hl, -⟩ := exists_mapM_of_forall hok
  obtain ⟨hl_nodup, hl_mem⟩ := modeles_exacts enseignant_id hperm hl
  refine ⟨l, by rw [hl], hl_nodup, fun m => ?_⟩
  rw [hl_mem]
  constructor
  · rintro ⟨d, hd, hsat, hm⟩
    obtain ⟨u, hu, hdu⟩ := Filter.sat_whereIn.mp (hsat _ List.mem_cons_self)
    rw [enseignant_fromMap hdu] at hm
    have hmu : u = m.utilisateurId := congrArg EnseignantModele.utilisateurId (Except.ok.inj hm)
    exact ⟨(hids _).mp (hmu ▸ hu), d, hd, hmu ▸ hdu⟩
  · rintro ⟨hu, d, hd, hdu⟩
    refine ⟨d, hd, fun x hx => ?_, enseignant_fromMap hdu⟩
    obtain rfl := List.mem_singleton.mp hx
    exact Filter.sat_whereIn.mpr ⟨_, (hids _).mpr hu, hdu⟩

/-! ### The students -/

/-- The model of a student of `E`, in the selected class. -/
def EleveDe (b : Base) (E : String) (c : Option String) (m : EleveModele) : Prop :=
  ∃ d, DocumentDEleve b E c m.id d ∧ EleveModele.fromMap d m.id = .ok m

/-- The filter of the selected class. -/
def filtreClasse (c : Option String) : List (Lib.Filter Champ) :=
  match c with
  | some c => if c = "" then [] else [.isEqualTo .classeId (.str c)]
  | none => []

theorem filtreClasse_isEqualTo : ∀ x ∈ filtreClasse c, ∃ g v, x = Filter.isEqualTo g v := by
  intro x hx
  unfold filtreClasse at hx
  split at hx
  · split_ifs at hx with hc
    · exact absurd hx List.not_mem_nil
    · exact ⟨_, _, List.mem_singleton.mp hx⟩
  · exact absurd hx List.not_mem_nil

theorem sat_filtreClasse {id : String} {d : Document} :
    (∀ x ∈ filtreClasse c, x.sat id d = true) ↔ DeLaClasse c d := by
  unfold filtreClasse DeLaClasse
  rcases c with _ | classeId
  · exact iff_of_true (fun x hx => absurd hx List.not_mem_nil) nofun
  by_cases hvide : classeId = ""
  · simp [hvide]
  · simp [hvide, Filter.sat_isEqualTo_str]

/-- What the batches find are the documents of the students. -/
theorem mem_eleves {ids : List String} (hids : ∀ u, u ∈ ids ↔ UtilisateurDe b E u) {id : String}
    {d : Document} : (id, d) ∈ (⟨.whereIn .utilisateurId ids :: filtreClasse c, none, none⟩ :
      Query Champ).run (b.docs .eleves) ↔ DocumentDEleve b E c id d := by
  rw [Query.mem_run, List.forall_mem_cons, Filter.sat_whereIn, sat_filtreClasse]
  constructor
  · rintro ⟨hd, ⟨u, hu, hdu⟩, hclasse⟩
    exact ⟨hd, hclasse, u, hdu, (hids u).mp hu⟩
  · rintro ⟨hd, hclasse, u, hdu, hu⟩
    exact ⟨hd, ⟨u, (hids u).mpr hu, hdu⟩, hclasse⟩

/-- The batches of students: their models, unless a document cannot be decoded. -/
theorem exec_chargerTranches (hmax : 10 ≤ S.maxIn) {ids : List String} (hnodup : ids.Nodup)
    (hids : ∀ u, u ∈ ids ↔ UtilisateurDe b E u) (p : ListeEleves) :
    ∃ r, (ListeEleves.chargerTranches ids).exec S.handler p b = (r, p, b) ∧
      (∀ l, r = .ok l → Exactement EleveModele.id (EleveDe b E p.selectedClasseId) l) ∧
      ((∃ l, r = .ok l) ↔
        ∀ id d, DocumentDEleve b E p.selectedClasseId id d → ∃ m, EleveModele.fromMap d id = .ok m) := by
  have hexec : ∀ lot ∈ lots 10 ids, (ListeEleves.chargerLot lot).exec S.handler p b =
        (((⟨.whereIn .utilisateurId lot :: filtreClasse p.selectedClasseId, none, none⟩ :
          Query Champ).run (b.docs .eleves)).mapM fun doc => EleveModele.fromMap doc.2 doc.1, p, b) :=
    fun lot hlot => exec_chargerModeles (l := Etape.autre)
      (acceptee_whereIn hmax hlot _ filtreClasse_isEqualTo)
  have hperm := Query.run_whereIn_lots (k := 10) (by decide) hnodup .utilisateurId
    (filtreClasse p.selectedClasseId) (b.docs .eleves)
  set rows : List (String × Document) := (lots 10 ids).flatMap fun lot =>
    (⟨.whereIn .utilisateurId lot :: filtreClasse p.selectedClasseId, none, none⟩ :
      Query Champ).run (b.docs .eleves) with hrows
  refine ⟨rows.mapM fun doc => EleveModele.fromMap doc.2 doc.1, ?_, fun l hl => ?_, ?_⟩
  · unfold ListeEleves.chargerTranches
    rw [parTranches_debuts _ (by decide), hrows, ← mapM_mapM_flatten]
    exact exec_parLots hexec
  · have hid : ∀ d i m, EleveModele.fromMap d i = .ok m → m.id = i :=
      fun _ _ _ => EleveModele.id_of_fromMap
    obtain ⟨hnd, hmem⟩ := modeles_exacts hid hperm hl
    refine ⟨hnd, fun m => ?_⟩
    rw [hmem]
    refine exists_congr fun d => ?_
    rw [← mem_eleves hids, Query.mem_run]
    exact and_assoc.symm
  · rw [exists_mapM_iff]
    constructor
    · intro h id d hd
      exact h (id, d) (hperm.mem_iff.mpr ((mem_eleves hids).mpr hd))
    · rintro h ⟨id, d⟩ hdoc
      exact h id d ((mem_eleves hids).mp (hperm.mem_iff.mp hdoc))

/-- What a load leaves on the page: every student of the establishment, once; or an error, when a
document cannot be decoded. -/
structure Chargee (b : Base) (p p' : ListeEleves) : Prop where
  lue : Lisibles b p.etablissementId p.selectedClasseId → p'.error = none ∧
    Exactement EleveModele.id (EleveDe b p.etablissementId p.selectedClasseId) p'.eleves
  illisible : ¬Lisibles b p.etablissementId p.selectedClasseId →
    p'.error.isSome ∧ p'.eleves = p.eleves

theorem chargee_echec {p p' : ListeEleves} (h : ¬Lisibles b p.etablissementId p.selectedClasseId)
    (herror : p'.error.isSome) (heleves : p'.eleves = p.eleves) : Chargee b p p' :=
  ⟨fun h' => absurd h' h, fun _ => ⟨herror, heleves⟩⟩

/-- The users by id: the ids are those of the rows. -/
theorem map_fst_utilisateurs {rows : List (String × Document)}
    {us : List (String × UtilisateurModele)} (h : (rows.mapM fun doc => do
      return (doc.1, ← UtilisateurModele.fromMap doc.2 doc.1)) = Except.ok us) :
    us.map Prod.fst = rows.map Prod.fst := by
  have hid : ∀ d id u, (do return (id, ← UtilisateurModele.fromMap d id) :
      Except Err (String × UtilisateurModele)) = .ok u → u.1 = id := by
    intro d id u hu
    obtain ⟨m, -, hm⟩ := bind_eq_ok_iff.mp hu
    obtain rfl : (id, m) = u := Except.ok.inj hm
    rfl
  exact map_id_of_mapM hid h

theorem ends_chargerDonnees (hmax : 10 ≤ S.maxIn) (p : ListeEleves) :
    ListeEleves.chargerDonnees.Ends S.handler (fun _ p' b' => b' = b ∧ Chargee b p p') p b := by
  simp only [ListeEleves.chargerDonnees, bind_eq]
  refine ends_catching.mpr (ends_setState_bind.mpr (ends_page_bind.mpr ?_))
  refine ends_chercher_bind (fun _ => ends_bind.mpr ((ends_ofExcept _).mpr ?_)) nofun
  rcases hclasses : List.mapM (fun doc : String × Document => Donnees.ClasseModele.fromMap doc.2
    doc.1) ((⟨[.isEqualTo .etablissementId (.str p.etablissementId)], none, none⟩ :
      Query Champ).run (b.docs .classes)) with e | classes
  · refine ⟨rfl, chargee_echec (fun h => ?_) rfl rfl⟩
    obtain ⟨l, hl⟩ := exists_mapM_isEqualTo (g := fun doc => Donnees.ClasseModele.fromMap doc.2
      doc.1) |>.mpr h.classes
    exact nomatch hclasses.symm.trans hl
  have hc := exists_mapM_isEqualTo.mp ⟨classes, hclasses⟩
  refine ends_setState_bind.mpr (ends_chercher_bind (fun _ => ends_bind.mpr
    ((ends_ofExcept _).mpr ?_)) nofun)
  dsimp only
  rcases husers : List.mapM (fun doc : String × Document => (do
    return (doc.1, ← UtilisateurModele.fromMap doc.2 doc.1) : Except Err _))
      ((⟨[.isEqualTo .etablissementId (.str p.etablissementId)], none, none⟩ : Query Champ).run
        (b.docs .utilisateurs)) with e | users
  · refine ⟨rfl, chargee_echec (fun h => ?_) rfl rfl⟩
    obtain ⟨l, hl⟩ := exists_mapM_isEqualTo (g := fun doc => do
      return (doc.1, ← UtilisateurModele.fromMap doc.2 doc.1)) |>.mpr fun id d hd hE => by
        obtain ⟨m, hm⟩ := h.utilisateurs id d hd hE
        exact ⟨(id, m), bind_eq_ok_iff.mpr ⟨m, hm, rfl⟩⟩
    exact nomatch husers.symm.trans hl
  have hu : ∀ id d, b.doc .utilisateurs id = some d →
      d .etablissementId = some (.str p.etablissementId) →
        ∃ m, UtilisateurModele.fromMap d id = .ok m := by
    intro id d hd hE
    obtain ⟨m, hm⟩ := exists_mapM_isEqualTo.mp ⟨users, husers⟩ id d hd hE
    obtain ⟨m', hm', -⟩ := bind_eq_ok_iff.mp hm
    exact ⟨m', hm'⟩
  obtain ⟨hnodup, hids⟩ := ids_utilisateurs b p.etablissementId
  rw [← map_fst_utilisateurs husers] at hnodup hids
  refine ends_setState_bind.mpr ?_
  rw [ListeEleves.chargerLots_toChunks]
  obtain ⟨r, hexec, hexact, hlisible⟩ := exec_chargerTranches hmax hnodup hids
    { p with isLoading := true, error := none, classes := classes, utilisateursMap := users }
  refine ends_bind.mpr ?_
  unfold Ends
  rw [hexec]
  rcases r with e | l
  · refine ⟨rfl, chargee_echec (fun h => ?_) rfl rfl⟩
    obtain ⟨l, hl⟩ := hlisible.mpr h.eleves
    exact nomatch hl
  · refine ⟨rfl, fun _ => ⟨rfl, hexact l rfl⟩, fun h => absurd ?_ h⟩
    exact ⟨hc, hu, hlisible.mp ⟨l, rfl⟩⟩

/-! ### The queries -/

theorem issues_getParEtablissement {σ : Type} :
    (DepotEnseignant.getParEtablissement E : Action Etape σ _).Issues fun _ r => Bornee r := by
  refine .bind ((issues_chercher ..).mpr (bornee_isEqualTo _ _ _)) fun snap => .ite trivial ?_
  rw [parTranches_debuts _ (by decide)]
  refine issues_parLots fun lot hlot => issues_chargerModeles ?_
  exact bornee_whereIn (length_of_mem_lots (by decide) hlot) _ _ fun x hx =>
    absurd hx List.not_mem_nil

theorem issues_chargerDonnees :
    ListeEleves.chargerDonnees.Issues fun _ r => Bornee r := by
  refine .catching ?_ fun _ => trivial
  refine .bind trivial fun _ => .bind (fun _ => trivial) fun p => ?_
  refine .bind ((issues_chercher ..).mpr (bornee_isEqualTo _ _ _)) fun classesSnap => ?_
  refine .bind (issues_ofExcept _) fun classes => .bind trivial fun _ => ?_
  refine .bind ((issues_chercher ..).mpr (bornee_isEqualTo _ _ _)) fun usersSnap => ?_
  refine .bind (issues_ofExcept _) fun utilisateurs => .bind trivial fun _ => ?_
  refine .bind ?_ fun _ => trivial
  rw [ListeEleves.chargerLots_toChunks, ListeEleves.chargerTranches,
    parTranches_debuts _ (by decide)]
  refine issues_parLots fun lot hlot => .bind (fun _ => trivial) fun p => ?_
  exact issues_chargerModeles (bornee_whereIn (length_of_mem_lots (by decide) hlot) _ _
    filtreClasse_isEqualTo)

/-- **Lookups in batches.**  Both lookups find what one query would: every teacher, every student of the
establishment, once; their queries have one to ten values, and their slices are in range. -/
theorem recherches_parTranches (S : Server) (hmax : 10 ≤ S.maxIn) (b : Base) :
    (∀ E, (DepotEnseignant.getParEtablissement E : Action Etape Unit _).Ends S.handler
      (fun a _ b' => b' = b ∧ ∃ l, a = .ok l ∧ Exactement EnseignantModele.id (EnseignantDe b E) l) ()
      b) ∧
    (∀ p : ListeEleves, ListeEleves.chargerDonnees.Ends S.handler
      (fun _ p' b' => b' = b ∧ Chargee b p p') p b) ∧
    (∀ ids, ListeEleves.chargerLots (ids.toChunks 10) = ListeEleves.chargerTranches ids) ∧
    (∀ E, (DepotEnseignant.getParEtablissement E : Action Etape Unit _).Issues fun _ r => Bornee r) ∧
    (ListeEleves.chargerDonnees.Issues fun _ r => Bornee r) ∧
    ∀ (ids : List String), ∀ i ∈ debuts 10 ids.length,
      (sublist ids i (finTranche 10 ids.length i)).isSome := by
  refine ⟨fun E => ?_, ends_chargerDonnees hmax, ListeEleves.chargerLots_toChunks,
    fun E => issues_getParEtablissement, issues_chargerDonnees, fun ids i hi => ?_⟩
  · obtain ⟨l, hexec, hl⟩ := exec_getParEtablissement (b := b) (E := E) hmax ()
    unfold Ends
    rw [hexec]
    exact ⟨rfl, l, rfl, hl⟩
  · rw [sublist_finTranche 10 ((mem_debuts (by decide)).mp hi).1]
    rfl

end Recherches

/-! ### A school of thirteen -/

/-- The student `id` of the school `e1`, in the class `c1`. -/
def inscrire (b : Base) (id : String) : Base :=
  (b.putDoc .utilisateurs id (newDoc 0 [texte .nom "Abena", texte .etablissementId "e1"])).putDoc
    .eleves id (newDoc 0 [texte .utilisateurId id, texte .classeId "c1"])

/-- A teacher and twelve students. -/
def ecoleDeTreize : Base :=
  ["u1", "u2", "u3", "u4", "u5", "u6", "u7", "u8", "u9", "u10", "u11", "u12"].foldl inscrire
    ((baseVide.putDoc .utilisateurs "u0"
      (newDoc 0 [texte .nom "Mbarga", texte .etablissementId "e1"])).putDoc .enseignants "t1"
        (newDoc 0 (lienUtilisateur "u0")))

/-- All documents that the page could read can be decoded. -/
structure Decodables (b : Base) : Prop where
  classes : Stored .classes (fun id d => ∃ m, Donnees.ClasseModele.fromMap d id = .ok m) b
  utilisateurs : Stored .utilisateurs (fun id d => ∃ m, UtilisateurModele.fromMap d id = .ok m) b
  eleves : Stored .eleves (fun id d => ∃ m, EleveModele.fromMap d id = .ok m) b

theorem Decodables.lisibles {b : Base} (h : Decodables b) (E : String) (c : Option String) :
    Lisibles b E c :=
  ⟨fun id d hd _ => h.classes id d hd, fun id d hd _ => h.utilisateurs id d hd,
    fun id d hd => h.eleves id d hd.1⟩

theorem Decodables.inscrire {b : Base} (h : Decodables b) (id : String) :
    Decodables (inscrire b id) := by
  refine ⟨(h.classes.putDoc ?_).putDoc ?_, (h.utilisateurs.putDoc ?_).putDoc ?_,
    (h.eleves.putDoc ?_).putDoc ?_⟩
  all_goals exact fun _ => ⟨_, rfl⟩

theorem decodables_ecoleDeTreize : Decodables ecoleDeTreize := by
  have hfoldl : ∀ (ids : List String) (b : Base), Decodables b →
      Decodables (ids.foldl inscrire b) := by
    intro ids
    induction ids with
    | nil => exact fun b h => h
    | cons id ids ih => exact fun b h => ih _ (h.inscrire id)
  have hvide : ∀ {c : Collection} {P : String → Document → Prop}, Stored c P baseVide :=
    fun id d hd => by cases hd
  refine hfoldl _ _ ⟨(hvide.putDoc ?_).putDoc ?_, (hvide.putDoc ?_).putDoc ?_,
    (hvide.putDoc ?_).putDoc ?_⟩
  all_goals exact fun _ => ⟨_, rfl⟩

/-- The users make two slices. -/
theorem recherches_parTranches_ecoleDeTreize :
    debuts 10 (ecoleDeTreize.docs .utilisateurs).rows.length = [0, 10] ∧
    (DepotEnseignant.getParEtablissement "e1" : Action Etape Unit _).Ends
      (Server.longest 10).handler (fun a _ b' => b' = ecoleDeTreize ∧ ∃ l, a = .ok l ∧
        Exactement EnseignantModele.id (EnseignantDe ecoleDeTreize "e1") l) () ecoleDeTreize ∧
    ListeEleves.chargerDonnees.Ends (Server.longest 10).handler
      (fun _ p' b' => b' = ecoleDeTreize ∧ p'.error = none ∧
        Exactement EleveModele.id (EleveDe ecoleDeTreize "e1" none) p'.eleves)
      { etablissementId := "e1" } ecoleDeTreize := by
  have h := recherches_parTranches (Server.longest 10) (by decide) ecoleDeTreize
  refine ⟨by decide +kernel, h.1 "e1", (h.2.1 { etablissementId := "e1" }).mono fun r p' b' hp => ?_⟩
  exact ⟨hp.1, hp.2.lue (decodables_ecoleDeTreize.lisibles _ _)⟩

end EduConnect.Admin
