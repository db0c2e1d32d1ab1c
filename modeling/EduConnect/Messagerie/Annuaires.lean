import EduConnect.Messagerie.Compteurs
import Mathlib.Data.List.ReduceOption

/-!
# Whom a messaging list offers

The messaging lists join several collections by queries on lists of ids, which the database refuses
on no id and on more than `maxIn` ids.  A list offers everybody of the school exactly when the ids
it asks for can be asked for and the documents it reads can be decoded (`Chargeable`).
-/

namespace EduConnect.Messagerie

open Lib Prog Donnees

/-! ## The persons of a school -/

/-- The account `u` is one of the establishment. -/
def DansEcole (b : Base) (etablissementId u : String) : Prop :=
  ∃ d, b.doc .utilisateurs u = some d ∧ d .etablissementId = some (.str etablissementId)

instance (b : Base) (etablissementId u : String) : Decidable (DansEcole b etablissementId u) :=
  decidable_of_iff ((b.doc .utilisateurs u).any fun d =>
    (d.get .etablissementId).isStr etablissementId) <| by
    rw [Option.any_eq_true]
    exact exists_congr fun d => and_congr_right fun _ => Doc.isStr_get_iff

/-- The documents of `c` whose account is one of the establishment. -/
def fichesDe (b : Base) (etablissementId : String) (c : Collection) : List (String × Document) :=
  (tous b c).filter fun doc => DansEcole b etablissementId (chaine doc.2 .utilisateurId)

/-- Their ids. -/
def idsDe (b : Base) (etablissementId : String) (c : Collection) : List String :=
  (fichesDe b etablissementId c).map Prod.fst

/-- The accounts named in a collection, of whatever establishment. -/
def comptes (b : Base) (c : Collection) : List String :=
  (tous b c).map fun doc => chaine doc.2 .utilisateurId

variable {b : Base} {etablissementId : String}

theorem mem_fichesDe {c : Collection} {id : String} {d : Document} :
    (id, d) ∈ fichesDe b etablissementId c ↔
      b.doc c id = some d ∧ DansEcole b etablissementId (chaine d .utilisateurId) := by
  rw [fichesDe, List.mem_filter, mem_tous, decide_eq_true_iff]

/-- What a list makes of the persons of a school, when all have an account. -/
theorem mem_map_fichesDe {α : Type} {c : Collection} {personne : String → String → α}
    (hinj : ∀ {id u id' u'}, personne id u = personne id' u' → id = id' ∧ u = u')
    (hcomptes : ∀ id d, b.doc c id = some d → ∃ u, d .utilisateurId = some (.str u))
    {id u : String} :
    personne id u ∈ (fichesDe b etablissementId c).map
        (fun doc => personne doc.1 (chaine doc.2 .utilisateurId)) ↔
      ∃ d, b.doc c id = some d ∧ d .utilisateurId = some (.str u) ∧
        DansEcole b etablissementId u := by
  rw [List.mem_map]
  constructor
  · rintro ⟨⟨id', d⟩, hdoc, heq⟩
    obtain ⟨rfl, rfl⟩ := hinj heq
    obtain ⟨hd, hecole⟩ := mem_fichesDe.mp hdoc
    obtain ⟨u, hu⟩ := hcomptes id' d hd
    rw [chaine_of_str hu] at hecole ⊢
    exact ⟨d, hd, hu, hecole⟩
  · rintro ⟨d, hd, hu, hecole⟩
    refine ⟨(id, d), mem_fichesDe.mpr ⟨hd, ?_⟩, ?_⟩
    · rwa [chaine_of_str hu]
    · rw [chaine_of_str hu]

theorem nodup_idsDe (c : Collection) : (idsDe b etablissementId c).Nodup :=
  (Query.keys_run_nodup [] (b.docs c)).sublist (List.filter_sublist.map Prod.fst)

/-! ## Accounts -/

/-- The accounts of `ids` in the establishment. -/
def comptesDe (b : Base) (etablissementId : String) (ids : List String) :
    List (String × Document) :=
  (⟨[.idIn ids, .isEqualTo .etablissementId (.str etablissementId)], none, none⟩ :
    Query Champ).run (b.docs .utilisateurs)

theorem mem_comptesDe {ids : List String} {u : String} {d : Document} :
    (u, d) ∈ comptesDe b etablissementId ids ↔ b.doc .utilisateurs u = some d ∧ u ∈ ids ∧
      d .etablissementId = some (.str etablissementId) := by
  rw [comptesDe, Query.mem_run]
  refine and_congr_right fun _ => ?_
  rw [List.forall_mem_cons, List.forall_mem_singleton, Filter.sat_idIn, Filter.sat_isEqualTo_str]

/-- Decoding an account keeps its id and names. -/
theorem utilisateur_of_fromMap {d : Document} {id : String} {u : UtilisateurModele}
    (h : UtilisateurModele.fromMap d id = .ok u) :
    u.id = id ∧ u.nom = chaine d .nom ∧ u.prenom = chaine d .prenom := by
  unfold UtilisateurModele.fromMap at h
  obtain ⟨nom, hnom, h⟩ := bind_eq_ok_iff.mp h
  obtain ⟨prenom, hprenom, h⟩ := bind_eq_ok_iff.mp h
  iterate 8 obtain ⟨_, _, h⟩ := bind_eq_ok_iff.mp h
  obtain rfl := Except.ok.inj h
  exact ⟨rfl, (chaine_of_orStr hnom).symm, (chaine_of_orStr hprenom).symm⟩

/-- The accounts of `ids` decoded. -/
def Utilisateurs (b : Base) (etablissementId : String) (ids : List String)
    (us : List UtilisateurModele) : Prop :=
  (comptesDe b etablissementId ids).mapM (fun doc => UtilisateurModele.fromMap doc.2 doc.1) =
    Except.ok us

/-- The accounts of `ids` in the establishment can be decoded. -/
def ComptesLisibles (b : Base) (etablissementId : String) (ids : List String) : Prop :=
  ∀ u ∈ ids, ∀ d, b.doc .utilisateurs u = some d →
    d .etablissementId = some (.str etablissementId) → ∃ m, UtilisateurModele.fromMap d u = .ok m

theorem comptesLisibles_eraseDups {ids : List String} :
    ComptesLisibles b etablissementId ids.eraseDups ↔ ComptesLisibles b etablissementId ids :=
  forall_congr' fun _ => imp_congr_left List.mem_eraseDups

theorem exists_utilisateurs_iff {ids : List String} :
    (∃ us, Utilisateurs b etablissementId ids us) ↔ ComptesLisibles b etablissementId ids := by
  unfold Utilisateurs
  rw [exists_mapM_iff]
  constructor
  · exact fun h u hu d hd hecole => h (u, d) (mem_comptesDe.mpr ⟨hd, hu, hecole⟩)
  · rintro h ⟨u, d⟩ hdoc
    obtain ⟨hd, hu, hecole⟩ := mem_comptesDe.mp hdoc
    exact h u hu d hd hecole

theorem Utilisateurs.nodup {ids : List String} {us : List UtilisateurModele}
    (hus : Utilisateurs b etablissementId ids us) : (us.map UtilisateurModele.id).Nodup := by
  rw [map_key_of_mapM (fun _ _ h => (utilisateur_of_fromMap h).1) hus]
  exact Query.keys_run_nodup _ _

/-- The accounts found are those of the establishment. -/
theorem Utilisateurs.mem_iff {ids : List String} {us : List UtilisateurModele}
    (hus : Utilisateurs b etablissementId ids us) {u : String} (hu : u ∈ ids) :
    u ∈ us.map UtilisateurModele.id ↔ DansEcole b etablissementId u := by
  rw [List.mem_map]
  constructor
  · rintro ⟨m, hm, rfl⟩
    obtain ⟨⟨id, d⟩, hdoc, hm⟩ := exists_of_mem_mapM hus hm
    obtain ⟨hd, -, hecole⟩ := mem_comptesDe.mp hdoc
    exact ⟨d, (utilisateur_of_fromMap hm).1 ▸ hd, hecole⟩
  · rintro ⟨d, hd, hecole⟩
    obtain ⟨m, hm, hdoc⟩ := exists_mem_of_mapM hus (mem_comptesDe.mpr ⟨hd, hu, hecole⟩)
    exact ⟨m, hm, (utilisateur_of_fromMap hdoc).1⟩

/-- The persons kept are those whose account was found. -/
theorem Utilisateurs.filter_eq {α : Type} {c : Collection} {us : List UtilisateurModele}
    (hus : Utilisateurs b etablissementId (comptes b c).eraseDups us)
    {personne : String × Document → α} {compte : α → String}
    (hp : ∀ doc, compte (personne doc) = chaine doc.2 .utilisateurId) :
    (((tous b c).map personne).filter fun x =>
      decide (compte x ∈ us.map UtilisateurModele.id)) =
      (fichesDe b etablissementId c).map personne := by
  rw [List.filter_map, fichesDe]
  refine congrArg _ (List.filter_congr fun doc hdoc => ?_)
  have hu : chaine doc.2 .utilisateurId ∈ (comptes b c).eraseDups :=
    List.mem_eraseDups.mpr (List.mem_map_of_mem hdoc)
  rw [Function.comp_apply, hp]
  exact decide_eq_decide.mpr (hus.mem_iff hu)

/-! ## The teachers offered to a parent or a student -/

namespace MessagerieFamille

/-- The teachings of these teachers. -/
abbrev enseignementsDe (b : Base) (enseignantIds : List String) : List (String × Document) :=
  (⟨[.whereIn .enseignantId enseignantIds], none, none⟩ : Query Champ).run (b.docs .enseignements)

/-- The subject ids in the teachings of these teachers. -/
def matieresEnseignees (b : Base) (enseignantIds : List String) : List String :=
  (enseignementsDe b enseignantIds).map fun doc => chaine doc.2 .matiereId

def nomMatiere (b : Base) (id : String) : String :=
  match b.doc .matieres id with
  | some d => chaineOu "Inconnu" d .nom
  | none => "Inconnu"

/-- The teachings of one teacher. -/
abbrev enseignementsDUn (b : Base) (enseignantId : String) : List (String × Document) :=
  (⟨[.isEqualTo .enseignantId (.str enseignantId)], none, none⟩ : Query Champ).run
    (b.docs .enseignements)

/-- One subject name for each teaching of the teacher. -/
def matieresDe (b : Base) (enseignantId : String) : List String :=
  (enseignementsDUn b enseignantId).map fun doc => nomMatiere b (chaine doc.2 .matiereId)

/-- The teachings of these teachers name subjects, which can be asked for and read. -/
structure MatieresLues (maxIn : ℕ) (b : Base) (enseignantIds : List String) : Prop where
  nombre : enseignantIds.length ≤ maxIn
  enseignements : ∀ i d, b.doc .enseignements i = some d → ∀ t ∈ enseignantIds,
    d .enseignantId = some (.str t) → ∃ m, m ≠ "" ∧ d .matiereId = some (.str m)
  matieres : Admise maxIn (matieresEnseignees b enseignantIds).eraseDups
  noms : ∀ m ∈ matieresEnseignees b enseignantIds, ∀ d, b.doc .matieres m = some d →
    ∃ nom, (d.get .nom).orStr "Inconnu" = .ok nom

variable {S : Server}

theorem mem_enseignementsDe {ids : List String} {i : String} {d : Document} :
    (i, d) ∈ enseignementsDe b ids ↔
      b.doc .enseignements i = some d ∧ ∃ t ∈ ids, d .enseignantId = some (.str t) := by
  rw [Query.mem_run, List.forall_mem_singleton, Filter.sat_whereIn]
  exact Iff.rfl

/-! ### The subjects named -/

/-- The subject that a teaching names. -/
def matiereLue (doc : String × Document) : Option String :=
  (doc.2.get .matiereId).optStr.toOption.join

theorem matiereLue_eq_some_iff {doc : String × Document} {m : String} :
    matiereLue doc = some m ↔ doc.2 .matiereId = some (.str m) := by
  unfold matiereLue Doc.get
  rcases doc.2 .matiereId with _ | v
  · exact iff_of_false (fun h => by cases h) fun h => by cases h
  · cases v with
    | str s =>
      constructor
      · intro h
        rw [Option.some.inj h]
      · intro h
        exact congrArg some (Value.str.inj (Option.some.inj h))
    | _ => exact iff_of_false (fun h => by cases h) fun h => by cases h

theorem chaine_of_matiereLue {doc : String × Document} {m : String} (h : matiereLue doc = some m) :
    chaine doc.2 .matiereId = m :=
  chaine_of_str (matiereLue_eq_some_iff.mp h)

/-- The ids of subjects read from the rows. -/
theorem reduceOption_matiereIds {rows : List (String × Document)} {ids : List (Option String)}
    (h : rows.mapM (fun doc => (doc.2.get .matiereId).optStr) = Except.ok ids) :
    ids.reduceOption = rows.filterMap matiereLue := by
  have hids : ids = rows.map matiereLue := by
    calc ids = (ids.map Except.ok).map fun x : Except Err (Option String) => x.toOption.join := by
          rw [List.map_map]
          exact (List.map_id ids).symm
      _ = rows.map matiereLue := by
          rw [← mapM_eq_ok_iff.mp h, List.map_map]
          rfl
  rw [hids, List.reduceOption, List.filterMap_map]
  rfl

/-- When each teaching names a subject, those are the ids that are asked for. -/
theorem MatieresLues.filterMap_eq {maxIn : ℕ} {ids : List String} (h : MatieresLues maxIn b ids) :
    (enseignementsDe b ids).filterMap matiereLue = matieresEnseignees b ids := by
  rw [matieresEnseignees, ← List.filterMap_eq_map]
  refine List.filterMap_congr ?_
  rintro ⟨i, d⟩ hdoc
  obtain ⟨hd, t, ht, henseignant⟩ := mem_enseignementsDe.mp hdoc
  obtain ⟨m, -, hm⟩ := h.enseignements i d hd t ht henseignant
  rw [matiereLue_eq_some_iff.mpr hm, Function.comp_apply, chaine_of_str hm]

theorem MatieresLues.idsAdmis {maxIn : ℕ} {ids : List String} (h : MatieresLues maxIn b ids) :
    IdsAdmis maxIn (matieresEnseignees b ids).eraseDups := by
  have hnommees : "" ∉ matieresEnseignees b ids := by
    refine vide_notMem_chaines fun doc hdoc => ?_
    obtain ⟨hd, t, ht, henseignant⟩ := mem_enseignementsDe.mp hdoc
    exact h.enseignements doc.1 doc.2 hd t ht henseignant
  exact ⟨fun hvide => hnommees (List.mem_eraseDups.mp hvide), h.matieres⟩

/-! ### Their names -/

theorem idEtNom_eq_ok {doc : String × Document} {x : String × String}
    (h : idEtNom "Inconnu" doc = .ok x) :
    x.1 = doc.1 ∧ (doc.2.get .nom).orStr "Inconnu" = .ok x.2 := by
  obtain ⟨nom, hnom, h⟩ := bind_eq_ok_iff.mp h
  obtain rfl := Except.ok.inj h
  exact ⟨rfl, hnom⟩

/-- The rows of the subjects of `ids`. -/
abbrev lignesMatieres (b : Base) (ids : List String) : List (String × Document) :=
  (⟨[.idIn ids], none, none⟩ : Query Champ).run (b.docs .matieres)

theorem exists_noms_iff {ids : List String} :
    (∃ noms, (lignesMatieres b ids).mapM (idEtNom "Inconnu") = Except.ok noms) ↔
      ∀ m ∈ ids, ∀ d, b.doc .matieres m = some d →
        ∃ nom, (d.get .nom).orStr "Inconnu" = .ok nom := by
  have hligne : ∀ m d, (m, d) ∈ lignesMatieres b ids ↔ b.doc .matieres m = some d ∧ m ∈ ids :=
    fun m d => by
      rw [Query.mem_run, List.forall_mem_singleton, Filter.sat_idIn]
      exact Iff.rfl
  rw [exists_mapM_iff]
  constructor
  · intro h m hm d hd
    obtain ⟨x, hx⟩ := h (m, d) ((hligne m d).mpr ⟨hd, hm⟩)
    exact ⟨x.2, (idEtNom_eq_ok hx).2⟩
  · rintro h ⟨m, d⟩ hdoc
    obtain ⟨hd, hm⟩ := (hligne m d).mp hdoc
    obtain ⟨nom, hnom⟩ := h m hm d hd
    exact ⟨(m, nom), by rw [idEtNom, hnom]; rfl⟩

/-- The names of the subjects of `ids`. -/
theorem lookup_matieres {ids : List String} {noms : List (String × String)}
    (hnoms : (lignesMatieres b ids).mapM (idEtNom "Inconnu") = Except.ok noms) {m : String}
    (hm : m ∈ ids) : (noms.lookup m).getD "Inconnu" = nomMatiere b m := by
  rw [lookup_eq_find?, find_decode (fun _ _ h => (idEtNom_eq_ok h).1) hnoms]
  unfold nomMatiere
  cases hd : b.doc .matieres m with
  | none => rfl
  | some d =>
    have hsat : ([Filter.idIn ids].all fun c => c.sat m d) = true := by simp [Filter.sat, hm]
    obtain ⟨x, -, hx⟩ := exists_mem_of_mapM hnoms
      (Query.mem_run.mpr ⟨hd, List.all_eq_true.mp hsat⟩)
    rw [Option.filter_some, if_pos hsat, Option.bind_some, hx]
    exact (chaineOu_of_orStr (idEtNom_eq_ok hx).2).symm

/-! ### The loop over the teachings -/

/-- A turn skips a teaching without a subject. -/
theorem ajouterMatiere_eq {doc : String × Document} {t : String}
    (ht : doc.2 .enseignantId = some (.str t))
    (hm : ∃ x, (doc.2.get .matiereId).optStr = .ok x) (noms : List (String × String))
    (matieres : String → Option (List String)) :
    ajouterMatiere noms matieres doc = .ok ((matiereLue doc).elim matieres fun m =>
      addUnder matieres t ((noms.lookup m).getD "Inconnu")) := by
  have hget : doc.2.get .enseignantId = .str t := by rw [Doc.get, ht]; rfl
  unfold ajouterMatiere matiereLue
  rw [hget]
  obtain ⟨x, hx⟩ := hm
  generalize doc.2.get .matiereId = v at hx ⊢
  cases v with
  | null => rfl
  | str m => rfl
  | _ => cases hx

/-- The loop collects, for each teacher, the names of the subjects his teachings name. -/
theorem foldlM_ajouterMatiere {ids : List String} {opts : List (Option String)}
    (hopts : (enseignementsDe b ids).mapM (fun doc => (doc.2.get .matiereId).optStr) =
      Except.ok opts) (noms : List (String × String)) :
    ∃ mapTemp, (enseignementsDe b ids).foldlM (ajouterMatiere noms) (fun _ => none) =
      Except.ok mapTemp ∧ ∀ t ∈ ids, (mapTemp t).getD [] =
        (enseignementsDUn b t).filterMap fun doc =>
          (matiereLue doc).map fun m => (noms.lookup m).getD "Inconnu" := by
  let entree : String × Document → Option (String × String) := fun doc =>
    (matiereLue doc).map fun m => (chaine doc.2 .enseignantId, (noms.lookup m).getD "Inconnu")
  refine ⟨_, foldlM_eq_ok (g := fun m doc => ((entree doc).map fun x =>
    addUnder m x.1 x.2).getD m) (fun matieres doc hdoc => ?_) _, fun t ht => ?_⟩
  · obtain ⟨-, t, -, ht⟩ := mem_enseignementsDe.mp hdoc
    obtain ⟨x, -, hx⟩ := exists_mem_of_mapM hopts hdoc
    rw [ajouterMatiere_eq ht ⟨x, hx⟩, ← chaine_of_str ht]
    show _ = Except.ok ((((matiereLue doc).map _).map _).getD _)
    cases matiereLue doc <;> rfl
  · rw [getD_foldl_addUnder, Option.getD_none, List.nil_append, ← run_whereIn_filterMap ht]
    refine List.filterMap_congr fun doc _ => ?_
    show ((matiereLue doc).map _).bind _ = _
    cases matiereLue doc with
    | none => exact (ite_self none).symm
    | some m => rfl

/-- The loop gives every teacher one name for each of his teachings exactly if they name subjects. -/
theorem matieres_completes_iff {maxIn : ℕ} {ids : List String} {noms : List (String × String)}
    (hnombre : ids.length ≤ maxIn)
    (hadmis : IdsAdmis maxIn ((enseignementsDe b ids).filterMap matiereLue).eraseDups)
    (hnoms : (lignesMatieres b ((enseignementsDe b ids).filterMap matiereLue).eraseDups).mapM
      (idEtNom "Inconnu") = Except.ok noms) :
    (∀ t ∈ ids, ((enseignementsDUn b t).filterMap fun doc =>
        (matiereLue doc).map fun m => (noms.lookup m).getD "Inconnu") = matieresDe b t) ↔
      MatieresLues maxIn b ids := by
  constructor
  · intro h
    have hlue : ∀ i d, b.doc .enseignements i = some d → ∀ t ∈ ids,
        d .enseignantId = some (.str t) → ∃ m, matiereLue (i, d) = some m := by
      intro i d hd t ht henseignant
      have hdoc : (i, d) ∈ enseignementsDUn b t := Query.mem_run_isEqualTo.mpr ⟨hd, henseignant⟩
      -- no teaching is skipped, as there are as many names as teachings
      have hlen := congrArg List.length (h t ht)
      rw [List.length_filterMap_eq_countP, matieresDe, List.length_map, List.countP_eq_length] at hlen
      obtain ⟨m, hm⟩ := Option.isSome_iff_exists.mp (hlen (i, d) hdoc)
      obtain ⟨m', hm', -⟩ := Option.map_eq_some_iff.mp hm
      exact ⟨m', hm'⟩
    have hnommees : ∀ m, m ∈ (enseignementsDe b ids).filterMap matiereLue → m ≠ "" := by
      rintro m hm rfl
      exact hadmis.1 (List.mem_eraseDups.mpr hm)
    have hegal : (enseignementsDe b ids).filterMap matiereLue = matieresEnseignees b ids := by
      rw [matieresEnseignees, ← List.filterMap_eq_map]
      refine List.filterMap_congr ?_
      rintro ⟨i, d⟩ hdoc
      obtain ⟨hd, t, ht, henseignant⟩ := mem_enseignementsDe.mp hdoc
      obtain ⟨m, hm⟩ := hlue i d hd t ht henseignant
      rw [hm, Function.comp_apply, chaine_of_matiereLue hm]
    refine ⟨hnombre, fun i d hd t ht henseignant => ?_, hegal ▸ hadmis.2, fun m hm => ?_⟩
    · obtain ⟨m, hm⟩ := hlue i d hd t ht henseignant
      have hdoc := mem_enseignementsDe.mpr ⟨hd, t, ht, henseignant⟩
      exact ⟨m, hnommees m (List.mem_filterMap.mpr ⟨_, hdoc, hm⟩), matiereLue_eq_some_iff.mp hm⟩
    · exact exists_noms_iff.mp ⟨noms, hnoms⟩ m (List.mem_eraseDups.mpr (hegal ▸ hm))
  · intro h t ht
    rw [matieresDe, ← List.filterMap_eq_map]
    refine List.filterMap_congr ?_
    rintro ⟨i, d⟩ hdoc
    obtain ⟨hd, henseignant⟩ := Query.mem_run_isEqualTo.mp hdoc
    obtain ⟨m, -, hm⟩ := h.enseignements i d hd t ht henseignant
    have hlue : matiereLue (i, d) = some m := matiereLue_eq_some_iff.mpr hm
    have hdemandee : m ∈ ((enseignementsDe b ids).filterMap matiereLue).eraseDups :=
      List.mem_eraseDups.mpr (List.mem_filterMap.mpr
        ⟨_, mem_enseignementsDe.mpr ⟨hd, t, ht, henseignant⟩, hlue⟩)
    rw [hlue, Option.map_some, lookup_matieres hnoms hdemandee, Function.comp_apply,
      chaine_of_str hm]

theorem ends_loadMatieres {p : MessagerieFamille} {ids : List String}
    (hids : p.enseignants.map EnseignantModele.id = ids) :
    loadMatieres.Ends S.handler (fun a q b' =>
      (b' = b ∧ q.enseignants = p.enseignants ∧ q.error = p.error ∧
        q.etablissementId = p.etablissementId) ∧
      match a with
      | .ok _ => (∀ t ∈ ids, (q.matieresParEnseignant t).getD [] = matieresDe b t) ↔
          (ids ≠ [] → MatieresLues S.maxIn b ids)
      | .error _ => ¬(ids ≠ [] → MatieresLues S.maxIn b ids)) p b := by
  unfold loadMatieres
  simp only [bind_eq]
  rw [ends_page_bind, hids]
  by_cases hvide : ids = []
  · subst hvide
    rw [if_pos rfl]
    exact ⟨⟨rfl, rfl, rfl, rfl⟩, iff_of_true (fun t ht => by cases ht) fun h => absurd rfl h⟩
  rw [if_neg hvide]
  refine ends_chercher_bind (fun hids => ?_) fun hrefus => ?_
  on_goal 2 =>
    refine ⟨⟨rfl, rfl, rfl, rfl⟩, fun h => ?_⟩
    exact not_admise_of_refused hrefus rfl ⟨hvide, (h hvide).nombre⟩
  have hnombre : ids.length ≤ S.maxIn := (admise_of_accepted hids).2
  refine ends_ofExcept_bind (fun opts hopts => ?_) fun e herror => ?_
  on_goal 2 =>
    refine ⟨⟨rfl, rfl, rfl, rfl⟩, fun h => ?_⟩
    have hlu : ∀ doc ∈ enseignementsDe b ids, ∃ x, (doc.2.get .matiereId).optStr = .ok x := by
      rintro ⟨i, d⟩ hdoc
      obtain ⟨hd, t, ht, henseignant⟩ := mem_enseignementsDe.mp hdoc
      obtain ⟨m, -, hm⟩ := (h hvide).enseignements i d hd t ht henseignant
      refine ⟨some m, ?_⟩
      show (d.get .matiereId).optStr = _
      rw [Doc.get, hm]
      rfl
    obtain ⟨opts, hopts⟩ := exists_mapM_iff.mpr hlu
    rw [herror] at hopts
    cases hopts
  rw [reduceOption_matiereIds hopts]
  refine ends_chercherParIds_bind rfl (fun hadmis => ?_) fun hrefus => ?_
  on_goal 2 =>
    refine ⟨⟨rfl, rfl, rfl, rfl⟩, fun h => hrefus ?_⟩
    rw [(h hvide).filterMap_eq]
    exact (h hvide).idsAdmis
  refine ends_ofExcept_bind (fun noms hnoms => ?_) fun e herror => ?_
  on_goal 2 =>
    refine ⟨⟨rfl, rfl, rfl, rfl⟩, fun h => ?_⟩
    obtain ⟨noms, hnoms⟩ := exists_noms_iff.mpr fun m hm =>
      (h hvide).noms m ((h hvide).filterMap_eq ▸ List.mem_eraseDups.mp hm)
    rw [herror] at hnoms
    cases hnoms
  obtain ⟨mapTemp, hfold, hmap⟩ := foldlM_ajouterMatiere hopts noms
  rw [hfold, ofExcept_ok, bind_ret]
  refine ⟨⟨rfl, rfl, rfl, rfl⟩, ?_⟩
  rw [imp_iff_right hvide, ← matieres_completes_iff hnombre hadmis hnoms]
  exact forall₂_congr fun t ht => by rw [← hmap t ht]; rfl

/-! ### The load -/

/-- The classes of the establishment can be decoded. -/
def ClassesLisibles (b : Base) (etablissementId : String) : Prop :=
  ∀ id d, b.doc .classes id = some d → d .etablissementId = some (.str etablissementId) →
    ∃ c, ClasseModele.fromMap id d = .ok c

theorem ends_loadClasses (p : MessagerieFamille) :
    loadClasses.Ends S.handler (fun a q _ => (q.error = p.error ∧ q.enseignants = p.enseignants ∧
      q.matieresParEnseignant = p.matieresParEnseignant) ∧
        ((∃ x, a = .ok x) ↔ ClassesLisibles b p.etablissementId)) p b := by
  unfold loadClasses
  simp only [bind_eq]
  rw [ends_page_bind]
  refine ends_chercher_bind (fun _ => ?_) fun hrefus => by cases hrefus
  have hlues := exists_mapM_isEqualTo (b := b) (c := .classes) (f := .etablissementId)
    (s := p.etablissementId) (g := fun doc => ClasseModele.fromMap doc.1 doc.2)
  refine ends_ofExcept_bind (fun classes hclasses => ?_) fun e herror => ?_
  · exact ⟨⟨rfl, rfl, rfl⟩, iff_of_true ⟨(), rfl⟩ (hlues.mp ⟨classes, hclasses⟩)⟩
  · refine ⟨⟨rfl, rfl, rfl⟩, iff_of_false (fun h => ?_) fun h => ?_⟩
    · obtain ⟨x, hx⟩ := h
      cases hx
    · obtain ⟨classes, hclasses⟩ := hlues.mpr h
      rw [herror] at hclasses
      cases hclasses

/-- The teacher in a document. -/
def enseignantDe (doc : String × Document) : EnseignantModele :=
  ⟨doc.1, chaine doc.2 .utilisateurId⟩

/-- The teachers have accounts, the ids the load asks for can be asked for, and what it reads can be
decoded. -/
structure Chargeable (maxIn : ℕ) (b : Base) (etablissementId : String) : Prop where
  enseignants : ∀ id d, b.doc .enseignants id = some d →
    ∃ u, u ≠ "" ∧ d .utilisateurId = some (.str u)
  comptes : Admise maxIn (comptes b .enseignants).eraseDups
  utilisateurs : ComptesLisibles b etablissementId (EduConnect.Messagerie.comptes b .enseignants)
  matieres : idsDe b etablissementId .enseignants ≠ [] →
    MatieresLues maxIn b (idsDe b etablissementId .enseignants)
  classes : ClassesLisibles b etablissementId

/-- The list offers every teacher of the establishment, each once, with his subjects. -/
structure Complet (b : Base) (etablissementId : String) (p : MessagerieFamille) : Prop where
  error : p.error = none
  nodup : (p.enseignants.map EnseignantModele.id).Nodup
  mem_iff : ∀ x : EnseignantModele, x ∈ p.enseignants ↔
    ∃ d, b.doc .enseignants x.id = some d ∧ d .utilisateurId = some (.str x.utilisateurId) ∧
      DansEcole b etablissementId x.utilisateurId
  matieres : ∀ x ∈ p.enseignants, (p.matieresParEnseignant x.id).getD [] = matieresDe b x.id

/-- The models read are those of the documents. -/
theorem enseignants_lus {es : List EnseignantModele}
    (h : (tous b .enseignants).mapM (fun doc => EnseignantModele.fromMap doc.2 doc.1) =
      Except.ok es) : es = (tous b .enseignants).map enseignantDe := by
  have hok := mapM_eq_ok (f := fun doc => EnseignantModele.fromMap doc.2 doc.1)
    (g := enseignantDe) (l := tous b .enseignants) fun doc hdoc => by
      obtain ⟨e, -, he⟩ := exists_mem_of_mapM h hdoc
      obtain ⟨u, hu, heq⟩ := bind_eq_ok_iff.mp he
      rw [he, enseignantDe, chaine_of_orStr hu]
      exact heq.symm
  exact Except.ok.inj (h.symm.trans hok)

theorem Chargeable.idsAdmis {maxIn : ℕ} (h : Chargeable maxIn b etablissementId) :
    IdsAdmis maxIn (EduConnect.Messagerie.comptes b .enseignants).eraseDups := by
  have hnommes : "" ∉ EduConnect.Messagerie.comptes b .enseignants :=
    vide_notMem_chaines fun doc hdoc => h.enseignants doc.1 doc.2 (mem_tous.mp hdoc)
  exact ⟨fun hvide => hnommes (List.mem_eraseDups.mp hvide), h.comptes⟩

/-- A teacher whose document was read and who is asked for by an id has an account. -/
theorem compte_de_lu {es : List EnseignantModele}
    (h : (tous b .enseignants).mapM (fun doc => EnseignantModele.fromMap doc.2 doc.1) =
      Except.ok es) (hvide : "" ∉ comptes b .enseignants) {id : String} {d : Document}
    (hd : b.doc .enseignants id = some d) : ∃ u, u ≠ "" ∧ d .utilisateurId = some (.str u) := by
  have hdoc : (id, d) ∈ tous b .enseignants := mem_tous.mpr hd
  obtain ⟨e, -, he⟩ := exists_mem_of_mapM h hdoc
  obtain ⟨u, hu, -⟩ := bind_eq_ok_iff.mp he
  have hne : u ≠ "" := by
    rintro rfl
    exact hvide (List.mem_map.mpr ⟨(id, d), hdoc, chaine_of_orStr hu⟩)
  refine ⟨u, hne, ?_⟩
  have hu : ((d .utilisateurId).getD .null).orStr "" = .ok u := hu
  rcases hv : d .utilisateurId with _ | v
  · rw [hv] at hu
    exact absurd (Except.ok.inj hu).symm hne
  · rw [hv] at hu
    cases v with
    | null => exact absurd (Except.ok.inj hu).symm hne
    | str s => rw [← Except.ok.inj hu]
    | _ => cases hu

theorem complet_of {q : MessagerieFamille}
    (hcomptes : ∀ id d, b.doc .enseignants id = some d →
      ∃ u, u ≠ "" ∧ d .utilisateurId = some (.str u)) (herr : q.error = none)
    (hens : q.enseignants = (fichesDe b etablissementId .enseignants).map enseignantDe)
    (hmatieres : ∀ t ∈ idsDe b etablissementId .enseignants,
      (q.matieresParEnseignant t).getD [] = matieresDe b t) : Complet b etablissementId q where
  error := herr
  nodup := by
    rw [hens, List.map_map]
    exact nodup_idsDe .enseignants
  mem_iff x := by
    rw [hens]
    exact mem_map_fichesDe EnseignantModele.mk.inj fun id d hd =>
      (hcomptes id d hd).imp fun _ hu => hu.2
  matieres x hx := by
    rw [hens] at hx
    obtain ⟨doc, hdoc, rfl⟩ := List.mem_map.mp hx
    exact hmatieres doc.1 (List.mem_map_of_mem hdoc)

theorem ends_loadInitialData {p : MessagerieFamille} (hp : p.error = none) :
    loadInitialData.Ends S.handler (fun _ q _ =>
      Complet b p.etablissementId q ↔ Chargeable S.maxIn b p.etablissementId) p b := by
  have hechec : ∀ {q : MessagerieFamille}, q.error.isSome → ¬Complet b p.etablissementId q := by
    intro q hq h
    rw [h.error] at hq
    cases hq
  have hids : ((tous b .enseignants).map enseignantDe).map EnseignantModele.utilisateurId =
      comptes b .enseignants := List.map_map
  unfold loadInitialData
  rw [ends_catching]
  simp only [bind_eq]
  rw [ends_page_bind]
  refine ends_chercher_bind (fun _ => ?_) fun hrefus => by cases hrefus
  refine ends_ofExcept_bind (fun es hes => ?_) fun e herror => ?_
  on_goal 2 =>
    refine iff_of_false (hechec rfl) fun h => ?_
    have hlu : ∀ doc ∈ tous b .enseignants, ∃ e, EnseignantModele.fromMap doc.2 doc.1 = .ok e := by
      rintro ⟨id, d⟩ hdoc
      obtain ⟨u, -, hu⟩ := h.enseignants id d (mem_tous.mp hdoc)
      refine ⟨⟨id, u⟩, ?_⟩
      show EnseignantModele.fromMap d id = _
      rw [EnseignantModele.fromMap, Doc.get, hu]
      rfl
    obtain ⟨es, hes⟩ := exists_mapM_iff.mpr hlu
    cases herror.symm.trans hes
  obtain rfl := enseignants_lus hes
  rw [ends_setState_bind, hids]
  refine ends_chercherParIds_bind rfl (fun hcomptes => ?_) fun hrefus => ?_
  on_goal 2 => exact iff_of_false (hechec rfl) fun h => hrefus h.idsAdmis
  have hfiches : ∀ id d, b.doc .enseignants id = some d →
      ∃ u, u ≠ "" ∧ d .utilisateurId = some (.str u) := fun id d hd =>
    compte_de_lu hes (fun h => hcomptes.1 (List.mem_eraseDups.mpr h)) hd
  refine ends_ofExcept_bind (fun us hus => ?_) fun e herror => ?_
  on_goal 2 =>
    refine iff_of_false (hechec rfl) fun h => ?_
    obtain ⟨us, hus⟩ := exists_utilisateurs_iff.mpr (comptesLisibles_eraseDups.mpr h.utilisateurs)
    cases herror.symm.trans hus
  have hus : Utilisateurs b p.etablissementId (comptes b .enseignants).eraseDups us := hus
  have hlisibles := comptesLisibles_eraseDups.mp (exists_utilisateurs_iff.mp ⟨us, hus⟩)
  rw [ends_setState_bind, hus.filter_eq fun _ => rfl, ends_bind]
  refine (ends_loadMatieres List.map_map).mono fun a q b' h => ?_
  obtain ⟨⟨rfl, hens, herr, hetab⟩, hmatieres⟩ := h
  rcases a with e | x
  · exact iff_of_false (hechec rfl) fun h => hmatieres h.matieres
  show Ends _ _ (Prog.bind loadClasses _) q b'
  rw [ends_bind]
  refine (ends_loadClasses q).mono fun a r b'' h => ?_
  obtain ⟨⟨herr', hens', hmat'⟩, hclasses⟩ := h
  rw [hetab] at hclasses
  rcases a with e | y
  · refine iff_of_false (hechec rfl) fun h => ?_
    obtain ⟨z, hz⟩ := hclasses.mpr h.classes
    cases hz
  have hens'' : r.enseignants = (fichesDe b' p.etablissementId .enseignants).map enseignantDe :=
    hens'.trans hens
  constructor
  · intro h
    refine ⟨hfiches, hcomptes.2, hlisibles, hmatieres.mp fun t ht => ?_, hclasses.mp ⟨y, rfl⟩⟩
    obtain ⟨doc, hdoc, rfl⟩ := List.mem_map.mp ht
    rw [← hmat']
    refine h.matieres (enseignantDe doc) ?_
    show enseignantDe doc ∈ r.enseignants
    rw [hens'']
    exact List.mem_map_of_mem hdoc
  · intro h
    refine complet_of hfiches ((herr'.trans herr).trans hp) hens'' fun t ht => ?_
    exact (congrArg (fun m => (m t).getD []) hmat').trans (hmatieres.mpr h.matieres t ht)

/-- **The teachers offered to a parent or a student.**  The list loads without error and offers
every teacher of the establishment with his subjects exactly if the ids it asks for can be asked for
and the documents it reads can be decoded. -/
theorem enseignants_offerts_iff (S : Server) (b : Base) (utilisateurId etablissementId moi : String) :
    (Complet b etablissementId (apres S b loadInitialData
        (messagerieParentPage utilisateurId etablissementId moi)) ↔
      Chargeable S.maxIn b etablissementId) ∧
    (Complet b etablissementId (apres S b loadInitialData
        (messagerieElevePage utilisateurId etablissementId moi)) ↔
      Chargeable S.maxIn b etablissementId) := by
  have hpage : ∀ p : MessagerieFamille, p.error = none → p.etablissementId = etablissementId →
      (Complet b etablissementId (apres S b loadInitialData p) ↔
        Chargeable S.maxIn b etablissementId) := by
    rintro p hp rfl
    exact ends_loadInitialData hp
  exact ⟨hpage _ rfl rfl, hpage _ rfl rfl⟩

end MessagerieFamille

/-! ### A small school -/

/-- The account of a person of the school `E`. -/
def compteEcole (nom : String) : Champs :=
  [texte .nom nom, texte .prenom "", texte .etablissementId "E"]

/-- A school with one teacher, who teaches nothing yet. -/
def ecoleSansEnseignement : Base :=
  (baseVide.putDoc .utilisateurs "ut" (newDoc 0 (compteEcole "Teacher"))).putDoc .enseignants "t"
    (newDoc 0 [texte .utilisateurId "ut"])

/-- The teacher teaches a subject, and a student of a class is linked to a parent. -/
def ecoleComplete : Base :=
  let b := ecoleSansEnseignement
  let b := b.putDoc .matieres "m" (newDoc 0 [texte .nom "Maths"])
  let b := b.putDoc .enseignements "s" (newDoc 0 [texte .enseignantId "t", texte .matiereId "m"])
  let b := b.putDoc .classes "c" (newDoc 0 [texte .nom "6e", texte .etablissementId "E"])
  let b := b.putDoc .utilisateurs "up" (newDoc 0 (compteEcole "Parent"))
  let b := b.putDoc .parents "p" (newDoc 0 [texte .utilisateurId "up"])
  let b := b.putDoc .utilisateurs "ue" (newDoc 0 (compteEcole "Student"))
  let b := b.putDoc .eleves "e" (newDoc 0 [texte .utilisateurId "ue", texte .classeId "c"])
  b.putDoc .famille "f" (newDoc 0 [texte .parentId "p", texte .eleveId "e"])

/-- What holds of the documents of a collection, one after the other. -/
theorem forall_doc {c : Collection} {l : List (String × Document)} (hl : tous b c = l)
    {P : String → Document → Prop} (h : ∀ doc ∈ l, P doc.1 doc.2) (id : String) (d : Document)
    (hd : b.doc c id = some d) : P id d :=
  h (id, d) (hl ▸ mem_tous.mpr hd)

/-- The accounts of the school can be decoded. -/
theorem comptesLisibles_ecoleComplete (ids : List String) :
    ComptesLisibles ecoleComplete "E" ids := by
  have htous : tous ecoleComplete .utilisateurs =
      [("ue", newDoc 0 (compteEcole "Student")), ("up", newDoc 0 (compteEcole "Parent")),
        ("ut", newDoc 0 (compteEcole "Teacher"))] := rfl
  have hlus : ∀ id d, ecoleComplete.doc .utilisateurs id = some d →
      ∃ m, UtilisateurModele.fromMap d id = .ok m := by
    refine forall_doc htous ?_
    rw [List.forall_mem_cons, List.forall_mem_cons, List.forall_mem_singleton]
    exact ⟨⟨_, rfl⟩, ⟨_, rfl⟩, ⟨_, rfl⟩⟩
  exact fun u _ d hd _ => hlus u d hd

theorem MessagerieFamille.matieresLues_ecoleComplete :
    MatieresLues 10 ecoleComplete ["t"] where
  nombre := by decide
  enseignements := by
    have htous : tous ecoleComplete .enseignements =
        [("s", newDoc 0 [texte .enseignantId "t", texte .matiereId "m"])] := rfl
    exact forall_doc htous (List.forall_mem_singleton.mpr fun _ _ _ => ⟨"m", by decide, rfl⟩)
  matieres := by decide +kernel
  noms _ _ := by
    have htous : tous ecoleComplete .matieres = [("m", newDoc 0 [texte .nom "Maths"])] := rfl
    exact forall_doc (P := fun _ d => ∃ nom, (d.get .nom).orStr "Inconnu" = .ok nom) htous
      (List.forall_mem_singleton.mpr ⟨"Maths", rfl⟩) _

theorem MessagerieFamille.chargeable_ecoleComplete :
    MessagerieFamille.Chargeable 10 ecoleComplete "E" where
  enseignants := by
    have htous : tous ecoleComplete .enseignants =
        [("t", newDoc 0 [texte .utilisateurId "ut"])] := rfl
    exact forall_doc htous (List.forall_mem_singleton.mpr ⟨"ut", by decide, rfl⟩)
  comptes := by decide +kernel
  utilisateurs := comptesLisibles_ecoleComplete _
  matieres _ := by
    rw [show idsDe ecoleComplete "E" .enseignants = ["t"] by decide +kernel]
    exact matieresLues_ecoleComplete
  classes := by
    have htous : tous ecoleComplete .classes =
        [("c", newDoc 0 [texte .nom "6e", texte .etablissementId "E"])] := rfl
    exact forall_doc htous (List.forall_mem_singleton.mpr fun _ => ⟨_, rfl⟩)

theorem MessagerieFamille.enseignants_offerts_ecoleComplete : Complet ecoleComplete "E"
    (apres (Server.longest 10) ecoleComplete loadInitialData (messagerieParentPage "up" "E" "p")) :=
  (enseignants_offerts_iff (Server.longest 10) ecoleComplete "up" "E" "p").1.mpr
    chargeable_ecoleComplete

/-- A teacher without a teaching is not offered to a parent: the query for no subject is refused. -/
theorem MessagerieFamille.enseignant_sans_enseignement : ¬Complet ecoleSansEnseignement "E"
    (apres (Server.longest 10) ecoleSansEnseignement loadInitialData
      (messagerieParentPage "up" "E" "p")) := by
  intro h
  have herr : (apres (Server.longest 10) ecoleSansEnseignement loadInitialData
      (messagerieParentPage "up" "E" "p")).error = some "[cloud_firestore/invalid-argument]" := by
    decide +kernel
  rw [h.error] at herr
  cases herr

/-! ## The parents offered to a teacher -/

namespace MessagerieEnseignant

/-- The family links of these parents. -/
abbrev liensDe (b : Base) (parentIds : List String) : List (String × Document) :=
  (⟨[.whereIn .parentId parentIds], none, none⟩ : Query Champ).run (b.docs .famille)

/-- The students linked to these parents. -/
def elevesLies (b : Base) (parentIds : List String) : List String :=
  (liensDe b parentIds).map fun doc => chaine doc.2 .eleveId

/-- The accounts of the students of `ids`. -/
def comptesEleves (b : Base) (ids : List String) : List String :=
  (ids.filterMap (b.doc .eleves)).map fun d => chaine d .utilisateurId

/-- The entry of a student, when he and his account are in the establishment. -/
def enfantAttendu (b : Base) (etablissementId : String) (classes : List (String × String))
    (eleveId : String) : Option Enfant := do
  let eleve ← b.doc .eleves eleveId
  let u ← b.doc .utilisateurs (chaine eleve .utilisateurId)
  if DansEcole b etablissementId (chaine eleve .utilisateurId) then
    some {
      nomComplet := chaine u .prenom ++ " " ++ chaine u .nom
      classeNom := (classes.lookup (chaine eleve .classeId)).getD "Classe inconnue" }
  else none

/-- The family links of one parent. -/
abbrev liensDUn (b : Base) (parentId : String) : List (String × Document) :=
  (⟨[.isEqualTo .parentId (.str parentId)], none, none⟩ : Query Champ).run (b.docs .famille)

/-- One entry for each family link of the parent. -/
def enfantsAttendus (b : Base) (etablissementId : String) (classes : List (String × String))
    (parentId : String) : List Enfant :=
  (liensDUn b parentId).filterMap fun doc =>
    enfantAttendu b etablissementId classes (chaine doc.2 .eleveId)

/-- The family links of these parents name students, who can be asked for and read with their
accounts. -/
structure EnfantsLus (maxIn : ℕ) (b : Base) (etablissementId : String)
    (parentIds : List String) : Prop where
  parents : Admise maxIn parentIds
  famille : ∀ i d, b.doc .famille i = some d → ∀ t ∈ parentIds, d .parentId = some (.str t) →
    ∃ e, e ≠ "" ∧ d .eleveId = some (.str e)
  nombre : (elevesLies b parentIds).eraseDups.length ≤ maxIn
  eleves : ∀ e ∈ elevesLies b parentIds, ∀ d, b.doc .eleves e = some d →
    ∃ m, EleveModele.fromMap d e = .ok m
  comptes : "" ∉ comptesEleves b (elevesLies b parentIds)
  utilisateurs :
    ComptesLisibles b etablissementId (comptesEleves b (elevesLies b parentIds))

variable {S : Server}

theorem mem_liensDe {ids : List String} {i : String} {d : Document} :
    (i, d) ∈ liensDe b ids ↔
      b.doc .famille i = some d ∧ ∃ t ∈ ids, d .parentId = some (.str t) := by
  rw [Query.mem_run, List.forall_mem_singleton, Filter.sat_whereIn]
  exact Iff.rfl

/-- A link of one of the parents is among theirs. -/
theorem mem_elevesLies {ids : List String} {t : String} (ht : t ∈ ids) {doc : String × Document}
    (hdoc : doc ∈ liensDUn b t) : chaine doc.2 .eleveId ∈ elevesLies b ids := by
  obtain ⟨hd, hparent⟩ := Query.mem_run_isEqualTo.mp hdoc
  exact List.mem_map_of_mem (mem_liensDe.mpr ⟨hd, t, ht, hparent⟩)

/-! ### The students of the links -/

theorem EnfantsLus.mem_str {maxIn : ℕ} {ids : List String}
    (h : EnfantsLus maxIn b etablissementId ids) {doc : String × Document}
    (hdoc : doc ∈ liensDe b ids) : ∃ e, e ≠ "" ∧ doc.2 .eleveId = some (.str e) := by
  obtain ⟨hd, t, ht, hparent⟩ := mem_liensDe.mp hdoc
  exact h.famille doc.1 doc.2 hd t ht hparent

/-- The ids of students read from the rows. -/
theorem eleveIds_lus {rows : List (String × Document)} {liens : List String}
    (h : rows.mapM (fun doc => (doc.2.get .eleveId).asStr) = Except.ok liens) :
    (∀ doc ∈ rows, ∃ e, doc.2 .eleveId = some (.str e)) ∧
      liens = rows.map fun doc => chaine doc.2 .eleveId := by
  have hstr : ∀ doc ∈ rows, ∃ e, doc.2 .eleveId = some (.str e) := by
    intro doc hdoc
    obtain ⟨e, -, he⟩ := exists_mem_of_mapM h hdoc
    exact ⟨e, Doc.asStr_get_iff.mp he⟩
  refine ⟨hstr, ?_⟩
  refine Except.ok.inj (h.symm.trans (mapM_eq_ok fun doc hdoc => ?_))
  obtain ⟨e, he⟩ := hstr doc hdoc
  rw [Doc.get, he, chaine_of_str he]
  rfl

theorem EnfantsLus.mapM_eleveIds {maxIn : ℕ} {ids : List String}
    (h : EnfantsLus maxIn b etablissementId ids) :
    (liensDe b ids).mapM (fun doc => (doc.2.get .eleveId).asStr) =
      Except.ok (elevesLies b ids) := by
  refine mapM_eq_ok fun doc hdoc => ?_
  obtain ⟨e, -, he⟩ := h.mem_str hdoc
  rw [Doc.get, he, chaine_of_str he]
  rfl

theorem EnfantsLus.idsAdmis {maxIn : ℕ} {ids : List String}
    (h : EnfantsLus maxIn b etablissementId ids) (hne : (elevesLies b ids).eraseDups ≠ []) :
    IdsAdmis maxIn (elevesLies b ids).eraseDups := by
  have hnommes : "" ∉ elevesLies b ids := vide_notMem_chaines fun _ hdoc => h.mem_str hdoc
  exact ⟨fun hvide => hnommes (List.mem_eraseDups.mp hvide), hne, h.nombre⟩

theorem eleve_of_fromMap {d : Document} {id : String} {e : EleveModele}
    (h : EleveModele.fromMap d id = .ok e) :
    e.id = id ∧ e.utilisateurId = chaine d .utilisateurId ∧ e.classeId = chaine d .classeId := by
  unfold EleveModele.fromMap at h
  obtain ⟨u, hu, h⟩ := bind_eq_ok_iff.mp h
  obtain ⟨c, hc, h⟩ := bind_eq_ok_iff.mp h
  obtain ⟨_, _, h⟩ := bind_eq_ok_iff.mp h
  obtain rfl := Except.ok.inj h
  exact ⟨rfl, (chaine_of_orStr hu).symm, (chaine_of_orStr hc).symm⟩

/-- The rows of the students of `ids`. -/
abbrev lignesEleves (b : Base) (ids : List String) : List (String × Document) :=
  (⟨[.idIn ids], none, none⟩ : Query Champ).run (b.docs .eleves)

theorem mem_lignesEleves {ids : List String} {e : String} {d : Document} :
    (e, d) ∈ lignesEleves b ids ↔ b.doc .eleves e = some d ∧ e ∈ ids := by
  rw [Query.mem_run, List.forall_mem_singleton, Filter.sat_idIn]
  exact Iff.rfl

theorem exists_eleves_iff {ids : List String} :
    (∃ es, (lignesEleves b ids.eraseDups).mapM (fun doc => EleveModele.fromMap doc.2 doc.1) =
      Except.ok es) ↔
    ∀ e ∈ ids, ∀ d, b.doc .eleves e = some d → ∃ m, EleveModele.fromMap d e = .ok m := by
  rw [exists_mapM_iff]
  constructor
  · exact fun h e he d hd => h (e, d) (mem_lignesEleves.mpr ⟨hd, List.mem_eraseDups.mpr he⟩)
  · rintro h ⟨e, d⟩ hdoc
    obtain ⟨hd, he⟩ := mem_lignesEleves.mp hdoc
    exact h e (List.mem_eraseDups.mp he) d hd

/-! ### Their accounts -/

section Comptes

variable {ids : List String} {eleves : List EleveModele}

/-- The accounts of the students read. -/
theorem mem_comptesEleves_iff
    (heleves : (lignesEleves b ids.eraseDups).mapM (fun doc => EleveModele.fromMap doc.2 doc.1) =
      Except.ok eleves) {u : String} :
    u ∈ eleves.map EleveModele.utilisateurId ↔ u ∈ comptesEleves b ids := by
  unfold comptesEleves
  rw [List.mem_map, List.mem_map]
  constructor
  · rintro ⟨e, he, rfl⟩
    obtain ⟨⟨id, d⟩, hdoc, hfrom⟩ := exists_of_mem_mapM heleves he
    obtain ⟨hd, hid⟩ := mem_lignesEleves.mp hdoc
    exact ⟨d, List.mem_filterMap.mpr ⟨id, List.mem_eraseDups.mp hid, hd⟩,
      (eleve_of_fromMap hfrom).2.1.symm⟩
  · rintro ⟨d, hd, rfl⟩
    obtain ⟨id, hid, hd⟩ := List.mem_filterMap.mp hd
    obtain ⟨e, he, hfrom⟩ := exists_mem_of_mapM heleves
      (mem_lignesEleves.mpr ⟨hd, List.mem_eraseDups.mpr hid⟩)
    exact ⟨e, he, (eleve_of_fromMap hfrom).2.1⟩

/-- There are no more of them than students. -/
theorem length_comptesEleves_le
    (heleves : (lignesEleves b ids.eraseDups).mapM (fun doc => EleveModele.fromMap doc.2 doc.1) =
      Except.ok eleves) :
    (eleves.map EleveModele.utilisateurId).eraseDups.length ≤ ids.eraseDups.length := by
  have hdups := length_eraseDups_le (eleves.map EleveModele.utilisateurId)
  have hlignes : (lignesEleves b ids.eraseDups).length ≤ ids.eraseDups.length :=
    Query.length_run_idIn_le _ _
  have hlen := congrArg List.length (mapM_eq_ok_iff.mp heleves)
  rw [List.length_map] at hdups
  rw [List.length_map, List.length_map] at hlen
  omega

/-- The account found for an id among `ids`. -/
theorem find_utilisateur {us : List UtilisateurModele} (hus : Utilisateurs b etablissementId ids us)
    {u : String} (hu : u ∈ ids) :
    us.find? (fun m => m.id = u) = (b.doc .utilisateurs u).bind fun d =>
      if DansEcole b etablissementId u then (UtilisateurModele.fromMap d u).toOption else none := by
  rw [find_decode (k := UtilisateurModele.id) (fun _ _ h => (utilisateur_of_fromMap h).1) hus]
  cases hd : b.doc .utilisateurs u with
  | none => rfl
  | some d =>
    have hsat : ([Filter.idIn ids, .isEqualTo .etablissementId (.str etablissementId)].all
        fun c => c.sat u d) = true ↔ DansEcole b etablissementId u := by
      rw [List.all_eq_true, List.forall_mem_cons, List.forall_mem_singleton, Filter.sat_idIn,
        Filter.sat_isEqualTo_str, and_iff_right hu]
      refine ⟨fun h => ⟨d, hd, h⟩, ?_⟩
      rintro ⟨d', hd', h⟩
      obtain rfl := Option.some.inj (hd.symm.trans hd')
      exact h
    rw [Option.filter_some, Option.bind_some]
    by_cases hecole : DansEcole b etablissementId u
    · rw [if_pos (hsat.mpr hecole), if_pos hecole]
      rfl
    · rw [if_neg fun h => hecole (hsat.mp h), if_neg hecole]
      rfl

/-- The entry of a student among `ids` is the one expected. -/
theorem enfantDe_eq
    (heleves : (lignesEleves b ids.eraseDups).mapM (fun doc => EleveModele.fromMap doc.2 doc.1) =
      Except.ok eleves) {us : List UtilisateurModele}
    (hus : Utilisateurs b etablissementId (eleves.map EleveModele.utilisateurId).eraseDups us)
    (classes : List (String × String)) {eleveId : String} (hid : eleveId ∈ ids) :
    enfantDe eleves us classes eleveId = enfantAttendu b etablissementId classes eleveId := by
  have hfind := find_decode (k := EleveModele.id) (fun _ _ h => (eleve_of_fromMap h).1) heleves
    eleveId
  unfold enfantDe enfantAttendu
  rw [hfind]
  cases hd : b.doc .eleves eleveId with
  | none => rfl
  | some d =>
    have hligne : (eleveId, d) ∈ lignesEleves b ids.eraseDups :=
      mem_lignesEleves.mpr ⟨hd, List.mem_eraseDups.mpr hid⟩
    have hsat : ([Filter.idIn ids.eraseDups].all fun c => c.sat eleveId d) = true :=
      List.all_eq_true.mpr (Query.mem_run.mp hligne).2
    obtain ⟨e, hmem, he⟩ := exists_mem_of_mapM heleves hligne
    obtain ⟨-, hcompte, hclasse⟩ := eleve_of_fromMap he
    have hu : e.utilisateurId ∈ (eleves.map EleveModele.utilisateurId).eraseDups :=
      List.mem_eraseDups.mpr (List.mem_map_of_mem hmem)
    have hdecode : ((some d).filter fun d =>
        [Filter.idIn ids.eraseDups].all fun c => c.sat eleveId d).bind
          (fun d => (EleveModele.fromMap d eleveId).toOption) = some e := by
      rw [Option.filter_some, if_pos hsat, Option.bind_some, he]
      rfl
    rw [hdecode]
    show (us.find? fun u => decide (u.id = e.utilisateurId)).bind _ =
      (b.doc .utilisateurs (chaine d .utilisateurId)).bind _
    rw [find_utilisateur hus hu, hcompte]
    cases hdu : b.doc .utilisateurs (chaine d .utilisateurId) with
    | none => rfl
    | some du =>
      rw [Option.bind_some, Option.bind_some]
      by_cases hecole : DansEcole b etablissementId (chaine d .utilisateurId)
      · obtain ⟨du', hdu', hetab⟩ := hecole
        obtain rfl := Option.some.inj (hdu.symm.trans hdu')
        obtain ⟨u, -, hu⟩ := exists_mem_of_mapM hus
          (mem_comptesDe.mpr ⟨hdu, hcompte ▸ hu, hetab⟩)
        obtain ⟨-, hnom, hprenom⟩ := utilisateur_of_fromMap hu
        have hecole : DansEcole b etablissementId (chaine d .utilisateurId) := ⟨du, hdu, hetab⟩
        rw [if_pos hecole, if_pos hecole, hu, hclasse, ← hnom, ← hprenom]
        rfl
      · rw [if_neg hecole, if_neg hecole]
        rfl

end Comptes

/-! ### The loop over the links -/

/-- Without a student in the establishment no entry is expected. -/
theorem enfantsAttendus_eq_nil {ids : List String} {classes : List (String × String)} {t : String}
    (ht : t ∈ ids) (h : ∀ id ∈ elevesLies b ids,
      enfantAttendu b etablissementId classes id = none) :
    enfantsAttendus b etablissementId classes t = [] :=
  List.filterMap_eq_nil_iff.mpr fun _ hdoc => h _ (mem_elevesLies ht hdoc)

/-- The loop over the family links collects the children of each parent. -/
theorem foldlM_ajouterEnfant {ids : List String}
    (hstr : ∀ doc ∈ liensDe b ids, ∃ e, doc.2 .eleveId = some (.str e))
    {classes : List (String × String)} {enfant : String → Option Enfant}
    (henfant : ∀ id ∈ elevesLies b ids,
      enfant id = enfantAttendu b etablissementId classes id) :
    ∃ enfants, (liensDe b ids).foldlM (ajouterEnfant enfant) (fun _ => none) = Except.ok enfants ∧
      ∀ t ∈ ids, (enfants t).getD [] = enfantsAttendus b etablissementId classes t := by
  let entree : String × Document → Option (String × Enfant) := fun doc =>
    (enfantAttendu b etablissementId classes (chaine doc.2 .eleveId)).map
      fun e => (chaine doc.2 .parentId, e)
  refine ⟨_, foldlM_eq_ok (g := fun m doc => ((entree doc).map fun x =>
    addUnder m x.1 x.2).getD m) (fun enfants doc hdoc => ?_) _, fun t ht => ?_⟩
  · obtain ⟨-, p, -, hp⟩ := mem_liensDe.mp hdoc
    obtain ⟨e, he⟩ := hstr doc hdoc
    have hmem : chaine doc.2 .eleveId ∈ elevesLies b ids := List.mem_map_of_mem hdoc
    have hget : doc.2.get .parentId = .str p := by rw [Doc.get, hp]; rfl
    have hget' : doc.2.get .eleveId = .str e := by rw [Doc.get, he]; rfl
    have hpas : ajouterEnfant enfant enfants doc =
        .ok ((enfant e).elim enfants fun x => addUnder enfants p x) := by
      unfold ajouterEnfant
      rw [hget, hget']
      have hstr : ∀ s : String, (Value.str s : Valeur).asStr = pure s := fun _ => rfl
      rw [hstr, hstr, pure_bind, pure_bind]
      cases enfant e <;> rfl
    rw [hpas, ← chaine_of_str he, henfant _ hmem, Option.map_map, ← chaine_of_str hp]
    cases enfantAttendu b etablissementId classes (chaine doc.2 .eleveId) <;> rfl
  · rw [getD_foldl_addUnder, Option.getD_none, List.nil_append, enfantsAttendus,
      ← run_whereIn_filterMap ht]
    refine List.filterMap_congr fun doc _ => ?_
    rw [Option.bind_map]
    by_cases hk : chaine doc.2 .parentId = t
    · rw [if_pos hk]
      cases enfantAttendu b etablissementId classes (chaine doc.2 .eleveId) with
      | none => rfl
      | some e => exact if_pos hk
    · rw [if_neg hk]
      cases enfantAttendu b etablissementId classes (chaine doc.2 .eleveId) with
      | none => rfl
      | some e => exact if_neg hk

/-! ### The load -/

theorem ends_utilisateursDe_bind {α : Type} {ids : List String}
    {Q : Except Err α → MessagerieEnseignant → Base → Prop}
    {f : List UtilisateurModele → Action Unit MessagerieEnseignant α} {p : MessagerieEnseignant}
    (hok : IdsAdmis S.maxIn ids → ∀ us, Utilisateurs b etablissementId ids us →
      (f us).Ends S.handler Q p b)
    (hrefus : ¬(IdsAdmis S.maxIn ids ∧ ComptesLisibles b etablissementId ids) →
      ∀ e, Q (.error e) p b) :
    (Prog.bind (utilisateursDe ids etablissementId) f).Ends S.handler Q p b := by
  unfold utilisateursDe
  simp only [bind_eq]
  rw [bind_assoc]
  refine ends_chercherParIds_bind rfl (fun hids => ?_) fun h => hrefus (fun hids => h hids.1) _
  refine ends_ofExcept_bind (fun us hus => hok hids us hus) fun e herror => hrefus (fun h => ?_) e
  obtain ⟨us, hus⟩ := exists_utilisateurs_iff.mpr h.2
  cases herror.symm.trans hus

theorem ends_chargerEnfants (p : MessagerieEnseignant) (ids : List String) :
    (chargerEnfants ids etablissementId).Ends S.handler (fun a q b' =>
      (b' = b ∧ q.parents = p.parents ∧ q.enseignantDocId = p.enseignantDocId) ∧
      match a with
      | .ok _ => EnfantsLus S.maxIn b etablissementId ids ∧ ∀ t ∈ ids,
          (q.enfantsParParent t).getD [] =
            enfantsAttendus b etablissementId p.classesEtablissement t
      | .error _ => ¬EnfantsLus S.maxIn b etablissementId ids) p b := by
  unfold chargerEnfants
  simp only [bind_eq]
  refine ends_chercher_bind (fun hparents => ?_) fun hrefus => ?_
  on_goal 2 => exact ⟨⟨rfl, rfl, rfl⟩, fun h => not_admise_of_refused hrefus rfl h.parents⟩
  have hparents : Admise S.maxIn ids := admise_of_accepted hparents
  refine ends_ofExcept_bind (fun liens hliens => ?_) fun e herror => ?_
  on_goal 2 => exact ⟨⟨rfl, rfl, rfl⟩, fun h => by cases herror.symm.trans h.mapM_eleveIds⟩
  obtain ⟨hstr, rfl⟩ := eleveIds_lus hliens
  show Ends _ _ (if (elevesLies b ids).eraseDups = [] then _ else _) p b
  have hfamille : "" ∉ elevesLies b ids → ∀ i d, b.doc .famille i = some d → ∀ t ∈ ids,
      d .parentId = some (.str t) → ∃ e, e ≠ "" ∧ d .eleveId = some (.str e) := by
    intro hvide i d hd t ht hparent
    have hdoc : (i, d) ∈ liensDe b ids := mem_liensDe.mpr ⟨hd, t, ht, hparent⟩
    obtain ⟨e, he⟩ := hstr (i, d) hdoc
    exact ⟨e, ne_vide_of_notMem_chaines hvide hdoc he, he⟩
  by_cases hvide : (elevesLies b ids).eraseDups = []
  · have hlies : elevesLies b ids = [] := eraseDups_eq_nil_iff.mp hvide
    have haucun : ∀ e, e ∉ elevesLies b ids := fun e he => by rw [hlies] at he; cases he
    rw [if_pos hvide]
    refine ⟨⟨rfl, rfl, rfl⟩, ⟨hparents, hfamille (haucun _), ?_, fun e he => ?_, ?_, ?_⟩, ?_⟩
    · rw [hvide]
      exact Nat.zero_le _
    · exact absurd he (haucun e)
    · rw [hlies]
      exact List.not_mem_nil
    · rw [hlies]
      exact fun u hu => by cases hu
    · exact fun t ht => (enfantsAttendus_eq_nil ht fun id hid => absurd hid (haucun id)).symm
  rw [if_neg hvide]
  refine ends_chercherParIds_bind rfl (fun hadmis => ?_) fun hrefus => ?_
  on_goal 2 => exact ⟨⟨rfl, rfl, rfl⟩, fun h => hrefus (h.idsAdmis hvide)⟩
  refine ends_ofExcept_bind (fun eleves heleves => ?_) fun e herror => ?_
  on_goal 2 =>
    refine ⟨⟨rfl, rfl, rfl⟩, fun h => ?_⟩
    obtain ⟨es, hes⟩ := exists_eleves_iff.mpr h.eleves
    cases herror.symm.trans hes
  have hnonVide : "" ∉ elevesLies b ids := fun h => hadmis.1 (List.mem_eraseDups.mpr h)
  have hlus := exists_eleves_iff.mp ⟨eleves, heleves⟩
  have henfants : "" ∉ comptesEleves b (elevesLies b ids) →
      ComptesLisibles b etablissementId (comptesEleves b (elevesLies b ids)) →
      EnfantsLus S.maxIn b etablissementId ids := fun h h' =>
    ⟨hparents, hfamille hnonVide, hadmis.2.2, hlus, h, h'⟩
  have hcomptes : ∀ u, u ∈ (eleves.map EleveModele.utilisateurId).eraseDups ↔
      u ∈ comptesEleves b (elevesLies b ids) := fun u =>
    List.mem_eraseDups.trans (mem_comptesEleves_iff heleves)
  by_cases haucun : (eleves.map EleveModele.utilisateurId).eraseDups = []
  · have hrien : comptesEleves b (elevesLies b ids) = [] :=
      List.eq_nil_iff_forall_not_mem.mpr fun u hu => by
        have h := (hcomptes u).mpr hu
        rw [haucun] at h
        cases h
    rw [if_pos haucun]
    refine ⟨⟨rfl, rfl, rfl⟩, henfants ?_ ?_, fun t ht => ?_⟩
    · rw [hrien]
      exact List.not_mem_nil
    · rw [hrien]
      exact fun u hu => by cases hu
    · refine (enfantsAttendus_eq_nil ht fun id hid => ?_).symm
      unfold enfantAttendu
      cases hd : b.doc .eleves id with
      | none => rfl
      | some d =>
        -- a student found would have an account
        have hu : chaine d .utilisateurId ∈ comptesEleves b (elevesLies b ids) :=
          List.mem_map_of_mem (List.mem_filterMap.mpr ⟨id, hid, hd⟩)
        rw [hrien] at hu
        cases hu
  rw [if_neg haucun]
  refine ends_utilisateursDe_bind (fun hids us hus => ?_) fun hrefus e => ?_
  · obtain ⟨enfants, hfold, hmap⟩ := foldlM_ajouterEnfant hstr fun id hid =>
      enfantDe_eq heleves hus p.classesEtablissement hid
    rw [ends_page_bind, hfold, ofExcept_ok, bind_ret]
    refine ⟨⟨rfl, rfl, rfl⟩, henfants (fun h => hids.1 ((hcomptes _).mpr h)) ?_, hmap⟩
    exact fun u hu => exists_utilisateurs_iff.mp ⟨us, hus⟩ u ((hcomptes u).mpr hu)
  · refine ⟨⟨rfl, rfl, rfl⟩, fun h => hrefus ⟨⟨fun hu => ?_, haucun, ?_⟩, fun u hu => ?_⟩⟩
    · exact h.comptes ((hcomptes _).mp hu)
    · exact (length_comptesEleves_le heleves).trans h.nombre
    · exact h.utilisateurs u ((hcomptes u).mp hu)

theorem ends_chargerNb {ids : List String} (hids : ids.Nodup) (isParent : Bool)
    (p : MessagerieEnseignant) :
    (chargerNbMessagesNonLusParExpediteur ids isParent).Ends S.handler (fun a q _ =>
      (q.parents = p.parents ∧ q.enfantsParParent = p.enfantsParParent) ∧
      ((∃ x, a = .ok x) ↔
        ∀ moi, p.enseignantDocId = some moi → ids ≠ [] → nonLusLisibles b moi = true)) p b := by
  cases hp : p.enseignantDocId with
  | none =>
    unfold chargerNbMessagesNonLusParExpediteur
    simp only [bind_eq]
    rw [ends_page_bind, hp]
    exact ⟨⟨rfl, rfl⟩, iff_of_true ⟨(), rfl⟩ fun moi h => by cases h⟩
  | some moi =>
    unfold Ends
    rw [← chargerNbParTranches_ten, exec_chargerNbParTranches (by decide) hp hids]
    by_cases hvide : ids = []
    · rw [if_pos hvide]
      exact ⟨⟨rfl, rfl⟩, iff_of_true ⟨(), rfl⟩ fun _ _ h => absurd hvide h⟩
    rw [if_neg hvide]
    by_cases hlus : nonLusLisibles b moi = true
    · rw [if_pos hlus]
      refine ⟨?_, iff_of_true ⟨(), rfl⟩ fun moi' h _ => Option.some.inj h ▸ hlus⟩
      cases isParent <;> exact ⟨rfl, rfl⟩
    · rw [if_neg hlus]
      refine ⟨⟨rfl, rfl⟩, iff_of_false (fun h => ?_) fun h => hlus (h moi rfl hvide)⟩
      obtain ⟨x, hx⟩ := h
      cases hx

/-- The parent in a document. -/
def parentDe (doc : String × Document) : ParentModele := ⟨doc.1, chaine doc.2 .utilisateurId⟩

/-- The parents have accounts; when there are any, the ids the load asks for can be asked for, and
what it reads can be decoded. -/
structure Chargeable (maxIn : ℕ) (b : Base) (p : MessagerieEnseignant) : Prop where
  parents : ∀ id d, b.doc .parents id = some d → ∃ u, u ≠ "" ∧ d .utilisateurId = some (.str u)
  nombre : (comptes b .parents).eraseDups.length ≤ maxIn
  utilisateurs : ComptesLisibles b p.etablissementId (comptes b .parents)
  enfants : tous b .parents ≠ [] →
    EnfantsLus maxIn b p.etablissementId (idsDe b p.etablissementId .parents)
  messages : tous b .parents ≠ [] → ∀ moi, p.enseignantDocId = some moi →
    nonLusLisibles b moi = true

/-- The load has ended without error, with every parent of the establishment, each once, and his
children. -/
structure Complet (b : Base) (etablissementId : String) (classes : List (String × String))
    (a : Except Err Unit) (q : MessagerieEnseignant) : Prop where
  fin : a = .ok ()
  nodup : (q.parents.map ParentModele.id).Nodup
  mem_iff : ∀ x : ParentModele, x ∈ q.parents ↔
    ∃ d, b.doc .parents x.id = some d ∧ d .utilisateurId = some (.str x.utilisateurId) ∧
      DansEcole b etablissementId x.utilisateurId
  enfants : ∀ x ∈ q.parents, (q.enfantsParParent x.id).getD [] =
    enfantsAttendus b etablissementId classes x.id

theorem complet_of
    (hlus : ∀ id d, b.doc .parents id = some d → ∃ u, d .utilisateurId = some (.str u))
    {q : MessagerieEnseignant} {classes : List (String × String)}
    (hparents : q.parents = (fichesDe b etablissementId .parents).map parentDe)
    (henfants : ∀ t ∈ idsDe b etablissementId .parents, (q.enfantsParParent t).getD [] =
      enfantsAttendus b etablissementId classes t) :
    Complet b etablissementId classes (.ok ()) q where
  fin := rfl
  nodup := by
    rw [hparents, List.map_map]
    exact nodup_idsDe .parents
  mem_iff x := by
    rw [hparents]
    exact mem_map_fichesDe ParentModele.mk.inj hlus
  enfants x hx := by
    rw [hparents] at hx
    obtain ⟨doc, hdoc, rfl⟩ := List.mem_map.mp hx
    exact henfants doc.1 (List.mem_map_of_mem hdoc)

/-- The models of the parents whose accounts were read. -/
theorem mapM_modelesParents
    (hlus : ∀ id d, b.doc .parents id = some d → ∃ u, d .utilisateurId = some (.str u)) :
    (tous b .parents).mapM (fun doc => ParentModele.fromMap doc.2 doc.1) =
      Except.ok ((tous b .parents).map parentDe) := by
  refine mapM_eq_ok fun doc hdoc => ?_
  obtain ⟨u, hu⟩ := hlus doc.1 doc.2 (Query.of_mem_run hdoc).1
  unfold ParentModele.fromMap parentDe
  rw [Doc.get, hu, chaine_of_str hu]
  rfl

theorem ends_chargerParentsAvecEnfants (p : MessagerieEnseignant) :
    chargerParentsAvecEnfants.Ends S.handler (fun a q _ =>
      Complet b p.etablissementId p.classesEtablissement a q ↔ Chargeable S.maxIn b p) p b := by
  have hechec : ∀ {e : Err} {q : MessagerieEnseignant},
      ¬Complet b p.etablissementId p.classesEtablissement (.error e) q := fun h => by cases h.fin
  unfold chargerParentsAvecEnfants
  simp only [bind_eq]
  rw [ends_page_bind]
  refine ends_chercher_bind (fun _ => ?_) fun hrefus => by cases hrefus
  rw [show (⟨[], none, none⟩ : Query Champ).run (b.docs .parents) = tous b .parents from rfl]
  refine ends_ofExcept_bind (fun ids hids => ?_) fun e herror => ?_
  on_goal 2 =>
    refine iff_of_false hechec fun h => ?_
    have hlu : ∀ doc ∈ tous b .parents, ∃ u, (doc.2.get .utilisateurId).asStr = .ok u := by
      rintro ⟨id, d⟩ hdoc
      obtain ⟨u, -, hu⟩ := h.parents id d (mem_tous.mp hdoc)
      exact ⟨u, Doc.asStr_get_iff.mpr hu⟩
    obtain ⟨us, hus⟩ := exists_mapM_iff.mpr hlu
    cases herror.symm.trans hus
  have hlus : ∀ id d, b.doc .parents id = some d → ∃ u, d .utilisateurId = some (.str u) := by
    intro id d hd
    obtain ⟨u, -, hu⟩ := exists_mem_of_mapM hids (mem_tous.mpr hd)
    exact ⟨u, Doc.asStr_get_iff.mp hu⟩
  obtain rfl : ids = comptes b .parents :=
    Except.ok.inj (hids.symm.trans (mapM_eq_ok fun doc hdoc => by
      obtain ⟨u, hu⟩ := hlus doc.1 doc.2 (mem_tous.mp hdoc)
      rw [Doc.get, hu, chaine_of_str hu]
      rfl))
  by_cases hvide : comptes b .parents = []
  · have htous : tous b .parents = [] := List.map_eq_nil_iff.mp hvide
    have haucun : ∀ id d, b.doc .parents id ≠ some d := fun id d hd => by
      have h := mem_tous.mpr hd
      rw [htous] at h
      cases h
    have hfiches : fichesDe b p.etablissementId .parents = [] := by
      rw [fichesDe, htous, List.filter_nil]
    rw [if_pos hvide]
    refine iff_of_true (complet_of hlus ?_ fun t ht => ?_) ⟨fun id d hd => ?_, ?_, ?_, ?_, ?_⟩
    · rw [hfiches]
      rfl
    · rw [idsDe, hfiches] at ht
      cases ht
    · exact absurd hd (haucun id d)
    · rw [hvide]
      exact Nat.zero_le _
    · rw [hvide]
      exact fun u hu => by cases hu
    · exact fun h => absurd htous h
    · exact fun h => absurd htous h
  have htous : tous b .parents ≠ [] := fun h => hvide (List.map_eq_nil_iff.mpr h)
  rw [if_neg hvide]
  refine ends_utilisateursDe_bind (fun hadmis us hus => ?_) fun hrefus e => ?_
  on_goal 2 =>
    refine iff_of_false hechec fun h => hrefus ⟨⟨fun hu => ?_, ?_, h.nombre⟩, ?_⟩
    · have hnommes : "" ∉ comptes b .parents :=
        vide_notMem_chaines fun doc hdoc => h.parents doc.1 doc.2 (mem_tous.mp hdoc)
      exact hnommes (List.mem_eraseDups.mp hu)
    · exact fun h => hvide (eraseDups_eq_nil_iff.mp h)
    · exact comptesLisibles_eraseDups.mpr h.utilisateurs
  have hparents : ∀ id d, b.doc .parents id = some d →
      ∃ u, u ≠ "" ∧ d .utilisateurId = some (.str u) := by
    intro id d hd
    have hnommes : "" ∉ comptes b .parents := fun h => hadmis.1 (List.mem_eraseDups.mpr h)
    obtain ⟨u, hu⟩ := hlus id d hd
    exact ⟨u, ne_vide_of_notMem_chaines hnommes (mem_tous.mpr hd) hu, hu⟩
  have hlisibles := comptesLisibles_eraseDups.mp (exists_utilisateurs_iff.mp ⟨us, hus⟩)
  rw [ends_setState_bind, mapM_modelesParents hlus, ofExcept_ok, bind_ret, ends_setState_bind,
    hus.filter_eq fun _ => rfl, ends_bind, List.map_map]
  refine (ends_chargerEnfants _ _).mono fun a q b' h => ?_
  obtain ⟨⟨rfl, hlesParents, hmoi⟩, h⟩ := h
  rcases a with e | x
  · exact iff_of_false hechec fun hc => h (hc.enfants htous)
  obtain ⟨henfants, hmap⟩ := h
  refine (ends_chargerNb hus.nodup _ q).mono fun a r b'' h => ?_
  obtain ⟨⟨hlesParents', henfants'⟩, hnb⟩ := h
  -- a parent of the establishment has an account there
  have hcomptes : us.map UtilisateurModele.id ≠ [] := by
    intro h
    obtain ⟨id, hid⟩ := List.exists_mem_of_ne_nil _ henfants.parents.1
    obtain ⟨⟨id', d⟩, hdoc, -⟩ := List.mem_map.mp hid
    obtain ⟨hd, hecole⟩ := mem_fichesDe.mp hdoc
    have hu := (hus.mem_iff (List.mem_eraseDups.mpr
      (List.mem_map.mpr ⟨(id', d), mem_tous.mpr hd, rfl⟩))).mpr hecole
    rw [h] at hu
    cases hu
  constructor
  · intro h
    refine ⟨hparents, hadmis.2.2, hlisibles, fun _ => henfants, fun _ moi hm => ?_⟩
    exact hnb.mp ⟨(), h.fin⟩ moi (hmoi.trans hm) hcomptes
  · intro h
    obtain ⟨y, rfl⟩ := hnb.mpr fun moi hm _ => h.messages htous moi (hmoi.symm.trans hm)
    refine complet_of hlus (hlesParents'.trans hlesParents) fun t ht => ?_
    exact (congrArg (fun m => (m t).getD []) henfants').trans (hmap t ht)

/-- **The parents offered to a teacher.**  The load ends without error, with every parent of the
establishment and his children, exactly if the ids it asks for can be asked for and the documents it
reads can be decoded. -/
theorem parents_offerts_iff (S : Server) (b : Base) (p : MessagerieEnseignant) :
    Complet b p.etablissementId p.classesEtablissement
        (chargerParentsAvecEnfants.exec S.handler p b).1
        (chargerParentsAvecEnfants.exec S.handler p b).2.1 ↔
      Chargeable S.maxIn b p :=
  ends_chargerParentsAvecEnfants p

/-- The page of a teacher of a school. -/
def pageEnseignant (etablissementId : String) : MessagerieEnseignant where
  utilisateurId := "ut"
  etablissementId := etablissementId
  classesEtablissement := [("c", "6e")]

theorem enfantsLus_ecoleComplete : EnfantsLus 10 ecoleComplete "E" ["p"] where
  parents := by decide
  famille := by
    have htous : tous ecoleComplete .famille =
        [("f", newDoc 0 [texte .parentId "p", texte .eleveId "e"])] := rfl
    exact forall_doc htous (List.forall_mem_singleton.mpr fun _ _ _ => ⟨"e", by decide, rfl⟩)
  nombre := by decide +kernel
  eleves _ _ := by
    have htous : tous ecoleComplete .eleves =
        [("e", newDoc 0 [texte .utilisateurId "ue", texte .classeId "c"])] := rfl
    exact forall_doc (P := fun e d => ∃ m, EleveModele.fromMap d e = .ok m) htous
      (List.forall_mem_singleton.mpr ⟨_, rfl⟩) _
  comptes := by decide +kernel
  utilisateurs := comptesLisibles_ecoleComplete _

theorem chargeable_ecoleComplete : Chargeable 10 ecoleComplete (pageEnseignant "E") where
  parents := by
    have htous : tous ecoleComplete .parents =
        [("p", newDoc 0 [texte .utilisateurId "up"])] := rfl
    exact forall_doc htous (List.forall_mem_singleton.mpr ⟨"up", by decide, rfl⟩)
  nombre := by decide +kernel
  utilisateurs := comptesLisibles_ecoleComplete _
  enfants _ := by
    rw [show idsDe ecoleComplete (pageEnseignant "E").etablissementId .parents = ["p"] by
      decide +kernel]
    exact enfantsLus_ecoleComplete
  messages _ _ h := by cases h

theorem parents_offerts_ecoleComplete : Complet ecoleComplete "E" [("c", "6e")]
    (chargerParentsAvecEnfants.exec (Server.longest 10).handler (pageEnseignant "E")
      ecoleComplete).1
    (chargerParentsAvecEnfants.exec (Server.longest 10).handler (pageEnseignant "E")
      ecoleComplete).2.1 :=
  (parents_offerts_iff (Server.longest 10) ecoleComplete (pageEnseignant "E")).mpr
    chargeable_ecoleComplete

/-- The load of a teacher of another school, which has no parent, fails. -/
theorem ecole_sans_parent : ¬Complet ecoleComplete "F" [("c", "6e")]
    (chargerParentsAvecEnfants.exec (Server.longest 10).handler (pageEnseignant "F")
      ecoleComplete).1
    (chargerParentsAvecEnfants.exec (Server.longest 10).handler (pageEnseignant "F")
      ecoleComplete).2.1 := by
  intro h
  have herr : (chargerParentsAvecEnfants.exec (Server.longest 10).handler (pageEnseignant "F")
      ecoleComplete).1.toOption = none := by
    decide +kernel
  rw [h.fin] at herr
  cases herr

end MessagerieEnseignant

end EduConnect.Messagerie
