import EduConnect.Lib.Lots
import EduConnect.Schema

/-!
# Rows read

What the rows of a query give once decoded: fields read as strings, the row of an id, and the rows
found under a key.  `Admise` says which lists of ids the database accepts in a query.
-/

namespace EduConnect

open Lib Prog

/-! ## Fields -/

/-- A field read as a string, with a default. -/
def chaineOu (defaut : String) (d : Document) (f : Champ) : String :=
  match d f with
  | some (.str s) => s
  | _ => defaut

def chaine (d : Document) (f : Champ) : String := chaineOu "" d f

theorem chaineOu_of_str {d : Document} {f : Champ} {s defaut : String}
    (h : d f = some (.str s)) : chaineOu defaut d f = s := by
  rw [chaineOu, h]

theorem chaineOu_of_orStr {d : Document} {f : Champ} {s defaut : String}
    (h : (d.get f).orStr defaut = .ok s) : chaineOu defaut d f = s := by
  unfold Doc.get at h
  unfold chaineOu
  rcases hd : d f with _ | v
  · rw [hd] at h
    exact Except.ok.inj h
  · rw [hd] at h
    cases v <;> first | exact Except.ok.inj h | cases h

theorem chaine_of_str {d : Document} {f : Champ} {s : String} (h : d f = some (.str s)) :
    chaine d f = s := chaineOu_of_str h

theorem chaine_of_orStr {d : Document} {f : Champ} {s : String}
    (h : (d.get f).orStr "" = .ok s) : chaine d f = s := chaineOu_of_orStr h

section Rows

variable {rows : List (String × Document)} {f : Champ}

/-- Rows that name something name nothing empty. -/
theorem vide_notMem_chaines (h : ∀ doc ∈ rows, ∃ x, x ≠ "" ∧ doc.2 f = some (.str x)) :
    "" ∉ rows.map fun doc => chaine doc.2 f := by
  intro hvide
  obtain ⟨doc, hdoc, hchaine⟩ := List.mem_map.mp hvide
  obtain ⟨x, hne, hx⟩ := h doc hdoc
  exact hne ((chaine_of_str hx).symm.trans hchaine)

theorem ne_vide_of_notMem_chaines (h : "" ∉ rows.map fun doc => chaine doc.2 f)
    {doc : String × Document} (hdoc : doc ∈ rows) {x : String} (hx : doc.2 f = some (.str x)) :
    x ≠ "" := by
  rintro rfl
  exact h (List.mem_map.mpr ⟨doc, hdoc, chaine_of_str hx⟩)

end Rows

/-- The documents of a collection. -/
def tous (b : Base) (c : Collection) : List (String × Document) :=
  (⟨[], none, none⟩ : Query Champ).run (b.docs c)

/-! ## Queries on ids -/

/-- The database accepts a query on these ids. -/
def Admise (maxIn : ℕ) (ids : List String) : Prop := ids ≠ [] ∧ ids.length ≤ maxIn

theorem admise_iff {maxIn : ℕ} {ids : List String} {fs : List (Lib.Filter Champ)}
    (hfs : fs.any (Filter.refused maxIn) = false) :
    (Filter.idIn ids :: fs).any (Filter.refused maxIn) = false ↔ Admise maxIn ids := by
  rw [List.any_cons, hfs, Bool.or_false]
  unfold Filter.refused Admise
  rw [Bool.or_eq_false_iff, decide_eq_false_iff_not, decide_eq_false_iff_not, not_lt]

theorem admise_of_accepted {maxIn : ℕ} {ids : List String} {fs : List (Lib.Filter Champ)}
    (h : (Filter.idIn ids :: fs).any (Filter.refused maxIn) = false) : Admise maxIn ids := by
  refine (admise_iff ?_).mp h
  rw [List.any_cons, Bool.or_eq_false_iff] at h
  exact h.2

theorem not_admise_of_refused {maxIn : ℕ} {ids : List String} {fs : List (Lib.Filter Champ)}
    (h : (Filter.idIn ids :: fs).any (Filter.refused maxIn) = true)
    (hfs : fs.any (Filter.refused maxIn) = false) : ¬Admise maxIn ids := by
  intro hadmise
  rw [(admise_iff hfs).mpr hadmise] at h
  cases h

instance (n : ℕ) (ids : List String) : Decidable (Admise n ids) :=
  inferInstanceAs (Decidable (_ ∧ _))

/-- The documents with these ids can be asked for. -/
def IdsAdmis (maxIn : ℕ) (ids : List String) : Prop := "" ∉ ids ∧ Admise maxIn ids

theorem keeps_chercherParIds {Λ σ : Type} {J : σ → Prop} (l : Λ) (c : Collection)
    (ids : List String) (fs : List (Lib.Filter Champ)) :
    (chercherParIds l c ids fs : Action Λ σ _).Keeps J :=
  .ite (keeps_fail _) (keeps_call _ _)

theorem ends_chercherParIds_bind {Λ σ α : Type} {S : Server} {s : σ} {b : Base} {l : Λ}
    {c : Collection} {ids : List String} {fs : List (Lib.Filter Champ)}
    {f : List (String × Document) → Action Λ σ α} {Q : Except Err α → σ → Base → Prop}
    (hfs : fs.any (Filter.refused S.maxIn) = false)
    (hok : IdsAdmis S.maxIn ids →
      (f ((⟨.idIn ids :: fs, none, none⟩ : Query Champ).run (b.docs c))).Ends S.handler Q s b)
    (hrefus : ¬IdsAdmis S.maxIn ids → Q (.error .invalidArgument) s b) :
    (Prog.bind (chercherParIds l c ids fs) f).Ends S.handler Q s b := by
  unfold chercherParIds
  by_cases hvide : "" ∈ ids
  · rw [if_pos hvide]
    exact hrefus fun h => h.1 hvide
  · rw [if_neg hvide]
    refine ends_chercher_bind (fun h => hok ⟨hvide, admise_of_accepted h⟩) fun h => ?_
    exact hrefus fun hids => not_admise_of_refused h hfs hids.2

/-- The rows found under one of several keys, taken under one of them. -/
theorem run_whereIn_filterMap {β : Type} {t : Table String Document} {f : Champ}
    {ids : List String} {k : String} (hk : k ∈ ids) (g : String × Document → Option β) :
    (((⟨[.whereIn f ids], none, none⟩ : Query Champ).run t).filterMap fun doc =>
      if chaine doc.2 f = k then g doc else none) =
      ((⟨[.isEqualTo f (.str k)], none, none⟩ : Query Champ).run t).filterMap g := by
  show ((t.rows.filter fun a => _).filterMap _) = (t.rows.filter fun a => _).filterMap g
  induction t.rows with
  | nil => rfl
  | cons doc rows ih =>
    rw [List.filter_cons, List.filter_cons]
    simp only [List.all_cons, List.all_nil, Bool.and_true] at ih ⊢
    by_cases heq : (Filter.isEqualTo f (.str k)).sat doc.1 doc.2 = true
    · have hd := Filter.sat_isEqualTo_str.mp heq
      have hin : (Filter.whereIn f ids).sat doc.1 doc.2 = true :=
        Filter.sat_whereIn.mpr ⟨k, hk, hd⟩
      rw [if_pos heq, if_pos hin, List.filterMap_cons, List.filterMap_cons, chaine_of_str hd,
        if_pos rfl, ih]
    · rw [if_neg heq]
      by_cases hin : (Filter.whereIn f ids).sat doc.1 doc.2 = true
      · obtain ⟨s, -, hd⟩ := Filter.sat_whereIn.mp hin
        have hs : s ≠ k := by
          rintro rfl
          exact heq (Filter.sat_isEqualTo_str.mpr hd)
        rw [if_pos hin, List.filterMap_cons, chaine_of_str hd, if_neg hs]
        exact ih
      · rw [if_neg hin]
        exact ih

/-! ## Decoded rows -/

variable {b : Base}

/-- Rows of readable documents are decoded. -/
theorem exists_mapM_run {α : Type} {f : String × Document → Except Err α} {c : Collection}
    (h : ∀ id d, b.doc c id = some d → ∃ a, f (id, d) = .ok a) (q : Query Champ) :
    ∃ as, (q.run (b.docs c)).mapM f = Except.ok as := by
  obtain ⟨as, has, -⟩ := exists_mapM_of_forall (R := fun _ _ => True) (f := f)
    (l := q.run (b.docs c)) fun doc hdoc => by
      obtain ⟨a, ha⟩ := h doc.1 doc.2 (Query.of_mem_run hdoc).1
      exact ⟨a, ha, trivial⟩
  exact ⟨as, has⟩

theorem toOption_eq_some_iff {α : Type} {x : Except Err α} {a : α} :
    x.toOption = some a ↔ x = .ok a := by
  rcases x with e | a'
  · exact iff_of_false (fun h => by cases h) fun h => by cases h
  · exact ⟨fun h => congrArg _ (Option.some.inj h), fun h => congrArg _ (Except.ok.inj h)⟩

/-- What was decoded for an id. -/
theorem find_decode {α : Type} {f : String × Document → Except Err α} {k : α → String}
    (hkey : ∀ doc a, f doc = .ok a → k a = doc.1) {fs : List (Lib.Filter Champ)}
    {c : Collection} {as : List α}
    (has : ((⟨fs, none, none⟩ : Query Champ).run (b.docs c)).mapM f = Except.ok as)
    (id : String) : as.find? (fun a => k a = id) =
      ((b.doc c id).filter fun d => fs.all fun c => c.sat id d).bind fun d =>
        (f (id, d)).toOption := by
  have htest : ∀ doc a, f doc = .ok a → decide (k a = id) = decide (doc.1 = id) :=
    fun doc a ha => by rw [hkey doc a ha]
  rw [find_mapM has htest, Query.find_run]
  show Option.bind (Option.map _ (Option.filter _ ((b.docs c).find id))) _ = _
  rw [Option.bind_map]
  rfl

theorem mem_tous {c : Collection} {id : String} {d : Document} :
    (id, d) ∈ tous b c ↔ b.doc c id = some d := by
  rw [tous, Query.mem_run]
  exact and_iff_left fun c hc => by cases hc

/-! ## A query and the models of its rows -/

section Modeles

variable {Λ σ α : Type} {S : Server}

/-- What a slice out of range throws. -/
def horsBornes : Err := .exception "RangeError"

/-- Query, and decode each row. -/
def chargerModeles (l : Λ) (c : Collection) (fs : List (Lib.Filter Champ))
    (fromMap : Document → String → Except Err α) : Action Λ σ (List α) := do
  let snap ← chercher l c fs
  ofExcept (snap.mapM fun doc => fromMap doc.2 doc.1)

theorem exec_chercher {l : Λ} {c : Collection} {fs : List (Lib.Filter Champ)} {s : σ}
    (h : fs.any (Filter.refused S.maxIn) = false) :
    (chercher l c fs : Action Λ σ _).exec S.handler s b =
      (.ok ((⟨fs, none, none⟩ : Query Champ).run (b.docs c)), s, b) := by
  have hserved : S.handler (.query c ⟨fs, none, none⟩ : Requete) b =
      (.ok ((⟨fs, none, none⟩ : Query Champ).run (b.docs c)), b) := by
    simp only [Server.handler, h]
    rfl
  refine (exec_call l (Req.query c ⟨fs, none, none⟩ : Requete) s b).trans ?_
  rw [hserved]
  rfl

theorem exec_chercher_refused {l : Λ} {c : Collection} {fs : List (Lib.Filter Champ)} {s : σ}
    (h : fs.any (Filter.refused S.maxIn) = true) :
    (chercher l c fs : Action Λ σ _).exec S.handler s b = (.error .invalidArgument, s, b) := by
  have hrefused : S.handler (.query c ⟨fs, none, none⟩ : Requete) b =
      (.error .invalidArgument, b) := by
    simp only [Server.handler, h]
    rfl
  refine (exec_call l (Req.query c ⟨fs, none, none⟩ : Requete) s b).trans ?_
  rw [hrefused]
  rfl

theorem exec_chargerModeles {l : Λ} {c : Collection} {fs : List (Lib.Filter Champ)}
    {fromMap : Document → String → Except Err α} {s : σ}
    (h : fs.any (Filter.refused S.maxIn) = false) :
    (chargerModeles l c fs fromMap).exec S.handler s b =
      (((⟨fs, none, none⟩ : Query Champ).run (b.docs c)).mapM fun doc => fromMap doc.2 doc.1, s,
        b) := by
  unfold chargerModeles
  refine (exec_bind _ _ s b).trans ?_
  rw [exec_chercher h]
  show (Prog.ofExcept _ : Action Λ σ _).exec S.handler s b = _
  rcases List.mapM _ _ with e | as <;> rfl

theorem issues_chargerModeles {G : Λ → Requete → Prop} {l : Λ} {c : Collection}
    {fs : List (Lib.Filter Champ)} {fromMap : Document → String → Except Err α}
    (h : G l (.query c ⟨fs, none, none⟩)) :
    (chargerModeles l c fs fromMap : Action Λ σ _).Issues G :=
  .bind ((issues_chercher ..).mpr h) fun _ => issues_ofExcept _

/-- The models have the ids of their rows. -/
theorem map_id_of_mapM {fromMap : Document → String → Except Err α} {id : α → String}
    (hid : ∀ d i a, fromMap d i = .ok a → id a = i) {rows : List (String × Document)} {as : List α}
    (h : (rows.mapM fun doc => fromMap doc.2 doc.1) = Except.ok as) :
    as.map id = rows.map Prod.fst :=
  map_key_of_mapM (fun doc a ha => hid doc.2 doc.1 a ha) h

/-- The models of a list of stored documents. -/
theorem mem_modeles {c : Collection} {fromMap : Document → String → Except Err α} {id : α → String}
    (hid : ∀ d i a, fromMap d i = .ok a → id a = i) {rows : List (String × Document)}
    {P : String → Document → Prop}
    (hrows : ∀ i d, (i, d) ∈ rows ↔ b.doc c i = some d ∧ P i d) {as : List α}
    (h : (rows.mapM fun doc => fromMap doc.2 doc.1) = Except.ok as) (a : α) :
    a ∈ as ↔ ∃ d, b.doc c (id a) = some d ∧ P (id a) d ∧ fromMap d (id a) = .ok a := by
  constructor
  · intro ha
    obtain ⟨⟨i, d⟩, hdoc, hd⟩ := exists_of_mem_mapM h ha
    obtain rfl := hid _ _ _ hd
    obtain ⟨hfind, hP⟩ := (hrows _ _).mp hdoc
    exact ⟨d, hfind, hP, hd⟩
  · rintro ⟨d, hfind, hP, hd⟩
    obtain ⟨a', ha', hd'⟩ := exists_mem_of_mapM h ((hrows _ _).mpr ⟨hfind, hP⟩)
    obtain rfl := Except.ok.inj (hd.symm.trans hd')
    exact ha'

/-- Each stored document that passes the filters has its model in the list, once. -/
theorem modeles_exacts {c : Collection} {fs : List (Lib.Filter Champ)}
    {fromMap : Document → String → Except Err α} {id : α → String}
    (hid : ∀ d i a, fromMap d i = .ok a → id a = i) {rows : List (String × Document)}
    (hrows : rows.Perm ((⟨fs, none, none⟩ : Query Champ).run (b.docs c))) {as : List α}
    (h : (rows.mapM fun doc => fromMap doc.2 doc.1) = Except.ok as) :
    (as.map id).Nodup ∧ ∀ a, a ∈ as ↔ ∃ d, b.doc c (id a) = some d ∧
      (∀ x ∈ fs, x.sat (id a) d = true) ∧ fromMap d (id a) = .ok a := by
  constructor
  · rw [map_id_of_mapM hid h, (hrows.map Prod.fst).nodup_iff]
    exact Query.keys_run_nodup fs _
  · exact mem_modeles hid (fun i d => hrows.mem_iff.trans Query.mem_run) h

/-- A loop succeeds when each of its turns does. -/
theorem exists_mapM_iff {ε β : Type} {f : α → Except ε β} {l : List α} :
    (∃ bs, l.mapM f = .ok bs) ↔ ∀ a ∈ l, ∃ b, f a = .ok b := by
  constructor
  · rintro ⟨bs, hbs⟩ a ha
    obtain ⟨b, -, hb⟩ := exists_mem_of_mapM hbs ha
    exact ⟨b, hb⟩
  · intro h
    obtain ⟨bs, hbs, -⟩ := exists_mapM_of_forall (R := fun _ _ => True) (f := f) (l := l)
      fun a ha => (h a ha).imp fun _ hb => ⟨hb, trivial⟩
    exact ⟨bs, hbs⟩

/-- What `List<String>.from(v ?? [])` accepts. -/
theorem exists_orStrs_iff {v : Valeur} :
    (∃ l, v.orStrs = .ok l) ↔ v = .null ∨ ∃ l, v = .strs l := by
  constructor
  · rintro ⟨l, hl⟩
    cases v with
    | null => exact .inl rfl
    | list vs =>
      have hvs : vs.map Value.asStr = l.map Except.ok := mapM_eq_ok_iff.mp hl
      refine .inr ⟨l, congrArg Value.list ?_⟩
      refine List.ext_getElem? fun i => ?_
      have hi := congrArg (·[i]?) hvs
      simp only [List.getElem?_map] at hi ⊢
      rcases hv : vs[i]? with _ | w <;> rcases hs : l[i]? with _ | s <;> rw [hv, hs] at hi
      · rfl
      · cases hi
      · cases hi
      · have hw : w.asStr = .ok s := Option.some.inj hi
        cases w with
        | str t => rw [Except.ok.inj hw]; rfl
        | _ => cases hw
    | _ => cases hl
  · rintro (rfl | ⟨l, rfl⟩)
    · exact ⟨[], rfl⟩
    · exact ⟨l, Value.orStrs_strs l⟩

/-- The documents with a given text in a field are decoded one by one. -/
theorem exists_mapM_isEqualTo {c : Collection} {f : Champ} {s : String}
    {g : String × Document → Except Err α} :
    (∃ l, ((⟨[.isEqualTo f (.str s)], none, none⟩ : Query Champ).run (b.docs c)).mapM g =
      Except.ok l) ↔
    ∀ id d, b.doc c id = some d → d f = some (.str s) → ∃ m, g (id, d) = .ok m := by
  rw [exists_mapM_iff]
  constructor
  · exact fun h id d hd hs => h (id, d) (Query.mem_run_isEqualTo.mpr ⟨hd, hs⟩)
  · rintro h ⟨id, d⟩ hdoc
    obtain ⟨hd, hs⟩ := Query.mem_run_isEqualTo.mp hdoc
    exact h id d hd hs

end Modeles

end EduConnect
