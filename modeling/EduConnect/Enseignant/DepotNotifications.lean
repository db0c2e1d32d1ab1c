import EduConnect.Enseignant.Appel
import EduConnect.Lib.Sorted
import EduConnect.Lignes

/-!
# The readers of `DepotNotification`

The stream of a user's notifications decodes each document and drops those that cannot be decoded;
the list of the unread ones filters on the stored `lu`, and the last one is a query limited to one
document.
-/

namespace EduConnect.Enseignant

open Lib Prog

/-- What decoding keeps of a document. -/
theorem NotificationModele.of_fromMap {id : String} {data : Document} {n : NotificationModele}
    (h : NotificationModele.fromMap id data = .ok n) :
    n.id = id ∧ (data.get .lu).orBool false = .ok n.lu ∧ data.get .createdAt = .stamp n.createdAt := by
  unfold NotificationModele.fromMap at h
  iterate 7 obtain ⟨_, -, h⟩ := bind_eq_ok_iff.mp h
  obtain ⟨lu, hlu, h⟩ := bind_eq_ok_iff.mp h
  obtain ⟨createdAt, hcreatedAt, h⟩ := bind_eq_ok_iff.mp h
  iterate 2 obtain ⟨_, -, h⟩ := bind_eq_ok_iff.mp h
  obtain rfl := Except.ok.inj h
  refine ⟨rfl, hlu, ?_⟩
  show data.get .createdAt = .stamp createdAt
  rcases hv : data.get .createdAt with _ | _ | _ | _ | t | _ | _
  all_goals rw [hv] at hcreatedAt
  all_goals first | cases hcreatedAt; rfl | cases hcreatedAt

namespace DepotNotification

variable {Λ σ : Type}

/-- The closure of the readers: a document that cannot be decoded gives nothing. -/
def decoder (doc : String × Document) : Option NotificationModele :=
  (NotificationModele.fromMap doc.1 doc.2).toOption

def filtres (utilisateurId : String) : List (Lib.Filter Champ) :=
  [.isEqualTo .parentId (.str utilisateurId)]

/-- The documents of a user, the latest first. -/
def requete (utilisateurId : String) : Query Champ :=
  ⟨filtres utilisateurId, some (.createdAt, true), none⟩

/-- What the stream emits when the data are `b`. -/
def getNotificationsPourUtilisateur (b : Base) (utilisateurId : String) : List NotificationModele :=
  ((requete utilisateurId).run (b.docs .notifications)).filterMap decoder

def getNotificationsNonLues (l : Λ) (utilisateurId : String) :
    Action Λ σ (List NotificationModele) :=
  catching (do
    let docs ← chercher l .notifications (filtres utilisateurId ++ [.isEqualTo .lu (.bool false)])
    return docs.filterMap decoder) fun e =>
  fail (.exception ("Erreur récupération notifications non lues : " ++ texteErreur e))

def getDerniereNotificationPourUtilisateur (l : Λ) (utilisateurId : String) :
    Action Λ σ (Option NotificationModele) :=
  catching (do
    let docs ← Prog.call l (Req.query .notifications { requete utilisateurId with limit := some 1 })
    match docs with
    | [] => return none
    | doc :: _ => return some (← ofExcept (NotificationModele.fromMap doc.1 doc.2))) fun _ =>
  return none

variable {S : Server} {b : Base} {l : Λ} {s : σ} {u : String}

theorem decoder_eq_some {doc : String × Document} {n : NotificationModele} :
    decoder doc = some n ↔ NotificationModele.fromMap doc.1 doc.2 = .ok n := by
  unfold decoder
  rcases NotificationModele.fromMap doc.1 doc.2 with e | m <;> simp [Except.toOption]

theorem exec_getNotificationsNonLues :
    (getNotificationsNonLues l u : Action Λ σ _).exec S.handler s b =
      (.ok (((⟨filtres u ++ [.isEqualTo .lu (.bool false)], none, none⟩ : Query Champ).run
        (b.docs .notifications)).filterMap decoder), s, b) := by
  unfold getNotificationsNonLues
  rw [exec_catching, bind_eq, exec_bind, exec_chercher rfl]
  rfl

theorem exec_getDerniereNotificationPourUtilisateur :
    (getDerniereNotificationPourUtilisateur l u : Action Λ σ _).exec S.handler s b =
      (.ok (((requete u).run (b.docs .notifications)).head?.bind decoder), s, b) := by
  have hserved : S.handler (.query .notifications { requete u with limit := some 1 } : Requete) b =
      (.ok (((requete u).run (b.docs .notifications)).take 1), b) := rfl
  unfold getDerniereNotificationPourUtilisateur
  rw [exec_catching, bind_eq, exec_bind, exec_call, hserved]
  rcases (requete u).run (b.docs .notifications) with _ | ⟨doc, docs⟩
  · rfl
  · simp only [List.take_succ_cons, List.take_zero, List.head?_cons, Option.bind_some, bind_eq,
      exec_ofExcept_bind, decoder]
    rcases NotificationModele.fromMap doc.1 doc.2 with e | n <;> rfl

/-! ## The three readers -/

/-- The stream gives the user's notifications that can be decoded, each once and the latest first;
the unread ones are those of them that are not read, the last one is the first of them. -/
structure LecteursConcordants (S : Server) (b : Base) (u : String) : Prop where
  toutes : ∀ n, n ∈ getNotificationsPourUtilisateur b u ↔
    ∃ d, b.doc .notifications n.id = some d ∧ d .parentId = some (.str u) ∧
      NotificationModele.fromMap n.id d = .ok n
  uneFois : ((getNotificationsPourUtilisateur b u).map NotificationModele.id).Nodup
  triees : (getNotificationsPourUtilisateur b u).Pairwise fun m n => n.createdAt ≤ m.createdAt
  nonLues : ∃ l, (getNotificationsNonLues () u).exec S.handler () b = (.ok l, (), b) ∧
    (l.map NotificationModele.id).Nodup ∧
      ∀ n, n ∈ l ↔ n ∈ getNotificationsPourUtilisateur b u ∧ n.lu = false
  derniere : (getDerniereNotificationPourUtilisateur () u).exec S.handler () b =
    (.ok (getNotificationsPourUtilisateur b u).head?, (), b)

/-- Every decodable notification of the user holds its `lu`. -/
def LuPresent (b : Base) (u : String) : Prop :=
  ∀ id d n, b.doc .notifications id = some d → d .parentId = some (.str u) →
    NotificationModele.fromMap id d = .ok n → d.get .lu ≠ .null

/-- The user's first document in the order of `createdAt` can be decoded, or none of them can. -/
def PremiereDecodable (b : Base) (u : String) : Prop :=
  ∀ doc docs, (requete u).run (b.docs .notifications) = doc :: docs →
    (∃ n, NotificationModele.fromMap doc.1 doc.2 = .ok n) ∨
      ∀ doc' ∈ docs, ∀ n, NotificationModele.fromMap doc'.1 doc'.2 ≠ .ok n

/-- The ids of decoded rows are those of the rows. -/
theorem nodup_map_decoder {rows : List (String × Document)} (h : (rows.map Prod.fst).Nodup) :
    ((rows.filterMap decoder).map NotificationModele.id).Nodup := by
  have hsub : ((rows.filterMap decoder).map NotificationModele.id).Sublist
      (rows.map Prod.fst) := by
    clear h
    induction rows with
    | nil => exact List.Sublist.slnil
    | cons doc rows ih =>
      rcases hdoc : decoder doc with _ | n
      · rw [List.filterMap_cons_none hdoc, List.map_cons]
        exact ih.cons doc.1
      · have hid := (NotificationModele.of_fromMap (decoder_eq_some.mp hdoc)).1
        rw [List.filterMap_cons_some hdoc, List.map_cons, List.map_cons, hid]
        exact ih.cons_cons doc.1
  exact h.sublist hsub

/-- Each decodable notification of the user is in the stream. -/
theorem mem_getNotificationsPourUtilisateur {n : NotificationModele} :
    n ∈ getNotificationsPourUtilisateur b u ↔
      ∃ d, b.doc .notifications n.id = some d ∧ d .parentId = some (.str u) ∧
        NotificationModele.fromMap n.id d = .ok n := by
  unfold getNotificationsPourUtilisateur
  rw [List.mem_filterMap]
  constructor
  · rintro ⟨⟨id, d⟩, hdoc, hn⟩
    have hdecode := decoder_eq_some.mp hn
    obtain rfl := (NotificationModele.of_fromMap hdecode).1
    obtain ⟨hd, hfiltre, -⟩ := Query.mem_run_orderBy.mp hdoc
    exact ⟨d, hd, Filter.sat_isEqualTo_str.mp (hfiltre _ List.mem_cons_self), hdecode⟩
  · rintro ⟨d, hd, hparent, hdecode⟩
    have hdate := (NotificationModele.of_fromMap hdecode).2.2
    refine ⟨(n.id, d), Query.mem_run_orderBy.mpr ⟨hd, ?_, ?_⟩, decoder_eq_some.mpr hdecode⟩
    · intro c hc
      rw [List.mem_singleton.mp hc]
      exact Filter.sat_isEqualTo_str.mpr hparent
    · rcases hv : d .createdAt with _ | v
      · unfold Doc.get at hdate
        rw [hv] at hdate
        cases hdate
      · rfl

theorem nodup_getNotificationsPourUtilisateur :
    ((getNotificationsPourUtilisateur b u).map NotificationModele.id).Nodup := by
  refine nodup_map_decoder ?_
  have hperm : ((requete u).run (b.docs .notifications)).Perm _ := Query.run_orderBy_perm _
  refine (hperm.map Prod.fst).nodup_iff.mpr ?_
  exact (b.docs .notifications).keys_nodup.sublist
    ((List.filter_sublist.trans List.filter_sublist).map Prod.fst)

theorem pairwise_getNotificationsPourUtilisateur :
    (getNotificationsPourUtilisateur b u).Pairwise fun m n => n.createdAt ≤ m.createdAt := by
  have hrows := Query.pairwise_run_desc (filtres u) .createdAt (b.docs .notifications)
  refine hrows.filterMap decoder ?_
  intro doc doc' hle m hm n hn
  have hm' := (NotificationModele.of_fromMap (decoder_eq_some.mp hm)).2.2
  have hn' := (NotificationModele.of_fromMap (decoder_eq_some.mp hn)).2.2
  rw [hm', hn'] at hle
  exact of_decide_eq_true hle

/-- The unread ones are those that hold `lu: false`. -/
theorem mem_nonLues {n : NotificationModele} :
    n ∈ ((⟨filtres u ++ [.isEqualTo .lu (.bool false)], none, none⟩ : Query Champ).run
        (b.docs .notifications)).filterMap decoder ↔
      ∃ d, b.doc .notifications n.id = some d ∧ d .parentId = some (.str u) ∧
        NotificationModele.fromMap n.id d = .ok n ∧ d .lu = some (.bool false) := by
  rw [List.mem_filterMap]
  constructor
  · rintro ⟨⟨id, d⟩, hdoc, hn⟩
    have hdecode := decoder_eq_some.mp hn
    obtain rfl := (NotificationModele.of_fromMap hdecode).1
    obtain ⟨hd, hfiltre⟩ := Query.mem_run.mp hdoc
    refine ⟨d, hd, Filter.sat_isEqualTo_str.mp (hfiltre _ (by simp [filtres])), hdecode, ?_⟩
    exact Filter.sat_isEqualTo_bool.mp (hfiltre _ (by simp))
  · rintro ⟨d, hd, hparent, hdecode, hlu⟩
    refine ⟨(n.id, d), Query.mem_run.mpr ⟨hd, ?_⟩, decoder_eq_some.mpr hdecode⟩
    intro c hc
    rcases List.mem_append.mp hc with hc | hc
    · rw [List.mem_singleton.mp hc]
      exact Filter.sat_isEqualTo_str.mpr hparent
    · rw [List.mem_singleton.mp hc]
      exact Filter.sat_isEqualTo_bool.mpr hlu

/-- An unread notification that holds its `lu` holds `false`. -/
theorem lu_eq_false_iff {d : Document} {n : NotificationModele}
    (h : NotificationModele.fromMap n.id d = .ok n) :
    d .lu = some (.bool false) ↔ n.lu = false ∧ d.get .lu ≠ .null := by
  have hlu := (NotificationModele.of_fromMap h).2.1
  unfold Doc.get at hlu ⊢
  generalize d .lu = w at hlu ⊢
  rcases w with _ | v
  · simp
  · cases v with
    | null => simp
    | bool v =>
      have hv : v = n.lu := Except.ok.inj hlu
      simp [hv]
    | _ => cases hlu

theorem luPresent_of_concordants (h : LecteursConcordants S b u) : LuPresent b u := by
  intro id d n hd hparent hdecode hnull
  obtain rfl := (NotificationModele.of_fromMap hdecode).1
  have hlu := (NotificationModele.of_fromMap hdecode).2.1
  rw [hnull] at hlu
  obtain ⟨l, hl, -, hmem⟩ := h.nonLues
  rw [exec_getNotificationsNonLues] at hl
  have hn : n ∈ l := (hmem n).mpr ⟨(h.toutes n).mpr ⟨d, hd, hparent, hdecode⟩,
    (Except.ok.inj hlu).symm⟩
  obtain rfl := Except.ok.inj (Prod.mk.inj hl).1
  obtain ⟨d', hd', -, -, hfaux⟩ := mem_nonLues.mp hn
  rw [hd] at hd'
  obtain rfl := Option.some.inj hd'
  exact ((lu_eq_false_iff hdecode).mp hfaux).2 hnull

/-- The first row decodes to the first decoded row, unless it hides a later one. -/
theorem bind_head_decoder_iff {rows : List (String × Document)} :
    rows.head?.bind decoder = (rows.filterMap decoder).head? ↔
      ∀ doc docs, rows = doc :: docs → (∃ n, NotificationModele.fromMap doc.1 doc.2 = .ok n) ∨
        ∀ doc' ∈ docs, ∀ n, NotificationModele.fromMap doc'.1 doc'.2 ≠ .ok n := by
  rcases rows with _ | ⟨doc, docs⟩
  · exact ⟨fun _ doc docs hnil => (by cases hnil), fun _ => rfl⟩
  · have haucune : docs.findSome? decoder = none ↔
        ∀ doc' ∈ docs, ∀ n, NotificationModele.fromMap doc'.1 doc'.2 ≠ .ok n := by
      rw [List.findSome?_eq_none_iff]
      simp only [Option.eq_none_iff_forall_ne_some, Ne, decoder_eq_some]
    have hpremiere : (∀ doc₁ docs₁, doc :: docs = doc₁ :: docs₁ →
        (∃ n, NotificationModele.fromMap doc₁.1 doc₁.2 = .ok n) ∨
          ∀ doc' ∈ docs₁, ∀ n, NotificationModele.fromMap doc'.1 doc'.2 ≠ .ok n) ↔
        (∃ n, decoder doc = some n) ∨ docs.findSome? decoder = none := by
      simp only [haucune, decoder_eq_some]
      constructor
      · exact fun h => h doc docs rfl
      · rintro h _ _ heq
        obtain ⟨rfl, rfl⟩ := List.cons.inj heq
        exact h
    rw [hpremiere, List.head?_cons, Option.bind_some, List.head?_filterMap, List.findSome?_cons]
    rcases decoder doc with _ | n
    · simp [eq_comm]
    · simp

/-- The stream is right of every collection, the list of the unread ones where `lu` is held, the
last one where the first document can be decoded. -/
theorem lecteursConcordants_iff (S : Server) (b : Base) (u : String) :
    LecteursConcordants S b u ↔ LuPresent b u ∧ PremiereDecodable b u := by
  constructor
  · intro h
    refine ⟨luPresent_of_concordants h, bind_head_decoder_iff.mp ?_⟩
    have hderniere := h.derniere
    rw [exec_getDerniereNotificationPourUtilisateur] at hderniere
    exact Except.ok.inj (Prod.mk.inj hderniere).1
  · rintro ⟨hlu, hpremiere⟩
    refine ⟨fun n => mem_getNotificationsPourUtilisateur, nodup_getNotificationsPourUtilisateur,
      pairwise_getNotificationsPourUtilisateur, ?_, ?_⟩
    · refine ⟨_, exec_getNotificationsNonLues, nodup_map_decoder (Query.keys_run_nodup _ _),
        fun n => ?_⟩
      rw [mem_nonLues, mem_getNotificationsPourUtilisateur]
      constructor
      · rintro ⟨d, hd, hparent, hdecode, hfaux⟩
        exact ⟨⟨d, hd, hparent, hdecode⟩, ((lu_eq_false_iff hdecode).mp hfaux).1⟩
      · rintro ⟨⟨d, hd, hparent, hdecode⟩, hfaux⟩
        refine ⟨d, hd, hparent, hdecode, (lu_eq_false_iff hdecode).mpr ⟨hfaux, ?_⟩⟩
        exact hlu n.id d n hd hparent hdecode
    · rw [exec_getDerniereNotificationPourUtilisateur, bind_head_decoder_iff.mpr hpremiere]
      rfl

/-- An unread notification without `lu`. -/
def sansLu : Document := newDoc 0 [texte .parentId "p", (.createdAt, .put (.stamp 0))]

/-- It is in the stream, but not among the unread ones. -/
theorem not_lecteursConcordants_sansLu :
    ¬ LecteursConcordants (Server.longest 10) (baseVide.putDoc .notifications "n" sansLu) "p" := by
  intro h
  have hdecode : NotificationModele.fromMap "n" sansLu = .ok
      ⟨"n", "", "p", "", "", "", "", "", false, 0, none, none⟩ := rfl
  refine luPresent_of_concordants h "n" sansLu _ ?_ rfl hdecode rfl
  rw [Data.doc_putDoc, if_pos ⟨rfl, rfl⟩]

end DepotNotification

end EduConnect.Enseignant
