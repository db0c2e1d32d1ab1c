import EduConnect.Enseignant.Affichage
import EduConnect.Familles.Ecole

/-!
# Delivery of the notifications of a save

`_enregistrerNotes` writes notifications under ids of students and of parents, and the pages of the
families look for the ids of the documents of their accounts.  In a school (`Ecole`) these are the
same ids, so each student and each parent finds what was written for him.
-/

namespace EduConnect.Familles

open Lib Prog Commun Enseignant

/-! ## The pages of an account -/

/-- The list, opened by the account `u` on the data `b`. -/
def ListeNotificationsElevePage.ouvrir (S : Server) (b : Base) (u : String) :
    ListeNotificationsElevePage :=
  (fetchEleveId.exec S.handler { utilisateurId := u } b).2.1

/-- `pages[1]`, once the load has made it. -/
def HomeParent.pageNotifications (p : HomeParent) : Option NotificationsParentPage :=
  match p.pages[1]? with
  | some (PageParent.notifications parentId) => some ⟨parentId⟩
  | _ => none

section Ouvertures

variable {S : Server} {b : Base} {u : String} (hb : EnRegle b)
include hb

/-- The list of a student is about the document of his account. -/
theorem eleveId_ouvrir (hu : Existe b u) :
    (ListeNotificationsElevePage.ouvrir S b u).eleveId = some u := by
  have hfiche : ficheDe b .eleves u = some u := ficheDe_eq (hb .eleves) hu
  have hends : ListeNotificationsElevePage.fetchEleveId.Ends S.handler
      (fun _ p _ => p.eleveId = some u) { utilisateurId := u } b := by
    refine ends_catching.mpr (ends_page_bind.mpr (ends_fiche_bind (fun hid => ?_)
      fun id _ _ hid => ?_))
    · cases hid.symm.trans hfiche
    · exact hid.symm.trans hfiche
  exact hends

/-- The photos of a school can be read. -/
theorem photo_lisible : ∀ d, b.doc .utilisateurs u = some d →
    ∃ fileId, (d.get .photoFileId).optStr = .ok fileId :=
  fun d hd => hb .utilisateurs u d hd

theorem ecoute_ouvrir_eleve (S : Server) (etablissementId : String) (hu : Existe b u) :
    (HomeEleve.ouvrir S b etablissementId u).ecoute .notifications = some u := by
  have hchargee := HomeEleve.chargee_ouvrir S b etablissementId u
  rw [hchargee.ecoute (photo_lisible hb) _ (by decide)]
  exact ficheDe_eq (hb .eleves) hu

/-- A parent is given the list of his document, and its notifications are counted. -/
theorem ouvrir_parent (S : Server) (etablissementId : String)
    (hu : (b.doc .parents u).isSome = true) :
    (HomeParent.ouvrir S b etablissementId u).pageNotifications = some ⟨u⟩ ∧
      (HomeParent.ouvrir S b etablissementId u).ecoute .notifications = some u := by
  have hlisible : HomeParent.PhotoLisible b u := fun d hd _ => photo_lisible hb d hd
  have hprete := HomeParent.prete_ouvrir S etablissementId hlisible
  have hfiche : ficheDe b .parents u = some u := ficheDe_eq (hb .parents) hu
  constructor
  · rw [HomeParent.pageNotifications, hprete.pages, hfiche]
    rfl
  · exact (hprete.ecoute _ (by decide)).trans hfiche

end Ouvertures

/-! ## What a save adds -/

section Ajouts

variable {x : Saisie} {b b' : Base} {ids : List String} {ts : List Passage} {now : ℤ}

theorem notifications_effetsDe :
    (effetsDe x now ts).notifications = ts.flatMap fun t => t.notifications x now := by
  induction ts with
  | nil => rfl
  | cons t ts ih =>
    rw [List.flatMap_cons, ← ih]
    rfl

/-- The document of the notification of the student whose turn it is. -/
abbrev avisDe (x : Saisie) (now : ℤ) (t : Passage) : String × Document :=
  (t.notification, newDoc now (t.avis x))

/-- The document of the notification of a parent. -/
abbrev avisParent (x : Saisie) (now : ℤ) (t : Passage) (f : (String × Document) × String) :
    String × Document :=
  (f.2, newDoc now (t.parent x f.1))

/-- The student of a turn is notified under the id of his document. -/
theorem utilisateurId_of_juste (hb : EnRegle b) {t : Passage} (ht : t.Juste x b) :
    t.eleve.utilisateurId = .str t.eleve.eleveId := by
  obtain ⟨d, hd, hu⟩ := ht.dossier
  have hregle : d .utilisateurId = some (.str t.eleve.eleveId) := hb .eleves _ d hd
  rw [hu, Doc.get, hregle]
  rfl

/-- Among the notifications of a turn, the list of a student shows his own. -/
theorem filter_eleve {t : Passage} (hu : t.eleve.utilisateurId = .str t.eleve.eleveId) (e : String) :
    ((t.notifications x now).filter fun row =>
      (ListeNotificationsElevePage.requete e).filters.all fun c => c.sat row.1 row.2) =
        if t.eleve.eleveId = e then [avisDe x now t] else [] := by
  unfold Passage.notifications
  have hparents : (t.familles.map fun f => (f.2, newDoc now (t.parent x f.1))).filter (fun row =>
      (ListeNotificationsElevePage.requete e).filters.all fun c => c.sat row.1 row.2) = [] := by
    refine List.filter_eq_nil_iff.mpr fun row hrow hsat => ?_
    obtain ⟨f, -, rfl⟩ := List.mem_map.mp hrow
    have hdest := Filter.sat_isEqualTo_str.mp (List.all_eq_true.mp hsat _
      (List.mem_cons_of_mem _ List.mem_cons_self))
    cases hdest
  rw [List.filter_append, hparents, List.nil_append, List.filter_singleton]
  have hsat : ((ListeNotificationsElevePage.requete e).filters.all fun c =>
      c.sat t.notification (newDoc now (t.avis x))) = decide (t.eleve.eleveId = e) := by
    refine Bool.eq_iff_iff.mpr ?_
    show ([Filter.isEqualTo Champ.eleveId (.str e),
      .isEqualTo Champ.destinataireId (.str e)].all _ = true) ↔ _
    rw [List.all_cons, List.all_cons, List.all_nil, Bool.and_true, Bool.and_eq_true,
      Filter.sat_isEqualTo_str, Filter.sat_isEqualTo_str, decide_eq_true_iff]
    have hid : newDoc now (t.avis x) .eleveId = some (.str t.eleve.eleveId) := by
      unfold Passage.avis NotesPage.notificationEleve
      rcases t.note <;> rfl
    have hdest : newDoc now (t.avis x) .destinataireId = some t.eleve.utilisateurId := by
      unfold Passage.avis NotesPage.notificationEleve
      rcases t.note <;> rfl
    rw [hid, hdest, hu]
    simp
  rw [hsat]
  by_cases he : t.eleve.eleveId = e
  · simp [he]
  · simp [he]

/-- Among the notifications of a turn, the list of a parent shows those of his families. -/
theorem filter_parent (t : Passage) (parentId : String) :
    (t.notifications x now).filter (fun row =>
      (Filter.isEqualTo .parentId (.str parentId)).sat row.1 row.2) =
        (t.familles.filter fun f =>
          (Filter.isEqualTo .parentId (.str parentId)).sat f.1.1 f.1.2).map (avisParent x now t) := by
  unfold Passage.notifications
  have havis : [(t.notification, newDoc now (t.avis x))].filter (fun row =>
      (Filter.isEqualTo .parentId (.str parentId)).sat row.1 row.2) = [] := by
    refine List.filter_eq_nil_iff.mpr fun row hrow hsat => ?_
    obtain rfl := List.mem_singleton.mp hrow
    have hnone : newDoc now (t.avis x) .parentId = none := by
      unfold Passage.avis NotesPage.notificationEleve
      rcases t.note <;> rfl
    have hparent : newDoc now (t.avis x) .parentId = some (.str parentId) :=
      Filter.sat_isEqualTo_str.mp hsat
    rw [hnone] at hparent
    cases hparent
  rw [List.filter_append, havis, List.append_nil, List.filter_map]
  refine congrArg _ (List.filter_congr fun f _ => Bool.eq_iff_iff.mpr ?_)
  have hparent : newDoc now (t.parent x f.1) .parentId = some (f.1.2.get .parentId) := rfl
  show (Filter.isEqualTo .parentId (.str parentId)).sat f.2 (newDoc now (t.parent x f.1)) = true ↔ _
  rw [Filter.sat_isEqualTo_str, Filter.sat_isEqualTo_str, hparent]
  unfold Doc.get
  rcases f.1.2 .parentId with _ | v <;> simp

end Ajouts

/-! ## Entries -/

/-- The id of a grade that a parent's entry carries. -/
def noteIdDe (n : NotificationModele) : Option String :=
  match n.metadata.bind fun m => m .noteId with
  | some (.str id) => some id
  | _ => none

/-- An entry about the student `e` carries `noteId`: the id of his new grade, if one was typed. -/
def Porte (p : NotesPage) (b b' : Base) (e : String) (noteId : Option String) : Prop :=
  match p.noteSaisie e with
  | .ok (some v) => ∃ id d, noteId = some id ∧ b.doc .notes id = none ∧ b'.doc .notes id = some d ∧
    d .eleveId = some (.str e) ∧ d .valeur = some (.num v)
  | _ => noteId = none

section Entrees

variable {p : NotesPage} {x : Saisie} {b b' : Base} {ids : List String} {ts : List Passage} {now : ℤ}

theorem fromDoc_avis (x : Saisie) (now : ℤ) {t : Passage}
    (hu : t.eleve.utilisateurId = .str t.eleve.eleveId) (maintenant : ℤ) :
    ∃ n, NotificationModeleEleve.fromDoc maintenant (avisDe x now t) = .ok n ∧
      n.eleveId = t.eleve.eleveId ∧ n.noteId = t.note.map Prod.snd := by
  obtain ⟨⟨eleveId, utilisateurId, prenom, nom⟩, note, familles, notification⟩ := t
  obtain rfl : utilisateurId = .str eleveId := hu
  rcases note with _ | note
  · exact ⟨_, rfl, rfl, rfl⟩
  · exact ⟨_, rfl, rfl, rfl⟩

theorem fromDoc_avisParent (x : Saisie) (now : ℤ) (t : Passage)
    {f : (String × Document) × String} {parentId : String}
    (hf : f.1.2 .parentId = some (.str parentId)) (maintenant : ℤ) :
    ∃ n, NotificationsParentPage.fromDoc maintenant (avisParent x now t f) = .ok n ∧
      n.eleveId = t.eleve.eleveId ∧ noteIdDe n = t.note.map Prod.snd := by
  have hparent : (newDoc now (t.parent x f.1)).get .parentId = .str parentId := by
    show f.1.2.get .parentId = _
    rw [Doc.get, hf]
    rfl
  have hmetadata : ∀ m : Champ → Option Valeur, (match m .noteId with
      | some (.str id) => some id
      | _ => none) = t.note.map Prod.snd → ∀ n : NotificationModele, n.metadata = some m →
      noteIdDe n = t.note.map Prod.snd := by
    intro m hm n hn
    unfold noteIdDe
    rw [hn]
    exact hm
  unfold NotificationsParentPage.fromDoc
  dsimp only
  rw [hparent]
  refine ⟨_, rfl, rfl, hmetadata (newDoc 0 (x.page.metadata x.matiereNom t.note)) ?_ _ rfl⟩
  unfold NotesPage.metadata NotesPage.complements
  rcases x.page.typeNote with _ | _ | _ <;> rcases t.note with _ | note <;> rfl

/-- What the entries of a turn carry. -/
theorem porte_parcouru (h : Parcouru x b ids b' ts) (hpage : x.page = occuper p) {t : Passage}
    (ht : t ∈ ts) : Porte p b b' t.eleve.eleveId (t.note.map Prod.snd) := by
  have hnote := (h.justes t ht).note
  rw [hpage, noteSaisie_occuper] at hnote
  unfold Porte
  rw [hnote]
  rcases hn : t.note with _ | ⟨v, id⟩
  · rfl
  · have hmem : (id, newDoc b.clock (x.page.note x.horloge t.eleve.eleveId v x.type x.matiereId)) ∈
        (effetsDe x b.clock ts).notes := mem_notes_effetsDe.mpr ⟨t, ht, v, id, hn, rfl⟩
    obtain ⟨hnone, hsome⟩ := h.bilan.notes.new_iff.mpr hmem
    refine ⟨id, _, rfl, hnone, hsome, ?_, ?_⟩
    · exact NotesPage.newDoc_note _ _ _ _ _ _ _ (by decide) (by decide)
    · exact NotesPage.newDoc_note _ _ _ _ _ _ _ (by decide) (by decide)

end Entrees

/-! ## Lists before and after -/

/-- The family document links the parent to a student of the roster who exists. -/
def Concernee (b : Base) (roster : List String) (parentId : String) (row : String × Document) :
    Prop :=
  b.doc .famille row.1 = some row.2 ∧ row.2 .parentId = some (.str parentId) ∧
    ∃ e ∈ roster, Existe b e ∧ row.2 .eleveId = some (.str e)

/-- The entry `n` is about the student of the family document `row`. -/
def EntreePour (p : NotesPage) (b b' : Base) (row : String × Document) (n : NotificationModele) :
    Prop :=
  row.2 .eleveId = some (.str n.eleveId) ∧ Porte p b b' n.eleveId (noteIdDe n)

/-- A list that is sorted gains the entries of the documents added. -/
theorem liste_gagne {N : Type} {g : String × Document → Except Err N}
    {fs : List (Lib.Filter Champ)} {f : Champ} {desc : Bool} {rows : List (String × Document)}
    {b b' : Base} (h : Adds .notifications rows b b') {l l' nouvelles : List N}
    (hl : ((⟨fs, some (f, desc), none⟩ : Query Champ).run (b.docs .notifications)).mapM g = .ok l)
    (hl' : ((⟨fs, some (f, desc), none⟩ : Query Champ).run (b'.docs .notifications)).mapM g = .ok l')
    (hn : ((rows.filter fun row => fs.all fun c => c.sat row.1 row.2).filter fun row =>
      (row.2 f).isSome).mapM g = .ok nouvelles) : l'.Perm (nouvelles ++ l) := by
  have hrows := mapM_perm hl' (mapM_append_eq_ok hl hn) h.run_perm
  exact hrows.trans List.perm_append_comm

/-- The families of the turns, each with its turn and the id of its notification, that concern a
parent. -/
def famillesDuParent (ts : List Passage) (parentId : String) :
    List (Passage × ((String × Document) × String)) :=
  ts.flatMap fun t => (t.familles.filter fun f =>
    (Filter.isEqualTo .parentId (.str parentId)).sat f.1.1 f.1.2).map fun f => (t, f)

section Listes

variable {p : NotesPage} {x : Saisie} {b b' : Base} {ids : List String} {ts : List Passage}
  (h : Parcouru x b ids b' ts)
include h

/-- The students of the turns are distinct. -/
theorem nodup_eleves_parcouru (hids : ids.Nodup) : (ts.map fun t => t.eleve.eleveId).Nodup := by
  rw [h.eleves]
  exact hids.filter _

theorem adds_parcouru :
    Adds .notifications (ts.flatMap fun t => t.notifications x b.clock) b b' := by
  have hadds := h.bilan.notifications
  rwa [notifications_effetsDe] at hadds

/-- The documents of a save, as the list of a student selects them. -/
theorem filter_parcouru_eleve (hb : EnRegle b) (e : String) :
    ((ts.flatMap fun t => t.notifications x b.clock).filter fun row =>
      (ListeNotificationsElevePage.requete e).filters.all fun c => c.sat row.1 row.2) =
        ts.flatMap fun t => if t.eleve.eleveId = e then [avisDe x b.clock t] else [] := by
  rw [List.filter_flatMap]
  refine List.flatMap_congr fun t ht => ?_
  exact filter_eleve (utilisateurId_of_juste hb (h.justes t ht)) e

/-- A student of the roster finds one new entry. -/
theorem eleve_recoit (hb : EnRegle b) (hb' : EnRegle b') (hids : ids.Nodup)
    (hpage : x.page = occuper p) {e : String} (he : e ∈ ids) (hex : Existe b e)
    {q : ListeNotificationsElevePage} (hq : q.eleveId = some e) (maintenant : ℤ) :
    ∃ l n l', q.notifications maintenant b = .ok l ∧ q.notifications maintenant b' = .ok l' ∧
      l'.Perm (n :: l) ∧ n.eleveId = e ∧ Porte p b b' e n.noteId := by
  obtain ⟨t, ht, rfl⟩ := (h.mem_iff e).mpr ⟨he, hex⟩
  obtain ⟨l, hl, -⟩ := notifications_eleve (hb .notifications) maintenant t.eleve.eleveId
  obtain ⟨l', hl', -⟩ := notifications_eleve (hb' .notifications) maintenant t.eleve.eleveId
  obtain ⟨n, hn, hid, hnote⟩ := fromDoc_avis x b.clock
    (utilisateurId_of_juste hb (h.justes t ht)) maintenant
  have hporte := porte_parcouru h hpage ht
  rw [← hnote] at hporte
  have hperm : l'.Perm ([n] ++ l) := by
    refine liste_gagne (adds_parcouru h) hl hl' ?_
    have hrows := filter_parcouru_eleve h hb t.eleve.eleveId
    rw [flatMap_ite_key (f := avisDe x b.clock) (nodup_eleves_parcouru h hids) ht] at hrows
    have hdate : [avisDe x b.clock t].filter (fun row => (row.2 .date).isSome) =
        [avisDe x b.clock t] := by
      refine List.filter_eq_self.mpr fun row hrow => ?_
      obtain rfl := List.mem_singleton.mp hrow
      show (newDoc b.clock (t.avis x) .date).isSome = true
      unfold Passage.avis NotesPage.notificationEleve
      rcases t.note <;> rfl
    show List.mapM _ (List.filter _ (List.filter (fun row : String × Document =>
      (ListeNotificationsElevePage.requete t.eleve.eleveId).filters.all fun c =>
        c.sat row.1 row.2) _)) = _
    rw [hrows, hdate, List.mapM_cons, hn]
    rfl
  unfold ListeNotificationsElevePage.notifications
  rw [hq]
  exact ⟨l, n, l', hl, hl', hperm, hid, hporte⟩

/-- The lists of the others do not change. -/
theorem eleve_inchange (hb : EnRegle b) {q : ListeNotificationsElevePage}
    (hq : ∀ e ∈ ids, Existe b e → q.eleveId ≠ some e) (maintenant : ℤ) :
    q.notifications maintenant b' = q.notifications maintenant b := by
  unfold ListeNotificationsElevePage.notifications
  rcases heleve : q.eleveId with _ | e
  · rfl
  have hvide : ((ts.flatMap fun t => t.notifications x b.clock).filter fun row =>
      (ListeNotificationsElevePage.requete e).filters.all fun c => c.sat row.1 row.2) = [] := by
    rw [filter_parcouru_eleve h hb e]
    refine List.flatMap_eq_nil_iff.mpr fun t ht => if_neg fun hid => ?_
    obtain ⟨he, hex⟩ := (h.mem_iff e).mp ⟨t, ht, hid⟩
    exact hq e he hex heleve
  have hrun : (ListeNotificationsElevePage.requete e).run (b'.docs .notifications) =
      (ListeNotificationsElevePage.requete e).run (b.docs .notifications) := by
    refine (adds_parcouru h).run_eq fun row hrow => ?_
    exact Bool.eq_false_iff.mpr (List.filter_eq_nil_iff.mp hvide row hrow)
  show List.mapM _ _ = List.mapM _ _
  rw [hrun]

/-! Parents. -/

omit h in
/-- The documents of a save, as the list of a parent selects them. -/
theorem filter_parcouru_parent (parentId : String) :
    ((ts.flatMap fun t => t.notifications x b.clock).filter fun row =>
      (NotificationsParentPage.requete ⟨parentId⟩).filters.all fun c => c.sat row.1 row.2) =
        (famillesDuParent ts parentId).map fun y => avisParent x b.clock y.1 y.2 := by
  have hsingle : ∀ row : String × Document,
      ((NotificationsParentPage.requete ⟨parentId⟩).filters.all fun c => c.sat row.1 row.2) =
        (Filter.isEqualTo .parentId (.str parentId)).sat row.1 row.2 := by
    intro row
    show ([Filter.isEqualTo Champ.parentId (.str parentId)].all _) = _
    rw [List.all_cons, List.all_nil, Bool.and_true]
  simp only [hsingle]
  unfold famillesDuParent
  rw [List.filter_flatMap, List.map_flatMap]
  refine List.flatMap_congr fun t _ => ?_
  rw [filter_parent, List.map_map]
  rfl

/-- The family documents of these families. -/
theorem map_famillesDuParent (parentId : String) :
    ((famillesDuParent ts parentId).map fun y => y.2.1) = ts.flatMap fun t =>
      (famillesDe b t.eleve.eleveId).filter fun row =>
        (Filter.isEqualTo .parentId (.str parentId)).sat row.1 row.2 := by
  unfold famillesDuParent
  rw [List.map_flatMap]
  refine List.flatMap_congr fun t ht => ?_
  rw [← (h.justes t ht).familles, List.filter_map, List.map_map]
  rfl

omit h in
theorem mem_famillesDe {e : String} {row : String × Document} : row ∈ famillesDe b e ↔
    b.doc .famille row.1 = some row.2 ∧ row.2 .eleveId = some (.str e) := by
  refine Query.mem_run.trans (and_congr_right fun _ => ?_)
  rw [List.forall_mem_singleton, Filter.sat_isEqualTo_str]

theorem mem_famillesDuParent {parentId : String} {row : String × Document} :
    row ∈ ((famillesDuParent ts parentId).map fun y => y.2.1) ↔ Concernee b ids parentId row := by
  rw [map_famillesDuParent h, List.mem_flatMap]
  constructor
  · rintro ⟨t, ht, hrow⟩
    obtain ⟨hfamille, hparent⟩ := List.mem_filter.mp hrow
    obtain ⟨hd, he⟩ := mem_famillesDe.mp hfamille
    obtain ⟨hmem, hex⟩ := (h.mem_iff _).mp ⟨t, ht, rfl⟩
    exact ⟨hd, Filter.sat_isEqualTo_str.mp hparent, _, hmem, hex, he⟩
  · rintro ⟨hd, hparent, e, hmem, hex, he⟩
    obtain ⟨t, ht, rfl⟩ := (h.mem_iff e).mpr ⟨hmem, hex⟩
    refine ⟨t, ht, List.mem_filter.mpr ⟨mem_famillesDe.mpr ⟨hd, he⟩, ?_⟩⟩
    exact Filter.sat_isEqualTo_str.mpr hparent

theorem nodup_famillesDuParent (hids : ids.Nodup) (parentId : String) :
    ((famillesDuParent ts parentId).map fun y => y.2.1).Nodup := by
  rw [map_famillesDuParent h, List.nodup_flatMap]
  constructor
  · intro t _
    exact ((Table.rows_nodup (b.docs .famille)).filter _).filter _
  · refine (List.pairwise_map.mp (nodup_eleves_parcouru h hids)).imp fun {t t'} hne => ?_
    intro row hrow hrow'
    obtain ⟨-, he⟩ := mem_famillesDe.mp (List.mem_of_mem_filter hrow)
    obtain ⟨-, he'⟩ := mem_famillesDe.mp (List.mem_of_mem_filter hrow')
    rw [he] at he'
    exact hne (Value.str.inj (Option.some.inj he'))

/-- A parent finds one new entry for each document of a family concerned. -/
theorem parent_recoit (hb : EnRegle b) (hb' : EnRegle b') (hids : ids.Nodup)
    (hpage : x.page = occuper p) (q : NotificationsParentPage) (maintenant : ℤ) :
    ∃ l nouvelles l' familles, q.notifications maintenant b = .ok l ∧
      q.notifications maintenant b' = .ok l' ∧ l'.Perm (nouvelles ++ l) ∧ familles.Nodup ∧
      (∀ row, row ∈ familles ↔ Concernee b ids q.parentId row) ∧
      List.Forall₂ (EntreePour p b b') familles nouvelles := by
  obtain ⟨parentId⟩ := q
  obtain ⟨l, hl, -⟩ := notifications_parent (hb .notifications) maintenant ⟨parentId⟩
  obtain ⟨l', hl', -⟩ := notifications_parent (hb' .notifications) maintenant ⟨parentId⟩
  obtain ⟨nouvelles, hnouvelles, hall⟩ := exists_mapM_of_forall
    (l := famillesDuParent ts parentId)
    (f := fun y => NotificationsParentPage.fromDoc maintenant (avisParent x b.clock y.1 y.2))
    (R := fun y n => EntreePour p b b' y.2.1 n) fun y hy => by
      obtain ⟨t, ht, hy⟩ := List.mem_flatMap.mp hy
      obtain ⟨f, hf, rfl⟩ := List.mem_map.mp hy
      obtain ⟨hmem, hparent⟩ := List.mem_filter.mp hf
      obtain ⟨n, hn, hid, hnote⟩ := fromDoc_avisParent x b.clock t
        (Filter.sat_isEqualTo_str.mp hparent) maintenant
      have hfamille : f.1 ∈ famillesDe b t.eleve.eleveId := by
        rw [← (h.justes t ht).familles]
        exact List.mem_map_of_mem hmem
      refine ⟨n, hn, ?_, ?_⟩
      · rw [hid]
        exact (mem_famillesDe.mp hfamille).2
      · rw [hid, hnote]
        exact porte_parcouru h hpage ht
  have hperm : l'.Perm (nouvelles ++ l) := by
    refine liste_gagne (adds_parcouru h) hl hl' ?_
    have hcreated : ((famillesDuParent ts parentId).map fun y => avisParent x b.clock y.1 y.2).filter
        (fun row => (row.2 .createdAt).isSome) =
        (famillesDuParent ts parentId).map fun y => avisParent x b.clock y.1 y.2 := by
      refine List.filter_eq_self.mpr fun row hrow => ?_
      obtain ⟨y, -, rfl⟩ := List.mem_map.mp hrow
      rfl
    show List.mapM _ (List.filter _ (List.filter (fun row : String × Document =>
      (NotificationsParentPage.requete ⟨parentId⟩).filters.all fun c => c.sat row.1 row.2) _)) = _
    rw [filter_parcouru_parent, hcreated, List.mapM_map]
    exact hnouvelles
  refine ⟨l, nouvelles, l', (famillesDuParent ts parentId).map fun y => y.2.1, hl, hl', hperm,
    nodup_famillesDuParent h hids parentId, fun row => mem_famillesDuParent h, ?_⟩
  exact List.forall₂_map_left_iff.mpr (hall.imp fun y n hn => hn.2)

/-- The lists of the parents who are not concerned do not change. -/
theorem parent_inchange {q : NotificationsParentPage}
    (hq : ∀ row, ¬Concernee b ids q.parentId row) (maintenant : ℤ) :
    q.notifications maintenant b' = q.notifications maintenant b := by
  obtain ⟨parentId⟩ := q
  have hvide : famillesDuParent ts parentId = [] := by
    refine List.eq_nil_iff_forall_not_mem.mpr fun y hy => ?_
    exact hq _ ((mem_famillesDuParent h).mp (List.mem_map_of_mem hy))
  have hnone : ((ts.flatMap fun t => t.notifications x b.clock).filter fun row =>
      (NotificationsParentPage.requete ⟨parentId⟩).filters.all fun c => c.sat row.1 row.2) = [] := by
    rw [filter_parcouru_parent, hvide, List.map_nil]
  have hrun : (NotificationsParentPage.requete ⟨parentId⟩).run (b'.docs .notifications) =
      (NotificationsParentPage.requete ⟨parentId⟩).run (b.docs .notifications) := by
    refine (adds_parcouru h).run_eq fun row hrow => ?_
    exact Bool.eq_false_iff.mpr (List.filter_eq_nil_iff.mp hnone row hrow)
  unfold NotificationsParentPage.notifications
  rw [hrun]

end Listes

/-! ## Taps -/

/-- Taps on entries of any lists, some of whose requests may be lost. -/
inductive Touchee (S : Server) (b : Base) : Base → Prop
  | rien : Touchee S b b
  | parent {b₁ : Base} (h : Touchee S b b₁) (notif : NotificationModele)
    (p : NotificationsParentPage) (f : List (Option Err)) :
    Touchee S b (apres S (NotificationsParentPage.onTap notif) p b₁ f)
  | eleve {b₁ : Base} (h : Touchee S b b₁) (notif : NotificationModeleEleve)
    (p : ListeNotificationsElevePage) (f : List (Option Err)) :
    Touchee S b (apres S (ListeNotificationsElevePage.onTap notif) p b₁ f)

theorem Ecole.touchee {S : Server} {b b' : Base} (hb : Ecole S b) (h : Touchee S b b') :
    Ecole S b' := by
  induction h with
  | rien => exact hb
  | parent h notif p f ih => exact ih.parent notif p f
  | eleve h notif p f ih => exact ih.eleve notif p f

/-! ## Delivery -/

/-- The page `q` has one new entry, about the student `e`. -/
def RecoitUne (p : NotesPage) (b b' : Base) (e : String) (q : ListeNotificationsElevePage) : Prop :=
  ∀ maintenant, ∃ l n l', q.notifications maintenant b = .ok l ∧
    q.notifications maintenant b' = .ok l' ∧ l'.Perm (n :: l) ∧ n.eleveId = e ∧
    Porte p b b' e n.noteId

/-- The page `q` has one new entry for each family document that concerns its parent. -/
def RecoitParFamille (p : NotesPage) (b b' : Base) (roster : List String)
    (q : NotificationsParentPage) : Prop :=
  ∀ maintenant, ∃ l nouvelles l' familles, q.notifications maintenant b = .ok l ∧
    q.notifications maintenant b' = .ok l' ∧ l'.Perm (nouvelles ++ l) ∧ familles.Nodup ∧
    (∀ row, row ∈ familles ↔ Concernee b roster q.parentId row) ∧
    List.Forall₂ (EntreePour p b b') familles nouvelles

/-- The notifications of a save that led from `b` to `b'` are delivered.  The pages of an account may
have been opened on any data of the school where the account has its document. -/
structure Livree (S : Server) (roster : List String) (p : NotesPage) (b b' : Base) : Prop where
  eleves : ∀ e ∈ roster, ∀ d, b.doc .eleves e = some d → ∃ u, d .utilisateurId = some (.str u) ∧
    ∀ b₁, Ecole S b₁ → Existe b₁ e →
      RecoitUne p b b' e (ListeNotificationsElevePage.ouvrir S b₁ u)
  parents : ∀ parentId d, b.doc .parents parentId = some d →
    ∃ u, d .utilisateurId = some (.str u) ∧
      ∀ b₁ etablissementId, Ecole S b₁ → (b₁.doc .parents parentId).isSome →
        (HomeParent.ouvrir S b₁ etablissementId u).pageNotifications = some ⟨parentId⟩ ∧
        RecoitParFamille p b b' roster ⟨parentId⟩
  autresEleves : ∀ q : ListeNotificationsElevePage,
    (∀ e ∈ roster, Existe b e → q.eleveId ≠ some e) →
    ∀ maintenant, q.notifications maintenant b' = q.notifications maintenant b
  autresParents : ∀ q : NotificationsParentPage, (∀ row, ¬Concernee b roster q.parentId row) →
    ∀ maintenant, q.notifications maintenant b' = q.notifications maintenant b

/-- The badges count the unread entries, whenever the pages were opened. -/
structure BadgesJustes (S : Server) (b : Base) : Prop where
  eleves : ∀ u b₁ b₂ etablissementId, Ecole S b₁ → Existe b₁ u → Ecole S b₂ → Existe b₂ u →
    ∀ maintenant, ∃ l,
      (ListeNotificationsElevePage.ouvrir S b₁ u).notifications maintenant b = .ok l ∧
      (HomeEleve.ouvrir S b₂ etablissementId u).nbNotifsNonLues b = l.countP fun n => !n.lu
  parents : ∀ u b₁ etablissementId, Ecole S b₁ → (b₁.doc .parents u).isSome → ∀ maintenant,
    ∃ q l, (HomeParent.ouvrir S b₁ etablissementId u).pageNotifications = some q ∧
      q.notifications maintenant b = .ok l ∧
      (HomeParent.ouvrir S b₁ etablissementId u).nbNotifsNonLues b = l.countP fun n => !n.lu

section Livraison

variable {S : Server} {b₀ b b' : Base} {p : NotesPage} {u : String}

theorem badgesJustes_of_ecole (hb : Ecole S b) : BadgesJustes S b where
  eleves u b₁ b₂ etablissementId hb₁ hu₁ hb₂ hu₂ maintenant := by
    have hq := eleveId_ouvrir (S := S) hb₁.enRegle hu₁
    obtain ⟨l, hl, -⟩ := notifications_eleve (hb.enRegle .notifications) maintenant u
    have hliste : (ListeNotificationsElevePage.ouvrir S b₁ u).notifications maintenant b = .ok l := by
      unfold ListeNotificationsElevePage.notifications
      rw [hq]
      exact hl
    exact ⟨l, hliste, badge_eleve (hb.enRegle .notifications)
      (ecoute_ouvrir_eleve hb₂.enRegle S etablissementId hu₂) hq hliste⟩
  parents u b₁ etablissementId hb₁ hu₁ maintenant := by
    obtain ⟨l, hl, -⟩ := notifications_parent (hb.enRegle .notifications) maintenant ⟨u⟩
    obtain ⟨hq, hecoute⟩ := ouvrir_parent hb₁.enRegle S etablissementId hu₁
    exact ⟨⟨u⟩, l, hq, hl, badge_parent (hb.enRegle .notifications) hecoute hl⟩

/-- The save of a page whose roster lists distinct students. -/
theorem livree_of_parcouru {x : Saisie} {roster : List String} {ts : List Passage}
    (h : Parcouru x b roster b' ts) (hpage : x.page = occuper p) (hids : roster.Nodup)
    (hb : EnRegle b) (hb' : EnRegle b') : Livree S roster p b b' where
  eleves e he d hd := by
    refine ⟨e, hb .eleves e d hd, fun b₁ hb₁ hex₁ maintenant => ?_⟩
    have hex : Existe b e := by simp [Existe, hd]
    exact eleve_recoit h hb hb' hids hpage he hex (eleveId_ouvrir hb₁.enRegle hex₁) maintenant
  parents parentId d hd := by
    refine ⟨parentId, hb .parents parentId d hd, fun b₁ etablissementId hb₁ hex₁ => ?_⟩
    exact ⟨(ouvrir_parent hb₁.enRegle S etablissementId hex₁).1, fun maintenant =>
      parent_recoit h hb hb' hids hpage ⟨parentId⟩ maintenant⟩
  autresEleves _ hq := eleve_inchange h hb hq
  autresParents _ hq := parent_inchange h hq

/-- **Grade notifications are delivered.**  When a save succeeds in a school, each student who exists
on the roster of the class gets one entry, each parent one for every family document that links him
to such a student, nobody else gets any, and the badges stay right whatever is tapped next. -/
theorem livree (hb₀ : Ecole S b₀) (hp : NotesPage.Ouverte S b₀ p) (hb : Ecole S b)
    (h : NotesPage.Horloge)
    (hok : Annonce p ((NotesPage.enregistrerNotes h).exec S.handler p b).2.1) :
    ∃ c, p.classeChoisieId = some c ∧
      Livree S (elevesDeClasse b₀ c) p b ((NotesPage.enregistrerNotes h).exec S.handler p b).2.2 ∧
      ∀ b'', Touchee S ((NotesPage.enregistrerNotes h).exec S.handler p b).2.2 b'' →
        BadgesJustes S b'' := by
  obtain ⟨x, ts, hpage, -, hs, -, hts⟩ := parcouru_of_annonce hok
  obtain ⟨c, hc⟩ := hs.classe
  obtain ⟨l, hl, hcache⟩ := hp.cache
  have hroster := hcache.elevesDeLaClasse hl hc
  have hafter : Ecole S ((NotesPage.enregistrerNotes h).exec S.handler p b).2.2 := by
    have hnotes := hb.notes h p []
    unfold apres at hnotes
    rwa [exec_faulty_nil] at hnotes
  rw [hroster] at hts
  refine ⟨c, hc, ?_, fun b'' htouche => badgesJustes_of_ecole (hafter.touchee htouche)⟩
  exact livree_of_parcouru hts hpage (hb₀.enRegle.nodup_eleves c) hb.enRegle hafter.enRegle

end Livraison

/-! ### A school with a student and his parent -/

/-- The roles, and a class with a teacher and a subject. -/
def ecoleSansEleve : Base :=
  (((((baseVide.putDoc .roles "re" (newDoc 0 [texte .nom "eleve"])).putDoc
    .roles "rp" (newDoc 0 [texte .nom "parent"])).putDoc
    .enseignants "t" (newDoc 0 [texte .utilisateurId "u"])).putDoc
    .classes "A" (newDoc 0 [texte .nom "A", texte .niveau "1", texte .etablissementId "e",
      textes .enseignantsIds ["t"], textes .matieresIds ["m"], textes .elevesIds []])).putDoc
    .enseignements "x" (newDoc 0 [texte .enseignantId "t", texte .matiereId "m"])).putDoc
    .matieres "m" (newDoc 0 [texte .nom "Maths"])

/-- The form of a student of the class `A`. -/
def unEleve : Admin.AjoutEleve where
  etablissementId := "e"
  nom := "Ngono"
  prenom := "Awa"
  email := "awa@ecole.cm"
  telephone := "600000000"
  adresse := "Douala"
  motDePasse := "secret"
  etablissement := some (newDoc 0 [])
  classeIdSelectionne := some "A"

def unParent : Admin.AjoutParent where
  etablissementId := "e"
  nom := "Ngono"
  prenom := "Paul"
  email := "paul@ecole.cm"
  telephone := "611111111"
  adresse := "Douala"
  motDePasse := "secret"

/-- Both are created, and linked. -/
def ecoleAvecEleve : Base :=
  let S := Server.longest 10
  let b := (Admin.EcranAjout.execution S .eleve unEleve ecoleSansEleve []).2
  ((Admin.EcranAjout.execution S .parent unParent b []).2).putDoc .famille "f"
    (newDoc 0 [texte .eleveId "x", texte .parentId "xx"])

theorem ecole_ecoleSansEleve : Ecole (Server.longest 10) ecoleSansEleve := by
  refine .ailleurs (.ailleurs (.ailleurs (.ailleurs (.ailleurs (.ailleurs .vide
    (.putDoc _ ?_ ?_)) (.putDoc _ ?_ ?_)) (.putDoc _ ?_ ?_)) (.putDoc _ ?_ ?_)) (.putDoc _ ?_ ?_))
    (.putDoc _ ?_ ?_)
  all_goals decide

theorem ecole_ecoleAvecEleve : Ecole (Server.longest 10) ecoleAvecEleve :=
  .ailleurs ((ecole_ecoleSansEleve.ajout .eleve unEleve []).ajout .parent unParent [])
    (.putDoc _ (by decide) (by decide))

/-- The page is opened, the class and the subject chosen, and 12 typed. -/
def pageEcole : NotesPage :=
  [.classe 0, .matiere 0, .type .examen, .saisir 0 "12"].foldl
    (NotesPage.jouer (Server.longest 10) ecoleAvecEleve)
    (NotesPage.jouer (Server.longest 10) ecoleAvecEleve pageNotes .ouvrir)

theorem ouverte_pageEcole : NotesPage.Ouverte (Server.longest 10) ecoleAvecEleve pageEcole :=
  NotesPage.Ouverte.suite (.ouvrir "e" "u") ecoleAvecEleve (by simp)

theorem livree_pageEcole : ∃ c, pageEcole.classeChoisieId = some c ∧
    Livree (Server.longest 10) (elevesDeClasse ecoleAvecEleve c) pageEcole ecoleAvecEleve
      ((NotesPage.enregistrerNotes horlogeZero).exec (Server.longest 10).handler pageEcole
        ecoleAvecEleve).2.2 ∧
    ∀ b'', Touchee (Server.longest 10) ((NotesPage.enregistrerNotes horlogeZero).exec
        (Server.longest 10).handler pageEcole ecoleAvecEleve).2.2 b'' →
      BadgesJustes (Server.longest 10) b'' :=
  livree ecole_ecoleAvecEleve ouverte_pageEcole ecole_ecoleAvecEleve horlogeZero (by
    show _ = _
    decide +kernel)

example : elevesDeClasse ecoleAvecEleve "A" = ["x"] ∧
    ((HomeParent.ouvrir (Server.longest 10) ecoleAvecEleve "e" "xx").nbNotifsNonLues
      ((NotesPage.enregistrerNotes horlogeZero).exec (Server.longest 10).handler pageEcole
        ecoleAvecEleve).2.2) = 1 := by decide +kernel

end EduConnect.Familles
