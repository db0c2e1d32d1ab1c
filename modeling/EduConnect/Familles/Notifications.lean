import EduConnect.Enseignant.Appel
import EduConnect.Familles.Accueils
import EduConnect.Lib.Stored
import EduConnect.Lib.Lots

/-!
# The notifications of parents and students

`NotificationsParentPage` and `ListeNotificationsElevePage` list notifications, and the home pages
count those that are not read.  List and count are two queries on different fields: they agree on
notifications that have these fields (`Lisible`).
-/

namespace EduConnect.Familles

open Lib Prog Commun Enseignant

/-- `(v as Timestamp).toDate()`, or the time of the reading. -/
def horodatage (maintenant : ℤ) : Valeur → ℤ
  | .stamp t => t
  | _ => maintenant

/-! ## The page of a parent -/

structure NotificationsParentPage where
  parentId : String

namespace NotificationsParentPage

/-- The closure of `_notificationsStream`. -/
def fromDoc (maintenant : ℤ) (doc : String × Document) : Except Err NotificationModele := do
  let data := doc.2
  return {
    id := doc.1
    eleveId := ← (data.get .eleveId).orStr ""
    parentId := ← (data.get .parentId).orStr ""
    expediteurId := ← (data.get .expediteurId).orStr ""
    expediteurRole := ← (data.get .expediteurRole).orStr ""
    etablissementId := ← (data.get .etablissementId).orStr ""
    titre := ← (data.get .titre).orStr "Notification"
    message := ← (data.get .message).orStr ""
    lu := ← (data.get .lu).orBool false
    createdAt := horodatage maintenant (data.get .createdAt)
    type := some (← (data.get .type).orStr "")
    metadata := ← (data.get .metadata).optMap }

def requete (p : NotificationsParentPage) : Query Champ :=
  ⟨[.isEqualTo .parentId (.str p.parentId)], some (.createdAt, true), none⟩

/-- What `_notificationsStream` emits when the data are `b`. -/
def notifications (maintenant : ℤ) (b : Base) (p : NotificationsParentPage) :
    Except Err (List NotificationModele) :=
  (p.requete.run (b.docs .notifications)).mapM (fromDoc maintenant)

/-- A tap on an entry. -/
def onTap (notif : NotificationModele) : Action Unit NotificationsParentPage Unit := do
  if notif.lu then return
  ecrire () (.update .notifications notif.id [(.lu, .put (.bool true))])
  setState id

end NotificationsParentPage

/-! ## The page of a student -/

structure NotificationModeleEleve where
  id : String
  eleveId : String
  destinataireId : String
  message : String
  lu : Bool
  date : ℤ
  type : String
  noteId : Option String

def NotificationModeleEleve.fromDoc (maintenant : ℤ) (doc : String × Document) :
    Except Err NotificationModeleEleve := do
  let data := doc.2
  return {
    id := doc.1
    eleveId := ← (data.get .eleveId).orStr ""
    destinataireId := ← (data.get .destinataireId).orStr ""
    message := ← (data.get .message).orStr ""
    lu := ← (data.get .vu).orBool false
    date := horodatage maintenant (data.get .date)
    type := ← (data.get .type).orStr ""
    noteId := ← (data.get .noteId).optStr }

structure ListeNotificationsElevePage where
  utilisateurId : String
  eleveId : Option String := none
  loading : Bool := true
  error : Option String := none

namespace ListeNotificationsElevePage

/-- `_fetchEleveId`. -/
def fetchEleveId : Action Unit ListeNotificationsElevePage Unit :=
  catching (do
    let p ← page
    match ← chercherPremier () .eleves [.isEqualTo .utilisateurId (.str p.utilisateurId)] with
    | [] => setState fun p =>
      { p with error := some "Aucun élève trouvé pour cet utilisateur.", loading := false }
    | doc :: _ => setState fun p => { p with eleveId := some doc.1, loading := false })
    fun e => setState fun p =>
      { p with error := some ("Erreur de chargement : " ++ texteErreur e), loading := false }

def requete (eleveId : String) : Query Champ :=
  ⟨[.isEqualTo .eleveId (.str eleveId), .isEqualTo .destinataireId (.str eleveId)],
    some (.date, true), none⟩

/-- What `_notificationsStream` emits when the data are `b`; nothing without a student. -/
def notifications (maintenant : ℤ) (b : Base) (p : ListeNotificationsElevePage) :
    Except Err (List NotificationModeleEleve) :=
  match p.eleveId with
  | none => .ok []
  | some eleveId =>
    ((requete eleveId).run (b.docs .notifications)).mapM (NotificationModeleEleve.fromDoc maintenant)

/-- A tap on an entry. -/
def onTap (notif : NotificationModeleEleve) : Action Unit ListeNotificationsElevePage Unit := do
  if notif.lu then return
  ecrire () (.update .notifications notif.id [(.vu, .put (.bool true))])
  setState id

end ListeNotificationsElevePage

/-! ## The badges -/

/-- `nbNotifsNonLues` in `home_parent.dart`, when the data are `b`. -/
def HomeParent.nbNotifsNonLues (b : Base) (p : HomeParent) : ℕ :=
  match p.ecoute .notifications with
  | none => 0
  | some parentId =>
    ((⟨[.isEqualTo .parentId (.str parentId), .isEqualTo .lu (.bool false)], none, none⟩ :
      Query Champ).run (b.docs .notifications)).length

/-- `nbNotifsNonLues` in `home_eleve.dart`, when the data are `b`. -/
def HomeEleve.nbNotifsNonLues (b : Base) (p : HomeEleve) : ℕ :=
  match p.ecoute .notifications with
  | none => 0
  | some eleveId =>
    ((⟨[.isEqualTo .eleveId (.str eleveId), .isEqualTo .destinataireId (.str eleveId),
      .isEqualTo .vu (.bool false)], none, none⟩ : Query Champ).run
        (b.docs .notifications)).length

/-! ## Notifications that can be read -/

/-- The value of a text field. -/
def Texte (v : Valeur) : Prop := ∃ s, v.optStr = .ok s

/-- A parent's notification that can be read, and whether it was. -/
structure LueParent (d : Document) (lu : Bool) : Prop where
  textes : ∀ f ∈ [Champ.eleveId, .parentId, .expediteurId, .expediteurRole, .etablissementId, .titre,
    .message, .type], Texte (d.get f)
  metadata : ∃ m, (d.get .metadata).optMap = .ok m
  createdAt : (d .createdAt).isSome
  lu : d .lu = some (.bool lu)

/-- A student's notification that can be read, and whether it was. -/
structure LueEleve (d : Document) (vu : Bool) : Prop where
  textes : ∀ f ∈ [Champ.eleveId, .destinataireId, .message, .type, .noteId], Texte (d.get f)
  date : (d .date).isSome
  vu : d .vu = some (.bool vu)

/-- The notification can be read on the page it is for. -/
structure Lisible (d : Document) : Prop where
  parent : ∀ parentId, d .parentId = some (.str parentId) → ∃ lu, LueParent d lu
  eleve : ∀ eleveId, d .destinataireId = some (.str eleveId) → ∃ vu, LueEleve d vu

theorem Texte.orStr {v : Valeur} (hv : Texte v) (defaut : String) : ∃ s, v.orStr defaut = .ok s := by
  obtain ⟨s, hs⟩ := hv
  cases v with
  | null => exact ⟨defaut, rfl⟩
  | str t => exact ⟨t, rfl⟩
  | _ => cases hs

theorem LueParent.fromDoc {d : Document} {lu : Bool} (h : LueParent d lu) (maintenant : ℤ)
    (id : String) :
    ∃ n, NotificationsParentPage.fromDoc maintenant (id, d) = .ok n ∧ n.lu = lu := by
  obtain ⟨eleveId, h₁⟩ := (h.textes .eleveId (by simp)).orStr ""
  obtain ⟨parentId, h₂⟩ := (h.textes .parentId (by simp)).orStr ""
  obtain ⟨expediteurId, h₃⟩ := (h.textes .expediteurId (by simp)).orStr ""
  obtain ⟨expediteurRole, h₄⟩ := (h.textes .expediteurRole (by simp)).orStr ""
  obtain ⟨etablissementId, h₅⟩ := (h.textes .etablissementId (by simp)).orStr ""
  obtain ⟨titre, h₆⟩ := (h.textes .titre (by simp)).orStr "Notification"
  obtain ⟨message, h₇⟩ := (h.textes .message (by simp)).orStr ""
  obtain ⟨type, h₈⟩ := (h.textes .type (by simp)).orStr ""
  obtain ⟨metadata, h₉⟩ := h.metadata
  have hlu : (d.get .lu).orBool false = .ok lu := by
    unfold Doc.get
    rw [h.lu]
    rfl
  refine ⟨⟨id, eleveId, parentId, expediteurId, expediteurRole, etablissementId, titre, message, lu,
    horodatage maintenant (d.get .createdAt), some type, metadata⟩, ?_, rfl⟩
  unfold NotificationsParentPage.fromDoc
  simp only [h₁, h₂, h₃, h₄, h₅, h₆, h₇, h₈, h₉, hlu]
  rfl

theorem LueEleve.fromDoc {d : Document} {vu : Bool} (h : LueEleve d vu) (maintenant : ℤ)
    (id : String) : ∃ n, NotificationModeleEleve.fromDoc maintenant (id, d) = .ok n ∧ n.lu = vu := by
  obtain ⟨eleveId, h₁⟩ := (h.textes .eleveId (by simp)).orStr ""
  obtain ⟨destinataireId, h₂⟩ := (h.textes .destinataireId (by simp)).orStr ""
  obtain ⟨message, h₃⟩ := (h.textes .message (by simp)).orStr ""
  obtain ⟨type, h₄⟩ := (h.textes .type (by simp)).orStr ""
  obtain ⟨noteId, h₅⟩ := h.textes .noteId (by simp)
  have hvu : (d.get .vu).orBool false = .ok vu := by
    unfold Doc.get
    rw [h.vu]
    rfl
  refine ⟨⟨id, eleveId, destinataireId, message, vu, horodatage maintenant (d.get .date), type,
    noteId⟩, ?_, rfl⟩
  unfold NotificationModeleEleve.fromDoc
  simp only [h₁, h₂, h₃, h₄, h₅, hvu]
  rfl

/-! ## Lists and badges -/

section Listes

variable {b : Base} (hb : Stored .notifications (fun _ d => Lisible d) b) (maintenant : ℤ)
include hb

/-- The list of a parent: an entry for each document of the query. -/
theorem notifications_parent (p : NotificationsParentPage) :
    ∃ l, p.notifications maintenant b = .ok l ∧ List.Forall₂ (fun row n =>
      NotificationsParentPage.fromDoc maintenant row = .ok n ∧ row.2 .lu = some (.bool n.lu))
      (p.requete.run (b.docs .notifications)) l := by
  refine exists_mapM_of_forall fun row hrow => ?_
  obtain ⟨hd, hsat⟩ := Query.of_mem_run hrow
  have hparent : row.2 .parentId = some (.str p.parentId) :=
    Filter.sat_isEqualTo_str.mp (hsat _ List.mem_cons_self)
  obtain ⟨lu, hlue⟩ := (hb row.1 row.2 hd).parent p.parentId hparent
  obtain ⟨n, hn, rfl⟩ := hlue.fromDoc maintenant row.1
  exact ⟨n, hn, hlue.lu⟩

theorem notifications_eleve (eleveId : String) :
    ∃ l, ((ListeNotificationsElevePage.requete eleveId).run (b.docs .notifications)).mapM
        (NotificationModeleEleve.fromDoc maintenant) = .ok l ∧ List.Forall₂ (fun row n =>
      NotificationModeleEleve.fromDoc maintenant row = .ok n ∧ row.2 .vu = some (.bool n.lu))
      ((ListeNotificationsElevePage.requete eleveId).run (b.docs .notifications)) l := by
  refine exists_mapM_of_forall fun row hrow => ?_
  obtain ⟨hd, hsat⟩ := Query.of_mem_run hrow
  have heleve : row.2 .destinataireId = some (.str eleveId) :=
    Filter.sat_isEqualTo_str.mp (hsat _ (List.mem_cons_of_mem _ List.mem_cons_self))
  obtain ⟨vu, hlue⟩ := (hb row.1 row.2 hd).eleve eleveId heleve
  obtain ⟨n, hn, rfl⟩ := hlue.fromDoc maintenant row.1
  exact ⟨n, hn, hlue.vu⟩

end Listes

/-! ### Badges -/

section Badges

variable {b : Base}

/-- An ordered query leaves out no document that has the field it sorts by. -/
theorem run_liste_perm {fs : List (Lib.Filter Champ)} {f : Champ} {desc : Bool}
    (hf : ∀ id d, b.doc .notifications id = some d → (∀ c ∈ fs, c.sat id d = true) →
      (d f).isSome = true) :
    ((⟨fs, some (f, desc), none⟩ : Query Champ).run (b.docs .notifications)).Perm
      ((⟨fs, none, none⟩ : Query Champ).run (b.docs .notifications)) := by
  refine (Query.run_orderBy_perm _).trans (.of_eq (List.filter_eq_self.mpr fun row hrow => ?_))
  obtain ⟨hmem, hall⟩ := List.mem_filter.mp hrow
  exact hf row.1 row.2 (Table.find_eq_some_iff.mpr hmem) (List.all_eq_true.mp hall)

/-- The documents that a query with the field `c` false returns, counted in a list. -/
theorem length_run_non_lus {α : Type} (fs : List (Lib.Filter Champ)) {f c : Champ} {desc : Bool}
    (hf : ∀ id d, b.doc .notifications id = some d → (∀ c ∈ fs, c.sat id d = true) →
      (d f).isSome = true)
    {lu : α → Bool} {l : List α}
    (hl : List.Forall₂ (fun row n => row.2 c = some (.bool (lu n)))
      ((⟨fs, some (f, desc), none⟩ : Query Champ).run (b.docs .notifications)) l) :
    ((⟨fs ++ [.isEqualTo c (.bool false)], none, none⟩ : Query Champ).run
      (b.docs .notifications)).length = l.countP fun n => !lu n := by
  let nonLu (row : String × Document) : Bool := (Filter.isEqualTo c (.bool false)).sat row.1 row.2
  have hcount := countP_forall₂ (p := nonLu) (q := fun n => !lu n) (fun row n hn => ?_) hl
  · rw [← hcount, (run_liste_perm hf).countP_eq]
    show (List.filter _ _).length = (List.filter _ _).countP _
    rw [List.countP_filter, ← List.countP_eq_length_filter]
    refine List.countP_congr fun row _ => ?_
    rw [List.all_append, List.all_cons, List.all_nil, Bool.and_true, Bool.and_comm]
  · refine Bool.eq_iff_iff.mpr ?_
    rw [Filter.sat_isEqualTo_bool, hn]
    cases lu n <;> simp

variable (hb : Stored .notifications (fun _ d => Lisible d) b)
include hb

/-- **The badge of a parent** is the number of unread entries of his list. -/
theorem badge_parent {parentId : String} {p : HomeParent}
    (hp : p.ecoute .notifications = some parentId) {maintenant : ℤ}
    {l : List NotificationModele}
    (hl : NotificationsParentPage.notifications maintenant b ⟨parentId⟩ = .ok l) :
    p.nbNotifsNonLues b = l.countP fun n => !n.lu := by
  obtain ⟨l', hl', hall⟩ := notifications_parent hb maintenant ⟨parentId⟩
  obtain rfl : l = l' := Except.ok.inj (hl.symm.trans hl')
  unfold HomeParent.nbNotifsNonLues
  rw [hp]
  refine length_run_non_lus [.isEqualTo .parentId (.str parentId)] (fun id d hd hsat => ?_)
    (hall.imp fun row n hn => hn.2)
  have hparent := Filter.sat_isEqualTo_str.mp (hsat _ List.mem_cons_self)
  obtain ⟨lu, hlue⟩ := (hb id d hd).parent parentId hparent
  exact hlue.createdAt

/-- **The badge of a student.** -/
theorem badge_eleve {eleveId : String} {p : HomeEleve}
    (hp : p.ecoute .notifications = some eleveId)
    {q : ListeNotificationsElevePage} (hq : q.eleveId = some eleveId) {maintenant : ℤ}
    {l : List NotificationModeleEleve} (hl : q.notifications maintenant b = .ok l) :
    p.nbNotifsNonLues b = l.countP fun n => !n.lu := by
  obtain ⟨l', hl', hall⟩ := notifications_eleve hb maintenant eleveId
  unfold ListeNotificationsElevePage.notifications at hl
  rw [hq] at hl
  obtain rfl : l = l' := Except.ok.inj (hl.symm.trans hl')
  unfold HomeEleve.nbNotifsNonLues
  rw [hp]
  refine length_run_non_lus [.isEqualTo .eleveId (.str eleveId),
    .isEqualTo .destinataireId (.str eleveId)] (fun id d hd hsat => ?_)
    (hall.imp fun row n hn => hn.2)
  have heleve := Filter.sat_isEqualTo_str.mp (hsat _ (List.mem_cons_of_mem _ List.mem_cons_self))
  obtain ⟨vu, hlue⟩ := (hb id d hd).eleve eleveId heleve
  exact hlue.date

end Badges

end EduConnect.Familles
