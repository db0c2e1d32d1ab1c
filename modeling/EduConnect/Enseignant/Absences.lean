import EduConnect.Enseignant.Destinataires
import EduConnect.Enseignant.Interruptions
import EduConnect.Lib.Additions
import EduConnect.Lignes

/-!
# The parents of the absent students

`enregistrerAppel` asks for the families of all the absent students in one query, and adds one
notification for each document it gets.  `_chargerParentsDesEleves` makes the same join by batches
of ten.
-/

namespace EduConnect.Enseignant

open Lib Prog

section Absences

variable {S : Server} {b b' : Base} {p : AppelPage} {h : AppelPage.Horloge}

/-! ## What is written -/

/-- A notification of an absence, for a document of `famille` and with the class and the subject of
the roll call. -/
def AvisAbsence (p : AppelPage) (famille avis : Document) : Prop :=
  avis .type = some (.str "absence") ∧ avis .parentId = famille .parentId ∧
    avis .eleveId = famille .eleveId ∧ ∃ m, avis .metadata = some (.map m) ∧
      m .classeId = p.classeChoisieId.map .str ∧ m .matiereId = p.matiereChoisieId.map .str

/-- A notification written between `b` and `b'`. -/
def NouvelAvis (b b' : Base) (avis : String × Document) : Prop :=
  b.doc .notifications avis.1 = none ∧ b'.doc .notifications avis.1 = some avis.2

/-- Between `b` and `b'` each document of `famille` of an absent student was notified once, and
nothing else was written in the notifications. -/
structure AbsencesNotifiees (p : AppelPage) (b b' : Base) : Prop where
  avis : ∀ famille, FamilleDe b p.absents famille →
    ∃! avis, NouvelAvis b b' avis ∧ AvisAbsence p famille avis.2
  rien : ∀ avis, NouvelAvis b b' avis →
    ∃ famille, FamilleDe b p.absents famille ∧ AvisAbsence p famille avis.2
  anciens : ∀ id d, b.doc .notifications id = some d → b'.doc .notifications id = some d

/-- A parent and a student have one document of `famille` at most. -/
def FamilleUnique (b : Base) : Prop :=
  ∀ id id' famille famille', b.doc .famille id = some famille → b.doc .famille id' = some famille' →
    famille .parentId = famille' .parentId → famille .eleveId = famille' .eleveId → id = id'

/-- Without new notifications nobody was to be notified. -/
theorem absencesNotifiees_of_docs (hdocs : b'.docs .notifications = b.docs .notifications) :
    AbsencesNotifiees p b b' ↔ ∀ famille, ¬FamilleDe b p.absents famille := by
  have hdoc : ∀ id, b'.doc .notifications id = b.doc .notifications id := fun id => by
    rw [Data.doc, Data.doc, hdocs]
  have hnul : ∀ avis, ¬NouvelAvis b b' avis := by
    rintro avis ⟨hnone, hsome⟩
    rw [hdoc, hnone] at hsome
    cases hsome
  constructor
  · rintro ⟨havis, -, -⟩ famille hf
    obtain ⟨avis, ⟨hn, -⟩, -⟩ := havis famille hf
    exact hnul avis hn
  · intro haucune
    refine ⟨fun famille hf => absurd hf (haucune famille), fun avis hn => absurd hn (hnul avis), ?_⟩
    exact fun id d hd => (hdoc id).trans hd

/-! ## A notification -/

namespace AppelPage

/-- The fields `enregistrerAppel` writes for a document of `famille`. -/
def champsAvis (p : AppelPage) (h : Horloge) (doc : String × Document) : Champs :=
  (p.notification h doc).toOption.elim [] NotificationModele.toMap

theorem champsAvis_of_mapM {familles : List (String × Document)} {ns : List NotificationModele}
    (hns : familles.mapM (p.notification h) = .ok ns) :
    ns.map NotificationModele.toMap = familles.map (p.champsAvis h) := by
  have hmap := congrArg (List.map fun x : Except Err NotificationModele =>
    x.toOption.elim [] NotificationModele.toMap) (mapM_eq_ok_iff.mp hns)
  rw [List.map_map, List.map_map] at hmap
  exact hmap.symm

/-- A family document gives a notification for the parent and the student it names. -/
theorem notification_eq_ok {doc : String × Document} {n : NotificationModele}
    (hn : p.notification h doc = .ok n) :
    ∃ famille classeId matiereId, FamilleModele.fromMap doc.2 doc.1 = .ok famille ∧
      p.classeChoisieId = some classeId ∧ p.matiereChoisieId = some matiereId ∧
      n.parentId = famille.parentId ∧ n.eleveId = famille.eleveId ∧ n.type = some "absence" ∧
      n.metadata = some fun f => match f with
        | .classeId => some (.str classeId)
        | .matiereId => some (.str matiereId)
        | _ => none := by
  obtain ⟨he, hc, hm, famille, hf⟩ := notification_ok_iff.mp ⟨n, hn⟩
  obtain ⟨enseignantId, he⟩ := Option.ne_none_iff_exists'.mp he
  obtain ⟨classeId, hc⟩ := Option.ne_none_iff_exists'.mp hc
  obtain ⟨matiereId, hm⟩ := Option.ne_none_iff_exists'.mp hm
  refine ⟨famille, classeId, matiereId, hf, hc, hm, ?_⟩
  unfold notification at hn
  rw [hf, he, hc, hm] at hn
  obtain rfl := Except.ok.inj hn
  exact ⟨rfl, rfl, rfl, rfl⟩

theorem champsAvis_of_ok {doc : String × Document} {n : NotificationModele}
    (hn : p.notification h doc = .ok n) : p.champsAvis h doc = n.toMap := by
  rw [champsAvis, hn]
  rfl

/-- It is a notification of the absence when the document names its parent and its student. -/
theorem avisAbsence_champsAvis {doc : String × Document} {n : NotificationModele} {now : ℤ}
    {parentId eleveId : String} (hn : p.notification h doc = .ok n)
    (hparent : doc.2 .parentId = some (.str parentId))
    (heleve : doc.2 .eleveId = some (.str eleveId)) :
    AvisAbsence p doc.2 (newDoc now (p.champsAvis h doc)) := by
  obtain ⟨famille, classeId, matiereId, hf, hc, hm, hp, he, ht, hmeta⟩ := notification_eq_ok hn
  obtain rfl : FamilleModele.mk doc.1 parentId eleveId = famille := by
    simp only [FamilleModele.fromMap, Doc.get, hparent, heleve, Option.getD_some] at hf
    exact Except.ok.inj hf
  rw [champsAvis_of_ok hn]
  have htype : newDoc now n.toMap .type = some (valeurOption (n.type.map Value.str)) := rfl
  have hmetadata : newDoc now n.toMap .metadata = some (valeurOption (n.metadata.map Value.map)) :=
    rfl
  have hids : newDoc now n.toMap .parentId = some (.str n.parentId) ∧
      newDoc now n.toMap .eleveId = some (.str n.eleveId) := ⟨rfl, rfl⟩
  rw [ht] at htype
  rw [hmeta] at hmetadata
  refine ⟨htype, ?_, ?_, _, hmetadata, ?_, ?_⟩
  · rw [hids.1, hp, hparent]
  · rw [hids.2, he, heleve]
  · rw [hc]
    rfl
  · rw [hm]
    rfl

/-- The parent of a notification is a string, whatever the document holds. -/
theorem str_champsAvis {doc : String × Document} {n : NotificationModele} {now : ℤ}
    (hn : p.notification h doc = .ok n) :
    newDoc now (p.champsAvis h doc) .parentId = some (.str n.parentId) := by
  rw [champsAvis_of_ok hn]
  rfl

end AppelPage

/-! ## The call -/

theorem mem_famillesDuLot_iff {lot : List String} {doc : String × Document} :
    doc ∈ famillesDuLot b lot ↔ b.doc .famille doc.1 = some doc.2 ∧ FamilleDe b lot doc.2 := by
  constructor
  · intro hdoc
    exact ⟨(Query.of_mem_run hdoc).1, mem_famillesDuLot.mp ⟨doc.1, hdoc⟩⟩
  · rintro ⟨hd, -, -, e, he, heleve⟩
    refine Query.mem_run.mpr ⟨hd, ?_⟩
    rw [List.forall_mem_singleton, Filter.sat_whereIn]
    exact ⟨e, he, heleve⟩

theorem nodup_famillesDuLot {lot : List String} : (famillesDuLot b lot).Nodup :=
  List.Nodup.of_map Prod.fst (Query.keys_run_nodup _ _)

/-- What `notifier` leaves: the notifications of the families of the query, if it is accepted and
its documents can be read. -/
theorem base_notifier (S : Server) (absents : List String) (h : AppelPage.Horloge) (p : AppelPage)
    (b : Base) : ((AppelPage.notifier absents h).exec S.handler p b).2.2 =
      if absents = [] ∨ S.maxIn < absents.length then b
      else match (famillesDuLot b absents).mapM (p.notification h) with
        | .error _ => b
        | .ok ns => (ns.map NotificationModele.toMap).foldl (S.addDoc .notifications) b := by
  by_cases habsents : absents = []
  · rw [if_pos (Or.inl habsents), AppelPage.notifier, if_pos habsents]
    rfl
  rw [AppelPage.notifier, if_neg habsents]
  simp only [bind_eq]
  rw [exec_bind]
  by_cases hlong : S.maxIn < absents.length
  · have hrefus : ([.whereIn .eleveId absents] : List (Lib.Filter Champ)).any
        (Filter.refused S.maxIn) = true := by
      simp [Filter.refused, hlong]
    rw [if_pos (Or.inr hlong), exec_chercher_refused hrefus]
  · have haccepte : ([.whereIn .eleveId absents] : List (Lib.Filter Champ)).any
        (Filter.refused S.maxIn) = false := by
      simp [Filter.refused, habsents, Nat.not_lt.mp hlong]
    rw [if_neg (not_or.mpr ⟨habsents, hlong⟩), exec_chercher haccepte]
    show (exec _ (Prog.bind (ofExcept ((famillesDuLot b absents).mapM (p.notification h))) _) p
      b).2.2 = _
    rw [exec_ofExcept_bind]
    rcases (famillesDuLot b absents).mapM (p.notification h) with e | ns
    · rfl
    · rfl

/-- A call without a class, a subject or a teacher does nothing; another one adds the roll call and
notifies. -/
theorem base_enregistrerAppel (S : Server) (h : AppelPage.Horloge) (p : AppelPage) (b : Base) :
    ¬p.Choisis ∧ ((AppelPage.enregistrerAppel h).exec S.handler p b).2.2 = b ∨
    p.Choisis ∧ ∃ appel, ((AppelPage.enregistrerAppel h).exec S.handler p b).2.2 =
      ((AppelPage.notifier p.absents h).exec S.handler
        (AppelPage.sur (fun c => { c with saving := true }) p) (S.addDoc .appels b appel)).2.2 := by
  obtain ⟨k, hk, hcases⟩ := AppelPage.enregistrerAppel_eq h
  have hexec : (AppelPage.enregistrerAppel h).exec S.handler p b = (k p).exec S.handler p b := by
    rw [hk]
    rfl
  rw [hexec]
  rcases hcases p with ⟨hchoisis, hkp⟩ | ⟨classeId, matiereId, enseignantId, hc, hm, he, hkp⟩
  · rw [hkp]
    exact Or.inl ⟨hchoisis, rfl⟩
  · refine Or.inr ⟨⟨by rw [he]; nofun, by rw [hc]; nofun, by rw [hm]; nofun⟩,
      p.appel classeId matiereId enseignantId h, ?_⟩
    rw [hkp]
    show (exec S.handler (Prog.bind (AppelPage.notifier p.absents h) fun _ => setState
      AppelPage.vider) (AppelPage.sur (fun c => { c with saving := true }) p)
      (S.addDoc .appels b (p.appel classeId matiereId enseignantId h))).2.2 = _
    rw [exec_bind]
    rcases exec _ _ _ _ with ⟨e | _, p', b'⟩
    · rfl
    · rfl

/-- What a call leaves in the notifications: nothing new, or the notification of every document of
`famille` of an absent student. -/
theorem issue_enregistrerAppel (S : Server) (h : AppelPage.Horloge) (p : AppelPage) (b : Base) :
    let b' := ((AppelPage.enregistrerAppel h).exec S.handler p b).2.2
    b'.docs .notifications = b.docs .notifications ∧ (p.absents = [] ∨
      ¬(p.Choisis ∧ p.absents.length ≤ S.maxIn ∧ ParentsNommes b p.absents)) ∨
    (p.Choisis ∧ p.absents.length ≤ S.maxIn) ∧ ∃ ns,
      (famillesDuLot b p.absents).mapM (p.notification h) = Except.ok ns ∧
      ∃ key : String × Document → String, Adds .notifications
        ((famillesDuLot b p.absents).map fun doc => (key doc, newDoc b.clock (p.champsAvis h doc)))
        b b' := by
  intro b'
  rcases base_enregistrerAppel S h p b with ⟨hchoisis, hb'⟩ | ⟨hchoisis, appel, hb'⟩
  · refine Or.inl ⟨congrArg (fun b : Base => b.docs .notifications) hb', Or.inr ?_⟩
    exact fun hall => hchoisis hall.1
  have hautre : (S.addDoc .appels b appel).docs .notifications = b.docs .notifications :=
    S.docs_addDoc_ne (by decide) b appel
  have hfamilles : (S.addDoc .appels b appel).docs .famille = b.docs .famille :=
    S.docs_addDoc_ne (by decide) b appel
  rw [base_notifier] at hb'
  by_cases hcourt : p.absents = [] ∨ S.maxIn < p.absents.length
  · rw [if_pos hcourt] at hb'
    refine Or.inl ⟨(congrArg (fun b : Base => b.docs .notifications) hb').trans hautre,
      hcourt.imp_right fun hlong hall => ?_⟩
    exact absurd hall.2.1 (Nat.not_le.mpr hlong)
  rw [if_neg hcourt] at hb'
  obtain ⟨habsents, hlong⟩ := not_or.mp hcourt
  rw [show famillesDuLot (S.addDoc .appels b appel) p.absents = famillesDuLot b p.absents from
    congrArg (Query.run _) hfamilles] at hb'
  rw [show (famillesDuLot b p.absents).mapM
    ((AppelPage.sur (fun c => { c with saving := true }) p).notification h) =
      (famillesDuLot b p.absents).mapM (p.notification h) from rfl] at hb'
  rcases hns : (famillesDuLot b p.absents).mapM (p.notification h) with e | ns
  · rw [hns] at hb'
    refine Or.inl ⟨(congrArg (fun b : Base => b.docs .notifications) hb').trans hautre, Or.inr ?_⟩
    rintro ⟨-, -, hnoms⟩
    have hlisible : AppelPage.Notifiable p (famillesDuLot b p.absents) := by
      intro doc hdoc
      obtain ⟨-, hf⟩ := mem_famillesDuLot_iff.mp hdoc
      obtain ⟨parentId, hparent⟩ := hnoms doc.2 hf
      obtain ⟨-, -, e, -, heleve⟩ := hf
      refine ⟨hchoisis.1, hchoisis.2.1, hchoisis.2.2, ⟨doc.1, parentId, e⟩, ?_⟩
      simp only [FamilleModele.fromMap, Doc.get, hparent, heleve, Option.getD_some]
      rfl
    obtain ⟨ns, hok⟩ := (AppelPage.mapM_notification_iff (h := h)).mpr hlisible
    rw [hns] at hok
    cases hok
  · rw [hns] at hb'
    refine Or.inr ⟨⟨hchoisis, Nat.not_lt.mp hlong⟩, ns, rfl, ?_⟩
    obtain ⟨key, hadds⟩ := exists_adds_of_map S .notifications (nodup_famillesDuLot (b := b))
      (p.champsAvis h) (S.addDoc .appels b appel)
    rw [← AppelPage.champsAvis_of_mapM hns] at hadds
    refine ⟨key, ?_⟩
    unfold Adds at hadds ⊢
    rw [hautre] at hadds
    exact (congrArg (fun b : Base => (b.docs .notifications).rows) hb') ▸ hadds

/-- The notifications of documents that name their parents are those of the absences. -/
theorem avisAbsence_of_nommes {ns : List NotificationModele} {doc : String × Document} {now : ℤ}
    (hns : (famillesDuLot b p.absents).mapM (p.notification h) = Except.ok ns)
    (hnoms : ParentsNommes b p.absents) (hdoc : doc ∈ famillesDuLot b p.absents) :
    AvisAbsence p doc.2 (newDoc now (p.champsAvis h doc)) := by
  obtain ⟨n, -, hn⟩ := exists_mem_of_mapM hns hdoc
  obtain ⟨-, hf⟩ := mem_famillesDuLot_iff.mp hdoc
  obtain ⟨parentId, hparent⟩ := hnoms doc.2 hf
  obtain ⟨-, -, e, -, heleve⟩ := hf
  exact AppelPage.avisAbsence_champsAvis hn hparent heleve

/-- Every absence reaches every linked parent if and only if there is nobody to notify, or the
absent students fit in one query and their families all name a parent. -/
theorem absencesNotifiees_iff (S : Server) (h : AppelPage.Horloge) (p : AppelPage) (b : Base)
    (hunique : FamilleUnique b) :
    AbsencesNotifiees p b ((AppelPage.enregistrerAppel h).exec S.handler p b).2.2 ↔
      (∀ famille, ¬FamilleDe b p.absents famille) ∨
      p.Choisis ∧ p.absents.length ≤ S.maxIn ∧ ParentsNommes b p.absents := by
  rcases issue_enregistrerAppel S h p b with
    ⟨hdocs, hnon⟩ | ⟨⟨hchoisis, hlong⟩, ns, hns, key, hadds⟩
  · rw [absencesNotifiees_of_docs hdocs]
    refine ⟨Or.inl, fun hcond => hcond.elim id fun hall => ?_⟩
    rcases hnon with habsents | hnot
    · rintro famille ⟨-, -, e, he, -⟩
      rw [habsents] at he
      cases he
    · exact absurd hall hnot
  have hnouvel : ∀ avis, NouvelAvis b ((AppelPage.enregistrerAppel h).exec S.handler p b).2.2 avis ↔
      ∃ doc ∈ famillesDuLot b p.absents,
        (key doc, newDoc b.clock (p.champsAvis h doc)) = avis :=
    fun avis => hadds.new_iff.trans List.mem_map
  constructor
  · rintro ⟨havis, -, -⟩
    refine Or.inr ⟨hchoisis, hlong, fun famille hf => ?_⟩
    obtain ⟨avis, ⟨hn, -, hparent, -⟩, -⟩ := havis famille hf
    obtain ⟨doc, hdoc, rfl⟩ := (hnouvel avis).mp hn
    obtain ⟨n, -, hn⟩ := exists_mem_of_mapM hns hdoc
    exact ⟨n.parentId, hparent.symm.trans (AppelPage.str_champsAvis hn)⟩
  · intro hcond
    have hnoms : ParentsNommes b p.absents := by
      rcases hcond with haucune | ⟨-, -, hnoms⟩
      · exact fun famille hf => absurd hf (haucune famille)
      · exact hnoms
    refine ⟨fun famille hf => ?_, fun avis hn => ?_, fun id d hd => hadds.doc_of_some hd⟩
    · obtain ⟨id, hid⟩ := mem_famillesDuLot.mpr hf
      refine ⟨_, ⟨(hnouvel _).mpr ⟨(id, famille), hid, rfl⟩,
        avisAbsence_of_nommes hns hnoms hid⟩, ?_⟩
      rintro avis ⟨hn, -, hparent, heleve, -⟩
      obtain ⟨doc, hdoc, rfl⟩ := (hnouvel avis).mp hn
      have hdocAvis : AvisAbsence p doc.2 (newDoc b.clock (p.champsAvis h doc)) :=
        avisAbsence_of_nommes hns hnoms hdoc
      obtain ⟨-, hparent', heleve', -⟩ := hdocAvis
      obtain ⟨hd, -⟩ := mem_famillesDuLot_iff.mp hdoc
      obtain ⟨hd', -⟩ := mem_famillesDuLot_iff.mp hid
      -- The two documents are for the same parent and the same student.
      have hkey : doc.1 = id := hunique doc.1 id doc.2 famille hd hd' (hparent'.symm.trans hparent)
        (heleve'.symm.trans heleve)
      obtain rfl : doc = (id, famille) :=
        Prod.ext hkey (Option.some.inj (hd.symm.trans (hkey ▸ hd')))
      rfl
    · obtain ⟨doc, hdoc, rfl⟩ := (hnouvel avis).mp hn
      exact ⟨doc.2, (mem_famillesDuLot_iff.mp hdoc).2, avisAbsence_of_nommes hns hnoms hdoc⟩

end Absences

/-! ## Eleven absent students -/

/-- A class of `n` students, with the family of the first one. -/
def appelDe (n : ℕ) : AppelPage :=
  { enseignantId := some "t", classeChoisieId := some "c", matiereChoisieId := some "m",
    matiereChoisieNom := some "Maths", etablissementId := "e", utilisateurId := "u",
    eleves := (List.range n).map fun i => ⟨toString i, .str "Ada", .str "Martin"⟩ }

def baseUneFamille : Base :=
  baseVide.putDoc .famille "f" (newDoc 0 [texte .parentId "p", texte .eleveId "0"])

theorem familleUnique_uneFamille : FamilleUnique baseUneFamille := by
  intro id id' famille famille' hd hd' _ _
  have hid : ∀ i d, baseUneFamille.doc .famille i = some d → i = "f" := by
    intro i d hi
    by_contra hne
    rw [baseUneFamille, Data.doc_putDoc, if_neg fun h => hne h.2] at hi
    cases hi
  rw [hid id famille hd, hid id' famille' hd']

theorem familleDe_uneFamille {ids : List String} {famille : Document}
    (hf : FamilleDe baseUneFamille ids famille) : famille .parentId = some (.str "p") := by
  obtain ⟨id, hd, -⟩ := hf
  rw [baseUneFamille, Data.doc_putDoc] at hd
  split at hd
  · obtain rfl := Option.some.inj hd
    rfl
  · cases hd

/-- Two absent students. -/
theorem absencesNotifiees_deuxAbsents :
    AbsencesNotifiees (appelDe 2) baseUneFamille ((AppelPage.enregistrerAppel ⟨1, 2, "08:00"⟩).exec
      (Server.longest 10).handler (appelDe 2) baseUneFamille).2.2 := by
  refine (absencesNotifiees_iff (Server.longest 10) ⟨1, 2, "08:00"⟩ (appelDe 2) baseUneFamille
    familleUnique_uneFamille).mpr (Or.inr ⟨⟨nofun, nofun, nofun⟩, by decide +kernel, ?_⟩)
  exact fun famille hf => ⟨"p", familleDe_uneFamille hf⟩

/-- Eleven absent students: the query is refused and nobody is notified. -/
theorem not_absencesNotifiees_onzeAbsents :
    FamilleUnique baseUneFamille ∧ (appelDe 11).Choisis ∧
    ¬AbsencesNotifiees (appelDe 11) baseUneFamille
      ((AppelPage.enregistrerAppel ⟨1, 2, "08:00"⟩).exec (Server.longest 10).handler (appelDe 11)
        baseUneFamille).2.2 := by
  refine ⟨familleUnique_uneFamille, ⟨nofun, nofun, nofun⟩, fun hnotifie => ?_⟩
  have hf : FamilleDe baseUneFamille (appelDe 11).absents
      (newDoc 0 [texte .parentId "p", texte .eleveId "0"]) :=
    ⟨"f", rfl, "0", by decide +kernel, rfl⟩
  obtain ⟨avis, ⟨⟨-, hsome⟩, -⟩, -⟩ := hnotifie.avis _ hf
  have hvide : (((AppelPage.enregistrerAppel ⟨1, 2, "08:00"⟩).exec (Server.longest 10).handler
      (appelDe 11) baseUneFamille).2.2.docs .notifications).rows.length = 0 := by
    decide +kernel
  have hrow := Table.find_eq_some_iff.mp hsome
  rw [List.length_eq_zero_iff.mp hvide] at hrow
  cases hrow

end EduConnect.Enseignant
