import EduConnect.Admin.Profil

/-!
# The picture of a profile and its file

`_modifierPhotoProfil` deletes the old file, uploads the new one and stores its id, in this order
and without `try`.  When the upload or the update fails, the old file is gone and its id still
stored.
-/

namespace EduConnect.Admin

open Lib Prog

namespace ProfilUtilisateur

variable {S : Server} {p : ProfilUtilisateur} {b b' : Base} {f : List (Option Err)} {d : Document}

/-- The stored id of the picture of the user `u`; an empty one names no file. -/
def Photo (b : Base) (u fileId : String) : Prop :=
  fileId ≠ "" ∧ ∃ d, b.doc .utilisateurs u = some d ∧ d .photoFileId = some (.str fileId)

/-- The outcome `a` of a change of the picture: the stored id names a file, and after a success it
is that of the new file and the old file is deleted. -/
structure PhotoGardee (S : Server) (p : ProfilUtilisateur) (b : Base) (a : Except Err Unit)
    (b' : Base) : Prop where
  existe : ∀ fileId, Photo b' p.utilisateurId fileId → (b'.files.find fileId).isSome
  nouvelle : a = .ok () → ∃ d', b'.doc .utilisateurs p.utilisateurId = some d' ∧
    d' .photoFileId = some (.str (S.newId (p.fichiersApres b.files))) ∧
    (b'.files.find (S.newId (p.fichiersApres b.files))).isSome
  ancienne : a = .ok () → ∀ fileId, Photo b p.utilisateurId fileId → b'.files.find fileId = none

/-! ## The upload and the update -/

/-- The data once a file is uploaded. -/
def deposer (S : Server) (b : Base) : Base := { b with files := b.files.put (S.newId b.files) () }

/-- The data once the id of the uploaded file is stored. -/
def noter (S : Server) (p : ProfilUtilisateur) (b : Base) (d : Document) : Base :=
  (deposer S b).putDoc .utilisateurs p.utilisateurId
    (writeFields b.clock d [texte .photoFileId (S.newId b.files)])

/-- The upload fails, or the update does, or none. -/
theorem issue_enregistrerPhoto (hd : b.doc .utilisateurs p.utilisateurId = some d)
    (filename : String) : (enregistrerPhoto filename).Ends (faulty S.handler) (fun a _ x =>
      (nextFault f ≠ none ∧ a ≠ .ok () ∧ x.1 = b) ∨
      (nextFault f = none ∧ nextFault f.tail ≠ none ∧ a ≠ .ok () ∧ x.1 = deposer S b) ∨
      (nextFault f = none ∧ nextFault f.tail = none ∧ a = .ok () ∧ x.1 = noter S p b d)) p
      (b, f) := by
  simp only [enregistrerPhoto, bind_eq]
  refine ends_bind.mpr (ends_creerFichier_pannes.mpr ⟨fun e he => Or.inl ?_, fun hf => ?_⟩)
  · exact ⟨by simp [he], by simp, rfl⟩
  refine ends_page_bind.mpr (ends_bind.mpr ?_)
  have hd' : (deposer S b).doc .utilisateurs p.utilisateurId = some d := hd
  refine (ends_update_pannes hd').mpr ⟨fun e he => Or.inr (Or.inl ?_), fun hf' => ?_⟩
  · exact ⟨hf, by simp [he], by simp, rfl⟩
  · refine ends_sansAttendre.mono ?_
    rintro a p' x ⟨ha, hx, -⟩
    exact Or.inr (Or.inr ⟨hf, hf', ha, hx⟩)

theorem photo_iff (hd : b.doc .utilisateurs p.utilisateurId = some d) {fileId : String} :
    Photo b p.utilisateurId fileId ↔ fileId ≠ "" ∧ d .photoFileId = some (.str fileId) := by
  refine and_congr_right fun _ => ⟨?_, fun h => ⟨d, hd, h⟩⟩
  rintro ⟨d', hd', h⟩
  rwa [Option.some.inj (hd.symm.trans hd')]

/-- Once the id is stored, the new file is there. -/
theorem doc_noter (S : Server) (p : ProfilUtilisateur) (b : Base) (d : Document) :
    (noter S p b d).doc .utilisateurs p.utilisateurId =
        some (writeFields b.clock d [texte .photoFileId (S.newId b.files)]) ∧
      writeFields b.clock d [texte .photoFileId (S.newId b.files)] .photoFileId =
        some (.str (S.newId b.files)) ∧
      (noter S p b d).files = b.files.put (S.newId b.files) () := by
  refine ⟨?_, ?_, rfl⟩
  · rw [noter, Data.doc_putDoc, if_pos ⟨rfl, rfl⟩]
  · rw [texte, writeFields_cons, writeFields_nil, Function.update_self]
    rfl

/-- A change that stores the new picture after the old file was deleted, if there was one. -/
theorem photoGardee_noter {b₁ : Base} (hfiles : b₁.files = p.fichiersApres b.files)
    (hancienne : ∀ fileId, Photo b p.utilisateurId fileId →
      b₁.files.find fileId = none ∧ S.newId b₁.files ≠ fileId) :
    PhotoGardee S p b (.ok ()) (noter S p b₁ d) := by
  obtain ⟨hdoc, hchamp, hf⟩ := doc_noter S p b₁ d
  have hneuf : ((noter S p b₁ d).files.find (S.newId b₁.files)).isSome := by
    rw [hf, Table.find_put_self]
    rfl
  refine ⟨fun fileId hphoto => ?_, fun _ => ⟨_, hdoc, hfiles ▸ hchamp, hfiles ▸ hneuf⟩, ?_⟩
  · obtain ⟨-, hstr⟩ := (photo_iff hdoc).mp hphoto
    obtain rfl : S.newId b₁.files = fileId :=
      Value.str.inj (Option.some.inj (hchamp.symm.trans hstr))
    exact hneuf
  · intro _ fileId hphoto
    obtain ⟨hnone, hne⟩ := hancienne fileId hphoto
    rw [hf, Table.find_put_ne _ (Ne.symm hne)]
    exact hnone

/-! ## The whole change -/

/-- The page that shows the document `d` knows of its picture, of none, or of one it cannot read. -/
theorem ancienFichier_cases (hp : p.utilisateurData = some d) :
    (∃ fileId, fileId ≠ "" ∧ d .photoFileId = some (.str fileId) ∧
      p.ancienFichier = .ok (some fileId)) ∨
    ((∀ fileId, fileId ≠ "" → d .photoFileId ≠ some (.str fileId)) ∧
      (p.ancienFichier = .ok none ∨ ∃ e, p.ancienFichier = .error e)) := by
  unfold ancienFichier
  rw [hp]
  simp only [Doc.get]
  rcases d .photoFileId with _ | v
  · exact Or.inr ⟨by simp, Or.inl rfl⟩
  cases v with
  | null => exact Or.inr ⟨by simp, Or.inl rfl⟩
  | str fileId =>
    by_cases hvide : fileId = ""
    · subst hvide
      refine Or.inr ⟨fun i hi heq => hi ?_, Or.inl rfl⟩
      exact (Value.str.inj (Option.some.inj heq)).symm
    · refine Or.inl ⟨fileId, hvide, rfl, ?_⟩
      show Except.ok (Option.filter (· ≠ "") (some fileId)) = _
      rw [Option.filter_some, if_pos (by simpa using hvide)]
  | _ => exact Or.inr ⟨by simp, Or.inr ⟨_, rfl⟩⟩

theorem photoGardee_echec {a : Except Err Unit} (ha : a ≠ .ok ())
    (h : ∀ fileId, Photo b' p.utilisateurId fileId → (b'.files.find fileId).isSome) :
    PhotoGardee S p b a b' :=
  ⟨h, fun hok => absurd hok ha, fun hok => absurd hok ha⟩

/-- Without an old picture nothing can be lost. -/
theorem ends_sansAncienne (hd : b.doc .utilisateurs p.utilisateurId = some d)
    (hsans : ∀ fileId, fileId ≠ "" → d .photoFileId ≠ some (.str fileId))
    (hancien : p.ancienFichier = .ok none ∨ ∃ e, p.ancienFichier = .error e) (filename : String) :
    (modifierPhotoProfil (some filename)).Ends (faulty S.handler)
      (fun a _ x => PhotoGardee S p b a x.1) p (b, f) := by
  have haucune : ∀ {b₁ : Base}, b₁.docs = b.docs → ∀ fileId, ¬Photo b₁ p.utilisateurId fileId := by
    intro b₁ hdocs fileId hphoto
    have hd₁ : b₁.doc .utilisateurs p.utilisateurId = some d := by
      rw [Data.doc, hdocs]
      exact hd
    obtain ⟨hvide, hstr⟩ := (photo_iff hd₁).mp hphoto
    exact hsans fileId hvide hstr
  simp only [modifierPhotoProfil, bind_eq]
  refine ends_page_bind.mpr (ends_bind.mpr ((ends_ofExcept _).mpr ?_))
  rcases hancien with hancien | ⟨e, hancien⟩
  · rw [hancien]
    refine (issue_enregistrerPhoto hd filename).mono ?_
    rintro a p' x (⟨-, ha, hx⟩ | ⟨-, -, ha, hx⟩ | ⟨-, -, rfl, hx⟩)
    · rw [hx]
      exact photoGardee_echec ha fun fileId hphoto => absurd hphoto (haucune rfl fileId)
    · rw [hx]
      exact photoGardee_echec ha fun fileId hphoto => absurd hphoto (haucune rfl fileId)
    · rw [hx]
      refine photoGardee_noter ?_ fun fileId hphoto => absurd hphoto (haucune rfl fileId)
      rw [fichiersApres, hancien]
  · rw [hancien]
    exact photoGardee_echec (by simp) fun fileId hphoto => absurd hphoto (haucune rfl fileId)

/-- With an old picture it is lost unless its file is there and the deletion fails or everything
succeeds. -/
theorem ends_avecAncienne (hd : b.doc .utilisateurs p.utilisateurId = some d) {fileId : String}
    (hvide : fileId ≠ "") (hstr : d .photoFileId = some (.str fileId))
    (hancien : p.ancienFichier = .ok (some fileId))
    (hneuf : S.newId (b.files.erase fileId) ≠ fileId) (filename : String) :
    (modifierPhotoProfil (some filename)).Ends (faulty S.handler)
      (fun a _ x => PhotoGardee S p b a x.1 ↔ (b.files.find fileId).isSome ∧
        (nextFault f ≠ none ∨ nextFault f.tail = none ∧ nextFault f.tail.tail = none)) p
      (b, f) := by
  have hphoto : ∀ {b₁ : Base}, b₁.docs = b.docs → Photo b₁ p.utilisateurId fileId := fun hdocs =>
    ⟨hvide, d, by rw [Data.doc, hdocs]; exact hd, hstr⟩
  have hseule : ∀ {b₁ : Base}, b₁.docs = b.docs → ∀ i, Photo b₁ p.utilisateurId i → i = fileId := by
    intro b₁ hdocs i hi
    have hd₁ : b₁.doc .utilisateurs p.utilisateurId = some d := by
      rw [Data.doc, hdocs]
      exact hd
    have heq := ((photo_iff hd₁).mp hi).2
    exact Value.str.inj (Option.some.inj (heq.symm.trans hstr))
  simp only [modifierPhotoProfil, bind_eq]
  refine ends_page_bind.mpr (ends_bind.mpr ((ends_ofExcept _).mpr ?_))
  rw [hancien]
  refine ends_bind.mpr (ends_supprimerFichier_pannes.mpr ⟨fun e he => ?_, fun hf => ?_⟩)
  · -- the deletion is lost
    constructor
    · exact fun h => ⟨h.existe fileId (hphoto rfl), Or.inl (by rw [he]; simp)⟩
    · rintro ⟨hfichier, -⟩
      refine photoGardee_echec (by simp) fun i hi => ?_
      rw [hseule rfl i hi]
      exact hfichier
  by_cases hfichier : (b.files.find fileId).isSome = true
  swap
  · rw [if_neg hfichier, if_neg hfichier]
    refine iff_of_false (fun h => hfichier ?_) fun h => hfichier h.1
    exact h.existe fileId (hphoto rfl)
  rw [if_pos hfichier, if_pos hfichier]
  have hd₁ : ({ b with files := b.files.erase fileId } : Base).doc .utilisateurs p.utilisateurId =
      some d := hd
  have hfaute : ¬nextFault f ≠ none := not_not.mpr hf
  refine (issue_enregistrerPhoto hd₁ filename).mono ?_
  rintro a p' x (⟨hlost, ha, hx⟩ | ⟨-, hlost, ha, hx⟩ | ⟨hlost, hlost', rfl, hx⟩)
  · rw [hx]
    refine iff_of_false (fun h => ?_) fun h => hlost (h.2.resolve_left hfaute).1
    have hperdu := h.existe fileId (hphoto rfl)
    simp only [Table.find_erase_self] at hperdu
    cases hperdu
  · rw [hx]
    refine iff_of_false (fun h => ?_) fun h => hlost (h.2.resolve_left hfaute).2
    have hperdu := h.existe fileId (hphoto rfl)
    simp only [deposer] at hperdu
    rw [Table.find_put_ne _ hneuf.symm, Table.find_erase_self] at hperdu
    cases hperdu
  · refine iff_of_true ?_ ⟨hfichier, Or.inr ⟨hlost, hlost'⟩⟩
    rw [hx]
    refine photoGardee_noter ?_ fun i hi => ?_
    · rw [fichiersApres, hancien]
    · rw [hseule rfl i hi]
      exact ⟨Table.find_erase_self _ _, hneuf⟩

/-- A change of the picture keeps it if and only if the user has none, or its file is there and the
deletion fails or the three calls succeed. -/
theorem photoGardee_iff (hd : b.doc .utilisateurs p.utilisateurId = some d)
    (hp : p.utilisateurData = some d)
    (hneuf : ∀ fileId, d .photoFileId = some (.str fileId) →
      S.newId (b.files.erase fileId) ≠ fileId) (filename : String) :
    (modifierPhotoProfil (some filename)).Ends (faulty S.handler)
      (fun a _ x => PhotoGardee S p b a x.1) p (b, f) ↔
    ∀ fileId, fileId ≠ "" → d .photoFileId = some (.str fileId) → (b.files.find fileId).isSome ∧
      (nextFault f ≠ none ∨ nextFault f.tail = none ∧ nextFault f.tail.tail = none) := by
  rcases ancienFichier_cases hp with ⟨fileId, hvide, hstr, hancien⟩ | ⟨hsans, hancien⟩
  · refine (ends_avecAncienne hd hvide hstr hancien (hneuf fileId hstr) filename).trans ?_
    constructor
    · intro h i _ hi
      rwa [Value.str.inj (Option.some.inj (hi.symm.trans hstr))]
    · exact fun h => h fileId hvide hstr
  · refine iff_of_true (ends_sansAncienne hd hsans hancien filename) fun fileId hvide hstr => ?_
    exact absurd hstr (hsans fileId hvide)

end ProfilUtilisateur

/-! ## A user with a picture -/

open ProfilUtilisateur

def baseAvecPhoto : Base :=
  { baseVide.putDoc .utilisateurs "u" (newDoc 0 [texte .photoFileId "ancienne"]) with
    files := Table.empty.put "ancienne" () }

def profilAvecPhoto : ProfilUtilisateur where
  utilisateurId := "u"
  utilisateurData := some (newDoc 0 [texte .photoFileId "ancienne"])
  isLoading := false

theorem newId_baseAvecPhoto (fileId : String)
    (h : newDoc 0 [texte .photoFileId "ancienne"] .photoFileId = some (.str fileId)) :
    (Server.longest 10).newId (baseAvecPhoto.files.erase fileId) ≠ fileId := by
  obtain rfl : "ancienne" = fileId := Value.str.inj (Option.some.inj h)
  decide +kernel

/-- Nothing fails. -/
theorem photoGardee_sansPanne : (modifierPhotoProfil (some "photo.png")).Ends
    (faulty (Server.longest 10).handler)
    (fun a _ x => PhotoGardee (Server.longest 10) profilAvecPhoto baseAvecPhoto a x.1)
    profilAvecPhoto (baseAvecPhoto, []) := by
  refine (photoGardee_iff rfl rfl newId_baseAvecPhoto "photo.png").mpr fun fileId _ h => ?_
  obtain rfl : "ancienne" = fileId := Value.str.inj (Option.some.inj h)
  exact ⟨by decide, Or.inr ⟨rfl, rfl⟩⟩

/-- The upload fails: the stored id names the file that was deleted. -/
theorem not_photoGardee_depotPerdu : ¬(modifierPhotoProfil (some "photo.png")).Ends
    (faulty (Server.longest 10).handler)
    (fun a _ x => PhotoGardee (Server.longest 10) profilAvecPhoto baseAvecPhoto a x.1)
    profilAvecPhoto (baseAvecPhoto, [none, some .unavailable]) := by
  intro h
  have hphoto : Photo ((modifierPhotoProfil (some "photo.png")).exec
      (faulty (Server.longest 10).handler) profilAvecPhoto
      (baseAvecPhoto, [none, some .unavailable])).2.2.1 "u" "ancienne" :=
    ⟨by decide, newDoc 0 [texte .photoFileId "ancienne"], rfl, rfl⟩
  exact absurd (h.existe "ancienne" hphoto) (by decide +kernel)

end EduConnect.Admin
