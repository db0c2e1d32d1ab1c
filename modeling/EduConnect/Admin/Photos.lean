import EduConnect.Admin.Fiches
import EduConnect.Admin.Profil
import EduConnect.Enseignant.Accueil
import EduConnect.Familles.Accueils
import EduConnect.Lib.Runs

/-!
# Where the photo of a user is

The creation screens store the id of the picture in `photo`, the profile page in `photoFileId`.  The
lists of users read the first field, the home pages and the profile page the second.
-/

namespace EduConnect.Admin

open Lib Prog Donnees
open Enseignant (HomeEnseignant)
open Familles (HomeParent HomeEleve)

/-! ## What the pages show -/

/-- `_HomeAdminState`, as far as the photo goes. -/
structure HomeAdmin where
  utilisateurId : String
  photoFileId : Option String := none

/-- `_chargerPhotoProfil`. -/
def HomeAdmin.chargerPhotoProfil : Action Unit HomeAdmin Unit :=
  catching (do
    let p ← page
    match ← lire () .utilisateurs p.utilisateurId with
    | none => return
    | some data =>
      if (data .photoFileId).isSome then
        match (← ofExcept (data.get .photoFileId).optStr).filter (· ≠ "") with
        | some fileId => setState fun p => { p with photoFileId := some fileId }
        | none => return)
    fun _ => ret ()

/-- The file a page shows for an id; none for an empty one. -/
def montree (fileId : Option String) : Option String := fileId.filter (· ≠ "")

theorem montree_some {fileId : String} (h : fileId ≠ "") : montree (some fileId) = some fileId :=
  Option.filter_some.trans (if_pos (decide_eq_true h))

section Affichage

variable (S : Server) (b : Base) (u : String)

/-- The file shown for `u` in a list of users. -/
def photoListe : Option String :=
  (b.doc .utilisateurs u).bind fun d => (UtilisateurModele.fromMap d u).toOption.bind fun m =>
    montree m.photo

/-- The file shown on the home page of `u`, who has the role of a screen. -/
def photoAccueil (etablissementId : String) : EcranAjout → Option String
  | .eleve => montree (HomeEleve.ouvrir S b etablissementId u).photo
  | .parent => montree (HomeParent.ouvrir S b etablissementId u).photo
  | .enseignant => montree (HomeEnseignant.ouvrir S b etablissementId u).utilisateurPhotoFileId
  | .administrateur =>
    montree (HomeAdmin.chargerPhotoProfil.exec S.handler { utilisateurId := u } b).2.1.photoFileId

/-- The file shown on the profile page of `u`. -/
def photoProfil : Option String :=
  (ProfilUtilisateur.chargerInfos.exec S.handler { utilisateurId := u } b).2.1.utilisateurData.bind
    fun data => (data.get .photoFileId).optStr.toOption.bind montree

end Affichage

/-! ## Operations on photos -/

/-- The data, the profile pages, and the last photo that was set for each user. -/
structure Photos where
  base : Base
  profils : String → ProfilUtilisateur := fun u => { utilisateurId := u }
  dernieres : String → Option String := fun _ => none

inductive OperationPhoto where
  | creation (e : EcranAjout) (p : e.Page)
  | ouvrirProfil (u : String)
  | changerPhoto (u : String) (picked : Option String)

namespace Photos

variable (S : Server)

/-- One operation with the requests that are lost. -/
def apres (s : Photos) : OperationPhoto × List (Option Err) → Photos
  | (.creation e p, f) =>
    { s with
      base := (e.execution S p s.base f).2
      dernieres :=
        if e.Reussie p (e.execution S p s.base f).1 ∧ (e.flux.fichier S p s.base f).isSome then
          Function.update s.dernieres (S.newId s.base.accounts) (e.flux.fichier S p s.base f)
        else s.dernieres }
  | (.ouvrirProfil u, f) =>
    { s with profils := Function.update s.profils u (ProfilUtilisateur.chargerInfos.exec
        (faulty S.handler) (s.profils u) (s.base, f)).2.1 }
  | (.changerPhoto u picked, f) =>
    let x := (ProfilUtilisateur.modifierPhotoProfil picked).exec (faulty S.handler) (s.profils u)
      (s.base, f)
    { base := x.2.2.1
      profils := Function.update s.profils u x.2.1
      dernieres :=
        if picked.isSome ∧ x.1.toBool then
          Function.update s.dernieres u
            (some (S.newId ((s.profils u).fichiersApres s.base.files)))
        else s.dernieres }

def pas (s : Photos) (a : OperationPhoto × List (Option Err)) : Option Photos := some (s.apres S a)

/-- Every page shows the last photo set for `u`. -/
def Concorde (e : EcranAjout) (u : String) (s : Photos) : Prop :=
  photoListe s.base u = s.dernieres u ∧
    (∀ etablissementId, photoAccueil S s.base u etablissementId e = s.dernieres u) ∧
      photoProfil S s.base u = s.dernieres u

/-- The operation stores no photo of `u`. -/
def SansDepot (u : String) (s : Photos) : OperationPhoto × List (Option Err) → Prop
  | (.creation e p, f) => ¬(u = S.newId s.base.accounts ∧ e.CompteCree p s.base f ∧
      (e.flux.fichier S p s.base f).isSome ∧ nextFault (e.flux.pannesDocuments p f) = none)
  | (.ouvrirProfil _, _) => True
  | (.changerPhoto v picked, f) =>
    ¬(v = u ∧ ProfilUtilisateur.PhotoPosee (s.profils v) picked s.base f)

end Photos

/-! ## A user without a photo -/

/-- The stored user has no photo. -/
def SansPhoto (b : Base) (u : String) : Prop :=
  ∀ d, b.doc .utilisateurs u = some d →
    d .photoFileId = none ∧ (d.get .photo = .null ∨ d.get .photo = .str "")

section SansPhoto

variable {S : Server} {b : Base} {u : String}

theorem photo_of_fromMap {d : Document} {id : String} {m : UtilisateurModele}
    (h : UtilisateurModele.fromMap d id = .ok m) : (d.get .photo).optStr = .ok m.photo := by
  unfold UtilisateurModele.fromMap at h
  iterate 9 obtain ⟨_, _, h⟩ := bind_eq_ok_iff.mp h
  obtain ⟨photo, hphoto, h⟩ := bind_eq_ok_iff.mp h
  obtain rfl := Except.ok.inj h
  exact hphoto

/-- A list shows no file for a user whose `photo` is null or empty. -/
theorem photoListe_eq_none
    (h : ∀ d, b.doc .utilisateurs u = some d → d.get .photo = .null ∨ d.get .photo = .str "") :
    photoListe b u = none := by
  unfold photoListe
  rcases hd : b.doc .utilisateurs u with _ | d
  · rfl
  rw [Option.bind_some]
  rcases hm : UtilisateurModele.fromMap d u with e | m
  · rfl
  have hphoto := photo_of_fromMap hm
  show montree m.photo = none
  rcases h d hd with h | h
  · rw [h] at hphoto
    rw [← Except.ok.inj hphoto]
    rfl
  · rw [h] at hphoto
    rw [← Except.ok.inj hphoto]
    rfl

theorem photoProfil_eq (b : Base) (u : String) : photoProfil S b u =
    (b.doc .utilisateurs u).bind fun d => (d.get .photoFileId).optStr.toOption.bind
      montree := by
  have hcharge : ProfilUtilisateur.chargerInfos.Ends S.handler
      (fun _ p' _ => p'.utilisateurData = b.doc .utilisateurs u) { utilisateurId := u } b := by
    simp only [ProfilUtilisateur.chargerInfos, bind_eq]
    refine ends_page_bind.mpr (ends_bind.mpr ((ends_lire _ _ _).mpr ?_))
    dsimp only
    rcases b.doc .utilisateurs u with _ | d
    · rfl
    · rfl
  have hdata : (ProfilUtilisateur.chargerInfos.exec S.handler
      { utilisateurId := u } b).2.1.utilisateurData = b.doc .utilisateurs u := hcharge
  rw [photoProfil, hdata]

theorem get_of_eq_none {d : Document} {c : Champ} (h : d c = none) : d.get c = .null := by
  rw [Doc.get, h]
  rfl

/-- A home page shows no file for a user without `photoFileId`. -/
theorem photoAccueil_eq_none (etablissementId : String) (e : EcranAjout)
    (h : ∀ d, b.doc .utilisateurs u = some d → d .photoFileId = none) :
    photoAccueil S b u etablissementId e = none := by
  cases e with
  | eleve => exact congrArg montree (HomeEleve.photo_ouvrir S etablissementId h)
  | parent => exact congrArg montree (HomeParent.photo_ouvrir S etablissementId h)
  | enseignant => exact congrArg montree (HomeEnseignant.photo_ouvrir S etablissementId h)
  | administrateur =>
    have hcharge : HomeAdmin.chargerPhotoProfil.Ends S.handler
        (fun _ p' _ => p'.photoFileId = none) { utilisateurId := u } b := by
      refine ends_catching.mpr (ends_page_bind.mpr (ends_bind.mpr ((ends_lire _ _ _).mpr ?_)))
      rcases hd : b.doc .utilisateurs u with _ | d
      · rfl
      dsimp only
      rw [h d hd]
      rfl
    exact congrArg montree hcharge

theorem photoProfil_eq_none (h : ∀ d, b.doc .utilisateurs u = some d → d .photoFileId = none) :
    photoProfil S b u = none := by
  rw [photoProfil_eq]
  rcases hd : b.doc .utilisateurs u with _ | d
  · rfl
  · rw [Option.bind_some, get_of_eq_none (h d hd)]
    rfl

end SansPhoto

/-! ## The document a creation writes -/

/-- A new user with the picture `file`, under the field the lists read. -/
structure NouvelUtilisateur (u : String) (file : Option String) (d : Document) : Prop where
  photoFileId : d .photoFileId = none
  sans : file = none → d.get .photo = .null ∨ d.get .photo = .str ""
  avec : ∀ x, file = some x → ∃ m, UtilisateurModele.fromMap d u = .ok m ∧ m.photo = some x

/-- The new user is written, unless the first request is lost. -/
def UtilisateurEcrit (u : String) (file : Option String) (b : Base) (f : List (Option Err))
    (b' : Base) : Prop :=
  (nextFault f = none → ∃ d, b'.docs .utilisateurs = (b.docs .utilisateurs).put u d ∧
    NouvelUtilisateur u file d) ∧
  (nextFault f ≠ none → b'.docs .utilisateurs = b.docs .utilisateurs)

section Creation

variable {S : Server} {b : Base} {f : List (Option Err)} {u : String} {file : Option String}

theorem utilisateurEcrit_of_fiche {fs : Champs} {b' : Base}
    (hd : NouvelUtilisateur u file (newDoc b.clock fs)) (h : FicheEcrite fs u b f b') :
    UtilisateurEcrit u file b f b' := by
  unfold FicheEcrite at h
  constructor
  · intro hf
    rw [if_pos hf] at h
    exact ⟨_, h, hd⟩
  · intro hf
    rw [if_neg hf] at h
    exact h

theorem nouvelUtilisateur_model {m : UtilisateurModele} (hphoto : m.photo = file) (now : ℤ) :
    NouvelUtilisateur u file (newDoc now m.toMap) := by
  obtain ⟨id, nom, prenom, email, tel, adresse, mdp, statut, roleId, etab, photo⟩ := m
  obtain rfl : photo = file := hphoto
  refine ⟨rfl, ?_, ?_⟩
  · rintro rfl
    exact .inl rfl
  · rintro x rfl
    exact ⟨_, rfl, rfl⟩

theorem nouvelUtilisateur_fiche (e : EcranAjout) (p : e.Page) (u r : String)
    (file : Option String) (now : ℤ) :
    NouvelUtilisateur u file (newDoc now (e.fiche p u r file)) := by
  have hdonnees : ∀ fs, newDoc now fs .photoFileId = none →
      newDoc now fs .photo = some (.str (file.getD "")) →
      (∀ x, file = some x → ∃ m, UtilisateurModele.fromMap (newDoc now fs) u = .ok m ∧
        m.photo = some x) → NouvelUtilisateur u file (newDoc now fs) := by
    intro fs hid hphoto hmodele
    refine ⟨hid, ?_, hmodele⟩
    rintro rfl
    exact .inr (by rw [Doc.get, hphoto]; rfl)
  cases e with
  | eleve =>
    refine hdonnees _ rfl rfl ?_
    rintro x rfl
    exact ⟨_, rfl, rfl⟩
  | parent =>
    refine hdonnees _ rfl rfl ?_
    rintro x rfl
    exact ⟨_, rfl, rfl⟩
  | enseignant =>
    exact nouvelUtilisateur_model (m := p.utilisateur u r p.etablissementId file) rfl _
  | administrateur =>
    exact nouvelUtilisateur_model
      (m := p.utilisateur u r (p.etablissementIdSelectionne.getD "") file) rfl _

/-- After a press the user is written exactly if the account is created and the request not lost. -/
theorem execution_utilisateurs (S : Server) (e : EcranAjout) (p : e.Page) (b : Base)
    (f : List (Option Err)) :
    (e.CompteCree p b f → UtilisateurEcrit (S.newId b.accounts) (e.flux.fichier S p b f) b
      (e.flux.pannesDocuments p f) (e.execution S p b f).2) ∧
    (¬e.CompteCree p b f → (e.execution S p b f).2.docs = b.docs) := by
  obtain ⟨havec, hsans⟩ := EcranAjout.execution_fiche S e p b f
  refine ⟨fun hc => ?_, hsans⟩
  obtain ⟨r, hfiche⟩ := havec hc
  exact utilisateurEcrit_of_fiche (nouvelUtilisateur_fiche e p _ r _ _) hfiche

theorem fichier_ne (hS : ∀ l, S.fresh l ≠ "") {e : EcranAjout} {p : e.Page} {x : String}
    (h : e.flux.fichier S p b f = some x) : x ≠ "" := by
  unfold Flux.fichier televerse at h
  split at h
  · exact nomatch h
  · split at h
    · exact nomatch h
    · obtain rfl := Option.some.inj h
      exact hS _

/-- The document of a successful creation has the photo. -/
theorem apres_photo {e : EcranAjout} {p : e.Page} (r : String) (x : String) :
    ∃ d, (e.apres S p u r (some x) b).doc .utilisateurs u = some d ∧ d .photo = some (.str x) := by
  cases e with
  | eleve =>
    have hdocs : (EcranAjout.eleve.apres S p u r (some x) b).docs .utilisateurs =
        (b.docs .utilisateurs).put u (newDoc b.clock (AjoutEleve.utilisateurData p u r (some x))) :=
      AjoutEleve.inscrit_docs_ne (by decide)
    refine ⟨newDoc b.clock (AjoutEleve.utilisateurData p u r (some x)), ?_, rfl⟩
    rw [Data.doc, hdocs, Table.find_put_self]
  | parent => exact ⟨_, Table.find_put_self _ _ _, rfl⟩
  | enseignant => exact ⟨_, Table.find_put_self _ _ _, rfl⟩
  | administrateur => exact ⟨_, Table.find_put_self _ _ _, rfl⟩

end Creation

/-! ## One operation -/

namespace Photos

variable {S : Server} {u : String} {s : Photos}

/-- No photo of `u` was ever set. -/
structure Depart (u : String) (s : Photos) : Prop where
  profil : ∀ v, (s.profils v).utilisateurId = v
  derniere : s.dernieres u = none
  base : SansPhoto s.base u

theorem concorde_of_depart (e : EcranAjout) (hs : Depart u s) : Concorde S e u s := by
  unfold Concorde
  rw [hs.derniere]
  refine ⟨photoListe_eq_none fun d hd => (hs.base d hd).2, ?_, ?_⟩
  · exact fun etablissementId => photoAccueil_eq_none etablissementId e fun d hd =>
      (hs.base d hd).1
  · exact photoProfil_eq_none fun d hd => (hs.base d hd).1

/-- The list and the profile page read different fields. -/
theorem not_concorde_of_ne {e : EcranAjout}
    (h : photoListe s.base u ≠ photoProfil S s.base u) : ¬Concorde S e u s :=
  fun hc => h (hc.1.trans hc.2.2.symm)

/-- The users a creation does not create keep their documents. -/
theorem doc_creation_ne {e : EcranAjout} {p : e.Page} {f : List (Option Err)} {b : Base}
    (hu : u ≠ S.newId b.accounts) :
    (e.execution S p b f).2.doc .utilisateurs u = b.doc .utilisateurs u := by
  obtain ⟨hcree, hsans⟩ := execution_utilisateurs S e p b f
  by_cases hc : e.CompteCree p b f
  · by_cases hf : nextFault (e.flux.pannesDocuments p f) = none
    · obtain ⟨d, hdocs, -⟩ := (hcree hc).1 hf
      rw [Data.doc, hdocs, Table.find_put_ne _ hu, Data.doc]
    · rw [Data.doc, (hcree hc).2 hf, Data.doc]
  · rw [Data.doc, hsans hc, Data.doc]

/-- A creation that sets a photo has written the user. -/
theorem pannes_of_reussie (hS : ∀ l, S.fresh l ≠ "") {e : EcranAjout} {p : e.Page}
    {f : List (Option Err)} {b : Base} (hb : SansPhoto b (S.newId b.accounts))
    (h : e.Reussie p (e.execution S p b f).1) (hfile : (e.flux.fichier S p b f).isSome) :
    e.CompteCree p b f ∧ nextFault (e.flux.pannesDocuments p f) = none := by
  obtain ⟨x, hx⟩ := Option.isSome_iff_exists.mp hfile
  obtain ⟨hc, -, r, -, hdocs⟩ := EcranAjout.execution_reussie h
  refine ⟨hc, ?_⟩
  by_contra hf
  have hrestes := ((execution_utilisateurs S e p b f).1 hc).2 hf
  obtain ⟨d, hd, hphoto⟩ := apres_photo (S := S) (b := b) (u := S.newId b.accounts) (p := p) r x
  have hdoc : b.doc .utilisateurs (S.newId b.accounts) = some d := by
    rw [Data.doc, ← hrestes, hdocs, hx]
    exact hd
  rcases (hb d hdoc).2 with hvide | hvide
  · rw [Doc.get, hphoto] at hvide
    cases hvide
  · rw [Doc.get, hphoto] at hvide
    exact fichier_ne hS hx (Value.str.inj hvide)

theorem depart_creation (hS : ∀ l, S.fresh l ≠ "") {e : EcranAjout} {p : e.Page}
    {f : List (Option Err)} (hs : Depart u s) (h : SansDepot S u s (.creation e p, f)) :
    Depart u (s.apres S (.creation e p, f)) := by
  by_cases hu : u = S.newId s.base.accounts
  · subst hu
    have hderniere : ¬(e.Reussie p (e.execution S p s.base f).1 ∧
        (e.flux.fichier S p s.base f).isSome) := by
      rintro ⟨hreussie, hfile⟩
      obtain ⟨hc, hf⟩ := pannes_of_reussie hS hs.base hreussie hfile
      exact h ⟨rfl, hc, hfile, hf⟩
    refine ⟨hs.profil, ?_, ?_⟩
    · show (if _ then _ else _ : String → Option String) _ = none
      rw [if_neg hderniere]
      exact hs.derniere
    · obtain ⟨hcree, hsans⟩ := execution_utilisateurs S e p s.base f
      by_cases hc : e.CompteCree p s.base f
      · by_cases hf : nextFault (e.flux.pannesDocuments p f) = none
        · obtain ⟨d, hdocs, hd⟩ := (hcree hc).1 hf
          have hfile : e.flux.fichier S p s.base f = none := by
            by_contra hne
            exact h ⟨rfl, hc, Option.isSome_iff_ne_none.mpr hne, hf⟩
          intro d' hd'
          have hdoc : (e.execution S p s.base f).2.doc .utilisateurs (S.newId s.base.accounts) =
              some d := by rw [Data.doc, hdocs, Table.find_put_self]
          obtain rfl : d = d' := Option.some.inj (hdoc.symm.trans hd')
          exact ⟨hd.photoFileId, hd.sans hfile⟩
        · intro d hd
          exact hs.base d ((congrArg (Table.find · _) ((hcree hc).2 hf)).symm.trans hd)
      · intro d hd
        exact hs.base d ((congrArg (Table.find · _) (congrFun (hsans hc) .utilisateurs)).symm.trans
          hd)
  · refine ⟨hs.profil, ?_, fun d hd => hs.base d ((doc_creation_ne hu).symm.trans hd)⟩
    show (if _ then _ else _ : String → Option String) u = none
    split_ifs
    · rw [Function.update_of_ne hu]
      exact hs.derniere
    · exact hs.derniere

theorem not_concorde_creation (hS : ∀ l, S.fresh l ≠ "") {e e' : EcranAjout} {p : e.Page}
    {f : List (Option Err)} (hs : Depart u s) (h : ¬SansDepot S u s (.creation e p, f)) :
    ¬Concorde S e' u (s.apres S (.creation e p, f)) := by
  obtain ⟨rfl, hc, hfile, hf⟩ := not_not.mp h
  obtain ⟨x, hx⟩ := Option.isSome_iff_exists.mp hfile
  obtain ⟨d, hdocs, hd⟩ := ((execution_utilisateurs S e p s.base f).1 hc).1 hf
  obtain ⟨m, hm, hphoto⟩ := hd.avec x hx
  have hdoc : (s.apres S (.creation e p, f)).base.doc .utilisateurs (S.newId s.base.accounts) =
      some d := by
    rw [Data.doc, show (s.apres S (.creation e p, f)).base.docs .utilisateurs = _ from hdocs,
      Table.find_put_self]
  have hliste : photoListe (s.apres S (.creation e p, f)).base (S.newId s.base.accounts) =
      some x := by
    rw [photoListe, hdoc, Option.bind_some, hm]
    show montree m.photo = some x
    rw [hphoto]
    exact montree_some (fichier_ne hS hx)
  have hprofil : photoProfil S (s.apres S (.creation e p, f)).base (S.newId s.base.accounts) =
      none := by
    refine photoProfil_eq_none fun d' hd' => ?_
    rw [← Option.some.inj (hdoc.symm.trans hd')]
    exact hd.photoFileId
  exact not_concorde_of_ne (by rw [hliste, hprofil]; simp)

/-- A change of the picture stores it and notes it, or does neither. -/
theorem apres_changerPhoto (hs : ∀ v, (s.profils v).utilisateurId = v) (v : String)
    (picked : Option String) (f : List (Option Err)) :
    (∀ w, ((s.apres S (.changerPhoto v picked, f)).profils w).utilisateurId = w) ∧
    (ProfilUtilisateur.PhotoPosee (s.profils v) picked s.base f →
      ∃ d, s.base.doc .utilisateurs v = some d ∧
        (s.apres S (.changerPhoto v picked, f)).dernieres = Function.update s.dernieres v
          (some (S.newId ((s.profils v).fichiersApres s.base.files))) ∧
        (s.apres S (.changerPhoto v picked, f)).base.docs =
          (s.base.putDoc .utilisateurs v (writeFields s.base.clock d [texte .photoFileId
            (S.newId ((s.profils v).fichiersApres s.base.files))])).docs) ∧
    (¬ProfilUtilisateur.PhotoPosee (s.profils v) picked s.base f →
      (s.apres S (.changerPhoto v picked, f)).dernieres = s.dernieres ∧
        (s.apres S (.changerPhoto v picked, f)).base.docs = s.base.docs) := by
  rcases picked with _ | filename
  · refine ⟨fun w => ?_, fun h => ?_, fun _ => ⟨rfl, rfl⟩⟩
    · show (Function.update s.profils v (s.profils v) w).utilisateurId = w
      rw [Function.update_eq_self]
      exact hs w
    · exact nomatch h.1
  obtain ⟨hpose, hsans⟩ := ProfilUtilisateur.ends_modifierPhotoProfil (S := S) (p := s.profils v)
    (b := s.base) (f := f) filename
  rw [hs v] at hpose
  set x := (ProfilUtilisateur.modifierPhotoProfil (some filename)).exec (faulty S.handler)
    (s.profils v) (s.base, f) with hx
  have hid : x.2.1.utilisateurId = v := by
    by_cases h : ProfilUtilisateur.PhotoPosee (s.profils v) (some filename) s.base f
    · exact (hpose h).2.1
    · rw [(hsans h).2.1]
      exact hs v
  refine ⟨fun w => ?_, fun h => ?_, fun h => ?_⟩
  · show (Function.update s.profils v x.2.1 w).utilisateurId = w
    by_cases hw : w = v
    · rw [hw, Function.update_self, hid]
    · rw [Function.update_of_ne hw]
      exact hs w
  · obtain ⟨ha, -, d, hd, hdocs⟩ := hpose h
    refine ⟨d, hd, if_pos ⟨rfl, ?_⟩, hdocs⟩
    show x.1.toBool = true
    rw [ha]
    rfl
  · obtain ⟨ha, -, hdocs⟩ := hsans h
    refine ⟨if_neg fun hok => ha ?_, hdocs⟩
    have hx : x.1.toBool = true := hok.2
    rcases hres : x.1 with err | t
    · rw [hres] at hx
      exact nomatch hx
    · rfl

/-- The other users keep their documents. -/
theorem depart_changerPhoto (hs : Depart u s) {v : String} {picked : Option String}
    {f : List (Option Err)} (h : SansDepot S u s (.changerPhoto v picked, f)) :
    Depart u (s.apres S (.changerPhoto v picked, f)) := by
  obtain ⟨hprofils, hpose, hsans⟩ := apres_changerPhoto (S := S) hs.profil v picked f
  by_cases hp : ProfilUtilisateur.PhotoPosee (s.profils v) picked s.base f
  · have hu : u ≠ v := fun hu => h ⟨hu.symm, hp⟩
    obtain ⟨d, -, hdernieres, hdocs⟩ := hpose hp
    refine ⟨hprofils, ?_, fun d' hd' => hs.base d' ?_⟩
    · rw [hdernieres, Function.update_of_ne hu]
      exact hs.derniere
    · rw [Data.doc, hdocs, ← Data.doc, Data.doc_putDoc, if_neg fun hk => hu hk.2] at hd'
      exact hd'
  · obtain ⟨hdernieres, hdocs⟩ := hsans hp
    refine ⟨hprofils, ?_, fun d hd => hs.base d ?_⟩
    · rw [hdernieres]
      exact hs.derniere
    · rw [Data.doc, hdocs] at hd
      exact hd

theorem not_concorde_changerPhoto (hS : ∀ l, S.fresh l ≠ "") {e : EcranAjout} (hs : Depart u s)
    {v : String} {picked : Option String} {f : List (Option Err)}
    (h : ¬SansDepot S u s (.changerPhoto v picked, f)) :
    ¬Concorde S e u (s.apres S (.changerPhoto v picked, f)) := by
  obtain ⟨rfl, hp⟩ := not_not.mp h
  obtain ⟨d, hd, -, hdocs⟩ := (apres_changerPhoto (S := S) hs.profil v picked f).2.1 hp
  set n := S.newId ((s.profils v).fichiersApres s.base.files) with hn
  have hdoc : (s.apres S (.changerPhoto v picked, f)).base.doc .utilisateurs v =
      some (writeFields s.base.clock d [texte .photoFileId n]) := by
    rw [Data.doc, hdocs, ← Data.doc, Data.doc_putDoc, if_pos ⟨rfl, rfl⟩]
  have hliste : photoListe (s.apres S (.changerPhoto v picked, f)).base v = none := by
    refine photoListe_eq_none fun d' hd' => ?_
    have hautre : Champ.photo ∉ [texte .photoFileId n].map Prod.fst := by simp [texte]
    rw [← Option.some.inj (hdoc.symm.trans hd'), Doc.get, writeFields_of_not_mem hautre]
    exact (hs.base d hd).2
  have hprofil : photoProfil S (s.apres S (.changerPhoto v picked, f)).base v = some n := by
    rw [photoProfil_eq, hdoc]
    exact montree_some (hS _)
  exact not_concorde_of_ne (by rw [hliste, hprofil]; simp)

theorem depart_ouvrirProfil (hs : Depart u s) {v : String} {f : List (Option Err)} :
    Depart u (s.apres S (.ouvrirProfil v, f)) := by
  refine ⟨fun w => ?_, hs.derniere, hs.base⟩
  obtain ⟨-, hid, -⟩ := ProfilUtilisateur.ends_chargerInfos (S := S) (p := s.profils v)
    (b := s.base) (f := f)
  show (Function.update s.profils v _ w).utilisateurId = w
  by_cases hw : w = v
  · rw [hw, Function.update_self, hid]
    exact hs.profil v
  · rw [Function.update_of_ne hw]
    exact hs.profil w

/-- From a user without a photo, an operation keeps the pages in agreement exactly if it stores no
photo. -/
theorem apres_iff (hS : ∀ l, S.fresh l ≠ "") {e : EcranAjout} (hs : Depart u s)
    (a : OperationPhoto × List (Option Err)) :
    (SansDepot S u s a → Depart u (s.apres S a)) ∧
      (¬SansDepot S u s a → ¬Concorde S e u (s.apres S a)) := by
  obtain ⟨o, f⟩ := a
  cases o with
  | creation e' p => exact ⟨depart_creation hS hs, not_concorde_creation hS hs⟩
  | ouvrirProfil v => exact ⟨fun _ => depart_ouvrirProfil hs, fun h => absurd trivial h⟩
  | changerPhoto v picked => exact ⟨depart_changerPhoto hs, not_concorde_changerPhoto hS hs⟩

/-- **One photo for everybody.**  From a user without a photo, every page shows the last photo set all
along a run exactly if no operation of the run stores a photo of him. -/
theorem concorde_iff_sansDepot (S : Server) (hS : ∀ l, S.fresh l ≠ "") (e : EcranAjout)
    (u : String) {s : Photos} (hs : Depart u s)
    (as : List (OperationPhoto × List (Option Err))) :
    Always (pas S) (Concorde S e u) s as ↔ AllMeet (pas S) (SansDepot S u) s as := by
  have hconcorde : ∀ s, Depart u s → Concorde S e u s := fun _ h => concorde_of_depart e h
  refine always_iff_allMeet_of_loss hconcorde ?_ ?_ hs as
  · rintro s a s' hs h hsans
    obtain rfl := Option.some.inj h
    exact (apres_iff hS hs a (e := e)).1 hsans
  · rintro s a s' hs h hdepot
    obtain rfl := Option.some.inj h
    exact (apres_iff hS hs a).2 hdepot

/-- A school with the role of the parents and no user. -/
def sansUtilisateur : Photos where
  base := baseVide.putDoc .roles "r" (newDoc 0 [texte .nom "parent", texte .description "d"])

theorem depart_sansUtilisateur (u : String) : Depart u sansUtilisateur := by
  refine ⟨fun _ => rfl, rfl, fun d hd => ?_⟩
  rw [sansUtilisateur, Data.doc_putDoc, if_neg fun hk => nomatch hk.1] at hd
  exact nomatch hd

/-- The form of a parent with a picture. -/
def parentAvecPhoto : AjoutParent where
  nom := "Nom"
  prenom := "Prénom"
  email := "p@ecole.cm"
  telephone := "600000"
  adresse := "Ville"
  motDePasse := "secret"
  imageBytes := some [0]
  imageName := some "photo.png"
  etablissementId := "e"

/-- The parent is created with the picture. -/
def creationAvecPhoto : List (OperationPhoto × List (Option Err)) :=
  [(.creation .parent parentAvecPhoto, [])]

theorem fresh_longest (maxIn : ℕ) (l : List String) : (Server.longest maxIn).fresh l ≠ "" := by
  intro h
  have hlength := congrArg String.length h
  simp [Server.longest] at hlength

theorem concorde_iff_sansDepot_parent :
    Always (pas (Server.longest 10)) (Concorde (Server.longest 10) .parent "x") sansUtilisateur
        creationAvecPhoto ↔
      AllMeet (pas (Server.longest 10)) (SansDepot (Server.longest 10) "x") sansUtilisateur
        creationAvecPhoto :=
  concorde_iff_sansDepot (Server.longest 10) (fresh_longest 10) .parent "x"
    (depart_sansUtilisateur "x") creationAvecPhoto

/-- The lists show the picture, the home page and the profile page do not. -/
theorem not_concorde_creationAvecPhoto :
    ¬Always (pas (Server.longest 10)) (Concorde (Server.longest 10) .parent "x") sansUtilisateur
      creationAvecPhoto := by
  refine not_always_of_final (fun s => decide (photoListe s.base "x" ≠
    photoProfil (Server.longest 10) s.base "x")) (fun s hs => ?_) (by decide +kernel)
  exact not_concorde_of_ne (of_decide_eq_true hs)

end Photos

end EduConnect.Admin
