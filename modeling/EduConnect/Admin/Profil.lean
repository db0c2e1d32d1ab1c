import EduConnect.Modeles
import EduConnect.Pannes

/-!
# The profile page of a user

`ProfilUtilisateurPage`, the same in the four modules of the application.  The texts go to
`utilisateurs`, the password to the Appwrite account of the session, the picture to Appwrite's
storage and its id to `utilisateurs`.
-/

namespace EduConnect.Admin

open Lib Prog Donnees

/-- `_ProfilUtilisateurPageState`. -/
structure ProfilUtilisateur where
  utilisateurId : String
  utilisateurData : Option Document := none
  isLoading : Bool := true
  /-- How often a dialog was closed because what it asked for was done. -/
  dialoguesFermes : ℕ := 0
  snackBars : List String := []

namespace ProfilUtilisateur

/-- `_chargerInfos`. -/
def chargerInfos : Action Unit ProfilUtilisateur Unit := do
  let p ← page
  let doc ← lire () .utilisateurs p.utilisateurId
  match doc with
  | some data => setState fun p => { p with utilisateurData := some data, isLoading := false }
  | none => setState fun p => { p with isLoading := false }

/-- A call that is not awaited: its error goes to nobody. -/
def sansAttendre (p : Action Unit ProfilUtilisateur Unit) : Action Unit ProfilUtilisateur Unit :=
  catching p fun _ => ret ()

/-- The fields the dialog saves. -/
def informations (nom prenom email : String) : Champs :=
  [texte .nom (trim nom), texte .prenom (trim prenom), texte .email (trim email)]

/-- `Navigator.pop` after what the dialog asked for. -/
def fermerDialogue (p : ProfilUtilisateur) : ProfilUtilisateur :=
  { p with dialoguesFermes := p.dialoguesFermes + 1 }

/-- `_modifierInformations`, with the texts of the dialog when `Enregistrer` is pressed. -/
def modifierInformations (nom prenom email : String) : Action Unit ProfilUtilisateur Unit := do
  let p ← page
  match p.utilisateurData with
  | none => ret ()
  | some data => do
    -- the texts the dialog opens with
    let _ ← ofExcept (data.get .nom).optStr
    let _ ← ofExcept (data.get .prenom).optStr
    let _ ← ofExcept (data.get .email).optStr
    ecrire () (.update .utilisateurs p.utilisateurId (informations nom prenom email))
    setState fermerDialogue
    sansAttendre chargerInfos

/-- `Account.updatePassword` of Appwrite. -/
def updatePassword (password : String) :
    Prog Unit String (fun _ => Unit) Err ProfilUtilisateur Unit :=
  call () password

/-- `_modifierMotDePasse`, with the texts of the dialog when `Modifier` is pressed. -/
def modifierMotDePasse (mdp confirmation : String) :
    Prog Unit String (fun _ => Unit) Err ProfilUtilisateur Unit :=
  let showSnackBar := fun texte : String =>
    setState fun p : ProfilUtilisateur => { p with snackBars := p.snackBars ++ [texte] }
  if mdp ≠ confirmation then showSnackBar "Les mots de passe ne correspondent pas"
  else catching (do
    updatePassword (trim mdp)
    setState fermerDialogue
    showSnackBar "Mot de passe mis à jour avec succès") fun e =>
    showSnackBar ("Erreur : " ++ texteErreur e)

/-- `ancienFichierId`, when it is not null and not empty. -/
def ancienFichier (p : ProfilUtilisateur) : Except Err (Option String) :=
  match p.utilisateurData with
  | none => .ok none
  | some data => do
    let fileId ← (data.get .photoFileId).optStr
    .ok (fileId.filter (· ≠ ""))

/-- The end of `_modifierPhotoProfil`: the picture is uploaded and its id stored. -/
def enregistrerPhoto (filename : String) : Action Unit ProfilUtilisateur Unit := do
  let newFile ← creerFichier () filename
  let p ← page
  ecrire () (.update .utilisateurs p.utilisateurId [texte .photoFileId newFile])
  sansAttendre chargerInfos

/-- `_modifierPhotoProfil`, with the name of the picked picture, if one is picked. -/
def modifierPhotoProfil (picked : Option String) : Action Unit ProfilUtilisateur Unit :=
  match picked with
  | none => ret ()
  | some filename => do
    let p ← page
    let ancien ← ofExcept p.ancienFichier
    match ancien with
    | some fileId => do
      supprimerFichier () fileId
      enregistrerPhoto filename
    | none => enregistrerPhoto filename

/-! ## What a save of the texts does -/

variable {S : Server} {p : ProfilUtilisateur} {b : Base} {f : List (Option Err)}

/-- Loading only reads, and changes only what it loads. -/
theorem ends_chargerInfos : chargerInfos.Ends (faulty S.handler) (fun _ p' x => x.1 = b ∧
    p'.utilisateurId = p.utilisateurId ∧ p'.dialoguesFermes = p.dialoguesFermes) p (b, f) := by
  simp only [chargerInfos, bind_eq]
  refine ends_page_bind.mpr (ends_bind.mpr (ends_lire_pannes.mpr
    ⟨fun _ _ => ⟨rfl, rfl, rfl⟩, fun _ => ?_⟩))
  dsimp only
  rcases b.doc .utilisateurs p.utilisateurId with _ | data
  · exact ⟨rfl, rfl, rfl⟩
  · exact ⟨rfl, rfl, rfl⟩

theorem ends_sansAttendre : (sansAttendre chargerInfos).Ends (faulty S.handler)
    (fun a p' x => a = .ok () ∧ x.1 = b ∧ p'.utilisateurId = p.utilisateurId ∧
      p'.dialoguesFermes = p.dialoguesFermes) p (b, f) := by
  refine ends_catching.mpr (ends_chargerInfos.mono ?_)
  rintro (e | u) p' x h
  · exact ⟨rfl, h⟩
  · exact ⟨rfl, h⟩

/-- When the dialog closes, the three fields of the user are updated, and nothing else. -/
theorem ends_modifierInformations (nom prenom email : String) :
    (modifierInformations nom prenom email).Ends (faulty S.handler) (fun _ p' x =>
      p'.utilisateurId = p.utilisateurId ∧ (p'.dialoguesFermes = p.dialoguesFermes + 1 →
        ∃ d, b.doc .utilisateurs p.utilisateurId = some d ∧ x.1 =
          b.putDoc .utilisateurs p.utilisateurId
            (writeFields b.clock d (informations nom prenom email)))) p (b, f) := by
  have hreste : p.dialoguesFermes ≠ p.dialoguesFermes + 1 := by omega
  simp only [modifierInformations, bind_eq]
  refine ends_page_bind.mpr ?_
  rcases p.utilisateurData with _ | data
  · exact ⟨rfl, fun h => absurd h hreste⟩
  refine ends_bind.mpr ((ends_ofExcept _).mpr ?_)
  rcases (data.get .nom).optStr with e | _
  · exact ⟨rfl, fun h => absurd h hreste⟩
  refine ends_bind.mpr ((ends_ofExcept _).mpr ?_)
  rcases (data.get .prenom).optStr with e | _
  · exact ⟨rfl, fun h => absurd h hreste⟩
  refine ends_bind.mpr ((ends_ofExcept _).mpr ?_)
  rcases (data.get .email).optStr with e | _
  · exact ⟨rfl, fun h => absurd h hreste⟩
  refine ends_bind.mpr ?_
  rcases hd : b.doc .utilisateurs p.utilisateurId with _ | d
  · exact (ends_update_absent_pannes hd).mpr ⟨fun _ _ => ⟨rfl, fun h => absurd h hreste⟩,
      fun _ => ⟨rfl, fun h => absurd h hreste⟩⟩
  · refine (ends_update_pannes hd).mpr ⟨fun _ _ => ⟨rfl, fun h => absurd h hreste⟩, fun _ => ?_⟩
    refine ends_setState_bind.mpr (ends_sansAttendre.mono ?_)
    rintro a p' x ⟨-, hx, hid, -⟩
    exact ⟨hid, fun _ => ⟨d, rfl, hx⟩⟩

/-- When the dialog closes, Appwrite has accepted the password. -/
theorem ends_modifierMotDePasse {α : Type} (maj : (m : String) → α → Except Err Unit × α) {x : α}
    (mdp confirmation : String) : (modifierMotDePasse mdp confirmation).Ends maj (fun _ p' x' =>
      p'.utilisateurId = p.utilisateurId ∧ (p'.dialoguesFermes = p.dialoguesFermes + 1 →
        mdp = confirmation ∧ (maj (trim mdp) x).1 = .ok () ∧ x' = (maj (trim mdp) x).2)) p x := by
  have hreste : p.dialoguesFermes ≠ p.dialoguesFermes + 1 := by omega
  unfold modifierMotDePasse
  by_cases hmdp : mdp = confirmation
  · rw [if_neg (not_not.mpr hmdp)]
    refine ends_catching.mpr (ends_bind.mpr (ends_call.mpr ?_))
    rcases hmaj : maj (trim mdp) x with ⟨e | u, x'⟩
    · exact ⟨rfl, fun h => absurd h hreste⟩
    · exact ⟨rfl, fun _ => ⟨hmdp, rfl, rfl⟩⟩
  · rw [if_pos hmdp]
    exact ⟨rfl, fun h => absurd h hreste⟩

/-! ## What a change of the picture does -/

/-- The files once the old picture is deleted. -/
def fichiersApres (p : ProfilUtilisateur) (files : Table String Unit) : Table String Unit :=
  match p.ancienFichier with
  | .ok (some fileId) => files.erase fileId
  | _ => files

/-- The picture is changed: one is picked, the user is stored, the old picture is there if the page
knows of one, and no request before the last is lost. -/
def PhotoPosee (p : ProfilUtilisateur) (picked : Option String) (b : Base) (f : List (Option Err)) :
    Prop :=
  picked.isSome ∧ (b.doc .utilisateurs p.utilisateurId).isSome ∧
    match p.ancienFichier with
    | .ok none => nextFault f = none ∧ nextFault f.tail = none
    | .ok (some fileId) => (b.files.find fileId).isSome ∧ nextFault f = none ∧
      nextFault f.tail = none ∧ nextFault f.tail.tail = none
    | .error _ => False

/-- The outcome of a change of the picture to `fileId`: `pose` says whether it is stored. -/
def Changement (p : ProfilUtilisateur) (b : Base) (fileId : String) (pose : Prop)
    (a : Except Err Unit) (p' : ProfilUtilisateur) (b' : Base) : Prop :=
  (pose → a = .ok () ∧ p'.utilisateurId = p.utilisateurId ∧
    ∃ d, b.doc .utilisateurs p.utilisateurId = some d ∧
      b'.docs = (b.putDoc .utilisateurs p.utilisateurId
        (writeFields b.clock d [texte .photoFileId fileId])).docs) ∧
    (¬pose → a ≠ .ok () ∧ p' = p ∧ b'.docs = b.docs)

theorem changement_of_not {fileId : String} {pose : Prop} {e : Err} {b' : Base} (h : ¬pose)
    (hdocs : b'.docs = b.docs) : Changement p b fileId pose (.error e) p b' :=
  ⟨fun hp => absurd hp h, fun _ => ⟨nofun, rfl, hdocs⟩⟩

theorem ends_enregistrerPhoto (filename : String) :
    (enregistrerPhoto filename).Ends (faulty S.handler) (fun a p' x =>
      Changement p b (S.newId b.files)
        ((b.doc .utilisateurs p.utilisateurId).isSome ∧ nextFault f = none ∧
          nextFault f.tail = none) a p' x.1) p (b, f) := by
  simp only [enregistrerPhoto, bind_eq]
  refine ends_bind.mpr (ends_creerFichier_pannes.mpr ⟨fun e he => ?_, fun hf => ?_⟩)
  · refine changement_of_not (fun h => ?_) rfl
    rw [h.2.1] at he
    exact nomatch he
  refine ends_page_bind.mpr (ends_bind.mpr ?_)
  set b₁ : Base := { b with files := b.files.put (S.newId b.files) () } with hb₁
  have hdoc : b₁.doc .utilisateurs p.utilisateurId = b.doc .utilisateurs p.utilisateurId := rfl
  rcases hd : b.doc .utilisateurs p.utilisateurId with _ | d
  · refine (ends_update_absent_pannes (hdoc.trans hd)).mpr ⟨fun e _ => ?_, fun _ => ?_⟩
    · exact changement_of_not (fun h => nomatch h.1) rfl
    · exact changement_of_not (fun h => nomatch h.1) rfl
  · refine (ends_update_pannes (hdoc.trans hd)).mpr ⟨fun e he => ?_, fun hf' => ?_⟩
    · refine changement_of_not (fun h => ?_) rfl
      rw [h.2.2] at he
      exact nomatch he
    · refine ends_sansAttendre.mono ?_
      rintro a p' x ⟨ha, hx, hid, -⟩
      refine ⟨fun _ => ⟨ha, hid, d, hd, ?_⟩, fun h => absurd ⟨rfl, hf, hf'⟩ h⟩
      rw [hx]
      rfl

theorem ends_modifierPhotoProfil (filename : String) :
    (modifierPhotoProfil (some filename)).Ends (faulty S.handler) (fun a p' x =>
      Changement p b (S.newId (p.fichiersApres b.files)) (PhotoPosee p (some filename) b f) a p'
        x.1) p (b, f) := by
  simp only [modifierPhotoProfil, bind_eq]
  refine ends_page_bind.mpr (ends_bind.mpr ((ends_ofExcept _).mpr ?_))
  unfold PhotoPosee fichiersApres
  rcases p.ancienFichier with e | _ | fileId
  · exact changement_of_not (fun h => h.2.2) rfl
  · refine (ends_enregistrerPhoto filename).mono ?_
    rintro a p' x ⟨hpose, hsans⟩
    exact ⟨fun h => hpose h.2, fun h => hsans fun h' => h ⟨rfl, h'⟩⟩
  · dsimp only
    refine ends_bind.mpr (ends_supprimerFichier_pannes.mpr ⟨fun e he => ?_, fun hf => ?_⟩)
    · refine changement_of_not (fun h => ?_) rfl
      rw [h.2.2.2.1] at he
      exact nomatch he
    by_cases hfichier : (b.files.find fileId).isSome = true
    · rw [if_pos hfichier, if_pos hfichier]
      refine (ends_enregistrerPhoto filename).mono ?_
      rintro a p' x ⟨hpose, hsans⟩
      constructor
      · exact fun h => hpose ⟨h.2.1, h.2.2.2.2⟩
      · exact fun h => hsans fun h' => h ⟨rfl, h'.1, hfichier, hf, h'.2⟩
    · rw [if_neg hfichier, if_neg hfichier]
      exact changement_of_not (fun h => hfichier h.2.2.1) rfl

end ProfilUtilisateur

end EduConnect.Admin
