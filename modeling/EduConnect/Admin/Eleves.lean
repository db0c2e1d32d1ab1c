import EduConnect.Admin.Classes

/-!
# The screens that write students

`AjoutEleveVue` (creation of a student's account and documents), `ModificationEleveVue` and
`ListeEleves`.
-/

namespace EduConnect.Admin

open Lib Prog

/-! ## AjoutEleveVue -/

/-- `_AjoutEleveVueState` with the texts of its form. -/
structure AjoutEleve where
  etablissementId : String
  nom : String := ""
  prenom : String := ""
  email : String := ""
  telephone : String := ""
  adresse : String := ""
  motDePasse : String := ""
  etablissement : Option Document := none
  loading : Bool := false
  classeIdSelectionne : Option String := none
  imageBytes : Option (List UInt8) := none
  imageName : Option String := none
  messages : List Message := []

namespace AjoutEleve

def afficherMessage (titre message : String) (type : DialogType) : Action Etape AjoutEleve Unit :=
  setState fun p => { p with messages := p.messages ++ [⟨titre, message, type⟩] }

/-- The validators of the form: every text is required, and a class. -/
def validate (p : AjoutEleve) : Bool :=
  [p.nom, p.prenom, p.email, p.telephone, p.adresse, p.motDePasse].all (· ≠ "") &&
    p.classeIdSelectionne.isSome

def recupererRoleEleveId : Action Etape AjoutEleve (Option String) :=
  catching (do
    let docs ← chercherPremier .autre .roles [.isEqualTo .nom (.str "eleve")]
    ret (docs.head?.map Prod.fst)) fun e => do
    afficherMessage "Erreur"
      ("Erreur lors de la récupération du rôle élève : " ++ texteErreur e) .error
    ret none

def uploadImageToAppwrite (fileName : String) : Action Etape AjoutEleve (Option String) :=
  catching (do
    let id ← creerFichier .autre fileName
    ret (some id)) fun _ => ret none

/-- The fields of the new `utilisateurs` document. -/
def utilisateurData (p : AjoutEleve) (userId roleEleveId : String) (fileId : Option String) :
    Champs :=
  [texte .uid userId, texte .nom (trim p.nom), texte .prenom (trim p.prenom),
    texte .email (trim p.email), texte .numeroTelephone (trim p.telephone),
    texte .adresse (trim p.adresse), (.statut, .put (.bool false)),
    texte .photo (fileId.getD ""), texte .roleId roleEleveId,
    texte .etablissementId p.etablissementId,
    (.etablissement, .put (valeurOption (p.etablissement.map .map))),
    (.createdAt, .serverTimestamp)]

/-- The fields of the new `eleves` document. -/
def eleveData (userId : String) (classeId : Option String) : Champs :=
  [texte .utilisateurId userId, (.classeId, .put (valeurOption (classeId.map .str))),
    textes .notesIds []]

/-- Add the new student to the list of the class, read just before. -/
def ajouterALaClasse (classeId userId : String) : Action Etape AjoutEleve Unit := do
  let classeSnapshot ← lire .autre .classes classeId
  match classeSnapshot with
  | some classeData =>
    let elevesIds ← ofExcept (classeData.get .elevesIds).orList
    if elevesIds.any (Value.isStr userId) then ret ()
    else
      ecrire (.ajoutListe classeId elevesIds userId)
        (.update .classes classeId [(.elevesIds, .put (.list (elevesIds ++ [.str userId])))])
  | none => ret ()

/-- The text of a `FirebaseAuthException`, or of another error. -/
def messageEchec : Err → String
  | .auth "email-already-in-use" _ => "Cet email est déjà utilisé."
  | .auth "weak-password" _ => "Mot de passe trop faible (minimum 6 caractères)."
  | .auth _ message => message.getD "Erreur inconnue."
  | e => "Échec de l'enregistrement : " ++ texteErreur e

/-- Upload the chosen picture, if there is one. -/
def televerserPhoto : Action Etape AjoutEleve (Option String) := do
  let p ← page
  match p.imageBytes, p.imageName with
  | some _, some imageName => uploadImageToAppwrite imageName
  | _, _ => ret none

/-- Write the documents of the new student and put him on the list of his class. -/
def enregistrerDocuments (userId roleEleveId : String) (fileId : Option String) :
    Action Etape AjoutEleve Unit := do
  let p ← page
  ecrire .autre (.set .utilisateurs userId (p.utilisateurData userId roleEleveId fileId))
  let p ← page
  ecrire .autre (.set .eleves userId (eleveData userId p.classeIdSelectionne))
  match (← page).classeIdSelectionne with
  | some classeId => ajouterALaClasse classeId userId
  -- `doc(null)` names a new document, which is not there
  | none => attendre .autre

/-- The body of the `try` of `_enregistrerEleve`. -/
def creerEleve : Action Etape AjoutEleve Unit := do
  let roleEleveId ← recupererRoleEleveId
  match roleEleveId with
  | none =>
    afficherMessage "Erreur" "Le rôle élève est introuvable." .error
    setState fun p => { p with loading := false }
  | some roleEleveId =>
    let p ← page
    let userId ← creerCompte .autre (trim p.email) (trim p.motDePasse)
    let fileId ← televerserPhoto
    enregistrerDocuments userId roleEleveId fileId
    afficherMessage "Succès" "Élève ajouté avec succès" .success
    setState fun p =>
      { p with classeIdSelectionne := none, imageBytes := none, imageName := none }

def enregistrerEleve : Action Etape AjoutEleve Unit := do
  let p ← page
  if p.validate then
    if p.etablissement.isNone then
      afficherMessage "Erreur" "Établissement introuvable." .error
    else if p.classeIdSelectionne = none then
      afficherMessage "Erreur" "Veuillez sélectionner une classe." .error
    else
      setState fun p => { p with loading := true }
      ensuring (catching creerEleve fun e =>
        afficherMessage "Erreur" (messageEchec e) .error) fun p => { p with loading := false }
  else ret ()

/-! What a successful creation stores. -/

/-- The new account `u` in the class `c`, whose document was `d` with the list `l`. -/
structure Inscription (b : Base) (u c : String) (d : Document) (l : List Valeur) (b' : Base) :
    Prop where
  compte : ∃ x, b'.accounts = b.accounts.put u x
  eleves : ∀ e, b'.doc .eleves e =
    if e = u then some (newDoc b.clock (eleveData u (some c))) else b.doc .eleves e
  classes : ∀ k, b'.doc .classes k =
    if k = c then some (writeFields b.clock d [(.elevesIds, .put (.list (l ++ [.str u])))])
    else b.doc .classes k

/-- An upload changes nothing but the files. -/
theorem post_televerserPhoto {S : Server} {p : AjoutEleve} {b : Base} :
    televerserPhoto.Post S.handler (fun a p' b' => (∃ f, a = .ok f) ∧ p' = p ∧
      b'.docs = b.docs ∧ b'.accounts = b.accounts ∧ b'.clock = b.clock) p b := by
  simp only [televerserPhoto, uploadImageToAppwrite, bind_eq, post_bind, post_page]
  split
  · simp
  · simp

theorem post_recupererRoleEleveId {S : Server} {p : AjoutEleve} {b : Base} :
    recupererRoleEleveId.Post S.handler (fun a p' b' => (∃ r, a = .ok r) ∧ p' = p ∧ b' = b)
      p b := by
  simp [recupererRoleEleveId]

variable {S : Server} {p : AjoutEleve} {b : Base} {c : String} {d : Document} {l : List Valeur}

theorem post_ajouterALaClasse {u : String} (hd : b.doc .classes c = some d)
    (hl : (d.get .elevesIds).orList = .ok l) (hu : l.any (Value.isStr u) = false) :
    (ajouterALaClasse c u).Post S.handler (fun a _ b' => a = .ok () ∧ b' =
      b.putDoc .classes c
        (writeFields b.clock d [(.elevesIds, .put (.list (l ++ [.str u])))])) p b := by
  simp only [ajouterALaClasse, bind_eq, post_bind, post_lire, hd, hl, post_ofExcept, hu]
  rw [if_neg (by simp), post_update]
  intro d' hd'
  obtain rfl : d = d' := Option.some.inj (hd.symm.trans hd')
  exact ⟨rfl, rfl⟩

theorem post_enregistrerDocuments {u roleEleveId : String} {fileId : Option String}
    (hc : p.classeIdSelectionne = some c) (hd : b.doc .classes c = some d)
    (hl : (d.get .elevesIds).orList = .ok l) (hu : l.any (Value.isStr u) = false) :
    (enregistrerDocuments u roleEleveId fileId).Post S.handler (fun a _ b' => a = .ok () ∧
      b'.accounts = b.accounts ∧
      (∀ e, b'.doc .eleves e =
        if e = u then some (newDoc b.clock (eleveData u (some c))) else b.doc .eleves e) ∧
      ∀ k, b'.doc .classes k =
        if k = c then some (writeFields b.clock d [(.elevesIds, .put (.list (l ++ [.str u])))])
        else b.doc .classes k) p b := by
  simp only [enregistrerDocuments, bind_eq, post_bind, post_page, post_set, hc]
  refine (post_ajouterALaClasse (d := d) (l := l) ?_ hl hu).mono ?_
  · simp [Data.doc_putDoc, hd]
  · rintro a p' b' ⟨ha, rfl⟩
    refine ⟨ha, rfl, fun e => ?_, fun k => ?_⟩
    · simp [Data.doc_putDoc]
    · simp [Data.doc_putDoc]

/-- Run without failure on an existing class, `enregistrerEleve` stores nothing (the form is not
valid, or there is no student role) or enrols a new account in that class. -/
theorem post_enregistrerEleve (hc : p.classeIdSelectionne = some c)
    (hd : b.doc .classes c = some d) (hl : (d.get .elevesIds).orList = .ok l)
    (hu : l.any (Value.isStr (S.newId b.accounts)) = false) :
    enregistrerEleve.Post S.handler
      (fun _ _ b' => b' = b ∨ Inscription b (S.newId b.accounts) c d l b') p b := by
  simp only [enregistrerEleve, afficherMessage, bind_eq, post_bind, post_page]
  split_ifs with hvalide hetab hclasse
  · exact (post_setState _).mpr (Or.inl rfl)
  · exact (post_setState _).mpr (Or.inl rfl)
  · simp only [post_bind, post_setState, post_ensuring, post_catching, creerEleve, bind_eq]
    refine post_recupererRoleEleveId.mono ?_
    rintro a p₁ b₁ ⟨⟨roleEleveId, rfl⟩, rfl, rfl⟩
    cases roleEleveId with
    | none =>
      simp [afficherMessage]
    | some roleEleveId =>
      simp only [post_bind, post_page, post_creerCompte]
      intro _ _
      refine post_televerserPhoto.mono ?_
      rintro a p₂ b₂ ⟨⟨fileId, rfl⟩, rfl, hdocs, hacc, hclock⟩
      have hdoc : ∀ k id, b₂.doc k id = b₁.doc k id := fun k id => by
        simp only [Data.doc, hdocs]
      dsimp only
      refine (post_enregistrerDocuments (p := { p with loading := true }) hc
        (d := d) (l := l) ?_ hl hu).mono ?_
      · rw [hdoc, hd]
      · rintro a p₃ b₃ ⟨rfl, hacc', heleves, hclasses⟩
        simp only [afficherMessage, post_setState]
        refine Or.inr ⟨⟨_, hacc'.trans hacc⟩, fun e => ?_, fun k => ?_⟩
        · rw [heleves, hclock, hdoc]
        · rw [hclasses, hclock, hdoc]
  · exact (post_ret _).mpr (Or.inl rfl)

end AjoutEleve

/-! ## ModificationEleveVue -/

/-- `_ModificationEleveVueState` with the texts of its form. -/
structure ModificationEleve where
  eleveId : String
  nom : String := ""
  prenom : String := ""
  email : String := ""
  telephone : String := ""
  adresse : String := ""
  loading : Bool := false
  classeIdSelectionnee : Option String := none
  messages : List Message := []

namespace ModificationEleve

def afficherMessage (titre message : String) (type : DialogType) :
    Action Etape ModificationEleve Unit :=
  setState fun p => { p with messages := p.messages ++ [⟨titre, message, type⟩] }

/-- The validators of the form. -/
def validate (p : ModificationEleve) : Bool :=
  [p.nom, p.prenom, p.email, p.telephone, p.adresse].all (· ≠ "") && p.classeIdSelectionnee.isSome

def updatedData (p : ModificationEleve) (classeId : String) : Champs :=
  [texte .nom (trim p.nom), texte .prenom (trim p.prenom), texte .email (trim p.email),
    texte .numeroTelephone (trim p.telephone), texte .adresse (trim p.adresse),
    texte .classeId classeId]

def modifierEleve : Action Etape ModificationEleve Unit := do
  let p ← page
  if p.validate then
    match p.classeIdSelectionnee with
    | none => afficherMessage "Erreur" "Veuillez sélectionner une classe" .warning
    | some classeId =>
      setState fun p => { p with loading := true }
      ensuring (catching (do
        ecrire .autre (.update .eleves p.eleveId (p.updatedData classeId))
        ecrire .autre (.update .utilisateurs p.eleveId (p.updatedData classeId))
        afficherMessage "Succès" "Élève modifié avec succès" .success) fun e =>
        afficherMessage "Erreur" ("Erreur lors de la modification : " ++ texteErreur e) .error)
        fun p => { p with loading := false }
  else ret ()

/-- An edit with a valid form updates the two documents of the student, and nothing else. -/
theorem post_modifierEleve {S : Server} {p : ModificationEleve} {b : Base} :
    modifierEleve.Post S.handler (fun _ _ b' =>
      if p.validate then ∃ c d d', p.classeIdSelectionnee = some c ∧
        b.doc .eleves p.eleveId = some d ∧
        b' = (b.putDoc .eleves p.eleveId (writeFields b.clock d (p.updatedData c))).putDoc
          .utilisateurs p.eleveId d'
      else b' = b) p b := by
  simp only [modifierEleve, afficherMessage, bind_eq, post_bind, post_page]
  by_cases hvalide : p.validate = true
  · simp only [if_pos hvalide]
    split
    · rename_i hnone
      exact absurd hvalide (by simp [validate, hnone])
    · rename_i c hsome
      simp only [post_bind, post_setState, post_ensuring, post_catching, post_update]
      intro d hd d' hd'
      exact ⟨c, d, _, hsome, hd, rfl⟩
  · simp [if_neg hvalide]

end ModificationEleve

/-! ## ListeEleves -/

/-- `_ListeElevesState`. -/
structure ListeEleves where
  etablissementId : String
  selectedClasseId : Option String := none
  classes : List Donnees.ClasseModele := []
  utilisateursMap : List (String × Donnees.UtilisateurModele) := []
  eleves : List Donnees.EleveModele := []
  isLoading : Bool := true
  error : Option String := none
  messages : List String := []

namespace ListeEleves

/-- The students of one batch of user ids, of the selected class if there is one. -/
def requeteEleves (selectedClasseId : Option String) (batchIds : List String) :
    List (Lib.Filter Champ) :=
  .whereIn .utilisateurId batchIds ::
    match selectedClasseId with
    | some c => if c = "" then [] else [.isEqualTo .classeId (.str c)]
    | none => []

/-- Load the students of the users `userIds`, ten at a time. -/
def chargerLots : List (List String) → Action Etape ListeEleves (List Donnees.EleveModele)
  | [] => ret []
  | batchIds :: lots => do
    let p ← page
    let elevesSnap ← chercher .autre .eleves (requeteEleves p.selectedClasseId batchIds)
    let lot ← ofExcept (elevesSnap.mapM fun doc => Donnees.EleveModele.fromMap doc.2 doc.1)
    let suite ← chargerLots lots
    ret (lot ++ suite)

def chargerDonnees : Action Etape ListeEleves Unit :=
  catching (do
    setState fun p => { p with isLoading := true, error := none }
    let p ← page
    let classesSnap ← chercher .autre .classes
      [.isEqualTo .etablissementId (.str p.etablissementId)]
    let classes ← ofExcept
      (classesSnap.mapM fun doc => Donnees.ClasseModele.fromMap doc.2 doc.1)
    setState fun p => { p with classes := classes }
    let usersSnap ← chercher .autre .utilisateurs
      [.isEqualTo .etablissementId (.str p.etablissementId)]
    let utilisateurs ← ofExcept (usersSnap.mapM fun doc => do
      return (doc.1, ← Donnees.UtilisateurModele.fromMap doc.2 doc.1))
    setState fun p => { p with utilisateursMap := utilisateurs }
    let loadedEleves ← chargerLots ((utilisateurs.map Prod.fst).toChunks 10)
    setState fun p => { p with eleves := loadedEleves, isLoading := false }) fun e =>
  setState fun p => { p with error := some (texteErreur e), isLoading := false }

theorem chargerLots_lecture (lots : List (List String)) :
    (chargerLots lots).Issues fun _ r => Lecture r := by
  induction lots with
  | nil => trivial
  | cons batchIds lots ih =>
    refine Issues.bind (fun _ => trivial) fun p => ?_
    refine Issues.bind ((issues_chercher ..).mpr trivial) fun elevesSnap => ?_
    refine Issues.bind (issues_ofExcept _) fun lot => ?_
    exact Issues.bind ih fun _ => trivial

/-- Loading the page only reads. -/
theorem chargerDonnees_lecture : chargerDonnees.Issues fun _ r => Lecture r := by
  refine Issues.catching ?_ fun _ => trivial
  refine Issues.bind trivial fun _ => Issues.bind (fun _ => trivial) fun p => ?_
  refine Issues.bind ((issues_chercher ..).mpr trivial) fun classesSnap => ?_
  refine Issues.bind (issues_ofExcept _) fun classes => Issues.bind trivial fun _ => ?_
  refine Issues.bind ((issues_chercher ..).mpr trivial) fun usersSnap => ?_
  refine Issues.bind (issues_ofExcept _) fun utilisateurs => Issues.bind trivial fun _ => ?_
  exact Issues.bind (chargerLots_lecture _) fun _ => trivial

/-- `_supprimerUtilisateur`, once the dialog has answered `confirmation`. -/
def supprimerUtilisateur (utilisateurId eleveId : String) (confirmation : Bool) :
    Action Etape ListeEleves Unit :=
  if confirmation then
    catching (do
      ecrire .autre (.delete .eleves eleveId)
      ecrire .autre (.delete .utilisateurs utilisateurId)
      chargerDonnees
      setState fun p => { p with messages := p.messages ++ ["Élève supprimé avec succès"] })
      fun e => setState fun p =>
        { p with messages := p.messages ++ ["Erreur lors de la suppression : " ++ texteErreur e] }
  else ret ()

/-- A confirmed deletion erases the documents of the student and of the user. -/
theorem post_supprimerUtilisateur {S : Server} {p : ListeEleves} {b : Base}
    {utilisateurId eleveId : String} {confirmation : Bool} :
    (supprimerUtilisateur utilisateurId eleveId confirmation).Post S.handler (fun _ _ b' =>
      b' = if confirmation then (b.eraseDoc .eleves eleveId).eraseDoc .utilisateurs utilisateurId
        else b) p b := by
  cases confirmation with
  | false => simp [supprimerUtilisateur]
  | true =>
    simp only [supprimerUtilisateur, if_true, bind_eq, post_catching, post_bind, post_delete]
    refine (post_of_lecture chargerDonnees_lecture).mono ?_
    rintro (e | u) p' b' rfl
    · exact (post_setState _).mpr rfl
    · exact (post_setState _).mpr rfl

end ListeEleves

end EduConnect.Admin
