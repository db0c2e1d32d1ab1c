import EduConnect.Enseignant.Choix

/-!
# Roll calls

`AppelPage`: a teacher chooses a class and a subject, the students of the class are loaded, he ticks
those who are there and saves; the parents of the others are notified.
-/

namespace EduConnect.Enseignant

open Lib Prog

/-! ## Families and notifications -/

/-- `donnees/modeles/famille_modele.dart`. -/
structure FamilleModele where
  id : String
  parentId : String
  eleveId : String

def FamilleModele.fromMap (data : Document) (id : String) : Except Err FamilleModele := do
  return {
    id := id
    parentId := ← (data.get .parentId).orStr ""
    eleveId := ← (data.get .eleveId).orStr "" }

/-- `modules/enseignant/modeles/model_notification.dart`. -/
structure NotificationModele where
  id : String
  eleveId : String
  parentId : String
  expediteurId : String
  expediteurRole : String
  etablissementId : String
  titre : String
  message : String
  lu : Bool
  createdAt : ℤ
  type : Option String
  metadata : Option (Champ → Option Valeur)

def NotificationModele.fromMap (id : String) (data : Document) : Except Err NotificationModele := do
  return {
    id := id
    eleveId := ← (data.get .eleveId).orStr ""
    parentId := ← (data.get .parentId).orStr ""
    expediteurId := ← (data.get .expediteurId).orStr ""
    expediteurRole := ← (data.get .expediteurRole).orStr ""
    etablissementId := ← (data.get .etablissementId).orStr ""
    titre := ← (data.get .titre).orStr ""
    message := ← (data.get .message).orStr ""
    lu := ← (data.get .lu).orBool false
    createdAt := ← (data.get .createdAt).asStamp
    type := ← (data.get .type).optStr
    metadata := ← (data.get .metadata).optMap }

/-- The id is not stored. -/
def NotificationModele.toMap (n : NotificationModele) : Champs :=
  [texte .eleveId n.eleveId, texte .parentId n.parentId, texte .expediteurId n.expediteurId,
    texte .expediteurRole n.expediteurRole, texte .etablissementId n.etablissementId,
    texte .titre n.titre, texte .message n.message, (.lu, .put (.bool n.lu)),
    (.createdAt, .put (.stamp n.createdAt)),
    (.type, .put (valeurOption (n.type.map Value.str))),
    (.metadata, .put (valeurOption (n.metadata.map Value.map)))]

/-- `DepotNotification.ajouterNotificationsParLot`. -/
def ajouterNotificationsParLot {Λ σ : Type} (l : Λ) (notifications : List NotificationModele) :
    Action Λ σ Unit :=
  catching (Prog.call l (Req.addAll .notifications (notifications.map NotificationModele.toMap)))
    fun e => fail (.exception
      ("Erreur lors de l'ajout par lot des notifications : " ++ texteErreur e))

/-! ## The page -/

/-- A map `{'eleveId': .., 'prenom': .., 'nom': ..}` of the list `eleves`. -/
structure Eleve where
  eleveId : String
  prenom : Valeur
  nom : Valeur

/-- `'$v'` for a value of a name field. -/
def interpoler : Valeur → String
  | .str s => s
  | .null => "null"
  | .bool b => toString b
  | .num x => x.toText
  | _ => ""

structure AppelPage extends Choix where
  matiereChoisieNom : Option String := none
  eleves : List Eleve := []
  /-- A set, in the order its elements were added. -/
  presents : List String := []
  messages : List String := []

/-- The awaits of the page.  A load carries its class; `attente` is the await of `Future.wait`. -/
inductive EtapeAppel where
  | choix
  | roster (classeId : String)
  | eleve (classeId : String)
  | attente (classeId : String)
  | appel
  | famille
  | notifications
  deriving DecidableEq

namespace AppelPage

def sur (f : Choix → Choix) (p : AppelPage) : AppelPage := { p with toChoix := f p.toChoix }

/-- The entry of a class; `nom` and `niveau` must be there. -/
def classe (id : String) (data : Document) (matieresIds : List String) :
    Except Err ClasseAvecMatieres := do
  return {
    classeId := id
    nomClasse := ← (data.get .nom).asStr
    niveauClasse := ← (data.get .niveau).asStr
    matieresIds := matieresIds }

/-- `_initData`: nothing more happens when the teacher is not found. -/
def initData : Action EtapeAppel AppelPage Unit :=
  Choix.initData toChoix sur .choix classe (ret ())
    fun _ => setState (sur fun c => { c with loading := false })

def chargerMatieres (classeId : String) : Action EtapeAppel AppelPage Unit :=
  Choix.chargerMatieres toChoix sur .choix classeId

/-- `doc(uId)` for a value read from a document; `doc(null)` names a new document. -/
def reference : Valeur → Except Err (Option String)
  | .null => .ok none
  | .str "" => .error .invalidArgument
  | .str s => .ok (some s)
  | _ => .error .type

/-- One of the futures of `_chargerEleves`. -/
def chargerEleve (classeId id : String) : Action EtapeAppel AppelPage (Option Eleve) := do
  match ← lireDoc (.eleve classeId) .eleves id with
  | none => return none
  | some eDoc =>
    match ← ofExcept ((eDoc.field .utilisateurId).bind reference) with
    | none => return none
    | some uId =>
      match ← lire (.eleve classeId) .utilisateurs uId with
      | none => return none
      | some uDoc =>
        let prenom ← ofExcept (uDoc.field .prenom)
        let nom ← ofExcept (uDoc.field .nom)
        let _ ← ofExcept (uDoc.field .photo)
        return some ⟨id, prenom, nom⟩

/-- The futures of `_chargerEleves`.  They run in parallel in the source; as they only read, and the
data may change between any two reads, one order shows all their results. -/
def chargerTous (classeId : String) : List String → Action EtapeAppel AppelPage (List (Option Eleve))
  | [] => return []
  | id :: ids => do
    let eleve ← chargerEleve classeId id
    return eleve :: (← chargerTous classeId ids)

/-- The `elevesIds` of a class document. -/
def elevesIds (doc : Option Document) : Except Err (List String) :=
  (champ doc .elevesIds).bind Value.orStrs

def chargerEleves (classeId : String) : Action EtapeAppel AppelPage Unit := do
  let doc ← lireDoc (.roster classeId) .classes classeId
  let ids ← ofExcept (elevesIds doc)
  let results ← chargerTous classeId ids
  attendre (.attente classeId)
  setState fun p => { p with eleves := results.reduceOption, presents := [] }

def toutCocher : Action EtapeAppel AppelPage Unit :=
  setState fun p => { p with presents := (p.eleves.map Eleve.eleveId).eraseDups }

def toutDecocher : Action EtapeAppel AppelPage Unit :=
  setState fun p => { p with presents := [] }

/-- The students of the list who are not ticked. -/
def absents (p : AppelPage) : List String :=
  (p.eleves.map Eleve.eleveId).filter fun id => id ∉ p.presents

/-- The times and the formatted hour `enregistrerAppel` reads from the clock. -/
structure Horloge where
  appel : ℤ
  notification : ℤ
  heure : String
  deriving DecidableEq

/-- The document `enregistrerAppel` adds. -/
def appel (p : AppelPage) (classeId matiereId enseignantId : String) (h : Horloge) : Champs :=
  [texte .classeId classeId, texte .matiereId matiereId, texte .enseignantId enseignantId,
    texte .etablissementId p.etablissementId, textes .elevesPresents p.presents,
    textes .elevesAbsents p.absents, (.createdAt, .put (.stamp h.appel)),
    (.date, .put (.stamp h.appel))]

/-- `noms[eleveId]`: a later student of the list hides an earlier one. -/
def noms (p : AppelPage) (eleveId : String) : Option String :=
  (p.eleves.reverse.find? fun e => e.eleveId = eleveId).map fun e =>
    interpoler e.prenom ++ " " ++ interpoler e.nom

def getNomClasse (p : AppelPage) : String :=
  ((p.classesAvecMatieres.find? fun c => some c.classeId = p.classeChoisieId).map
    ClasseAvecMatieres.nomClasse).getD "..."

def getNomMatiere (p : AppelPage) : String := p.matiereChoisieNom.getD "..."

/-- The notification made of a family document; the page is read again after the query. -/
def notification (p : AppelPage) (h : Horloge) (doc : String × Document) :
    Except Err NotificationModele := do
  let famille ← FamilleModele.fromMap doc.2 doc.1
  let enseignantId ← idDeDocument p.enseignantId
  let classeId ← idDeDocument p.classeChoisieId
  let matiereId ← idDeDocument p.matiereChoisieId
  return {
    id := ""
    eleveId := famille.eleveId
    parentId := famille.parentId
    expediteurId := enseignantId
    expediteurRole := "enseignant"
    etablissementId := p.etablissementId
    titre := "Absence"
    message := "Le aujourd’hui à " ++ h.heure ++ ", " ++ (p.noms famille.eleveId).getD "votre enfant" ++
      " était absent(e) en " ++ p.getNomMatiere ++ " (" ++ p.getNomClasse ++ ")."
    lu := false
    createdAt := h.notification
    type := some "absence"
    metadata := some fun f => match f with
      | .classeId => some (.str classeId)
      | .matiereId => some (.str matiereId)
      | _ => none }

/-- The part of `enregistrerAppel` that notifies the parents of the absent students. -/
def notifier (absents : List String) (h : Horloge) : Action EtapeAppel AppelPage Unit := do
  if absents = [] then return
  let familles ← chercher .famille .famille [.whereIn .eleveId absents]
  let p ← page
  let notifs ← ofExcept (familles.mapM (p.notification h))
  ajouterNotificationsParLot .notifications notifs

/-- The page after a saved roll call. -/
def vider (p : AppelPage) : AppelPage :=
  { p with
    classeChoisieId := none, matiereChoisieId := none, matiereChoisieNom := none, matieres := []
    eleves := [], presents := [], saving := false, messages := p.messages ++ ["Appel enregistré."] }

def enregistrerAppel (h : Horloge) : Action EtapeAppel AppelPage Unit := do
  let p ← page
  match p.classeChoisieId, p.matiereChoisieId, p.enseignantId with
  | some classeId, some matiereId, some enseignantId =>
    setState (sur fun c => { c with saving := true })
    let _ ← ajouter .appel .appels (p.appel classeId matiereId enseignantId h)
    notifier p.absents h
    setState vider
  | _, _, _ => return

/-- The class, the subject and the teacher are there. -/
def Choisis (p : AppelPage) : Prop :=
  p.enseignantId ≠ none ∧ p.classeChoisieId ≠ none ∧ p.matiereChoisieId ≠ none

/-- On a page where one of them is missing `enregistrerAppel` does nothing. -/
theorem enregistrerAppel_eq (h : Horloge) : ∃ k, enregistrerAppel h = .read k ∧ ∀ p : AppelPage,
    ¬Choisis p ∧ k p = ret () ∨
    ∃ classeId matiereId enseignantId, p.classeChoisieId = some classeId ∧
      p.matiereChoisieId = some matiereId ∧ p.enseignantId = some enseignantId ∧
      k p = Prog.bind (setState (sur fun c => { c with saving := true })) fun _ =>
        Prog.bind (ajouter .appel .appels (p.appel classeId matiereId enseignantId h)) fun _ =>
          Prog.bind (notifier p.absents h) fun _ => setState vider := by
  refine ⟨_, rfl, fun p => ?_⟩
  simp only [Prog.bind]
  cases hc : p.classeChoisieId with
  | none => exact Or.inl ⟨fun hchoisis => hchoisis.2.1 hc, rfl⟩
  | some classeId =>
    cases hm : p.matiereChoisieId with
    | none => exact Or.inl ⟨fun hchoisis => hchoisis.2.2 hm, rfl⟩
    | some matiereId =>
      cases he : p.enseignantId with
      | none => exact Or.inl ⟨fun hchoisis => hchoisis.1 he, rfl⟩
      | some enseignantId => exact Or.inr ⟨_, _, _, rfl, rfl, rfl, rfl⟩

/-! ## What a user can do -/

inductive Evenement where
  | ouvrir
  | classe (n : ℕ)
  | matiere (n : ℕ)
  | cocher (n : ℕ)
  | toutCocher
  | toutDecocher
  | enregistrer (h : Horloge)
  deriving DecidableEq

/-- A tap on the chip of a class. -/
def choisirClasse (c : ClasseAvecMatieres) : Action EtapeAppel AppelPage Unit := do
  setState fun p => { p with
    classeChoisieId := some c.classeId, matiereChoisieId := none, matiereChoisieNom := none
    matieres := [], eleves := [], presents := [] }
  chargerMatieres c.classeId

/-- A tap on the chip of a subject, with a class chosen. -/
def choisirMatiere (classeId : String) (m : Matiere) : Action EtapeAppel AppelPage Unit := do
  setState fun p => { p with
    matiereChoisieId := some m.id, matiereChoisieNom := some m.nom, eleves := [], presents := [] }
  chargerEleves classeId

/-- A tap on the check box of a student. -/
def cocher (id : String) : Action EtapeAppel AppelPage Unit :=
  setState fun p => { p with
    presents := if id ∈ p.presents then p.presents.filter (· ≠ id) else p.presents ++ [id] }

/-- The program an event starts.  A chip that is selected does nothing, and a list or a button is
there as `build` says. -/
def on (p : AppelPage) : Evenement → Option (Action EtapeAppel AppelPage Unit)
  | .ouvrir => some initData
  | .classe n =>
    if p.loading then none
    else (p.classesAvecMatieres[n]?.filter fun c => some c.classeId ≠ p.classeChoisieId).map
      choisirClasse
  | .matiere n =>
    if p.loading then none
    else p.classeChoisieId.bind fun classeId =>
      (p.matieres[n]?.filter fun m => some m.id ≠ p.matiereChoisieId).map (choisirMatiere classeId)
  | .cocher n => if p.loading then none else p.eleves[n]?.map fun e => cocher e.eleveId
  | .toutCocher => if p.loading ∨ p.eleves = [] then none else some AppelPage.toutCocher
  | .toutDecocher => if p.loading ∨ p.eleves = [] then none else some AppelPage.toutDecocher
  | .enregistrer h =>
    if p.loading ∨ p.eleves = [] ∨ p.saving then none else some (enregistrerAppel h)

/-! ## The loads only read -/

section Loads

variable {J : AppelPage → Prop}

theorem keeps_chargerEleve (classeId id : String) : (chargerEleve classeId id).Keeps J := by
  refine .bind (Choix.keeps_lireDoc _ _ _) fun doc => ?_
  rcases doc with _ | eDoc
  · trivial
  refine .bind (keeps_ofExcept _) fun u => ?_
  rcases u with _ | uId
  · trivial
  refine .bind (keeps_call _ _) fun doc => ?_
  rcases (doc : Option Document) with _ | uDoc
  · trivial
  refine .bind (keeps_ofExcept _) fun prenom => .bind (keeps_ofExcept _) fun nom => ?_
  exact .bind (keeps_ofExcept _) fun photo => trivial

theorem keeps_chargerTous (classeId : String) (ids : List String) :
    (chargerTous classeId ids).Keeps J := by
  induction ids with
  | nil => trivial
  | cons id ids ih =>
    exact .bind (keeps_chargerEleve classeId id) fun eleve => .bind ih fun _ => trivial

theorem keeps_chargerEleves (classeId : String)
    (h : ∀ (l : List Eleve) p, J p → J { p with eleves := l, presents := [] }) :
    (chargerEleves classeId).Keeps J := by
  refine .bind (Choix.keeps_lireDoc _ _ _) fun doc => .bind (keeps_ofExcept _) fun ids => ?_
  refine .bind (keeps_chargerTous classeId ids) fun results => .bind (keeps_call _ _) fun _ => ?_
  exact (keeps_setState _).mpr (h _)

/-- A read of the load of the students of a class. -/
def Charge (classeId : String) (l : EtapeAppel) (r : Requete) : Prop :=
  (l = .roster classeId ∨ l = .eleve classeId ∨ l = .attente classeId) ∧ Lecture r

theorem issues_chargerEleve (classeId id : String) :
    (chargerEleve classeId id).Issues (Charge classeId) := by
  refine .bind (issues_lireDoc ⟨Or.inr (Or.inl rfl), trivial⟩) fun doc => ?_
  rcases doc with _ | eDoc
  · trivial
  refine .bind (issues_ofExcept _) fun u => ?_
  rcases u with _ | uId
  · trivial
  refine .bind ((issues_lire _ _ _).mpr ⟨Or.inr (Or.inl rfl), trivial⟩) fun doc => ?_
  rcases (doc : Option Document) with _ | uDoc
  · trivial
  refine .bind (issues_ofExcept _) fun prenom => .bind (issues_ofExcept _) fun nom => ?_
  exact .bind (issues_ofExcept _) fun photo => trivial

theorem issues_chargerTous (classeId : String) (ids : List String) :
    (chargerTous classeId ids).Issues (Charge classeId) := by
  induction ids with
  | nil => trivial
  | cons id ids ih =>
    exact .bind (issues_chargerEleve classeId id) fun eleve => .bind ih fun _ => trivial

theorem issues_chargerEleves (classeId : String) :
    (chargerEleves classeId).Issues (Charge classeId) := by
  refine .bind (issues_lireDoc ⟨Or.inl rfl, trivial⟩) fun doc => ?_
  refine .bind (issues_ofExcept _) fun ids => .bind (issues_chargerTous classeId ids) fun _ => ?_
  exact .bind ((issues_attendre _).mpr ⟨Or.inr (Or.inr rfl), trivial⟩) fun _ => trivial

end Loads

/-! ## The save -/

section Saves

variable {J : AppelPage → Prop}

theorem keeps_notifier (absents : List String) (h : Horloge) : (notifier absents h).Keeps J := by
  refine .ite (keeps_ret _) (.bind (keeps_call _ _) fun familles => .bind keeps_page fun p => ?_)
  exact .bind (keeps_ofExcept _) fun notifs => .catching (keeps_call _ _) fun e => keeps_fail _

theorem keeps_enregistrerAppel (h : Horloge)
    (hs : ∀ p, J p → J (sur (fun c => { c with saving := true }) p))
    (hv : ∀ p, J p → J (vider p)) : (enregistrerAppel h).Keeps J := by
  refine .bind keeps_page fun p => ?_
  split
  · refine .bind ((keeps_setState _).mpr hs) fun _ => .bind (keeps_call _ _) fun _ => ?_
    exact .bind (keeps_notifier _ _) fun _ => (keeps_setState _).mpr hv
  · exact keeps_ret _

/-- The awaits of `enregistrerAppel`. -/
def Sauvegarde (l : EtapeAppel) : Prop := l = .appel ∨ l = .famille ∨ l = .notifications

theorem issues_enregistrerAppel (h : Horloge) :
    (enregistrerAppel h).Issues fun l _ => Sauvegarde l := by
  refine .bind (fun _ => trivial) fun p => ?_
  split
  · refine .bind trivial fun _ => .bind ((issues_ajouter _ _ _).mpr (Or.inl rfl)) fun _ => ?_
    refine .bind (.ite trivial ?_) fun _ => trivial
    refine .bind ((issues_chercher _ _ _).mpr (Or.inr (Or.inl rfl))) fun familles => ?_
    refine .bind (fun _ => trivial) fun p => .bind (issues_ofExcept _) fun notifs => ?_
    exact .catching ((issues_call _ _).mpr (Or.inr (Or.inr rfl))) fun e => trivial
  · trivial

end Saves

end AppelPage

end EduConnect.Enseignant
