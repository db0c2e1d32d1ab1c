import EduConnect.Lib.Backend
import EduConnect.Lib.Sched

/-!
# Collections, fields and error texts

The names the application uses in Firestore, and its asynchronous functions (`Action`): programs
over a page state whose requests go to `Lib.Server`.
-/

namespace EduConnect

open Lib

inductive Collection where
  | administrateurs | annonces | appels | authentification | classes | devoirs | eleves | enseignants
  | enseignements | etablissements | famille | matieres | messages | notes | notifications | parents
  | roles | superadministrateurs | utilisateurs
  deriving DecidableEq

inductive Champ where
  | adresse | classe | classeId | codePostal | coefficient | contenu | createdAt | date
  | dateCreation | dateEnvoi | dateRemise | description | destinataireId | eleveId | eleveIds
  | eleves | elevesAbsents | elevesIds | elevesPresents | email | emetteurId | enseignantId
  | enseignantsIds | etablissement | etablissementId | expediteurId | expediteurRole | fichierId
  | fichierType | fichierUrl | id | lu | luePar | lusPar | matiere | matiereId | matieresIds
  | mention | message | metadata | motDePasse | niveau | nom | note | noteId | notesIds
  | numeroTelephone | parentId | parentIds | participants | pays | photo | photoFileId | photoUrl
  | prenom | recepteurId | region | roleId | sequence | statut | telephone | titre | type | typeNote
  | typeUtilisateur | uid
  | utilisateurId | utilisateursConcernees | utilisateursConcernes | valeur | ville | vu
  deriving DecidableEq

abbrev Valeur := Value Champ
abbrev Document := Doc Champ
abbrev Champs := List (Champ × FieldOp Champ)
abbrev Requete := Req Collection Champ
abbrev Ecriture := Write Collection Champ
abbrev Base := Data Collection Champ

/-- An empty store. -/
def baseVide : Base where
  docs _ := Table.empty

/-- An asynchronous function of a page with state `σ`, its awaits labelled in `Λ`. -/
abbrev Action (Λ σ α : Type) := Prog Λ Requete Req.Ans Err σ α

/-- What `'$e'` shows of an error. -/
def texteErreur : Err → String
  | .unavailable => "[cloud_firestore/unavailable]"
  | .notFound => "[cloud_firestore/not-found]"
  | .invalidArgument => "[cloud_firestore/invalid-argument]"
  | .auth code _ => "[firebase_auth/" ++ code ++ "]"
  | .type => "type error"
  | .format source => "FormatException: Invalid double\n" ++ source
  | .exception message => "Exception: " ++ message

/-- A field holding a string. -/
def texte (f : Champ) (s : String) : Champ × FieldOp Champ := (f, .put (.str s))

/-- A field holding a list of strings. -/
def textes (f : Champ) (l : List String) : Champ × FieldOp Champ := (f, .put (.strs l))

/-- A nullable field value. -/
def valeurOption (v : Option Valeur) : Valeur := v.getD .null

/-- `id!`, which throws on null. -/
def idDeDocument : Option String → Except Err String
  | some id => .ok id
  | none => .error .type

/-! ## Requests of the application -/

section Requetes

variable {Λ σ : Type}

/-- `collection(c).doc(id).get()`. -/
def lire (l : Λ) (c : Collection) (id : String) : Action Λ σ (Option Document) :=
  Prog.call l (Req.get c id)

/-- `collection(c).where(..).get()`. -/
def chercher (l : Λ) (c : Collection) (fs : List (Lib.Filter Champ)) :
    Action Λ σ (List (String × Document)) :=
  Prog.call l (Req.query c ⟨fs, none, none⟩)

/-- `collection(c).where(..).limit(1).get()`. -/
def chercherPremier (l : Λ) (c : Collection) (fs : List (Lib.Filter Champ)) :
    Action Λ σ (List (String × Document)) :=
  Prog.call l (Req.query c ⟨fs, none, some 1⟩)

/-- `collection(c).add(fs)`. -/
def ajouter (l : Λ) (c : Collection) (fs : Champs) : Action Λ σ String := Prog.call l (Req.add c fs)

/-- `set`, `update` or `delete` of one document. -/
def ecrire (l : Λ) (w : Ecriture) : Action Λ σ Unit := Prog.call l (Req.write w)

/-- `createUserWithEmailAndPassword`, which also signs the new account in. -/
def creerCompte (l : Λ) (email password : String) : Action Λ σ String :=
  Prog.call l (Req.createUser email password)

/-- `appwriteStorage.createFile`. -/
def creerFichier (l : Λ) (name : String) : Action Λ σ String := Prog.call l (Req.createFile name)

/-- `appwriteStorage.deleteFile`. -/
def supprimerFichier (l : Λ) (id : String) : Action Λ σ Unit := Prog.call l (Req.deleteFile id)

/-- `signInWithEmailAndPassword`. -/
def seConnecter (l : Λ) (email password : String) : Action Λ σ String :=
  Prog.call l (Req.signIn email password)

/-- `FirebaseAuth.signOut`. -/
def seDeconnecter (l : Λ) : Action Λ σ Unit := Prog.call l Req.signOut

/-- `FirebaseAuth.instance.currentUser`. -/
def utilisateurCourant (l : Λ) : Action Λ σ (Option String) := Prog.call l Req.currentUser

/-- An await that asks the backend nothing. -/
def attendre (l : Λ) : Action Λ σ Unit := Prog.call l Req.pause

/-- `collection(c).doc(id).get()`, where `doc` refuses an empty id. -/
def lireDoc (l : Λ) (c : Collection) (id : String) : Action Λ σ (Option Document) :=
  if id = "" then .fail .invalidArgument else lire l c id

/-- `collection(c).where(FieldPath.documentId, whereIn: ids).where(..).get()`, which refuses an empty
id. -/
def chercherParIds (l : Λ) (c : Collection) (ids : List String) (fs : List (Lib.Filter Champ)) :
    Action Λ σ (List (String × Document)) :=
  if "" ∈ ids then .fail .invalidArgument else chercher l c (.idIn ids :: fs)

/-- `doc['f']`, which throws on a missing document and on an absent field. -/
def champ (doc : Option Document) (f : Champ) : Except Err Valeur :=
  match doc with
  | some d => d.field f
  | none => .error .type

variable {S : Server} {s : σ} {b : Base}

theorem handler_write_of_some {b' : Base} {w : Ecriture} (h : w.apply b = some b') :
    S.handler (.write w : Requete) b = (.ok (), b') := by
  simp only [Server.handler, h]

theorem handler_write_of_none {w : Ecriture} (h : w.apply b = none) :
    S.handler (.write w : Requete) b = (.error .notFound, b) := by
  simp only [Server.handler, h]

/-- What a query answers when it is not refused. -/
theorem rows_of_handler {c : Collection} {q : Query Champ} {rows : List (String × Document)}
    (h : (S.handler (.query c q : Requete) b).1 = .ok rows) : rows = q.run (b.docs c) := by
  cases hf : q.filters.any (Filter.refused S.maxIn)
  · have hr : S.handler (.query c q : Requete) b = (.ok (q.run (b.docs c)), b) := by
      simp only [Server.handler, hf]
      rfl
    rw [hr] at h
    exact (Except.ok.inj h).symm
  · have hr : S.handler (.query c q : Requete) b = (.error .invalidArgument, b) := by
      simp only [Server.handler, hf]
      rfl
    rw [hr] at h
    cases h

/-- `set`, `update` or `delete` of one document, alone. -/
theorem exec_ecrire (l : Λ) (w : Ecriture) : (ecrire l w).exec S.handler s b =
    match w.apply b with
    | some b' => (.ok (), s, b')
    | none => (.error .notFound, s, b) := by
  refine (Prog.exec_call l (Req.write w : Requete) s b).trans ?_
  cases hw : w.apply b with
  | none =>
    rw [handler_write_of_none hw]
    rfl
  | some b' =>
    rw [handler_write_of_some hw]
    rfl

/-- Going on with a document that is read. -/
theorem exec_lire_bind {α : Type} (l : Λ) (c : Collection) (id : String)
    (f : Option Document → Action Λ σ α) :
    (Prog.bind (lire l c id) f).exec S.handler s b = (f (b.doc c id)).exec S.handler s b := rfl

/-! What a request does when it does not fail. -/

@[simp] theorem post_lire {Q : Except Err (Option Document) → σ → Base → Prop} (l : Λ)
    (c : Collection) (id : String) :
    (lire l c id).Post S.handler Q s b ↔ Q (.ok (b.doc c id)) s b :=
  Prog.post_call_of_ok (r := Req.get c id) rfl

theorem post_requete {Q : Except Err (List (String × Document)) → σ → Base → Prop} (l : Λ)
    (c : Collection) (q : Query Champ) :
    (Prog.call l (Req.query c q) : Action Λ σ _).Post S.handler Q s b ↔
      (q.filters.any (Filter.refused S.maxIn) = false → Q (.ok (q.run (b.docs c))) s b) := by
  cases hf : q.filters.any (Filter.refused S.maxIn)
  · have hr : S.handler (.query c q : Requete) b = (.ok (q.run (b.docs c)), b) := by
      simp only [Server.handler, hf]
      rfl
    exact (Prog.post_call_of_ok hr).trans ⟨fun h _ => h, fun h => h rfl⟩
  · have hr : S.handler (.query c q : Requete) b = (.error .invalidArgument, b) := by
      simp only [Server.handler, hf]
      rfl
    exact ⟨fun _ h => absurd h (by simp), fun _ => Prog.post_call_of_error hr⟩

@[simp] theorem post_chercher {Q : Except Err (List (String × Document)) → σ → Base → Prop}
    (l : Λ) (c : Collection) (fs : List (Lib.Filter Champ)) :
    (chercher l c fs).Post S.handler Q s b ↔ (fs.any (Filter.refused S.maxIn) = false →
      Q (.ok ((⟨fs, none, none⟩ : Query Champ).run (b.docs c))) s b) :=
  post_requete l c ⟨fs, none, none⟩

@[simp] theorem post_chercherPremier
    {Q : Except Err (List (String × Document)) → σ → Base → Prop} (l : Λ) (c : Collection)
    (fs : List (Lib.Filter Champ)) :
    (chercherPremier l c fs).Post S.handler Q s b ↔ (fs.any (Filter.refused S.maxIn) = false →
      Q (.ok ((⟨fs, none, some 1⟩ : Query Champ).run (b.docs c))) s b) :=
  post_requete l c ⟨fs, none, some 1⟩

@[simp] theorem post_ajouter {Q : Except Err String → σ → Base → Prop} (l : Λ) (c : Collection)
    (fs : Champs) : (ajouter l c fs).Post S.handler Q s b ↔
      Q (.ok (S.newDocId b c)) s
        ((b.putDoc c (S.newDocId b c) (newDoc b.clock fs)).issue (S.newDocId b c)) :=
  Prog.post_call_of_ok (r := Req.add c fs) rfl

theorem post_ecrire {Q : Except Err Unit → σ → Base → Prop} (l : Λ) (w : Ecriture) :
    (ecrire l w).Post S.handler Q s b ↔ ∀ b', w.apply b = some b' → Q (.ok ()) s b' := by
  cases hw : w.apply b with
  | none =>
    have hr : S.handler (.write w : Requete) b = (.error .notFound, b) := by
      simp only [Server.handler, hw]
    exact ⟨fun _ _ h => absurd h (by simp), fun _ => Prog.post_call_of_error hr⟩
  | some b' =>
    have hr : S.handler (.write w : Requete) b = (.ok (), b') := by
      simp only [Server.handler, hw]
    refine (Prog.post_call_of_ok hr).trans ⟨?_, fun h => h b' rfl⟩
    rintro h b'' hb
    cases hb
    exact h

@[simp] theorem post_set {Q : Except Err Unit → σ → Base → Prop} (l : Λ) (c : Collection)
    (id : String) (fs : Champs) : (ecrire l (.set c id fs)).Post S.handler Q s b ↔
      Q (.ok ()) s (b.putDoc c id (newDoc b.clock fs)) := by
  simp [post_ecrire, Write.apply]

@[simp] theorem post_update {Q : Except Err Unit → σ → Base → Prop} (l : Λ) (c : Collection)
    (id : String) (fs : Champs) : (ecrire l (.update c id fs)).Post S.handler Q s b ↔
      ∀ d, b.doc c id = some d → Q (.ok ()) s (b.putDoc c id (writeFields b.clock d fs)) := by
  simp [post_ecrire, Write.apply]

@[simp] theorem post_delete {Q : Except Err Unit → σ → Base → Prop} (l : Λ) (c : Collection)
    (id : String) :
    (ecrire l (.delete c id)).Post S.handler Q s b ↔ Q (.ok ()) s (b.eraseDoc c id) := by
  simp [post_ecrire, Write.apply]

@[simp] theorem post_creerCompte {Q : Except Err String → σ → Base → Prop} (l : Λ)
    (email password : String) : (creerCompte l email password).Post S.handler Q s b ↔
      (b.accounts.rows.any (fun a => a.2.1 = email) = false → ¬password.length < 6 →
        Q (.ok (S.newId b.accounts)) s { b with
          accounts := b.accounts.put (S.newId b.accounts) (email, password)
          session := some (S.newId b.accounts) }) := by
  by_cases ha : b.accounts.rows.any (fun a => a.2.1 = email) = true
  · have hr : S.handler (.createUser email password : Requete) b =
        (.error (.auth "email-already-in-use" none), b) := by
      simp only [Server.handler, if_pos ha]
    exact ⟨fun _ h => absurd h (by simp [ha]), fun _ => Prog.post_call_of_error hr⟩
  by_cases hp : password.length < 6
  · have hr : S.handler (.createUser email password : Requete) b =
        (.error (.auth "weak-password" none), b) := by
      simp only [Server.handler, if_neg ha, if_pos hp]
    exact ⟨fun _ _ h => absurd hp h, fun _ => Prog.post_call_of_error hr⟩
  · have hr : S.handler (.createUser email password : Requete) b =
        (.ok (S.newId b.accounts), { b with
          accounts := b.accounts.put (S.newId b.accounts) (email, password)
          session := some (S.newId b.accounts) }) := by
      simp only [Server.handler, if_neg ha, if_neg hp]
    exact (Prog.post_call_of_ok hr).trans
      ⟨fun h _ _ => h, fun h => h (Bool.not_eq_true _ ▸ ha) hp⟩

@[simp] theorem post_creerFichier {Q : Except Err String → σ → Base → Prop} (l : Λ)
    (name : String) : (creerFichier l name).Post S.handler Q s b ↔
      Q (.ok (S.newId b.files)) s { b with files := b.files.put (S.newId b.files) () } :=
  Prog.post_call_of_ok (r := Req.createFile name) rfl

/-! What a reading request does, refused or not. -/

@[simp] theorem ends_lire {Q : Except Err (Option Document) → σ → Base → Prop} (l : Λ)
    (c : Collection) (id : String) :
    (lire l c id).Ends S.handler Q s b ↔ Q (.ok (b.doc c id)) s b :=
  Prog.ends_call (r := Req.get c id)

@[simp] theorem ends_attendre {Q : Except Err Unit → σ → Base → Prop} (l : Λ) :
    (attendre l).Ends S.handler Q s b ↔ Q (.ok ()) s b :=
  Prog.ends_call (r := Req.pause)

theorem ends_requete {Q : Except Err (List (String × Document)) → σ → Base → Prop} (l : Λ)
    (c : Collection) (q : Query Champ) :
    (Prog.call l (Req.query c q) : Action Λ σ _).Ends S.handler Q s b ↔
      if q.filters.any (Filter.refused S.maxIn) then Q (.error .invalidArgument) s b
      else Q (.ok (q.run (b.docs c))) s b := by
  refine Prog.ends_call.trans ?_
  cases hf : q.filters.any (Filter.refused S.maxIn) with
  | true =>
    simp only [Server.handler, hf, if_true]
    rfl
  | false =>
    simp only [Server.handler, hf]
    rfl

@[simp] theorem ends_chercher {Q : Except Err (List (String × Document)) → σ → Base → Prop}
    (l : Λ) (c : Collection) (fs : List (Lib.Filter Champ)) :
    (chercher l c fs).Ends S.handler Q s b ↔
      if fs.any (Filter.refused S.maxIn) then Q (.error .invalidArgument) s b
      else Q (.ok ((⟨fs, none, none⟩ : Query Champ).run (b.docs c))) s b :=
  ends_requete l c ⟨fs, none, none⟩

/-- Going on with the rows of a query, or with its refusal. -/
theorem ends_chercher_bind {α : Type} {Q : Except Err α → σ → Base → Prop} {l : Λ} {c : Collection}
    {fs : List (Lib.Filter Champ)} {f : List (String × Document) → Action Λ σ α}
    (hok : fs.any (Filter.refused S.maxIn) = false →
      (f ((⟨fs, none, none⟩ : Query Champ).run (b.docs c))).Ends S.handler Q s b)
    (hrefus : fs.any (Filter.refused S.maxIn) = true → Q (.error .invalidArgument) s b) :
    (Prog.bind (chercher l c fs) f).Ends S.handler Q s b := by
  rw [Prog.ends_bind, ends_chercher]
  cases h : fs.any (Filter.refused S.maxIn) with
  | true => exact hrefus h
  | false => exact hok h

@[simp] theorem ends_chercherPremier
    {Q : Except Err (List (String × Document)) → σ → Base → Prop} (l : Λ) (c : Collection)
    (fs : List (Lib.Filter Champ)) :
    (chercherPremier l c fs).Ends S.handler Q s b ↔
      if fs.any (Filter.refused S.maxIn) then Q (.error .invalidArgument) s b
      else Q (.ok ((⟨fs, none, some 1⟩ : Query Champ).run (b.docs c))) s b :=
  ends_requete l c ⟨fs, none, some 1⟩

theorem ends_ecrire {Q : Except Err Unit → σ → Base → Prop} (l : Λ) (w : Ecriture) :
    (ecrire l w).Ends S.handler Q s b ↔
      match w.apply b with
      | some b' => Q (.ok ()) s b'
      | none => Q (.error .notFound) s b := by
  refine Prog.ends_call.trans ?_
  cases hw : w.apply b with
  | some b' =>
    rw [handler_write_of_some hw]
    exact Iff.rfl
  | none =>
    rw [handler_write_of_none hw]
    exact Iff.rfl

/-- An update changes the document it names, if it is there. -/
theorem ends_update_doc (l : Λ) (c : Collection) (id : String) (fs : Champs) (id' : String) :
    (ecrire l (.update c id fs) : Action Λ σ Unit).Ends S.handler (fun _ _ b' => b'.doc c id' =
      if id' = id then (b.doc c id').map fun d => writeFields b.clock d fs
      else b.doc c id') s b := by
  refine (ends_ecrire _ _).mpr ?_
  cases hd : b.doc c id with
  | none =>
    have hw : (Write.update c id fs : Ecriture).apply b = none := by simp [Write.apply, hd]
    rw [hw]
    by_cases hid : id' = id
    · rw [if_pos hid, hid, hd]
      rfl
    · exact (if_neg hid).symm
  | some d =>
    have hw : (Write.update c id fs : Ecriture).apply b =
        some (b.putDoc c id (writeFields b.clock d fs)) := by simp [Write.apply, hd]
    rw [hw]
    show (b.putDoc c id _).doc c id' = _
    rw [Data.doc_putDoc]
    by_cases hid : id' = id
    · rw [if_pos hid, if_pos ⟨rfl, hid⟩, hid, hd]
      rfl
    · rw [if_neg hid, if_neg fun h => hid h.2]

/-- Going on with the first row of a query, or with its refusal. -/
theorem ends_chercherPremier_bind {α : Type} {Q : Except Err α → σ → Base → Prop} {l : Λ}
    {c : Collection} {fs : List (Lib.Filter Champ)}
    {f : List (String × Document) → Action Λ σ α}
    (hok : fs.any (Filter.refused S.maxIn) = false →
      (f ((⟨fs, none, some 1⟩ : Query Champ).run (b.docs c))).Ends S.handler Q s b)
    (hrefus : fs.any (Filter.refused S.maxIn) = true → Q (.error .invalidArgument) s b) :
    (Prog.bind (chercherPremier l c fs) f).Ends S.handler Q s b := by
  rw [Prog.ends_bind, ends_chercherPremier]
  cases h : fs.any (Filter.refused S.maxIn) with
  | true => exact hrefus h
  | false => exact hok h

/-! Programs that only read. -/

/-- The request leaves the data as they are. -/
def Lecture : Requete → Prop
  | .get _ _ => True
  | .query _ _ => True
  | .pause => True
  | .currentUser => True
  | _ => False

theorem handler_lecture {r : Requete} (hr : Lecture r) : (S.handler r b).2 = b := by
  cases r with
  | get c id => rfl
  | query c q =>
    simp only [Server.handler]
    split_ifs <;> rfl
  | pause => rfl
  | currentUser => rfl
  | _ => exact hr.elim

theorem post_of_lecture {α : Type} {p : Action Λ σ α} (hp : p.Issues fun _ r => Lecture r) :
    p.Post S.handler (fun _ _ b' => b' = b) s b := by
  have hkeep : ∀ (l : Λ) r b₁, Lecture r → b₁ = b → (S.handler r b₁).2 = b :=
    fun _ _ _ hr hb => (handler_lecture hr).trans hb
  exact hp.post hkeep rfl

/-! Requests under the rely–guarantee rule. -/

section Regles

variable {ι : Type} {I : List (Exchange ι Λ Requete Req.Ans Err) → ι → σ → Prop}
  {G : List (Exchange ι Λ Requete Req.Ans Err) → ι → Λ → Requete → Prop}
  {C : List (Exchange ι Λ Requete Req.Ans Err) → Exchange ι Λ Requete Req.Ans Err → σ → Prop}
  {i : ι} {w : List (Exchange ι Λ Requete Req.Ans Err)} {l : Λ} {c : Collection} {s : σ}

theorem ok_ajouter {fs : Champs}
    {Q : Except Err String → List (Exchange ι Λ Requete Req.Ans Err) → σ → Prop} :
    (ajouter l c fs).Ok I G C i Q w s ↔ I w i s ∧ G w i l (.add c fs) ∧
      ∀ (a : Except Err String) w' s', w <+: w' → ⟨i, l, .add c fs, a⟩ ∈ w' → I w' i s' →
        C w' ⟨i, l, .add c fs, a⟩ s' → Q a w' s' :=
  Prog.ok_call (r := Req.add c fs)

theorem ok_ecrire {u : Ecriture}
    {Q : Except Err Unit → List (Exchange ι Λ Requete Req.Ans Err) → σ → Prop} :
    (ecrire l u).Ok I G C i Q w s ↔ I w i s ∧ G w i l (.write u) ∧
      ∀ (a : Except Err Unit) w' s', w <+: w' → ⟨i, l, .write u, a⟩ ∈ w' → I w' i s' →
        C w' ⟨i, l, .write u, a⟩ s' → Q a w' s' :=
  Prog.ok_call (r := Req.write u)

theorem ok_lireDoc {id : String}
    {Q : Except Err (Option Document) → List (Exchange ι Λ Requete Req.Ans Err) → σ → Prop}
    (hs : I w i s) (hG : G w i l (.get c id)) (hfail : Q (.error .invalidArgument) w s)
    (h : ∀ (a : Except Err (Option Document)) w' s', w <+: w' → ⟨i, l, .get c id, a⟩ ∈ w' →
      I w' i s' → Q a w' s') : (lireDoc l c id).Ok I G C i Q w s := by
  unfold lireDoc
  by_cases hid : id = ""
  · rw [if_pos hid]
    exact Prog.ok_fail.mpr hfail
  · rw [if_neg hid]
    exact Prog.ok_call.mpr ⟨hs, hG, fun a w' s' hw hmem hI _ => h a w' s' hw hmem hI⟩

end Regles

section Issues

variable {G : Λ → Requete → Prop}

@[simp] theorem issues_lire (l : Λ) (c : Collection) (id : String) :
    (lire l c id : Action Λ σ _).Issues G ↔ G l (.get c id) :=
  Prog.issues_call l (Req.get c id)

@[simp] theorem issues_attendre (l : Λ) : (attendre l : Action Λ σ _).Issues G ↔ G l .pause :=
  Prog.issues_call l Req.pause

theorem issues_lireDoc {l : Λ} {c : Collection} {id : String} (h : G l (.get c id)) :
    (lireDoc l c id : Action Λ σ _).Issues G :=
  .ite (Prog.issues_fail _) ((issues_lire l c id).mpr h)

@[simp] theorem issues_chercher (l : Λ) (c : Collection) (fs : List (Lib.Filter Champ)) :
    (chercher l c fs : Action Λ σ _).Issues G ↔ G l (.query c ⟨fs, none, none⟩) :=
  Prog.issues_call l (Req.query c ⟨fs, none, none⟩)

@[simp] theorem issues_chercherPremier (l : Λ) (c : Collection) (fs : List (Lib.Filter Champ)) :
    (chercherPremier l c fs : Action Λ σ _).Issues G ↔ G l (.query c ⟨fs, none, some 1⟩) :=
  Prog.issues_call l (Req.query c ⟨fs, none, some 1⟩)

@[simp] theorem issues_ajouter (l : Λ) (c : Collection) (fs : Champs) :
    (ajouter l c fs : Action Λ σ _).Issues G ↔ G l (.add c fs) :=
  Prog.issues_call l (Req.add c fs)

@[simp] theorem issues_ecrire (l : Λ) (w : Ecriture) :
    (ecrire l w : Action Λ σ _).Issues G ↔ G l (.write w) :=
  Prog.issues_call l (Req.write w)

@[simp] theorem issues_creerCompte (l : Λ) (email password : String) :
    (creerCompte l email password : Action Λ σ _).Issues G ↔ G l (.createUser email password) :=
  Prog.issues_call l (Req.createUser email password)

@[simp] theorem issues_seConnecter (l : Λ) (email password : String) :
    (seConnecter l email password : Action Λ σ _).Issues G ↔ G l (.signIn email password) :=
  Prog.issues_call l (Req.signIn email password)

@[simp] theorem issues_seDeconnecter (l : Λ) :
    (seDeconnecter l : Action Λ σ _).Issues G ↔ G l .signOut :=
  Prog.issues_call l Req.signOut

@[simp] theorem issues_creerFichier (l : Λ) (name : String) :
    (creerFichier l name : Action Λ σ _).Issues G ↔ G l (.createFile name) :=
  Prog.issues_call l (Req.createFile name)

end Issues

end Requetes

/-- A dialog shown by `_afficherMessage`. -/
inductive DialogType where
  | success | warning | error
  deriving DecidableEq

structure Message where
  titre : String
  message : String
  type : DialogType
  deriving DecidableEq

/-! ## Rosters -/

/-- The ids in `classes[c].elevesIds`; none when the class does not exist. -/
def elevesDeClasse (b : Base) (c : String) : List String :=
  match b.doc .classes c with
  | some d => strsOf (d .elevesIds)
  | none => []

theorem elevesDeClasse_of_doc {b : Base} {c : String} {d : Document}
    (h : b.doc .classes c = some d) : elevesDeClasse b c = strsOf (d .elevesIds) := by
  simp [elevesDeClasse, h]

/-- A write elsewhere leaves the rosters as they are. -/
theorem elevesDeClasse_congr {b b' : Base} (h : ∀ c, b'.doc .classes c = b.doc .classes c) :
    elevesDeClasse b' = elevesDeClasse b := by
  funext c
  simp [elevesDeClasse, h]

theorem elevesDeClasse_putDoc (b : Base) (c c' : String) (d : Document) :
    elevesDeClasse (b.putDoc .classes c d) c' =
      if c' = c then strsOf (d .elevesIds) else elevesDeClasse b c' := by
  by_cases h : c' = c <;> simp [elevesDeClasse, Data.doc_putDoc, h]

theorem elevesDeClasse_eraseDoc (b : Base) (c c' : String) :
    elevesDeClasse (b.eraseDoc .classes c) c' = if c' = c then [] else elevesDeClasse b c' := by
  by_cases h : c' = c <;> simp [elevesDeClasse, Data.doc_eraseDoc, h]

end EduConnect
