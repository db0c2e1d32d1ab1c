import EduConnect.Admin.ParEtablissement
import EduConnect.Annonces.Pages
import EduConnect.Codecs
import EduConnect.Enseignant.Notes
import EduConnect.Lib.Registers
import EduConnect.Lib.Typing

/-!
# The schema of the store

Firestore has no schema, and the models read each field as a value of one kind.  `schema` is what
they expect: the kind of a field is the same in every collection, and a few fields have to be there.
Documents of that schema are read by the models of their collections, but for `NoteModele`, which
needs a subject that no page stores, and `NotificationModele`, which needs a date of creation that
the notifications of students lack.  `politique` says which documents the screens and the
repositories write over, edit and delete.
-/

namespace EduConnect

open Lib Prog

/-! ## The schema -/

/-- The kind of a field. -/
@[simp] def genre : Champ → Kind
  | .lu | .statut | .vu => .bool
  | .coefficient | .note | .valeur => .num
  | .createdAt | .date | .dateCreation | .dateEnvoi | .dateRemise => .stamp
  | .eleveIds | .eleves | .elevesAbsents | .elevesIds | .elevesPresents | .enseignantsIds | .luePar
  | .lusPar | .matieresIds | .notesIds | .parentIds | .participants | .utilisateursConcernees
  | .utilisateursConcernes => .strs
  | .etablissement | .matiere | .metadata => .map
  | _ => .str

/-- A homework keeps its readers in the field that says of a message whether it is read. -/
@[simp] def genreDans : Collection → Champ → Kind
  | .devoirs, .lu => .strs
  | _, f => genre f

/-- The fields that a model reads without a default, and `participants`.  `matiere` of `notes` and
`createdAt` of `notifications` are not among them: `NoteModele` and `NotificationModele` cast them,
and stored documents lack them. -/
@[simp] def requis : Collection → List Champ
  | .administrateurs => [.utilisateurId]
  | .appels => [.date, .createdAt]
  | .devoirs => [.dateRemise, .dateCreation]
  | .messages => [.dateEnvoi, .participants]
  | .roles => [.nom, .description]
  | _ => []

def schema (c : Collection) (f : Champ) : Slot := ⟨genreDans c f, decide (f ∈ requis c)⟩

/-! ## The policy -/

/-- Collections where documents are written at chosen ids. -/
@[simp] def pose : Collection → Bool
  | .administrateurs | .annonces | .authentification | .classes | .eleves | .matieres | .parents
  | .superadministrateurs | .utilisateurs => true
  | _ => false

/-- Collections whose documents are deleted; no screen deletes a link of `famille`, only
`DepotFamille.supprimerRelation` does. -/
@[simp] def supprime : Collection → Bool
  | .administrateurs | .annonces | .classes | .eleves | .enseignants | .etablissements | .famille
  | .matieres | .messages | .parents | .roles | .utilisateurs => true
  | _ => false

/-- The fields that updates write, where these are not all. -/
@[simp] def modifies : Collection → Option (List Champ)
  | .annonces => some [.luePar]
  | .devoirs => some [.lu, .lusPar]
  | .eleves => some [.nom, .prenom, .email, .numeroTelephone, .adresse, .classe, .classeId, .notesIds]
  | .messages => some [.contenu, .lu, .participants]
  | .notifications => some [.lu, .vu]
  | .classes | .etablissements | .matieres | .roles | .utilisateurs => none
  | _ => some []

/-- The fields that hold the id of their document: the records of students, parents and
administrators are kept under the id of their user. -/
@[simp] def nommes : Collection → List Champ
  | .administrateurs | .eleves | .parents => [.utilisateurId]
  | _ => []

/-- A grade with the mention of its value, and what its type has. -/
structure NoteSaisie (d : Document) : Prop where
  valeur : ∃ x, d .valeur = some (.num x) ∧ d .mention = some (.str (Enseignant.getMention x))
  type : (d .type = some (.str "Exercice") ∧ ∃ s, d .description = some (.str s)) ∨
    (d .type = some (.str "Examen") ∧ ∃ s, d .sequence = some (.str s))
  eleveId : ∃ e, d .eleveId = some (.str e)
  matiereId : ∃ m, d .matiereId = some (.str m)
  date : ∃ t, d .date = some (.stamp t)

/-- A roll call with each student on one side. -/
def AppelSaisi (d : Document) : Prop :=
  ∃ presents absents, d .elevesPresents = some (.strs presents) ∧
    d .elevesAbsents = some (.strs absents) ∧ ∀ e ∈ absents, e ∉ presents

/-- What the documents that are added satisfy. -/
@[simp] def saisie : Collection → Document → Prop
  | .notes, d => NoteSaisie d
  | .appels, d => AppelSaisi d
  | _, _ => True

/-- What the screens do to the documents of each collection. -/
@[simps] def politique : Policy Collection Champ where
  sets := pose
  deletes := supprime
  edits c f := (modifies c).all fun l => decide (f ∈ l)
  names c f := decide (f ∈ nommes c)
  enters := saisie

/-- No update writes a grade or a roll call. -/
theorem lasts (c : Collection) : politique.Lasts c := by
  have hrien : modifies c = some [] → politique.Lasts c := by
    intro hc d d' hd h
    have hedits : ∀ f, politique.edits c f = false := by
      intro f
      show (modifies c).all _ = false
      rw [hc]
      rfl
    have hsame : d' = d := funext fun f => hd f (hedits f)
    exact hsame ▸ h
  cases c with
  | notes => exact hrien rfl
  | appels => exact hrien rfl
  | _ => exact fun d d' _ _ => trivial

/-- What programs of the application may send, and what they then receive. -/
abbrev contrat : Contract Requete Req.Ans Err := (typing schema).restrict (Req.Follows politique)

/-- Every stored document is as the schema says. -/
abbrev BienType (b : Base) : Prop := WellTyped schema b

theorem bienType_baseVide : BienType baseVide := by
  intro c id d hd
  cases hd

/-- The ids of the registers were given by the server, their documents are as they are added, and the
records that are kept under the id of their user hold it. -/
structure EnOrdre (b : Base) : Prop where
  registre : ∀ c, pose c = false → Registered c b
  saisie : ∀ c, pose c = false → Stored c (fun _ d => saisie c d) b
  nom : ∀ c, ∀ f ∈ nommes c, Stored c (fun id d => d f = some (.str id)) b

theorem enOrdre_baseVide : EnOrdre baseVide where
  registre c hc id d hd := by cases hd
  saisie c hc id d hd := by cases hd
  nom c f hf id d hd := by cases hd

/-- No update writes a field that holds the id. -/
theorem edits_of_nommes {c : Collection} {f : Champ} (h : f ∈ nommes c) :
    politique.edits c f = false := by
  cases c <;> simp at h <;> subst h <;> rfl

theorem EnOrdre.handler {S : Server} {b : Base} (hb : EnOrdre b) {r : Requete}
    (hr : r.Follows politique) : EnOrdre (S.handler r b).2 where
  registre c hc := (evolves_handler (π := politique) hc (hb.registre c hc) hr).2
  saisie c hc := (hb.saisie c hc).handler (hr.sends_enters hc (lasts c))
  nom c f hf := (hb.nom c f hf).handler (hr.sends_id (decide_eq_true hf) (edits_of_nommes hf))

/-- **The server honours the contract**, and the store stays in order. -/
theorem contrat_honours {S : Server} :
    contrat.Honours S.handler fun b => BienType b ∧ EnOrdre b :=
  typing_honours.restrict fun _ _ hr hb => hb.handler hr

/-! ## Fields sent -/

/-- The fields may be stored in the collection. -/
def Conformes (c : Collection) (fs : Champs) : Prop := FitsAll (schema c) fs

/-- They may be a whole document of it. -/
def Complets (c : Collection) (fs : Champs) : Prop :=
  Conformes c fs ∧ ∀ f ∈ requis c, f ∈ fs.map Prod.fst

/-- They may be an update of it. -/
def Modifiables (c : Collection) (fs : Champs) : Prop := Conformes c fs ∧ Edits politique c fs

section Envois

variable {c : Collection} {fs gs : Champs} {f : Champ}

theorem complets_iff : Complets c fs ↔ FitsAll (schema c) fs ∧ Complete (schema c) fs :=
  and_congr_right fun _ => (forall_congr' fun _ => imp_congr_left decide_eq_true_iff).symm

@[simp] theorem conformes_nil : Conformes c [] := fitsAll_nil

@[simp] theorem conformes_cons {x : Champ × FieldOp Champ} :
    Conformes c (x :: fs) ↔ x.2.Fits (schema c x.1) ∧ Conformes c fs := fitsAll_cons

@[simp] theorem conformes_append :
    Conformes c (fs ++ gs) ↔ Conformes c fs ∧ Conformes c gs := fitsAll_append

@[simp] theorem modifiables_nil : Modifiables c [] := ⟨conformes_nil, edits_nil⟩

@[simp] theorem modifiables_cons {x : Champ × FieldOp Champ} : Modifiables c (x :: fs) ↔
    (x.2.Fits (schema c x.1) ∧ politique.edits c x.1 = true) ∧ Modifiables c fs :=
  (and_congr conformes_cons edits_cons).trans and_and_and_comm

/-- No field of the collection holds the id of its document. -/
theorem names_of_nommes (hc : nommes c = []) (f : Champ) : politique.names c f = false := by
  show decide (f ∈ nommes c) = false
  rw [hc]
  rfl

/-- They may be added to the collection. -/
def Saisissables (c : Collection) (fs : Champs) : Prop :=
  nommes c = [] ∧ ∀ now, saisie c (newDoc now fs)

theorem Saisissables.enters (h : Saisissables c fs) : Enters politique c fs :=
  ⟨names_of_nommes h.1, h.2⟩

@[simp] theorem schema_kind : (schema c f).kind = genreDans c f := rfl

@[simp] theorem schema_required : (schema c f).required = decide (f ∈ requis c) := rfl

@[simp] theorem texte_fst {s : String} : (texte f s).1 = f := rfl

@[simp] theorem textes_fst {l : List String} : (textes f l).1 = f := rfl

@[simp] theorem fits_texte {s : String} : (texte f s).2.Fits (schema c f) ↔ genreDans c f = .str :=
  FieldOp.fits_str

@[simp] theorem fits_textes {l : List String} : (textes f l).2.Fits (schema c f) ↔
    genreDans c f = .strs := FieldOp.fits_strs

theorem fits_valeurOption {o : Option Valeur} (hf : f ∉ requis c)
    (ho : ∀ v, o = some v → (FieldOp.put v).Fits (schema c f)) :
    (FieldOp.put (valeurOption o)).Fits (schema c f) := by
  rcases o with _ | v
  · exact FieldOp.fits_null.mpr (decide_eq_false hf)
  · exact ho v rfl

/-- A nullable text. -/
theorem fits_texteOption {o : Option String} (hf : f ∉ requis c) (hg : genreDans c f = .str) :
    (FieldOp.put (valeurOption (o.map Value.str))).Fits (schema c f) := by
  refine fits_valeurOption hf fun v hv => ?_
  obtain ⟨s, -, rfl⟩ := Option.map_eq_some_iff.mp hv
  exact FieldOp.fits_str.mpr hg

/-- A nullable map. -/
theorem fits_mapOption {o : Option Document} (hf : f ∉ requis c) (hg : genreDans c f = .map) :
    (FieldOp.put (valeurOption (o.map Value.map))).Fits (schema c f) := by
  refine fits_valeurOption hf fun v hv => ?_
  obtain ⟨s, -, rfl⟩ := Option.map_eq_some_iff.mp hv
  exact FieldOp.fits_map.mpr hg

end Envois

/-! ## Requests under the contract -/

section Regles

variable {Λ σ : Type} {l : Λ} {c : Collection} {id : String} {fs : Champs} {E : Err → Prop}

@[simp] theorem under_lire {Q : Option Document → Prop} :
    (lire l c id : Action Λ σ _).Under contrat Q E ↔
      (∀ doc, FoundTyped (schema c) doc → Q doc) ∧ ∀ e, e.OfServer → E e :=
  Prog.under_call.trans (and_iff_right ⟨trivial, trivial⟩)

@[simp] theorem under_lireDoc {Q : Option Document → Prop} (h : (∀ doc,
    FoundTyped (schema c) doc → Q doc) ∧ ∀ e, e.OfServer → E e) :
    (lireDoc l c id : Action Λ σ _).Under contrat Q E :=
  Prog.Under.ite (h.2 _ trivial) (under_lire.mpr h)

@[simp] theorem under_query {q : Query Champ} {Q : List (String × Document) → Prop} :
    (Prog.call l (Req.query c q) : Action Λ σ _).Under contrat Q E ↔
      (∀ rows, RowsTyped (schema c) rows → Q rows) ∧ ∀ e, e.OfServer → E e :=
  Prog.under_call.trans (and_iff_right ⟨trivial, trivial⟩)

@[simp] theorem under_chercher {gs : List (Lib.Filter Champ)}
    {Q : List (String × Document) → Prop} :
    (chercher l c gs : Action Λ σ _).Under contrat Q E ↔
      (∀ rows, RowsTyped (schema c) rows → Q rows) ∧ ∀ e, e.OfServer → E e :=
  under_query

/-! Requests whose answers and failures do not matter. -/

theorem within_lire : (lire l c id : Action Λ σ _).Within contrat := within_call ⟨trivial, trivial⟩

theorem within_lireDoc : (lireDoc l c id : Action Λ σ _).Within contrat := .ite trivial within_lire

theorem within_query {q : Query Champ} :
    (Prog.call l (Req.query c q) : Action Λ σ _).Within contrat := within_call ⟨trivial, trivial⟩

theorem within_ajouter (h : Complets c fs) (hc : Saisissables c fs) :
    (ajouter l c fs : Action Λ σ _).Within contrat :=
  within_call ⟨complets_iff.mp h, hc.enters⟩

theorem within_addAll {ds : List Champs} (h : ∀ fs ∈ ds, Complets c fs)
    (hc : ∀ fs ∈ ds, Saisissables c fs) :
    (Prog.call l (Req.addAll c ds) : Action Λ σ _).Within contrat :=
  within_call ⟨fun fs hfs => complets_iff.mp (h fs hfs), fun fs hfs => (hc fs hfs).enters⟩

/-- A record under the id of its user. -/
theorem within_set_nomme (h : Complets c fs) (hc : pose c = true)
    (hn : ∀ f ∈ nommes c, ∀ now, newDoc now fs f = some (.str id)) :
    (ecrire l (.set c id fs) : Action Λ σ _).Within contrat :=
  within_call ⟨complets_iff.mp h, hc, fun f hf => hn f (of_decide_eq_true hf)⟩

theorem within_set (h : Complets c fs) (hc : pose c = true) (hn : nommes c = []) :
    (ecrire l (.set c id fs) : Action Λ σ _).Within contrat := by
  refine within_set_nomme h hc fun f hf => ?_
  rw [hn] at hf
  cases hf

theorem within_update (h : Modifiables c fs) :
    (ecrire l (.update c id fs) : Action Λ σ _).Within contrat := within_call h

theorem within_delete (hc : supprime c = true) :
    (ecrire l (.delete c id) : Action Λ σ _).Within contrat := within_call ⟨trivial, hc⟩

/-- A batch of updates. -/
theorem within_commit {ws : List Ecriture}
    (h : ∀ w ∈ ws, ∃ c id fs, w = .update c id fs ∧ Modifiables c fs) :
    (Prog.call l (Req.commit ws) : Action Λ σ _).Within contrat := by
  refine within_call ⟨fun w hw => ?_, fun w hw => ?_⟩ <;> obtain ⟨c, id, fs, rfl, hfs⟩ := h w hw
  · exact hfs.1
  · exact hfs.2

/-- A program that only reads. -/
theorem within_of_lecture {α : Type} {p : Action Λ σ α} (hp : p.Issues fun _ r => Lecture r) :
    p.Within contrat := by
  refine Issues.within (hp.mono fun _ r hr => ?_)
  cases r <;> first | exact hr.elim | exact ⟨trivial, trivial⟩

end Regles

/-! ## Reading the models -/

section Modeles

variable {d : Document}

/-- Two readings in a row. -/
theorem exists_bind {α β : Type} {x : Except Err α} {f : α → Except Err β}
    (hx : ∃ a, x = .ok a) (hf : ∀ a, ∃ b, f a = .ok b) : ∃ b, x >>= f = .ok b := by
  obtain ⟨a, ha⟩ := hx
  obtain ⟨b, hb⟩ := hf a
  exact ⟨b, bind_eq_ok_iff.mpr ⟨a, ha, hb⟩⟩

theorem utilisateur_lisible (hd : d.Typed (schema .utilisateurs)) (id : String) :
    ∃ m, Donnees.UtilisateurModele.fromMap d id = .ok m :=
  exists_bind ((hd .nom).orStr "") fun _ => exists_bind ((hd .prenom).orStr "") fun _ =>
  exists_bind ((hd .email).orStr "") fun _ => exists_bind ((hd .numeroTelephone).orStr "") fun _ =>
  exists_bind ((hd .adresse).orStr "") fun _ => exists_bind ((hd .motDePasse).orStr "") fun _ =>
  exists_bind ((hd .statut).orBool true) fun _ => exists_bind ((hd .roleId).orStr "") fun _ =>
  exists_bind ((hd .etablissementId).orStr "") fun _ => exists_bind (hd .photo).optStr fun _ =>
  ⟨_, rfl⟩

theorem eleve_lisible (hd : d.Typed (schema .eleves)) (id : String) :
    ∃ m, Donnees.EleveModele.fromMap d id = .ok m :=
  exists_bind ((hd .utilisateurId).orStr "") fun _ => exists_bind ((hd .classeId).orStr "") fun _ =>
  exists_bind (hd .notesIds).orStrs fun _ => ⟨_, rfl⟩

end Modeles

end EduConnect
