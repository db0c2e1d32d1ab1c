import EduConnect.Admin.Inscriptions
import EduConnect.Enseignant.Notes
import EduConnect.Familles.Notifications
import EduConnect.Pannes

/-!
# A school in use

`Ecole S b`: the data `b` are what the screens have made of an empty store, with any requests lost.
Students and parents are created by `AjoutEleveVue` and `AjoutParentVue`, notifications by
`_enregistrerNotes` and `enregistrerAppel`.  `Regle` is what every document of such data satisfies.
-/

namespace EduConnect.Familles

open Lib Prog Enseignant Admin

/-! ## The rule of each collection -/

/-- A student and a parent have the id of their account, rosters list distinct students. -/
def Regle : Collection → String → Document → Prop
  | .eleves, id, d => d .utilisateurId = some (.str id)
  | .parents, id, d => d .utilisateurId = some (.str id)
  | .utilisateurs, _, d => Texte (d.get .photoFileId)
  | .classes, _, d => (strsOf (d .elevesIds)).Nodup
  | .notifications, _, d => Lisible d
  | _, _, _ => True

def EnRegle (b : Base) : Prop := ∀ c, Stored c (Regle c) b

/-- The request keeps every rule. -/
def Reglee (r : Requete) : Prop := ∀ c, r.Sends c (Regle c)

section Requetes

variable {S : Server} {b : Base} {c : Collection} {id : String} {fs : Champs} {r : Requete}

theorem reglee_of_lecture (hr : Lecture r) : Reglee r := by
  intro c
  cases r with
  | get | query | pause | currentUser => trivial
  | _ => exact hr.elim

theorem reglee_set (h : ∀ now, Regle c id (newDoc now fs)) : Reglee (.write (.set c id fs)) := by
  rintro c' rfl
  exact h

theorem reglee_update (h : ∀ now d, Regle c id d → Regle c id (writeFields now d fs)) :
    Reglee (.write (.update c id fs)) := by
  rintro c' rfl
  exact h

theorem reglee_add (h : ∀ id now, Regle c id (newDoc now fs)) : Reglee (.add c fs) := by
  rintro c' rfl
  exact h

theorem reglee_addAll {ds : List Champs} (h : ∀ fs ∈ ds, ∀ id now, Regle c id (newDoc now fs)) :
    Reglee (.addAll c ds) := by
  rintro c' rfl
  exact h

theorem EnRegle.putDoc (hb : EnRegle b) {d : Document} (hd : Regle c id d) :
    EnRegle (b.putDoc c id d) := by
  intro c'
  refine (hb c').putDoc ?_
  rintro rfl
  exact hd

theorem enRegle_vide : EnRegle baseVide := by
  intro c id d hd
  cases hd

variable {Λ σ α : Type}

/-- A program that only issues such requests keeps the rules, whatever is lost. -/
theorem preserves_of_reglee {p : Action Λ σ α} (hp : p.Issues fun _ r => Reglee r) :
    p.Preserves (faulty S.handler) fun x => EnRegle x.1 :=
  hp.preserves fun _ _ x hr hx c => (hx c).faulty (hr c) x.2

end Requetes

/-! ## Notifications -/

theorem texte_of_str {d : Document} {f : Champ} {s : String} (h : d f = some (.str s)) :
    Texte (d.get f) := by
  unfold Doc.get
  rw [h]
  exact ⟨some s, rfl⟩

section Envois

variable (now : ℤ) (p : NotesPage) (h : NotesPage.Horloge) (e : NotesPage.Destinataire)
  (matiereNom : Valeur) (note : Option (Double × String)) (message : String)

theorem lisible_notificationParent (famille : String × Document) :
    Lisible (newDoc now (p.notificationParent h e matiereNom note message famille)) where
  parent parentId hparent := by
    refine ⟨false, fun f hf => ?_, ⟨_, rfl⟩, rfl, rfl⟩
    simp only [List.mem_cons, List.not_mem_nil, or_false] at hf
    rcases hf with rfl | rfl | rfl | rfl | rfl | rfl | rfl | rfl
    case inr.inl => exact texte_of_str hparent
    all_goals exact ⟨_, rfl⟩
  eleve eleveId heleve := nomatch heleve

theorem lisible_notificationEleve :
    Lisible (newDoc now (NotesPage.notificationEleve h e note message)) := by
  rcases note with _ | note
  all_goals
    refine ⟨fun parentId hparent => (nomatch hparent), fun eleveId heleve => ?_⟩
    refine ⟨false, fun f hf => ?_, rfl, rfl⟩
    simp only [List.mem_cons, List.not_mem_nil, or_false] at hf
    rcases hf with rfl | rfl | rfl | rfl | rfl
    case inr.inl => exact texte_of_str heleve
    all_goals exact ⟨_, rfl⟩

theorem lisible_toMap (n : NotificationModele) : Lisible (newDoc now n.toMap) where
  parent parentId _ := by
    obtain ⟨id, eleveId, pid, expediteurId, role, etablissementId, titre, texte, lu, createdAt, type,
      metadata⟩ := n
    refine ⟨lu, fun f hf => ?_, ?_, rfl, rfl⟩
    · simp only [List.mem_cons, List.not_mem_nil, or_false] at hf
      rcases hf with rfl | rfl | rfl | rfl | rfl | rfl | rfl | rfl
      case inr.inr.inr.inr.inr.inr.inr => rcases type with _ | type <;> exact ⟨_, rfl⟩
      all_goals exact ⟨_, rfl⟩
    · rcases metadata with _ | m <;> exact ⟨_, rfl⟩
  eleve eleveId heleve := nomatch heleve

/-- A tap on the entry of a parent. -/
theorem Lisible.lu {d : Document} (hd : Lisible d) :
    Lisible (writeFields now d [(.lu, .put (.bool true))]) where
  parent parentId hparent := by
    obtain ⟨lu, hlue⟩ := hd.parent parentId hparent
    refine ⟨true, fun f hf => ?_, hlue.metadata, hlue.createdAt, rfl⟩
    have hne : f ≠ .lu := by
      rintro rfl
      simp at hf
    rw [Doc.get, writeFields_of_not_mem (by simpa using hne)]
    exact hlue.textes f hf
  eleve eleveId heleve := by
    obtain ⟨vu, hlue⟩ := hd.eleve eleveId heleve
    refine ⟨vu, fun f hf => ?_, hlue.date, hlue.vu⟩
    have hne : f ≠ .lu := by
      rintro rfl
      simp at hf
    rw [Doc.get, writeFields_of_not_mem (by simpa using hne)]
    exact hlue.textes f hf

/-- A tap on the entry of a student. -/
theorem Lisible.vu {d : Document} (hd : Lisible d) :
    Lisible (writeFields now d [(.vu, .put (.bool true))]) where
  parent parentId hparent := by
    obtain ⟨lu, hlue⟩ := hd.parent parentId hparent
    refine ⟨lu, fun f hf => ?_, hlue.metadata, hlue.createdAt, hlue.lu⟩
    have hne : f ≠ .vu := by
      rintro rfl
      simp at hf
    rw [Doc.get, writeFields_of_not_mem (by simpa using hne)]
    exact hlue.textes f hf
  eleve eleveId heleve := by
    obtain ⟨vu, hlue⟩ := hd.eleve eleveId heleve
    refine ⟨true, fun f hf => ?_, hlue.date, rfl⟩
    have hne : f ≠ .vu := by
      rintro rfl
      simp at hf
    rw [Doc.get, writeFields_of_not_mem (by simpa using hne)]
    exact hlue.textes f hf

end Envois

/-! ## The screens that create accounts -/

section Ajouts

variable {S : Server} {b : Base}

theorem nodup_strsOf_append {l : List Valeur} {u : String} (hl : (strsOf (some (.list l))).Nodup)
    (hu : ¬l.any (Value.isStr u) = true) : (strsOf (some (.list (l ++ [.str u])))).Nodup := by
  have hajout : strsOf (some (.list (l ++ [.str u])) : Option Valeur) =
      strsOf (some (.list l)) ++ [u] := by
    simp [strsOf]
  have hnew : u ∉ strsOf (some (.list l) : Option Valeur) := fun h => hu (mem_strsOf.mp h)
  rw [hajout]
  refine List.nodup_append.mpr ⟨hl, List.nodup_singleton u, fun x hx y hy => ?_⟩
  rw [List.mem_singleton.mp hy]
  rintro rfl
  exact hnew hx

/-- The student is added to a roster he is not on. -/
theorem preserves_ajouterALaClasse (c u : String) :
    (AjoutEleve.ajouterALaClasse c u).Preserves (faulty S.handler) fun x => EnRegle x.1 := by
  rintro p ⟨b, f⟩ hb
  refine ends_bind.mpr (ends_lire_pannes.mpr ⟨fun _ _ => hb, fun _ => ?_⟩)
  rcases hd : b.doc .classes c with _ | d
  · exact hb
  refine ends_bind.mpr ((ends_ofExcept _).mpr ?_)
  rcases hl : (d.get .elevesIds).orList with e | l
  · exact hb
  show Prog.Ends _ _ (if _ then _ else _) _ _
  by_cases hu : l.any (Value.isStr u) = true
  · rw [if_pos hu]
    exact hb
  · rw [if_neg hu]
    refine (ends_update_pannes hd).mpr ⟨fun _ _ => hb, fun _ => hb.putDoc ?_⟩
    refine nodup_strsOf_append ?_ hu
    have hroster : (strsOf (d .elevesIds)).Nodup := hb .classes c d hd
    have hsame : strsOf (some (.list l) : Option Valeur) = strsOf (d .elevesIds) := by
      unfold strsOf
      rw [arrayOf_of_orList hl, arrayOf_list]
    rwa [hsame]

theorem preserves_documents (e : EcranAjout) (u r : String) (file : Option String) :
    (e.flux.documents u r file).Preserves (faulty S.handler) fun x => EnRegle x.1 := by
  have hset : ∀ {σ : Type} {c : Collection} {fs : Champs},
      (∀ now, Regle c u (newDoc now fs)) →
      (ecrire .autre (.set c u fs) : Action Etape σ Unit).Issues fun _ r => Reglee r :=
    fun hfs => (issues_ecrire _ _).mpr (reglee_set hfs)
  cases e with
  | eleve =>
    refine .bind (preserves_of_reglee fun _ => trivial) fun p => ?_
    refine .bind (preserves_of_reglee (hset fun _ => ⟨_, rfl⟩)) fun _ => ?_
    refine .bind (preserves_of_reglee fun _ => trivial) fun p => ?_
    refine .bind (preserves_of_reglee (hset fun _ => rfl)) fun _ => ?_
    refine .bind (preserves_of_reglee fun _ => trivial) fun p => ?_
    cases p.classeIdSelectionne with
    | none => exact preserves_of_reglee ((issues_attendre _).mpr fun _ => trivial)
    | some c => exact preserves_ajouterALaClasse c u
  | parent =>
    refine preserves_of_reglee (.bind (fun _ => trivial) fun p => ?_)
    exact .bind (hset fun _ => ⟨_, rfl⟩) fun _ => hset fun _ => rfl
  | enseignant =>
    refine preserves_of_reglee (.bind (fun _ => trivial) fun p => ?_)
    refine .bind (hset fun _ => ⟨_, rfl⟩) fun _ => .bind ?_ fun _ => trivial
    exact (issues_ajouter _ _ _).mpr (reglee_add fun _ _ => trivial)
  | administrateur =>
    refine preserves_of_reglee (.bind (fun _ => trivial) fun p => .bind (issues_ofExcept _) fun _ => ?_)
    refine .bind (hset fun _ => ⟨_, rfl⟩) fun _ => ?_
    refine .bind ((issues_chercherPremier _ _ _).mpr (reglee_of_lecture trivial)) fun docs => ?_
    refine .ite trivial (.bind ?_ fun utilisateur => ?_)
    · refine .bind ((issues_lire _ _ _).mpr (reglee_of_lecture trivial)) fun doc => ?_
      rcases (doc : Option Document) with _ | data
      · trivial
      · exact .bind (issues_ofExcept _) fun _ => trivial
    · rcases (utilisateur : Option Donnees.UtilisateurModele) with _ | m
      · trivial
      · exact hset fun _ => trivial

theorem enRegle_execution (hb : EnRegle b) (e : EcranAjout) (p : e.Page) (f : List (Option Err)) :
    EnRegle (EcranAjout.execution S e p b f).2 := by
  have hmuette : ∀ (r : Requete) (x : Base × List (Option Err)), r.Silent → EnRegle x.1 →
      EnRegle (faulty S.handler r x).2.1 :=
    fun r x hr hx c => (hx c).faulty (hr c).sends x.2
  exact EcranAjout.preserves_enregistrer hmuette e (preserves_documents e) p (b, f) hb

end Ajouts

/-! ## The screens that write and read notifications -/

section Avis

theorem envois_reglee : NotesPage.Envois fun _ r => Reglee r where
  lire _ _ _ hr := reglee_of_lecture hr
  note _ _ _ _ _ _ := reglee_add fun _ _ => trivial
  notesIds _ noteId := reglee_update fun now d hd => by
    have hsame : writeFields now d [(.notesIds, .arrayUnion [noteId])] .utilisateurId =
        d .utilisateurId := writeFields_of_not_mem (by simp)
    exact hsame.trans hd
  parent p h e m note message famille :=
    reglee_add fun _ now => lisible_notificationParent now p h e m note message famille
  notification h e note message :=
    reglee_add fun _ now => lisible_notificationEleve now h e note message

theorem issues_enregistrerAppel (h : AppelPage.Horloge) :
    (AppelPage.enregistrerAppel h).Issues fun _ r => Reglee r := by
  refine .bind (fun _ => trivial) fun p => ?_
  split
  · refine .bind trivial fun _ => .bind ((issues_ajouter _ _ _).mpr (reglee_add fun _ _ => trivial))
      fun _ => .bind (.ite trivial ?_) fun _ => trivial
    refine .bind ((issues_chercher _ _ _).mpr (reglee_of_lecture trivial)) fun familles => ?_
    refine .bind (fun _ => trivial) fun p => .bind (issues_ofExcept _) fun notifs => ?_
    refine .catching ((issues_call _ _).mpr (reglee_addAll fun fs hfs _ now => ?_)) fun _ => trivial
    obtain ⟨n, -, rfl⟩ := List.mem_map.mp hfs
    exact lisible_toMap now n
  · trivial

theorem issues_onTap_parent (notif : NotificationModele) :
    (NotificationsParentPage.onTap notif).Issues fun _ r => Reglee r := by
  refine .ite trivial (.bind ((issues_ecrire _ _).mpr ?_) fun _ => trivial)
  exact reglee_update fun now d hd => Lisible.lu now hd

theorem issues_onTap_eleve (notif : NotificationModeleEleve) :
    (ListeNotificationsElevePage.onTap notif).Issues fun _ r => Reglee r := by
  refine .ite trivial (.bind ((issues_ecrire _ _).mpr ?_) fun _ => trivial)
  exact reglee_update fun now d hd => Lisible.vu now hd

end Avis

/-! ## The school -/

/-- What the other screens change: they make no student, no parent and no notification. -/
structure Ailleurs (b b' : Base) : Prop where
  fiches : ∀ c ∈ [Collection.eleves, .parents], ∀ id d', b'.doc c id = some d' →
    ∃ d, b.doc c id = some d ∧ d' .utilisateurId = d .utilisateurId
  photos : ∀ id d', b'.doc .utilisateurs id = some d' →
    b.doc .utilisateurs id = some d' ∨ Texte (d'.get .photoFileId)
  rosters : ∀ c, (elevesDeClasse b c).Nodup → (elevesDeClasse b' c).Nodup
  notifications : b'.docs .notifications = b.docs .notifications

/-- A document of another screen. -/
theorem Ailleurs.putDoc (b : Base) {c : Collection} {id : String} {d : Document}
    (hc : c ∉ [Collection.eleves, .parents, .utilisateurs, .notifications])
    (hroster : c = .classes → (strsOf (d .elevesIds)).Nodup) : Ailleurs b (b.putDoc c id d) where
  fiches c' hc' id' d' hd' := by
    have hne : c' ≠ c := by
      rintro rfl
      simp only [List.mem_cons, List.not_mem_nil, or_false] at hc hc'
      exact hc (hc'.elim Or.inl fun h => Or.inr (Or.inl h))
    rw [Data.doc_putDoc, if_neg fun h => hne h.1] at hd'
    exact ⟨d', hd', rfl⟩
  photos id' d' hd' := by
    have hne : Collection.utilisateurs ≠ c := by
      rintro rfl
      simp at hc
    rw [Data.doc_putDoc, if_neg fun h => hne h.1] at hd'
    exact Or.inl hd'
  rosters c' hc' := by
    by_cases hcl : c = .classes
    · subst hcl
      rw [elevesDeClasse_putDoc]
      split_ifs
      · exact hroster rfl
      · exact hc'
    · have hsame : elevesDeClasse (b.putDoc c id d) = elevesDeClasse b := by
        refine elevesDeClasse_congr fun k => ?_
        rw [Data.doc_putDoc, if_neg fun h => hcl h.1.symm]
      rwa [hsame]
  notifications := Data.docs_putDoc_ne b (by
    rintro rfl
    simp at hc) id d

/-- The data that a run of the page on the data `b` leaves, with the faults `f`. -/
def apres {Λ σ : Type} (S : Server) (prog : Action Λ σ Unit) (p : σ) (b : Base)
    (f : List (Option Err)) : Base :=
  (prog.exec (faulty S.handler) p (b, f)).2.2.1

/-- The data of a school in use. -/
inductive Ecole (S : Server) : Base → Prop
  | vide : Ecole S baseVide
  | ajout {b : Base} (hb : Ecole S b) (e : EcranAjout) (p : e.Page) (f : List (Option Err)) :
    Ecole S (e.execution S p b f).2
  | notes {b : Base} (hb : Ecole S b) (h : NotesPage.Horloge) (p : NotesPage)
    (f : List (Option Err)) : Ecole S (apres S (NotesPage.enregistrerNotes h) p b f)
  | appel {b : Base} (hb : Ecole S b) (h : AppelPage.Horloge) (p : AppelPage)
    (f : List (Option Err)) : Ecole S (apres S (AppelPage.enregistrerAppel h) p b f)
  | parent {b : Base} (hb : Ecole S b) (notif : NotificationModele) (p : NotificationsParentPage)
    (f : List (Option Err)) : Ecole S (apres S (NotificationsParentPage.onTap notif) p b f)
  | eleve {b : Base} (hb : Ecole S b) (notif : NotificationModeleEleve)
    (p : ListeNotificationsElevePage) (f : List (Option Err)) :
    Ecole S (apres S (ListeNotificationsElevePage.onTap notif) p b f)
  | ailleurs {b b' : Base} (hb : Ecole S b) (h : Ailleurs b b') : Ecole S b'

theorem EnRegle.nodup_eleves {b : Base} (hb : EnRegle b) (c : String) :
    (elevesDeClasse b c).Nodup := by
  rcases hd : b.doc .classes c with _ | d
  · simp [elevesDeClasse, hd]
  · rw [elevesDeClasse_of_doc hd]
    exact hb .classes c d hd

theorem EnRegle.ailleurs {b b' : Base} (hb : EnRegle b) (h : Ailleurs b b') : EnRegle b' := by
  have hfiche : ∀ c ∈ [Collection.eleves, .parents],
      (∀ id d, b.doc c id = some d → d .utilisateurId = some (.str id)) →
      ∀ id d', b'.doc c id = some d' → d' .utilisateurId = some (.str id) := by
    intro c hc hregle id d' hd'
    obtain ⟨d, hd, hsame⟩ := h.fiches c hc id d' hd'
    exact hsame.trans (hregle id d hd)
  intro c
  cases c
  case eleves => exact hfiche .eleves (by simp) (hb .eleves)
  case parents => exact hfiche .parents (by simp) (hb .parents)
  case notifications => exact (hb .notifications).congr h.notifications
  case utilisateurs =>
    intro id d' hd'
    exact (h.photos id d' hd').elim (hb .utilisateurs id d') fun ht => ht
  case classes =>
    intro id d' hd'
    have hafter := h.rosters id (hb.nodup_eleves id)
    rwa [elevesDeClasse_of_doc hd'] at hafter
  all_goals exact fun _ _ _ => trivial

/-- **The data of a school keep their rules.** -/
theorem Ecole.enRegle {S : Server} {b : Base} (hb : Ecole S b) : EnRegle b := by
  induction hb with
  | vide => exact enRegle_vide
  | ajout hb e p f ih => exact enRegle_execution ih e p f
  | @notes b hb h p f ih =>
    exact preserves_of_reglee (NotesPage.issues_enregistrerNotes envois_reglee h) p (b, f) ih
  | @appel b hb h p f ih => exact preserves_of_reglee (issues_enregistrerAppel h) p (b, f) ih
  | @parent b hb notif p f ih => exact preserves_of_reglee (issues_onTap_parent notif) p (b, f) ih
  | @eleve b hb notif p f ih => exact preserves_of_reglee (issues_onTap_eleve notif) p (b, f) ih
  | ailleurs hb h ih => exact ih.ailleurs h

end EduConnect.Familles
