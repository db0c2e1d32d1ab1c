import EduConnect.Enseignant.Echeances
import EduConnect.Enseignant.Notes
import EduConnect.Typage

/-!
# The screens of a teacher, under the contract
-/

namespace EduConnect.Enseignant

open Lib Prog

theorem within_of_lit {Λ σ α : Type} {l : Λ} {p : Action Λ σ α} (hp : p.Issues (Choix.Lit l)) :
    p.Within contrat := within_of_lecture (hp.mono fun _ _ h => h.2)

/-! ## The roll call -/

theorem ajouterNotificationsParLot_contrat {Λ σ : Type} (l : Λ) (ns : List NotificationModele) :
    (ajouterNotificationsParLot l ns : Action Λ σ Unit).Within contrat := by
  refine .catching (within_addAll (fun fs hfs => ⟨?_, List.forall_mem_nil _⟩)
    fun _ _ => ⟨rfl, fun _ => trivial⟩) fun _ => trivial
  obtain ⟨n, -, rfl⟩ := List.mem_map.mp hfs
  simp [NotificationModele.toMap]
  exact ⟨fits_texteOption List.not_mem_nil rfl, fits_mapOption List.not_mem_nil rfl⟩

namespace AppelPage

theorem enregistrerAppel_contrat (h : Horloge) : (enregistrerAppel h).Within contrat := by
  refine .bind (fun _ => trivial) fun p => ?_
  split
  · refine .bind trivial fun _ => .bind (within_ajouter ⟨?_, ?_⟩ ⟨rfl, fun now => ?_⟩) fun _ =>
      .bind (.ite trivial ?_) fun _ => trivial
    · simp [appel]
    · simp [appel, texte, textes]
    · exact ⟨p.presents, p.absents, rfl, rfl, fun e he => of_decide_eq_true (List.mem_filter.mp he).2⟩
    · refine .bind within_query fun familles => .bind (fun _ => trivial) fun p => ?_
      exact .bind (within_ofExcept _) fun ns => ajouterNotificationsParLot_contrat _ ns
  · trivial

theorem on_contrat {p : AppelPage} {ev : Evenement} {q : Action EtapeAppel AppelPage Unit}
    (h : p.on ev = some q) : q.Within contrat := by
  have hmatieres : ∀ c, (chargerMatieres c).Within contrat := fun c =>
    within_of_lit (Choix.issues_chargerMatieres _ _)
  have heleves : ∀ c, (chargerEleves c).Within contrat := fun c =>
    within_of_lecture ((issues_chargerEleves c).mono fun _ _ hr => hr.2)
  cases ev with
  | ouvrir =>
    obtain rfl := Option.some.inj h
    refine within_of_lit (Choix.issues_initData _ _ ?_ fun _ => ?_) <;> trivial
  | classe n =>
    obtain ⟨-, h⟩ := Option.ite_none_left_eq_some.mp h
    obtain ⟨c, -, rfl⟩ := Option.map_eq_some_iff.mp h
    exact .bind trivial fun _ => hmatieres c.classeId
  | matiere n =>
    obtain ⟨-, h⟩ := Option.ite_none_left_eq_some.mp h
    obtain ⟨c, -, h⟩ := Option.bind_eq_some_iff.mp h
    obtain ⟨m, -, rfl⟩ := Option.map_eq_some_iff.mp h
    exact .bind trivial fun _ => heleves c
  | cocher n =>
    obtain ⟨-, h⟩ := Option.ite_none_left_eq_some.mp h
    obtain ⟨e, -, rfl⟩ := Option.map_eq_some_iff.mp h
    trivial
  | toutCocher =>
    obtain ⟨-, h⟩ := Option.ite_none_left_eq_some.mp h
    obtain rfl := Option.some.inj h
    trivial
  | toutDecocher =>
    obtain ⟨-, h⟩ := Option.ite_none_left_eq_some.mp h
    obtain rfl := Option.some.inj h
    trivial
  | enregistrer t =>
    obtain ⟨-, h⟩ := Option.ite_none_left_eq_some.mp h
    obtain rfl := Option.some.inj h
    exact enregistrerAppel_contrat t

end AppelPage

/-! ## The grades -/

namespace NotesPage

theorem complements_conformes (c : Collection) (p : NotesPage) : Conformes c p.complements := by
  unfold complements
  split <;> simp

theorem note_complets (p : NotesPage) (h : Horloge) (e : String) (x : Double) (t : TypeNote)
    (m : String) : Complets .notes (p.note h e x t m) := by
  refine ⟨?_, List.forall_mem_nil _⟩
  simp [note]
  exact complements_conformes _ p

/-- The family was read: its parent is a typed field. -/
theorem notificationParent_complets {famille : String × Document}
    (hf : famille.2.Typed (schema .famille)) (p : NotesPage) (h : Horloge) (e : Destinataire)
    (m : Valeur) (note : Option (Double × String)) (message : String) :
    Complets .notifications (p.notificationParent h e m note message famille) := by
  refine ⟨?_, List.forall_mem_nil _⟩
  simp [notificationParent]
  exact FieldOp.fits_get (hf .parentId)

/-- So was the student. -/
theorem notificationEleve_complets {d : Document} (hd : d.Typed (schema .eleves)) (h : Horloge)
    (e prenom nom : String) (note : Option (Double × String)) (message : String) :
    Complets .notifications
      (notificationEleve h ⟨e, d.get .utilisateurId, prenom, nom⟩ note message) := by
  refine ⟨?_, List.forall_mem_nil _⟩
  have hid : Conformes .notifications (idNote note) := by
    rcases note with _ | n <;> simp [idNote]
  simp [notificationEleve, hid]
  exact FieldOp.fits_get (hd .utilisateurId)

theorem notifierFamilles_contrat (h : Horloge) (e : Destinataire) (m : Valeur)
    (note : Option (Double × String)) (message : String) {familles : List (String × Document)}
    (hf : RowsTyped (schema .famille) familles) :
    (notifierFamilles h e m note message familles).Within contrat := by
  induction familles with
  | nil => trivial
  | cons famille familles ih =>
    refine .bind (fun _ => trivial) fun p =>
      .bind (within_ajouter ?_ ⟨rfl, fun _ => trivial⟩) fun _ => ih ?_
    · exact notificationParent_complets (hf _ _ List.mem_cons_self) p h e m note message
    · exact fun id d hrow => hf id d (List.mem_cons_of_mem _ hrow)

theorem noms_contrat (u : Valeur) : (noms u).Within contrat := by
  refine .bind (within_ofExcept _) fun id => ?_
  rcases id with _ | id
  · trivial
  refine .bind within_lire fun doc => ?_
  rcases doc with _ | d
  · trivial
  · exact .bind (within_ofExcept _) fun _ => .bind (within_ofExcept _) fun _ => trivial

/-- A grade is entered with its mention and what its type asks for. -/
theorem note_saisie {p : NotesPage} {t : TypeNote} (ht : p.typeNote = some t) (h : Horloge)
    (e : String) (x : Double) (m : String) (now : ℤ) : NoteSaisie (newDoc now (p.note h e x t m)) := by
  unfold note complements
  rw [ht]
  cases t with
  | exercice =>
    exact ⟨⟨x, rfl, rfl⟩, .inl ⟨rfl, _, rfl⟩, ⟨e, rfl⟩, ⟨m, rfl⟩, _, rfl⟩
  | examen =>
    exact ⟨⟨x, rfl, rfl⟩, .inr ⟨rfl, _, rfl⟩, ⟨e, rfl⟩, ⟨m, rfl⟩, _, rfl⟩

theorem noter_contrat (h : Horloge) (e : String) : (noter h e).Within contrat := by
  refine .bind (fun _ => trivial) fun p => .bind (within_ofExcept _) fun x => ?_
  rcases x with _ | x
  · trivial
  rcases ht : p.typeNote with _ | t
  · trivial
  show Prog.Within contrat (Prog.bind (ofExcept (nonNul p.matiereChoisieId)) fun m => _)
  refine .bind (within_ofExcept _) fun m => ?_
  refine .bind (within_ajouter (note_complets ..) ⟨rfl, note_saisie ht h e x m⟩) fun id =>
    .bind (within_update ?_) fun _ => trivial
  simp

theorem enregistrerEleve_contrat (h : Horloge) (m : Valeur) (e : String) :
    (enregistrerEleve h m e).Within contrat := by
  refine under_bind.mpr (under_lireDoc ⟨fun doc hdoc => ?_, fun _ _ => trivial⟩)
  rcases doc with _ | d
  · trivial
  refine Within.bind (noms_contrat _) fun ⟨prenom, nom⟩ => .bind (noter_contrat h e) fun note => ?_
  refine .bind (fun _ => trivial) fun p => under_bind.mpr (under_chercher.mpr ⟨fun rows hrows => ?_,
    fun _ _ => trivial⟩)
  refine Within.bind (notifierFamilles_contrat h _ m note _ hrows) fun _ => ?_
  refine .bind (within_ajouter ?_ ⟨rfl, fun _ => trivial⟩) fun _ => trivial
  exact notificationEleve_complets (hdoc d rfl) h e prenom nom note _

theorem enregistrerNotes_contrat (h : Horloge) : (enregistrerNotes h).Within contrat := by
  have hparcourir : ∀ m ids, (parcourir h m ids).Within contrat := fun m ids =>
    under_loop (parcourir h m) rfl (fun _ _ => rfl) fun e _ => enregistrerEleve_contrat h m e
  have henregistrer : ∀ m, (enregistrer h m).Within contrat := by
    intro m
    refine .bind (.bind within_lireDoc fun doc => .bind (within_ofExcept _) fun nom => ?_)
      fun _ => trivial
    exact .bind (fun _ => trivial) fun p => hparcourir nom _
  refine .bind (fun _ => trivial) fun p => ?_
  split
  · refine .ite trivial (.ite (.bind trivial fun _ => .ensuring ?_ _) trivial)
    exact .catching (henregistrer _) fun _ => trivial
  · trivial

theorem on_contrat {p : NotesPage} {ev : Evenement} {q : Action EtapeNotes NotesPage Unit}
    (h : p.on ev = some q) : q.Within contrat := by
  cases ev with
  | ouvrir =>
    obtain rfl := Option.some.inj h
    exact within_of_lit issues_initData
  | classe n =>
    obtain ⟨-, h⟩ := Option.ite_none_left_eq_some.mp h
    obtain ⟨c, -, rfl⟩ := Option.map_eq_some_iff.mp h
    exact .bind trivial fun _ => within_of_lit (Choix.issues_chargerMatieres _ _)
  | matiere n =>
    obtain ⟨-, h⟩ := Option.ite_none_left_eq_some.mp h
    obtain ⟨c, -, h⟩ := Option.bind_eq_some_iff.mp h
    obtain ⟨m, -, rfl⟩ := Option.map_eq_some_iff.mp h
    exact .bind trivial fun _ => within_of_lit (issues_chargerEleves c)
  | type t =>
    obtain ⟨-, h⟩ := Option.ite_none_left_eq_some.mp h
    obtain rfl := Option.some.inj h
    trivial
  | sequence n =>
    obtain ⟨-, h⟩ := Option.ite_none_left_eq_some.mp h
    obtain ⟨s, -, rfl⟩ := Option.map_eq_some_iff.mp h
    trivial
  | decrire t =>
    obtain ⟨-, h⟩ := Option.ite_none_left_eq_some.mp h
    obtain rfl := Option.some.inj h
    trivial
  | saisir n t =>
    obtain ⟨-, h⟩ := Option.ite_none_left_eq_some.mp h
    obtain ⟨e, -, rfl⟩ := Option.map_eq_some_iff.mp h
    trivial
  | remplirMax =>
    obtain ⟨-, h⟩ := Option.ite_none_left_eq_some.mp h
    obtain rfl := Option.some.inj h
    trivial
  | effacer =>
    obtain ⟨-, h⟩ := Option.ite_none_left_eq_some.mp h
    obtain rfl := Option.some.inj h
    trivial
  | enregistrer t =>
    obtain ⟨-, h⟩ := Option.ite_none_left_eq_some.mp h
    obtain rfl := Option.some.inj h
    exact enregistrerNotes_contrat t

end NotesPage

/-! ## The homework -/

theorem ajouterDevoir_contrat {Λ σ : Type} (l : Λ) (d : DevoirModele) :
    (DevoirRepository.ajouterDevoir l d : Action Λ σ String).Within contrat := by
  refine within_ajouter ⟨?_, ?_⟩ ⟨rfl, fun _ => trivial⟩
  · simp [DevoirModele.toMap]
    exact ⟨fits_texteOption (by simp) rfl, fits_texteOption (by simp) rfl⟩
  · simp [DevoirModele.toMap, texte, textes]

theorem marquerDevoirCommeLu_contrat {Λ σ : Type} (l : Λ) (d u : String) :
    (DevoirRepository.marquerDevoirCommeLu l d u : Action Λ σ Unit).Within contrat :=
  within_update (by simp)

namespace DevoirOuvert

theorem surPage_contrat {α : Type} {p : Action EtapeDevoir CreationDevoirPage α}
    (hp : p.Within contrat) : (surPage p).Within contrat := hp.zoom _ _

theorem chargerParents_contrat (ids : List String) :
    (CreationDevoirPage.chargerParentsDesEleves ids).Within contrat := by
  have hlots : ∀ lots, (CreationDevoirPage.chargerParentsParLot lots).Within contrat := by
    intro lots
    induction lots with
    | nil => trivial
    | cons lot lots ih =>
      exact .bind within_query fun _ => .bind (within_ofExcept _) fun _ => .bind ih fun _ => trivial
  refine .catching (.ite trivial ?_) fun _ => trivial
  exact .bind (hlots _) fun _ => trivial

theorem chargerEleves_contrat (c : String) :
    (CreationDevoirPage.chargerElevesIdsDeClasse c).Within contrat := by
  refine .catching (.bind within_lireDoc fun doc => ?_) fun _ => trivial
  rcases doc with _ | d
  · trivial
  · exact within_ofExcept _

theorem joindre_contrat (fichier : Option FichierJoint) :
    (CreationDevoirPage.joindre fichier).Within contrat := by
  rcases fichier with _ | fichier
  · trivial
  refine .bind (.catching (.ite (.bind (within_call ⟨trivial, trivial⟩) fun _ => trivial) trivial) fun _ => ?_)
    fun id => ?_
  · exact .bind trivial fun _ => trivial
  · rcases id with _ | id
    · trivial
    · exact .bind (fun _ => trivial) fun p => .bind (within_ofExcept _) fun _ => trivial

theorem envoyer_contrat : envoyer.Within contrat := by
  refine .bind (fun _ => trivial) fun s => .bind (surPage_contrat (joindre_contrat _)) fun fichier =>
    .bind (fun _ => trivial) fun s => .bind (within_ofExcept _) fun c => ?_
  refine .bind (surPage_contrat (chargerEleves_contrat c)) fun eleves => ?_
  refine .bind (surPage_contrat (chargerParents_contrat eleves)) fun parents => ?_
  refine .bind (fun _ => trivial) fun s => .bind (within_ofExcept _) fun t => ?_
  split
  · trivial
  · refine .bind (within_ofExcept _) fun devoir => ?_
    exact .bind (ajouterDevoir_contrat _ devoir) fun _ => trivial

theorem submit_contrat : submit.Within contrat := by
  refine .bind (fun _ => trivial) fun s => .ite trivial (.ite trivial (.ite trivial (.ite trivial
    (.ite trivial (.bind trivial fun _ => .ensuring ?_ _)))))
  exact .catching envoyer_contrat fun _ => trivial

theorem autreProgramme_contrat {ev : EvDevoir} {q : Action EtapeDevoir CreationDevoirPage Unit}
    (h : autreProgramme ev = some q) : q.Within contrat := by
  cases ev with
  | charger =>
    obtain rfl := Option.some.inj h
    refine .bind trivial fun _ => .catching ?_ fun _ => trivial
    refine .bind (fun _ => trivial) fun p => .bind within_query fun docs => ?_
    rcases docs with _ | ⟨doc, docs⟩
    · trivial
    · refine .bind trivial fun _ => .bind within_query fun _ => .bind within_query fun _ => ?_
      exact .bind (within_ofExcept _) fun _ => .bind (within_ofExcept _) fun _ => trivial
  | choisirClasse val =>
    obtain rfl := Option.some.inj h
    refine .bind trivial fun _ => ?_
    rcases val with _ | c
    · trivial
    · refine .bind trivial fun _ => .catching ?_ fun _ => trivial
      exact .bind (fun _ => trivial) fun p => .ite trivial (.bind within_query fun _ => trivial)
  | choisirMatiere val =>
    obtain rfl := Option.some.inj h
    trivial
  | saisir t d =>
    obtain rfl := Option.some.inj h
    trivial
  | joindre f =>
    obtain rfl := Option.some.inj h
    trivial
  | _ => cases h

theorem programme_contrat {z : Calendrier} {ev : EvDevoir} {s : DevoirOuvert}
    {q : Action EtapeDevoir DevoirOuvert Unit} (h : s.programme z ev = some q) :
    q.Within contrat := by
  have hautre : ∀ ev, (autreProgramme ev).map surPage = some q → q.Within contrat := by
    intro ev h
    obtain ⟨p, hp, rfl⟩ := Option.map_eq_some_iff.mp h
    exact surPage_contrat (autreProgramme_contrat hp)
  cases ev with
  | heure t =>
    obtain ⟨-, h⟩ := Option.ite_none_right_eq_some.mp h
    obtain rfl := Option.some.inj h
    trivial
  | pickDate =>
    obtain ⟨-, h⟩ := Option.ite_none_left_eq_some.mp h
    obtain rfl := Option.some.inj h
    trivial
  | choisir n j =>
    unfold programme at h
    dsimp only at h
    split at h
    · cases h
    · obtain ⟨-, h⟩ := Option.ite_none_right_eq_some.mp h
      obtain rfl := Option.some.inj h
      trivial
  | annuler n =>
    obtain rfl := Option.some.inj h
    trivial
  | submit =>
    obtain ⟨-, h⟩ := Option.ite_none_left_eq_some.mp h
    obtain rfl := Option.some.inj h
    exact submit_contrat
  | charger => exact hautre .charger h
  | choisirClasse val => exact hautre (.choisirClasse val) h
  | choisirMatiere val => exact hautre (.choisirMatiere val) h
  | saisir t d => exact hautre (.saisir t d) h
  | joindre f => exact hautre (.joindre f) h

end DevoirOuvert

end EduConnect.Enseignant
