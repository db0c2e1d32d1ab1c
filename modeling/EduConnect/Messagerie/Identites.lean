import EduConnect.Lignes
import EduConnect.Messagerie.Listes

/-!
# The ids of an account

An account writes under the id of the document of its role, and its list designates a correspondent
by the id of a document or of an account.  `mem_contacts` says which ids the conversation pages that
`contacts` collects work with.
-/

namespace EduConnect.Messagerie

open Lib Prog Donnees

/-- The documents of a role. -/
def Role.collection : Role → Collection
  | .enseignant => .enseignants
  | .parent => .parents
  | .eleve => .eleves

/-- The id of the first document of a role that carries the account, or the empty string. -/
def identite (b : Base) (role : Role) (compte : String) : String :=
  (Commun.ficheDe b role.collection compte).getD ""

/-- The list of an account designates `correspondant` by `id`: a teacher by his document, a parent
or a student by his account. -/
def Designe (b : Base) (role : Role) (correspondant id : String) : Prop :=
  match role with
  | .enseignant => id = correspondant
  | _ => ∃ d, b.doc .enseignants id = some d ∧ (d.get .utilisateurId).orStr "" = .ok correspondant

section Pages

variable {S : Server} {b : Base} {uid etablissementId : String}

/-! ### The list of a parent or a student -/

/-- The page keeps its owner, and its teachers are stored documents. -/
structure MessagerieFamille.Tenue (b : Base) (role : Role) (moi : String)
    (p : MessagerieFamille) : Prop where
  role : p.role = role
  moi : p.moi = moi
  enseignants : ∀ e ∈ p.enseignants, ∃ d, b.doc .enseignants e.id = some d ∧
    (d.get .utilisateurId).orStr "" = .ok e.utilisateurId

theorem keeps_loadMatieres {role : Role} {moi : String} :
    MessagerieFamille.loadMatieres.Keeps (MessagerieFamille.Tenue b role moi) := by
  unfold MessagerieFamille.loadMatieres
  simp only [bind_eq]
  refine .bind keeps_page fun p => .ite (keeps_ret _) (.bind (keeps_call _ _) fun enseignements => ?_)
  refine .bind (keeps_ofExcept _) fun ids => .bind (keeps_chercherParIds ..) fun matieres => ?_
  refine .bind (keeps_ofExcept _) fun matieresMap => .bind (keeps_ofExcept _) fun mapTemp => ?_
  exact (keeps_setState _).mpr fun q hq => ⟨hq.role, hq.moi, hq.enseignants⟩

theorem keeps_loadClasses {role : Role} {moi : String} :
    MessagerieFamille.loadClasses.Keeps (MessagerieFamille.Tenue b role moi) := by
  unfold MessagerieFamille.loadClasses
  simp only [bind_eq]
  refine .bind keeps_page fun p => .bind (keeps_call _ _) fun docs => ?_
  refine .bind (keeps_ofExcept _) fun classes => ?_
  exact (keeps_setState _).mpr fun q hq => ⟨hq.role, hq.moi, hq.enseignants⟩

/-- A document that `fromMap` accepts gives the id of its account. -/
theorem utilisateurId_of_fromMap {d : Document} {id : String} {e : EnseignantModele}
    (h : EnseignantModele.fromMap d id = .ok e) :
    e.id = id ∧ (d.get .utilisateurId).orStr "" = .ok e.utilisateurId := by
  unfold EnseignantModele.fromMap at h
  cases hu : (d.get .utilisateurId).orStr "" with
  | error err => rw [hu] at h; cases h
  | ok u =>
    rw [hu] at h
    cases h
    exact ⟨rfl, rfl⟩

theorem ends_loadInitialData {p : MessagerieFamille} (hp : p.enseignants = []) :
    MessagerieFamille.loadInitialData.Ends S.handler
      (fun _ q _ => q.Tenue b p.role p.moi) p b := by
  have hstart : p.Tenue b p.role p.moi := ⟨rfl, rfl, fun e he => by rw [hp] at he; cases he⟩
  unfold MessagerieFamille.loadInitialData
  refine .catching_keeps ?_ fun e => (keeps_setState _).mpr fun q hq =>
    ⟨hq.role, hq.moi, hq.enseignants⟩
  simp only [bind_eq]
  rw [ends_page_bind, ends_bind, ends_chercher]
  split_ifs
  · exact hstart
  show Ends _ _ (Prog.bind _ _) p b
  rw [ends_bind, ends_ofExcept]
  cases hread : ((⟨[], none, none⟩ : Query Champ).run (b.docs .enseignants)).mapM
      (fun doc => EnseignantModele.fromMap doc.2 doc.1) with
  | error e => exact hstart
  | ok enseignants =>
    have hlus : ∀ e ∈ enseignants, ∃ d, b.doc .enseignants e.id = some d ∧
        (d.get .utilisateurId).orStr "" = .ok e.utilisateurId := by
      intro e he
      obtain ⟨doc, hdoc, hfrom⟩ := exists_of_mem_mapM hread he
      obtain ⟨hid, hu⟩ := utilisateurId_of_fromMap hfrom
      exact ⟨doc.2, hid ▸ (Query.of_mem_run hdoc).1, hu⟩
    refine Keeps.ends ?_ hstart
    refine .bind ((keeps_setState _).mpr fun q hq => ⟨hq.role, hq.moi, hlus⟩) fun _ => ?_
    refine .bind (keeps_chercherParIds ..) fun docs => .bind (keeps_ofExcept _) fun users => ?_
    refine .bind ((keeps_setState _).mpr fun q hq => ⟨hq.role, hq.moi, fun e he => ?_⟩) fun _ => ?_
    · exact hlus e (List.mem_filter.mp he).1
    refine .bind keeps_loadMatieres fun _ => .bind keeps_loadClasses fun _ => ?_
    exact (keeps_setState _).mpr fun q hq => ⟨hq.role, hq.moi, hq.enseignants⟩

/-! ### The list of a teacher -/

/-- The page works under the id of its owner. -/
def MessagerieEnseignant.Tenue (b : Base) (uid : String) (p : MessagerieEnseignant) : Prop :=
  ∀ id, p.enseignantDocId = some id → id = identite b .enseignant uid

namespace MessagerieEnseignant

theorem keeps_compterLots (enseignantDocId : String) (l : List (List String))
    (nb : String → Option ℕ) :
    (compterLots enseignantDocId l nb).Keeps (MessagerieEnseignant.Tenue b uid) := by
  induction l generalizing nb with
  | nil => exact keeps_ret _
  | cons lot l ih => exact .bind (keeps_call _ _) fun docs => .bind (keeps_ofExcept _) fun nb => ih nb

theorem keeps_chargerNb (ids : List String) (isParent : Bool) :
    (chargerNbMessagesNonLusParExpediteur ids isParent).Keeps
      (MessagerieEnseignant.Tenue b uid) := by
  unfold chargerNbMessagesNonLusParExpediteur
  simp only [bind_eq]
  refine .bind keeps_page fun p => ?_
  cases p.enseignantDocId with
  | none => exact keeps_ret _
  | some enseignantDocId =>
    refine .ite (keeps_ret _) (.bind (keeps_compterLots _ _ _) fun nb => ?_)
    refine (keeps_setState _).mpr fun q hq => ?_
    cases isParent <;> exact hq

theorem keeps_utilisateursDe (ids : List String) (etablissementId : String) :
    (utilisateursDe ids etablissementId).Keeps (MessagerieEnseignant.Tenue b uid) :=
  .bind (keeps_chercherParIds ..) fun _ => keeps_ofExcept _

theorem keeps_chargerEnfants (ids : List String) (etablissementId : String) :
    (chargerEnfants ids etablissementId).Keeps (MessagerieEnseignant.Tenue b uid) := by
  unfold chargerEnfants
  simp only [bind_eq]
  refine .bind (keeps_call _ _) fun famille => .bind (keeps_ofExcept _) fun liens => ?_
  refine .ite ((keeps_setState _).mpr fun q hq => hq) ?_
  refine .bind (keeps_chercherParIds ..) fun docs => .bind (keeps_ofExcept _) fun eleves => ?_
  refine .ite ((keeps_setState _).mpr fun q hq => hq) ?_
  refine .bind (keeps_utilisateursDe _ _) fun utilisateurs => .bind keeps_page fun p => ?_
  exact .bind (keeps_ofExcept _) fun enfants => (keeps_setState _).mpr fun q hq => hq

theorem keeps_chargerParents :
    chargerParentsAvecEnfants.Keeps (MessagerieEnseignant.Tenue b uid) := by
  unfold chargerParentsAvecEnfants
  simp only [bind_eq]
  refine .bind keeps_page fun p => .bind (keeps_call _ _) fun docs => .bind (keeps_ofExcept _) fun ids => ?_
  refine .ite ((keeps_setState _).mpr fun q hq => hq) ?_
  refine .bind (keeps_utilisateursDe _ _) fun utilisateurs => ?_
  refine .bind ((keeps_setState _).mpr fun q hq => hq) fun _ => .bind (keeps_ofExcept _) fun parents => ?_
  refine .bind ((keeps_setState _).mpr fun q hq => hq) fun _ => ?_
  exact .bind (keeps_chargerEnfants _ _) fun _ => keeps_chargerNb _ _

theorem keeps_chargerUtilisateurs (etablissementId : String) (l : List (List String)) :
    (chargerUtilisateurs etablissementId l).Keeps (MessagerieEnseignant.Tenue b uid) := by
  induction l with
  | nil => exact keeps_ret _
  | cons lot l ih =>
    refine .bind (keeps_chercherParIds ..) fun docs => .bind (keeps_ofExcept _) fun trouves => ?_
    exact .bind ih fun _ => keeps_ret _

theorem keeps_chargerEleves :
    chargerElevesParClasse.Keeps (MessagerieEnseignant.Tenue b uid) := by
  unfold chargerElevesParClasse
  simp only [bind_eq]
  refine .catching ?_ fun _ => (keeps_setState _).mpr fun q hq => hq
  refine .bind keeps_page fun p => .bind (keeps_call _ _) fun docs => .bind (keeps_ofExcept _) fun tous => ?_
  refine .ite ((keeps_setState _).mpr fun q hq => hq) ?_
  refine .bind (keeps_chargerUtilisateurs _ _) fun utilisateurs => ?_
  exact .bind ((keeps_setState _).mpr fun q hq => hq) fun _ => keeps_chargerNb _ _

theorem keeps_chargerDonnees : chargerDonnees.Keeps (MessagerieEnseignant.Tenue b uid) := by
  unfold chargerDonnees
  simp only [bind_eq]
  refine .bind keeps_page fun p => .ite (keeps_ret _) ?_
  cases p.typeSelectionne with
  | parent => exact keeps_chargerParents
  | eleve => exact keeps_chargerEleves

theorem keeps_chargerTotal :
    chargerNbMessagesNonLusTotal.Keeps (MessagerieEnseignant.Tenue b uid) := by
  unfold chargerNbMessagesNonLusTotal
  simp only [bind_eq]
  refine .bind keeps_page fun p => ?_
  cases p.enseignantDocId with
  | none => exact keeps_ret _
  | some id => exact .bind (keeps_call _ _) fun _ => keeps_ret _

theorem keeps_chargerClasses :
    chargerClassesEtablissement.Keeps (MessagerieEnseignant.Tenue b uid) := by
  unfold chargerClassesEtablissement
  simp only [bind_eq]
  refine .bind keeps_page fun p => .bind (keeps_call _ _) fun docs => .bind (keeps_ofExcept _) fun _ => ?_
  exact (keeps_setState _).mpr fun q hq => hq

theorem keeps_choisir (type : TypeUtilisateur) (classe : Option String) :
    (choisir type classe).Keeps (MessagerieEnseignant.Tenue b uid) := by
  refine .bind ((keeps_setState _).mpr fun q hq => hq) fun _ => .bind keeps_chargerDonnees fun _ => ?_
  exact .bind keeps_chargerTotal fun _ => (keeps_setState _).mpr fun q hq => hq

theorem ends_chargerEnseignantDocId {p : MessagerieEnseignant} (hp : p.enseignantDocId = none) :
    chargerEnseignantDocId.Ends S.handler (fun _ q _ => q.Tenue b p.utilisateurId) p b := by
  refine ends_page_bind.mpr (Commun.ends_fiche_bind (fun _ => ?_) fun id d docs hid => ?_)
  · intro id hid
    rw [show p.enseignantDocId = some id from hid] at hp
    cases hp
  · intro id' hid'
    obtain rfl := Option.some.inj hid'
    rw [identite, show Commun.ficheDe b Role.enseignant.collection p.utilisateurId = some id from hid]
    rfl

theorem ends_initialiser :
    initialiser.Ends S.handler (fun _ q _ => q.Tenue b uid)
      { utilisateurId := uid, etablissementId := etablissementId } b := by
  unfold initialiser
  simp only [bind_eq]
  rw [ends_setState_bind]
  refine .bind_keeps (.catching_keeps (.bind_keeps (ends_chargerEnseignantDocId rfl) fun _ => ?_)
    fun e => (keeps_setState _).mpr fun q hq => hq) fun _ => (keeps_setState _).mpr fun q hq => hq
  refine .bind keeps_chargerClasses fun _ => .bind keeps_chargerDonnees fun _ => ?_
  exact keeps_chargerTotal

/-- The pages a teacher's list opens. -/
theorem mem_tuiles {p : MessagerieEnseignant} (hp : p.Tenue b uid) {c : Bouts} {v : String}
    (h : (c, v) ∈ p.tuiles) :
    c.role = .enseignant ∧ c.moi = identite b .enseignant uid ∧ c.interlocuteur = v := by
  unfold tuiles at h
  cases hid : p.enseignantDocId with
  | none => rw [hid] at h; cases h
  | some id =>
    rw [hid] at h
    dsimp only at h
    split_ifs at h
    · cases h
    · obtain ⟨x, -, heq⟩ := List.mem_map.mp h
      cases heq
      exact ⟨rfl, hp id hid, rfl⟩

end MessagerieEnseignant

/-! ## The pages of an account -/

/-- The pages the list of a parent or a student opens. -/
theorem mem_tuiles_famille {p : MessagerieFamille} (hp : p.enseignants = [])
    (hrole : p.role ≠ .enseignant) (hmoi : p.moi = identite b p.role uid) {c : Bouts} {v : String}
    (hc : (c, v) ∈ (apres S b MessagerieFamille.loadInitialData p).tuiles) :
    c.moi = identite b c.role uid ∧ Designe b c.role v c.interlocuteur := by
  have hq : (apres S b MessagerieFamille.loadInitialData p).Tenue b p.role p.moi :=
    ends_loadInitialData hp
  unfold MessagerieFamille.tuiles at hc
  split_ifs at hc
  · cases hc
  · obtain ⟨e, he, heq⟩ := List.mem_map.mp hc
    cases heq
    dsimp only
    rw [hq.role, hq.moi]
    refine ⟨hmoi, ?_⟩
    have hdoc := hq.enseignants e he
    unfold Designe
    cases hr : p.role with
    | enseignant => exact absurd hr hrole
    | parent => exact hdoc
    | eleve => exact hdoc

/-- The pages the lists of a teacher open. -/
theorem mem_contactsEnseignant {etablissementId : String} {c : Bouts} {v : String}
    (h : (c, v) ∈ contactsEnseignant S b uid etablissementId) :
    c.moi = identite b c.role uid ∧ Designe b c.role v c.interlocuteur := by
  unfold contactsEnseignant at h
  by_cases hcompte : Enseignant.HomeEnseignant.CompteLisible b uid
  · obtain ⟨enseignant, hpages⟩ :=
      (Enseignant.HomeEnseignant.prete_ouvrir S etablissementId hcompte).pages
    rw [hpages] at h
    dsimp only [List.getElem?_cons_succ, List.getElem?_cons_zero] at h
    have hinit : (apres S b MessagerieEnseignant.initialiser
        { utilisateurId := uid, etablissementId := etablissementId }).Tenue b uid :=
      MessagerieEnseignant.ends_initialiser
    have heleves : ∀ {type classe p}, MessagerieEnseignant.Tenue b uid p →
        (apres S b (MessagerieEnseignant.choisir type classe) p).Tenue b uid :=
      fun hp => (MessagerieEnseignant.keeps_choisir _ _).ends hp
    have htuiles : ∀ {p : MessagerieEnseignant}, p.Tenue b uid → (c, v) ∈ p.tuiles →
        c.moi = identite b c.role uid ∧ Designe b c.role v c.interlocuteur := by
      intro p hp hc
      obtain ⟨hrole, hmoi, hinter⟩ := MessagerieEnseignant.mem_tuiles hp hc
      rw [hrole]
      exact ⟨hmoi, hinter⟩
    rcases List.mem_append.mp h with h | h
    · rcases List.mem_append.mp h with h | h
      · exact htuiles hinit h
      · exact htuiles (heleves hinit) h
    · obtain ⟨p, hp, hc⟩ := List.mem_flatMap.mp h
      obtain ⟨classe, -, rfl⟩ := List.mem_map.mp hp
      exact htuiles (heleves (heleves hinit)) hc
  · have hpages : (Enseignant.HomeEnseignant.ouvrir S b etablissementId uid).pages =
        List.replicate 5 .vide :=
      (Enseignant.HomeEnseignant.enAttente_ouvrir S etablissementId hcompte).pages
    rw [hpages] at h
    cases h

theorem mem_contactsParent {etablissementId : String} {c : Bouts} {v : String}
    (h : (c, v) ∈ contactsParent S b uid etablissementId) :
    c.moi = identite b c.role uid ∧ Designe b c.role v c.interlocuteur := by
  unfold contactsParent at h
  by_cases hphoto : Familles.HomeParent.PhotoLisible b uid
  · rw [(Familles.HomeParent.prete_ouvrir S etablissementId hphoto).pages] at h
    exact mem_tuiles_famille rfl (fun hr => by cases hr) rfl h
  · rw [(Familles.HomeParent.enAttente_ouvrir S etablissementId hphoto).pages] at h
    cases h

theorem mem_contactsEleve {etablissementId : String} {c : Bouts} {v : String}
    (h : (c, v) ∈ contactsEleve S b uid etablissementId) :
    c.moi = identite b c.role uid ∧ Designe b c.role v c.interlocuteur := by
  unfold contactsEleve at h
  have hchargee := Familles.HomeEleve.chargee_ouvrir S b etablissementId uid
  rcases hid : Commun.ficheDe b .eleves uid with _ | id
  · rw [hchargee.vides hid] at h
    cases h
  · rw [hchargee.pages id hid] at h
    have hmoi : id = identite b .eleve uid := by
      rw [identite, show Commun.ficheDe b Role.eleve.collection uid = some id from hid]
      rfl
    exact mem_tuiles_famille rfl (fun hr => by cases hr) hmoi h

/-- **The ids of a conversation page.**  Its owner writes under the id of the document of his role,
and his correspondent is the one he designates. -/
theorem mem_contacts {toLowerCase : String → String} {c : Bouts} {v : String}
    (h : (c, v) ∈ contacts S b toLowerCase uid) :
    c.moi = identite b c.role uid ∧ Designe b c.role v c.interlocuteur := by
  unfold contacts at h
  split at h
  · exact mem_contactsEnseignant h
  · exact mem_contactsParent h
  · exact mem_contactsEleve h
  · cases h

end Pages

end EduConnect.Messagerie
