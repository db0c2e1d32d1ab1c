import EduConnect.Admin.Inscriptions

/-!
# The user documents of new accounts

The first document that a screen writes for a new account is the one in `utilisateurs`
(`EcranAjout.fiche`). What comes after it leaves that collection alone; no screen writes in
`etablissements`, and only the screen of an administrator in `administrateurs`.
-/

namespace EduConnect.Admin

open Lib Prog Donnees

/-! ## Collections that a program leaves alone -/

section Evite

variable {σ α : Type} {S : Server} {c : Collection}

theorem docs_faulty_of_avoids {r : Requete} (hr : r.Avoids c) (x : Base × List (Option Err)) :
    (faulty S.handler r x).2.1.docs c = x.1.docs c :=
  faulty_cases (P := fun y : Except Err r.Ans × (Base × List (Option Err)) =>
    y.2.1.docs c = x.1.docs c) (fun _ _ => rfl) fun _ => docs_handler_of_avoids hr

/-- What a program does not write is as before, whatever requests are lost. -/
theorem docs_exec_of_avoids {p : Action Etape σ α} (hp : p.Issues fun _ r => r.Avoids c) (s : σ)
    (b : Base) (f : List (Option Err)) :
    (p.exec (faulty S.handler) s (b, f)).2.2.1.docs c = b.docs c := by
  refine hp.exec (P := fun x : Base × List (Option Err) => x.1.docs c = b.docs c) ?_ rfl
  rintro _ r x hr hx
  exact (docs_faulty_of_avoids hr x).trans hx

theorem issues_ajouterALaClasse (hc : c ≠ .classes) (classeId u : String) :
    (AjoutEleve.ajouterALaClasse classeId u).Issues fun _ r => r.Avoids c := by
  refine .bind ((issues_lire _ _ _).mpr trivial) fun doc => ?_
  rcases doc with _ | d
  · trivial
  refine .ofExcept_bind fun l _ => .ite trivial ?_
  exact (issues_ecrire _ _).mpr hc.symm

theorem issues_ajouterAdministrateur (hc : c ≠ .administrateurs) (u : String) :
    (AjoutAdministrateur.ajouterAdministrateur u).Issues fun _ r => r.Avoids c := by
  refine .bind ((issues_chercherPremier _ _ _).mpr trivial) fun docs => .ite trivial ?_
  refine .bind (.bind ((issues_lire _ _ _).mpr trivial) fun doc => ?_) fun m => ?_
  · rcases doc with _ | d
    · trivial
    · exact .ofExcept_bind fun _ _ => trivial
  · rcases m with _ | m
    · trivial
    · exact (issues_ecrire _ _).mpr hc.symm

end Evite

/-! ## The document of the user -/

/-- The fields that the screen puts into the new `utilisateurs` document. -/
def EcranAjout.fiche : (e : EcranAjout) → e.Page → String → String → Option String → Champs
  | eleve, p => p.utilisateurData
  | parent, p => p.utilisateurData
  | enseignant, p => fun u r file => (p.utilisateur u r p.etablissementId file).toMap
  | administrateur, p => fun u r file =>
    (p.utilisateur u r (p.etablissementIdSelectionne.getD "") file).toMap

/-- The document is written, unless the first request is lost. -/
def FicheEcrite (fs : Champs) (u : String) (b : Base) (f : List (Option Err)) (b' : Base) : Prop :=
  b'.docs .utilisateurs = if nextFault f = none
    then (b.docs .utilisateurs).put u (newDoc b.clock fs) else b.docs .utilisateurs

section Creation

variable {S : Server} {b : Base} {f : List (Option Err)} {u : String}

/-- A program that writes the user first, and then leaves the collection. -/
theorem ends_ficheEcrite {σ : Type} {s : σ} {fs : Champs} {rest : Unit → Action Etape σ Unit}
    (hrest : (rest ()).Issues fun _ r => r.Avoids .utilisateurs) :
    ((ecrire .autre (.set .utilisateurs u fs)).bind rest).Ends (faulty S.handler)
      (fun _ _ x => FicheEcrite fs u b f x.1) s (b, f) := by
  unfold FicheEcrite
  refine ends_bind.mpr (ends_set_pannes.mpr ⟨fun e he => ?_, fun hf => ?_⟩)
  · rw [he]
    rfl
  · rw [if_pos hf]
    exact docs_exec_of_avoids hrest s (b.putDoc .utilisateurs u (newDoc b.clock fs)) f.tail

/-- Each screen writes the user first. -/
theorem ends_documents_fiche {e : EcranAjout} {p : e.Page} (hp : e.accepte p = true)
    (u r : String) (file : Option String) (b : Base) (f : List (Option Err)) :
    (e.flux.documents u r file).Ends (faulty S.handler)
      (fun _ _ x => FicheEcrite (e.fiche p u r file) u b f x.1) p (b, f) := by
  cases e with
  | eleve =>
    show (AjoutEleve.enregistrerDocuments u r file).Ends _ _ _ _
    simp only [AjoutEleve.enregistrerDocuments, bind_eq]
    refine ends_page_bind.mpr (ends_ficheEcrite ?_)
    refine .bind (fun _ => trivial) fun p => .bind ?_ fun _ => .bind (fun _ => trivial) ?_
    · exact (issues_ecrire _ _).mpr fun h => by cases h
    · intro p
      cases p.classeIdSelectionne with
      | none => exact (issues_attendre _).mpr trivial
      | some c => exact issues_ajouterALaClasse (by decide) c u
  | parent =>
    show (AjoutParent.enregistrerDocuments u r file).Ends _ _ _ _
    simp only [AjoutParent.enregistrerDocuments, bind_eq]
    refine ends_page_bind.mpr (ends_ficheEcrite ?_)
    exact (issues_ecrire _ _).mpr fun h => by cases h
  | enseignant =>
    show (AjoutEnseignant.enregistrerDocuments u r file).Ends _ _ _ _
    simp only [AjoutEnseignant.enregistrerDocuments, ajouterUtilisateur, bind_eq]
    refine ends_page_bind.mpr (ends_ficheEcrite ?_)
    exact .bind ((issues_ajouter _ _ _).mpr fun h => by cases h) fun _ => trivial
  | administrateur =>
    show (AjoutAdministrateur.enregistrerDocuments u r file).Ends _ _ _ _
    simp only [AjoutAdministrateur.enregistrerDocuments, ajouterUtilisateur, bind_eq]
    obtain ⟨etab, hetab⟩ := Option.isSome_iff_exists.mp (Bool.and_eq_true_iff.mp hp).2
    have hfiche : EcranAjout.administrateur.fiche p u r file =
        (p.utilisateur u r etab file).toMap := by
      show (p.utilisateur u r (p.etablissementIdSelectionne.getD "") file).toMap = _
      rw [hetab]
      rfl
    rw [hfiche]
    refine ends_page_bind.mpr ?_
    rw [hetab]
    refine ends_bind.mpr ((ends_ofExcept _).mpr (ends_ficheEcrite ?_))
    exact issues_ajouterAdministrateur (by decide) u

end Creation

/-! ## One press -/

namespace EcranAjout

variable {S : Server} {e : EcranAjout} {p : e.Page} {b : Base} {f : List (Option Err)}

/-- The press writes the document of the user. -/
def EcritFiche (e : EcranAjout) (p : e.Page) (b : Base) (f : List (Option Err)) : Prop :=
  e.CompteCree p b f ∧ nextFault (e.flux.pannesDocuments p f) = none

theorem pannesDocuments_chargement (loading : Bool) :
    e.flux.pannesDocuments (e.flux.chargement loading p) f = e.flux.pannesDocuments p f := by
  cases e <;> rfl

theorem fiche_chargement (loading : Bool) (u r : String) (file : Option String) :
    e.fiche (e.flux.chargement loading p) u r file = e.fiche p u r file := by
  cases e <;> rfl

/-- What is known of the data once the documents are written is known after the press. -/
theorem execution_of_documents {Q : String → Base → Prop} (hc : e.CompteCree p b f)
    {R : String → String → Option String → Base → List (Option Err) → Base → Prop}
    (hdoc : ∀ u r file b f, (e.flux.documents u r file).Ends (faulty S.handler)
      (fun _ _ x => R u r file b f x.1) (e.flux.chargement true p) (b, f))
    (hR : ∀ r t b', R (S.newId b.accounts) r (e.flux.fichier S p b f)
      { e.flux.cree S (e.flux.chargement true p) b with files := t }
      (e.flux.pannesDocuments p f) b' → Q r b') : ∃ r, Q r (e.execution S p b f).2 := by
  obtain ⟨hp, hcompte⟩ := hc
  obtain ⟨r, hrole⟩ := Option.isSome_iff_exists.mp hcompte.2.1
  have hcompte' : e.flux.CompteCree (e.flux.chargement true p) b f := by
    rwa [compteCree_chargement]
  have hends : e.enregistrer.Ends (faulty S.handler) (fun _ _ x => Q r x.1) p (b, f) := by
    refine (ends_enregistrer_accepte hp).mpr ?_
    simp only [Flux.enregistrer, bind_eq]
    refine ends_setState_bind.mpr (ends_ensuring.mpr (ends_catching.mpr ?_))
    refine (Flux.ends_creer_avec_compte (R := fun u r file b f _ b' => R u r file b f b')
      hcompte' hrole fun u r file b f => ⟨?_, hdoc u r file b f⟩).mono ?_
    · exact (ends_documents ((accepte_chargement true).trans hp) u r file b f).1
    rw [fichier_chargement, pannesDocuments_chargement]
    rintro (err | v) p' x ⟨t, hx, -⟩
    · exact hR r t _ hx
    · exact hR r t _ hx
  exact ⟨r, hends⟩

/-- After a press the user is written exactly if the account is created and the request not lost. -/
theorem execution_fiche (S : Server) (e : EcranAjout) (p : e.Page) (b : Base)
    (f : List (Option Err)) :
    (e.CompteCree p b f → ∃ r, FicheEcrite
      (e.fiche p (S.newId b.accounts) r (e.flux.fichier S p b f)) (S.newId b.accounts) b
      (e.flux.pannesDocuments p f) (e.execution S p b f).2) ∧
    (¬e.CompteCree p b f → (e.execution S p b f).2.docs = b.docs) := by
  constructor
  · intro hc
    have hp : e.accepte (e.flux.chargement true p) = true := by
      rw [accepte_chargement]
      exact hc.1
    refine execution_of_documents hc (ends_documents_fiche hp) ?_
    intro r t b' hx
    rw [fiche_chargement] at hx
    exact hx
  · intro hc
    obtain ⟨t, ht⟩ := (execution_sans_compte (S := S) hc).base
    rw [ht]

/-! ### The other collections -/

theorem issues_documents {c : Collection} (hc : c ∉ [Collection.utilisateurs, .eleves, .parents,
    .enseignants, .classes]) (hadmin : e = .administrateur → c ≠ .administrateurs) (u r : String)
    (file : Option String) : (e.flux.documents u r file).Issues fun _ r => r.Avoids c := by
  simp only [List.mem_cons, List.not_mem_nil, or_false, not_or, ← ne_eq] at hc
  obtain ⟨hutilisateurs, heleves, hparents, henseignants, hclasses⟩ := hc
  cases e with
  | eleve =>
    show (AjoutEleve.enregistrerDocuments u r file).Issues _
    refine .bind (fun _ => trivial) fun p => .bind ((issues_ecrire _ _).mpr hutilisateurs.symm) ?_
    refine fun _ => .bind (fun _ => trivial) fun p => .bind ((issues_ecrire _ _).mpr heleves.symm) ?_
    refine fun _ => .bind (fun _ => trivial) fun p => ?_
    cases p.classeIdSelectionne with
    | none => exact (issues_attendre _).mpr trivial
    | some classeId => exact issues_ajouterALaClasse hclasses classeId u
  | parent =>
    show (AjoutParent.enregistrerDocuments u r file).Issues _
    refine .bind (fun _ => trivial) fun p => .bind ((issues_ecrire _ _).mpr hutilisateurs.symm) ?_
    exact fun _ => (issues_ecrire _ _).mpr hparents.symm
  | enseignant =>
    show (AjoutEnseignant.enregistrerDocuments u r file).Issues _
    refine .bind (fun _ => trivial) fun p => .bind ((issues_ecrire _ _).mpr hutilisateurs.symm) ?_
    exact fun _ => .bind ((issues_ajouter _ _ _).mpr henseignants.symm) fun _ => trivial
  | administrateur =>
    show (AjoutAdministrateur.enregistrerDocuments u r file).Issues _
    refine .bind (fun _ => trivial) fun p => .ofExcept_bind fun etab _ => ?_
    refine .bind ((issues_ecrire _ _).mpr hutilisateurs.symm) fun _ => ?_
    exact issues_ajouterAdministrateur (hadmin rfl) u

/-- A collection that the documents are not in is left alone. -/
theorem execution_docs_of_ne {c : Collection} (hc : c ∉ [Collection.utilisateurs, .eleves,
    .parents, .enseignants, .classes]) (hadmin : e = .administrateur → c ≠ .administrateurs) :
    (e.execution S p b f).2.docs c = b.docs c := by
  have hkeeps : e.enregistrer.Preserves (faulty S.handler)
      (fun x : Base × List (Option Err) => x.1.docs c = b.docs c) := by
    refine preserves_enregistrer (fun r x hr hx => ?_) e fun u r file => ?_
    · exact (docs_faulty_of_avoids (hr c) x).trans hx
    · refine (issues_documents hc hadmin u r file).preserves fun _ r x hr hx => ?_
      exact (docs_faulty_of_avoids hr x).trans hx
  exact hkeeps p (b, f) rfl

/-! ### The link of an administrator -/

/-- The press writes the link of an administrator: none of the requests before it is lost. -/
def EcritLien (e : EcranAjout) (p : e.Page) (b : Base) (f : List (Option Err)) : Prop :=
  e = .administrateur ∧ e.EcritFiche p b f ∧
    let g := (e.flux.pannesDocuments p f).tail
    nextFault g = none ∧ nextFault g.tail = none ∧ nextFault g.tail.tail = none

theorem ends_documents_lien {p : AjoutAdministrateur} (u r : String) (file : Option String)
    (b : Base) (f : List (Option Err)) :
    (AjoutAdministrateur.enregistrerDocuments u r file).Ends (faulty S.handler)
      (fun _ _ x => x.1.docs .administrateurs = b.docs .administrateurs ∨
        nextFault f = none ∧ nextFault f.tail = none ∧ nextFault f.tail.tail = none ∧
          nextFault f.tail.tail.tail = none) p (b, f) := by
  simp only [AjoutAdministrateur.enregistrerDocuments, ajouterUtilisateur,
    AjoutAdministrateur.ajouterAdministrateur, AjoutAdministrateur.getUtilisateurParId, bind_eq]
  rw [ends_page_bind]
  refine ends_bind.mpr ((ends_ofExcept _).mpr ?_)
  rcases idDeDocument p.etablissementIdSelectionne with err | etab
  · exact .inl rfl
  refine ends_bind.mpr (ends_set_pannes.mpr ⟨fun _ _ => .inl rfl, fun hf => ?_⟩)
  refine ends_bind.mpr ((ends_requete_pannes rfl).mpr ⟨fun _ _ => .inl rfl, fun hf₁ => ?_⟩)
  dsimp only
  split_ifs with hvide
  · exact .inl rfl
  refine ends_bind.mpr (ends_bind.mpr (ends_lire_pannes.mpr ⟨fun _ _ => .inl rfl, fun hf₂ => ?_⟩))
  rw [Data.doc_putDoc, if_pos ⟨rfl, rfl⟩]
  refine ends_bind.mpr ((ends_ofExcept _).mpr ?_)
  rcases UtilisateurModele.fromMap _ u with err | m
  · exact .inl rfl
  · refine (ends_ret (some m)).mpr (ends_set_pannes.mpr ⟨fun _ _ => .inl rfl, fun hf₃ => ?_⟩)
    exact .inr ⟨hf, hf₁, hf₂, hf₃⟩

/-- Only such a press writes in `administrateurs`. -/
theorem execution_administrateurs (h : ¬e.EcritLien p b f) :
    (e.execution S p b f).2.docs .administrateurs = b.docs .administrateurs := by
  by_cases he : e = .administrateur
  · subst he
    by_cases hc : EcranAjout.administrateur.CompteCree p b f
    · have hlien : ∃ _r : String, (EcranAjout.administrateur.execution S p b f).2.docs
          .administrateurs = b.docs .administrateurs := by
        refine execution_of_documents (Q := fun _ b' => b'.docs .administrateurs =
          b.docs .administrateurs) (R := fun _ _ _ b f b' => b'.docs .administrateurs =
            b.docs .administrateurs ∨ nextFault f = none ∧ nextFault f.tail = none ∧
              nextFault f.tail.tail = none ∧ nextFault f.tail.tail.tail = none) hc
          (fun u r file b f => ends_documents_lien u r file b f) fun r t b' hx => ?_
        exact hx.resolve_right fun hf => h ⟨rfl, ⟨hc, hf.1⟩, hf.2⟩
      obtain ⟨-, hfin⟩ := hlien
      exact hfin
    · exact congrFun ((execution_fiche S .administrateur p b f).2 hc) _
  · exact execution_docs_of_ne (by decide) fun h => absurd h he

end EcranAjout

end EduConnect.Admin
