import EduConnect.Enseignant.Notes
import EduConnect.Lib.Lock

/-!
# The grades that are stored

`_enregistrerNotes` checks the entries once, then stores them one by one, and reads each again when
its turn comes.  The check lets `NaN` pass, and an entry typed in the meantime is not checked.
-/

namespace EduConnect.Enseignant

open Lib Prog

theorem trim_empty : trim "" = "" := by decide +kernel

/-- A number from 0 to 20. -/
def SurVingt (x : Double) : Prop := ∃ q : ℚ, x.value = some q ∧ 0 ≤ q ∧ q ≤ 20

/-- A grade added to `notes` is a number from 0 to 20, with its mention. -/
def NoteValide (r : Requete) : Prop := ∀ fs, r = .add .notes fs →
  ∃ x, SurVingt x ∧ newDoc 0 fs .valeur = some (.num x) ∧
    newDoc 0 fs .mention = some (.str (getMention x))

/-- The number typed, if the text is one, is from 0 to 20. -/
def TexteSur (texte : String) : Prop :=
  ∀ x, Double.tryParse (texteNote texte) = some x → SurVingt x

theorem texteSur_vingt : TexteSur "20" := by
  intro x hx
  have h20 : Double.tryParse (texteNote "20") = some (.finite 20) := by decide +kernel
  rw [h20] at hx
  obtain rfl := Option.some.inj hx
  exact ⟨20, rfl, by decide, le_refl _⟩

/-- An accepted entry is a number from 0 to 20, unless it is `NaN`. -/
theorem texteSur_of_acceptee {texte : String} (h : noteAcceptee texte = true)
    (hnan : Double.tryParse (texteNote texte) ≠ some .nan) : TexteSur texte := by
  intro x hx
  unfold noteAcceptee at h
  by_cases htrim : trim texte = ""
  · have hnone : Double.tryParse (texteNote texte) = none := by
      unfold texteNote
      rw [htrim]
      decide +kernel
    rw [hnone] at hx
    cases hx
  rw [if_neg htrim, hx] at h
  obtain ⟨hlow, hhigh⟩ := Bool.and_eq_true_iff.mp h
  rcases x with _ | neg | _ | q
  · exact absurd hx hnan
  · rcases neg with _ | _
    · simp [Double.lt] at hhigh
    · simp [Double.lt] at hlow
  · exact ⟨0, rfl, le_refl _, by decide⟩
  · refine ⟨q, rfl, ?_, ?_⟩
    · simpa [Double.lt] using hlow
    · simpa [Double.lt] using hhigh

namespace NotesPage

/-- The entries are safe. -/
def SaisieSure (p : NotesPage) : Prop := ∀ e texte, p.notesStr.find e = some texte → TexteSur texte

/-- The invariant: the entries are safe while the page saves. -/
def Sauf (p : NotesPage) : Prop := p.saving = true → p.SaisieSure

/-- No `NaN` is there when the button is pressed, and only safe texts are typed while the page
saves. -/
def FrappeSure : Evenement → NotesPage → Prop
  | .enregistrer _, p => ∀ e texte, p.notesStr.find e = some texte →
      Double.tryParse (texteNote texte) ≠ some .nan
  | .saisir _ texte, p => p.saving = true → TexteSur texte
  | _, _ => True

theorem saisieSure_empty {p : NotesPage} (h : p.notesStr = Table.empty) : p.SaisieSure := by
  intro e texte he
  rw [h, Table.find_empty] at he
  cases he

theorem SaisieSure.put {t : Table String String}
    (h : ∀ e texte, t.find e = some texte → TexteSur texte) {id texte : String}
    (htexte : TexteSur texte) : ∀ e u, (t.put id texte).find e = some u → TexteSur u := by
  intro e u hu
  rw [Table.find_put] at hu
  by_cases he : e = id
  · rw [if_pos he] at hu
    exact Option.some.inj hu ▸ htexte
  · rw [if_neg he] at hu
    exact h e u hu

theorem saisieSure_remplirMax {p : NotesPage} (h : p.SaisieSure) : (remplirMax p).SaisieSure := by
  have hfold : ∀ (l : List EleveAvecNom) (t : Table String String),
      (∀ e texte, t.find e = some texte → TexteSur texte) →
      ∀ e texte, (l.foldl (fun t e => t.put e.eleveId "20") t).find e = some texte →
        TexteSur texte := by
    intro l
    induction l with
    | nil => exact fun t ht => ht
    | cons a l ih => exact fun t ht => ih _ (SaisieSure.put ht texteSur_vingt)
  exact hfold p.eleves p.notesStr h

/-- The entries the check accepts, without `NaN`, are safe. -/
theorem saisieSure_of_acceptees {p : NotesPage} (h : p.notesAcceptees = true)
    (hnan : ∀ e texte, p.notesStr.find e = some texte →
      Double.tryParse (texteNote texte) ≠ some .nan) : p.SaisieSure := by
  intro e texte he
  have hmem : (e, texte) ∈ p.notesStr.rows := Table.find_eq_some_iff.mp he
  unfold notesAcceptees at h
  rw [List.all_eq_true] at h
  exact texteSur_of_acceptee (h (e, texte) hmem) (hnan e texte he)

/-- A grade is read from an entry that is a number. -/
theorem noteSaisie_eq_some_iff {p : NotesPage} {e : String} {x : Double} :
    p.noteSaisie e = .ok (some x) ↔ trim ((p.notesStr.find e).getD "") ≠ "" ∧
      Double.tryParse (texteNote ((p.notesStr.find e).getD "")) = some x := by
  unfold noteSaisie
  generalize (p.notesStr.find e).getD "" = texte
  by_cases htrim : trim texte = ""
  · simp only [htrim, if_true, ne_eq, not_true_eq_false, false_and, Except.ok.injEq, reduceCtorEq]
  · simp only [htrim, if_false, ne_eq, not_false_eq_true, true_and]
    generalize Double.tryParse (texteNote texte) = y
    rcases y with _ | y
    · simp only [reduceCtorEq]
    · simp only [Except.ok.injEq]

/-- A grade read from safe entries. -/
theorem surVingt_of_noteSaisie {p : NotesPage} (h : p.SaisieSure) {e : String} {x : Double}
    (hx : p.noteSaisie e = .ok (some x)) : SurVingt x := by
  obtain ⟨htrim, hparse⟩ := noteSaisie_eq_some_iff.mp hx
  rcases hfind : p.notesStr.find e with _ | texte
  · rw [hfind] at htrim
    exact absurd trim_empty htrim
  · rw [hfind] at hparse
    exact h e texte hfind x hparse

/-- The document added for a grade. -/
theorem noteValide_note (p : NotesPage) (h : Horloge) (e : String) {x : Double} (hx : SurVingt x)
    (type : TypeNote) (matiereId : String) :
    NoteValide (.add .notes (p.note h e x type matiereId)) := by
  rintro fs hfs
  obtain rfl : p.note h e x type matiereId = fs := by
    cases hfs
    rfl
  refine ⟨x, hx, ?_, ?_⟩ <;> rw [newDoc_note p h e x type matiereId 0 (by decide) (by decide)] <;> rfl

/-! ## Each action of the page -/

variable {ι : Type} {i : ι} {w : List (Exchange ι EtapeNotes Requete Req.Ans Err)} {s : NotesPage}

/-- The rule of the pages; a save that goes on finds the page saving. -/
abbrev Regle {α : Type} (i : ι)
    (Q : Except Err α → List (Exchange ι EtapeNotes Requete Req.Ans Err) → NotesPage → Prop)
    (p : Action EtapeNotes NotesPage α) (w : List (Exchange ι EtapeNotes Requete Req.Ans Err))
    (s : NotesPage) : Prop :=
  p.Ok (fun _ _ s => s.Sauf) (fun _ _ _ r => NoteValide r)
    (fun _ x s => Sauvegarde x.lab → s.saving = true) i Q w s

/-- The page while it saves. -/
def EnCours (s : NotesPage) : Prop := s.saving = true ∧ s.SaisieSure

theorem EnCours.sauf (h : s.EnCours) : s.Sauf := fun _ => h.2

/-- A program of the loads. -/
theorem regle_charger {α : Type} {p : Action EtapeNotes NotesPage α} {l : EtapeNotes}
    (hp : p.Keeps Sauf) (hr : p.Issues (Choix.Lit l)) (h : s.Sauf) :
    Regle i (fun _ _ x => x.Sauf) p w s := by
  refine Keeps.ok (fun _ => hp) hr (fun w l r hlit fs hfs => ?_) h
  rw [hfs] at hlit
  exact hlit.2.elim

/-- A part of a save that adds no grade. -/
theorem regle_suite {α : Type} {p : Action EtapeNotes NotesPage α} (hp : p.Keeps EnCours)
    (hr : p.Issues fun l r => Sauvegarde l ∧ NoteValide r) (h : s.EnCours) :
    Regle i (fun _ _ x => x.EnCours) p w s :=
  Keeps.ok_of (J := fun _ _ s => s.EnCours) (fun _ _ h => h.sauf)
    (fun _ _ _ _ _ hr hI hC => ⟨hC hr.1, hI (hC hr.1)⟩) (fun _ => hp) hr (fun _ _ _ hr => hr.2) h

/-- The requests of a save but the one that adds a grade. -/
theorem noteValide_of_ne {r : Requete} (h : ∀ fs, r ≠ .add .notes fs) : NoteValide r :=
  fun fs hfs => absurd hfs (h fs)

theorem regle_noter (h : Horloge) (eleveId : String) (hs : s.EnCours) :
    Regle i (fun _ _ x => x.EnCours) (noter h eleveId) w s := by
  unfold noter
  refine ok_page.mpr (ok_bind.mpr (ok_ofExcept.mpr ?_))
  rcases hx : s.noteSaisie eleveId with e | _ | x
  · exact hs
  · exact ok_ret.mpr hs
  refine ok_bind.mpr (ok_ofExcept.mpr ?_)
  rcases nonNul s.typeNote with e | type
  · exact hs
  refine ok_bind.mpr (ok_ofExcept.mpr ?_)
  rcases nonNul s.matiereChoisieId with e | matiereId
  · exact hs
  -- the entry is read and sent without an await in between
  have hvalide := noteValide_note s h eleveId (surVingt_of_noteSaisie hs.2 hx) type matiereId
  refine ok_call_bind.mpr ⟨hs.sauf, hvalide, ?_⟩
  have hnote : Sauvegarde .note := by simp [Sauvegarde]
  rintro (e | noteId) w' s' - - hI hC
  · exact ⟨hC hnote, hI (hC hnote)⟩
  have hs' : s'.EnCours := ⟨hC hnote, hI (hC hnote)⟩
  refine regle_suite (.bind (keeps_call _ _) fun _ => trivial) (.bind ?_ fun _ => trivial) hs'
  exact (issues_ecrire _ _).mpr ⟨by simp [Sauvegarde], noteValide_of_ne fun fs hfs => by cases hfs⟩

theorem regle_enregistrerEleve (h : Horloge) (matiereNom : Valeur) (eleveId : String)
    (hs : s.EnCours) :
    Regle i (fun _ _ x => x.EnCours) (enregistrerEleve h matiereNom eleveId) w s := by
  unfold enregistrerEleve
  have hget : ∀ {l c id}, Sauvegarde l → Sauvegarde l ∧ NoteValide (.get c id) :=
    fun hl => ⟨hl, noteValide_of_ne fun fs hfs => by cases hfs⟩
  have hnotif : ∀ {l fs}, Sauvegarde l → Sauvegarde l ∧ NoteValide (.add .notifications fs) :=
    fun hl => ⟨hl, noteValide_of_ne fun fs hfs => by cases hfs⟩
  refine ok_bind.mpr ((regle_suite (Choix.keeps_lireDoc _ _ _)
    (issues_lireDoc (hget (by simp [Sauvegarde]))) hs).mono ?_)
  rintro (e | _ | eleve) w₁ s₁ hs₁
  · exact hs₁
  · exact ok_ret.mpr hs₁
  refine ok_bind.mpr ((regle_suite (keeps_noms _)
    (issues_noms (fun id => hget (by simp [Sauvegarde])) _) hs₁).mono ?_)
  rintro (e | ⟨prenom, nom⟩) w₂ s₂ hs₂
  · exact hs₂
  refine ok_bind.mpr ((regle_noter h eleveId hs₂).mono ?_)
  rintro (e | note) w₃ s₃ hs₃
  · exact hs₃
  refine regle_suite (keeps_avertir _ _ _ _) (issues_avertir (fun q => ?_) (fun p message famille => ?_)
    (fun message => ?_)) hs₃
  · exact ⟨by simp [Sauvegarde], noteValide_of_ne fun fs hfs => by cases hfs⟩
  · exact hnotif (by simp [Sauvegarde])
  · exact hnotif (by simp [Sauvegarde])

theorem regle_parcourir (h : Horloge) (matiereNom : Valeur) (ids : List String) (hs : s.EnCours) :
    Regle i (fun _ _ x => x.EnCours) (parcourir h matiereNom ids) w s := by
  induction ids generalizing w s with
  | nil => exact ok_ret.mpr hs
  | cons id ids ih =>
    refine ok_bind.mpr ((regle_enregistrerEleve h matiereNom id hs).mono ?_)
    rintro (e | u) w' s' hs'
    · exact hs'
    · exact ih hs'

theorem regle_enregistrer (h : Horloge) (matiereId : String) (hs : s.EnCours) :
    Regle i (fun _ _ x => x.EnCours) (enregistrer h matiereId) w s := by
  unfold enregistrer enregistrerTous
  have hget : Sauvegarde .matiere ∧ NoteValide (.get .matieres matiereId) :=
    ⟨by simp [Sauvegarde], noteValide_of_ne fun fs => nofun⟩
  refine ok_bind.mpr (ok_bind.mpr ((regle_suite (Choix.keeps_lireDoc _ _ _) (issues_lireDoc hget)
    hs).mono ?_))
  rintro (e | doc) w₁ s₁ hs₁
  · exact hs₁
  refine ok_bind.mpr (ok_ofExcept.mpr ?_)
  rcases nomMatiere doc with e | matiereNom
  · exact hs₁
  refine ok_page.mpr ((regle_parcourir h matiereNom _ hs₁).mono ?_)
  rintro (e | u) w₂ s₂ hs₂
  · exact hs₂
  · exact ok_setState_ret.mpr ⟨hs₂.1, saisieSure_empty rfl⟩

/-- A save: the entries are safe from the check on. -/
theorem regle_enregistrerNotes (h : Horloge) (hs : s.Sauf) (hsure : FrappeSure (.enregistrer h) s) :
    Regle i (fun _ _ x => x.Sauf) (enregistrerNotes h) w s := by
  unfold enregistrerNotes
  refine ok_page.mpr ?_
  split
  · rename_i matiereId type _ _ _
    by_cases hdesc : type = .exercice ∧ trim s.descriptionExercice = ""
    · rw [if_pos hdesc]
      exact ok_setState_ret.mpr hs
    rw [if_neg hdesc]
    by_cases hok : s.notesAcceptees = true
    · rw [if_pos hok]
      have hcours : EnCours (sur (fun c => { c with saving := true }) s) :=
        ⟨rfl, saisieSure_of_acceptees hok hsure⟩
      refine ok_setState.mpr (ok_ensuring.mpr (ok_catching.mpr ?_))
      refine (regle_enregistrer h matiereId hcours).mono ?_
      rintro (e | u) w' s' hs'
      · exact ok_setState_ret.mpr fun hup => absurd hup (by simp [sur])
      · exact fun hup => absurd hup (by simp [sur])
    · rw [if_neg hok]
      exact ok_setState_ret.mpr hs
  · exact ok_setState_ret.mpr hs

/-- Every action of the page follows the rule. -/
theorem regle_on_notes {ev : Evenement} {p : Action EtapeNotes NotesPage Unit}
    (hsure : FrappeSure ev s) (hp : s.on ev = some p) (hs : s.Sauf) :
    Regle i (fun _ _ x => x.Sauf) p w s := by
  rcases ev with _ | n | n | t | n | texte | ⟨n, texte⟩ | _ | _ | h
  · obtain rfl := Option.some.inj hp
    refine regle_charger (keeps_initData (fun f hf s hs hup => ?_) (fun _ hs => hs) fun _ _ hs => hs)
      issues_initData hs
    exact hs ((hf.1 s.toChoix).2.2 ▸ hup)
  all_goals
    unfold on at hp
    dsimp only at hp
    split_ifs at hp
  · obtain ⟨c, -, rfl⟩ := Option.map_eq_some_iff.mp hp
    refine ok_setState.mpr (regle_charger (Choix.keeps_chargerMatieres (fun f hf s hs hup => ?_) _ _)
      (Choix.issues_chargerMatieres _ _) fun _ => saisieSure_empty rfl)
    exact hs ((hf.1 s.toChoix).2.2 ▸ hup)
  · obtain ⟨c, -, hm⟩ := Option.bind_eq_some_iff.mp hp
    obtain ⟨m, -, rfl⟩ := Option.map_eq_some_iff.mp hm
    refine ok_setState.mpr (regle_charger ?_ (issues_chargerEleves c) fun _ => saisieSure_empty rfl)
    exact keeps_chargerEleves c fun l p _ _ => saisieSure_empty rfl
  · obtain rfl := Option.some.inj hp
    exact ok_setState_ret.mpr fun _ => saisieSure_empty rfl
  · obtain ⟨q, -, rfl⟩ := Option.map_eq_some_iff.mp hp
    exact ok_setState_ret.mpr hs
  · obtain rfl := Option.some.inj hp
    exact ok_setState_ret.mpr hs
  · obtain ⟨e, -, rfl⟩ := Option.map_eq_some_iff.mp hp
    exact ok_setState_ret.mpr fun hup => SaisieSure.put (hs hup) (hsure hup)
  · obtain rfl := Option.some.inj hp
    exact ok_setState_ret.mpr fun hup => saisieSure_remplirMax (hs hup)
  · obtain rfl := Option.some.inj hp
    exact ok_setState_ret.mpr fun _ => saisieSure_empty rfl
  · obtain rfl := Option.some.inj hp
    exact regle_enregistrerNotes h hs hsure

/-- A load, or a change of the page, leaves the flag alone. -/
theorem outside_of_lit {p : Action EtapeNotes NotesPage Unit} {l : EtapeNotes} (hl : ¬Sauvegarde l)
    (hp : ∀ b, p.Keeps fun s => s.saving = b) (hr : p.Issues (Choix.Lit l)) :
    p.Outside (fun s => s.saving) Sauvegarde :=
  ⟨hp, hr.mono fun _ _ h => h.1 ▸ hl⟩

theorem outside_setState {f : NotesPage → NotesPage} (hf : ∀ s, (f s).saving = s.saving) :
    (setState f : Action EtapeNotes NotesPage Unit).Outside (fun s => s.saving) Sauvegarde :=
  ⟨fun _ => (keeps_setState _).mpr fun s hs => (hf s).trans hs, trivial⟩

/-- `saving` disables the button for as long as `_enregistrerNotes` runs. -/
theorem inside_enregistrerNotes (h : Horloge) (hs : s.saving = false) :
    (enregistrerNotes h).Inside (fun s => s.saving) Sauvegarde s := by
  unfold enregistrerNotes
  simp only [bind_eq, Prog.page, bind_read, bind_ret]
  unfold Prog.Inside
  dsimp only
  split
  · rename_i matiereId type _ _ _
    by_cases hdesc : type = .exercice ∧ trim s.descriptionExercice = ""
    · rw [if_pos hdesc]
      exact hs
    rw [if_neg hdesc]
    by_cases hok : s.notesAcceptees = true
    · rw [if_pos hok]
      refine inside_ensuring (fun s : NotesPage => s.saving) Sauvegarde ?_ ?_ (fun _ => rfl) rfl
      · refine .catching (keeps_enregistrer h matiereId fun _ _ hp => hp) fun e => ?_
        exact (keeps_setState _).mpr fun _ hp => hp
      · have hissues := (issues_enregistrer envois_envoi h matiereId).mono fun _ _ hr => hr.1
        exact .catching hissues fun e => trivial
    · rw [if_neg hok]
      exact hs
  · exact hs

theorem on_saving {ev : Evenement} {p : Action EtapeNotes NotesPage Unit} (hp : s.on ev = some p) :
    p.Outside (fun s => s.saving) Sauvegarde ∨
      s.saving = false ∧ p.Inside (fun s => s.saving) Sauvegarde s := by
  have hchoix : ¬Sauvegarde .choix := fun h => h.1 rfl
  have heleves : ¬Sauvegarde .eleves := fun h => h.2 rfl
  have hsur : ∀ b f, Choix.Remplit f → ∀ s : NotesPage, s.saving = b → (sur f s).saving = b :=
    fun b f hf s hs => (hf s.toChoix).2.2.trans hs
  rcases ev with _ | n | n | t | n | texte | ⟨n, texte⟩ | _ | _ | h
  · obtain rfl := Option.some.inj hp
    exact Or.inl (outside_of_lit hchoix (fun b => keeps_initData (fun f hf => hsur b f hf.1)
      (fun _ hs => hs) fun _ _ hs => hs) issues_initData)
  all_goals
    unfold on at hp
    dsimp only at hp
    split_ifs at hp
  · obtain ⟨c, -, rfl⟩ := Option.map_eq_some_iff.mp hp
    refine Or.inl (outside_of_lit hchoix (fun b => ?_) (.bind trivial fun _ =>
      Choix.issues_chargerMatieres _ _))
    exact .bind ((keeps_setState _).mpr fun _ hs => hs) fun _ =>
      Choix.keeps_chargerMatieres (fun f hf => hsur b f hf.1) _ _
  · obtain ⟨c, -, hm⟩ := Option.bind_eq_some_iff.mp hp
    obtain ⟨m, -, rfl⟩ := Option.map_eq_some_iff.mp hm
    refine Or.inl (outside_of_lit heleves (fun b => ?_) (.bind trivial fun _ =>
      issues_chargerEleves c))
    exact .bind ((keeps_setState _).mpr fun _ hs => hs) fun _ =>
      keeps_chargerEleves c fun _ _ hs => hs
  · obtain rfl := Option.some.inj hp
    exact Or.inl (outside_setState fun _ => rfl)
  · obtain ⟨q, -, rfl⟩ := Option.map_eq_some_iff.mp hp
    exact Or.inl (outside_setState fun _ => rfl)
  · obtain rfl := Option.some.inj hp
    exact Or.inl (outside_setState fun _ => rfl)
  · obtain ⟨e, -, rfl⟩ := Option.map_eq_some_iff.mp hp
    exact Or.inl (outside_setState fun _ => rfl)
  · obtain rfl := Option.some.inj hp
    exact Or.inl (outside_setState fun _ => rfl)
  · obtain rfl := Option.some.inj hp
    exact Or.inl (outside_setState fun _ => rfl)
  · rename_i hopen
    obtain rfl := Option.some.inj hp
    have hdown : s.saving = false := by
      rw [not_or] at hopen
      exact Bool.not_eq_true _ ▸ hopen.2
    exact Or.inr ⟨hdown, inside_enregistrerNotes h hdown⟩

end NotesPage

/-! ## Runs -/

section Runs

variable {ι : Type} [DecidableEq ι]

abbrev SystemeNotes (ι : Type) := Sys ι EtapeNotes Requete Req.Ans Err NotesPage Base

/-- The grades pages of any number of teachers on the server `S`. -/
def pagesNotes (ι : Type) (S : Server) :
    Spec ι EtapeNotes Requete Req.Ans Err NotesPage Base NotesPage.Evenement where
  handler := S.handler
  lost := .unavailable
  on _ ev p := p.on ev

/-- Every grade sent is a number from 0 to 20, with its mention. -/
def NotesValides (s : SystemeNotes ι) : Prop := ∀ x ∈ s.log, NoteValide x.req

/-- **Only valid grades are stored.**  In every run of grades pages in which no entry is `NaN` when
the button is pressed and only numbers from 0 to 20, or texts that are no numbers, are typed while a
page saves, every grade sent is a number from 0 to 20 with its mention. -/
theorem notesValides_run (S : Server) (b : Base) (pages : ι → String × String)
    (as : List (Act ι NotesPage.Evenement Base)) {s : SystemeNotes ι}
    (hs : s = Sys.init b fun i => { etablissementId := (pages i).1, utilisateurId := (pages i).2 })
    (h : AllMeet (Sys.step (pagesNotes ι S)) (Sys.Admits NotesPage.FrappeSure) s as) :
    Always (Sys.step (pagesNotes ι S)) NotesValides s as := by
  have hheld : s.Held (fun p => p.saving) NotesPage.Sauvegarde := by
    rw [hs]
    exact Sys.Held.init b _
  have hstart : s.Ok (fun _ _ p => p.Sauf) (fun _ _ _ r => NoteValide r)
      fun _ x p => NotesPage.Sauvegarde x.lab → p.saving = true := by
    rw [hs]
    exact Sys.Ok.init (fun i hup => absurd hup (by simp)) b
  have hfound := Sys.allMeet_held (pagesNotes ι S) (fun i ev p q hq => NotesPage.on_saving hq)
    hheld as
  have hall := Sys.always_ok_admits (pagesNotes ι S) (fun _ _ _ _ _ hI => hI)
    (fun _ _ _ _ _ _ hG => hG) (fun w i ev p q hE hq hI => NotesPage.regle_on_notes hE hq hI)
    hstart h hfound
  exact hall.mono fun s hs => hs.sent

end Runs

/-! ### One student -/

/-- The teacher `t` of the class `A`, with the student `a`. -/
def uneClasse : Base :=
  (((((baseVide.putDoc .enseignants "t" (newDoc 0 [texte .utilisateurId "u"])).putDoc
    .classes "A" (newDoc 0 [texte .nom "A", texte .niveau "1", texte .etablissementId "e",
      textes .enseignantsIds ["t"], textes .matieresIds ["m"], textes .elevesIds ["a"]])).putDoc
    .enseignements "x" (newDoc 0 [texte .enseignantId "t", texte .matiereId "m"])).putDoc
    .matieres "m" (newDoc 0 [texte .nom "Maths"])).putDoc
    .eleves "a" (newDoc 0 [texte .utilisateurId "ua", textes .notesIds []])).putDoc
    .utilisateurs "ua" (newDoc 0 [texte .prenom "", texte .nom "a"])

def pageNotes : NotesPage := { etablissementId := "e", utilisateurId := "u" }

def horlogeZero : NotesPage.Horloge := ⟨"01 janvier 2025", fun _ => 0, fun _ _ => 0, fun _ => 0⟩

/-- The page is opened, `texte` typed for `a` and saved; another text is typed when the backend has
answered the first two requests. -/
def saisieDe (texte autre : String) : List (Act Unit NotesPage.Evenement Base) :=
  [.event () .ouvrir] ++ poursuivre 0 4 ++ [.event () (.classe 0)] ++ poursuivre 0 3 ++
    [.event () (.matiere 0)] ++ poursuivre 0 4 ++
    [.event () (.type .examen), .event () (.saisir 0 texte), .event () (.enregistrer horlogeZero)] ++
    poursuivre 0 2 ++ [.event () (.saisir 0 autre)] ++ poursuivre 0 3

/-- A test of `TexteSur`. -/
def texteSurTest (texte : String) : Bool :=
  match Double.tryParse (texteNote texte) with
  | none => true
  | some x => x.value.any fun q => decide (0 ≤ q) && decide (q ≤ 20)

theorem texteSur_of_test {texte : String} (h : texteSurTest texte = true) : TexteSur texte := by
  intro x hx
  unfold texteSurTest at h
  rw [hx] at h
  obtain ⟨q, hq, htest⟩ := (Option.any_eq_true _ _).mp h
  obtain ⟨hlow, hhigh⟩ := Bool.and_eq_true_iff.mp htest
  exact ⟨q, hq, of_decide_eq_true hlow, of_decide_eq_true hhigh⟩

/-- A test of `FrappeSure`. -/
def frappeTest (s : SystemeNotes Unit) : Act Unit NotesPage.Evenement Base → Bool
  | .event i (.enregistrer _) =>
    (s.pages i).notesStr.rows.all fun r => decide (Double.tryParse (texteNote r.2) ≠ some .nan)
  | .event i (.saisir _ texte) => !(s.pages i).saving || texteSurTest texte
  | _ => true

theorem admits_of_frappeTest (s : SystemeNotes Unit) (a : Act Unit NotesPage.Evenement Base)
    (h : frappeTest s a = true) : Sys.Admits NotesPage.FrappeSure s a := by
  rcases a with ⟨i, ev⟩ | _ | _ | _ | _
  case event =>
    rcases ev with _ | n | n | t | n | texte | ⟨n, texte⟩ | _ | _ | horloge
    case enregistrer =>
      intro e texte he
      have hmem : (e, texte) ∈ (s.pages i).notesStr.rows := Table.find_eq_some_iff.mp he
      unfold frappeTest at h
      rw [List.all_eq_true] at h
      exact of_decide_eq_true (h (e, texte) hmem)
    case saisir =>
      intro hup
      simp only [frappeTest, hup, Bool.not_true, Bool.false_or] at h
      exact texteSur_of_test h
    all_goals trivial
  all_goals trivial

theorem notesValides_run_quinze :
    Always (Sys.step (pagesNotes Unit (Server.longest 10))) NotesValides
      (Sys.init uneClasse fun _ => pageNotes) (saisieDe "15,5" "16") :=
  notesValides_run (Server.longest 10) uneClasse (fun _ => ("e", "u")) (saisieDe "15,5" "16") rfl
    (allMeet_of_checkAll frappeTest admits_of_frappeTest (by decide +kernel))

/-- A test of a grade `NaN` that was sent. -/
def noteNan (s : SystemeNotes Unit) : Bool :=
  s.log.any fun x => match x.req with
    | .add .notes fs => match newDoc 0 fs .valeur with
      | some (.num .nan) => true
      | _ => false
    | _ => false

/-- `NaN` is typed, and stored. -/
theorem not_notesValides_nan :
    ¬Always (Sys.step (pagesNotes Unit (Server.longest 10))) NotesValides
      (Sys.init uneClasse fun _ => pageNotes) (saisieDe "NaN" "NaN") := by
  refine not_always_of_final noteNan (fun s hs hP => ?_) (by decide +kernel)
  obtain ⟨x, hx, hreq⟩ := List.any_eq_true.mp hs
  split at hreq
  · rename_i fs hfs
    obtain ⟨y, ⟨q, hq, -, -⟩, hvaleur, -⟩ := hP x hx fs hfs
    rw [hvaleur] at hreq
    rcases y with _ | _ | _ | _
    · cases hq
    all_goals cases hreq
  · cases hreq

end EduConnect.Enseignant
