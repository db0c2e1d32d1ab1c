import EduConnect.Enseignant.Enregistrement
import EduConnect.Enseignant.Affichage

/-!
# Saves that are tried again

A save that fails keeps what was typed, and the button is pressed again.  `_enregistrerNotes` writes
one document after the other without a transaction: an attempt that fails after its first grade has
left this grade behind, and the next attempt adds it once more.
-/

namespace EduConnect.Enseignant

open Lib Prog NotesPage

/-! ## Attempts -/

/-- A press of the button: what the clock says, and the requests that are lost. -/
structure Tentative where
  horloge : Horloge
  pannes : List (Option Err)

/-- The page and the data after a press. -/
def tentative (S : Server) (y : NotesPage × Base) (a : Tentative) : NotesPage × Base :=
  let x := (enregistrerNotes a.horloge).exec (faulty S.handler) y.1 (y.2, a.pannes)
  (x.2.1, x.2.2.1)

def tentatives (S : Server) (y : NotesPage × Base) (as : List Tentative) : NotesPage × Base :=
  as.foldl (tentative S) y

/-- None of the presses succeeds. -/
def Echouees (S : Server) : NotesPage × Base → List Tentative → Prop
  | _, [] => True
  | y, a :: as => ¬Annonce y.1 (tentative S y a).1 ∧ Echouees S (tentative S y a) as

/-- The grade `v` of the student `e` was stored once, as the document `id`, and his record has
gained this id alone. -/
structure NoteUne (b b' : Base) (e : String) (v : Double) (id : String) : Prop where
  note : b.doc .notes id = none ∧
    ∃ d, b'.doc .notes id = some d ∧ d .eleveId = some (.str e) ∧ d .valeur = some (.num v)
  seule : ∀ id' d, b.doc .notes id' = none → b'.doc .notes id' = some d →
    d .eleveId = some (.str e) → id' = id
  dossier : ∀ d, b.doc .eleves e = some d → ∃ d', b'.doc .eleves e = some d' ∧
    ∀ x, x ∈ strsOf (d' .notesIds) ↔ x ∈ strsOf (d .notesIds) ∨ x = id

/-- So it is for each student of the class with a record and a grade. -/
def NotesUniques (p : NotesPage) (b b' : Base) : Prop :=
  ∀ e ∈ p.elevesDeLaClasse, ∀ v, Note p b e v → ∃ id, NoteUne b b' e v id

/-- The attempt loses a request that is not after the one that adds its first grade. -/
def CoupeAvant (p : NotesPage) (b : Base) (a : Tentative) : Prop :=
  ∀ n, avantNote p b p.elevesDeLaClasse = some n → firstFault a.pannes ≤ n + 1

/-- The class names each student with a record and a grade once. -/
def InscritsUneFois (p : NotesPage) (b : Base) : Prop :=
  ∀ e ∈ p.elevesDeLaClasse, (∃ v, Note p b e v) → p.elevesDeLaClasse.count e = 1

section Tentatives

variable {S : Server} {p q : NotesPage} {b b' : Base} {a : Tentative} {as : List Tentative}
  {t : TypeNote} {m : String}

/-! ## The page between two attempts -/

/-- `q` is `p` with other messages, saving or not. -/
def Variante (q p : NotesPage) : Prop :=
  ∃ s l, q = { sur (fun c => { c with saving := s }) p with messages := l }

theorem variante_occuper (p : NotesPage) : Variante (occuper p) p := ⟨true, p.messages, rfl⟩

theorem variante_echouer (e : Err) (p : NotesPage) : Variante (echouer e p) p := ⟨false, _, rfl⟩

theorem Variante.trans {r : NotesPage} (h : Variante r q) (h' : Variante q p) : Variante r p := by
  obtain ⟨s, l, rfl⟩ := h
  obtain ⟨s', l', rfl⟩ := h'
  exact ⟨s, l, rfl⟩

section Variantes

variable (h : Variante q p)
include h

theorem Variante.eleves : q.elevesDeLaClasse = p.elevesDeLaClasse := by
  obtain ⟨s, l, rfl⟩ := h
  rfl

theorem Variante.noteSaisie (e : String) : q.noteSaisie e = p.noteSaisie e := by
  have hentries : q.notesStr = p.notesStr := by
    obtain ⟨s, l, rfl⟩ := h
    rfl
  unfold NotesPage.noteSaisie
  rw [hentries]

theorem Variante.note_iff {e : String} {v : Double} : Note q b e v ↔ Note p b e v := by
  constructor
  · exact fun hn => ⟨hn.existe, (h.noteSaisie e).symm.trans hn.saisie⟩
  · exact fun hn => ⟨hn.existe, (h.noteSaisie e).trans hn.saisie⟩

theorem Variante.lisible_iff {e : String} : Lisible q b e ↔ Lisible p b e := by
  constructor
  · exact fun hl => ⟨hl.id, hl.noms, fun d hd => h.noteSaisie e ▸ hl.note d hd⟩
  · exact fun hl => ⟨hl.id, hl.noms, fun d hd => (h.noteSaisie e).symm ▸ hl.note d hd⟩

theorem Variante.avantNote (b : Base) (ids : List String) :
    avantNote q b ids = Enseignant.avantNote p b ids := by
  induction ids with
  | nil => rfl
  | cons e ids ih =>
    unfold Enseignant.avantNote
    rw [ih, h.noteSaisie]

theorem Variante.soumise_iff : Soumise q t m ↔ Soumise p t m := by
  obtain ⟨s, l, rfl⟩ := h
  exact ⟨fun hs => ⟨hs.classe, hs.matiere, hs.type, hs.description, hs.notes⟩,
    fun hs => ⟨hs.classe, hs.matiere, hs.type, hs.description, hs.notes⟩⟩

theorem Variante.coupeAvant_iff : CoupeAvant q b a ↔ CoupeAvant p b a := by
  unfold CoupeAvant
  rw [h.avantNote, h.eleves]

theorem Variante.avecNote {ids : List String} (ha : AvecNote q b ids b') : AvecNote p b ids b' := by
  obtain ⟨E, hE, e, he, ⟨v, hv⟩, hnote⟩ := ha
  exact ⟨E, hE, e, he, ⟨v, h.note_iff.mp hv⟩, hnote⟩

end Variantes

/-! ## One attempt -/

/-- The loop of an attempt. -/
abbrev boucle (S : Server) (p : NotesPage) (m : String) (b : Base) (a : Tentative) :
    Except Err Unit × NotesPage × Base × List (Option Err) :=
  (enregistrerTous a.horloge m).exec (faulty S.handler) (occuper p) (b, a.pannes)

theorem tentative_eq (hs : Soumise p t m) (b : Base) (a : Tentative) :
    tentative S (p, b) a = (match (boucle S p m b a).1 with
      | .ok _ => liberer (vider (afficher succes (occuper p)))
      | .error e => echouer e p, (boucle S p m b a).2.2.1) :=
  congrArg (fun x => (x.2.1, x.2.2.1))
    (exec_enregistrerNotes (faulty S.handler) hs a.horloge (b, a.pannes))

theorem not_annonce_echouer (e : Err) (p : NotesPage) : ¬Annonce p (echouer e p) := by
  intro hok
  have hmessages : p.messages ++ ["Erreur lors de l'enregistrement : " ++ texteErreur e] =
      p.messages ++ [succes] := hok
  exact erreur_ne_succes _ (List.singleton_inj.mp (List.append_cancel_left hmessages))

/-- An attempt succeeds or fails as its loop does. -/
theorem tentative_cases (hs : Soumise p t m) (b : Base) (a : Tentative) :
    (boucle S p m b a).1 = .ok () ∧ Annonce p (tentative S (p, b) a).1 ∨
    ∃ e, (boucle S p m b a).1 = .error e ∧ (tentative S (p, b) a).1 = echouer e p ∧
      ¬Annonce p (tentative S (p, b) a).1 := by
  rw [tentative_eq hs]
  rcases (boucle S p m b a).1 with e | u
  · exact Or.inr ⟨e, rfl, rfl, not_annonce_echouer e p⟩
  · exact Or.inl ⟨rfl, rfl⟩

/-- Every attempt has effects of a save. -/
theorem bilan_tentative (y : NotesPage × Base) (a : Tentative) :
    ∃ E, Bilan y.2 E (tentative S y a).2 := by
  refine (issues_enregistrerNotes envois_envoi a.horloge).exec
    (P := fun x : Base × List (Option Err) => ∃ E, Bilan y.2 E x.1) ?_ ⟨_, .refl y.2⟩
  rintro l r ⟨b, f⟩ ⟨-, hr⟩ ⟨E, hE⟩
  refine faulty_cases (P := fun x => ∃ E, Bilan y.2 E x.2.1) (fun _ _ => ⟨E, hE⟩) fun _ => ?_
  obtain ⟨E', hE'⟩ := bilan_handler S hr b
  exact ⟨_, hE.trans hE'⟩

/-- The loop of an attempt is cut at a request that is lost, or it runs as without faults. -/
theorem boucle_cases (S : Server) (p : NotesPage) (m : String) (b : Base) (a : Tentative) :
    (∃ e, (boucle S p m b a).1 = .error e ∧
      ((enregistrerTous a.horloge m).states S.handler (occuper p) b)[firstFault a.pannes]? =
        some (boucle S p m b a).2.2.1) ∨
    ((boucle S p m b a).1 = ((enregistrerTous a.horloge m).exec S.handler (occuper p) b).1 ∧
      (boucle S p m b a).2.2.1 =
        ((enregistrerTous a.horloge m).exec S.handler (occuper p) b).2.2) := by
  by_cases hcut : firstFault a.pannes < a.pannes.length ∧ firstFault a.pannes <
      ((enregistrerTous a.horloge m).states S.handler (occuper p) b).length
  · obtain ⟨e, s', f', hex⟩ :=
      exec_faulty_of_fault (direct_enregistrerTous a.horloge m) hcut.1 hcut.2
    refine Or.inl ⟨e, by rw [boucle, hex], ?_⟩
    rw [boucle, hex]
    exact List.getElem?_eq_getElem hcut.2
  · rw [not_and_or, not_lt, not_lt] at hcut
    obtain ⟨f', hex⟩ := exec_faulty_of_le hcut
    exact Or.inr ⟨by rw [boucle, hex], by rw [boucle, hex]⟩

/-- An attempt that succeeds has lost no request. -/
theorem tentative_of_annonce (hs : Soumise p t m) (hok : Annonce p (tentative S (p, b) a).1) :
    tentative S (p, b) a = (((enregistrerNotes a.horloge).exec S.handler p b).2.1,
      ((enregistrerNotes a.horloge).exec S.handler p b).2.2) := by
  have hboucle : (boucle S p m b a).1 = .ok () := by
    rcases tentative_cases (S := S) hs b a with ⟨hb, -⟩ | ⟨e, -, -, hnot⟩
    · exact hb
    · exact absurd hok hnot
  rcases boucle_cases S p m b a with ⟨e, he, -⟩ | ⟨hfin, hbase⟩
  · rw [he] at hboucle
    cases hboucle
  · rw [tentative_eq hs, hfin, hbase]
    exact congrArg Prod.snd (exec_enregistrerNotes S.handler hs a.horloge b).symm

/-! ## The attempts that fail -/

/-- The page can be saved: the name of the subject can be read, and the students of the class are
legible. -/
structure Enregistrable (p : NotesPage) (m : String) (b : Base) : Prop where
  id : m ≠ ""
  nom : ∃ nom, nomMatiere (b.doc .matieres m) = .ok nom
  eleves : ∀ e ∈ p.elevesDeLaClasse, Lisible p b e

theorem Enregistrable.exists_saisie (hs : Soumise p t m) (hp : Enregistrable p m b) (h : Horloge) :
    ∃ x : Saisie, x.page = occuper p ∧ x.horloge = h ∧ x.matiereId = m ∧ Prete x b := by
  obtain ⟨nom, hnom⟩ := hp.nom
  refine ⟨⟨occuper p, h, nom, t, m, hs.type, hs.matiere⟩, rfl, rfl, rfl, hp.id, hnom,
    fun e he => ?_⟩
  exact (variante_occuper p).lisible_iff.mpr (hp.eleves e he)

theorem Enregistrable.of_prete {x : Saisie} (hpage : Variante x.page p) (hx : Prete x b) :
    Enregistrable p x.matiereId b :=
  ⟨hx.id, ⟨_, hx.nom⟩, fun e he => hpage.lisible_iff.mp (hx.eleves e (hpage.eleves.symm ▸ he))⟩

theorem Variante.enregistrable_iff (h : Variante q p) :
    Enregistrable q m b ↔ Enregistrable p m b := by
  constructor
  · exact fun hq => ⟨hq.id, hq.nom, fun e he => h.lisible_iff.mp (hq.eleves e (h.eleves ▸ he))⟩
  · exact fun hp => ⟨hp.id, hp.nom, fun e he =>
      h.lisible_iff.mpr (hp.eleves e (h.eleves.symm ▸ he))⟩

theorem Bilan.enregistrable_iff {E : Effets} (h : Bilan b E b') :
    Enregistrable p m b' ↔ Enregistrable p m b := by
  have hdoc := h.doc (c := .matieres) (by decide) (by decide) (by decide) m
  constructor
  · exact fun hp => ⟨hp.id, hdoc ▸ hp.nom, fun e he => h.lisible_iff.mp (hp.eleves e he)⟩
  · exact fun hp => ⟨hp.id, hdoc.symm ▸ hp.nom, fun e he => h.lisible_iff.mpr (hp.eleves e he)⟩

theorem Bilan.coupeAvant_iff {E : Effets} (h : Bilan b E b') :
    CoupeAvant p b' a ↔ CoupeAvant p b a := by
  unfold CoupeAvant
  rw [h.avantNote]

/-- An attempt that fails on a page that can be saved has lost a request: before its first grade,
and no grade is written, or after it. -/
theorem issue_echec (hs : Soumise p t m) (hp : Enregistrable p m b)
    (hechec : ¬Annonce p (tentative S (p, b) a).1) :
    (∃ e, (tentative S (p, b) a).1 = echouer e p) ∧
    (CoupeAvant p b a ∧ SansNote b (tentative S (p, b) a).2 ∨
      ¬CoupeAvant p b a ∧ AvecNote p b p.elevesDeLaClasse (tentative S (p, b) a).2) := by
  obtain ⟨x, hpage, hhorloge, hmatiere, hprete⟩ := hp.exists_saisie hs a.horloge
  obtain ⟨ts, b', l, hruns, -, l₁, l₂, rfl, h₁, h₂, hn⟩ := runs_enregistrerTous (S := S) hprete
  rw [hpage, hhorloge, hmatiere] at hruns
  rw [hpage] at hn h₂
  rw [(variante_occuper p).avantNote, (variante_occuper p).eleves] at hn
  rcases tentative_cases (S := S) hs b a with ⟨-, hok⟩ | ⟨e, he, hpage', -⟩
  · exact absurd hok hechec
  refine ⟨⟨e, hpage'⟩, ?_⟩
  have hcoupe : (b :: (l₁ ++ l₂))[firstFault a.pannes]? = some (tentative S (p, b) a).2 := by
    rw [tentative_eq hs]
    rcases boucle_cases S p m b a with ⟨e', -, hcoupe⟩ | ⟨hfin, -⟩
    · rw [hruns.states] at hcoupe
      exact hcoupe
    · rw [hruns.exec, he] at hfin
      cases hfin
  have hsans : ∀ y ∈ b :: l₁, SansNote b y := by
    intro y hy
    rcases List.mem_cons.mp hy with rfl | hy
    · exact .refl _
    · exact h₁ y hy
  unfold CoupeAvant
  rcases hpremier : avantNote p b p.elevesDeLaClasse with _ | n
  · rw [hpremier] at hn
    obtain rfl : l₂ = [] := hn
    rw [List.append_nil] at hcoupe
    exact Or.inl ⟨nofun, hsans _ (List.mem_of_getElem? hcoupe)⟩
  · rw [hpremier] at hn
    have hlen : l₁.length = n + 1 := hn
    have hbornes : (∀ n', some n = some n' → firstFault a.pannes ≤ n' + 1) ↔
        firstFault a.pannes ≤ n + 1 :=
      ⟨fun h => h n rfl, fun h n' hn' => Option.some.inj hn' ▸ h⟩
    rw [hbornes, ← List.cons_append] at *
    by_cases havant : firstFault a.pannes ≤ n + 1
    · rw [List.getElem?_append_left (by rw [List.length_cons]; omega)] at hcoupe
      exact Or.inl ⟨havant, hsans _ (List.mem_of_getElem? hcoupe)⟩
    · rw [List.getElem?_append_right (by rw [List.length_cons]; omega)] at hcoupe
      have havec := h₂ _ (List.mem_of_getElem? hcoupe)
      rw [(variante_occuper p).eleves] at havec
      exact Or.inr ⟨havant, (variante_occuper p).avecNote havec⟩

/-- What attempts that fail leave: the page with other messages, and no grade if each was cut before
its first one. -/
theorem issue_echouees (hs : Soumise p t m) (hp : Enregistrable p m b)
    (hechec : Echouees S (p, b) as) :
    Variante (tentatives S (p, b) as).1 p ∧ ∃ E, Bilan b E (tentatives S (p, b) as).2 ∧
      ((∀ a ∈ as, CoupeAvant p b a) ∧ E.notes = [] ∧ E.dossiers = [] ∨
        ¬(∀ a ∈ as, CoupeAvant p b a) ∧ ∃ e ∈ p.elevesDeLaClasse, (∃ v, Note p b e v) ∧
          ∃ note ∈ E.notes, note.2 .eleveId = some (.str e)) := by
  induction as generalizing p b with
  | nil => exact ⟨⟨p.saving, p.messages, rfl⟩, {}, .refl b, Or.inl ⟨nofun, rfl, rfl⟩⟩
  | cons a as ih =>
    obtain ⟨hpremiere, hsuite⟩ := hechec
    obtain ⟨⟨e, hpage⟩, hissue⟩ := issue_echec hs hp hpremiere
    rcases htent : tentative S (p, b) a with ⟨q, b₁⟩
    rw [htent] at hpage hissue hsuite
    have hvar : Variante q p := by
      rw [show q = echouer e p from hpage]
      exact variante_echouer e p
    have hbilan : ∃ E, Bilan b E b₁ := by
      rcases hissue with ⟨-, E, hE, -⟩ | ⟨-, E, hE, -⟩
      · exact ⟨E, hE⟩
      · exact ⟨E, hE⟩
    obtain ⟨E₀, hE₀⟩ := hbilan
    have hcoupe : ∀ a', CoupeAvant q b₁ a' ↔ CoupeAvant p b a' := fun a' =>
      hvar.coupeAvant_iff.trans hE₀.coupeAvant_iff
    obtain ⟨hvar', E', hE', hreste⟩ := ih (hvar.soumise_iff.mpr hs)
      (hvar.enregistrable_iff.mpr (hE₀.enregistrable_iff.mpr hp)) hsuite
    have hfin : tentatives S (p, b) (a :: as) = tentatives S (q, b₁) as :=
      congrArg (fun y => tentatives S y as) htent
    rw [hfin]
    refine ⟨hvar'.trans hvar, ?_⟩
    rcases hissue with ⟨ha, E, hE, hnotes, hdossiers⟩ | ⟨ha, E, hE, e, he, hnote, hrow⟩
    · refine ⟨E ++ E', hE.trans hE', ?_⟩
      rcases hreste with ⟨hall, hnotes', hdossiers'⟩ | ⟨hall, e, he, ⟨v, hv⟩, row, hrow, hid⟩
      · refine Or.inl ⟨List.forall_mem_cons.mpr ⟨ha, fun a' ha' => (hcoupe a').mp (hall a' ha')⟩,
          ?_, ?_⟩
        · rw [Effets.notes_append, hnotes, hnotes']
          rfl
        · rw [Effets.dossiers_append, hdossiers, hdossiers']
          rfl
      · refine Or.inr ⟨fun hall' => hall fun a' ha' => (hcoupe a').mpr ?_, e, ?_, ⟨v, ?_⟩, row, ?_,
          hid⟩
        · exact hall' a' (List.mem_cons_of_mem _ ha')
        · rw [← hvar.eleves]
          exact he
        · exact hvar.note_iff.mp (hE₀.note_iff.mp hv)
        · rw [Effets.notes_append]
          exact List.mem_append_right _ hrow
    · obtain ⟨row, hrow, hid⟩ := hrow
      refine ⟨E ++ E', hE.trans hE', Or.inr ⟨fun hall => ha (hall a List.mem_cons_self), e, he,
        hnote, row, ?_, hid⟩⟩
      rw [Effets.notes_append]
      exact List.mem_append_left _ hrow

/-! ## The attempt that succeeds -/

theorem eleveId_note (x : Saisie) (now : ℤ) (e : String) (v : Double) :
    newDoc now (x.page.note x.horloge e v x.type x.matiereId) .eleveId = some (.str e) :=
  newDoc_note _ _ _ _ _ _ _ (by decide) (by decide)

theorem valeur_note (x : Saisie) (now : ℤ) (e : String) (v : Double) :
    newDoc now (x.page.note x.horloge e v x.type x.matiereId) .valeur = some (.num v) :=
  newDoc_note _ _ _ _ _ _ _ (by decide) (by decide)

/-- The grades of a student, turn by turn. -/
theorem countP_notes_effetsDe {x : Saisie} {ts : List Passage} {e : String} {v : Double} (now : ℤ)
    (hts : ∀ t ∈ ts, t.Juste x b) (hv : x.page.noteSaisie e = .ok (some v)) :
    (effetsDe x now ts).notes.countP (fun row => (row.2.get .eleveId).isStr e) =
      (ts.map fun t => t.eleve.eleveId).count e := by
  induction ts with
  | nil => rfl
  | cons t ts ih =>
    have htour : (t.effets x now).notes.countP (fun row => (row.2.get .eleveId).isStr e) =
        if t.eleve.eleveId = e then 1 else 0 := by
      have hjuste := hts t List.mem_cons_self
      by_cases he : t.eleve.eleveId = e
      · subst he
        obtain ⟨id, hnote⟩ := hjuste.note_eq hv
        have hstr := Doc.isStr_get_iff.mpr (eleveId_note x now t.eleve.eleveId v)
        simp [Passage.effets, hnote, hstr]
      · rw [if_neg he]
        rcases hnote : t.note with _ | ⟨u, id⟩
        · simp [Passage.effets, hnote]
        · have hstr : ((newDoc now (x.page.note x.horloge t.eleve.eleveId u x.type
              x.matiereId)).get .eleveId).isStr e = false := by
            rw [Bool.eq_false_iff, Ne, Doc.isStr_get_iff, eleveId_note]
            exact fun heq => he (Value.str.inj (Option.some.inj heq))
          simp [Passage.effets, hnote, hstr]
    unfold effetsDe
    rw [Effets.notes_append, List.countP_append, htour, ih fun t' ht' =>
      hts t' (List.mem_cons_of_mem _ ht'), List.map_cons, List.count_cons]
    simp only [beq_iff_eq]
    omega

/-- A student is written as many times as the roster names him. -/
theorem Parcouru.countP_notes {x : Saisie} {ids : List String} {ts : List Passage} {e : String}
    {v : Double} (h : Parcouru x b ids b' ts) (now : ℤ) (hex : Existe b e)
    (hv : x.page.noteSaisie e = .ok (some v)) :
    (effetsDe x now ts).notes.countP (fun row => (row.2.get .eleveId).isStr e) = ids.count e := by
  rw [countP_notes_effetsDe now h.justes hv, h.eleves]
  exact List.count_filter hex

theorem mem_dossiers_effetsDe {x : Saisie} {ts : List Passage} {now : ℤ} {row : String × String} :
    row ∈ (effetsDe x now ts).dossiers ↔ ∃ t ∈ ts, ∃ v id, t.note = some (v, id) ∧
      row = (t.eleve.eleveId, id) := by
  induction ts with
  | nil => simp [effetsDe]
  | cons t ts ih =>
    unfold effetsDe
    rw [Effets.dossiers_append, List.mem_append, ih, List.exists_mem_cons_iff]
    refine or_congr_left ?_
    unfold Passage.effets
    rcases t.note with _ | ⟨v, id⟩ <;> simp

section Bilans

variable {x : Saisie} {ts : List Passage} {E : Effets} {b₁ : Base} {e : String} {v : Double}

/-- A student has as many new grades as the failed attempts have left, and one more for each time
the roster names him. -/
theorem compte_of_noteUne (hE : Bilan b E b₁) (h : Parcouru x b₁ p.elevesDeLaClasse b' ts)
    (he : e ∈ p.elevesDeLaClasse) (hn : Note p b e v) (hx : Variante x.page p)
    (hune : ∃ id, NoteUne b b' e v id) :
    p.elevesDeLaClasse.count e = 1 ∧ ∀ note ∈ E.notes, note.2 .eleveId ≠ some (.str e) := by
  obtain ⟨id, hid⟩ := hune
  have hone : (E ++ effetsDe x b₁.clock ts).notes.countP
      (fun row => (row.2.get .eleveId).isStr e) = 1 := by
    refine ((hE.trans h.bilan).notes.countP_eq_one_iff fun d => (d.get .eleveId).isStr e).mpr ?_
    obtain ⟨hnone, d, hsome, heleve, -⟩ := hid.note
    refine ⟨id, ⟨hnone, d, hsome, Doc.isStr_get_iff.mpr heleve⟩, ?_⟩
    rintro id' ⟨hnone', d', hsome', hstr⟩
    exact hid.seule id' d' hnone' hsome' (Doc.isStr_get_iff.mp hstr)
  have hroster := h.countP_notes b₁.clock ((hE.existe_iff e).mpr hn.existe)
    ((hx.noteSaisie e).trans hn.saisie)
  rw [Effets.notes_append, List.countP_append, hroster] at hone
  have hpos := List.count_pos_iff.mpr he
  refine ⟨by omega, fun note hnote heleve => ?_⟩
  have hzero : E.notes.countP (fun row => (row.2.get .eleveId).isStr e) = 0 := by omega
  exact List.countP_eq_zero.mp hzero note hnote (Doc.isStr_get_iff.mpr heleve)

/-- Without a grade left behind, a student the roster names once has his grade once. -/
theorem noteUne_of_compte (hE : Bilan b E b₁) (hnotes : E.notes = []) (hdossiers : E.dossiers = [])
    (h : Parcouru x b₁ p.elevesDeLaClasse b' ts) (hn : Note p b e v) (hx : Variante x.page p)
    (hcount : p.elevesDeLaClasse.count e = 1) : ∃ id, NoteUne b b' e v id := by
  have hsaisie := (hx.noteSaisie e).trans hn.saisie
  have hbilan := hE.trans h.bilan
  have hadds : Adds .notes (effetsDe x b₁.clock ts).notes b b' := by
    have hall := hbilan.notes
    rw [Effets.notes_append, hnotes, List.nil_append] at hall
    exact hall
  have hone := h.countP_notes b₁.clock ((hE.existe_iff e).mpr hn.existe) hsaisie
  rw [hcount] at hone
  obtain ⟨id, ⟨hnone, d, hsome, hstr⟩, hseule⟩ :=
    (hadds.countP_eq_one_iff fun d => (d.get .eleveId).isStr e).mp hone
  have heleve := Doc.isStr_get_iff.mp hstr
  -- the turn of the student
  obtain ⟨t, ht, u, id', hnote, hrow⟩ := mem_notes_effetsDe.mp (hadds.new_iff.mp ⟨hnone, hsome⟩)
  obtain ⟨rfl, rfl⟩ := Prod.mk.inj hrow
  rw [eleveId_note] at heleve
  obtain rfl : t.eleve.eleveId = e := Value.str.inj (Option.some.inj heleve)
  obtain ⟨id₁, hnote'⟩ := (h.justes t ht).note_eq hsaisie
  obtain rfl : u = v := by
    rw [hnote'] at hnote
    exact (Prod.mk.inj (Option.some.inj hnote)).1.symm
  refine ⟨id, ⟨hnone, _, hsome, eleveId_note .., valeur_note ..⟩, fun i d hi hd hs => ?_,
    fun d hd => ?_⟩
  · exact hseule i ⟨hi, d, hd, Doc.isStr_get_iff.mpr hs⟩
  · obtain ⟨d', hd', -, hids⟩ := hbilan.eleve_of_some hd
    refine ⟨d', hd', fun y => (hids y).trans (or_congr_right ?_)⟩
    rw [Effets.dossiers_append, hdossiers, List.nil_append, mem_dossiers_effetsDe]
    constructor
    · rintro ⟨t', ht', w, i, hw, hpair⟩
      obtain ⟨heq, rfl⟩ := Prod.mk.inj hpair
      obtain ⟨hi, hd⟩ := hadds.new_iff.mpr (mem_notes_effetsDe.mpr ⟨t', ht', w, y, hw, rfl⟩)
      refine hseule y ⟨hi, _, hd, Doc.isStr_get_iff.mpr ?_⟩
      rw [eleveId_note, heq]
    · rintro rfl
      exact ⟨t, ht, u, y, hnote, rfl⟩

end Bilans

theorem bilan_tentatives (y : NotesPage × Base) (as : List Tentative) :
    ∃ E, Bilan y.2 E (tentatives S y as).2 := by
  induction as generalizing y with
  | nil => exact ⟨{}, .refl y.2⟩
  | cons a as ih =>
    obtain ⟨E, hE⟩ := bilan_tentative (S := S) y a
    obtain ⟨E', hE'⟩ := ih (tentative S y a)
    exact ⟨E ++ E', hE.trans hE'⟩

theorem variante_echouees (hs : Soumise p t m) (hechec : Echouees S (p, b) as) :
    Variante (tentatives S (p, b) as).1 p := by
  induction as generalizing p b with
  | nil => exact ⟨p.saving, p.messages, rfl⟩
  | cons a as ih =>
    obtain ⟨hpremiere, hsuite⟩ := hechec
    rcases tentative_cases (S := S) hs b a with ⟨-, hok⟩ | ⟨e, -, hpage, -⟩
    · exact absurd hok hpremiere
    rcases htent : tentative S (p, b) a with ⟨q, b₁⟩
    rw [htent] at hpage hsuite
    have hvar : Variante q p := by
      rw [show q = echouer e p from hpage]
      exact variante_echouer e p
    have hfin : tentatives S (p, b) (a :: as) = tentatives S (q, b₁) as :=
      congrArg (fun y => tentatives S y as) htent
    rw [hfin]
    exact (ih (hvar.soumise_iff.mpr hs) hsuite).trans hvar

/-- Presses that fail, then one that succeeds: each grade is stored once if and only if the class
names its students once and every press that failed was cut before its first grade. -/
theorem notesUniques_iff (hs : Soumise p t m) (hechec : Echouees S (p, b) as)
    (hok : Annonce (tentatives S (p, b) as).1 (tentatives S (p, b) (as ++ [a])).1) :
    NotesUniques p b (tentatives S (p, b) (as ++ [a])).2 ↔
      InscritsUneFois p b ∧ ∀ a ∈ as, CoupeAvant p b a := by
  have hvar := variante_echouees hs hechec
  have hfin : tentatives S (p, b) (as ++ [a]) = tentative S (tentatives S (p, b) as) a := by
    rw [tentatives, List.foldl_append]
    rfl
  rw [hfin] at hok ⊢
  rcases htent : tentatives S (p, b) as with ⟨q, b₁⟩
  rw [htent] at hok hvar
  have hq := hvar.soumise_iff.mpr hs
  have hdernier := tentative_of_annonce hq hok
  rw [hdernier] at hok ⊢
  obtain ⟨x, ts, hpage, -, hx, hprete, hparcouru⟩ := parcouru_of_annonce hok
  have hxp : Variante x.page p := by
    rw [hpage]
    exact (variante_occuper q).trans hvar
  have hmatiere : x.matiereId = m := Option.some.inj (hx.matiere.symm.trans hq.matiere)
  have hp₁ : Enregistrable p m b₁ := hmatiere ▸ Enregistrable.of_prete hxp hprete
  have hbilan : ∃ E, Bilan b E b₁ := by
    have hall := bilan_tentatives (S := S) (p, b) as
    rwa [htent] at hall
  obtain ⟨E₀, hE₀⟩ := hbilan
  obtain ⟨-, E, hE, hcas⟩ := issue_echouees hs (hE₀.enregistrable_iff.mp hp₁) hechec
  rw [htent] at hE
  rw [hvar.eleves] at hparcouru
  constructor
  · intro hunes
    refine ⟨fun e he ⟨v, hn⟩ => (compte_of_noteUne hE hparcouru he hn hxp (hunes e he v hn)).1, ?_⟩
    rcases hcas with ⟨hall, -⟩ | ⟨-, e, he, ⟨v, hn⟩, note, hnote, heleve⟩
    · exact hall
    · exact absurd heleve
        ((compte_of_noteUne hE hparcouru he hn hxp (hunes e he v hn)).2 note hnote)
  · rintro ⟨hinscrits, hall⟩ e he v hn
    rcases hcas with ⟨-, hnotes, hdossiers⟩ | ⟨hnot, -⟩
    · exact noteUne_of_compte hE hnotes hdossiers hparcouru hn hxp (hinscrits e he ⟨v, hn⟩)
    · exact absurd hall hnot

end Tentatives

/-! ### One student and one failure -/

/-- A press whose request number `n` is lost. -/
def coupeeA (n : ℕ) : Tentative := ⟨horlogeZero, List.replicate n none ++ [some .unavailable]⟩

theorem soumise_pageRemplie : Soumise (pageRemplie deuxEleves 0) .examen "m" :=
  ⟨⟨"A", by decide +kernel⟩, by decide +kernel, by decide +kernel, by decide +kernel,
    by decide +kernel⟩

theorem echouees_coupeeA {n : ℕ}
    (h : (tentative (Server.longest 10) (pageRemplie deuxEleves 0, deuxEleves)
      (coupeeA n)).1.messages ≠ (pageRemplie deuxEleves 0).messages ++ [succes]) :
    Echouees (Server.longest 10) (pageRemplie deuxEleves 0, deuxEleves) [coupeeA n] :=
  ⟨h, trivial⟩

/-- The first press is cut at its first request, and the second one succeeds. -/
theorem notesUniques_coupeeAuDebut :
    NotesUniques (pageRemplie deuxEleves 0) deuxEleves (tentatives (Server.longest 10)
      (pageRemplie deuxEleves 0, deuxEleves) ([coupeeA 0] ++ [⟨horlogeZero, []⟩])).2 := by
  refine (notesUniques_iff soumise_pageRemplie (echouees_coupeeA (by decide +kernel)) ?_).mpr
    ⟨?_, ?_⟩
  · show _ = _
    decide +kernel
  · have hroster : (pageRemplie deuxEleves 0).elevesDeLaClasse = ["a"] := by decide +kernel
    intro e he _
    rw [hroster] at he ⊢
    rw [List.mem_singleton.mp he]
    rfl
  · intro a ha n _
    rw [List.mem_singleton.mp ha]
    exact Nat.zero_le _

/-- The first press is cut after it has added the grade, which the second one adds again. -/
theorem not_notesUniques_coupeeApresLaNote :
    Soumise (pageRemplie deuxEleves 0) .examen "m" ∧
    Echouees (Server.longest 10) (pageRemplie deuxEleves 0, deuxEleves) [coupeeA 4] ∧
    Annonce (tentatives (Server.longest 10) (pageRemplie deuxEleves 0, deuxEleves) [coupeeA 4]).1
      (tentatives (Server.longest 10) (pageRemplie deuxEleves 0, deuxEleves)
        ([coupeeA 4] ++ [⟨horlogeZero, []⟩])).1 ∧
    ¬NotesUniques (pageRemplie deuxEleves 0) deuxEleves (tentatives (Server.longest 10)
      (pageRemplie deuxEleves 0, deuxEleves) ([coupeeA 4] ++ [⟨horlogeZero, []⟩])).2 := by
  refine ⟨soumise_pageRemplie, echouees_coupeeA (by decide +kernel), ?_, fun hunes => ?_⟩
  · show _ = _
    decide +kernel
  have hn : Note (pageRemplie deuxEleves 0) deuxEleves "a" (.finite 12) :=
    ⟨by decide +kernel, noteSaisie_eq_some_iff.mpr ⟨by decide +kernel, by decide +kernel⟩⟩
  obtain ⟨id, hid⟩ := hunes "a" (by decide +kernel) _ hn
  have hrows : ((tentatives (Server.longest 10) (pageRemplie deuxEleves 0, deuxEleves)
      ([coupeeA 4] ++ [⟨horlogeZero, []⟩])).2.docs .notes).rows.map
        (fun row => (row.1, (row.2.get .eleveId).isStr "a")) = [("x", true), ("xxx", true)] := by
    decide +kernel
  have hseule : ∀ i, (i, true) ∈ [("x", true), ("xxx", true)] → i = id := by
    intro i hi
    rw [← hrows] at hi
    obtain ⟨⟨i', d⟩, hrow, heq⟩ := List.mem_map.mp hi
    obtain ⟨rfl, hstr⟩ := Prod.mk.inj heq
    exact hid.seule i' d rfl (Table.find_eq_some_iff.mpr hrow) (Doc.isStr_get_iff.mp hstr)
  have hdeux := (hseule "x" (by simp)).trans (hseule "xxx" (by simp)).symm
  exact absurd hdeux (by decide)

end EduConnect.Enseignant
