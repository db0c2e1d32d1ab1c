import EduConnect.Enseignant.Passages

/-!
# A whole save

The loop over the roster, then `_enregistrerNotes` itself.  The requests of the loop fall into two
parts: before the first grade is added and after.  `avantNote` says how many come before.
-/

namespace EduConnect.Enseignant

open Lib Prog NotesPage

/-! ## What the students of a roster are -/

/-- The student has a record. -/
abbrev Existe (b : Base) (e : String) : Prop := (b.doc .eleves e).isSome = true

/-- A student with a record and a grade. -/
structure Note (p : NotesPage) (b : Base) (e : String) (v : Double) : Prop where
  existe : Existe b e
  saisie : p.noteSaisie e = .ok (some v)

/-- The number of requests of the loop before the first one that adds a grade; none if there is no
such request. -/
def avantNote (p : NotesPage) (b : Base) : List String → Option ℕ
  | [] => none
  | e :: ids =>
    match b.doc .eleves e with
    | none => (avantNote p b ids).map (· + 1)
    | some d =>
      match p.noteSaisie e with
      | .ok none => (avantNote p b ids).map (· + appelsSansNote b d e)
      | _ => some (appelsAvantNote d)

/-- The effects of turns that follow each other. -/
def effetsDe (x : Saisie) (now : ℤ) : List Passage → Effets
  | [] => {}
  | t :: ts => t.effets x now ++ effetsDe x now ts

/-- A grade of a student of the roster has been written. -/
def AvecNote (p : NotesPage) (b : Base) (ids : List String) (b' : Base) : Prop :=
  ∃ E, Bilan b E b' ∧ ∃ e ∈ ids, (∃ v, Note p b e v) ∧
    ∃ note ∈ E.notes, note.2 .eleveId = some (.str e)

/-- The states of the loop over `ids`, cut where the first grade is added. -/
def Coupure (p : NotesPage) (b : Base) (ids : List String) (l : List Base) : Prop :=
  ∃ l₁ l₂, l = l₁ ++ l₂ ∧ (∀ y ∈ l₁, SansNote b y) ∧ (∀ y ∈ l₂, AvecNote p b ids y) ∧
    match avantNote p b ids with
    | none => l₂ = []
    | some n => l₁.length = n + 1

/-! ## A save leaves what the loop reads as it is -/

section Suivis

variable {p : NotesPage} {x : Saisie} {b b' : Base} {E : Effets}

theorem Bilan.doc (h : Bilan b E b') {c : Collection} (h₁ : c ≠ .notes) (h₂ : c ≠ .notifications)
    (h₃ : c ≠ .eleves) (id : String) : b'.doc c id = b.doc c id :=
  congrArg (fun t => t.find id) (h.autres c h₁ h₂ h₃)

theorem Bilan.nomsDe (h : Bilan b E b') (u : Valeur) : nomsDe b' u = Enseignant.nomsDe b u := by
  unfold Enseignant.nomsDe
  have hdoc : ∀ id, b'.doc .utilisateurs id = b.doc .utilisateurs id :=
    h.doc (by decide) (by decide) (by decide)
  simp only [hdoc]

/-- A field other than `notesIds`. -/
theorem Suivi.get {e : String} {d d' : Document} (h : Suivi E e d d') {f : Champ}
    (hf : f ≠ .notesIds) : d'.get f = d.get f := by
  unfold Doc.get
  rw [h.1 f hf]

theorem Bilan.existe_iff (h : Bilan b E b') (e : String) : Existe b' e ↔ Existe b e := by
  unfold Existe
  rw [← not_iff_not, Bool.not_eq_true, Bool.not_eq_true, Option.isSome_eq_false_iff,
    Option.isSome_eq_false_iff, Option.isNone_iff_eq_none, Option.isNone_iff_eq_none]
  exact h.eleve_eq_none_iff e

theorem Bilan.note_iff (h : Bilan b E b') {e : String} {v : Double} : Note p b' e v ↔ Note p b e v :=
  ⟨fun hn => ⟨(h.existe_iff e).mp hn.existe, hn.saisie⟩,
    fun hn => ⟨(h.existe_iff e).mpr hn.existe, hn.saisie⟩⟩

theorem Bilan.lisible_iff (h : Bilan b E b') {e : String} : Lisible p b' e ↔ Lisible p b e := by
  constructor
  · intro hl
    refine ⟨hl.id, fun d hd => ?_, fun d hd => ?_⟩
    · obtain ⟨d', hd', hs⟩ := h.eleve_of_some hd
      obtain ⟨n, hn⟩ := hl.noms d' hd'
      rw [h.nomsDe, hs.get (by decide)] at hn
      exact ⟨n, hn⟩
    · obtain ⟨d', hd', -⟩ := h.eleve_of_some hd
      exact hl.note d' hd'
  · intro hl
    refine ⟨hl.id, fun d' hd' => ?_, fun d' hd' => ?_⟩
    · obtain ⟨d, hd, hs⟩ := h.eleve_of_some' hd'
      obtain ⟨n, hn⟩ := hl.noms d hd
      refine ⟨n, ?_⟩
      rw [h.nomsDe, hs.get (by decide)]
      exact hn
    · obtain ⟨d, hd, -⟩ := h.eleve_of_some' hd'
      exact hl.note d hd

theorem Passage.Juste.of_bilan (h : Bilan b E b') {t : Passage} (ht : t.Juste x b') :
    t.Juste x b := by
  obtain ⟨d', hd', hu⟩ := ht.dossier
  obtain ⟨d, hd, hs⟩ := h.eleve_of_some' hd'
  refine ⟨⟨d, hd, hu.trans (hs.get (by decide))⟩, ht.note, ?_⟩
  rw [ht.familles, h.famillesDe]

theorem Bilan.avantNote (h : Bilan b E b') (ids : List String) :
    avantNote p b' ids = Enseignant.avantNote p b ids := by
  induction ids with
  | nil => rfl
  | cons e ids ih =>
    unfold Enseignant.avantNote
    rcases hd : b.doc .eleves e with _ | d
    · rw [(h.eleve_eq_none_iff e).mpr hd, ih]
    · obtain ⟨d', hd', hs⟩ := h.eleve_of_some hd
      have hu : d'.get .utilisateurId = d.get .utilisateurId := hs.get (by decide)
      rw [hd']
      simp only [ih, appelsSansNote, appelsAvantNote, hu, h.famillesDe]

theorem AvecNote.trans {b₁ : Base} {e : String} {ids : List String} (h : Bilan b E b₁)
    (h' : AvecNote p b₁ ids b') : AvecNote p b (e :: ids) b' := by
  obtain ⟨E', hE', e', he', ⟨v, hv⟩, note, hnote, hid⟩ := h'
  refine ⟨E ++ E', h.trans hE', e', List.mem_cons_of_mem e he', ⟨v, h.note_iff.mp hv⟩, note, ?_, hid⟩
  rw [Effets.notes_append]
  exact List.mem_append_right _ hnote

/-- Every state of a cut run comes with the effects of a save. -/
theorem Coupure.bilan {ids : List String} {l : List Base} (h : Coupure p b ids l) {y : Base}
    (hy : y ∈ l) : ∃ E, Bilan b E y := by
  obtain ⟨l₁, l₂, rfl, h₁, h₂, -⟩ := h
  rcases List.mem_append.mp hy with hy | hy
  · obtain ⟨E, hE, -⟩ := h₁ y hy
    exact ⟨E, hE⟩
  · obtain ⟨E, hE, -⟩ := h₂ y hy
    exact ⟨E, hE⟩

end Suivis

/-! ## The loop -/

/-- What a run of the loop over `ids` has written when it ends in `b'`. -/
structure Parcouru (x : Saisie) (b : Base) (ids : List String) (b' : Base) (ts : List Passage) :
    Prop where
  eleves : ts.map (fun t => t.eleve.eleveId) = ids.filter fun e => (b.doc .eleves e).isSome
  justes : ∀ t ∈ ts, t.Juste x b
  bilan : Bilan b (effetsDe x b.clock ts) b'

section Boucle

variable {S : Server} {x : Saisie} {b b₁ b' : Base} {e : String} {ids : List String}
  {t : Passage} {ts : List Passage}

/-- A student without a record changes nothing. -/
theorem Parcouru.cons_absent (hd : b.doc .eleves e = none) (h : Parcouru x b ids b' ts) :
    Parcouru x b (e :: ids) b' ts := by
  refine ⟨?_, h.justes, h.bilan⟩
  rw [List.filter_cons_of_neg (by simp [hd])]
  exact h.eleves

/-- A turn, then the rest of the loop. -/
theorem Parcouru.cons (hex : Existe b e) (hid : t.eleve.eleveId = e) (ht : t.Juste x b)
    (hb : Bilan b (t.effets x b.clock) b₁) (h : Parcouru x b₁ ids b' ts) :
    Parcouru x b (e :: ids) b' (t :: ts) := by
  have hids : ids.filter (fun e => (b₁.doc .eleves e).isSome) =
      ids.filter fun e => (b.doc .eleves e).isSome :=
    List.filter_congr fun e _ => Bool.eq_iff_iff.mpr (hb.existe_iff e)
  refine ⟨?_, fun t' ht' => ?_, ?_⟩
  · have hfilter : (e :: ids).filter (fun e => (b.doc .eleves e).isSome) =
        e :: ids.filter fun e => (b.doc .eleves e).isSome := by
      rw [List.filter_cons, if_pos hex]
    rw [hfilter, List.map_cons, hid, h.eleves, hids]
  · rcases List.mem_cons.mp ht' with rfl | ht'
    · exact ht
    · exact (h.justes t' ht').of_bilan hb
  · have hrest := h.bilan
    rw [hb.clock] at hrest
    exact hb.trans hrest

/-- A student without a record in a cut run. -/
theorem Coupure.cons_absent {p : NotesPage} {l : List Base} (hd : b.doc .eleves e = none)
    (h : Coupure p b ids l) : Coupure p b (e :: ids) (b :: l) := by
  obtain ⟨l₁, l₂, rfl, h₁, h₂, hn⟩ := h
  refine ⟨b :: l₁, l₂, rfl, ?_, fun y hy => AvecNote.trans (.refl b) (h₂ y hy), ?_⟩
  · intro y hy
    rcases List.mem_cons.mp hy with rfl | hy
    · exact .refl _
    · exact h₁ y hy
  · unfold avantNote
    rw [hd]
    rcases hn' : avantNote p b ids with _ | n
    · rw [hn'] at hn
      exact hn
    · rw [hn'] at hn
      show (b :: l₁).length = n + 1 + 1
      rw [List.length_cons, hn]

/-- A student without a grade in a cut run. -/
theorem Coupure.cons_sans {p : NotesPage} {d : Document} {E : Effets} {l l' : List Base}
    (hd : b.doc .eleves e = some d) (hx : p.noteSaisie e = .ok none) (hb : Bilan b E b₁)
    (hE : E.notes = [] ∧ E.dossiers = []) (hl : ∀ y ∈ l, SansNote b y)
    (hlen : l.length = appelsSansNote b d e) (h : Coupure p b₁ ids l') :
    Coupure p b (e :: ids) (l ++ l') := by
  obtain ⟨l₁, l₂, rfl, h₁, h₂, hn⟩ := h
  refine ⟨l ++ l₁, l₂, (List.append_assoc _ _ _).symm, ?_, fun y hy => (h₂ y hy).trans hb, ?_⟩
  · intro y hy
    rcases List.mem_append.mp hy with hy | hy
    · exact hl y hy
    · have hfirst : SansNote b b₁ := ⟨E, hb, hE⟩
      exact hfirst.trans (h₁ y hy)
  · unfold avantNote
    rw [hb.avantNote] at hn
    rw [hd, hx]
    rcases hn' : avantNote p b ids with _ | n
    · rw [hn'] at hn
      exact hn
    · rw [hn'] at hn
      show (l ++ l₁).length = n + appelsSansNote b d e + 1
      rw [List.length_append, hlen, hn]
      omega

/-- The first student with a grade in a cut run: the cut is at his turn. -/
theorem Coupure.cons_avec {p : NotesPage} {d : Document} {v : Double} {E : Effets}
    {l' l'' : List Base} (hd : b.doc .eleves e = some d) (hv : p.noteSaisie e = .ok (some v))
    (hb : Bilan b E b₁) (hE : ∃ note ∈ E.notes, note.2 .eleveId = some (.str e))
    (hl' : ∀ y ∈ l', ∃ E, Bilan b E y ∧ ∃ note ∈ E.notes, note.2 .eleveId = some (.str e))
    (h : Coupure p b₁ ids l'') :
    Coupure p b (e :: ids) ((List.replicate (appelsAvantNote d + 1) b ++ l') ++ l'') := by
  have hnote : Note p b e v := ⟨by simp [Existe, hd], hv⟩
  refine ⟨List.replicate (appelsAvantNote d + 1) b, l' ++ l'', List.append_assoc _ _ _, ?_, ?_, ?_⟩
  · intro y hy
    rw [List.eq_of_mem_replicate hy]
    exact .refl b
  · intro y hy
    rcases List.mem_append.mp hy with hy | hy
    · obtain ⟨E', hE', hmem⟩ := hl' y hy
      exact ⟨E', hE', e, List.mem_cons_self, ⟨v, hnote⟩, hmem⟩
    · obtain ⟨E', hE'⟩ := h.bilan hy
      obtain ⟨note, hmem, hid⟩ := hE
      refine ⟨E ++ E', hb.trans hE', e, List.mem_cons_self, ⟨v, hnote⟩, note, ?_, hid⟩
      rw [Effets.notes_append]
      exact List.mem_append_left _ hmem
  · unfold avantNote
    rw [hd, hv]
    exact List.length_replicate

/-- **The loop.**  Over legible students it goes to its end, with one turn for each student who has a
record. -/
theorem runs_parcourir (hl : ∀ e ∈ ids, Lisible x.page b e) :
    ∃ (ts : List Passage) (b' : Base) (l : List Base),
      (parcourir x.horloge x.matiereNom ids).Runs S.handler x.page b () x.page b' l ∧
      Parcouru x b ids b' ts ∧ Coupure x.page b ids l := by
  induction ids generalizing b with
  | nil => exact ⟨[], b, [], runs_ret () x.page b, ⟨rfl, by simp, .refl b⟩,
      [], [], rfl, by simp, by simp, rfl⟩
  | cons e ids ih =>
    have he := hl e List.mem_cons_self
    have hids : ∀ e ∈ ids, Lisible x.page b e := fun e he => hl e (List.mem_cons_of_mem _ he)
    rcases hd : b.doc .eleves e with _ | d
    · obtain ⟨ts, b', l, hruns, hts, hcut⟩ := ih hids
      exact ⟨ts, b', [b] ++ l, (runs_tour_absent x he.id hd).bind hruns, hts.cons_absent hd,
        hcut.cons_absent hd⟩
    have hex : Existe b e := by simp [Existe, hd]
    obtain ⟨saisie, hx⟩ := he.note d hd
    rcases saisie with _ | v
    · obtain ⟨t, b₁, l, htour, hid, ht, hnone, hb, hlen, hsans⟩ := runs_tour_sans (S := S) x he hd hx
      obtain ⟨ts, b', l', hruns, hts, hcut⟩ := ih fun e he => hb.lisible_iff.mpr (hids e he)
      have hE : (t.effets x b.clock).notes = [] ∧ (t.effets x b.clock).dossiers = [] := by
        simp [Passage.effets, hnone]
      exact ⟨t :: ts, b', l ++ l', htour.bind hruns, hts.cons hex hid ht hb,
        hcut.cons_sans hd hx hb hE hsans hlen⟩
    · obtain ⟨t, b₁, l, htour, hid, ht, hb, l', rfl, hl'⟩ := runs_tour_avec (S := S) x he hd hx
      obtain ⟨ts, b', l'', hruns, hts, hcut⟩ := ih fun e he => hb.lisible_iff.mpr (hids e he)
      have hE : ∃ note ∈ (t.effets x b.clock).notes, note.2 .eleveId = some (.str e) := by
        obtain ⟨id, hnote⟩ := ht.note_eq (hid ▸ hx)
        refine ⟨(id, newDoc b.clock (x.page.note x.horloge t.eleve.eleveId v x.type x.matiereId)),
          ?_, ?_⟩
        · simp [Passage.effets, hnote]
        · subst hid
          exact newDoc_note _ _ _ _ _ _ _ (by decide) (by decide)
      exact ⟨t :: ts, b', _, htour.bind hruns, hts.cons hex hid ht hb,
        hcut.cons_avec hd hx hb hE hl'⟩

/-- The loop stops at the first student who is not legible. -/
theorem lisibles_of_exec
    (hok : ((parcourir x.horloge x.matiereNom ids).exec S.handler x.page b).1 = .ok ()) :
    ∀ e ∈ ids, Lisible x.page b e := by
  induction ids generalizing b with
  | nil => simp
  | cons e ids ih =>
    obtain ⟨u, s₁, b₁, htour, hrest⟩ := exec_bind_eq_ok hok
    have he : Lisible x.page b e := lisible_of_exec (by rw [htour])
    -- the turn of `e` alone
    obtain ⟨ts, b', l, hruns, hts, -⟩ := runs_parcourir (S := S) (x := x) (b := b)
      fun (e' : String) (he' : e' ∈ [e]) => List.mem_singleton.mp he' ▸ he
    have hseul : (parcourir x.horloge x.matiereNom [e]).exec S.handler x.page b =
        (.ok (), s₁, b₁) := by
      show ((x.tour e).bind fun _ => ret ()).exec S.handler x.page b = _
      rw [exec_bind, htour]
      rfl
    rw [hruns.exec] at hseul
    cases hseul
    intro e' he'
    rcases List.mem_cons.mp he' with rfl | he'
    · exact he
    · exact hts.bilan.lisible_iff.mp (ih hrest e' he')

end Boucle

/-! ## The whole save -/

/-- The save goes through: the name of the subject can be read, and the students of the class are
legible. -/
structure Prete (x : Saisie) (b : Base) : Prop where
  id : x.matiereId ≠ ""
  nom : nomMatiere (b.doc .matieres x.matiereId) = .ok x.matiereNom
  eleves : ∀ e ∈ x.page.elevesDeLaClasse, Lisible x.page b e

/-- The page passes the tests made before a save. -/
structure Soumise (p : NotesPage) (t : TypeNote) (m : String) : Prop where
  classe : ∃ c, p.classeChoisieId = some c
  matiere : p.matiereChoisieId = some m
  type : p.typeNote = some t
  description : ¬(t = .exercice ∧ trim p.descriptionExercice = "")
  notes : p.notesAcceptees = true

/-- The page while it saves. -/
def occuper (p : NotesPage) : NotesPage := sur (fun c => { c with saving := true }) p

def liberer (p : NotesPage) : NotesPage := sur (fun c => { c with saving := false }) p

section Sauvegardes

variable {S : Server} {x : Saisie} {b b' : Base} {h : Horloge} {p q : NotesPage} {m : String}
  {t : TypeNote}

/-- **The save.**  From a state it goes through in, it ends well. -/
theorem runs_enregistrerTous (hp : Prete x b) :
    ∃ (ts : List Passage) (b' : Base) (l : List Base),
      (enregistrerTous x.horloge x.matiereId).Runs S.handler x.page b () x.page b' (b :: l) ∧
      Parcouru x b x.page.elevesDeLaClasse b' ts ∧
      Coupure x.page b x.page.elevesDeLaClasse l := by
  obtain ⟨ts, b', l, hruns, hts, hcut⟩ := runs_parcourir (S := S) hp.eleves
  have hlire := runs_lireDoc (S := S) (s := x.page) (b := b) EtapeNotes.matiere .matieres hp.id
  have hnom := runs_ofExcept (h := S.handler) (Λ := EtapeNotes) hp.nom x.page b
  exact ⟨ts, b', l, hlire.bind (hnom.bind ((runs_page x.page b).bind hruns)), hts, hcut⟩

/-- A save that ends well goes through. -/
theorem prete_of_exec (ht : q.typeNote = some t) (hm : q.matiereChoisieId = some m)
    (hok : ((enregistrerTous h m).exec S.handler q b).1 = .ok ()) :
    ∃ x : Saisie, x.page = q ∧ x.horloge = h ∧ x.matiereId = m ∧ Prete x b := by
  obtain ⟨doc, s₁, b₁, hlire, hok⟩ := exec_bind_eq_ok hok
  by_cases hid : m = ""
  · subst hid
    cases hlire
  rw [(runs_lireDoc (S := S) (s := q) (b := b) EtapeNotes.matiere .matieres hid).exec] at hlire
  obtain ⟨rfl, rfl, rfl⟩ : b.doc .matieres m = doc ∧ q = s₁ ∧ b = b₁ := by
    simpa using hlire
  rcases hnom : nomMatiere (b.doc .matieres m) with e | matiereNom
  · rw [hnom] at hok
    cases hok
  rw [hnom] at hok
  let x : Saisie := ⟨q, h, matiereNom, t, m, ht, hm⟩
  exact ⟨x, rfl, rfl, rfl, hid, hnom, lisibles_of_exec (x := x) hok⟩

/-! No error of the backend is caught before the end of the loop. -/

theorem direct_lireDoc {Λ σ : Type} (l : Λ) (c : Collection) (id : String) :
    (lireDoc l c id : Action Λ σ _).Direct :=
  .ite trivial (direct_call _ _)

theorem direct_noms (u : Valeur) : (noms u).Direct := by
  refine .bind (direct_ofExcept _) fun id => ?_
  rcases id with _ | id
  · trivial
  refine .bind (direct_call _ _) fun doc => ?_
  rcases (doc : Option Document) with _ | utilisateur
  · trivial
  exact .bind (direct_ofExcept _) fun prenom => .bind (direct_ofExcept _) fun nom => trivial

theorem direct_noter (h : Horloge) (e : String) : (noter h e).Direct := by
  refine .bind direct_page fun p => .bind (direct_ofExcept _) fun saisie => ?_
  rcases saisie with _ | noteVal
  · trivial
  refine .bind (direct_ofExcept _) fun type => .bind (direct_ofExcept _) fun matiereId => ?_
  exact .bind (direct_call _ _) fun noteId => .bind (direct_call _ _) fun _ => trivial

theorem direct_notifierFamilles (h : Horloge) (e : Destinataire) (matiereNom : Valeur)
    (note : Option (Double × String)) (message : String) (familles : List (String × Document)) :
    (notifierFamilles h e matiereNom note message familles).Direct := by
  induction familles with
  | nil => trivial
  | cons famille familles ih =>
    exact .bind direct_page fun p => .bind (direct_call _ _) fun _ => ih

theorem direct_parcourir (h : Horloge) (matiereNom : Valeur) (ids : List String) :
    (parcourir h matiereNom ids).Direct := by
  induction ids with
  | nil => trivial
  | cons e ids ih =>
    refine .bind (.bind (direct_lireDoc _ _ _) fun doc => ?_) fun _ => ih
    rcases doc with _ | eleve
    · trivial
    refine .bind (direct_noms _) fun n => ?_
    obtain ⟨prenom, nom⟩ := n
    refine .bind (direct_noter h e) fun note => .bind direct_page fun p => ?_
    refine .bind (direct_call _ _) fun familles => ?_
    refine .bind (direct_notifierFamilles _ _ _ _ _ _) fun _ => .bind (direct_call _ _) fun _ => ?_
    trivial

theorem direct_enregistrerTous (h : Horloge) (m : String) : (enregistrerTous h m).Direct :=
  .bind (direct_lireDoc _ _ _) fun _ => .bind (direct_ofExcept _) fun _ =>
    .bind direct_page fun _ => direct_parcourir _ _ _

/-! ## `_enregistrerNotes` on any backend -/

section Issues

variable {β : Type} (k : (r : Requete) → β → Except Err r.Ans × β)

/-- The loop leaves the page as it is. -/
theorem page_enregistrerTous (h : Horloge) (m : String) (q : NotesPage) (y : β) :
    ((enregistrerTous h m).exec k q y).2.1 = q :=
  (keeps_enregistrerTous (J := fun s => s = q) h m).ends (h := k) (b := y) rfl

/-- The page after a save that fails with the error `e`. -/
def echouer (e : Err) (p : NotesPage) : NotesPage :=
  liberer (afficher ("Erreur lors de l'enregistrement : " ++ texteErreur e) (occuper p))

/-- A save that passes the tests ends as its loop does. -/
theorem exec_enregistrerNotes (hs : Soumise p t m) (h : Horloge) (y : β) :
    (enregistrerNotes h).exec k p y =
      (.ok (), match ((enregistrerTous h m).exec k (occuper p) y).1 with
        | .ok _ => liberer (vider (afficher succes (occuper p)))
        | .error e => echouer e p,
        ((enregistrerTous h m).exec k (occuper p) y).2.2) := by
  obtain ⟨c, hc⟩ := hs.classe
  have hpage := page_enregistrerTous k h m (occuper p) y
  unfold enregistrerNotes
  simp only [bind_eq, Prog.page, bind_read, bind_ret, exec_read, hc, hs.matiere, hs.type]
  show Prog.exec k (if _ then _ else if _ then _ else _) p y = _
  rw [if_neg hs.description, if_pos hs.notes]
  show Prog.exec k (ensuring _ _) (occuper p) y = _
  rw [exec_ensuring, exec_catching]
  unfold enregistrer
  rw [bind_eq, exec_bind]
  rcases hex : (enregistrerTous h m).exec k (occuper p) y with ⟨e | u, q, y'⟩
  · rw [hex] at hpage
    obtain rfl : q = occuper p := hpage
    rfl
  · rw [hex] at hpage
    obtain rfl : q = occuper p := hpage
    rfl

/-- The page says that the grades are saved. -/
def Annonce (p p' : NotesPage) : Prop := p'.messages = p.messages ++ [succes]

/-- A page that does not pass the tests says so and asks nothing. -/
theorem exec_enregistrerNotes_refus (hs : ∀ t m, ¬Soumise p t m) (h : Horloge) (y : β) :
    ∃ texte, texte ≠ succes ∧ (enregistrerNotes h).exec k p y = (.ok (), afficher texte p, y) := by
  unfold enregistrerNotes
  rcases hc : p.classeChoisieId with _ | c
  · refine ⟨"Sélection incomplète.", by decide, ?_⟩
    simp only [bind_eq, Prog.page, bind_read, bind_ret, exec_read, hc]
    rfl
  rcases hm : p.matiereChoisieId with _ | m
  · refine ⟨"Sélection incomplète.", by decide, ?_⟩
    simp only [bind_eq, Prog.page, bind_read, bind_ret, exec_read, hc, hm]
    rfl
  rcases ht : p.typeNote with _ | t
  · refine ⟨"Sélection incomplète.", by decide, ?_⟩
    simp only [bind_eq, Prog.page, bind_read, bind_ret, exec_read, hc, hm, ht]
    rfl
  by_cases hd : t = .exercice ∧ trim p.descriptionExercice = ""
  · refine ⟨"Veuillez saisir la description de l'exercice.", by decide, ?_⟩
    simp only [bind_eq, Prog.page, bind_read, bind_ret, exec_read, hc, hm, ht, if_pos hd]
    rfl
  by_cases hn : p.notesAcceptees = true
  · exact absurd ⟨⟨c, hc⟩, hm, ht, hd, hn⟩ (hs t m)
  · refine ⟨"Les notes doivent être entre 0 et 20.", by decide, ?_⟩
    simp only [bind_eq, Prog.page, bind_read, bind_ret, exec_read, hc, hm, ht, if_neg hd, if_neg hn]
    rfl

end Issues

/-! ### Success -/

theorem erreur_ne_succes (texte : String) :
    "Erreur lors de l'enregistrement : " ++ texte ≠ succes := by
  intro heq
  have hhead := congrArg (fun s : String => s.toList.head?) heq
  rw [String.toList_append] at hhead
  exact absurd hhead (by simp [succes])

theorem noteSaisie_occuper (p : NotesPage) (e : String) :
    (occuper p).noteSaisie e = p.noteSaisie e := by
  have hentries : (occuper p).notesStr = p.notesStr := rfl
  unfold noteSaisie
  rw [hentries]

/-- **A save that says it succeeded.**  It went through the whole roster that the page holds. -/
theorem parcouru_of_annonce (hok : Annonce p ((enregistrerNotes h).exec S.handler p b).2.1) :
    ∃ (x : Saisie) (ts : List Passage), x.page = occuper p ∧ x.horloge = h ∧
      Soumise p x.type x.matiereId ∧ Prete x b ∧
      Parcouru x b p.elevesDeLaClasse ((enregistrerNotes h).exec S.handler p b).2.2 ts := by
  by_cases hs : ∃ t m, Soumise p t m
  · obtain ⟨t, m, hs⟩ := hs
    rw [exec_enregistrerNotes S.handler hs] at hok ⊢
    have htous : ((enregistrerTous h m).exec S.handler (occuper p) b).1 = .ok () := by
      rcases hres : ((enregistrerTous h m).exec S.handler (occuper p) b).1 with e | u
      · rw [hres] at hok
        have hmessages : p.messages ++ ["Erreur lors de l'enregistrement : " ++ texteErreur e] =
            p.messages ++ [succes] := hok
        have hlast := List.append_cancel_left hmessages
        exact absurd (List.singleton_inj.mp hlast) (erreur_ne_succes _)
      · rfl
    obtain ⟨x, hpage, hhorloge, hmatiere, hprete⟩ := prete_of_exec (q := occuper p) (t := t)
      hs.type hs.matiere htous
    obtain ⟨ts, b', l, hruns, hts, -⟩ := runs_enregistrerTous (S := S) hprete
    rw [hhorloge, hmatiere, hpage] at hruns
    rw [hruns.exec]
    have htype : x.type = t := by
      have hx := x.typeNote
      rw [hpage] at hx
      exact Option.some.inj (hx.symm.trans hs.type)
    rw [hpage] at hts
    exact ⟨x, ts, hpage, hhorloge, htype ▸ hmatiere ▸ hs, hprete, hts⟩
  · obtain ⟨texte, hne, hrefus⟩ := exec_enregistrerNotes_refus S.handler
      (fun t m hs' => hs ⟨t, m, hs'⟩) h b
    rw [hrefus] at hok
    have hmessages : p.messages ++ [texte] = p.messages ++ [succes] := hok
    exact absurd (List.singleton_inj.mp (List.append_cancel_left hmessages)) hne

end Sauvegardes

/-! ## The grades written -/

/-- A new document of `notes` for the student `e` with the grade `v`. -/
def NouvelleNote (b b' : Base) (e : String) (v : Double) : Prop :=
  ∃ id d, b.doc .notes id = none ∧ b'.doc .notes id = some d ∧ d .eleveId = some (.str e) ∧
    d .valeur = some (.num v)

section Ecrites

variable {x : Saisie} {b b' : Base} {ids : List String} {ts : List Passage}

/-- A row of the effects comes from a turn. -/
theorem mem_notes_effetsDe {now : ℤ} {row : String × Document} :
    row ∈ (effetsDe x now ts).notes ↔ ∃ t ∈ ts, ∃ v id, t.note = some (v, id) ∧
      row = (id, newDoc now (x.page.note x.horloge t.eleve.eleveId v x.type x.matiereId)) := by
  induction ts with
  | nil => simp [effetsDe]
  | cons t ts ih =>
    unfold effetsDe
    rw [Effets.notes_append, List.mem_append, ih, List.exists_mem_cons_iff]
    refine or_congr_left ?_
    unfold Passage.effets
    rcases t.note with _ | ⟨v, id⟩ <;> simp

theorem Parcouru.mem_iff (h : Parcouru x b ids b' ts) (e : String) :
    (∃ t ∈ ts, t.eleve.eleveId = e) ↔ e ∈ ids ∧ Existe b e := by
  have hmem : e ∈ ids.filter (fun e => (b.doc .eleves e).isSome) ↔ e ∈ ids ∧ Existe b e :=
    List.mem_filter
  rw [← hmem, ← h.eleves, List.mem_map]

/-- The students who get a grade are those of the roster who exist and have an entry. -/
theorem Parcouru.nouvelleNote_iff (h : Parcouru x b ids b' ts) {e : String} {v : Double}
    (hv : x.page.noteSaisie e = .ok (some v)) : NouvelleNote b b' e v ↔ e ∈ ids ∧ Existe b e := by
  rw [← h.mem_iff]
  have hchamp : ∀ (id : String) (u : Double) {f : Champ}, f = .eleveId ∨ f = .valeur →
      newDoc b.clock (x.page.note x.horloge id u x.type x.matiereId) f = newDoc b.clock
        [(.valeur, .put (.num u)), texte .eleveId id] f := by
    intro id u f hf
    rw [newDoc_note _ _ _ _ _ _ _ (by rintro rfl; simp at hf) (by rintro rfl; simp at hf)]
    rcases hf with rfl | rfl <;> rfl
  constructor
  · rintro ⟨id, d, hnone, hsome, hid, -⟩
    have hmem := h.bilan.notes.new_iff.mp ⟨hnone, hsome⟩
    obtain ⟨t, ht, u, id', -, hrow⟩ := mem_notes_effetsDe.mp hmem
    obtain ⟨rfl, rfl⟩ := Prod.mk.inj hrow
    rw [hchamp _ _ (Or.inl rfl)] at hid
    refine ⟨t, ht, ?_⟩
    have heq : some (Value.str t.eleve.eleveId) = some (.str e : Valeur) := hid
    cases heq
    rfl
  · rintro ⟨t, ht, rfl⟩
    obtain ⟨id, hnote⟩ := (h.justes t ht).note_eq hv
    have hmem : (id, newDoc b.clock (x.page.note x.horloge t.eleve.eleveId v x.type x.matiereId)) ∈
        (effetsDe x b.clock ts).notes := mem_notes_effetsDe.mpr ⟨t, ht, v, id, hnote, rfl⟩
    obtain ⟨hnone, hsome⟩ := h.bilan.notes.new_iff.mpr hmem
    refine ⟨id, _, hnone, hsome, ?_, ?_⟩
    · rw [hchamp _ _ (Or.inl rfl)]
      rfl
    · rw [hchamp _ _ (Or.inr rfl)]
      rfl

end Ecrites

end EduConnect.Enseignant
