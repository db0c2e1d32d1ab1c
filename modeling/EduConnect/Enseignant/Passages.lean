import EduConnect.Enseignant.Bilan

/-!
# One student at a time

What the body of the loop over the students does when nobody else acts and no request is lost: which
students stop it, and what it writes for the others.
-/

namespace EduConnect.Enseignant

open Lib Prog NotesPage

/-! ## Reading -/

/-- The first name and the name of an account, as `noms` finds them. -/
def nomsDe (b : Base) (utilisateurId : Valeur) : Except Err (String × String) :=
  (AppelPage.reference utilisateurId).bind fun
    | none => .ok ("Prénom", "Nom")
    | some id =>
      match b.doc .utilisateurs id with
      | none => .ok ("Prénom", "Nom")
      | some d => do return (← (d.get .prenom).orStr "Prénom", ← (d.get .nom).orStr "Nom")

/-- The number of requests of `noms`. -/
def appelsNoms (utilisateurId : Valeur) : ℕ :=
  match AppelPage.reference utilisateurId with
  | .ok (some _) => 1
  | _ => 0

/-- The families of a student. -/
def famillesDe (b : Base) (eleveId : String) : List (String × Document) :=
  (⟨[.isEqualTo .eleveId (.str eleveId)], none, none⟩ : Query Champ).run (b.docs .famille)

/-- A student the loop gets through: his id names a document, and if he exists his account and the
grade typed for him can be read. -/
structure Lisible (p : NotesPage) (b : Base) (e : String) : Prop where
  id : e ≠ ""
  noms : ∀ d, b.doc .eleves e = some d → ∃ n, nomsDe b (d.get .utilisateurId) = .ok n
  note : ∀ d, b.doc .eleves e = some d → ∃ x, p.noteSaisie e = .ok x

section Lectures

variable {Λ σ : Type} {S : Server} {s : σ} {b : Base}

theorem runs_lire (l : Λ) (c : Collection) (id : String) :
    (lire l c id : Action Λ σ _).Runs S.handler s b (b.doc c id) s b [b] :=
  runs_call (r := Req.get c id) rfl s

theorem runs_lireDoc (l : Λ) (c : Collection) {id : String} (hid : id ≠ "") :
    (lireDoc l c id : Action Λ σ _).Runs S.handler s b (b.doc c id) s b [b] := by
  unfold lireDoc
  rw [if_neg hid]
  exact runs_lire l c id

theorem runs_chercher_egal (l : Λ) (c : Collection) (f : Champ) (v : Value.Scalar) :
    (chercher l c [.isEqualTo f v] : Action Λ σ _).Runs S.handler s b
      ((⟨[.isEqualTo f v], none, none⟩ : Query Champ).run (b.docs c)) s b [b] :=
  runs_call (r := Req.query c ⟨[.isEqualTo f v], none, none⟩) rfl s

theorem runs_ajouter (l : Λ) (c : Collection) (fs : Champs) :
    (ajouter l c fs : Action Λ σ _).Runs S.handler s b (S.newDocId b c) s (S.addDoc c b fs) [b] :=
  runs_call (r := Req.add c fs) rfl s

theorem runs_update (l : Λ) {c : Collection} {id : String} {d : Document}
    (hd : b.doc c id = some d) (fs : Champs) :
    (ecrire l (.update c id fs) : Action Λ σ _).Runs S.handler s b () s
      (b.putDoc c id (writeFields b.clock d fs)) [b] := by
  refine runs_call (r := Req.write (.update c id fs)) ?_ s
  simp only [Server.handler, Write.apply, hd, Option.map_some]

end Lectures

section Passages

variable {S : Server} {p : NotesPage} {b : Base}

theorem exec_noms (u : Valeur) : (noms u).exec S.handler p b = (nomsDe b u, p, b) := by
  unfold noms nomsDe
  rw [bind_eq, exec_bind]
  rcases AppelPage.reference u with e | _ | id
  · rfl
  · rfl
  have hlire := runs_lire (S := S) (s := p) (b := b) EtapeNotes.compte .utilisateurs id
  show ((lire .compte .utilisateurs id).bind _).exec S.handler p b = _
  rw [exec_bind, hlire.exec]
  rcases hdoc : b.doc .utilisateurs id with _ | d
  · simp only [Except.bind, hdoc]
    rfl
  simp only [Except.bind, hdoc]
  rcases (d.get .prenom).orStr "Prénom" with e | prenom
  · rfl
  rcases (d.get .nom).orStr "Nom" with e | nom <;> rfl

theorem states_noms (u : Valeur) :
    (noms u).states S.handler p b = List.replicate (appelsNoms u) b := by
  unfold noms appelsNoms
  rw [bind_eq, states_bind]
  rcases AppelPage.reference u with e | _ | id
  · rfl
  · rfl
  have hlire := runs_lire (S := S) (s := p) (b := b) EtapeNotes.compte .utilisateurs id
  show [] ++ ((lire .compte .utilisateurs id).bind _).states S.handler p b = [b]
  rw [List.nil_append, states_bind, hlire.exec, hlire.states]
  rcases b.doc .utilisateurs id with _ | d
  · rfl
  rcases hprenom : (d.get .prenom).orStr "Prénom" with e | prenom
  · simp only [hprenom, bind_eq, ofExcept_error, bind_fail]
    rfl
  rcases hnom : (d.get .nom).orStr "Nom" with e | nom
  · simp only [hprenom, hnom, bind_eq, ofExcept_ok, ofExcept_error, bind_ret, bind_fail]
    rfl
  · simp only [hprenom, hnom, bind_eq, ofExcept_ok, bind_ret]
    rfl

/-- Reading the accounts leaves nothing to know but the names. -/
theorem runs_noms {u : Valeur} {n : String × String} (hn : nomsDe b u = .ok n) :
    (noms u).Runs S.handler p b n p b (List.replicate (appelsNoms u) b) :=
  ⟨by rw [exec_noms, hn], states_noms u⟩

/-- The loop stops at a student who is not legible. -/
theorem lisible_of_exec {h : Horloge} {matiereNom : Valeur} {e : String}
    (hok : ((enregistrerEleve h matiereNom e).exec S.handler p b).1 = .ok ()) : Lisible p b e := by
  obtain ⟨doc, s₁, b₁, hlire, hok⟩ := exec_bind_eq_ok hok
  by_cases hid : e = ""
  · subst hid
    cases hlire
  rw [(runs_lireDoc (S := S) (s := p) (b := b) EtapeNotes.eleve .eleves hid).exec] at hlire
  obtain ⟨rfl, rfl, rfl⟩ : b.doc .eleves e = doc ∧ p = s₁ ∧ b = b₁ := by
    simpa using hlire
  rcases hd : b.doc .eleves e with _ | d
  · refine ⟨hid, fun d hd' => ?_, fun d hd' => ?_⟩ <;> rw [hd] at hd' <;> cases hd'
  rw [hd] at hok
  obtain ⟨n, s₂, b₂, hnoms, hok⟩ := exec_bind_eq_ok hok
  rw [exec_noms] at hnoms
  obtain ⟨hn, rfl, rfl⟩ : nomsDe b (d.get .utilisateurId) = .ok n ∧ p = s₂ ∧ b = b₂ := by
    simpa using hnoms
  obtain ⟨prenom, nom⟩ := n
  obtain ⟨note, s₃, b₃, hnoter, -⟩ := exec_bind_eq_ok hok
  have hnote : ((noter h e).exec S.handler p b).1 = .ok note := by rw [hnoter]
  obtain ⟨x, s₄, b₄, hsaisie, -⟩ := exec_bind_eq_ok (p := Prog.ofExcept (p.noteSaisie e)) hnote
  refine ⟨hid, fun d' hd' => ?_, fun _ _ => ⟨x, ?_⟩⟩
  · obtain rfl : d = d' := by
      rw [hd] at hd'
      exact Option.some.inj hd'
    exact ⟨_, hn⟩
  · rcases hx : p.noteSaisie e with err | y
    · rw [hx] at hsaisie
      cases hsaisie
    · rw [hx] at hsaisie
      cases hsaisie
      rfl

end Passages

/-! ## Writing -/

/-- What a save works with: the page, the clock, and the choices made on the page. -/
structure Saisie where
  page : NotesPage
  horloge : Horloge
  matiereNom : Valeur
  type : TypeNote
  matiereId : String
  typeNote : page.typeNote = some type
  matiere : page.matiereChoisieId = some matiereId

/-- The turn of a student who exists. -/
structure Passage where
  eleve : Destinataire
  /-- The grade and the id of its document. -/
  note : Option (Double × String)
  /-- His families, each with the id of the notification of its parent. -/
  familles : List ((String × Document) × String)
  /-- The id of his own notification. -/
  notification : String

namespace Passage

/-- The notification of the parent of a family. -/
def parent (x : Saisie) (t : Passage) (famille : String × Document) : Champs :=
  x.page.notificationParent x.horloge t.eleve x.matiereNom t.note
    (x.page.messageParent x.horloge t.eleve x.matiereNom (t.note.map Prod.fst)) famille

/-- The notification of the student. -/
def avis (x : Saisie) (t : Passage) : Champs :=
  notificationEleve x.horloge t.eleve t.note
    (messageEleve x.horloge x.matiereNom (t.note.map Prod.fst))

def notifications (x : Saisie) (now : ℤ) (t : Passage) : List (String × Document) :=
  t.familles.map (fun f => (f.2, newDoc now (t.parent x f.1))) ++
    [(t.notification, newDoc now (t.avis x))]

/-- What is written at the time `now`. -/
def effets (x : Saisie) (now : ℤ) (t : Passage) : Effets where
  notes := (t.note.map fun n => (n.2, newDoc now
    (x.page.note x.horloge t.eleve.eleveId n.1 x.type x.matiereId))).toList
  dossiers := (t.note.map fun n => (t.eleve.eleveId, n.2)).toList
  notifications := t.notifications x now

/-- The turn is about a student of `b`, his grade and his families. -/
structure Juste (x : Saisie) (b : Base) (t : Passage) : Prop where
  dossier : ∃ d, b.doc .eleves t.eleve.eleveId = some d ∧
    t.eleve.utilisateurId = d.get .utilisateurId
  note : x.page.noteSaisie t.eleve.eleveId = .ok (t.note.map Prod.fst)
  familles : t.familles.map Prod.fst = famillesDe b t.eleve.eleveId

/-- The grade of a turn is the one typed. -/
theorem Juste.note_eq {x : Saisie} {b : Base} {t : Passage} (ht : t.Juste x b) {v : Double}
    (hv : x.page.noteSaisie t.eleve.eleveId = .ok (some v)) : ∃ id, t.note = some (v, id) := by
  have hnote := ht.note
  rw [hv] at hnote
  rcases hn : t.note with _ | ⟨v', id⟩
  · rw [hn] at hnote
    cases hnote
  · rw [hn] at hnote
    cases hnote
    exact ⟨id, rfl⟩

end Passage

/-- No grade has been written. -/
def SansNote (b b' : Base) : Prop := ∃ E, Bilan b E b' ∧ E.notes = [] ∧ E.dossiers = []

theorem SansNote.refl (b : Base) : SansNote b b := ⟨{}, .refl b, rfl, rfl⟩

theorem SansNote.trans {b b₁ b' : Base} (h : SansNote b b₁) (h' : SansNote b₁ b') :
    SansNote b b' := by
  obtain ⟨E, hE, hn, hd⟩ := h
  obtain ⟨E', hE', hn', hd'⟩ := h'
  exact ⟨E ++ E', hE.trans hE', by simp [hn, hn'], by simp [hd, hd']⟩

theorem sansNote_notification (S : Server) (b : Base) (fs : Champs) :
    SansNote b (S.addDoc .notifications b fs) := ⟨_, .notification S b fs, rfl, rfl⟩

section Ecritures

variable {S : Server} {p : NotesPage} {b : Base} (h : Horloge) (matiereNom : Valeur)

/-- The parents of the families are notified, one after the other. -/
theorem runs_notifierFamilles (e : Destinataire) (note : Option (Double × String))
    (message : String) (familles : List (String × Document)) :
    ∃ (fs : List ((String × Document) × String)) (b' : Base) (l : List Base),
      (notifierFamilles h e matiereNom note message familles).Runs S.handler p b () p b' l ∧
      fs.map Prod.fst = familles ∧ l.length = familles.length ∧ (∀ y ∈ l, SansNote b y) ∧
      Bilan b { notifications := fs.map fun f => (f.2, newDoc b.clock
        (p.notificationParent h e matiereNom note message f.1)) } b' := by
  induction familles generalizing b with
  | nil => exact ⟨[], b, [], runs_ret () p b, rfl, rfl, by simp, .refl b⟩
  | cons famille familles ih =>
    let doc := p.notificationParent h e matiereNom note message famille
    obtain ⟨fs, b', l, hruns, hfs, hlen, hl, hbilan⟩ := ih (b := S.addDoc .notifications b doc)
    refine ⟨(famille, S.newDocId b .notifications) :: fs, b', [] ++ ([b] ++ l), ?_, ?_, ?_, ?_, ?_⟩
    · exact (runs_page p b).bind ((runs_ajouter _ _ doc).bind hruns)
    · rw [List.map_cons, hfs]
    · simp [hlen]
    · intro y hy
      rcases List.mem_cons.mp hy with rfl | hy
      · exact .refl _
      · exact (sansNote_notification S b doc).trans (hl y hy)
    · exact (Bilan.notification S b doc).trans hbilan

/-- The end of a turn, once the grade is known. -/
theorem runs_avertir (e : Destinataire) (note : Option (Double × String)) :
    ∃ (fs : List ((String × Document) × String)) (nid : String) (b' : Base) (l : List Base),
      (NotesPage.avertir h matiereNom e note).Runs S.handler p b () p b' l ∧
      fs.map Prod.fst = famillesDe b e.eleveId ∧
      l.length = (famillesDe b e.eleveId).length + 2 ∧ (∀ y ∈ l, SansNote b y) ∧
      Bilan b { notifications := fs.map (fun f => (f.2, newDoc b.clock
          (p.notificationParent h e matiereNom note
            (p.messageParent h e matiereNom (note.map Prod.fst)) f.1))) ++
        [(nid, newDoc b.clock (notificationEleve h e note
          (messageEleve h matiereNom (note.map Prod.fst))))] } b' := by
  obtain ⟨fs, b₁, l, hruns, hfs, hlen, hl, hbilan⟩ := runs_notifierFamilles (S := S) (p := p)
    (b := b) h matiereNom e note (p.messageParent h e matiereNom (note.map Prod.fst))
    (famillesDe b e.eleveId)
  let avis := notificationEleve h e note (messageEleve h matiereNom (note.map Prod.fst))
  refine ⟨fs, S.newDocId b₁ .notifications, S.addDoc .notifications b₁ avis,
    [] ++ ([b] ++ (l ++ ([b₁] ++ []))), ?_, hfs, ?_, ?_, ?_⟩
  · have hquery := runs_chercher_egal (S := S) (s := p) (b := b) EtapeNotes.familles .famille
      .eleveId (.str e.eleveId)
    have hnotif := runs_ajouter (S := S) (s := p) (b := b₁) EtapeNotes.notification .notifications avis
    exact (runs_page p b).bind (hquery.bind (hruns.bind (hnotif.bind (runs_ret () p _))))
  · simp [hlen]
  · have hend : SansNote b b₁ := ⟨_, hbilan, rfl, rfl⟩
    intro y hy
    simp only [List.nil_append, List.append_nil, List.mem_append, List.mem_singleton] at hy
    rcases hy with rfl | hy | rfl
    · exact .refl _
    · exact hl y hy
    · exact hend
  · have hlast := Bilan.notification S b₁ avis
    rw [hbilan.clock] at hlast
    exact hbilan.trans hlast

/-- Nothing is written for an empty entry. -/
theorem runs_noter_vide {e : String} (hx : p.noteSaisie e = .ok none) :
    (noter h e).Runs S.handler p b none p b [] := by
  have hsaisie := runs_ofExcept (h := S.handler) (Λ := EtapeNotes) hx p b
  exact (runs_page p b).bind (hsaisie.bind (runs_ret none p b))

/-- A grade is added and its id entered in the record of the student. -/
theorem runs_noter (x : Saisie) {e : String} {v : Double}
    (hv : x.page.noteSaisie e = .ok (some v)) {d : Document} (hd : b.doc .eleves e = some d) :
    ∃ (b₁ b' : Base), (noter h e).Runs S.handler x.page b (some (v, S.newDocId b .notes)) x.page b'
        [b, b₁] ∧
      Bilan b { notes := [(S.newDocId b .notes, newDoc b.clock (x.page.note h e v x.type
        x.matiereId))] } b₁ ∧
      Bilan b₁ { dossiers := [(e, S.newDocId b .notes)] } b' := by
  let fs := x.page.note h e v x.type x.matiereId
  have hnote := Bilan.note S b fs
  obtain ⟨d₁, hd₁, -⟩ := hnote.eleve_of_some hd
  refine ⟨S.addDoc .notes b fs, _, ?_, hnote, .dossier hd₁ _⟩
  have hsaisie := runs_ofExcept (h := S.handler) (Λ := EtapeNotes) hv x.page b
  have htype := runs_ofExcept (h := S.handler) (Λ := EtapeNotes)
    (x := nonNul x.page.typeNote) (by rw [x.typeNote]; rfl) x.page b
  have hmatiere := runs_ofExcept (h := S.handler) (Λ := EtapeNotes)
    (x := nonNul x.page.matiereChoisieId) (by rw [x.matiere]; rfl) x.page b
  have hadd := runs_ajouter (S := S) (s := x.page) (b := b) EtapeNotes.note .notes fs
  have hupdate := runs_update (S := S) (s := x.page) EtapeNotes.notesIds hd₁
    [(.notesIds, .arrayUnion [S.newDocId b .notes])]
  exact (runs_page x.page b).bind (hsaisie.bind (htype.bind (hmatiere.bind
    (hadd.bind (hupdate.bind (runs_ret _ x.page _))))))

end Ecritures

/-! ## A turn -/

/-- The body of the loop, with what the save works with. -/
abbrev Saisie.tour (x : Saisie) (e : String) : Action EtapeNotes NotesPage Unit :=
  enregistrerEleve x.horloge x.matiereNom e

/-- The number of requests for a student without a grade. -/
def appelsSansNote (b : Base) (d : Document) (e : String) : ℕ :=
  1 + appelsNoms (d.get .utilisateurId) + ((famillesDe b e).length + 2)

/-- The number of requests for a student before the one that adds his grade. -/
def appelsAvantNote (d : Document) : ℕ := 1 + appelsNoms (d.get .utilisateurId)

theorem Bilan.famillesDe {b b' : Base} {E : Effets} (h : Bilan b E b') (e : String) :
    famillesDe b' e = Enseignant.famillesDe b e := by
  unfold Enseignant.famillesDe
  rw [h.autres .famille (by decide) (by decide) (by decide)]

section Tours

variable {S : Server} {b : Base} (x : Saisie) {e : String}

theorem runs_tour_absent (he : e ≠ "") (hd : b.doc .eleves e = none) :
    (x.tour e).Runs S.handler x.page b () x.page b [b] := by
  have hlire := runs_lireDoc (S := S) (s := x.page) (b := b) EtapeNotes.eleve .eleves he
  rw [hd] at hlire
  exact hlire.bind (runs_ret () x.page b)

/-- The part of a turn before the grade. -/
theorem runs_tour (hl : Lisible x.page b e) {d : Document} (hd : b.doc .eleves e = some d) :
    ∃ n : String × String, ∀ {note : Option (Double × String)} {b₁ b' : Base} {l l' : List Base},
      (noter x.horloge e).Runs S.handler x.page b note x.page b₁ l →
      (avertir x.horloge x.matiereNom ⟨e, d.get .utilisateurId, n.1, n.2⟩ note).Runs S.handler
        x.page b₁ () x.page b' l' →
      (x.tour e).Runs S.handler x.page b () x.page b'
        (List.replicate (appelsAvantNote d) b ++ (l ++ l')) := by
  obtain ⟨n, hn⟩ := hl.noms d hd
  obtain ⟨prenom, nom⟩ := n
  refine ⟨(prenom, nom), fun hnoter havertir => ?_⟩
  have hlire := runs_lireDoc (S := S) (s := x.page) (b := b) EtapeNotes.eleve .eleves hl.id
  rw [hd] at hlire
  have hreads : List.replicate (appelsAvantNote d) b =
      [b] ++ List.replicate (appelsNoms (d.get .utilisateurId)) b := by
    unfold appelsAvantNote
    rw [Nat.add_comm, List.replicate_succ]
    rfl
  rw [hreads, List.append_assoc]
  exact hlire.bind ((runs_noms hn).bind (hnoter.bind havertir))

/-- A student without a grade. -/
theorem runs_tour_sans (hl : Lisible x.page b e) {d : Document} (hd : b.doc .eleves e = some d)
    (hx : x.page.noteSaisie e = .ok none) :
    ∃ (t : Passage) (b' : Base) (l : List Base), (x.tour e).Runs S.handler x.page b () x.page b' l ∧
      t.eleve.eleveId = e ∧ t.Juste x b ∧ t.note = none ∧ Bilan b (t.effets x b.clock) b' ∧
      l.length = appelsSansNote b d e ∧ ∀ y ∈ l, SansNote b y := by
  obtain ⟨n, htour⟩ := runs_tour (S := S) x hl hd
  let eleve : Destinataire := ⟨e, d.get .utilisateurId, n.1, n.2⟩
  obtain ⟨fs, nid, b', l, hruns, hfs, hlen, hsans, hbilan⟩ := runs_avertir (S := S) (p := x.page)
    (b := b) x.horloge x.matiereNom eleve none
  refine ⟨⟨eleve, none, fs, nid⟩, b', _, htour (runs_noter_vide x.horloge hx) hruns, rfl, ?_, rfl,
    hbilan, ?_, ?_⟩
  · exact ⟨⟨d, hd, rfl⟩, hx, hfs⟩
  · have hlen' : l.length = (famillesDe b e).length + 2 := hlen
    simp only [List.length_append, List.length_replicate, List.length_nil, hlen', appelsSansNote,
      appelsAvantNote]
    omega
  · intro y hy
    rcases List.mem_append.mp hy with hy | hy
    · rw [List.eq_of_mem_replicate hy]
      exact .refl b
    · exact hsans y hy

/-- A student with a grade: the grade is written after the reads, and stays. -/
theorem runs_tour_avec (hl : Lisible x.page b e) {d : Document} (hd : b.doc .eleves e = some d)
    {v : Double} (hv : x.page.noteSaisie e = .ok (some v)) :
    ∃ (t : Passage) (b' : Base) (l : List Base), (x.tour e).Runs S.handler x.page b () x.page b' l ∧
      t.eleve.eleveId = e ∧ t.Juste x b ∧ Bilan b (t.effets x b.clock) b' ∧
      ∃ l', l = List.replicate (appelsAvantNote d + 1) b ++ l' ∧
        ∀ y ∈ l', ∃ E, Bilan b E y ∧ ∃ note ∈ E.notes, note.2 .eleveId = some (.str e) := by
  obtain ⟨n, htour⟩ := runs_tour (S := S) x hl hd
  let eleve : Destinataire := ⟨e, d.get .utilisateurId, n.1, n.2⟩
  obtain ⟨b₁, b₂, hnoter, hnote, hdossier⟩ := runs_noter (S := S) x.horloge x hv hd
  have hgrade := hnote.trans hdossier
  let note : Option (Double × String) := some (v, S.newDocId b .notes)
  obtain ⟨fs, nid, b', l, hruns, hfs, -, hsans, hbilan⟩ := runs_avertir (S := S) (p := x.page)
    (b := b₂) x.horloge x.matiereNom eleve note
  rw [hgrade.clock] at hbilan
  have hchamp : newDoc b.clock (x.page.note x.horloge e v x.type x.matiereId) .eleveId =
      some (.str e) := newDoc_note _ _ _ _ _ _ _ (by decide) (by decide)
  refine ⟨⟨eleve, note, fs, nid⟩, b', _, htour hnoter hruns, rfl, ?_, hgrade.trans hbilan,
    [b₁] ++ l, ?_, ?_⟩
  · refine ⟨⟨d, hd, rfl⟩, hv, ?_⟩
    exact hfs.trans (hgrade.famillesDe e)
  · rw [List.replicate_succ', List.append_assoc]
    rfl
  · intro y hy
    rcases List.mem_append.mp hy with hy | hy
    · obtain rfl := List.mem_singleton.mp hy
      exact ⟨_, hnote, _, List.mem_singleton_self _, hchamp⟩
    · obtain ⟨E, hE, -, -⟩ := hsans y hy
      have hmem : (S.newDocId b .notes, newDoc b.clock (x.page.note x.horloge e v x.type
          x.matiereId)) ∈ [(S.newDocId b .notes, newDoc b.clock (x.page.note x.horloge e v x.type
            x.matiereId))] ++ [] ++ E.notes :=
        List.mem_append_left _ (List.mem_append_left _ (List.mem_singleton_self _))
      exact ⟨_, hgrade.trans hE, _, hmem, hchamp⟩

end Tours

end EduConnect.Enseignant
