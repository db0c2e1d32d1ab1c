import EduConnect.Enseignant.Valeurs

/-!
# One submission

`_enregistrerNotes` reads the selection of the page again after its awaits, while every chip stays
active: a selection that changes in the meantime splits the batch.
-/

namespace EduConnect.Enseignant

open Lib Prog

abbrev EchangeNotes (ι : Type) := Exchange ι EtapeNotes Requete Req.Ans Err

/-- What the page says of a save that fails. -/
def echec (e : Err) : String := "Erreur lors de l'enregistrement : " ++ texteErreur e

theorem texteErreur_eq_type {e : Err} (h : texteErreur e = texteErreur .type) : e = .type := by
  have hne : ∀ {c}, (texteErreur e).toList[0]? = some c → c = 't' := by
    intro c hc
    rw [h] at hc
    exact Option.some.inj (hc.symm.trans (by decide))
  cases e with
  | type => rfl
  | auth code m =>
    have hcode := char_append (s := "[firebase_auth/") (n := 0) (c := '[') (by decide) code
    exact absurd (hne (char_append hcode _)) (by decide)
  | format source => exact absurd (hne (char_append (c := 'F') (by decide) _)) (by decide)
  | exception m => exact absurd (hne (char_append (c := 'E') (by decide) _)) (by decide)
  | _ => exact absurd h (by decide)

theorem echec_eq_type {e : Err} (h : echec e = echec .type) : e = .type :=
  texteErreur_eq_type (String.append_right_inj _ |>.mp h)

/-- A load fails with another message. -/
theorem erreur_ne_echec (e e' : Err) : "Erreur: " ++ texteErreur e ≠ echec e' := by
  intro h
  have hleft := char_append (s := "Erreur: ") (n := 6) (c := ':') (by decide) (texteErreur e)
  have hright := char_append (s := "Erreur lors de l'enregistrement : ") (n := 6) (c := ' ')
    (by decide) (texteErreur e')
  rw [h] at hleft
  exact absurd (hleft.symm.trans hright) (by decide)

namespace NotesPage

variable {ι : Type} {i : ι} {p p₀ : NotesPage} {h : Horloge} {w w' : List (EchangeNotes ι)}

/-! ## The selection -/

/-- `p` has the type of grade of `q`, and its description or sequence. -/
structure MemeNature (p q : NotesPage) : Prop where
  type : p.typeNote = q.typeNote
  description : q.typeNote = some .exercice → p.descriptionExercice = q.descriptionExercice
  sequence : q.typeNote = some .examen → p.sequenceChoisie = q.sequenceChoisie

theorem MemeNature.complements (hp : MemeNature p p₀) : p.complements = p₀.complements := by
  unfold NotesPage.complements
  rw [hp.type]
  rcases ht : p₀.typeNote with _ | _ | _
  · rfl
  · rw [hp.description ht]
  · rw [hp.sequence ht]

theorem MemeNature.note (hp : MemeNature p p₀) (e : String) (v : Double) (t : TypeNote)
    (m : String) : p.note h e v t m = p₀.note h e v t m := by
  unfold NotesPage.note
  rw [hp.complements]

theorem MemeNature.metadata (hp : MemeNature p p₀) (matiereNom : Valeur)
    (note : Option (Double × String)) : p.metadata matiereNom note = p₀.metadata matiereNom note := by
  unfold NotesPage.metadata
  rw [hp.complements, hp.type]

theorem MemeNature.messageParent (hp : MemeNature p p₀) (e : Destinataire) (matiereNom : Valeur)
    (v : Option Double) : p.messageParent h e matiereNom v = p₀.messageParent h e matiereNom v := by
  rcases v with _ | v
  · rfl
  · unfold NotesPage.messageParent
    rw [hp.type]
    rcases ht : p₀.typeNote with _ | _ | _
    · rfl
    · rw [hp.description ht]
    · rw [hp.sequence ht]

/-- With a grade typed, the page has the subject and the nature of the grades of `p₀`. -/
def Saisi (p₀ p : NotesPage) : Prop := (∃ e v, p.noteSaisie e = .ok (some v)) →
  p.matiereChoisieId = p₀.matiereChoisieId ∧ MemeNature p p₀

/-- What a call pressed on `p₀` reads of the page `p` when it goes on with an answer: the roster
after the subject, the subject and the nature of the grade before it stores one, the nature before it
notifies a parent. -/
def Relit (p₀ p : NotesPage) : EchangeNotes ι → Prop
  | ⟨_, .matiere, _, .ok _⟩ => p.elevesDeLaClasse = p₀.elevesDeLaClasse
  | ⟨_, .eleve, .get _ _, .ok (some eleve)⟩ =>
    AppelPage.reference (eleve.get .utilisateurId) = .ok none → Saisi p₀ p
  | ⟨_, .compte, _, .ok _⟩ => Saisi p₀ p
  | ⟨_, .notesIds, _, .ok _⟩ => MemeNature p p₀
  | ⟨_, .familles, .query _ _, .ok familles⟩ => familles ≠ [] → MemeNature p p₀
  | ⟨_, .parent, _, .ok _⟩ => MemeNature p p₀
  | _ => True

/-! ## What a call writes -/

/-- A grade of a student of the class chosen, under the selection of `p`. -/
def NoteDe (p : NotesPage) (h : Horloge) (fs : Champs) : Prop :=
  ∃ e ∈ p.elevesDeLaClasse, ∃ v t m, p.typeNote = some t ∧ p.matiereChoisieId = some m ∧
    fs = p.note h e v t m

/-- The name of the subject chosen on `p`, as the call of `i` has read it. -/
def SujetLu (i : ι) (p : NotesPage) (w : List (EchangeNotes ι)) (matiereNom : Valeur) : Prop :=
  ∃ m doc, p.matiereChoisieId = some m ∧
    (⟨i, .matiere, .get .matieres m, .ok doc⟩ : EchangeNotes ι) ∈ w ∧ nomMatiere doc = .ok matiereNom

/-- The notification of a parent of a student of the class chosen, under the selection of `p`. -/
def AvisDe (i : ι) (p : NotesPage) (h : Horloge) (w : List (EchangeNotes ι)) (fs : Champs) : Prop :=
  ∃ e : Destinataire, e.eleveId ∈ p.elevesDeLaClasse ∧ ∃ matiereNom note,
    SujetLu i p w matiereNom ∧ newDoc 0 fs .eleveId = some (.str e.eleveId) ∧
    newDoc 0 fs .titre = some (.str ("Nouvelle note en " ++ interpoler matiereNom)) ∧
    newDoc 0 fs .message = some (.str (p.messageParent h e matiereNom (note.map Prod.fst))) ∧
    newDoc 0 fs .metadata = some (.map (newDoc 0 (p.metadata matiereNom note)))

/-- A request of a call pressed on `p₀`. -/
def Conforme (i : ι) (p₀ : NotesPage) (h : Horloge) (w : List (EchangeNotes ι)) (l : EtapeNotes)
    (r : Requete) : Prop :=
  (∀ fs, r = .add .notes fs → NoteDe p₀ h fs) ∧
    (l = .parent → ∀ fs, r = .add .notifications fs → AvisDe i p₀ h w fs)

/-- An answer the call cannot read. -/
def Illisible : EchangeNotes ι → Prop
  | ⟨_, .matiere, .get .matieres _, .ok doc⟩ => nomMatiere doc = .error .type
  | ⟨_, .eleve, .get .eleves _, .ok (some eleve)⟩ =>
    AppelPage.reference (eleve.get .utilisateurId) = .error .type
  | ⟨_, .compte, .get .utilisateurs _, .ok (some utilisateur)⟩ =>
    (utilisateur.get .prenom).orStr "Prénom" = .error .type ∨
      (utilisateur.get .nom).orStr "Nom" = .error .type
  | _ => False

/-- A call of `i` has got an answer of the wrong type. -/
def Cause (i : ι) (w : List (EchangeNotes ι)) : Prop :=
  ∃ x ∈ w, x.who = i ∧ Sauvegarde x.lab ∧ (x.ans = .error .type ∨ Illisible x)

/-- The page has not said since `p₀` that a save failed for a wrong type, unless there was one. -/
def Justifie (i : ι) (p₀ : NotesPage) (w : List (EchangeNotes ι)) (p : NotesPage) : Prop :=
  p.messages.count (echec .type) = p₀.messages.count (echec .type) ∨ Cause i w

theorem SujetLu.mono (hw : w <+: w') {matiereNom : Valeur} (hm : SujetLu i p₀ w matiereNom) :
    SujetLu i p₀ w' matiereNom := by
  obtain ⟨m, doc, hp, hmem, hdoc⟩ := hm
  exact ⟨m, doc, hp, hw.subset hmem, hdoc⟩

theorem Conforme.mono (hw : w <+: w') {l : EtapeNotes} {r : Requete}
    (hr : Conforme i p₀ h w l r) : Conforme i p₀ h w' l r := by
  refine ⟨hr.1, fun hl fs hfs => ?_⟩
  obtain ⟨e, he, matiereNom, note, hm, hfs⟩ := hr.2 hl fs hfs
  exact ⟨e, he, matiereNom, note, hm.mono hw, hfs⟩

theorem Cause.mono (hw : w <+: w') (hc : Cause i w) : Cause i w' := by
  obtain ⟨x, hx, hc⟩ := hc
  exact ⟨x, hw.subset hx, hc⟩

theorem Justifie.mono (hw : w <+: w') (hp : Justifie i p₀ w p) : Justifie i p₀ w' p :=
  hp.imp_right (Cause.mono hw)

/-- Only the message of a save that fails counts. -/
theorem count_afficher {texte : String} (ht : texte ≠ echec .type) (p : NotesPage) :
    (p.afficher texte).messages.count (echec .type) = p.messages.count (echec .type) := by
  show (p.messages ++ [texte]).count (echec .type) = _
  rw [List.count_append, List.count_singleton, if_neg (by simpa using ht), Nat.add_zero]

theorem Justifie.afficher {texte : String} (ht : texte = echec .type → Cause i w)
    (hp : Justifie i p₀ w p) : Justifie i p₀ w (p.afficher texte) := by
  by_cases htexte : texte = echec .type
  · exact Or.inr (ht htexte)
  · exact hp.imp_left fun hcount => (count_afficher htexte p).trans hcount

/-- A request that is neither a grade nor the notification of a parent. -/
theorem conforme_of_ne {l : EtapeNotes} {r : Requete} (hr : ∀ fs, r ≠ .add .notes fs)
    (hl : l ≠ .parent) : Conforme i p₀ h w l r :=
  ⟨fun fs hfs => absurd hfs (hr fs), fun hl' => absurd hl' hl⟩

/-! ## The call, under the rule -/

/-- The rule for a call of `i` pressed on `p₀`. -/
abbrev Suit {α : Type} (i : ι) (p₀ : NotesPage) (h : Horloge)
    (Q : Except Err α → List (EchangeNotes ι) → NotesPage → Prop)
    (q : Action EtapeNotes NotesPage α) (w : List (EchangeNotes ι)) (p : NotesPage) : Prop :=
  q.Ok (fun w j p => j = i → Justifie i p₀ w p) (fun w j l r => j = i → Conforme i p₀ h w l r)
    (fun _ x p => x.who = i → Relit p₀ p x) i Q w p

/-- What is known when a part of the call ends: the page is justified, the error too, and with a
result there is more. -/
structure Rendu {α : Type} (i : ι) (p₀ : NotesPage) (w : List (EchangeNotes ι))
    (R : α → List (EchangeNotes ι) → NotesPage → Prop) (a : Except Err α)
    (w' : List (EchangeNotes ι)) (p : NotesPage) : Prop where
  grows : w <+: w'
  justifie : Justifie i p₀ w' p
  cause : a = .error .type → Cause i w'
  ok : ∀ v, a = .ok v → R v w' p

variable {α β : Type} {R : α → List (EchangeNotes ι) → NotesPage → Prop}
  {R' : β → List (EchangeNotes ι) → NotesPage → Prop}

theorem Rendu.ret {v : α} (hp : Justifie i p₀ w p) (hv : R v w p) : Rendu i p₀ w R (.ok v) w p :=
  ⟨List.prefix_refl w, hp, nofun, by rintro _ ⟨⟩; exact hv⟩

theorem Rendu.fail {e : Err} (hp : Justifie i p₀ w p) (he : e = .type → Cause i w) :
    Rendu i p₀ w R (.error e) w p :=
  ⟨List.prefix_refl w, hp, fun h => he (Except.error.inj h), nofun⟩

/-- One part after another. -/
theorem Suit.bind {q : Action EtapeNotes NotesPage α} {f : α → Action EtapeNotes NotesPage β}
    (hq : Suit i p₀ h (Rendu i p₀ w R) q w p)
    (hf : ∀ v w' p', w <+: w' → Justifie i p₀ w' p' → R v w' p' →
      Suit i p₀ h (Rendu i p₀ w' R') (f v) w' p') :
    Suit i p₀ h (Rendu i p₀ w R') (Prog.bind q f) w p := by
  refine ok_bind.mpr (hq.mono ?_)
  rintro (e | v) w' p' hfin
  · exact ⟨hfin.grows, hfin.justifie, fun he => hfin.cause (by cases he; rfl), nofun⟩
  · refine (hf v w' p' hfin.grows hfin.justifie (hfin.ok v rfl)).mono fun a w'' p'' hfin' => ?_
    exact ⟨hfin.grows.trans hfin'.grows, hfin'.justifie, hfin'.cause, hfin'.ok⟩

theorem suit_ret {v : α} (hp : Justifie i p₀ w p) (hv : R v w p) :
    Suit i p₀ h (Rendu i p₀ w R) (.ret v) w p := ok_ret.mpr (.ret hp hv)

/-- A value that is there, or an error, and the rest of the call on the same page. -/
theorem Suit.ofExcept_bind {a : Except Err α} {f : α → Action EtapeNotes NotesPage β}
    (hp : Justifie i p₀ w p) (he : a = .error .type → Cause i w)
    (hv : ∀ v, a = .ok v → Suit i p₀ h (Rendu i p₀ w R') (f v) w p) :
    Suit i p₀ h (Rendu i p₀ w R') (Prog.bind (ofExcept a) f) w p := by
  refine ok_bind.mpr (ok_ofExcept.mpr ?_)
  rcases a with e | v
  · exact .fail hp fun h => he (h ▸ rfl)
  · exact hv v rfl

/-- A request of the call, with what its answer says and what the page is then. -/
theorem suit_call (l : EtapeNotes) (r : Requete)
    {R : Req.Ans r → List (EchangeNotes ι) → NotesPage → Prop} (hl : Sauvegarde l)
    (hr : Conforme i p₀ h w l r) (hp : Justifie i p₀ w p)
    (hR : ∀ v w' p', (⟨i, l, r, .ok v⟩ : EchangeNotes ι) ∈ w' →
      Relit p₀ p' (⟨i, l, r, .ok v⟩ : EchangeNotes ι) → R v w' p') :
    Suit i p₀ h (Rendu i p₀ w R) (call l r) w p := by
  refine ok_call.mpr ⟨fun _ => hp, fun _ => hr, fun a w' p' hw hmem hI hC => ?_⟩
  refine ⟨hw, hI rfl, fun ha => ⟨_, hmem, rfl, hl, Or.inl ha⟩, ?_⟩
  rintro v rfl
  exact hR v w' p' hmem (hC rfl)

theorem suit_lireDoc {l : EtapeNotes} {c : Collection} {id : String} (hl : Sauvegarde l)
    (hl' : l ≠ .parent) (hp : Justifie i p₀ w p) :
    Suit i p₀ h (Rendu i p₀ w fun (v : Option Document) w' p' =>
      (⟨i, l, .get c id, .ok v⟩ : EchangeNotes ι) ∈ w' ∧
        Relit p₀ p' (⟨i, l, .get c id, .ok v⟩ : EchangeNotes ι)) (lireDoc l c id) w p := by
  unfold lireDoc
  by_cases hid : id = ""
  · rw [if_pos hid]
    exact ok_fail.mpr (.fail hp nofun)
  · rw [if_neg hid]
    exact suit_call l (.get c id) hl (conforme_of_ne (fun fs => nofun) hl') hp
      fun v w' p' hmem hrelit => ⟨hmem, hrelit⟩

theorem suit_noms {u : Valeur} (hp : Justifie i p₀ w p)
    (hu : AppelPage.reference u = .error .type → Cause i w)
    (hs : AppelPage.reference u = .ok none → Saisi p₀ p) :
    Suit i p₀ h (Rendu i p₀ w fun _ _ p' => Saisi p₀ p') (noms u) w p := by
  refine Suit.ofExcept_bind hp hu ?_
  rintro (_ | id) hid
  · exact suit_ret hp (hs hid)
  refine Suit.bind (suit_call .compte (.get .utilisateurs id) (R := fun v w' p' =>
    (⟨i, .compte, .get .utilisateurs id, .ok v⟩ : EchangeNotes ι) ∈ w' ∧ Saisi p₀ p')
    (by simp [Sauvegarde]) (conforme_of_ne (fun fs => nofun) nofun) hp
    fun v w' p' hmem hrelit => ⟨hmem, hrelit⟩) ?_
  rintro (_ | utilisateur : Option Document) w₁ p₁ - hp₁ ⟨hmem, hsaisi⟩
  · exact suit_ret hp₁ hsaisi
  have hcause : (utilisateur.get .prenom).orStr "Prénom" = .error .type ∨
      (utilisateur.get .nom).orStr "Nom" = .error .type → Cause i w₁ :=
    fun hill => ⟨_, hmem, rfl, by simp [Sauvegarde], Or.inr hill⟩
  refine Suit.ofExcept_bind hp₁ (fun he => hcause (Or.inl he)) fun prenom _ => ?_
  exact Suit.ofExcept_bind hp₁ (fun he => hcause (Or.inr he)) fun nom _ => suit_ret hp₁ hsaisi

theorem noteSaisie_ne_type (p : NotesPage) (e : String) : p.noteSaisie e ≠ .error .type := by
  unfold noteSaisie
  generalize (p.notesStr.find e).getD "" = texte
  by_cases htrim : trim texte = ""
  · rw [if_pos htrim]
    exact nofun
  · rw [if_neg htrim]
    rcases Double.tryParse (texteNote texte) with _ | v <;> exact nofun

/-- With a selection complete at the press, a grade is stored under it. -/
theorem suit_noter {t : TypeNote} {m e : String} (ht : p₀.typeNote = some t)
    (hm : p₀.matiereChoisieId = some m) (he : e ∈ p₀.elevesDeLaClasse) (hp : Justifie i p₀ w p)
    (hs : Saisi p₀ p) : Suit i p₀ h (Rendu i p₀ w fun note _ p' => note ≠ none → MemeNature p' p₀)
      (noter h e) w p := by
  unfold noter
  refine ok_page.mpr (Suit.ofExcept_bind hp (fun hv => absurd hv (noteSaisie_ne_type p e)) ?_)
  rintro (_ | v) hv
  · exact suit_ret hp fun hnone => absurd rfl hnone
  obtain ⟨hmatiere, hnature⟩ := hs ⟨e, v, hv⟩
  have htype : p.typeNote = some t := hnature.type.trans ht
  have hsujet : p.matiereChoisieId = some m := hmatiere.trans hm
  rw [htype, hsujet]
  refine Suit.ofExcept_bind hp (fun h => by cases h) ?_
  rintro _ ⟨⟩
  refine Suit.ofExcept_bind hp (fun h => by cases h) ?_
  rintro _ ⟨⟩
  refine Suit.bind (suit_call .note (.add .notes (p.note h e v t m)) (R := fun _ _ _ => True)
    (by simp [Sauvegarde]) ⟨?_, fun h => by cases h⟩ hp fun _ _ _ _ _ => trivial)
    fun noteId w₁ p₁ _ hp₁ _ => ?_
  · rintro fs hfs
    obtain rfl : p.note h e v t m = fs := by
      cases hfs
      rfl
    exact ⟨e, he, v, t, m, ht, hm, hnature.note e v t m⟩
  refine Suit.bind (suit_call .notesIds
    (.write (.update .eleves e [(.notesIds, .arrayUnion [noteId])]))
    (R := fun _ _ p' => MemeNature p' p₀) (by simp [Sauvegarde])
    (conforme_of_ne (by simp) (by simp)) hp₁ fun _ _ _ _ hrelit => hrelit) ?_
  exact fun _ w₂ p₂ _ hp₂ hnature' => suit_ret hp₂ fun _ => hnature'

theorem suit_notifierFamilles {e : Destinataire} {matiereNom : Valeur}
    {note : Option (Double × String)} (he : e.eleveId ∈ p₀.elevesDeLaClasse)
    (hm : SujetLu i p₀ w matiereNom) (familles : List (String × Document))
    (hn : familles ≠ [] → MemeNature p p₀) (hp : Justifie i p₀ w p) :
    Suit i p₀ h (Rendu i p₀ w fun _ _ _ => True) (notifierFamilles h e matiereNom note
      (p₀.messageParent h e matiereNom (note.map Prod.fst)) familles) w p := by
  induction familles generalizing w p with
  | nil => exact suit_ret hp trivial
  | cons famille familles ih =>
    have hnature := hn (List.cons_ne_nil _ _)
    refine ok_page.mpr (Suit.bind (suit_call .parent (.add .notifications
      (p.notificationParent h e matiereNom note
        (p₀.messageParent h e matiereNom (note.map Prod.fst)) famille))
      (R := fun _ _ p' => MemeNature p' p₀) (by simp [Sauvegarde])
      ⟨fun fs => nofun, fun _ fs hfs => ?_⟩ hp fun _ _ _ _ hrelit => hrelit) ?_)
    · obtain rfl : p.notificationParent h e matiereNom note
          (p₀.messageParent h e matiereNom (note.map Prod.fst)) famille = fs := by
        cases hfs
        rfl
      refine ⟨e, he, matiereNom, note, hm, rfl, rfl, rfl, ?_⟩
      rw [← hnature.metadata]
      rfl
    · exact fun _ w' p' hw hp' hnature' => ih (hm.mono hw) (fun _ => hnature') hp'

theorem suit_avertir {e : Destinataire} {matiereNom : Valeur} {note : Option (Double × String)}
    (he : e.eleveId ∈ p₀.elevesDeLaClasse) (hm : SujetLu i p₀ w matiereNom)
    (hn : note ≠ none → MemeNature p p₀) (hp : Justifie i p₀ w p) :
    Suit i p₀ h (Rendu i p₀ w fun _ _ _ => True) (avertir h matiereNom e note) w p := by
  have hmessage : p.messageParent h e matiereNom (note.map Prod.fst) =
      p₀.messageParent h e matiereNom (note.map Prod.fst) := by
    rcases note with _ | note
    · rfl
    · exact (hn (by simp)).messageParent e matiereNom _
  unfold avertir
  refine ok_page.mpr ?_
  rw [hmessage]
  refine Suit.bind (suit_call .familles (.query .famille
    ⟨[.isEqualTo .eleveId (.str e.eleveId)], none, none⟩)
    (R := fun (familles : List (String × Document)) _ p' => familles ≠ [] → MemeNature p' p₀)
    (by simp [Sauvegarde]) (conforme_of_ne (by simp) (by simp)) hp
    fun _ _ _ _ hrelit => hrelit) ?_
  intro familles w₁ p₁ hw₁ hp₁ hn₁
  refine Suit.bind (suit_notifierFamilles he (hm.mono hw₁) familles hn₁ hp₁) ?_
  intro _ w₂ p₂ _ hp₂ _
  refine Suit.bind (suit_call .notification (.add .notifications (notificationEleve h e note
    (messageEleve h matiereNom (note.map Prod.fst)))) (R := fun _ _ _ => True)
    (by simp [Sauvegarde]) (conforme_of_ne (by simp) (by simp)) hp₂ fun _ _ _ _ _ => trivial) ?_
  exact fun _ w₃ p₃ _ hp₃ _ => suit_ret hp₃ trivial

theorem suit_enregistrerEleve {t : TypeNote} {m e : String} {matiereNom : Valeur}
    (ht : p₀.typeNote = some t) (hm : p₀.matiereChoisieId = some m) (he : e ∈ p₀.elevesDeLaClasse)
    (hsujet : SujetLu i p₀ w matiereNom) (hp : Justifie i p₀ w p) :
    Suit i p₀ h (Rendu i p₀ w fun _ _ _ => True) (enregistrerEleve h matiereNom e) w p := by
  unfold enregistrerEleve
  refine Suit.bind (suit_lireDoc (by simp [Sauvegarde]) nofun hp) ?_
  rintro (_ | eleve) w₁ p₁ hw₁ hp₁ ⟨hmem, hrelit⟩
  · exact suit_ret hp₁ trivial
  refine Suit.bind (suit_noms hp₁ (fun hu => ⟨_, hmem, rfl, by simp [Sauvegarde], Or.inr hu⟩)
    hrelit) ?_
  rintro ⟨prenom, nom⟩ w₂ p₂ hw₂ hp₂ hsaisi
  refine Suit.bind (suit_noter ht hm he hp₂ hsaisi) fun note w₃ p₃ hw₃ hp₃ hn => ?_
  exact suit_avertir he (hsujet.mono ((hw₁.trans hw₂).trans hw₃)) hn hp₃

theorem suit_parcourir {t : TypeNote} {m : String} {matiereNom : Valeur}
    (ht : p₀.typeNote = some t) (hm : p₀.matiereChoisieId = some m) (ids : List String)
    (hids : ids ⊆ p₀.elevesDeLaClasse) (hsujet : SujetLu i p₀ w matiereNom)
    (hp : Justifie i p₀ w p) :
    Suit i p₀ h (Rendu i p₀ w fun _ _ _ => True) (parcourir h matiereNom ids) w p := by
  induction ids generalizing w p with
  | nil => exact suit_ret hp trivial
  | cons e ids ih =>
    obtain ⟨he, hrest⟩ := List.cons_subset.mp hids
    exact Suit.bind (suit_enregistrerEleve ht hm he hsujet hp) fun _ w' p' hw hp' _ =>
      ih hrest (hsujet.mono hw) hp'

theorem suit_enregistrer {t : TypeNote} {m : String} (ht : p₀.typeNote = some t)
    (hm : p₀.matiereChoisieId = some m) (hp : Justifie i p₀ w p) :
    Suit i p₀ h (Rendu i p₀ w fun _ _ _ => True) (enregistrer h m) w p := by
  refine Suit.bind (R := fun _ _ _ => True) ?_ fun _ w' p' _ hp' _ => ?_
  · refine Suit.bind (suit_lireDoc (by simp [Sauvegarde]) nofun hp) fun doc w₁ p₁ _ hp₁ hlu => ?_
    obtain ⟨hmem, hrelit⟩ := hlu
    refine Suit.ofExcept_bind hp₁ (fun he => ⟨_, hmem, rfl, by simp [Sauvegarde], Or.inr he⟩)
      fun matiereNom hnom => ok_page.mpr ?_
    -- the roster is read again after the await
    have hroster : p₁.elevesDeLaClasse = p₀.elevesDeLaClasse := hrelit
    exact suit_parcourir ht hm _ (fun e he => hroster ▸ he) ⟨m, doc, hm, hmem, hnom⟩ hp₁
  · have hsucces : succes = echec .type → Cause i w' := fun h => absurd h (by decide)
    exact ok_setState_ret.mpr (.ret (hp'.afficher hsucces) trivial)

/-- **The call keeps to the selection of the press**, as long as it reads that selection again. -/
theorem suit_enregistrerNotes (hp : Justifie i p₀ w p₀) :
    Suit i p₀ h (fun _ w' p' => Justifie i p₀ w' p') (enregistrerNotes h) w p₀ := by
  have htexte : ∀ {w' p' texte}, texte ≠ echec .type → Justifie i p₀ w' p' →
      Justifie i p₀ w' (p'.afficher texte) :=
    fun ht hp' => hp'.afficher fun h => absurd h ht
  unfold enregistrerNotes
  refine ok_page.mpr ?_
  split
  · rename_i matiereId t _ hm ht
    by_cases hdesc : t = .exercice ∧ trim p₀.descriptionExercice = ""
    · rw [if_pos hdesc]
      exact ok_setState_ret.mpr (htexte (by decide) hp)
    rw [if_neg hdesc]
    by_cases hok : p₀.notesAcceptees = true
    · rw [if_pos hok]
      have hraised : Justifie i p₀ w (sur (fun c => { c with saving := true }) p₀) := hp
      refine ok_setState.mpr (ok_ensuring.mpr (ok_catching.mpr ?_))
      refine (suit_enregistrer ht hm hraised).mono ?_
      rintro (e | u) w' p' hfin
      · exact ok_setState_ret.mpr (hfin.justifie.afficher fun he =>
          hfin.cause (by rw [echec_eq_type he]))
      · exact hfin.justifie
    · rw [if_neg hok]
      exact ok_setState_ret.mpr (htexte (by decide) hp)
  · exact ok_setState_ret.mpr (htexte (by decide) hp)

/-! ## The other programs -/

/-- A program that writes nothing, and says of no save that it failed. -/
structure Neutre (q : Action EtapeNotes NotesPage Unit) : Prop where
  keeps : ∀ c, q.Keeps fun p => p.messages.count (echec .type) = c
  issues : q.Issues fun l r => ¬Sauvegarde l ∧ Lecture r

theorem Neutre.seg {q : Action EtapeNotes NotesPage Unit} (hq : Neutre q) :
    ∀ t ∈ (q.seg i p).2, ∀ a, Neutre (t.k a) := by
  intro t ht a
  obtain ⟨-, -, -, hissues⟩ := hq.issues.seg p t ht
  exact ⟨fun c => ((hq.keeps c).seg p).2 t ht a, hissues a⟩

theorem neutre_setState {f : NotesPage → NotesPage} (hf : ∀ p, (f p).messages = p.messages) :
    Neutre (setState f) :=
  ⟨fun _ => (keeps_setState _).mpr fun p hp => by rw [hf p, hp], trivial⟩

theorem neutre_of_lit {q : Action EtapeNotes NotesPage Unit} {l : EtapeNotes} (hl : ¬Sauvegarde l)
    (hk : ∀ c, q.Keeps fun p => p.messages.count (echec .type) = c)
    (hi : q.Issues (Choix.Lit l)) : Neutre q :=
  ⟨hk, hi.mono fun _ _ hlit => ⟨hlit.1 ▸ hl, hlit.2⟩⟩

theorem conforme_of_lecture {l : EtapeNotes} {r : Requete} (hl : ¬Sauvegarde l) (hr : Lecture r) :
    Conforme i p₀ h w l r := by
  refine conforme_of_ne (fun fs hadd => ?_) fun hparent => hl (hparent ▸ by simp [Sauvegarde])
  rw [hadd] at hr
  exact hr

/-- The other programs follow the rule of the call. -/
theorem suit_neutre {q : Action EtapeNotes NotesPage Unit} (hq : Neutre q)
    (hp : Justifie i p₀ w p) : Suit i p₀ h (fun _ w' p' => Justifie i p₀ w' p') q w p := by
  refine (Keeps.ok (fun w' => ?_) hq.issues (fun w' l r hr _ => conforme_of_lecture hr.1 hr.2)
    fun _ => hp).mono fun _ _ _ hend => hend rfl
  exact Keeps.of_view hq.keeps fun c =>
    i = i → c = p₀.messages.count (echec .type) ∨ Cause i w'

theorem on_enregistrer {q : Action EtapeNotes NotesPage Unit}
    (hq : p.on (.enregistrer h) = some q) : p.saving = false ∧ q = enregistrerNotes h := by
  have hon : (if p.loading ∨ p.saving then none else some (enregistrerNotes h)) = some q := hq
  split_ifs at hon with hopen
  rw [not_or] at hopen
  exact ⟨by simpa using hopen.2, (Option.some.inj hon).symm⟩

/-- An event presses the button, or starts another program. -/
theorem neutre_on {ev : Evenement} {q : Action EtapeNotes NotesPage Unit} (hq : p.on ev = some q) :
    Neutre q ∨ ∃ h, ev = .enregistrer h ∧ q = enregistrerNotes h := by
  have hchoix : ¬Sauvegarde .choix := fun h => h.1 rfl
  have heleves : ¬Sauvegarde .eleves := fun h => h.2 rfl
  have hsur : ∀ c f, Choix.Remplit f → ∀ p : NotesPage, p.messages.count (echec .type) = c →
      (sur f p).messages.count (echec .type) = c := fun _ _ _ _ hp => hp
  rcases ev with _ | n | n | t | n | texte | ⟨n, texte⟩ | _ | _ | h
  · obtain rfl := Option.some.inj hq
    refine Or.inl (neutre_of_lit hchoix (fun c => keeps_initData (fun f hf => hsur c f hf.1) ?_ ?_)
      issues_initData)
    · exact fun p hp => (count_afficher (by decide) p).trans hp
    · exact fun e p hp => (count_afficher (erreur_ne_echec e .type) p).trans hp
  all_goals
    unfold on at hq
    dsimp only at hq
    split_ifs at hq
  · obtain ⟨c, -, rfl⟩ := Option.map_eq_some_iff.mp hq
    refine Or.inl (neutre_of_lit hchoix (fun c => ?_) (.bind trivial fun _ =>
      Choix.issues_chargerMatieres _ _))
    exact .bind ((keeps_setState _).mpr fun _ hp => hp) fun _ =>
      Choix.keeps_chargerMatieres (fun f hf => hsur _ f hf.1) _ _
  · obtain ⟨c, -, hm⟩ := Option.bind_eq_some_iff.mp hq
    obtain ⟨m, -, rfl⟩ := Option.map_eq_some_iff.mp hm
    refine Or.inl (neutre_of_lit heleves (fun c' => ?_) (.bind trivial fun _ =>
      issues_chargerEleves c))
    exact .bind ((keeps_setState _).mpr fun _ hp => hp) fun _ =>
      keeps_chargerEleves c fun _ _ hp => hp
  · obtain rfl := Option.some.inj hq
    exact Or.inl (neutre_setState fun _ => rfl)
  · obtain ⟨q, -, rfl⟩ := Option.map_eq_some_iff.mp hq
    exact Or.inl (neutre_setState fun _ => rfl)
  · obtain rfl := Option.some.inj hq
    exact Or.inl (neutre_setState fun _ => rfl)
  · obtain ⟨e, -, rfl⟩ := Option.map_eq_some_iff.mp hq
    exact Or.inl (neutre_setState fun _ => rfl)
  · obtain rfl := Option.some.inj hq
    exact Or.inl (neutre_setState fun _ => rfl)
  · obtain rfl := Option.some.inj hq
    exact Or.inl (neutre_setState fun _ => rfl)
  · exact Or.inr ⟨h, rfl, (Option.some.inj hq).symm⟩

end NotesPage

/-! ## Runs -/

section Runs

open NotesPage

variable {ι : Type} {S : Server} {b : Base} {pages : ι → NotesPage} {s s' u : SystemeNotes ι} {i : ι}
  {h : Horloge} {m : ℕ}

/-- What the call pressed on the page `p₀` of `i` has written since the `m`-th exchange: grades and
notifications under the selection of `p₀` only, and no failure for a wrong type without one. -/
structure Uniforme (i : ι) (p₀ : NotesPage) (h : Horloge) (m : ℕ) (s : SystemeNotes ι) : Prop where
  notes : ∀ x ∈ s.log.drop m, x.who = i → ∀ fs, x.req = .add .notes fs → NoteDe p₀ h fs
  avis : ∀ x ∈ s.log.drop m, x.who = i → x.lab = .parent → ∀ fs, x.req = .add .notifications fs →
    AvisDe i p₀ h (s.log.drop m) fs
  abandon : Justifie i p₀ (s.log.drop m) (s.pages i)

/-- The button is not pressed again on the page of `i`. -/
def SansEnvoi (i : ι) : Act ι Evenement Base → Prop
  | .event j (.enregistrer _) => j ≠ i
  | _ => True

/-- A call of `i` that goes on reads the selection of the press. -/
def Relecture (i : ι) (p₀ : NotesPage) (s : SystemeNotes ι) (a : Act ι Evenement Base) : Prop :=
  SansEnvoi i a ∧ Sys.Resumes (fun _ x p => x.who = i → Relit p₀ p x) s a

/-- A request that is not one of a save only reads. -/
def HorsSauvegarde (l : EtapeNotes) (r : Requete) : Prop := Sauvegarde l ∨ Lecture r

/-- What is known of the suspended programs in every run. -/
structure EnAttente (s : SystemeNotes ι) : Prop where
  held : s.Held (fun p => p.saving) Sauvegarde
  autres : s.Bystanders Sauvegarde Neutre
  lecture : s.Issued HorsSauvegarde

/-- The rule of the call of `i` pressed on `p₀`, in a whole system. -/
abbrev SousRegle (i : ι) (p₀ : NotesPage) (h : Horloge) (s : SystemeNotes ι) : Prop :=
  s.Ok (fun w j p => j = i → Justifie i p₀ w p) (fun w j l r => j = i → Conforme i p₀ h w l r)
    fun _ x p => x.who = i → Relit p₀ p x

/-- On a page that is not saving, no save is suspended. -/
theorem EnAttente.hors (hs : EnAttente s) (hdown : (s.pages i).saving = false)
    {t : Task ι EtapeNotes Requete Req.Ans Err NotesPage} (ht : t ∈ s.tasks) (hi : t.who = i) :
    ¬Sauvegarde t.lab ∧ Lecture t.req := by
  have hout : ¬Sauvegarde t.lab := by
    intro hin
    have hup := (hs.held.task t ht).up hin
    rw [hi, hdown] at hup
    cases hup
  exact ⟨hout, (hs.lecture.task t ht).issued.resolve_left hout⟩

/-- What has been answered before the press is no answer to a save of `i`. -/
theorem EnAttente.answered (hs : EnAttente s) (hdown : (s.pages i).saving = false)
    {x : EchangeNotes ι} (hx : x ∈ s.answered) (hi : x.who = i) :
    ¬Sauvegarde x.lab ∧ Lecture x.req := by
  obtain ⟨t, ht, hx⟩ := List.mem_filterMap.mp hx
  obtain ⟨a, -, rfl⟩ := Option.map_eq_some_iff.mp hx
  exact hs.hors hdown ht hi

/-- A program of another page follows the rule of the call of `i`. -/
theorem suit_ailleurs {p₀ : NotesPage} {j : ι} (hj : j ≠ i) (q : Action EtapeNotes NotesPage Unit)
    (w : List (EchangeNotes ι)) (p : NotesPage) :
    q.Ok (fun w j p => j = i → Justifie i p₀ w p) (fun w j l r => j = i → Conforme i p₀ h w l r)
      (fun _ x p => x.who = i → Relit p₀ p x) j (fun _ w p => j = i → Justifie i p₀ w p) w p :=
  ok_of_free (fun _ _ hi => absurd hi hj) (fun _ _ _ hi => absurd hi hj)
    (fun _ _ _ hi => absurd hi hj) q w p

/-- What the rule says of the exchanges since the press. -/
theorem SousRegle.uniforme {p₀ : NotesPage} {w₀ : List (EchangeNotes ι)}
    (hw₀ : ∀ x ∈ w₀, x.who = i → ¬Sauvegarde x.lab) (hs : SousRegle i p₀ h (s.since w₀ m)) :
    Uniforme i p₀ h m s := by
  have hrecent : ∀ {x : EchangeNotes ι}, x.who = i → Sauvegarde x.lab → x ∈ w₀ ++ s.log.drop m →
      x ∈ s.log.drop m :=
    fun hi hin hx => (List.mem_append.mp hx).resolve_left fun hold => hw₀ _ hold hi hin
  have hsent : ∀ x ∈ s.log.drop m, x.who = i →
      Conforme i p₀ h (w₀ ++ s.log.drop m) x.lab x.req := by
    rintro x hx rfl
    exact hs.sent x (List.mem_append_right _ hx) rfl
  refine ⟨fun x hx hi => (hsent x hx hi).1, fun x hx hi hl fs hfs => ?_, ?_⟩
  · obtain ⟨e, he, matiereNom, note, ⟨n, doc, hn, hmem, hdoc⟩, hfs⟩ := (hsent x hx hi).2 hl fs hfs
    exact ⟨e, he, matiereNom, note, ⟨n, doc, hn, hrecent rfl (by simp [Sauvegarde]) hmem, hdoc⟩, hfs⟩
  · refine (hs.page i rfl).imp_right fun hcause => ?_
    obtain ⟨x, hx, hi, hin, hill⟩ := hcause
    exact ⟨x, hrecent hi hin hx, hi, hin, hill⟩

variable [DecidableEq ι]

theorem issues_on {ev : Evenement} {p : NotesPage} {q : Action EtapeNotes NotesPage Unit}
    (hq : p.on ev = some q) : q.Issues HorsSauvegarde := by
  rcases neutre_on hq with hn | ⟨h, -, rfl⟩
  · exact hn.issues.mono fun _ _ hr => Or.inr hr.2
  · exact (issues_enregistrerNotes envois_envoi h).mono fun _ _ hr => Or.inl hr.1

theorem EnAttente.run {as : List (Act ι Evenement Base)}
    (has : as.foldlM (Sys.step (pagesNotes ι S)) (Sys.init b pages) = some s) : EnAttente s := by
  have hinit : EnAttente (Sys.init b pages : SystemeNotes ι) :=
    ⟨Sys.Held.init b pages, Sys.Bystanders.init b pages, Sys.Issued.init b pages⟩
  refine (always_of_step ?_ hinit as).final has
  intro s a s' hs hst
  refine ⟨hs.held.step (pagesNotes ι S) (fun _ _ _ _ hq => on_saving hq) hst,
    hs.autres.step (pagesNotes ι S) (fun _ _ _ hq => hq.seg) ?_ hs.held hst,
    hs.lecture.step (pagesNotes ι S) (fun _ _ _ _ hq => issues_on hq) hst⟩
  intro j ev p q hq
  rcases neutre_on hq with hn | ⟨h, rfl, rfl⟩
  · exact Or.inl hn
  · exact Or.inr (inside_enregistrerNotes h (on_enregistrer hq).1)

/-- The system at the press, with its log begun again. -/
theorem sousRegle_depart (hs : EnAttente s) (hdown : (s.pages i).saving = false) :
    SousRegle i (s.pages i) h (s.since s.answered s.log.length) := by
  have hlog : (s.since s.answered s.log.length).log = s.answered := by simp [Sys.since]
  refine ⟨?_, fun t ht => ⟨?_, ?_, ?_⟩, ?_⟩
  · rintro j rfl
    exact Or.inl rfl
  · exact fun hi => have hout := hs.hors hdown ht hi; conforme_of_lecture hout.1 hout.2
  · intro a ha
    rw [hlog]
    exact List.mem_filterMap.mpr ⟨t, ht, by rw [ha]; rfl⟩
  · intro a w' p' _ _ hI _
    by_cases hi : t.who = i
    · have hneutre := hs.autres t ht (hs.hors hdown ht hi).1 a
      rw [hi] at hI ⊢
      exact (suit_neutre hneutre (hI rfl)).mono fun _ _ _ hend _ => hend
    · exact suit_ailleurs hi _ _ _
  · intro x hx hi
    rw [hlog] at hx
    have hout := hs.answered hdown hx hi
    exact conforme_of_lecture hout.1 hout.2

/-- A step of the call, and of what happens around it. -/
theorem SousRegle.step {p₀ : NotesPage} (hs : SousRegle i p₀ h s) {a : Act ι Evenement Base}
    (hlu : Relecture i p₀ s a) (hst : s.step (pagesNotes ι S) a = some s') :
    SousRegle i p₀ h s' := by
  refine hs.step_of (pagesNotes ι S) (fun _ _ _ _ hw hI hj => (hI hj).mono hw)
    (fun _ _ _ _ _ hw hG hj => (hG hj).mono hw) ?_ hlu.2 hst
  rintro j ev q rfl hq
  by_cases hj : j = i
  · subst hj
    rcases neutre_on hq with hn | ⟨h', rfl, -⟩
    · exact (suit_neutre hn (hs.page j rfl)).mono fun _ _ _ hend _ => hend
    · exact absurd rfl hlu.1
  · exact suit_ailleurs hj q _ _

/-- **One submission is uniform**, as long as it reads the selection of the press.  In every run of
grades pages, when the button has been pressed on a page and every step of the call that goes on
finds what it reads of the selection as it was then, all the grades and notifications of parents are
of that selection, and the call does not fail for a selection that is missing. -/
theorem uniforme_run (S : Server) (b : Base) (pages : ι → NotesPage)
    {avant apres : List (Act ι Evenement Base)} {s s' : SystemeNotes ι}
    (havant : avant.foldlM (Sys.step (pagesNotes ι S)) (Sys.init b pages) = some s) {i : ι}
    {h : Horloge} (hpress : s.step (pagesNotes ι S) (.event i (.enregistrer h)) = some s')
    (hlu : AllMeet (Sys.step (pagesNotes ι S)) (Relecture i (s.pages i)) s' apres) :
    Always (Sys.step (pagesNotes ι S)) (Uniforme i (s.pages i) h s.log.length) s' apres := by
  have hattente := EnAttente.run havant
  have hdown : (s.pages i).saving = false := by
    cases Sys.step_cases hpress with
    | event hq => exact (on_enregistrer hq).1
  have hw₀ : ∀ x ∈ s.answered, x.who = i → ¬Sauvegarde x.lab :=
    fun x hx hi => (hattente.answered hdown hx hi).1
  -- the press starts the call in the system whose log begins there
  have hdepart := sousRegle_depart (h := h) hattente hdown
  have hstart : SousRegle i (s.pages i) h (s'.since s.answered s.log.length) := by
    have hstep : (s.since s.answered s.log.length).step (pagesNotes ι S)
        (.event i (.enregistrer h)) = some (s'.since s.answered s.log.length) := by
      rw [Sys.step_since (pagesNotes ι S) _ le_rfl, hpress]
      rfl
    refine hdepart.step_of (pagesNotes ι S) (fun _ _ _ _ hw hI hj => (hI hj).mono hw)
      (fun _ _ _ _ _ hw hG hj => (hG hj).mono hw) ?_ (by trivial) hstep
    rintro j ev q ⟨⟩ hq
    obtain ⟨-, rfl⟩ := on_enregistrer hq
    exact (suit_enregistrerNotes (hdepart.page i rfl)).mono fun _ _ _ hend _ => hend
  have hgrow : ∀ (u : SystemeNotes ι) a u', s.log.length ≤ u.log.length →
      u.step (pagesNotes ι S) a = some u' → s.log.length ≤ u'.log.length :=
    fun u a u' hu hst => hu.trans (Sys.log_prefix_of_step _ hst).length_le
  have hcommute : ∀ (u : SystemeNotes ι) a, s.log.length ≤ u.log.length →
      (u.since s.answered s.log.length).step (pagesNotes ι S) a =
        (u.step (pagesNotes ι S) a).map (Sys.since s.answered s.log.length) :=
    fun u a hu => Sys.step_since _ _ hu a
  have hlong : s.log.length ≤ s'.log.length := (Sys.log_prefix_of_step _ hpress).length_le
  have hlu' : AllMeet (Sys.step (pagesNotes ι S)) (Relecture i (s.pages i))
      (s'.since s.answered s.log.length) apres :=
    allMeet_map hgrow hcommute (fun _ _ hc => hc) hlong hlu
  have hall := always_of_allMeet (fun _ _ _ hs ha hst => hs.step ha hst) hstart hlu'
  exact (always_of_map hgrow hcommute hlong hall).mono fun u hu => hu.uniforme hw₀

end Runs

/-! ### One student, with a parent -/

/-- The class of `uneClasse`, with a parent of its student. -/
def classeEtFamille : Base :=
  uneClasse.putDoc .famille "f" (newDoc 0 [texte .eleveId "a", texte .parentId "p"])

def departNotes : SystemeNotes Unit := Sys.init classeEtFamille fun _ => pageNotes

/-- The page is opened, and a grade of the first exam typed for the student. -/
def saisieExamen : List (Act Unit NotesPage.Evenement Base) :=
  [.event () .ouvrir] ++ poursuivre 0 4 ++ [.event () (.classe 0)] ++ poursuivre 0 3 ++
    [.event () (.matiere 0)] ++ poursuivre 0 4 ++
    [.event () (.type .examen), .event () (.sequence 0), .event () (.saisir 0 "12")]

/-- The button is pressed. -/
def envoiExamen : Act Unit NotesPage.Evenement Base := .event () (.enregistrer horlogeZero)

/-- The next sequence is chosen after `n` answers, while the call awaits another. -/
def sequenceApres (n : ℕ) : List (Act Unit NotesPage.Evenement Base) :=
  poursuivre 0 n ++ [.serve 0, .event () (.sequence 1), .resume 0]

/-- A test of `Relecture`. -/
def relectureTest (p₀ : NotesPage) (s : SystemeNotes Unit) : Act Unit NotesPage.Evenement Base → Bool
  | .event _ (.enregistrer _) => false
  | .resume n => s.tasks[n]?.all fun t => decide (t.lab = .notification) ||
    decide ((s.pages ()).elevesDeLaClasse = p₀.elevesDeLaClasse ∧
      (s.pages ()).matiereChoisieId = p₀.matiereChoisieId ∧ (s.pages ()).typeNote = p₀.typeNote ∧
      (s.pages ()).descriptionExercice = p₀.descriptionExercice ∧
      (s.pages ()).sequenceChoisie = p₀.sequenceChoisie)
  | _ => true

theorem relit_of_egal {p₀ p : NotesPage} {x : EchangeNotes Unit}
    (hc : p.elevesDeLaClasse = p₀.elevesDeLaClasse) (hm : p.matiereChoisieId = p₀.matiereChoisieId)
    (hn : NotesPage.MemeNature p p₀) : NotesPage.Relit p₀ p x := by
  unfold NotesPage.Relit
  split
  · exact hc
  · exact fun _ _ => ⟨hm, hn⟩
  · exact fun _ => ⟨hm, hn⟩
  · exact hn
  · exact fun _ => hn
  · exact hn
  · trivial

theorem relecture_of_test {p₀ : NotesPage} (s : SystemeNotes Unit)
    (a : Act Unit NotesPage.Evenement Base) (ht : relectureTest p₀ s a = true) :
    Relecture () p₀ s a := by
  rcases a with ⟨i, ev⟩ | n | n | n | b
  · refine ⟨?_, trivial⟩
    cases ev with
    | enregistrer h => cases ht
    | _ => trivial
  · exact ⟨trivial, trivial⟩
  · exact ⟨trivial, trivial⟩
  · refine ⟨trivial, fun t hn ans hans _ => ?_⟩
    simp only [relectureTest, hn, Option.all_some, Bool.or_eq_true, decide_eq_true_eq] at ht
    rcases ht with hlab | ⟨hc, hm, ht, hd, hs⟩
    · obtain ⟨i, l, r, k, ans'⟩ := t
      subst hlab
      trivial
    · exact relit_of_egal hc hm ⟨ht, fun _ => hd, fun _ => hs⟩
  · exact ⟨trivial, trivial⟩

/-- The grade of the exam and the notification of the parent are of the sequence chosen: another is
chosen when the call has nothing more to read. -/
theorem uniforme_run_examen : ∃ s s',
    saisieExamen.foldlM (Sys.step (pagesNotes Unit (Server.longest 10))) departNotes = some s ∧
    s.step (pagesNotes Unit (Server.longest 10)) envoiExamen = some s' ∧
    Always (Sys.step (pagesNotes Unit (Server.longest 10)))
      (Uniforme () (s.pages ()) horlogeZero s.log.length) s' (sequenceApres 7) := by
  have htest : ((saisieExamen.foldlM (Sys.step (pagesNotes Unit (Server.longest 10)))
      departNotes).any fun s => (s.step (pagesNotes Unit (Server.longest 10)) envoiExamen).any
        fun s' => checkAll (Sys.step (pagesNotes Unit (Server.longest 10)))
          (relectureTest (s.pages ())) s' (sequenceApres 7)) = true := by decide +kernel
  obtain ⟨s, hs, htest⟩ := (Option.any_eq_true _ _).mp htest
  obtain ⟨s', hs', htest⟩ := (Option.any_eq_true _ _).mp htest
  exact ⟨s, s', hs, hs', uniforme_run (Server.longest 10) classeEtFamille (fun _ => pageNotes) hs hs'
    (allMeet_of_checkAll _ relecture_of_test htest)⟩

/-- A grade of the second exam, pressed as one of the first. -/
def autreSequence (s s' : SystemeNotes Unit) : Bool :=
  decide ((s.pages ()).typeNote = some .examen ∧
    (s.pages ()).sequenceChoisie = some "Séquence 1") &&
  (s'.log.drop s.log.length).any fun x => match x.req with
    | .add .notes fs => ((newDoc 0 fs .sequence).any (Value.isStr "Séquence 2"))
    | _ => false

theorem not_uniforme_of_autreSequence {s s' : SystemeNotes Unit} (h : autreSequence s s' = true) :
    ¬Uniforme () (s.pages ()) horlogeZero s.log.length s' := by
  obtain ⟨hpress, hlog⟩ := Bool.and_eq_true_iff.mp h
  obtain ⟨htype, hseq⟩ := of_decide_eq_true hpress
  obtain ⟨x, hx, hreq⟩ := List.any_eq_true.mp hlog
  rintro ⟨hnotes, -, -⟩
  split at hreq
  · rename_i fs hfs
    obtain ⟨e, -, v, t, m, -, -, rfl⟩ := hnotes x hx rfl fs hfs
    have hsequence : newDoc 0 ((s.pages ()).note horlogeZero e v t m) .sequence =
        some (.str "Séquence 1") := by
      unfold NotesPage.note NotesPage.complements
      rw [htype, hseq]
      rfl
    rw [hsequence] at hreq
    exact absurd hreq (by decide)
  · cases hreq

/-- Another sequence is chosen while the call awaits the first student. -/
theorem not_uniforme_sequence : ∃ s s',
    saisieExamen.foldlM (Sys.step (pagesNotes Unit (Server.longest 10))) departNotes = some s ∧
    s.step (pagesNotes Unit (Server.longest 10)) envoiExamen = some s' ∧
    ¬Always (Sys.step (pagesNotes Unit (Server.longest 10)))
      (Uniforme () (s.pages ()) horlogeZero s.log.length) s' (sequenceApres 1 ++ poursuivre 0 2) := by
  have htest : ((saisieExamen.foldlM (Sys.step (pagesNotes Unit (Server.longest 10)))
      departNotes).any fun s => (s.step (pagesNotes Unit (Server.longest 10)) envoiExamen).any
        fun s' => ((sequenceApres 1 ++ poursuivre 0 2).foldlM
          (Sys.step (pagesNotes Unit (Server.longest 10))) s').any (autreSequence s)) = true := by
    decide +kernel
  obtain ⟨s, hs, htest⟩ := (Option.any_eq_true _ _).mp htest
  obtain ⟨s', hs', htest⟩ := (Option.any_eq_true _ _).mp htest
  exact ⟨s, s', hs, hs',
    not_always_of_final (autreSequence s) (fun _ => not_uniforme_of_autreSequence) htest⟩

end EduConnect.Enseignant
