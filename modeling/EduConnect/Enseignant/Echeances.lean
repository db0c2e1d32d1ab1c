import EduConnect.Enseignant.Devoirs
import EduConnect.Lib.Calendar
import EduConnect.Lib.Moments
import EduConnect.Messagerie.Jours

/-!
# Deadlines

`CreationDevoirPage` checks the deadline of a homework against the clock when the calendar is
opened, and uses it at any later time: in the homework it adds, and as the day the calendar opens
on again.
-/

namespace EduConnect.Enseignant

open Lib Prog Calendar

/-- A local time whose days all have a start, in order, and whose changes of offset do not go back
to an earlier year. -/
structure Calendrier extends Messagerie.ZoneLocale where
  jour_minuit : ∀ j, toZoneLocale.jour (minuit j) = j
  minuit_mono : Monotone minuit
  annee_mono : Monotone fun t => yearOf (toZoneLocale.jour t)

/-- The dates of a call of `showDatePicker`. -/
structure AppelCalendrier where
  initialDate : ℤ
  firstDate : ℤ
  lastDate : ℤ

/-- The page as long as it stays open: its clock, the calls of `showDatePicker`, and those of them
that wait for a choice. -/
structure DevoirOuvert where
  page : CreationDevoirPage
  maintenant : ℤ
  appels : List AppelCalendrier := []
  ouverts : List AppelCalendrier := []

namespace DevoirOuvert

/-- What the page does without its clock. -/
def surPage {α : Type} (p : Action EtapeDevoir CreationDevoirPage α) :
    Action EtapeDevoir DevoirOuvert α := p.zoom page fun x s => { s with page := x }

/-- `_pickDate`, up to the choice. -/
def pickDate (z : Calendrier) : Action EtapeDevoir DevoirOuvert Unit :=
  setState fun s =>
    let now := s.maintenant
    let appel : AppelCalendrier := {
      initialDate := s.page.dateRemise.getD now
      firstDate := now
      lastDate := z.minuit (firstOfYear (yearOf (z.jour now) + 2)) }
    { s with appels := s.appels ++ [appel], ouverts := s.ouverts ++ [appel] }

/-- The rest of `_pickDate`: the calendar called `n`-th closes with a day, or without. -/
def fermer (n : ℕ) (picked : Option ℤ) : Action EtapeDevoir DevoirOuvert Unit :=
  setState fun s =>
    let s := { s with ouverts := s.ouverts.eraseIdx n }
    match picked with
    | none => s
    | some d => { s with page := { s.page with dateRemise := some d } }

/-- The `try` of `_submit`: the time is taken when the reads have ended. -/
def envoyer : Action EtapeDevoir DevoirOuvert Unit := do
  let s ← Prog.page
  let fichier ← surPage (CreationDevoirPage.joindre s.page.fichier)
  let s ← Prog.page
  let classeId ← ofExcept (idDeDocument s.page.classeSelectionneeId)
  let elevesIds ← surPage (CreationDevoirPage.chargerElevesIdsDeClasse classeId)
  let parentIds ← surPage (CreationDevoirPage.chargerParentsDesEleves elevesIds)
  let s ← Prog.page
  let enseignantId ← ofExcept (idDeDocument s.page.enseignantDocId)
  match s.page.dateRemise with
  | none => fail .type
  | some dateRemise =>
    let devoir ← ofExcept
      (s.page.devoir enseignantId dateRemise s.maintenant elevesIds parentIds fichier)
    let _ ← DevoirRepository.ajouterDevoir .ajout devoir
    surPage (setState (CreationDevoirPage.annoncer "Devoir envoyé avec succès"))

/-- `_submit`. -/
def submit : Action EtapeDevoir DevoirOuvert Unit := do
  let s ← Prog.page
  if !s.page.valide then return
  if s.page.classeSelectionneeId = none then
    surPage (setState (CreationDevoirPage.annoncer "Veuillez choisir une classe"))
  else if s.page.matiereSelectionneeId = none then
    surPage (setState (CreationDevoirPage.annoncer "Veuillez choisir une matière"))
  else if s.page.dateRemise = none then
    surPage (setState (CreationDevoirPage.annoncer "Veuillez choisir une date de remise"))
  else if s.page.enseignantDocId = none then
    surPage (setState (CreationDevoirPage.annoncer "Identifiant enseignant introuvable"))
  else
    surPage (setState fun p => { p with submitting := true })
    ensuring (catching envoyer fun e =>
      surPage (setState (CreationDevoirPage.annoncer ("Erreur : " ++ texteErreur e))))
      fun s => { s with page := { s.page with submitting := false } }

end DevoirOuvert

/-- What happens to the page. -/
inductive EvDevoir where
  /-- Time passes. -/
  | heure (t : ℤ)
  | pickDate
  /-- A day is chosen on the calendar called `n`-th of those open. -/
  | choisir (n : ℕ) (jour : ℤ)
  | annuler (n : ℕ)
  | submit
  | charger
  | choisirClasse (val : Option String)
  | choisirMatiere (val : Option String)
  | saisir (titre description : String)
  | joindre (fichier : Option FichierJoint)

namespace DevoirOuvert

/-- The program of an event that does not touch the dates. -/
def autreProgramme : EvDevoir → Option (Action EtapeDevoir CreationDevoirPage Unit)
  | .charger => some CreationDevoirPage.chargerEnseignantEtClasses
  | .choisirClasse val => some (CreationDevoirPage.choisirClasse val)
  | .choisirMatiere val => some (setState fun p => { p with matiereSelectionneeId := val })
  | .saisir titre description =>
    some (setState fun p => { p with titre := titre, description := description })
  | .joindre fichier => some (setState fun p => { p with fichier := fichier })
  | _ => none

/-- The program of an event.  The form is shown when the load has ended, its button is off during a
submission, and a calendar offers the days between its first and its last. -/
def programme (z : Calendrier) (ev : EvDevoir) (s : DevoirOuvert) :
    Option (Action EtapeDevoir DevoirOuvert Unit) :=
  match ev with
  | .heure t =>
    if s.maintenant ≤ t then some (setState fun s => { s with maintenant := t }) else none
  | .pickDate => if s.page.loading then none else some (pickDate z)
  | .choisir n j =>
    match s.ouverts[n]? with
    | none => none
    | some appel =>
      if z.jour appel.firstDate ≤ j ∧ j ≤ z.jour appel.lastDate then
        some (fermer n (some (z.minuit j)))
      else none
  | .annuler n => some (fermer n none)
  | .submit => if s.page.loading || s.page.submitting then none else some submit
  | ev => (autreProgramme ev).map surPage

end DevoirOuvert

/-! ## The clock standing still

A submission during which no time passes is that of `CreationDevoirPage` given its time. -/

namespace DevoirOuvert

variable {α γ : Type} {S : Server}

theorem exec_surPage (p : Action EtapeDevoir CreationDevoirPage α) (s : DevoirOuvert) (b : Base) :
    (surPage p).exec S.handler s b = ((p.exec S.handler s.page b).1,
      { s with page := (p.exec S.handler s.page b).2.1 }, (p.exec S.handler s.page b).2.2) := by
  exact exec_zoom DevoirOuvert.page (fun x s => { s with page := x }) (fun _ => rfl)
    (fun _ _ => rfl) (fun _ _ _ => rfl) p s b

/-- At the time `t`, `q` does on the open page what `p` does on the page alone. -/
def Suit (S : Server) (t : ℤ) (q : Action EtapeDevoir DevoirOuvert α)
    (p : Action EtapeDevoir CreationDevoirPage α) : Prop :=
  ∀ s b, s.maintenant = t → q.exec S.handler s b = (surPage p).exec S.handler s b

theorem suit_surPage {t : ℤ} (p : Action EtapeDevoir CreationDevoirPage α) :
    Suit S t (surPage p) p := fun _ _ _ => rfl

theorem Suit.bind {t : ℤ} {q : Action EtapeDevoir DevoirOuvert α}
    {p : Action EtapeDevoir CreationDevoirPage α} {g : α → Action EtapeDevoir DevoirOuvert γ}
    {f : α → Action EtapeDevoir CreationDevoirPage γ} (h : Suit S t q p)
    (hf : ∀ a, Suit S t (g a) (f a)) : Suit S t (q.bind g) (p.bind f) := by
  intro s b ht
  have hp := exec_surPage (S := S) p s b
  rw [exec_bind, h s b ht, hp]
  rw [surPage] at hp
  rw [surPage, zoom_bind, exec_bind, hp]
  rcases p.exec S.handler s.page b with ⟨e | a, x, b'⟩
  · rfl
  · exact hf a _ b' ht

theorem Suit.page_bind {t : ℤ} {g : DevoirOuvert → Action EtapeDevoir DevoirOuvert γ}
    {f : CreationDevoirPage → Action EtapeDevoir CreationDevoirPage γ}
    (hf : ∀ s : DevoirOuvert, s.maintenant = t → Suit S t (g s) (f s.page)) :
    Suit S t (Prog.page.bind g) (Prog.page.bind f) :=
  fun s b ht => hf s ht s b ht

theorem Suit.ofExcept_bind {t : ℤ} (a : Except Err α) {g : α → Action EtapeDevoir DevoirOuvert γ}
    {f : α → Action EtapeDevoir CreationDevoirPage γ} (hf : ∀ a, Suit S t (g a) (f a)) :
    Suit S t ((ofExcept a).bind g) ((ofExcept a).bind f) := by
  cases a with
  | error e => exact fun _ _ _ => rfl
  | ok a => exact hf a

theorem Suit.catching {t : ℤ} {q : Action EtapeDevoir DevoirOuvert α}
    {p : Action EtapeDevoir CreationDevoirPage α} {g : Err → Action EtapeDevoir DevoirOuvert α}
    {f : Err → Action EtapeDevoir CreationDevoirPage α} (h : Suit S t q p)
    (hf : ∀ e, Suit S t (g e) (f e)) : Suit S t (q.catching g) (p.catching f) := by
  intro s b ht
  have hp := exec_surPage (S := S) p s b
  rw [exec_catching, h s b ht, hp]
  rw [surPage] at hp
  rw [surPage, zoom_catching, exec_catching, hp]
  rcases p.exec S.handler s.page b with ⟨e | a, x, b'⟩
  · exact hf e _ b' ht
  · rfl

theorem Suit.ensuring {t : ℤ} {q : Action EtapeDevoir DevoirOuvert α}
    {p : Action EtapeDevoir CreationDevoirPage α} (h : Suit S t q p)
    (f : CreationDevoirPage → CreationDevoirPage) :
    Suit S t (q.ensuring fun s => { s with page := f s.page }) (p.ensuring f) := by
  intro s b ht
  rw [exec_ensuring, h s b ht, surPage, surPage, zoom_ensuring, exec_ensuring]

theorem Suit.ite {t : ℤ} {c : Prop} [Decidable c] {q q' : Action EtapeDevoir DevoirOuvert α}
    {p p' : Action EtapeDevoir CreationDevoirPage α} (h : Suit S t q p) (h' : Suit S t q' p') :
    Suit S t (if c then q else q') (if c then p else p') := by
  by_cases hc : c
  · rwa [if_pos hc, if_pos hc]
  · rwa [if_neg hc, if_neg hc]

/-- While the clock stands still, the homework is sent as by the page of one time. -/
theorem suit_envoyer (t : ℤ) : Suit S t envoyer (CreationDevoirPage.envoyer t) := by
  refine .page_bind fun s _ => .bind (suit_surPage _) fun fichier => .page_bind fun s _ => ?_
  refine .ofExcept_bind _ fun classeId => .bind (suit_surPage _) fun elevesIds => ?_
  refine .bind (suit_surPage _) fun parentIds => .page_bind fun s ht => ?_
  refine .ofExcept_bind _ fun enseignantId => ?_
  rcases s.page.dateRemise with _ | dateRemise
  · exact fun _ _ _ => rfl
  · rw [ht]
    exact .ofExcept_bind _ fun devoir => .bind (fun _ _ _ => rfl) fun _ => suit_surPage _

/-- While the clock stands still, a submission is that of the page of one time. -/
theorem suit_submit (t : ℤ) : Suit S t submit (CreationDevoirPage.submit t) := by
  refine .page_bind fun s _ => .ite (fun _ _ _ => rfl) (.ite (suit_surPage _) ?_)
  refine .ite (suit_surPage _) (.ite (suit_surPage _) (.ite (suit_surPage _) ?_))
  refine .bind (suit_surPage _) fun _ => .ensuring ?_ fun p => { p with submitting := false }
  exact .catching (suit_envoyer t) fun e => suit_surPage _

end DevoirOuvert

/-! ## What the programs leave alone -/

section Dates

variable {d : Option ℤ}

theorem keeps_annoncer (message : String) :
    (setState (CreationDevoirPage.annoncer message) :
      Action EtapeDevoir CreationDevoirPage Unit).Keeps fun p => p.dateRemise = d :=
  (keeps_setState _).mpr fun _ hp => hp

theorem keeps_uploadFichier (fichier : FichierJoint) :
    (CreationDevoirPage.uploadFichierAppwrite fichier).Keeps fun p => p.dateRemise = d := by
  refine .catching (.ite (.bind (keeps_call _ _) fun _ => trivial) trivial) fun e => ?_
  exact .bind (keeps_annoncer _) fun _ => trivial

theorem keeps_joindre (fichier : Option FichierJoint) :
    (CreationDevoirPage.joindre fichier).Keeps fun p => p.dateRemise = d := by
  cases fichier with
  | none => trivial
  | some fichier =>
    refine .bind (keeps_uploadFichier fichier) fun id => ?_
    cases id with
    | none => trivial
    | some id => exact .bind keeps_page fun p => .bind (keeps_ofExcept _) fun _ => trivial

theorem keeps_lireDoc {Λ σ : Type} {J : σ → Prop} (l : Λ) (c : Collection) (id : String) :
    (lireDoc l c id : Action Λ σ _).Keeps J :=
  .ite trivial (keeps_call _ _)

theorem keeps_chargerElevesIdsDeClasse (classeId : String) :
    (CreationDevoirPage.chargerElevesIdsDeClasse classeId).Keeps fun p => p.dateRemise = d := by
  refine .catching (.bind (keeps_lireDoc _ _ _) fun doc => ?_) fun e => trivial
  cases doc with
  | none => trivial
  | some data => exact keeps_ofExcept _

theorem keeps_chargerParentsParLot (lots : List (List String)) :
    (CreationDevoirPage.chargerParentsParLot lots).Keeps fun p => p.dateRemise = d := by
  induction lots with
  | nil => trivial
  | cons batch lots ih =>
    refine .bind (keeps_call _ _) fun familles => .bind (keeps_ofExcept _) fun ids => ?_
    exact .bind ih fun _ => trivial

theorem keeps_chargerParentsDesEleves (elevesIds : List String) :
    (CreationDevoirPage.chargerParentsDesEleves elevesIds).Keeps fun p => p.dateRemise = d := by
  refine .catching (.ite trivial ?_) fun e => trivial
  exact .bind (keeps_chargerParentsParLot _) fun _ => trivial

theorem keeps_chargerEnseignantEtClasses :
    CreationDevoirPage.chargerEnseignantEtClasses.Keeps fun p => p.dateRemise = d := by
  refine .bind ((keeps_setState _).mpr fun _ hp => hp) fun _ => .catching ?_ fun e => ?_
  · refine .bind keeps_page fun p => .bind (keeps_call _ _) fun docs => ?_
    cases docs with
    | nil => exact (keeps_setState _).mpr fun _ hp => hp
    | cons doc docs =>
      refine .bind ((keeps_setState _).mpr fun _ hp => hp) fun _ => ?_
      refine .bind (keeps_call _ _) fun classes => .bind (keeps_call _ _) fun enseignements => ?_
      refine .bind (keeps_ofExcept _) fun matieres => .bind (keeps_ofExcept _) fun temp => ?_
      exact (keeps_setState _).mpr fun _ hp => hp
  · exact (keeps_setState _).mpr fun _ hp => hp

theorem keeps_choisirClasse (val : Option String) :
    (CreationDevoirPage.choisirClasse val).Keeps fun p => p.dateRemise = d := by
  refine .bind ((keeps_setState _).mpr fun _ hp => hp) fun _ => ?_
  cases val with
  | none => trivial
  | some classeId =>
    refine .bind ((keeps_setState _).mpr fun _ hp => hp) fun _ => .catching ?_ fun e => ?_
    · refine .bind keeps_page fun p => .ite ((keeps_setState _).mpr fun _ hp => hp) ?_
      exact .bind (keeps_call _ _) fun docs => (keeps_setState _).mpr fun _ hp => hp
    · exact (keeps_setState _).mpr fun _ hp => hp

end Dates

namespace DevoirOuvert

/-- The dates of a page. -/
def dates (s : DevoirOuvert) : Option ℤ × ℤ × List AppelCalendrier × List AppelCalendrier :=
  (s.page.dateRemise, s.maintenant, s.appels, s.ouverts)

/-- The addition is of a homework due on the date the page holds, given at its time; nothing else is
added to `devoirs`. -/
def Datee (s : DevoirOuvert) (l : EtapeDevoir) (r : Requete) : Prop :=
  if l = .ajout then ∃ devoir : DevoirModele, r = .add .devoirs devoir.toMap ∧
    s.page.dateRemise = some devoir.dateRemise ∧ devoir.dateCreation = s.maintenant
  else ∀ fs, r ≠ .add .devoirs fs

/-- A program that leaves the dates alone and adds homework of the page's dates. -/
structure Ponctuel (p : Action EtapeDevoir DevoirOuvert Unit) : Prop where
  issues : ∀ s, p.IssuesAt Datee s
  keeps : ∀ v, p.Keeps fun s => s.dates = v

theorem datee_of_prepare (s : DevoirOuvert) (l : EtapeDevoir) (r : Requete)
    (h : CreationDevoirPage.Prepare l r) : Datee s l r := by
  obtain ⟨hl, hr⟩ := h
  rw [Datee, if_neg hl]
  rintro fs rfl
  rcases hr with hr | ⟨nom, hr⟩
  · exact hr
  · cases hr

theorem keeps_surPage {α : Type} {p : Action EtapeDevoir CreationDevoirPage α}
    (hp : ∀ d, p.Keeps fun x => x.dateRemise = d)
    (v : Option ℤ × ℤ × List AppelCalendrier × List AppelCalendrier) :
    (surPage p).Keeps fun s => s.dates = v := by
  refine (hp v.1).zoom (fun s hs => ?_) fun s x hs hx => ?_
  · rw [← hs]
    rfl
  · rw [← hs]
    show (x.dateRemise, _) = _
    rw [hx, ← hs]
    rfl

theorem issuesAt_surPage {α : Type} {p : Action EtapeDevoir CreationDevoirPage α}
    (hp : p.Issues CreationDevoirPage.Prepare) (s : DevoirOuvert) : (surPage p).IssuesAt Datee s :=
  Issues.issuesAt hp.zoom datee_of_prepare

theorem dates_devoir {p : CreationDevoirPage} {enseignantId : String} {dateRemise maintenant : ℤ}
    {elevesIds parentIds : List String} {fichier : Option String × Option String}
    {d : DevoirModele}
    (h : p.devoir enseignantId dateRemise maintenant elevesIds parentIds fichier = .ok d) :
    d.dateRemise = dateRemise ∧ d.dateCreation = maintenant := by
  obtain ⟨classeId, -, h⟩ := bind_eq_ok_iff.mp h
  obtain ⟨matiereId, -, h⟩ := bind_eq_ok_iff.mp h
  obtain rfl := Except.ok.inj h
  exact ⟨rfl, rfl⟩

theorem ponctuel_envoyer : Ponctuel envoyer := by
  refine ⟨fun s => ?_, fun v => ?_⟩
  · refine issuesAt_page_bind.mpr (.bind ?_ fun fichier s => issuesAt_page_bind.mpr ?_)
    · exact issuesAt_surPage (CreationDevoirPage.issues_joindre _) _
    refine .ofExcept_bind fun classeId _ => .bind ?_ fun elevesIds s => .bind ?_ ?_
    · exact issuesAt_surPage (CreationDevoirPage.issues_chargerElevesIdsDeClasse _) _
    · exact issuesAt_surPage (CreationDevoirPage.issues_chargerParentsDesEleves _) _
    refine fun parentIds s => issuesAt_page_bind.mpr (.ofExcept_bind fun enseignantId _ => ?_)
    rcases hd : s.page.dateRemise with _ | dateRemise
    · trivial
    · refine .ofExcept_bind fun devoir hdevoir => ?_
      obtain ⟨hremise, hcreation⟩ := dates_devoir hdevoir
      have hdatee : Datee s .ajout (.add .devoirs devoir.toMap) := by
        rw [Datee, if_pos rfl]
        exact ⟨devoir, rfl, by rw [hd, hremise], hcreation⟩
      exact .bind (issuesAt_call.mpr hdatee) fun _ _ => trivial
  · refine .bind keeps_page fun s => .bind (keeps_surPage (fun _ => keeps_joindre _) v) fun f => ?_
    refine .bind keeps_page fun s => .bind (keeps_ofExcept _) fun classeId => ?_
    refine .bind (keeps_surPage (fun _ => keeps_chargerElevesIdsDeClasse _) v) fun elevesIds => ?_
    refine .bind (keeps_surPage (fun _ => keeps_chargerParentsDesEleves _) v) fun parentIds => ?_
    refine .bind keeps_page fun s => .bind (keeps_ofExcept _) fun enseignantId => ?_
    cases s.page.dateRemise with
    | none => trivial
    | some dateRemise =>
      refine .bind (keeps_ofExcept _) fun devoir => .bind (keeps_call _ _) fun _ => ?_
      exact keeps_surPage (fun _ => keeps_annoncer _) v

theorem keeps_annonce (message : String)
    (v : Option ℤ × ℤ × List AppelCalendrier × List AppelCalendrier) :
    (surPage (setState (CreationDevoirPage.annoncer message))).Keeps fun s => s.dates = v :=
  keeps_surPage (fun _ => keeps_annoncer message) v

theorem ponctuel_submit : Ponctuel submit := by
  refine ⟨fun s => ?_, fun v => ?_⟩
  · refine issuesAt_page_bind.mpr (.ite trivial (.ite trivial (.ite trivial ?_)))
    refine .ite trivial (.ite trivial (.bind trivial fun _ s => .ensuring ?_ _))
    exact .catching (ponctuel_envoyer.issues s) fun _ _ => trivial
  · refine .bind keeps_page fun s => .ite trivial (.ite (keeps_annonce _ v) ?_)
    refine .ite (keeps_annonce _ v) (.ite (keeps_annonce _ v) (.ite (keeps_annonce _ v) ?_))
    refine .bind (keeps_surPage (fun _ => (keeps_setState _).mpr fun _ hp => hp) v) fun _ => ?_
    refine .ensuring (.catching (ponctuel_envoyer.keeps v) fun e => keeps_annonce _ v) ?_
    exact fun s hs => hs

theorem issues_chargerEnseignantEtClasses :
    CreationDevoirPage.chargerEnseignantEtClasses.Issues CreationDevoirPage.Prepare := by
  refine .bind trivial fun _ => .catching (.bind (fun _ => trivial) fun p => ?_) fun e => trivial
  refine .bind ((issues_chercherPremier _ _ _).mpr ⟨nofun, Or.inl trivial⟩) fun docs => ?_
  cases docs with
  | nil => trivial
  | cons doc docs =>
    refine .bind trivial fun _ => .bind ?_ fun classes => .bind ?_ fun enseignements => ?_
    · exact (issues_chercher _ _ _).mpr ⟨nofun, Or.inl trivial⟩
    · exact (issues_chercher _ _ _).mpr ⟨nofun, Or.inl trivial⟩
    · exact .bind (issues_ofExcept _) fun _ => .bind (issues_ofExcept _) fun _ => trivial

theorem issues_choisirClasse (val : Option String) :
    (CreationDevoirPage.choisirClasse val).Issues CreationDevoirPage.Prepare := by
  refine .bind trivial fun _ => ?_
  cases val with
  | none => trivial
  | some classeId =>
    refine .bind trivial fun _ => .catching (.bind (fun _ => trivial) fun p => ?_) fun e => trivial
    refine .ite trivial (.bind ?_ fun docs => trivial)
    exact (issues_chercher _ _ _).mpr ⟨nofun, Or.inl trivial⟩

theorem ponctuel_autre {ev : EvDevoir} {p : Action EtapeDevoir CreationDevoirPage Unit}
    (h : autreProgramme ev = some p) : Ponctuel (surPage p) := by
  have hp : p.Issues CreationDevoirPage.Prepare ∧ ∀ d, p.Keeps fun x => x.dateRemise = d := by
    cases ev with
    | charger =>
      obtain rfl := Option.some.inj h
      exact ⟨issues_chargerEnseignantEtClasses, fun _ => keeps_chargerEnseignantEtClasses⟩
    | choisirClasse val =>
      obtain rfl := Option.some.inj h
      exact ⟨issues_choisirClasse val, fun _ => keeps_choisirClasse val⟩
    | choisirMatiere val | saisir titre description | joindre fichier =>
      obtain rfl := Option.some.inj h
      exact ⟨trivial, fun _ => (keeps_setState _).mpr fun _ hp => hp⟩
    | _ => cases h
  exact ⟨fun s => issuesAt_surPage hp.1 s, fun v => keeps_surPage hp.2 v⟩

/-- What follows a program of this kind is of this kind. -/
theorem Ponctuel.seg {ι : Type} {i : ι} {p : Action EtapeDevoir DevoirOuvert Unit} (h : Ponctuel p)
    (s : DevoirOuvert) : ∀ t ∈ (p.seg i s).2, ∀ a, Ponctuel (t.k a) := by
  intro t ht a
  exact ⟨fun s' => ((h.issues s).seg t ht).2 a s', fun v => ((h.keeps v).seg s).2 t ht a⟩

theorem Ponctuel.dates_seg {ι : Type} {i : ι} {p : Action EtapeDevoir DevoirOuvert Unit}
    (h : Ponctuel p) (s : DevoirOuvert) : (p.seg i s).1.dates = s.dates :=
  ((h.keeps s.dates).seg s).1 rfl

/-! ## The dates of a page -/

section Bornes

variable {z : Calendrier} {s s' : DevoirOuvert}

/-- The last day a calendar offers at the time of the page. -/
def dernierJour (z : Calendrier) (s : DevoirOuvert) : ℤ :=
  firstOfYear (yearOf (z.jour s.maintenant) + 2)

/-- The date the page holds, and those it may still be given, are starts of days a calendar opened
now would not refuse as too late. -/
structure Bornee (s : DevoirOuvert) (z : Calendrier) : Prop where
  remise : ∀ d, s.page.dateRemise = some d → ∃ j, d = z.minuit j ∧ j ≤ dernierJour z s
  ouverts : ∀ c ∈ s.ouverts, z.jour c.lastDate ≤ dernierJour z s

/-- The date the page holds has not passed. -/
def DateAVenir (s : DevoirOuvert) (z : Calendrier) : Prop :=
  ∀ d, s.page.dateRemise = some d → z.jour s.maintenant ≤ z.jour d

theorem eq_of_dates (h : s'.dates = s.dates) : s'.page.dateRemise = s.page.dateRemise ∧
    s'.maintenant = s.maintenant ∧ s'.appels = s.appels ∧ s'.ouverts = s.ouverts := by
  obtain ⟨hremise, h⟩ := Prod.mk.inj h
  obtain ⟨hmaintenant, h⟩ := Prod.mk.inj h
  exact ⟨hremise, hmaintenant, Prod.mk.inj h⟩

theorem Bornee.congr (h : s'.dates = s.dates) (hs : Bornee s z) : Bornee s' z := by
  obtain ⟨hremise, hmaintenant, -, houverts⟩ := eq_of_dates h
  have hdernier : dernierJour z s' = dernierJour z s := by
    rw [dernierJour, hmaintenant, dernierJour]
  refine ⟨fun d hd => ?_, fun c hc => ?_⟩
  · rw [hdernier]
    exact hs.remise d (hremise ▸ hd)
  · rw [hdernier]
    exact hs.ouverts c (houverts ▸ hc)

theorem le_dernierJour : z.jour s.maintenant ≤ dernierJour z s := by
  have hlt := (yearOf_bounds (z.jour s.maintenant)).2
  have hle := firstOfYear_lt_succ (yearOf (z.jour s.maintenant) + 1)
  have hsum : yearOf (z.jour s.maintenant) + 1 + 1 = yearOf (z.jour s.maintenant) + 2 := by omega
  unfold dernierJour
  rw [hsum] at hle
  omega

theorem Bornee.heure (h : Bornee s z) {t : ℤ} (ht : s.maintenant ≤ t) :
    Bornee { s with maintenant := t } z := by
  have hyear : yearOf (z.jour s.maintenant) ≤ yearOf (z.jour t) := z.annee_mono ht
  have hdernier : dernierJour z s ≤ dernierJour z { s with maintenant := t } :=
    strictMono_firstOfYear.monotone (by show _ + 2 ≤ yearOf (z.jour t) + 2; omega)
  refine ⟨fun d hd => ?_, fun c hc => le_trans (h.ouverts c hc) hdernier⟩
  obtain ⟨j, hj, hle⟩ := h.remise d hd
  exact ⟨j, hj, le_trans hle hdernier⟩

/-- The homework of the page is due in time exactly if its date has not passed. -/
theorem minuit_le_iff (h : Bornee s z) {d : ℤ} (hd : s.page.dateRemise = some d) :
    z.minuit (z.jour s.maintenant) ≤ d ↔ DateAVenir s z := by
  obtain ⟨j, rfl, -⟩ := h.remise d hd
  have hvenir : DateAVenir s z ↔ z.jour s.maintenant ≤ j := by
    constructor
    · intro h
      have hj := h _ hd
      rwa [z.jour_minuit] at hj
    · intro h d' hd'
      obtain rfl := Option.some.inj (hd.symm.trans hd')
      rwa [z.jour_minuit]
  rw [hvenir]
  constructor
  · intro hle
    by_contra hlt
    have heq := le_antisymm hle (z.minuit_mono (le_of_not_ge hlt))
    have hjour := congrArg z.jour heq
    rw [z.jour_minuit, z.jour_minuit] at hjour
    omega
  · exact fun hle => z.minuit_mono hle

end Bornes

end DevoirOuvert

/-! ## Runs -/

section Runs

variable {ι : Type} (z : Calendrier) (S : Server)

abbrev SystemeDevoir (ι : Type) := Sys ι EtapeDevoir Requete Req.Ans Err DevoirOuvert Base

/-- The pages of any number of teachers on the server `S`. -/
def pagesDevoir (ι : Type) :
    Spec ι EtapeDevoir Requete Req.Ans Err DevoirOuvert Base EvDevoir where
  handler := S.handler
  lost := .unavailable
  on _ ev s := s.programme z ev

/-- The pages before any event. -/
def departDevoir (b : Base) (enseignants etablissements : ι → String) (heures : ι → ℤ) :
    SystemeDevoir ι :=
  Sys.init b fun i => {
    page := {
      enseignantUtilisateurId := enseignants i
      etablissementId := etablissements i }
    maintenant := heures i }

/-- Homework due no earlier than the start of the day it is given. -/
def DevoirJuste (fs : Champs) : Prop :=
  ∃ devoir : DevoirModele, fs = devoir.toMap ∧
    z.minuit (z.jour devoir.dateCreation) ≤ devoir.dateRemise

/-- A calendar that opens on one of its days. -/
structure AppelJuste (appel : AppelCalendrier) : Prop where
  premier : z.jour appel.firstDate ≤ z.jour appel.initialDate
  dernier : z.jour appel.initialDate ≤ z.jour appel.lastDate

/-- No homework is due before it is given, and every calendar is called with dates in order. -/
structure EcheancesJustes (s : SystemeDevoir ι) : Prop where
  devoirs : ∀ fs, s.Sent (.add .devoirs fs) → DevoirJuste z fs
  calendriers : ∀ i, ∀ appel ∈ (s.pages i).appels, AppelJuste z appel

/-- Where a step opens the calendar or goes on to the addition, the date chosen has not passed. -/
def DateUtilisable (s : SystemeDevoir ι) (a : Act ι EvDevoir Base) : Prop :=
  (∀ i, a = .event i .pickDate → (s.pages i).DateAVenir z) ∧
    ∀ i p, s.runs (pagesDevoir z S ι) a = some (i, p) → p.Reaches .ajout (s.pages i) →
      (s.pages i).DateAVenir z

/-- The invariant: what is suspended adds homework of the page's dates, which are bounded. -/
structure Datable (s : SystemeDevoir ι) : Prop where
  suspendus : s.Kind DevoirOuvert.Ponctuel
  bornees : ∀ i, (s.pages i).Bornee z

variable {z S} {s s' : SystemeDevoir ι} {a : Act ι EvDevoir Base}

/-- The event of a page moves its dates, and sends nothing, or is of the kind above. -/
theorem programme_cases {ev : EvDevoir} {x : DevoirOuvert}
    {p : Action EtapeDevoir DevoirOuvert Unit} (h : x.programme z ev = some p) :
    (∃ t, ev = .heure t ∧ x.maintenant ≤ t ∧
        p = setState fun s => { s with maintenant := t }) ∨
      (ev = .pickDate ∧ p = DevoirOuvert.pickDate z) ∨
      (∃ n appel j, ev = .choisir n j ∧ x.ouverts[n]? = some appel ∧ j ≤ z.jour appel.lastDate ∧
        p = DevoirOuvert.fermer n (some (z.minuit j))) ∨
      (∃ n, ev = .annuler n ∧ p = DevoirOuvert.fermer n none) ∨
      (ev ≠ .pickDate ∧ DevoirOuvert.Ponctuel p) := by
  have hautre : ev ≠ .pickDate →
      (DevoirOuvert.autreProgramme ev).map DevoirOuvert.surPage = some p →
      ev ≠ .pickDate ∧ DevoirOuvert.Ponctuel p := by
    rintro hev hp
    obtain ⟨q, hq, rfl⟩ := Option.map_eq_some_iff.mp hp
    exact ⟨hev, DevoirOuvert.ponctuel_autre hq⟩
  cases ev with
  | heure t =>
    obtain ⟨ht, h⟩ := Option.ite_none_right_eq_some.mp h
    exact Or.inl ⟨t, rfl, ht, (Option.some.inj h).symm⟩
  | pickDate =>
    obtain ⟨-, h⟩ := Option.ite_none_left_eq_some.mp h
    exact Or.inr (Or.inl ⟨rfl, (Option.some.inj h).symm⟩)
  | choisir n j =>
    rcases hn : x.ouverts[n]? with _ | appel
    · simp only [DevoirOuvert.programme, hn] at h
      cases h
    · simp only [DevoirOuvert.programme, hn] at h
      obtain ⟨⟨-, hj⟩, h⟩ := Option.ite_none_right_eq_some.mp h
      exact Or.inr (Or.inr (Or.inl ⟨n, appel, j, rfl, hn, hj, (Option.some.inj h).symm⟩))
  | annuler n => exact Or.inr (Or.inr (Or.inr (Or.inl ⟨n, rfl, (Option.some.inj h).symm⟩)))
  | submit =>
    obtain ⟨-, h⟩ := Option.ite_none_left_eq_some.mp h
    obtain rfl := Option.some.inj h
    exact Or.inr (Or.inr (Or.inr (Or.inr ⟨nofun, DevoirOuvert.ponctuel_submit⟩)))
  | _ => exact Or.inr (Or.inr (Or.inr (Or.inr (hautre nofun h))))

theorem bornee_of_programme {i : ι} {ev : EvDevoir} {x : DevoirOuvert}
    {p : Action EtapeDevoir DevoirOuvert Unit} (h : x.programme z ev = some p)
    (hx : x.Bornee z) : (p.seg i x).1.Bornee z := by
  rcases programme_cases h with ⟨t, rfl, ht, rfl⟩ | ⟨rfl, rfl⟩ | ⟨n, appel, j, rfl, hn, hj, rfl⟩ |
    ⟨n, rfl, rfl⟩ | ⟨-, hp⟩
  · exact hx.heure ht
  · refine ⟨hx.remise, fun c hc => ?_⟩
    rcases List.mem_append.mp hc with hc | hc
    · exact hx.ouverts c hc
    · obtain rfl := List.mem_singleton.mp hc
      show z.jour (z.minuit _) ≤ _
      rw [z.jour_minuit]
      rfl
  · refine ⟨fun d hd => ?_, fun c hc => hx.ouverts c (List.mem_of_mem_eraseIdx hc)⟩
    obtain rfl := Option.some.inj hd
    exact ⟨j, rfl, le_trans hj (hx.ouverts appel (List.mem_of_getElem? hn))⟩
  · exact ⟨hx.remise, fun c hc => hx.ouverts c (List.mem_of_mem_eraseIdx hc)⟩
  · exact hx.congr (hp.dates_seg x)

/-- The step rule of the invariant. -/
theorem Datable.step [DecidableEq ι] (h : Datable z s)
    (hstep : s.step (pagesDevoir z S ι) a = some s') : Datable z s' := by
  refine ⟨h.suspendus.step (S := pagesDevoir z S ι) (fun i p x hp => hp.seg x) ?_ hstep,
    fun i => ?_⟩
  · intro i ev x p hp t ht b
    rcases programme_cases hp with ⟨_, -, -, rfl⟩ | ⟨-, rfl⟩ | ⟨_, _, _, -, -, -, rfl⟩ |
      ⟨_, -, rfl⟩ |
      ⟨-, hp⟩
    · cases ht
    · cases ht
    · cases ht
    · cases ht
    · exact hp.seg x t ht b
  · cases h.suspendus.moves hstep with
    | stays _ hpages _ =>
      rw [hpages]
      exact h.bornees i
    | runs j p _ hp hpages _ =>
      rw [hpages]
      by_cases hij : i = j
      · subst hij
        rw [Function.update_self]
        rcases hp with ⟨ev, -, hon⟩ | ⟨-, hp⟩
        · exact bornee_of_programme hon (h.bornees i)
        · exact (h.bornees i).congr (hp.dates_seg _)
      · rw [Function.update_of_ne hij]
        exact h.bornees i

/-- The map of a homework holds its dates. -/
theorem dates_of_toMap {d d' : DevoirModele} (h : d.toMap = d'.toMap) :
    d.dateRemise = d'.dateRemise ∧ d.dateCreation = d'.dateCreation := by
  simp only [DevoirModele.toMap, List.cons.injEq, Prod.mk.injEq, FieldOp.put.injEq,
    Value.stamp.injEq, true_and] at h
  exact ⟨h.2.2.2.2.2.2.2.2.2.1, h.2.2.2.2.2.2.2.2.2.2.2.2.1⟩

/-- A homework of the page's dates is due in time exactly if the date has not passed. -/
theorem juste_iff {i : ι} {x : DevoirOuvert} {p : Action EtapeDevoir DevoirOuvert Unit}
    (hp : DevoirOuvert.Ponctuel p) (hx : x.Bornee z) :
    (∀ fs, (∃ t ∈ (p.seg i x).2, t.req = .add .devoirs fs) → DevoirJuste z fs) ↔
      (p.Reaches .ajout x → x.DateAVenir z) := by
  have hseg := (hp.issues x).seg (i := i)
  have hx' : ((p.seg i x).1).Bornee z := hx.congr (hp.dates_seg x)
  have hvenir : ((p.seg i x).1).DateAVenir z ↔ x.DateAVenir z := by
    obtain ⟨hremise, hmaintenant, -⟩ := DevoirOuvert.eq_of_dates (hp.dates_seg (i := i) x)
    unfold DevoirOuvert.DateAVenir
    rw [hremise, hmaintenant]
  rw [reaches_iff i]
  constructor
  · rintro h ⟨t, ht, hlab⟩
    obtain ⟨hdatee, -⟩ := hseg t ht
    rw [DevoirOuvert.Datee, if_pos hlab] at hdatee
    obtain ⟨devoir, hreq, hremise, hcreation⟩ := hdatee
    obtain ⟨devoir', hmap, hjuste⟩ := h _ ⟨t, ht, hreq⟩
    obtain ⟨hremise', hcreation'⟩ := dates_of_toMap hmap
    rw [← hremise', ← hcreation', hcreation] at hjuste
    exact hvenir.mp ((DevoirOuvert.minuit_le_iff hx' hremise).mp hjuste)
  · rintro h fs ⟨t, ht, hreq⟩
    obtain ⟨hdatee, -⟩ := hseg t ht
    by_cases hlab : t.lab = .ajout
    · rw [DevoirOuvert.Datee, if_pos hlab] at hdatee
      obtain ⟨devoir, hreq', hremise, hcreation⟩ := hdatee
      obtain rfl : devoir.toMap = fs := by
        rw [hreq'] at hreq
        cases hreq
        rfl
      refine ⟨devoir, rfl, ?_⟩
      rw [hcreation]
      exact (DevoirOuvert.minuit_le_iff hx' hremise).mpr (hvenir.mpr (h ⟨t, ht, hlab⟩))
    · rw [DevoirOuvert.Datee, if_neg hlab] at hdatee
      exact absurd hreq (hdatee fs)

/-- Calling the calendar adds one call, which is right exactly if the date has not passed. -/
theorem appelJuste_iff {i : ι} {x : DevoirOuvert} (hx : x.Bornee z)
    (hjustes : ∀ appel ∈ x.appels, AppelJuste z appel) :
    (∀ appel ∈ ((DevoirOuvert.pickDate z).seg i x).1.appels, AppelJuste z appel) ↔
      x.DateAVenir z := by
  have hlast : z.jour (z.minuit (firstOfYear (yearOf (z.jour x.maintenant) + 2))) =
      DevoirOuvert.dernierJour z x := z.jour_minuit _
  constructor
  · intro h d hd
    have hnouveau := (h _ (List.mem_append_right _ List.mem_cons_self)).premier
    rwa [show x.page.dateRemise.getD x.maintenant = d by rw [hd]; rfl] at hnouveau
  · intro h appel happel
    rcases List.mem_append.mp happel with happel | happel
    · exact hjustes appel happel
    · obtain rfl := List.mem_singleton.mp happel
      rcases hd : x.page.dateRemise with _ | d
      · exact ⟨le_refl _, le_of_le_of_eq DevoirOuvert.le_dernierJour hlast.symm⟩
      · obtain ⟨j, rfl, hj⟩ := hx.remise d hd
        refine ⟨h _ hd, ?_⟩
        show z.jour (z.minuit j) ≤ z.jour (z.minuit _)
        rw [hlast, z.jour_minuit]
        exact hj

/-- What a program run on the page `x` sends and calls next is right. -/
def JusteApres (z : Calendrier) (i : ι) (p : Action EtapeDevoir DevoirOuvert Unit)
    (x : DevoirOuvert) : Prop :=
  (∀ fs, (∃ t ∈ (p.seg i x).2, t.req = .add .devoirs fs) → DevoirJuste z fs) ∧
    ∀ appel ∈ (p.seg i x).1.appels, AppelJuste z appel

theorem justeApres_ponctuel {i : ι} {x : DevoirOuvert} {p : Action EtapeDevoir DevoirOuvert Unit}
    (hp : DevoirOuvert.Ponctuel p) (hx : x.Bornee z)
    (hjustes : ∀ appel ∈ x.appels, AppelJuste z appel) :
    JusteApres z i p x ↔ (p.Reaches .ajout x → x.DateAVenir z) := by
  obtain ⟨-, -, happels, -⟩ := DevoirOuvert.eq_of_dates (hp.dates_seg (i := i) x)
  rw [JusteApres, juste_iff hp hx, happels]
  exact and_iff_left hjustes

theorem justeApres_programme {i : ι} {ev : EvDevoir} {x : DevoirOuvert}
    {p : Action EtapeDevoir DevoirOuvert Unit} (h : x.programme z ev = some p) (hx : x.Bornee z)
    (hjustes : ∀ appel ∈ x.appels, AppelJuste z appel) :
    JusteApres z i p x ↔
      (ev = .pickDate → x.DateAVenir z) ∧ (p.Reaches .ajout x → x.DateAVenir z) := by
  have hvide : ∀ fs, ¬∃ t ∈ (none : Option (Task ι EtapeDevoir Requete Req.Ans Err DevoirOuvert)),
      t.req = .add .devoirs fs := by
    rintro fs ⟨t, ht, -⟩
    cases ht
  rcases programme_cases h with ⟨t, rfl, -, rfl⟩ | ⟨rfl, rfl⟩ | ⟨n, _, j, rfl, -, -, rfl⟩ |
    ⟨n, rfl, rfl⟩ | ⟨hev, hp⟩
  · exact iff_of_true ⟨fun fs h => absurd h (hvide fs), hjustes⟩ ⟨nofun, nofun⟩
  · have hcalendrier : JusteApres z i (DevoirOuvert.pickDate z) x ↔ x.DateAVenir z :=
      (and_iff_right fun fs h => absurd h (hvide fs)).trans (appelJuste_iff hx hjustes)
    rw [hcalendrier]
    exact ⟨fun h => ⟨fun _ => h, nofun⟩, fun h => h.1 rfl⟩
  · exact iff_of_true ⟨fun fs h => absurd h (hvide fs), hjustes⟩ ⟨nofun, nofun⟩
  · exact iff_of_true ⟨fun fs h => absurd h (hvide fs), hjustes⟩ ⟨nofun, nofun⟩
  · rw [justeApres_ponctuel hp hx hjustes]
    exact (and_iff_right fun h => absurd h hev).symm

/-- The condition on a step that runs a program on a page. -/
theorem dateUtilisable_iff_of_runs {i : ι} {p : Action EtapeDevoir DevoirOuvert Unit}
    (hruns : s.runs (pagesDevoir z S ι) a = some (i, p)) :
    DateUtilisable z S s a ↔ (a = .event i .pickDate → (s.pages i).DateAVenir z) ∧
      (p.Reaches .ajout (s.pages i) → (s.pages i).DateAVenir z) := by
  refine ⟨fun h => ⟨h.1 i, h.2 i p hruns⟩, fun h => ⟨?_, fun j q hq => ?_⟩⟩
  · rintro j rfl
    obtain ⟨q, -, hq⟩ := Option.map_eq_some_iff.mp hruns
    obtain rfl : j = i := congrArg Prod.fst hq
    exact h.1 rfl
  · obtain ⟨rfl, rfl⟩ := Prod.mk.inj (Option.some.inj (hruns.symm.trans hq))
    exact h.2

variable [DecidableEq ι]

/-- The page of one teacher changes, and only what it sends is new. -/
theorem justes_iff_of_runs {i : ι} {p : Action EtapeDevoir DevoirOuvert Unit}
    (hP : EcheancesJustes z s)
    (hpages : s'.pages = Function.update s.pages i (p.seg i (s.pages i)).1)
    (hsent : ∀ r, s'.Sent r ↔ s.Sent r ∨ ∃ t ∈ (p.seg i (s.pages i)).2, t.req = r) :
    EcheancesJustes z s' ↔ JusteApres z i p (s.pages i) := by
  constructor
  · rintro ⟨hdevoirs, hcalendriers⟩
    refine ⟨fun fs hfs => hdevoirs fs ((hsent _).mpr (Or.inr hfs)), ?_⟩
    have hi := hcalendriers i
    rwa [hpages, Function.update_self] at hi
  · rintro ⟨hdevoirs, hcalendriers⟩
    refine ⟨fun fs hfs => ?_, fun j => ?_⟩
    · exact ((hsent _).mp hfs).elim (hP.devoirs fs) (hdevoirs fs)
    · rw [hpages]
      by_cases hij : j = i
      · subst hij
        rwa [Function.update_self]
      · rw [Function.update_of_ne hij]
        exact hP.calendriers j

/-- **Step rule**: a step keeps the deadlines right exactly if the date it uses has not passed. -/
theorem echeancesJustes_step (h : Datable z s) (hP : EcheancesJustes z s)
    (hstep : s.step (pagesDevoir z S ι) a = some s') :
    EcheancesJustes z s' ↔ DateUtilisable z S s a := by
  cases h.suspendus.moves hstep with
  | stays hruns hpages hsent =>
    have hP' : EcheancesJustes z s' :=
      ⟨fun fs hfs => hP.devoirs fs ((hsent _).mp hfs), fun i => hpages ▸ hP.calendriers i⟩
    refine iff_of_true hP' ⟨?_, fun i p hp => ?_⟩
    · rintro i rfl
      obtain ⟨p, hp⟩ := Sys.runs_of_step_event hstep
      rw [hruns] at hp
      cases hp
    · rw [hruns] at hp
      cases hp
  | runs i p hruns hp hpages hsent =>
    rw [justes_iff_of_runs hP hpages hsent, dateUtilisable_iff_of_runs hruns]
    rcases hp with ⟨ev, rfl, hon⟩ | ⟨⟨n, rfl⟩, hp⟩
    · rw [justeApres_programme hon (h.bornees i) (hP.calendriers i), Act.event.injEq]
      simp only [true_and]
    · rw [justeApres_ponctuel hp (h.bornees i) (hP.calendriers i)]
      exact (and_iff_right nofun).symm

/-- **When no homework is due before it is given**, and every calendar opens on one of its days:
exactly in the runs where the page uses no date that has passed. -/
theorem echeancesJustes_iff (z : Calendrier) (S : Server) (b : Base)
    (enseignants etablissements : ι → String) (heures : ι → ℤ) (as : List (Act ι EvDevoir Base)) :
    Always (Sys.step (pagesDevoir z S ι)) (EcheancesJustes z)
        (departDevoir b enseignants etablissements heures) as ↔
      AllMeet (Sys.step (pagesDevoir z S ι)) (DateUtilisable z S)
        (departDevoir b enseignants etablissements heures) as := by
  refine always_iff_allMeet (I := Datable z) (fun s a s' h hstep => h.step hstep)
    (fun s a s' h hP hstep => echeancesJustes_step h hP hstep) ?_ ?_ as
  · exact ⟨Sys.Kind.init _ _, fun i => ⟨fun d hd => (by cases hd), fun c hc => (by cases hc)⟩⟩
  · refine ⟨fun fs hfs => ?_, fun i c hc => (by cases hc)⟩
    rcases hfs with ⟨t, ht, -⟩ | ⟨x, hx, -⟩
    · cases ht
    · cases hx

end Runs

/-! ## A page left open overnight -/

/-- A device on universal time. -/
def tempsUniversel : Calendrier where
  decalage _ := 0
  minuit j := Messagerie.vingtQuatreHeures * j
  minuit_local := Messagerie.greenwich.minuit_local
  jour_minuit j := by
    show (86400000000 * j + 0) / 86400000000 = j
    omega
  minuit_mono j j' h := by
    show Messagerie.vingtQuatreHeures * j ≤ Messagerie.vingtQuatreHeures * j'
    unfold Messagerie.vingtQuatreHeures
    omega
  annee_mono t t' h := monotone_yearOf (by
    show (t + 0) / 86400000000 ≤ (t' + 0) / 86400000000
    omega)

/-- The homework is due before the day it is given. -/
def enRetard (z : Calendrier) (fs : Champs) : Bool :=
  match newDoc 0 fs .dateCreation, newDoc 0 fs .dateRemise with
  | some (.stamp c), some (.stamp d) => decide (d < z.minuit (z.jour c))
  | _, _ => false

theorem DevoirJuste.enRetard {z : Calendrier} {fs : Champs} (h : DevoirJuste z fs) :
    enRetard z fs = false := by
  obtain ⟨devoir, rfl, hle⟩ := h
  exact decide_eq_false (not_lt.mpr hle)

/-- A class without students, its subject and its teacher. -/
def classeSansEleve : Base :=
  [(Collection.enseignants, "t", [texte .utilisateurId "u"]),
    (.enseignements, "l", [texte .enseignantId "t", texte .matiereId "m"]),
    (.matieres, "m", [texte .nom "Français"]),
    (.classes, "c", [texte .etablissementId "e", texte .nom "6e A", textes .matieresIds ["m"],
      textes .enseignantsIds ["t"], textes .elevesIds []])].foldl
    (fun b doc => b.putDoc doc.1 doc.2.1 (newDoc 0 doc.2.2)) baseVide

/-- The homework is written and its date, the same day, is chosen; it is sent the day after. -/
def envoiDuLendemain : List (Act Unit EvDevoir Base) :=
  [.event () .charger, .serve 0, .resume 0, .serve 0, .resume 0, .serve 0, .resume 0,
    .event () (.choisirClasse (some "c")), .serve 0, .resume 0,
    .event () (.choisirMatiere (some "m")), .event () (.saisir "Dictée" "Apprendre les mots"),
    .event () .pickDate, .event () (.choisir 0 0), .event () (.heure Messagerie.vingtQuatreHeures),
    .event () .submit, .serve 0, .resume 0]

/-- A test of a homework on its way that is due before the day it is given. -/
def envoiEnRetard (s : SystemeDevoir Unit) : Bool :=
  s.tasks.any fun t => match t.req with
    | .add .devoirs fs => enRetard tempsUniversel fs
    | _ => false

/-- It is due on the day before. -/
theorem not_echeancesJustes_envoiDuLendemain :
    ¬ Always (Sys.step (pagesDevoir tempsUniversel (Server.longest 10) Unit))
      (EcheancesJustes tempsUniversel)
      (departDevoir classeSansEleve (fun _ => "u") (fun _ => "e") fun _ => 0) envoiDuLendemain := by
  refine not_always_of_final envoiEnRetard (fun s hbad hP => ?_) (by decide +kernel)
  obtain ⟨t, ht, hretard⟩ := List.any_eq_true.mp hbad
  split at hretard
  · rename_i fs hreq
    rw [(hP.devoirs fs (Or.inl ⟨t, ht, hreq⟩)).enRetard] at hretard
    cases hretard
  · cases hretard

end EduConnect.Enseignant
