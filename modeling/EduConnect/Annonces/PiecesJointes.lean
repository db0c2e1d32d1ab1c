import EduConnect.Annonces.Diffusion
import EduConnect.Lib.Runs
import EduConnect.Pannes

/-!
# The attachment of an announcement

`CreerAnnoncePage` keeps the id of the file it uploaded last.  A submission whose upload is lost
goes on and publishes with the id of an earlier submission, or with none.
-/

namespace EduConnect.Annonces

open Lib Prog

/-! ## Runs of the page -/

/-- What happens to the page. -/
inductive Saisie where
  | ecrire (titre description : String)
  /-- A file picked, with its bytes or not; nothing when the dialog is dismissed. -/
  | choisirFichier (fichier : Option (Bool × String))
  /-- A submission, with the requests that are lost. -/
  | soumettre (maintenant : ℤ) (pannes : List (Option Err))
  /-- Somebody else changes the data. -/
  | ailleurs (b : Base)

/-- The page and the data. -/
structure Redaction where
  page : CreerAnnonce
  base : Base

section Page

variable (S : Server)

/-- A submission, behind a connection with the faults `f`. -/
def Redaction.soumise (s : Redaction) (maintenant : ℤ) (f : List (Option Err)) : Redaction :=
  let r := (CreerAnnonce.soumettreAnnonce maintenant).exec (faulty S.handler) s.page (s.base, f)
  ⟨r.2.1, r.2.2.1⟩

def Redaction.suivante (s : Redaction) : Saisie → Option Redaction
  | .ecrire titre description =>
    some { s with page := { s.page with titre := titre, description := description } }
  | .choisirFichier none => some s
  | .choisirFichier (some (bytes, nom)) =>
    some { s with page := { s.page with fichierBytes := bytes, nomFichier := some nom } }
  | .soumettre maintenant f => some (s.soumise S maintenant f)
  | .ailleurs b => some { s with base := b }

/-! ## What a submission does -/

/-- The faults that are left once the file is uploaded. -/
def suite (p : CreerAnnonce) (f : List (Option Err)) : List (Option Err) :=
  if p.fichierBytes && p.nomFichier.isSome then f.tail else f

/-- The id of the file the submission uploads, if it does. -/
def televerse (p : CreerAnnonce) (b : Base) (f : List (Option Err)) : Option String :=
  if p.fichierBytes && p.nomFichier.isSome && (nextFault f).isNone then some (S.newId b.files)
  else none

/-- The data once the file is uploaded. -/
def avecFichier (p : CreerAnnonce) (b : Base) (f : List (Option Err)) : Base :=
  match televerse S p b f with
  | some id => { b with files := b.files.put id () }
  | none => b

/-- The submission adds the announcement: the form is valid, and neither the query of the audience
nor the addition is lost. -/
def Publiee (p : CreerAnnonce) (f : List (Option Err)) : Prop :=
  p.validate = true ∧ nextFault (suite p f) = none ∧ nextFault (suite p f).tail = none

end Page

section Soumission

variable {S : Server} {p : CreerAnnonce} {b : Base} {f : List (Option Err)}

theorem exec_uploader (S : Server) (p : CreerAnnonce) (b : Base) (f : List (Option Err)) :
    CreerAnnonce.uploaderFichierDansAppwrite.exec (faulty S.handler) p (b, f) =
      (.ok (), { p with fichierId := (televerse S p b f).or p.fichierId },
        (avecFichier S p b f, suite p f)) := by
  obtain ⟨etablissementId, titre, description, fichierBytes, nomFichier, fichierId, chargement,
    messages⟩ := p
  cases fichierBytes with
  | false => rfl
  | true =>
    cases nomFichier with
    | none => rfl
    | some nom =>
      show (catching (Prog.bind (creerFichier () nom) _) _).Ends (faulty S.handler)
        (fun a s x => (a, s, x) = _) _ (b, f)
      refine ends_catching.mpr (ends_bind.mpr (ends_creerFichier_pannes.mpr ⟨?_, fun hf => ?_⟩))
      · intro e hf
        have htele : televerse S ⟨etablissementId, titre, description, true, some nom, fichierId,
            chargement, messages⟩ b f = none := by
          simp [televerse, hf]
        rw [avecFichier, htele]
        rfl
      · have htele : televerse S ⟨etablissementId, titre, description, true, some nom, fichierId,
            chargement, messages⟩ b f = some (S.newId b.files) := by
          simp [televerse, hf]
        rw [avecFichier, htele]
        rfl

/-- A page with the id of the file uploaded, if one was. -/
def apresFichier (S : Server) (p : CreerAnnonce) (b : Base) (f : List (Option Err)) :
    CreerAnnonce :=
  { p with fichierId := (televerse S p b f).or p.fichierId }

/-- What a submission leaves. -/
structure Issue (S : Server) (p : CreerAnnonce) (b : Base) (f : List (Option Err)) (maintenant : ℤ)
    (p' : CreerAnnonce) (b' : Base) : Prop where
  fichierBytes : p'.fichierBytes = p.fichierBytes
  nomFichier : p'.nomFichier = p.nomFichier
  fichierId : p'.fichierId = p.fichierId ∨ p.nomFichier.isSome
  publiee : Publiee p f → b' = S.addDoc .annonces (avecFichier S p b f)
    ((apresFichier S p b f).champs (utilisateursDe b p.etablissementId) maintenant)
  nonPubliee : ¬Publiee p f → b'.docs .annonces = b.docs .annonces

theorem docs_avecFichier (c : Collection) : (avecFichier S p b f).docs c = b.docs c := by
  unfold avecFichier
  rcases televerse S p b f with _ | id <;> rfl

/-- A submission once the upload is over. -/
def publier (etablissementId : String) (maintenant : ℤ) : Action Unit CreerAnnonce Unit :=
  ensuring (catching (do
    let utilisateursSnap ← chercher () .utilisateurs
      [.isEqualTo .etablissementId (.str etablissementId)]
    let p ← page
    let _ ← ajouter () .annonces (p.champs (utilisateursSnap.map Prod.fst) maintenant)
    CreerAnnonce.showSnackBar "Annonce publiée avec succès") fun e =>
    CreerAnnonce.showSnackBar ("Erreur : " ++ texteErreur e))
    fun p => { p with chargement := false }

theorem ends_publier (q : CreerAnnonce) (b : Base) (f : List (Option Err))
    (etablissementId : String) (maintenant : ℤ) :
    (publier etablissementId maintenant).Ends (faulty S.handler)
      (fun _ p' x => (p'.fichierBytes = q.fichierBytes ∧ p'.nomFichier = q.nomFichier ∧
          p'.fichierId = q.fichierId) ∧
        (nextFault f = none ∧ nextFault f.tail = none → x.1 = S.addDoc .annonces b
          (q.champs (utilisateursDe b etablissementId) maintenant)) ∧
        (¬(nextFault f = none ∧ nextFault f.tail = none) → x.1 = b)) q (b, f) := by
  unfold publier
  refine ends_ensuring.mpr (ends_catching.mpr (ends_bind.mpr ?_))
  have hrequete : ([Filter.isEqualTo Champ.etablissementId (.str etablissementId)]).any
    (Filter.refused S.maxIn) = false := rfl
  refine (ends_requete_pannes (q := ⟨_, none, none⟩) hrequete).mpr ⟨fun e hf => ?_, fun hf => ?_⟩
  · exact ⟨⟨rfl, rfl, rfl⟩, fun h => absurd (h.1.symm.trans hf) (by simp), fun _ => rfl⟩
  · refine ends_page_bind.mpr (ends_bind.mpr (ends_ajouter_pannes.mpr
      ⟨fun e hf' => ?_, fun hf' => ?_⟩))
    · exact ⟨⟨rfl, rfl, rfl⟩, fun h => absurd (h.2.symm.trans hf') (by simp), fun _ => rfl⟩
    · exact ⟨⟨rfl, rfl, rfl⟩, fun _ => rfl, fun h => absurd ⟨hf, hf'⟩ h⟩

theorem issue_soumettre (maintenant : ℤ) :
    (CreerAnnonce.soumettreAnnonce maintenant).Ends (faulty S.handler)
      (fun _ p' x => Issue S p b f maintenant p' x.1) p (b, f) := by
  unfold CreerAnnonce.soumettreAnnonce
  refine ends_page_bind.mpr ?_
  by_cases hvalide : p.validate = true
  · rw [if_pos hvalide]
    refine ends_setState_bind.mpr ?_
    have hsuite : (publier p.etablissementId maintenant).Ends (faulty S.handler)
        (fun _ p' x => Issue S p b f maintenant p' x.1)
        { apresFichier S p b f with chargement := true } (avecFichier S p b f, suite p f) := by
      refine (ends_publier _ _ _ _ _).mono ?_
      rintro _ p' x ⟨⟨hbytes, hnom, hid⟩, hpubliee, hnon⟩
      refine ⟨hbytes, hnom, ?_, fun h => ?_, fun h => ?_⟩
      · rcases hnom' : p.nomFichier with _ | nom
        · refine .inl (hid.trans ?_)
          show (televerse S p b f).or p.fichierId = p.fichierId
          rw [televerse, hnom', Option.isSome_none, Bool.and_false, Bool.false_and]
          rfl
        · exact .inr rfl
      · have haudience : utilisateursDe (avecFichier S p b f) p.etablissementId =
            utilisateursDe b p.etablissementId := by
          rw [utilisateursDe, utilisateursDe, docs_avecFichier]
        rw [hpubliee h.2, haudience]
        rfl
      · rw [hnon fun h' => h ⟨hvalide, h'⟩]
        exact docs_avecFichier .annonces
    by_cases hbytes : p.fichierBytes = true
    · rw [if_pos hbytes]
      refine (ends_bind_of_exec (exec_uploader S { p with chargement := true } b f)).mpr ?_
      exact hsuite
    · have htele : televerse S p b f = none := by simp [televerse, hbytes]
      have hmeme : suite p f = f := by simp [suite, hbytes]
      rw [if_neg hbytes]
      rw [apresFichier, avecFichier, htele, hmeme] at hsuite
      exact hsuite
  · rw [if_neg hvalide]
    exact ⟨rfl, rfl, .inl rfl, fun h => absurd h.1 hvalide, fun _ => rfl⟩

end Soumission

/-! ## The announcements of a run -/

section Publications

variable {S : Server} {s s' : Redaction} {d : Document}

/-- The file the announcement `d` of a submission carries: none when none is selected, else the one
selected, uploaded by this submission. -/
def PieceJointe (s s' : Redaction) (d : Document) : Prop :=
  match s.page.nomFichier with
  | none => d .fichierId = some .null
  | some _ => ∃ id, s.base.files.find id = none ∧ (s'.base.files.find id).isSome ∧
      d .fichierId = some (.str id)

/-- The announcements a submission publishes carry their own file. -/
def Conforme (S : Server) (s : Redaction) : Saisie → Prop
  | .soumettre maintenant f => ∀ id d, s.base.doc .annonces id = none →
      (s.soumise S maintenant f).base.doc .annonces id = some d →
        PieceJointe s (s.soumise S maintenant f) d
  | _ => True

/-- Only a page on which a file was selected has bytes, or the id of a file. -/
structure Coherente (p : CreerAnnonce) : Prop where
  fichierBytes : p.fichierBytes = true → p.nomFichier.isSome
  fichierId : p.fichierId.isSome → p.nomFichier.isSome

theorem soumise_issue (S : Server) (s : Redaction) (maintenant : ℤ) (f : List (Option Err)) :
    Issue S s.page s.base f maintenant (s.soumise S maintenant f).page
      (s.soumise S maintenant f).base := issue_soumettre maintenant

theorem Coherente.suivante (h : Coherente s.page) {a : Saisie} (hs : s.suivante S a = some s') :
    Coherente s'.page := by
  cases a with
  | ecrire titre description =>
    obtain rfl := Option.some.inj hs
    exact ⟨h.fichierBytes, h.fichierId⟩
  | choisirFichier fichier =>
    rcases fichier with _ | ⟨bytes, nom⟩
    · obtain rfl := Option.some.inj hs
      exact h
    · obtain rfl := Option.some.inj hs
      exact ⟨fun _ => rfl, fun _ => rfl⟩
  | soumettre maintenant f =>
    obtain rfl := Option.some.inj hs
    obtain ⟨hbytes, hnom, hid, -, -⟩ := soumise_issue S s maintenant f
    refine ⟨fun hb => ?_, fun hi => ?_⟩
    · rw [hnom]
      exact h.fichierBytes (hbytes ▸ hb)
    · rw [hnom]
      rcases hid with hid | hid
      · exact h.fichierId (hid ▸ hi)
      · exact hid
  | ailleurs b =>
    obtain rfl := Option.some.inj hs
    exact h

/-- The page as it is opened. -/
def ouverte (etablissementId : String) (b : Base) : Redaction := ⟨{ etablissementId }, b⟩

end Publications

end EduConnect.Annonces
