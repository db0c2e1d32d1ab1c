import EduConnect.Admin.Enseignements
import EduConnect.Enseignant.Appel

/-!
# The dialog that adds a subject to a class

`ClasseDetailPage._ajouterMatiere`.  Each subject chosen starts a load of its teachers, and the load
that ends last fills the list of its dialog.  The teacher put on the class teaches the subject as
long as no load ends in its dialog while another subject is chosen there.
-/

namespace EduConnect.Admin

open Lib Prog

/-- The awaits of the dialog.  A load carries its subject, and at its end the call it belongs to. -/
inductive EtapeMatiere where
  | matieres
  | enseignements (matiereId : String)
  | enseignants (matiereId : String)
  | utilisateurs (appel : ℕ) (matiereId : String)
  | validation
  | details

/-- The fields of the page that `_ajouterMatiere` uses, and the variables of its last call. -/
structure DialogueMatiere where
  classeId : String
  etablissementId : Option String
  /-- A set, in the order its elements were added. -/
  selectedMatieres : List String
  /-- The number of the call that has shown the dialog. -/
  appel : ℕ := 0
  matieresDisponibles : List (String × Document) := []
  matiereChoisie : Option String := none
  enseignantChoisi : Option String := none
  /-- Maps `{'id': .., 'nom': ..}`. -/
  enseignantsDisponibles : List (String × String) := []
  /-- The entries of the list of teachers while it is unfolded. -/
  menu : Option (List (String × String)) := none
  ouvert : Bool := false
  messages : List String := []

namespace DialogueMatiere

def showSnackBar (texte : String) : Action EtapeMatiere DialogueMatiere Unit :=
  setState fun p => { p with messages := p.messages ++ [texte] }

/-- `_ajouterMatiere`, until the dialog is shown. -/
def ouvrir : Action EtapeMatiere DialogueMatiere Unit := do
  let p ← page
  match p.etablissementId with
  | none => showSnackBar "Impossible de récupérer l'établissement."
  | some etablissementId =>
    if etablissementId = "" then showSnackBar "Impossible de récupérer l'établissement."
    else do
      let matieresSnap ← chercher .matieres .matieres
        [.isEqualTo .etablissementId (.str etablissementId)]
      let p ← page
      let matieresDisponibles := matieresSnap.filter fun doc => doc.1 ∉ p.selectedMatieres
      if matieresDisponibles.isEmpty then showSnackBar "Toutes les matières sont déjà ajoutées"
      else setState fun p => { p with
        appel := p.appel + 1
        matieresDisponibles := matieresDisponibles
        matiereChoisie := none
        enseignantChoisi := none
        enseignantsDisponibles := []
        menu := none
        ouvert := true }

def fetchClasseDetails : Action EtapeMatiere DialogueMatiere Unit :=
  catching (do
    let p ← page
    match ← lire .details .classes p.classeId with
    | none => setState fun p => { p with selectedMatieres := [] }
    | some data =>
      let matieresIds ← ofExcept (data.get .matieresIds).orList
      setState fun p => { p with
        selectedMatieres := (matieresIds.map Enseignant.interpoler).eraseDups }) fun _ => ret ()

/-- The ids in the field `f` of the rows, each once, without the empty one. -/
def idsDe (f : Champ) (docs : List (String × Document)) : Except Err (List String) := do
  let ids ← docs.mapM fun doc => do (← doc.2.field f).asStr
  return (ids.filter (· ≠ "")).eraseDups

/-- `setState(() => enseignantsDisponibles = liste)`, on the variables of the call `appel`. -/
def proposer (appel : ℕ) (liste : List (String × String)) :
    Action EtapeMatiere DialogueMatiere Unit :=
  setState fun p => if p.appel = appel then { p with enseignantsDisponibles := liste } else p

/-- The teachers with their names. -/
def listeDe (enseignants utilisateurs : List (String × Document)) :
    Except Err (List (String × String)) := do
  let utilisateursMap ← utilisateurs.mapM fun doc => do
    return (doc.1, ← Donnees.UtilisateurModele.fromMap doc.2 doc.1)
  enseignants.mapM fun doc => do
    let utilisateurId ← (← doc.2.field .utilisateurId).asStr
    let utilisateur := utilisateursMap.lookup utilisateurId
    return (doc.1, utilisateur.elim "Nom inconnu" fun u => u.prenom ++ " " ++ u.nom)

def loadEnseignants (appel : ℕ) (matiereId : String) :
    Action EtapeMatiere DialogueMatiere Unit := do
  setState fun p => { p with enseignantsDisponibles := [], enseignantChoisi := none }
  catching (do
    let enseignements ← chercher (.enseignements matiereId) .enseignements
      [.isEqualTo .matiereId (.str matiereId)]
    if enseignements.isEmpty then proposer appel []
    else do
      let enseignantIds ← ofExcept (idsDe .enseignantId enseignements)
      if enseignantIds.isEmpty then proposer appel []
      else do
        let enseignants ← chercher (.enseignants matiereId) .enseignants [.idIn enseignantIds]
        if enseignants.isEmpty then proposer appel []
        else do
          let utilisateurIds ← ofExcept (idsDe .utilisateurId enseignants)
          if utilisateurIds.isEmpty then proposer appel []
          else do
            let utilisateurs ← chercher (.utilisateurs appel matiereId) .utilisateurs
              [.idIn utilisateurIds]
            if utilisateurs.isEmpty then proposer appel []
            else do
              let liste ← ofExcept (listeDe enseignants utilisateurs)
              proposer appel liste) fun _ => proposer appel []

/-- The button `Valider`. -/
def valider : Action EtapeMatiere DialogueMatiere Unit := do
  let p ← page
  match p.matiereChoisie, p.enseignantChoisi with
  | some matiere, some enseignant =>
    ecrire .validation (.update .classes p.classeId (matiereEtEnseignant matiere enseignant))
    fetchClasseDetails
    setState fun p => { p with ouvert := false }
  | _, _ => showSnackBar "Veuillez sélectionner une matière et un enseignant"

inductive Evenement where
  | ouvrir
  /-- The `n`-th subject is chosen. -/
  | matiere (n : ℕ)
  /-- The list of teachers is unfolded. -/
  | deplier
  /-- The `n`-th teacher of the unfolded list is chosen. -/
  | enseignant (n : ℕ)
  /-- The list is folded, with no choice. -/
  | replier
  | annuler
  | valider

/-- What an event starts; while the list of teachers is unfolded, nothing else can be touched. -/
def on (p : DialogueMatiere) : Evenement → Option (Action EtapeMatiere DialogueMatiere Unit)
  | .ouvrir => if p.ouvert then none else some ouvrir
  | .matiere n =>
    if p.ouvert ∧ p.menu = none then p.matieresDisponibles[n]?.map fun doc => do
      setState fun p => { p with
        matiereChoisie := some doc.1
        enseignantChoisi := none
        enseignantsDisponibles := [] }
      loadEnseignants p.appel doc.1
    else none
  | .deplier =>
    if p.ouvert ∧ p.menu = none ∧ p.matiereChoisie ≠ none ∧ p.enseignantsDisponibles ≠ [] then
      some (setState fun p => { p with menu := some p.enseignantsDisponibles })
    else none
  | .enseignant n =>
    (p.menu.bind fun menu => menu[n]?).map fun e =>
      -- a list emptied in the meantime is no longer shown, and its choice is lost
      if p.enseignantsDisponibles = [] then setState fun p => { p with menu := none }
      else setState fun p => { p with menu := none, enseignantChoisi := some e.1 }
  | .replier => some (setState fun p => { p with menu := none })
  | .annuler =>
    if p.ouvert ∧ p.menu = none then some (setState fun p => { p with ouvert := false }) else none
  | .valider => if p.ouvert ∧ p.menu = none then some valider else none

end DialogueMatiere

/-! ## Teachers read and teachers put on the class -/

section Regles

variable {ι : Type}

abbrev EchangeMatiere (ι : Type) := Exchange ι EtapeMatiere Requete Req.Ans Err

/-- A load of the teachers of `m` in the dialog of `i` has read `t`. -/
def Propose (w : List (EchangeMatiere ι)) (i : ι) (m t : String) : Prop :=
  ∃ (rows rows' : List (String × Document)) (ids : List String),
    (⟨i, .enseignements m, .query .enseignements ⟨[.isEqualTo .matiereId (.str m)], none, none⟩,
      .ok rows⟩ : EchangeMatiere ι) ∈ w ∧
    DialogueMatiere.idsDe .enseignantId rows = .ok ids ∧
    (⟨i, .enseignants m, .query .enseignants ⟨[.idIn ids], none, none⟩, .ok rows'⟩ :
      EchangeMatiere ι) ∈ w ∧ t ∈ rows'.map Prod.fst

/-- The teachers the dialog shows, and the one chosen, have been read for the subject chosen. -/
structure BienPropose (w : List (EchangeMatiere ι)) (i : ι) (p : DialogueMatiere) : Prop where
  liste : ∀ m, p.matiereChoisie = some m → ∀ e ∈ p.enseignantsDisponibles, Propose w i m e.1
  menu : ∀ m, p.matiereChoisie = some m → ∀ l ∈ p.menu, ∀ e ∈ l, Propose w i m e.1
  choisi : ∀ m, p.matiereChoisie = some m → ∀ t ∈ p.enseignantChoisi, Propose w i m t

/-- The teacher of a request has been read for its subject. -/
def AjoutLu (w : List (EchangeMatiere ι)) (i : ι) (r : Requete) : Prop :=
  ∀ c m t, r = .write (.update .classes c (matiereEtEnseignant m t)) → Propose w i m t

/-- The subject chosen in the dialog is the one whose teachers arrive there. -/
def MatiereInchangee (_ : List (EchangeMatiere ι)) (x : EchangeMatiere ι)
    (p : DialogueMatiere) : Prop :=
  ∀ appel m, x.lab = .utilisateurs appel m → p.appel = appel → p.matiereChoisie = some m

theorem Propose.mono {w w' : List (EchangeMatiere ι)} (hw : w <+: w') {i : ι} {m t : String}
    (h : Propose w i m t) : Propose w' i m t := by
  obtain ⟨rows, rows', ids, hmem, hids, hmem', ht⟩ := h
  exact ⟨rows, rows', ids, hw.subset hmem, hids, hw.subset hmem', ht⟩

theorem BienPropose.mono (w w' : List (EchangeMatiere ι)) (i : ι) (p : DialogueMatiere)
    (hw : w <+: w') (h : BienPropose w i p) : BienPropose w' i p where
  liste m hm e he := (h.liste m hm e he).mono hw
  menu m hm l hl e he := (h.menu m hm l hl e he).mono hw
  choisi m hm t ht := (h.choisi m hm t ht).mono hw

theorem AjoutLu.mono (w w' : List (EchangeMatiere ι)) (i : ι) (_ : EtapeMatiere) (r : Requete)
    (hw : w <+: w') (h : AjoutLu w i r) : AjoutLu w' i r :=
  fun c m t hr => (h c m t hr).mono hw

/-- The rule of the dialog of `i`. -/
abbrev DialogueMatiere.Regle {α : Type} (i : ι)
    (Q : Except Err α → List (EchangeMatiere ι) → DialogueMatiere → Prop)
    (p : Action EtapeMatiere DialogueMatiere α) (w : List (EchangeMatiere ι))
    (s : DialogueMatiere) : Prop :=
  p.Ok BienPropose (fun w i _ r => AjoutLu w i r) MatiereInchangee i Q w s

namespace DialogueMatiere

variable {w : List (EchangeMatiere ι)} {i : ι} {s : DialogueMatiere}

/-- A dialog that shows no teacher. -/
theorem bienPropose_vide (hl : s.enseignantsDisponibles = []) (hm : s.menu = none)
    (hc : s.enseignantChoisi = none) : BienPropose w i s where
  liste m _ e he := absurd (hl ▸ he) List.not_mem_nil
  menu m _ l hl := by rw [hm] at hl; cases hl
  choisi m _ t ht := by rw [hc] at ht; cases ht

/-- An update of what the rule does not speak of. -/
theorem bienPropose_congr {s' : DialogueMatiere} (h : BienPropose w i s)
    (hm : s'.matiereChoisie = s.matiereChoisie)
    (hl : s'.enseignantsDisponibles = s.enseignantsDisponibles) (hmenu : s'.menu = s.menu)
    (hc : s'.enseignantChoisi = s.enseignantChoisi) : BienPropose w i s' := by
  refine ⟨?_, ?_, ?_⟩
  · rw [hm, hl]
    exact h.liste
  · rw [hm, hmenu]
    exact h.menu
  · rw [hm, hc]
    exact h.choisi

theorem bienPropose_sansListe (h : BienPropose w i s) :
    BienPropose w i { s with enseignantsDisponibles := [] } :=
  ⟨fun _ _ _ he => absurd he List.not_mem_nil, h.menu, h.choisi⟩

/-- A load that ends without teachers. -/
theorem regle_proposer_vide {Q : Except Err Unit → List (EchangeMatiere ι) → DialogueMatiere → Prop}
    (appel : ℕ) (h : BienPropose w i s) (hQ : ∀ x, BienPropose w i x → Q (.ok ()) w x) :
    Regle i Q (proposer appel []) w s := by
  refine ok_setState_ret.mpr (hQ _ ?_)
  split_ifs
  · exact bienPropose_sansListe h
  · exact h

theorem ajoutLu_query {c : Collection} {q : Query Champ} : AjoutLu w i (.query c q) :=
  fun _ _ _ hr => by cases hr

/-- The ids of the teachers in the list are those of the rows. -/
theorem fst_listeDe {enseignants utilisateurs : List (String × Document)}
    {liste : List (String × String)} (h : listeDe enseignants utilisateurs = .ok liste) :
    liste.map Prod.fst = enseignants.map Prod.fst := by
  unfold listeDe at h
  obtain ⟨utilisateursMap, -, h⟩ := bind_eq_ok_iff.mp h
  refine map_key_of_mapM (fun doc e he => ?_) h
  obtain ⟨v, -, he⟩ := bind_eq_ok_iff.mp he
  obtain ⟨u, -, he⟩ := bind_eq_ok_iff.mp he
  obtain rfl := Except.ok.inj he
  rfl

/-- What stands among the ids of a field is in the field of a row. -/
theorem exists_of_mem_idsDe {f : Champ} {docs : List (String × Document)} {ids : List String}
    (h : idsDe f docs = .ok ids) {t : String} (ht : t ∈ ids) :
    ∃ doc ∈ docs, doc.2 f = some (.str t) := by
  unfold idsDe at h
  obtain ⟨all, hall, h⟩ := bind_eq_ok_iff.mp h
  obtain rfl := Except.ok.inj h
  have htall : t ∈ all := (List.mem_filter.mp (List.mem_eraseDups.mp ht)).1
  obtain ⟨doc, hdoc, hf⟩ := exists_of_mem_mapM hall htall
  obtain ⟨v, hv, hstr⟩ := bind_eq_ok_iff.mp hf
  refine ⟨doc, hdoc, ?_⟩
  unfold Doc.field at hv
  rcases hd : doc.2 f with _ | v'
  · rw [hd] at hv
    cases hv
  · rw [hd] at hv
    obtain rfl := Except.ok.inj hv
    cases v' with
    | str s => rw [Except.ok.inj hstr]
    | _ => cases hstr

theorem regle_loadEnseignants (appel : ℕ) (m : String) (h : BienPropose w i { s with
    enseignantsDisponibles := [], enseignantChoisi := none }) :
    Regle i (fun _ v x => BienPropose v i x) (loadEnseignants appel m) w s := by
  unfold loadEnseignants
  simp only [bind_eq]
  refine ok_setState.mpr (ok_catching.mpr ?_)
  refine ok_call_bind.mpr ⟨h, ajoutLu_query, ?_⟩
  rintro (e | rows) w₁ s₁ - hmem h₁ -
  · exact regle_proposer_vide appel h₁ fun _ hx => hx
  dsimp only
  split_ifs
  · exact regle_proposer_vide appel h₁ fun _ hx => hx
  refine ok_bind.mpr (ok_ofExcept.mpr ?_)
  rcases hids : idsDe .enseignantId rows with e | ids
  · exact regle_proposer_vide appel h₁ fun _ hx => hx
  dsimp only
  split_ifs
  · exact regle_proposer_vide appel h₁ fun _ hx => hx
  refine ok_call_bind.mpr ⟨h₁, ajoutLu_query, ?_⟩
  rintro (e | rows') w₂ s₂ hw₂ hmem' h₂ -
  · exact regle_proposer_vide appel h₂ fun _ hx => hx
  dsimp only
  split_ifs
  · exact regle_proposer_vide appel h₂ fun _ hx => hx
  refine ok_bind.mpr (ok_ofExcept.mpr ?_)
  rcases idsDe .utilisateurId rows' with e | uIds
  · exact regle_proposer_vide appel h₂ fun _ hx => hx
  dsimp only
  split_ifs
  · exact regle_proposer_vide appel h₂ fun _ hx => hx
  refine ok_call_bind.mpr ⟨h₂, ajoutLu_query, ?_⟩
  rintro (e | rows'') w₃ s₃ hw₃ - h₃ hC
  · exact regle_proposer_vide appel h₃ fun _ hx => hx
  dsimp only
  split_ifs
  · exact regle_proposer_vide appel h₃ fun _ hx => hx
  refine ok_bind.mpr (ok_ofExcept.mpr ?_)
  rcases hliste : listeDe rows' rows'' with e | liste
  · exact regle_proposer_vide appel h₃ fun _ hx => hx
  refine ok_setState_ret.mpr ?_
  split_ifs with happel
  swap
  · exact h₃
  refine ⟨fun m' hm' e he => ?_, h₃.menu, h₃.choisi⟩
  -- the subject chosen is the one that was loaded
  obtain rfl : m' = m := Option.some.inj (hm'.symm.trans (hC appel m rfl happel))
  refine ⟨rows, rows', ids, (hw₂.trans hw₃).subset hmem, hids, hw₃.subset hmem', ?_⟩
  rw [← fst_listeDe hliste]
  exact List.mem_map_of_mem he

theorem regle_ouvrir (h : BienPropose w i s) :
    Regle i (fun _ v x => BienPropose v i x) ouvrir w s := by
  have hmsg : ∀ {v : List (EchangeMatiere ι)} {x : DialogueMatiere} {texte : String},
      BienPropose v i x → Regle i (fun _ v x => BienPropose v i x) (showSnackBar texte) v x :=
    fun hx => ok_setState_ret.mpr (bienPropose_congr hx rfl rfl rfl rfl)
  unfold ouvrir
  simp only [bind_eq]
  refine ok_page.mpr ?_
  rcases s.etablissementId with _ | etablissementId
  · exact hmsg h
  dsimp only
  split_ifs
  · exact hmsg h
  refine ok_call_bind.mpr ⟨h, ajoutLu_query, ?_⟩
  rintro (e | rows) w₁ s₁ - - h₁ -
  · exact h₁
  refine ok_page.mpr ?_
  split_ifs
  · exact hmsg h₁
  · exact ok_setState_ret.mpr (bienPropose_vide rfl rfl rfl)

theorem regle_fetchClasseDetails (h : BienPropose w i s) :
    Regle i (fun _ v x => BienPropose v i x) fetchClasseDetails w s := by
  unfold fetchClasseDetails
  simp only [bind_eq]
  refine ok_catching.mpr (ok_page.mpr ?_)
  have hread : AjoutLu w i (.get .classes s.classeId) := fun c m t hr => by cases hr
  refine ok_call_bind.mpr ⟨h, hread, ?_⟩
  rintro (e | _ | data) w₁ s₁ - - h₁ -
  · exact ok_ret.mpr h₁
  · exact ok_setState_ret.mpr (bienPropose_congr h₁ rfl rfl rfl rfl)
  refine ok_bind.mpr (ok_ofExcept.mpr ?_)
  rcases (data.get .matieresIds).orList with e | matieresIds
  · exact ok_ret.mpr h₁
  · exact ok_setState_ret.mpr (bienPropose_congr h₁ rfl rfl rfl rfl)

/-- The button sends the teacher chosen with the subject chosen. -/
theorem regle_valider (h : BienPropose w i s) :
    Regle i (fun _ v x => BienPropose v i x) valider w s := by
  unfold valider
  simp only [bind_eq]
  refine ok_page.mpr ?_
  have hmsg : ∀ {texte : String},
      Regle i (fun _ v x => BienPropose v i x) (showSnackBar texte) w s :=
    ok_setState_ret.mpr (bienPropose_congr h rfl rfl rfl rfl)
  rcases hm : s.matiereChoisie with _ | matiere
  · exact hmsg
  rcases ht : s.enseignantChoisi with _ | enseignant
  · exact hmsg
  have hadd : AjoutLu w i
      (.write (.update .classes s.classeId (matiereEtEnseignant matiere enseignant))) := by
    intro c m t hr
    cases hr
    exact h.choisi matiere hm enseignant ht
  refine ok_call_bind.mpr ⟨h, hadd, ?_⟩
  rintro (e | u) w₁ s₁ - - h₁ -
  · exact h₁
  refine ok_bind.mpr ((regle_fetchClasseDetails h₁).mono ?_)
  rintro (e | u) w₂ s₂ h₂
  · exact h₂
  · exact ok_setState_ret.mpr (bienPropose_congr h₂ rfl rfl rfl rfl)

/-- Every action of the dialog follows the rule. -/
theorem regle_on {ev : Evenement} {p : Action EtapeMatiere DialogueMatiere Unit}
    (hp : s.on ev = some p) (h : BienPropose w i s) :
    Regle i (fun _ v x => BienPropose v i x) p w s := by
  rcases ev with _ | n | _ | n | _ | _ | _ <;> unfold on at hp <;> dsimp only at hp
  · split_ifs at hp
    obtain rfl := Option.some.inj hp
    exact regle_ouvrir h
  · split_ifs at hp with hopen
    obtain ⟨doc, -, rfl⟩ := Option.map_eq_some_iff.mp hp
    exact ok_setState.mpr (regle_loadEnseignants s.appel doc.1 (bienPropose_vide rfl hopen.2 rfl))
  · split_ifs at hp
    obtain rfl := Option.some.inj hp
    refine ok_setState_ret.mpr ⟨h.liste, fun m hm l hl => ?_, h.choisi⟩
    obtain rfl := Option.some.inj hl
    exact h.liste m hm
  · obtain ⟨e, he, rfl⟩ := Option.map_eq_some_iff.mp hp
    obtain ⟨menu, hmenu, hn⟩ := Option.bind_eq_some_iff.mp he
    split_ifs
    · exact ok_setState_ret.mpr ⟨h.liste, fun _ _ _ hl => (by cases hl), h.choisi⟩
    · refine ok_setState_ret.mpr ⟨h.liste, fun _ _ _ hl => (by cases hl), fun m hm t ht => ?_⟩
      obtain rfl := Option.some.inj ht
      exact h.menu m hm menu hmenu e (List.mem_of_getElem? hn)
  · obtain rfl := Option.some.inj hp
    exact ok_setState_ret.mpr ⟨h.liste, fun _ _ _ hl => (by cases hl), h.choisi⟩
  · split_ifs at hp
    obtain rfl := Option.some.inj hp
    exact ok_setState_ret.mpr (bienPropose_congr h rfl rfl rfl rfl)
  · split_ifs at hp
    obtain rfl := Option.some.inj hp
    exact regle_valider h

end DialogueMatiere

/-! ## Runs -/

abbrev SystemeMatiere (ι : Type) := Sys ι EtapeMatiere Requete Req.Ans Err DialogueMatiere Base

/-- Any number of pages that open the dialog on the server `S`. -/
def dialogues (ι : Type) (S : Server) :
    Spec ι EtapeMatiere Requete Req.Ans Err DialogueMatiere Base DialogueMatiere.Evenement where
  handler := S.handler
  lost := .unavailable
  on _ ev p := p.on ev

variable [DecidableEq ι]

/-- In the run of `as` from `s`, a load of the teachers of `m` in the dialog of `i` is answered while
an enseignements document of `m` and `t` is in the data. -/
def Offert (S : Server) (s : SystemeMatiere ι)
    (as : List (Act ι DialogueMatiere.Evenement Base)) (i : ι) (m t : String) : Prop :=
  ∃ as₀ n s₀ task, as₀ ++ [.serve n] <+: as ∧
    as₀.foldlM (Sys.step (dialogues ι S)) s = some s₀ ∧ s₀.tasks[n]? = some task ∧
    task.who = i ∧ task.lab = .enseignements m ∧
    ∃ id d, s₀.base.doc .enseignements id = some d ∧ d .matiereId = some (.str m) ∧
      d .enseignantId = some (.str t)

/-- Whenever `Valider` has put a subject and a teacher on a class, the teacher had been offered for
that subject. -/
def AjoutsExacts (S : Server) (s : SystemeMatiere ι)
    (as : List (Act ι DialogueMatiere.Evenement Base)) : Prop :=
  ∀ bs s', bs <+: as → bs.foldlM (Sys.step (dialogues ι S)) s = some s' →
    ∀ x ∈ s'.log, ∀ c m t, x.req = .write (.update .classes c (matiereEtEnseignant m t)) →
      Offert S s bs x.who m t

/-- What a load has read for a subject was in the data. -/
theorem offert_of_propose {S : Server} {b : Base} {pages : ι → DialogueMatiere}
    {as : List (Act ι DialogueMatiere.Evenement Base)} {s : SystemeMatiere ι}
    (hrun : as.foldlM (Sys.step (dialogues ι S)) (Sys.init b pages) = some s) {i : ι}
    {m t : String} (h : Propose s.log i m t) : Offert S (Sys.init b pages) as i m t := by
  obtain ⟨rows, rows', ids, hmem, hids, hmem', ht⟩ := h
  -- the teacher is among the ids of the first answer
  have htid : t ∈ ids := by
    rcases Sys.served_or_lost _ hrun hmem' with hserved | hlost
    · obtain ⟨-, -, s₁, -, -, -, -, -, -, hans⟩ := hserved.exists_answer
      rw [rows_of_handler (S := S) hans] at ht
      obtain ⟨doc, hdoc, rfl⟩ := List.mem_map.mp ht
      exact Filter.sat_idIn.mp ((Query.of_mem_run hdoc).2 _ List.mem_cons_self)
    · cases hlost
  obtain ⟨doc, hdoc, hte⟩ := DialogueMatiere.exists_of_mem_idsDe hids htid
  rcases Sys.served_or_lost _ hrun hmem with hserved | hlost
  · obtain ⟨as₀, n, s₀, task, hpre, hrun₀, htask, hwho, hlab, hans⟩ := hserved.exists_answer
    have hrows := rows_of_handler (S := S) hans
    obtain ⟨hfind, hm⟩ := Query.mem_run_isEqualTo.mp (hrows ▸ hdoc)
    exact ⟨as₀, n, s₀, task, hpre, hrun₀, htask, hwho, hlab, doc.1, doc.2, hfind, hm, hte⟩
  · cases hlost

/-- **A class gets teachers of the subject added.**  In every run of dialogs in which no load of
teachers ends while another subject is chosen, a teacher put on a class with a subject had been
offered for it. -/
theorem ajoutsExacts_run (S : Server) (b : Base) (pages : ι → String × Option String × List String)
    (as : List (Act ι DialogueMatiere.Evenement Base)) {s : SystemeMatiere ι}
    (hs : s = Sys.init b fun i =>
      { classeId := (pages i).1
        etablissementId := (pages i).2.1
        selectedMatieres := (pages i).2.2 })
    (h : AllMeet (Sys.step (dialogues ι S)) (Sys.Resumes MatiereInchangee) s as) :
    AjoutsExacts S s as := by
  subst hs
  have hall := Sys.always_ok (dialogues ι S) BienPropose.mono AjoutLu.mono
    (fun w i ev s p hp hI => DialogueMatiere.regle_on hp hI)
    (Sys.Ok.init (fun i => DialogueMatiere.bienPropose_vide rfl rfl rfl) b) h
  intro bs s' hpre hrun x hx c m t hreq
  exact offert_of_propose hrun ((hall.at_prefix hpre hrun).sent x hx c m t hreq)

end Regles

/-! ### Two subjects -/

/-- The subjects `m`, which `t` teaches, and `n`, which `v` teaches; the class `c` has neither. -/
def deuxMatieres : Base :=
  let lien (enseignant matiere : String) : Document :=
    newDoc 0 (EnseignementDepot.enseignement enseignant matiere)
  let matiere (nom : String) : Document := newDoc 0 [texte .nom nom, texte .etablissementId "e"]
  ((((((((baseVide.putDoc .classes "c" (newDoc 0 ClasseDetail.listesVides)).putDoc
    .matieres "m" (matiere "Maths")).putDoc .matieres "n" (matiere "Anglais")).putDoc
    .enseignements "x" (lien "t" "m")).putDoc .enseignements "y" (lien "v" "n")).putDoc
    .enseignants "t" (newDoc 0 [texte .utilisateurId "ut"])).putDoc
    .enseignants "v" (newDoc 0 [texte .utilisateurId "uv"])).putDoc
    .utilisateurs "ut" (newDoc 0 [texte .nom "T"])).putDoc
    .utilisateurs "uv" (newDoc 0 [texte .nom "V"])

def dialogue : DialogueMatiere :=
  { classeId := "c", etablissementId := some "e", selectedMatieres := [] }

/-- `m` and its teacher are added. -/
def ajoutDeM : List (Act Unit DialogueMatiere.Evenement Base) :=
  [.event () .ouvrir] ++ Enseignant.poursuivre 0 1 ++ [.event () (.matiere 0)] ++
    Enseignant.poursuivre 0 3 ++
    [.event () .deplier, .event () (.enseignant 0), .event () .valider, .serve 0]

/-- The teachers of `m` arrive after those of `n`, which has been chosen since. -/
def ajoutDeN : List (Act Unit DialogueMatiere.Evenement Base) :=
  [.event () .ouvrir] ++ Enseignant.poursuivre 0 1 ++
    [.event () (.matiere 0), .event () (.matiere 1)] ++ Enseignant.poursuivre 1 3 ++
    Enseignant.poursuivre 0 3 ++
    [.event () .deplier, .event () (.enseignant 0), .event () .valider, .serve 0]

/-- A test of `MatiereInchangee`. -/
def memeMatiere (s : SystemeMatiere Unit) : Act Unit DialogueMatiere.Evenement Base → Bool
  | .resume n => (s.tasks[n]?).all fun t =>
    match t.lab with
    | .utilisateurs appel m =>
      decide ((s.pages t.who).appel = appel → (s.pages t.who).matiereChoisie = some m)
    | _ => true
  | _ => true

theorem resumes_of_memeMatiere (s : SystemeMatiere Unit)
    (a : Act Unit DialogueMatiere.Evenement Base) (h : memeMatiere s a = true) :
    Sys.Resumes MatiereInchangee s a := by
  rcases a with _ | _ | _ | n | _
  case resume =>
    intro t ht a _ appel m hm
    have hm' : t.lab = .utilisateurs appel m := hm
    simp only [memeMatiere, ht, Option.all_some, hm'] at h
    exact of_decide_eq_true h
  all_goals trivial

theorem ajoutsExacts_run_ajoutDeM :
    AjoutsExacts (Server.longest 10) (Sys.init deuxMatieres fun _ => dialogue) ajoutDeM :=
  ajoutsExacts_run (Server.longest 10) deuxMatieres (fun _ => ("c", some "e", [])) ajoutDeM rfl
    (allMeet_of_checkAll memeMatiere resumes_of_memeMatiere (by decide +kernel))

/-- No document links `t` to `n`. -/
def sansLien (s : SystemeMatiere Unit) : Bool :=
  (s.base.docs .enseignements).rows.all fun a =>
    !((a.2 .matiereId).any (Value.isStr "n") && (a.2 .enseignantId).any (Value.isStr "t"))

/-- The class has been given the subject `n` and the teacher `t`. -/
def ajoutFait (s : SystemeMatiere Unit) : Bool :=
  s.log.any fun x => match x.req with
    | .write (.update .classes _
        [(.matieresIds, .arrayUnion ["n"]), (.enseignantsIds, .arrayUnion ["t"])]) => true
    | _ => false

/-- The class gets the subject `n` and the teacher `t`, whom no document ever links to it. -/
theorem not_ajoutsExacts_ajoutDeN :
    ¬AjoutsExacts (Server.longest 10) (Sys.init deuxMatieres fun _ => dialogue) ajoutDeN := by
  intro h
  have hnever : Always (Sys.step (dialogues Unit (Server.longest 10)))
      (fun s => sansLien s = true) (Sys.init deuxMatieres fun _ => dialogue) ajoutDeN :=
    always_of_checkAll sansLien (by decide +kernel) (by decide +kernel)
  have hfait : (ajoutDeN.foldlM (Sys.step (dialogues Unit (Server.longest 10)))
      (Sys.init deuxMatieres fun _ => dialogue)).any ajoutFait = true := by decide +kernel
  obtain ⟨s', hrun, hlog⟩ := (Option.any_eq_true _ _).mp hfait
  obtain ⟨x, hx, hreq⟩ := List.any_eq_true.mp hlog
  split at hreq
  · rename_i c hc
    obtain ⟨as₀, k, s₀, -, hpre, hrun₀, -, -, -, id, d, hd, hm, ht⟩ :=
      h ajoutDeN s' (List.prefix_refl _) hrun x hx c "n" "t" hc
    have hs₀ := hnever.at_prefix ((List.prefix_append as₀ [.serve k]).trans hpre) hrun₀
    have hnot := List.all_eq_true.mp hs₀ (id, d) (Table.find_eq_some_iff.mp hd)
    simp [hm, ht, Value.isStr] at hnot
  · cases hreq

end EduConnect.Admin
