import EduConnect.Admin.ClassUpdates
import EduConnect.Admin.Creations
import EduConnect.Admin.Enrolment
import EduConnect.Lib.Stored
import EduConnect.Lignes

/-!
# Adding students from the page of a class

`AjouterElevesClassePage` reads the fields `etablissement`, `classe` and `eleves`, which neither
`AjouterClassePage` nor `AjoutEleveVue` writes: they use `etablissementId`, `classeId` and
`elevesIds`.  So the page offers nobody, and what it writes enrols nobody.
-/

namespace EduConnect.Admin

open Lib Prog

/-! ## AjouterElevesClassePage -/

/-- `_AjouterElevesClassePageState`. -/
structure AjouterElevesClasse where
  classeId : String
  classeData : Option Document := none
  etablissementId : Option String := none
  /-- A set, in the order its elements were added. -/
  selectedEleves : List String := []
  messages : List String := []

namespace AjouterElevesClasse

def fetchClasseData : Action Etape AjouterElevesClasse Unit := do
  let p ← page
  let doc ← lire .autre .classes p.classeId
  setState fun p => { p with classeData := doc }
  match doc with
  | none => setState fun p => { p with etablissementId := none }
  | some data =>
    let etablissementId ← ofExcept (data.get .etablissement).optStr
    setState fun p => { p with etablissementId := etablissementId }

def fetchEligibleEleves : Action Etape AjouterElevesClasse (List (String × Document)) := do
  match (← page).etablissementId with
  | none => return []
  | some etablissementId =>
    chercher .autre .eleves [.isEqualTo .etablissement (.str etablissementId), .isNull .classe]

/-- The `onChanged` of a student's box. -/
def cocher (eleveId : String) (val : Bool) : Action Etape AjouterElevesClasse Unit :=
  setState fun p => { p with
    selectedEleves := if val then if eleveId ∈ p.selectedEleves then p.selectedEleves
      else p.selectedEleves ++ [eleveId] else p.selectedEleves.filter (· ≠ eleveId) }

/-- The updates of the students in the batch of `ajouterEleves`. -/
def majEleves (p : AjouterElevesClasse) : List Ecriture :=
  p.selectedEleves.map fun eleveId => .update .eleves eleveId [texte .classe p.classeId]

/-- The update of the class, added to the batch once the class is read. -/
def majClasse (p : AjouterElevesClasse) (currentEleves : List String) : Ecriture :=
  .update .classes p.classeId [textes .eleves (currentEleves ++ p.selectedEleves)]

def ajouterEleves : Action Etape AjouterElevesClasse Unit := do
  let p ← page
  if p.selectedEleves = [] then return
  -- `doc` refuses an empty id
  if "" ∈ p.selectedEleves then fail .invalidArgument
  else
    let classeSnapshot ← lire .autre .classes p.classeId
    let currentEleves ← ofExcept (match classeSnapshot with
      | some data => (data.get .eleves).orStrs
      | none => .ok [])
    -- the selection may have changed meanwhile
    let classe := (← page).majClasse currentEleves
    Prog.call .autre (Req.commit (p.majEleves ++ [classe]))
    setState fun p => { p with messages := p.messages ++ ["Élèves ajoutés avec succès"] }

end AjouterElevesClasse

/-! ## What the page offers and what it should -/

section Definitions

variable (S : Server) (b : Base)

/-- The page of a class, once opened; an error of `fetchClasseData` is not caught by anybody. -/
def pageOuverte (c : String) : AjouterElevesClasse :=
  (AjouterElevesClasse.fetchClasseData.exec S.handler { classeId := c } b).2.1

/-- The students the page of `c` offers. -/
def offre (c : String) : Except Err (List (String × Document)) :=
  (AjouterElevesClasse.fetchEligibleEleves.exec S.handler (pageOuverte S b c) b).1

/-- The store after the selected students have been added. -/
def apresAjout (c : String) (selection : List String) : Base :=
  (AjouterElevesClasse.ajouterEleves.exec S.handler
    { pageOuverte S b c with selectedEleves := selection } b).2.2

/-- The establishment of a class. -/
def ecoleDeClasse (c : String) : Option String :=
  (b.doc .classes c).bind fun d => match d .etablissementId with
    | some (.str etablissementId) => some etablissementId
    | _ => none

/-- The establishment of a student, in the document of his account. -/
def ecoleDeLEleve (e : String) : Option String := do
  let eleve ← b.doc .eleves e
  let compte ← b.doc .utilisateurs (chaine eleve .utilisateurId)
  match compte .etablissementId with
  | some (.str etablissementId) => some etablissementId
  | _ => none

/-- A student of the establishment of the class `c` whose document names no existing class. -/
structure SansClasse (c e : String) : Prop where
  ecole : ∃ etablissementId, ecoleDeClasse b c = some etablissementId ∧
    ecoleDeLEleve b e = some etablissementId
  classe : ∀ c', classeDe b e = some c' → b.doc .classes c' = none

/-- The student is on the roster of the class exactly once, and has it as his class. -/
structure Inscrit (c e : String) : Prop where
  liste : (elevesDeClasse b c).count e = 1
  classe : classeDe b e = some c

/-- The page of `c` offers the students of its establishment without a class, and adding the
selected ones enrols them. -/
structure InscritParClasse (c : String) (selection : List String) : Prop where
  offre : ∃ docs, offre S b c = .ok docs ∧ ∀ e, e ∈ docs.map Prod.fst ↔ SansClasse b c e
  inscrits : ∀ e ∈ selection, Inscrit (apresAjout S b c selection) c e

end Definitions

/-! ## The school -/

/-- A screen in use: `AjouterClassePage`, `AjouterElevesClassePage`, or another screen that writes
students and classes. -/
inductive Geste where
  | ajouterClasse (p : AjouterClasse) (id : String)
  | ajouterEleves (p : AjouterElevesClasse)
  | ecran (t : Pages) (ev : Evenement)

/-- The store after a screen was used, with or without success. -/
def Geste.effet (S : Server) (b : Base) : Geste → Base
  | ajouterClasse p id => ((AjouterClasse.ajouterClasse () id).exec S.handler p b).2.2
  | ajouterEleves p => (AjouterElevesClasse.ajouterEleves.exec S.handler p b).2.2
  | ecran t ev => match t.on ev with
    | some p => (p.exec S.handler t b).2.2
    | none => b

def apresGestes (S : Server) (b : Base) (gs : List Geste) : Base := gs.foldl (Geste.effet S) b

/-- A school before its first class and its first student. -/
structure SansClasseNiEleve (b : Base) : Prop where
  classes : ∀ c, b.doc .classes c = none
  eleves : ∀ e, b.doc .eleves e = none

/-- The field `etablissement` of a class names no establishment. -/
def SansEtablissement (d : Document) : Prop := ∀ s, d .etablissement ≠ some (.str s)

/-- The request leaves the classes so. -/
abbrev SansEcole (r : Requete) : Prop := r.Sends .classes fun _ d => SansEtablissement d

/-- Fields written that do not include `etablissement`. -/
theorem SansEtablissement.writeFields {d : Document} (hd : SansEtablissement d) {fs : Champs}
    (hfs : .etablissement ∉ fs.map Prod.fst) (now : ℤ) :
    SansEtablissement (writeFields now d fs) := by
  intro s hs
  rw [writeFields_of_not_mem hfs] at hs
  exact hd s hs

/-- A list written is not the name of an establishment. -/
theorem SansEtablissement.textes {d : Document} (hd : SansEtablissement d) (champ : Champ)
    (l : List String) (now : ℤ) : SansEtablissement (Lib.writeFields now d [textes champ l]) := by
  by_cases hchamp : champ = .etablissement
  · intro s hs
    rw [hchamp, EduConnect.textes, writeFields_cons, writeFields_nil, Function.update_self] at hs
    cases hs
  · refine hd.writeFields ?_ now
    rw [List.map_singleton, List.mem_singleton]
    exact fun h => hchamp h.symm

theorem sansEcole_horsClasses {r : Requete} (hr : HorsClasses r) : SansEcole r := by
  cases r with
  | add c fs => exact fun hc => absurd hc hr
  | write w =>
    cases w with
    | set c id fs => exact fun hc => absurd hc hr
    | update c id fs => exact fun hc => absurd hc hr
    | delete c id => trivial
  | commit ws => exact hr.elim
  | addAll c ds => exact hr.elim
  | _ => trivial

/-- The other screens write lists of a class, or a whole class as `ClasseModele` has it. -/
theorem sansEcole_conforme {l : Etape} {r : Requete} (h : Conforme l r) : SansEcole r := by
  cases l with
  | autre => exact sansEcole_horsClasses h
  | ajoutListe c lus e =>
    obtain rfl : r = .write _ := h
    exact fun _ now d hd => hd.writeFields (by simp) now
  | bascule c champ copie e selected =>
    obtain rfl : r = .write _ := h
    exact fun _ now d hd => hd.textes champ _ now
  | reinitialisation c =>
    obtain rfl : r = .write _ := h
    exact fun _ now d hd => hd.writeFields (by decide) now
  | edition c copie nom niveau =>
    obtain rfl : r = .write _ := h
    exact fun _ now s hs => by cases hs
  | suppression c =>
    obtain rfl : r = .write _ := h
    trivial
  | ajoutEleve c e =>
    obtain rfl : r = .write _ := h
    exact fun _ now d hd => hd.writeFields (by simp) now
  | retraitEleve c e =>
    obtain rfl : r = .write _ := h
    exact fun _ now d hd => hd.writeFields (by simp) now

theorem issues_ajouterClasse (id : String) :
    (AjouterClasse.ajouterClasse () id).Issues fun _ r => SansEcole r := by
  refine .bind (fun _ => trivial) fun p => .ite (.bind trivial fun _ => ?_) trivial
  refine .ensuring (.catching (.bind (issues_ofExcept _) fun niveau => .bind ?_ fun _ => ?_) ?_) _
  · refine .ite trivial ((issues_ecrire _ _).mpr fun _ now s hs => ?_)
    cases hs
  · trivial
  · exact fun e => trivial

/-- What `ajouterEleves` asks for: reads, and a batch of updates of `classe` and `eleves`. -/
def EnvoiParClasse (r : Requete) : Prop :=
  Lecture r ∨ ∃ ws : List Ecriture, r = .commit ws ∧ ∀ w ∈ ws,
    (∃ e c, w = .update .eleves e [texte .classe c]) ∨ ∃ c l, w = .update .classes c [textes .eleves l]

theorem issues_ajouterEleves : AjouterElevesClasse.ajouterEleves.Issues fun _ r => EnvoiParClasse r := by
  refine .bind (fun _ => trivial) fun p => .ite trivial (.ite trivial (.bind ?_ fun doc => ?_))
  · exact (issues_lire _ _ _).mpr (Or.inl trivial)
  · refine .bind (issues_ofExcept _) fun currentEleves => .bind (fun _ => trivial) fun q => ?_
    refine .bind ((issues_call _ _).mpr (Or.inr ⟨_, rfl, fun w hw => ?_⟩)) fun _ => trivial
    rcases List.mem_append.mp hw with hw | hw
    · obtain ⟨e, -, rfl⟩ := List.mem_map.mp hw
      exact Or.inl ⟨e, p.classeId, rfl⟩
    · obtain rfl := List.mem_singleton.mp hw
      exact Or.inr ⟨q.classeId, _, rfl⟩

theorem EnvoiParClasse.sansEcole {r : Requete} (h : EnvoiParClasse r) : SansEcole r := by
  rcases h with h | ⟨ws, rfl, hws⟩
  · cases r with
    | get | query | pause | currentUser => trivial
    | _ => exact h.elim
  · intro w hw
    rcases hws w hw with ⟨e, c, rfl⟩ | ⟨c, l, rfl⟩
    · exact fun hc => by cases hc
    · exact fun _ now d hd => hd.textes .eleves l now

/-- No class ever names an establishment in the field `etablissement`. -/
theorem sansEtablissement_apresGestes {S : Server} {b : Base} (hb : SansClasseNiEleve b)
    (gs : List Geste) : Stored .classes (fun _ d => SansEtablissement d) (apresGestes S b gs) := by
  have hexec : ∀ {Λ σ : Type} {a : Action Λ σ Unit} (s : σ) (b : Base),
      a.Issues (fun _ r => SansEcole r) → Stored .classes (fun _ d => SansEtablissement d) b →
      Stored .classes (fun _ d => SansEtablissement d) (a.exec S.handler s b).2.2 :=
    fun s b ha hb => ha.exec (fun l r b hr hb => hb.handler hr) hb
  have hrun : ∀ b, Stored .classes (fun _ d => SansEtablissement d) b →
      Stored .classes (fun _ d => SansEtablissement d) (apresGestes S b gs) := by
    induction gs with
    | nil => exact fun b hb => hb
    | cons g gs ih =>
      intro b hb
      refine ih _ ?_
      cases g with
      | ajouterClasse p id => exact hexec p b (issues_ajouterClasse id) hb
      | ajouterEleves p =>
        exact hexec p b (issues_ajouterEleves.mono fun _ _ h => h.sansEcole) hb
      | ecran t ev =>
        show Stored _ _ (match t.on ev with
          | some p => (p.exec S.handler t b).2.2
          | none => b)
        rcases hon : t.on ev with _ | p
        · exact hb
        · exact hexec t b ((Pages.on_conforme hon).mono fun _ _ h => sansEcole_conforme h) hb
  refine hrun b fun id d hd => ?_
  rw [hb.classes] at hd
  cases hd

/-! ## What the page does -/

section Effet

variable {S : Server} {b b' : Base}

/-- The page never learns the establishment of its class. -/
theorem ends_fetchClasseData (hb : Stored .classes (fun _ d => SansEtablissement d) b)
    {p : AjouterElevesClasse} (hp : p.etablissementId = none) :
    AjouterElevesClasse.fetchClasseData.Ends S.handler (fun _ p' _ =>
      p'.etablissementId = none ∧ p'.classeId = p.classeId) p b := by
  unfold AjouterElevesClasse.fetchClasseData
  simp only [bind_eq]
  rw [ends_page_bind, ends_bind, ends_lire]
  refine ends_setState_bind.mpr ?_
  cases hd : b.doc .classes p.classeId with
  | none => exact ⟨rfl, rfl⟩
  | some d =>
    have hsans : SansEtablissement d := hb _ _ hd
    have hvaleur : ∀ v, (d.get .etablissement).optStr ≠ .ok (some v) := by
      intro v hv
      unfold Doc.get at hv
      rcases he : d .etablissement with _ | w
      · rw [he] at hv
        cases hv
      · rw [he] at hv
        cases w with
        | str s => exact hsans s he
        | _ => cases hv
    show Ends _ _ (Prog.bind (ofExcept (d.get .etablissement).optStr) _) _ _
    rcases hv : (d.get .etablissement).optStr with e | (_ | v)
    · exact ⟨hp, rfl⟩
    · exact ⟨rfl, rfl⟩
    · exact absurd hv (hvaleur v)

theorem offre_eq (hb : Stored .classes (fun _ d => SansEtablissement d) b) (c : String) :
    offre S b c = .ok [] := by
  have hpage : (pageOuverte S b c).etablissementId = none :=
    (ends_fetchClasseData (S := S) hb rfl).1
  unfold offre AjouterElevesClasse.fetchEligibleEleves
  simp only [bind_eq]
  show (Prog.exec S.handler (match (pageOuverte S b c).etablissementId with
    | none => _
    | some etablissementId => _) _ b).1 = _
  rw [hpage]
  rfl

theorem elevesDeClasse_of_sameField (h : SameField .classes .elevesIds b b') (c : String) :
    elevesDeClasse b' c = elevesDeClasse b c := by
  have hc := h c
  unfold elevesDeClasse
  rcases hd : b.doc .classes c with _ | d
  · rw [hd, Option.map_none, Option.map_eq_none_iff] at hc
    rw [hc]
  · rw [hd, Option.map_some, Option.map_eq_some_iff] at hc
    obtain ⟨d', hd', heq⟩ := hc
    rw [hd']
    exact congrArg strsOf heq

theorem classeDe_of_sameField (h : SameField .eleves .classeId b b') (e : String) :
    classeDe b' e = classeDe b e := by
  have he := h e
  unfold classeDe
  rcases hd : b.doc .eleves e with _ | d
  · rw [hd, Option.map_none, Option.map_eq_none_iff] at he
    rw [he]
  · rw [hd, Option.map_some, Option.map_eq_some_iff] at he
    obtain ⟨d', hd', heq⟩ := he
    rw [hd']
    exact congrArg (fun v => match v with
      | some (.str c) => some c
      | _ => none) heq

/-- A request of `ajouterEleves` changes no roster and no student's class. -/
theorem EnvoiParClasse.sameField {r : Requete} (h : EnvoiParClasse r) :
    SameField .classes .elevesIds b (S.handler r b).2 ∧
      SameField .eleves .classeId b (S.handler r b).2 := by
  rcases h with h | ⟨ws, rfl, hws⟩
  · rw [handler_lecture h]
    exact ⟨fun _ => rfl, fun _ => rfl⟩
  · refine ⟨sameField_commit fun w hw => ?_, sameField_commit fun w hw => ?_⟩
    · rcases hws w hw with ⟨e, c, rfl⟩ | ⟨c, l, rfl⟩
      · exact fun hc => by cases hc
      · exact fun _ => by simp [textes]
    · rcases hws w hw with ⟨e, c, rfl⟩ | ⟨c, l, rfl⟩
      · exact fun _ => by simp [texte]
      · exact fun hc => by cases hc

theorem inscrit_apresAjout_iff {c e : String} {selection : List String} :
    Inscrit (apresAjout S b c selection) c e ↔ Inscrit b c e := by
  have hstep : ∀ (l : Etape) (r : Requete) (b₁ : Base), EnvoiParClasse r →
      (SameField .classes .elevesIds b b₁ ∧ SameField .eleves .classeId b b₁) →
      SameField .classes .elevesIds b (S.handler r b₁).2 ∧
        SameField .eleves .classeId b (S.handler r b₁).2 := by
    intro l r b₁ hr hb₁
    obtain ⟨hliste, hclasse⟩ := hr.sameField (S := S) (b := b₁)
    exact ⟨hb₁.1.trans hliste, hb₁.2.trans hclasse⟩
  have hfin : SameField .classes .elevesIds b (apresAjout S b c selection) ∧
      SameField .eleves .classeId b (apresAjout S b c selection) :=
    issues_ajouterEleves.exec hstep ⟨fun _ => rfl, fun _ => rfl⟩
  have hliste := elevesDeClasse_of_sameField hfin.1 c
  have hclasse := classeDe_of_sameField hfin.2 e
  constructor
  · intro h
    exact ⟨hliste ▸ h.liste, hclasse ▸ h.classe⟩
  · intro h
    exact ⟨hliste.symm ▸ h.liste, hclasse.symm ▸ h.classe⟩

end Effet

/-- **Adding students from the page of a class.**  In a school whose classes and students were
created by the screens, the page offers whom it should and enrols whom it is given exactly if no
student of the establishment is without a class and those selected are already enrolled. -/
theorem inscritParClasse_iff (S : Server) {b : Base} (hb : SansClasseNiEleve b) (gs : List Geste)
    (c : String) (selection : List String) :
    InscritParClasse S (apresGestes S b gs) c selection ↔
      (∀ e, ¬SansClasse (apresGestes S b gs) c e) ∧
        ∀ e ∈ selection, Inscrit (apresGestes S b gs) c e := by
  have hoffre := offre_eq (S := S) (sansEtablissement_apresGestes (S := S) hb gs) c
  constructor
  · rintro ⟨⟨docs, hdocs, hmem⟩, hinscrits⟩
    rw [hoffre] at hdocs
    obtain rfl := Except.ok.inj hdocs
    refine ⟨fun e he => ?_, fun e he => inscrit_apresAjout_iff.mp (hinscrits e he)⟩
    exact List.not_mem_nil ((hmem e).mpr he)
  · rintro ⟨hsans, hinscrits⟩
    refine ⟨⟨[], hoffre, fun e => iff_of_false List.not_mem_nil (hsans e)⟩, fun e he => ?_⟩
    exact inscrit_apresAjout_iff.mpr (hinscrits e he)

/-! ### A student whose class is deleted -/

/-- A school with the role of students. -/
def ecoleAOuvrir : Base := baseVide.putDoc .roles "r" (newDoc 0 [texte .nom "eleve"])

theorem sansClasseNiEleve_ecoleAOuvrir : SansClasseNiEleve ecoleAOuvrir where
  classes _ := rfl
  eleves _ := rfl

/-- The form of a new student of the class `a`. -/
def nouvelEleve : AjoutEleve where
  etablissementId := "E"
  nom := "N"
  prenom := "P"
  email := "n@e"
  telephone := "0"
  adresse := "A"
  motDePasse := "secret"
  etablissement := some fun _ => none
  classeIdSelectionne := some "a"

def ecransOuverts : Pages where
  ajout := nouvelEleve
  edition := { idClasse := "a" }
  detail := { classeId := "a" }

/-- Two classes, and a student of the first one. -/
def deuxClassesUnEleve : List Geste :=
  [.ajouterClasse { etablissementId := "E", nom := "A", niveauSelectionne := some "6e" } "a",
    .ajouterClasse { etablissementId := "E", nom := "B", niveauSelectionne := some "6e" } "b",
    .ecran ecransOuverts .enregistrerEleve]

theorem inscritParClasse_deuxClasses : InscritParClasse (Server.longest 10)
    (apresGestes (Server.longest 10) ecoleAOuvrir deuxClassesUnEleve) "a" ["x"] := by
  refine (inscritParClasse_iff (Server.longest 10) sansClasseNiEleve_ecoleAOuvrir
    deuxClassesUnEleve "a" ["x"]).mpr ⟨fun e he => ?_, fun e he => ?_⟩
  · obtain ⟨⟨etablissementId, -, hecole⟩, hclasse⟩ := he
    obtain ⟨d, hd, -⟩ := Option.bind_eq_some_iff.mp hecole
    have hids : ((apresGestes (Server.longest 10) ecoleAOuvrir deuxClassesUnEleve).docs
        .eleves).rows.map Prod.fst = ["x"] := by
      decide +kernel
    have he : e ∈ ["x"] := by
      rw [← hids]
      exact List.mem_map_of_mem (f := Prod.fst) (Table.find_eq_some_iff.mp hd)
    obtain rfl := List.mem_singleton.mp he
    have hnone := hclasse "a" (by decide +kernel)
    have hsome : ((apresGestes (Server.longest 10) ecoleAOuvrir deuxClassesUnEleve).doc .classes
        "a").isSome = true := by
      decide +kernel
    rw [hnone] at hsome
    cases hsome
  · obtain rfl := List.mem_singleton.mp he
    exact ⟨by decide +kernel, by decide +kernel⟩

/-- The first class is deleted; the page of the second one does not offer its student. -/
theorem eleve_non_offert :
    ¬InscritParClasse (Server.longest 10) (apresGestes (Server.longest 10) ecoleAOuvrir
      (deuxClassesUnEleve ++ [.ecran ecransOuverts (.supprimerClasse "a" true)])) "b" [] := by
  rintro ⟨⟨docs, hdocs, hmem⟩, -⟩
  have hsans : SansClasse (apresGestes (Server.longest 10) ecoleAOuvrir
      (deuxClassesUnEleve ++ [.ecran ecransOuverts (.supprimerClasse "a" true)])) "b" "x" := by
    refine ⟨⟨"E", by decide +kernel, by decide +kernel⟩, fun c' hc' => ?_⟩
    have hclasse : classeDe (apresGestes (Server.longest 10) ecoleAOuvrir
        (deuxClassesUnEleve ++ [.ecran ecransOuverts (.supprimerClasse "a" true)])) "x" =
          some "a" := by
      decide +kernel
    obtain rfl := Option.some.inj (hclasse.symm.trans hc')
    rw [← Option.not_isSome_iff_eq_none]
    decide +kernel
  have hoffre : ((offre (Server.longest 10) (apresGestes (Server.longest 10) ecoleAOuvrir
      (deuxClassesUnEleve ++ [.ecran ecransOuverts (.supprimerClasse "a" true)])) "b").map
        (List.map Prod.fst)).toOption = some [] := by
    decide +kernel
  rw [hdocs] at hoffre
  have hvide : docs.map Prod.fst = [] := Option.some.inj hoffre
  have hoffert := (hmem "x").mpr hsans
  rw [hvide] at hoffert
  exact List.not_mem_nil hoffert

end EduConnect.Admin
