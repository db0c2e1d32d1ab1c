import EduConnect.Enseignant.Matieres
import EduConnect.Lib.Groups

/-!
# The dashboard of a teacher

`DashboardEnseignantPage` collects the subjects the teacher teaches under the names of the classes
that have them and list the teacher: classes of one name share a section.
-/

namespace EduConnect.Enseignant

open Lib Prog Donnees

structure MatiereAvecCoef where
  nom : String
  coefficient : Double

/-- `_DashboardEnseignantPageState`. -/
structure DashboardEnseignantPage where
  enseignant : UtilisateurModele
  loading : Bool := true
  etablissementNom : Option String := none
  enseignantId : Option String := none
  /-- The sections, in the order of the map. -/
  matieresParClasse : List (String × List MatiereAvecCoef) := []
  messages : List String := []

/-- A line of a section, with the class and the subject it stands for. -/
structure LigneTableau where
  classe : String
  matiere : String
  titre : String
  entree : MatiereAvecCoef

namespace DashboardEnseignantPage

/-- `etabDoc.get('nom')` as a `String?`. -/
def nomEtablissement (doc : Document) : Except Err (Option String) := do
  (← doc.field .nom).optStr

def chargerEtablissement : Action Unit DashboardEnseignantPage Unit := do
  let p ← page
  if p.enseignant.etablissementId = "" then ret ()
  else do
    match ← lire () .etablissements p.enseignant.etablissementId with
    | none => ret ()
    | some doc =>
      let nom ← ofExcept (nomEtablissement doc)
      setState fun p => { p with etablissementNom := nom }

/-- The body of the loop over the classes of a subject. -/
def ajouterClasse (enseignantId : String) (matiere : MatiereModele)
    (temp : List (String × List MatiereAvecCoef)) (classeDoc : String × Document) :
    Except Err (List (String × List MatiereAvecCoef)) := do
  let enseignantsIds ← (classeDoc.2.get .enseignantsIds).orStrs
  if enseignantId ∈ enseignantsIds then
    let classe ← ClasseModele.fromMap classeDoc.2 classeDoc.1
    return addGroup classe.nom ⟨matiere.nom, matiere.coefficient⟩ temp
  else return temp

/-- The loop over the subjects. -/
def chargerMatieres (enseignantId : String) :
    List String → List (String × List MatiereAvecCoef) →
      Action Unit DashboardEnseignantPage (List (String × List MatiereAvecCoef))
  | [], temp => ret temp
  | matiereId :: matiereIds, temp => do
    match ← lireDoc () .matieres matiereId with
    | none => chargerMatieres enseignantId matiereIds temp
    | some data =>
      let matiere ← ofExcept (MatiereModele.fromMap data (some matiereId))
      let classes ← chercher () .classes [.arrayContains .matieresIds matiereId]
      let temp ← ofExcept (classes.foldlM (ajouterClasse enseignantId matiere) temp)
      chargerMatieres enseignantId matiereIds temp

def initDashboard : Action Unit DashboardEnseignantPage Unit := do
  setState fun p => { p with loading := true }
  catching (do
    chargerEtablissement
    let p ← page
    match ← chercherPremier () .enseignants [.isEqualTo .utilisateurId (.str p.enseignant.id)] with
    | [] => setState fun p => { p with loading := false }
    | doc :: _ =>
      setState fun p => { p with enseignantId := some doc.1 }
      let enseignements ← chercher () .enseignements [.isEqualTo .enseignantId (.str doc.1)]
      let matiereIds ← ofExcept (enseignements.mapM fun e => (e.2.get .matiereId).asStr)
      let temp ← chargerMatieres doc.1 matiereIds.eraseDups []
      setState fun p => { p with matieresParClasse := temp, loading := false }) fun e =>
    setState fun p =>
      { p with loading := false
               messages := p.messages ++ ["Erreur lors du chargement : " ++ texteErreur e] }

end DashboardEnseignantPage

/-! ## What is loaded -/

section Chargement

variable (b : Base)

/-- The line of a class in the section of its name, if it lists the teacher. -/
def lignesClasse (enseignantId matiereId : String) (matiere : MatiereModele)
    (classeDoc : String × Document) : Except Err (List LigneTableau) := do
  let enseignantsIds ← (classeDoc.2.get .enseignantsIds).orStrs
  if enseignantId ∈ enseignantsIds then
    let classe ← ClasseModele.fromMap classeDoc.2 classeDoc.1
    return [⟨classeDoc.1, matiereId, classe.nom, ⟨matiere.nom, matiere.coefficient⟩⟩]
  else return []

/-- The classes that have the subject. -/
def classesDe (matiereId : String) : List (String × Document) :=
  (⟨[.arrayContains .matieresIds matiereId], none, none⟩ : Query Champ).run (b.docs .classes)

/-- The lines of a subject. -/
def lignesMatiere (enseignantId matiereId : String) : Except Err (List LigneTableau) :=
  if matiereId = "" then .error .invalidArgument
  else match b.doc .matieres matiereId with
    | none => .ok []
    | some data => do
      let matiere ← MatiereModele.fromMap data (some matiereId)
      return (← (classesDe b matiereId).mapM
        (lignesClasse enseignantId matiereId matiere)).flatten

/-- The name of the establishment can be read, if there is one. -/
def lireEtablissement (enseignant : UtilisateurModele) : Except Err Unit :=
  if enseignant.etablissementId = "" then .ok ()
  else match b.doc .etablissements enseignant.etablissementId with
    | none => .ok ()
    | some doc => (DashboardEnseignantPage.nomEtablissement doc).map fun _ => ()

/-- The subjects of the teacher's `enseignements`. -/
def matiereIdsDe (enseignantId : String) : Except Err (List String) :=
  ((⟨[.isEqualTo .enseignantId (.str enseignantId)], none, none⟩ : Query Champ).run
    (b.docs .enseignements)).mapM fun e => (e.2.get .matiereId).asStr

/-- The lines of all subjects the teacher teaches. -/
def lignesEnseignant (enseignantId : String) : Except Err (List LigneTableau) :=
  (matiereIdsDe b enseignantId).bind fun matiereIds =>
    (matiereIds.eraseDups.mapM (lignesMatiere b enseignantId)).map List.flatten

/-- What the page shows. -/
def chargement (enseignant : UtilisateurModele) : Except Err (List LigneTableau) := do
  lireEtablissement b enseignant
  match enseignantDe b enseignant.id with
  | none => return []
  | some enseignantId => lignesEnseignant b enseignantId

/-- A line put in its section. -/
def rangerLigne (temp : List (String × List MatiereAvecCoef)) (x : LigneTableau) :
    List (String × List MatiereAvecCoef) := addGroup x.titre x.entree temp

end Chargement

/-- A fallible loop whose turns add lines to the accumulator. -/
theorem foldlM_of_lignes {ε α β γ : Type} {f : γ → α → Except ε γ} {g : α → Except ε (List β)}
    {add : γ → β → γ} (h : ∀ c a, f c a = (g a).map fun ys => ys.foldl add c) (l : List α) (c : γ) :
    l.foldlM f c = (l.mapM g).map fun yss => yss.flatten.foldl add c := by
  induction l generalizing c with
  | nil => rfl
  | cons a l ih =>
    rw [List.foldlM_cons, List.mapM_cons, h]
    rcases g a with e | ys
    · rfl
    · show l.foldlM f (ys.foldl add c) = _
      rw [ih]
      rcases l.mapM g with e | yss
      · rfl
      · show Except.ok (yss.flatten.foldl add (ys.foldl add c)) =
          Except.ok ((ys :: yss).flatten.foldl add c)
        rw [List.flatten_cons, List.foldl_append]

theorem ajouterClasse_eq (t m : String) (matiere : MatiereModele)
    (temp : List (String × List MatiereAvecCoef)) (doc : String × Document) :
    DashboardEnseignantPage.ajouterClasse t matiere temp doc =
      (lignesClasse t m matiere doc).map fun xs => xs.foldl rangerLigne temp := by
  unfold DashboardEnseignantPage.ajouterClasse lignesClasse
  rcases (doc.2.get .enseignantsIds).orStrs with e | enseignantsIds
  · rfl
  · change (if t ∈ enseignantsIds then _ else _) =
      Except.map _ (if t ∈ enseignantsIds then _ else _)
    by_cases ht : t ∈ enseignantsIds
    · rw [if_pos ht, if_pos ht]
      rcases ClasseModele.fromMap doc.2 doc.1 with e | classe <;> rfl
    · rw [if_neg ht, if_neg ht]
      rfl

theorem lignesMatiere_of_none {b : Base} {t m : String} (hm : m ≠ "")
    (hd : b.doc .matieres m = none) : lignesMatiere b t m = .ok [] := by
  rw [lignesMatiere, if_neg hm, hd]

theorem lignesMatiere_of_some {b : Base} {t m : String} {data : Document} (hm : m ≠ "")
    (hd : b.doc .matieres m = some data) :
    lignesMatiere b t m = (MatiereModele.fromMap data (some m)).bind fun matiere =>
      ((classesDe b m).mapM (lignesClasse t m matiere)).map List.flatten := by
  rw [lignesMatiere, if_neg hm, hd]
  show Except.bind (MatiereModele.fromMap data (some m)) _ = _
  rcases MatiereModele.fromMap data (some m) with e | matiere
  · rfl
  · show Except.bind ((classesDe b m).mapM (lignesClasse t m matiere)) _ = Except.map _ _
    rcases (classesDe b m).mapM (lignesClasse t m matiere) with e | yss <;> rfl

/-- The loop adds the lines of its subjects. -/
theorem exec_chargerMatieres {S : Server} {b : Base} (t : String) (ms : List String)
    (temp : List (String × List MatiereAvecCoef)) (p : DashboardEnseignantPage) :
    (DashboardEnseignantPage.chargerMatieres t ms temp).exec S.handler p b =
      ((ms.mapM (lignesMatiere b t)).map fun xss => xss.flatten.foldl rangerLigne temp, p, b) := by
  induction ms generalizing temp with
  | nil => rfl
  | cons m ms ih =>
    rw [List.mapM_cons, DashboardEnseignantPage.chargerMatieres]
    by_cases hm : m = ""
    · rw [lignesMatiere, if_pos hm, lireDoc, if_pos hm]
      rfl
    · rw [lireDoc, if_neg hm, bind_eq, exec_lire_bind]
      rcases hd : b.doc .matieres m with _ | data
      · rw [lignesMatiere_of_none hm hd]
        refine (ih temp).trans ?_
        rcases ms.mapM (lignesMatiere b t) with e | xss <;> rfl
      · rw [lignesMatiere_of_some hm hd]
        show (Prog.bind (ofExcept (MatiereModele.fromMap data (some m))) _).exec S.handler p b = _
        rw [exec_ofExcept_bind]
        rcases MatiereModele.fromMap data (some m) with e | matiere
        · rfl
        · show (Prog.bind (chercher () .classes _) _).exec S.handler p b = _
          rw [exec_bind, exec_chercher rfl]
          show (Prog.bind (ofExcept (List.foldlM _ _ (classesDe b m))) _).exec S.handler p b = _
          rw [exec_ofExcept_bind, foldlM_of_lignes (ajouterClasse_eq t m matiere)]
          show _ = (Except.map _ (Except.bind (Except.map List.flatten
            ((classesDe b m).mapM (lignesClasse t m matiere))) _), p, b)
          rcases (classesDe b m).mapM (lignesClasse t m matiere) with e | yss
          · rfl
          · refine (ih _).trans ?_
            rcases ms.mapM (lignesMatiere b t) with e | xss
            · rfl
            · show (Except.ok (xss.flatten.foldl rangerLigne (yss.flatten.foldl rangerLigne temp)),
                p, b) = (Except.ok ((yss.flatten :: xss).flatten.foldl rangerLigne temp), p, b)
              rw [List.flatten_cons, List.foldl_append]

/-- The sections after the load; an error leaves none. -/
def sectionsDe (b : Base) (enseignant : UtilisateurModele) : List (String × List MatiereAvecCoef) :=
  match chargement b enseignant with
  | .ok xs => groups (xs.map fun x => (x.titre, x.entree))
  | .error _ => []

theorem foldl_rangerLigne (xs : List LigneTableau) :
    xs.foldl rangerLigne [] = groups (xs.map fun x => (x.titre, x.entree)) := by
  rw [groups, List.foldl_map]
  rfl

theorem exec_chargerEtablissement {S : Server} {b : Base} (p : DashboardEnseignantPage) :
    ∃ nom, DashboardEnseignantPage.chargerEtablissement.exec S.handler p b =
      (lireEtablissement b p.enseignant, { p with etablissementNom := nom }, b) := by
  unfold DashboardEnseignantPage.chargerEtablissement lireEtablissement
  rw [bind_eq]
  show ∃ nom, (if p.enseignant.etablissementId = "" then _ else _ :
    Action Unit DashboardEnseignantPage Unit).exec S.handler p b = _
  by_cases hvide : p.enseignant.etablissementId = ""
  · rw [if_pos hvide, if_pos hvide]
    exact ⟨p.etablissementNom, rfl⟩
  · rw [if_neg hvide, if_neg hvide, bind_eq, exec_lire_bind]
    rcases b.doc .etablissements p.enseignant.etablissementId with _ | doc
    · exact ⟨p.etablissementNom, rfl⟩
    · show ∃ nom, (Prog.bind (ofExcept (DashboardEnseignantPage.nomEtablissement doc)) _).exec
        S.handler p b = (Except.map _ (DashboardEnseignantPage.nomEtablissement doc), _, b)
      rw [exec_ofExcept_bind]
      rcases DashboardEnseignantPage.nomEtablissement doc with e | nom
      · exact ⟨p.etablissementNom, rfl⟩
      · exact ⟨nom, rfl⟩

/-- **What the page shows after the load.** -/
theorem ends_initDashboard {S : Server} {b : Base} {p : DashboardEnseignantPage}
    (hp : p.matieresParClasse = []) :
    DashboardEnseignantPage.initDashboard.Ends S.handler
      (fun _ p' _ => p'.matieresParClasse = sectionsDe b p.enseignant) p b := by
  unfold DashboardEnseignantPage.initDashboard
  refine ends_setState_bind.mpr (ends_catching.mpr ?_)
  obtain ⟨nom, hetab⟩ := exec_chargerEtablissement (S := S) (b := b) { p with loading := true }
  rcases hlu : lireEtablissement b p.enseignant with e | ⟨⟩
  · rw [show lireEtablissement b ({ p with loading := true } : DashboardEnseignantPage).enseignant =
      .error e from hlu] at hetab
    refine (ends_bind_of_exec_error hetab).mpr ?_
    show p.matieresParClasse = _
    rw [hp, sectionsDe, chargement, hlu]
    rfl
  · rw [show lireEtablissement b ({ p with loading := true } : DashboardEnseignantPage).enseignant =
      .ok () from hlu] at hetab
    refine (ends_bind_of_exec hetab).mpr (ends_page_bind.mpr ?_)
    refine ends_chercherPremier_bind (fun _ => ?_) fun h => (by cases h)
    show Prog.Ends _ _ (match (⟨[.isEqualTo .utilisateurId (.str p.enseignant.id)], none, some 1⟩ :
      Query Champ).run (b.docs .enseignants) with
      | [] => _
      | doc :: _ => _) _ _
    rcases hdocs : (⟨[.isEqualTo .utilisateurId (.str p.enseignant.id)], none, some 1⟩ :
      Query Champ).run (b.docs .enseignants) with _ | ⟨doc, docs⟩
    · show p.matieresParClasse = _
      rw [hp, sectionsDe, chargement, hlu, enseignantDe, hdocs]
      rfl
    · have hde : enseignantDe b p.enseignant.id = some doc.1 := by
        rw [enseignantDe, hdocs]
        rfl
      have hchargement : chargement b p.enseignant = lignesEnseignant b doc.1 := by
        rw [chargement, hlu, hde]
        rfl
      refine ends_setState_bind.mpr (ends_chercher_bind (fun _ => ?_) fun h => (by cases h))
      show Prog.Ends _ _ (Prog.bind (ofExcept (matiereIdsDe b doc.1)) _) _ _
      rcases hids : matiereIdsDe b doc.1 with e | matiereIds
      · show p.matieresParClasse = _
        rw [hp, sectionsDe, hchargement, lignesEnseignant, hids]
        rfl
      · show Prog.Ends _ _ (Prog.bind (DashboardEnseignantPage.chargerMatieres doc.1
          matiereIds.eraseDups []) _) _ _
        have hexec := exec_chargerMatieres (S := S) (b := b) doc.1 matiereIds.eraseDups []
        have hlignes : chargement b p.enseignant =
            (matiereIds.eraseDups.mapM (lignesMatiere b doc.1)).map List.flatten := by
          rw [hchargement, lignesEnseignant, hids]
          rfl
        rcases hxss : matiereIds.eraseDups.mapM (lignesMatiere b doc.1) with e | xss
        · rw [hxss] at hexec hlignes
          refine (ends_bind_of_exec_error (hexec _)).mpr ?_
          show p.matieresParClasse = _
          rw [hp, sectionsDe, hlignes]
          rfl
        · rw [hxss] at hexec hlignes
          refine (ends_bind_of_exec (hexec _)).mpr ?_
          show xss.flatten.foldl rangerLigne [] = _
          rw [foldl_rangerLigne, sectionsDe, hlignes]
          rfl

/-! ## The lines -/

section Lignes

variable {b : Base} {t m : String}

/-- The teacher `t` teaches the subject. -/
def EnseigneePar (b : Base) (t m : String) : Prop :=
  ∃ id d, b.doc .enseignements id = some d ∧ d .enseignantId = some (.str t) ∧
    d .matiereId = some (.str m)

/-- The name the class is shown under. -/
def TitreDe (b : Base) (c titre : String) : Prop :=
  ∃ d classe, b.doc .classes c = some d ∧ ClasseModele.fromMap d c = .ok classe ∧
    titre = classe.nom

/-- What the subject is shown as. -/
def EntreeDe (b : Base) (m : String) (entree : MatiereAvecCoef) : Prop :=
  ∃ d matiere, b.doc .matieres m = some d ∧ MatiereModele.fromMap d (some m) = .ok matiere ∧
    entree = ⟨matiere.nom, matiere.coefficient⟩

/-- The class has the subject and lists the teacher. -/
def ClasseAvec (b : Base) (t c m : String) : Prop :=
  ∃ d, b.doc .classes c = some d ∧ m ∈ strsOf (d .matieresIds) ∧ t ∈ strsOf (d .enseignantsIds)

/-- The class document can be read as far as the page does. -/
def LectureClasse (t c : String) (d : Document) : Prop :=
  ∃ l, (d.get .enseignantsIds).orStrs = .ok l ∧
    (t ∈ l → ∃ classe, ClasseModele.fromMap d c = .ok classe)

theorem exists_lignesClasse_iff {matiere : MatiereModele} {doc : String × Document} :
    (∃ ys, lignesClasse t m matiere doc = .ok ys) ↔ LectureClasse t doc.1 doc.2 := by
  unfold lignesClasse LectureClasse
  rcases (doc.2.get .enseignantsIds).orStrs with e | l
  · exact ⟨fun ⟨_, h⟩ => (by cases h), fun ⟨_, h, _⟩ => (by cases h)⟩
  · show (∃ ys, (if t ∈ l then _ else _) = Except.ok ys) ↔ _
    by_cases ht : t ∈ l
    · rw [if_pos ht]
      rcases ClasseModele.fromMap doc.2 doc.1 with e | classe
      · refine ⟨fun ⟨_, h⟩ => (by cases h), ?_⟩
        rintro ⟨l', hl', h⟩
        obtain rfl := Except.ok.inj hl'
        obtain ⟨_, h⟩ := h ht
        cases h
      · exact ⟨fun _ => ⟨l, rfl, fun _ => ⟨classe, rfl⟩⟩, fun _ => ⟨_, rfl⟩⟩
    · rw [if_neg ht]
      exact ⟨fun _ => ⟨l, rfl, fun h => absurd h ht⟩, fun _ => ⟨_, rfl⟩⟩

theorem mem_lignesClasse {matiere : MatiereModele} {doc : String × Document}
    {ys : List LigneTableau} (h : lignesClasse t m matiere doc = .ok ys) {x : LigneTableau} :
    x ∈ ys ↔ t ∈ strsOf (doc.2 .enseignantsIds) ∧
      ∃ classe, ClasseModele.fromMap doc.2 doc.1 = .ok classe ∧
        x = ⟨doc.1, m, classe.nom, ⟨matiere.nom, matiere.coefficient⟩⟩ := by
  obtain ⟨l, hl, hsuite⟩ := bind_eq_ok_iff.mp h
  rw [strsOf_of_orStrs hl]
  by_cases ht : t ∈ l
  · rw [if_pos ht] at hsuite
    obtain ⟨classe, hclasse, hys⟩ := bind_eq_ok_iff.mp hsuite
    obtain rfl := Except.ok.inj hys
    rw [List.mem_singleton, hclasse]
    constructor
    · rintro rfl
      exact ⟨ht, classe, rfl, rfl⟩
    · rintro ⟨-, classe', hclasse', rfl⟩
      obtain rfl := Except.ok.inj hclasse'
      rfl
  · rw [if_neg ht] at hsuite
    obtain rfl := Except.ok.inj hsuite
    exact ⟨fun hx => absurd hx List.not_mem_nil, fun hx => absurd hx.1 ht⟩

/-- The lines of a subject are of the classes that have it and list the teacher. -/
theorem mem_lignesMatiere {ys : List LigneTableau} (h : lignesMatiere b t m = .ok ys)
    {x : LigneTableau} : x ∈ ys ↔ x.matiere = m ∧ ClasseAvec b t x.classe m ∧
      TitreDe b x.classe x.titre ∧ EntreeDe b m x.entree := by
  have hm : m ≠ "" := by
    rintro rfl
    cases h
  rcases hd : b.doc .matieres m with _ | data
  · rw [lignesMatiere_of_none hm hd] at h
    obtain rfl := Except.ok.inj h
    refine ⟨fun hx => absurd hx List.not_mem_nil, ?_⟩
    rintro ⟨-, -, -, d, _, hd', -⟩
    rw [hd] at hd'
    cases hd'
  · rw [lignesMatiere_of_some hm hd] at h
    obtain ⟨matiere, hmatiere, h⟩ := bind_eq_ok_iff.mp h
    rcases hyss : (classesDe b m).mapM (lignesClasse t m matiere) with e | yss
    · rw [hyss] at h
      cases h
    rw [hyss] at h
    obtain rfl := Except.ok.inj h
    rw [List.mem_flatten]
    constructor
    · rintro ⟨zs, hzs, hx⟩
      obtain ⟨⟨c, d⟩, hdoc, hlignes⟩ := exists_of_mem_mapM hyss hzs
      obtain ⟨ht, classe, hclasse, rfl⟩ := (mem_lignesClasse hlignes).mp hx
      obtain ⟨hc, hfiltre⟩ := Query.mem_run.mp hdoc
      have hmatieres := Filter.sat_arrayContains.mp (hfiltre _ List.mem_cons_self)
      exact ⟨rfl, ⟨d, hc, hmatieres, ht⟩, ⟨d, classe, hc, hclasse, rfl⟩, data, matiere, hd,
        hmatiere, rfl⟩
    · obtain ⟨c, m', titre, entree⟩ := x
      rintro ⟨rfl, ⟨d, hc, hmatieres, ht⟩, ⟨d', classe, hc', hclasse, rfl⟩, data', matiere', hd',
        hmatiere', rfl⟩
      obtain rfl : d' = d := Option.some.inj (hc'.symm.trans hc)
      obtain rfl : data' = data := Option.some.inj (hd'.symm.trans hd)
      obtain rfl : matiere' = matiere := Except.ok.inj (hmatiere'.symm.trans hmatiere)
      have hdoc : (c, d') ∈ classesDe b m' := by
        refine Query.mem_run.mpr ⟨hc, fun f hf => ?_⟩
        rw [List.mem_singleton.mp hf]
        exact Filter.sat_arrayContains.mpr hmatieres
      obtain ⟨zs, hzs, hlignes⟩ := exists_mem_of_mapM hyss hdoc
      exact ⟨zs, hzs, (mem_lignesClasse hlignes).mpr ⟨ht, classe, hclasse, rfl⟩⟩

theorem mem_classesDe {c : String} {d : Document} :
    (c, d) ∈ classesDe b m ↔ b.doc .classes c = some d ∧ m ∈ strsOf (d .matieresIds) := by
  refine Query.mem_run.trans (and_congr_right' ?_)
  rw [List.forall_mem_singleton, Filter.sat_arrayContains]

theorem exists_lignesMatiere_iff :
    (∃ ys, lignesMatiere b t m = .ok ys) ↔ m ≠ "" ∧ ∀ data, b.doc .matieres m = some data →
      (∃ matiere, MatiereModele.fromMap data (some m) = .ok matiere) ∧
        ∀ c d, b.doc .classes c = some d → m ∈ strsOf (d .matieresIds) → LectureClasse t c d := by
  by_cases hm : m = ""
  · rw [lignesMatiere, if_pos hm]
    exact ⟨fun ⟨_, h⟩ => (by cases h), fun h => absurd hm h.1⟩
  rcases hd : b.doc .matieres m with _ | data
  · rw [lignesMatiere_of_none hm hd]
    exact ⟨fun _ => ⟨hm, fun _ h => (by cases h)⟩, fun _ => ⟨[], rfl⟩⟩
  · rw [lignesMatiere_of_some hm hd]
    constructor
    · rintro ⟨ys, h⟩
      obtain ⟨matiere, hmatiere, h⟩ := bind_eq_ok_iff.mp h
      refine ⟨hm, fun data' hd' => ?_⟩
      obtain rfl := Option.some.inj hd'
      refine ⟨⟨matiere, hmatiere⟩, fun c d hc hcm => ?_⟩
      rcases hyss : (classesDe b m).mapM (lignesClasse t m matiere) with e | yss
      · rw [hyss] at h
        cases h
      · have hlignes := exists_mapM_iff.mp ⟨yss, hyss⟩ (c, d) (mem_classesDe.mpr ⟨hc, hcm⟩)
        exact exists_lignesClasse_iff.mp hlignes
    · rintro ⟨-, h⟩
      obtain ⟨⟨matiere, hmatiere⟩, hclasses⟩ := h data rfl
      have hyss : ∃ yss, (classesDe b m).mapM (lignesClasse t m matiere) = .ok yss := by
        refine exists_mapM_iff.mpr fun ⟨c, d⟩ hdoc => ?_
        obtain ⟨hc, hcm⟩ := mem_classesDe.mp hdoc
        exact exists_lignesClasse_iff.mpr (hclasses c d hc hcm)
      obtain ⟨yss, hyss⟩ := hyss
      refine ⟨yss.flatten, ?_⟩
      rw [hmatiere]
      show Except.map _ ((classesDe b m).mapM (lignesClasse t m matiere)) = _
      rw [hyss]
      rfl

theorem mem_matiereIdsDe {ids : List String} (h : matiereIdsDe b t = .ok ids) :
    m ∈ ids ↔ EnseigneePar b t m := by
  constructor
  · intro hm
    obtain ⟨⟨id, d⟩, hdoc, hid⟩ := exists_of_mem_mapM h hm
    obtain ⟨hd, ht⟩ := Query.mem_run_isEqualTo.mp hdoc
    exact ⟨id, d, hd, ht, Doc.asStr_get_iff.mp hid⟩
  · rintro ⟨id, d, hd, ht, hid⟩
    obtain ⟨m', hm', hdoc⟩ := exists_mem_of_mapM h (Query.mem_run_isEqualTo.mpr ⟨hd, ht⟩)
    obtain rfl : m' = m := by
      have hval := hid.symm.trans (Doc.asStr_get_iff.mp hdoc)
      exact (Value.str.inj (Option.some.inj hval)).symm
    exact hm'

/-- The classes of the lines of a subject are distinct. -/
theorem nodup_lignesMatiere {ys : List LigneTableau} (h : lignesMatiere b t m = .ok ys) :
    (ys.map LigneTableau.classe).Nodup := by
  have hm : m ≠ "" := by
    rintro rfl
    cases h
  rcases hd : b.doc .matieres m with _ | data
  · rw [lignesMatiere_of_none hm hd] at h
    obtain rfl := Except.ok.inj h
    exact List.nodup_nil
  · rw [lignesMatiere_of_some hm hd] at h
    obtain ⟨matiere, -, h⟩ := bind_eq_ok_iff.mp h
    rcases hyss : (classesDe b m).mapM (lignesClasse t m matiere) with e | yss
    · rw [hyss] at h
      cases h
    rw [hyss] at h
    obtain rfl := Except.ok.inj h
    refine nodup_flatten_of_mapM hyss (Query.keys_run_nodup _ _) (fun _ _ hxy => hxy) ?_
    intro doc zs hzs
    refine ⟨?_, fun x hx => ?_⟩
    · obtain ⟨l, -, hsuite⟩ := bind_eq_ok_iff.mp hzs
      by_cases ht : t ∈ l
      · rw [if_pos ht] at hsuite
        obtain ⟨classe, -, hys⟩ := bind_eq_ok_iff.mp hsuite
        obtain rfl := Except.ok.inj hys
        exact List.nodup_singleton _
      · rw [if_neg ht] at hsuite
        obtain rfl := Except.ok.inj hsuite
        exact List.nodup_nil
    · obtain ⟨-, classe, -, rfl⟩ := (mem_lignesClasse hzs).mp hx
      rfl

/-- A class and a subject have one line at most. -/
theorem nodup_lignesEnseignant {xs : List LigneTableau} (h : lignesEnseignant b t = .ok xs) :
    (xs.map fun x => (x.classe, x.matiere)).Nodup := by
  obtain ⟨ids, -, h⟩ := bind_eq_ok_iff.mp h
  rcases hxss : ids.eraseDups.mapM (lignesMatiere b t) with e | xss
  · rw [hxss] at h
    cases h
  rw [hxss] at h
  obtain rfl := Except.ok.inj h
  refine nodup_flatten_of_mapM (g := id) (o := LigneTableau.matiere) hxss ?_ ?_ ?_
  · rw [List.map_id]
    exact nodup_eraseDups ids
  · intro x y hxy
    exact congrArg Prod.snd hxy
  · intro m ys hys
    refine ⟨?_, fun x hx => ((mem_lignesMatiere hys).mp hx).1⟩
    refine List.Nodup.of_map Prod.fst ?_
    rw [List.map_map]
    exact nodup_lignesMatiere hys

theorem mem_lignesEnseignant {xs : List LigneTableau} (h : lignesEnseignant b t = .ok xs)
    {x : LigneTableau} : x ∈ xs ↔ EnseigneePar b t x.matiere ∧ ClasseAvec b t x.classe x.matiere ∧
      TitreDe b x.classe x.titre ∧ EntreeDe b x.matiere x.entree := by
  obtain ⟨ids, hids, h⟩ := bind_eq_ok_iff.mp h
  rcases hxss : ids.eraseDups.mapM (lignesMatiere b t) with e | xss
  · rw [hxss] at h
    cases h
  rw [hxss] at h
  obtain rfl := Except.ok.inj h
  rw [List.mem_flatten]
  constructor
  · rintro ⟨ys, hys, hx⟩
    obtain ⟨m, hm, hlignes⟩ := exists_of_mem_mapM hxss hys
    obtain ⟨rfl, hreste⟩ := (mem_lignesMatiere hlignes).mp hx
    exact ⟨(mem_matiereIdsDe hids).mp (List.mem_eraseDups.mp hm), hreste⟩
  · rintro ⟨hm, hreste⟩
    have hmem := List.mem_eraseDups.mpr ((mem_matiereIdsDe hids).mpr hm)
    obtain ⟨ys, hys, hlignes⟩ := exists_mem_of_mapM hxss hmem
    exact ⟨ys, hys, (mem_lignesMatiere hlignes).mpr ⟨rfl, hreste⟩⟩

end Lignes

/-! ## What can be read -/

/-- What the page reads of a teacher's subjects and classes can be read. -/
structure EnseignementsLisibles (b : Base) (t : String) : Prop where
  enseignement : ∀ id d, b.doc .enseignements id = some d → d .enseignantId = some (.str t) →
    ∃ m, m ≠ "" ∧ d .matiereId = some (.str m)
  matiere : ∀ m d, EnseigneePar b t m → b.doc .matieres m = some d →
    ∃ matiere, MatiereModele.fromMap d (some m) = .ok matiere
  classe : ∀ m data c d, EnseigneePar b t m → b.doc .matieres m = some data →
    b.doc .classes c = some d → m ∈ strsOf (d .matieresIds) → LectureClasse t c d

/-- What the page reads can be read. -/
structure TableauLisible (b : Base) (enseignant : UtilisateurModele) : Prop where
  etablissement : ∀ d, enseignant.etablissementId ≠ "" →
    b.doc .etablissements enseignant.etablissementId = some d →
      ∃ nom, DashboardEnseignantPage.nomEtablissement d = .ok nom
  enseignements : ∀ t, enseignantDe b enseignant.id = some t → EnseignementsLisibles b t

section Lecture

variable {b : Base} {t : String} {enseignant : UtilisateurModele}

theorem exists_lignesEnseignant_iff :
    (∃ xs, lignesEnseignant b t = .ok xs) ↔ EnseignementsLisibles b t := by
  have hxss : ∀ ids, matiereIdsDe b t = .ok ids → ((∃ xs, lignesEnseignant b t = .ok xs) ↔
      ∀ m, EnseigneePar b t m → ∃ ys, lignesMatiere b t m = .ok ys) := by
    intro ids hids
    have hmem : ∀ m, EnseigneePar b t m ↔ m ∈ ids.eraseDups := fun m =>
      (mem_matiereIdsDe hids).symm.trans List.mem_eraseDups.symm
    simp only [hmem]
    rw [← exists_mapM_iff, lignesEnseignant, hids]
    show (∃ xs, Except.map List.flatten _ = Except.ok xs) ↔ _
    rcases ids.eraseDups.mapM (lignesMatiere b t) with e | xss
    · exact ⟨fun ⟨_, h⟩ => (by cases h), fun ⟨_, h⟩ => (by cases h)⟩
    · exact ⟨fun _ => ⟨xss, rfl⟩, fun _ => ⟨xss.flatten, rfl⟩⟩
  constructor
  · rintro ⟨xs, h⟩
    obtain ⟨ids, hids, -⟩ := bind_eq_ok_iff.mp h
    have hlues := (hxss ids hids).mp ⟨xs, h⟩
    refine ⟨fun id d hd ht => ?_, fun m d hm hd => ?_, fun m data c d hm hdata hc hcm => ?_⟩
    · obtain ⟨m, hm⟩ := exists_mapM_isEqualTo.mp ⟨ids, hids⟩ id d hd ht
      have hval := Doc.asStr_get_iff.mp hm
      exact ⟨m, (exists_lignesMatiere_iff.mp (hlues m ⟨id, d, hd, ht, hval⟩)).1, hval⟩
    · exact ((exists_lignesMatiere_iff.mp (hlues m hm)).2 d hd).1
    · exact ((exists_lignesMatiere_iff.mp (hlues m hm)).2 data hdata).2 c d hc hcm
  · intro hlisible
    have hids : ∃ ids, matiereIdsDe b t = .ok ids := by
      refine exists_mapM_isEqualTo.mpr fun id d hd ht => ?_
      obtain ⟨m, -, hm⟩ := hlisible.enseignement id d hd ht
      exact ⟨m, Doc.asStr_get_iff.mpr hm⟩
    obtain ⟨ids, hids⟩ := hids
    refine (hxss ids hids).mpr fun m hm => exists_lignesMatiere_iff.mpr ⟨?_, fun data hdata => ?_⟩
    · obtain ⟨id, d, hd, ht, hval⟩ := hm
      obtain ⟨m', hm', hval'⟩ := hlisible.enseignement id d hd ht
      obtain rfl := Value.str.inj (Option.some.inj (hval.symm.trans hval'))
      exact hm'
    · exact ⟨hlisible.matiere m data hm hdata,
        fun c d hc hcm => hlisible.classe m data c d hm hdata hc hcm⟩

theorem exists_lireEtablissement_iff :
    lireEtablissement b enseignant = .ok () ↔ ∀ d, enseignant.etablissementId ≠ "" →
      b.doc .etablissements enseignant.etablissementId = some d →
        ∃ nom, DashboardEnseignantPage.nomEtablissement d = .ok nom := by
  unfold lireEtablissement
  by_cases hvide : enseignant.etablissementId = ""
  · rw [if_pos hvide]
    exact ⟨fun _ _ h => absurd hvide h, fun _ => rfl⟩
  · rw [if_neg hvide]
    rcases b.doc .etablissements enseignant.etablissementId with _ | doc
    · exact ⟨fun _ _ _ h => (by cases h), fun _ => rfl⟩
    · show Except.map _ (DashboardEnseignantPage.nomEtablissement doc) = _ ↔ _
      constructor
      · intro h d _ hd
        obtain rfl := Option.some.inj hd
        rcases hnom : DashboardEnseignantPage.nomEtablissement doc with e | nom
        · rw [hnom] at h
          cases h
        · exact ⟨nom, rfl⟩
      · intro h
        obtain ⟨nom, hnom⟩ := h doc hvide rfl
        rw [hnom]
        rfl

theorem chargement_of_some {t : String} (ht : enseignantDe b enseignant.id = some t) :
    chargement b enseignant =
      (lireEtablissement b enseignant).bind fun _ => lignesEnseignant b t := by
  rw [chargement, ht]
  rfl

theorem exists_chargement_iff :
    (∃ xs, chargement b enseignant = .ok xs) ↔ TableauLisible b enseignant := by
  constructor
  · rintro ⟨xs, h⟩
    obtain ⟨⟨⟩, hlu, h⟩ := bind_eq_ok_iff.mp h
    refine ⟨exists_lireEtablissement_iff.mp hlu, fun t ht => ?_⟩
    rw [ht] at h
    exact exists_lignesEnseignant_iff.mp ⟨xs, h⟩
  · rintro ⟨hetab, hens⟩
    have hlu := exists_lireEtablissement_iff.mpr hetab
    rcases ht : enseignantDe b enseignant.id with _ | t
    · refine ⟨[], ?_⟩
      rw [chargement, hlu, ht]
      rfl
    · obtain ⟨xs, hxs⟩ := exists_lignesEnseignant_iff.mpr (hens t ht)
      exact ⟨xs, by rw [chargement_of_some ht, hlu]; exact hxs⟩

end Lecture

/-! ## The sections -/

section Sections

variable {b : Base} {e : UtilisateurModele} {c m : String}

/-- The class lists the teacher and has the subject, which exists and which the teacher teaches. -/
def Montree (b : Base) (e : UtilisateurModele) (c m : String) : Prop :=
  ∃ t, enseignantDe b e.id = some t ∧ EnseigneePar b t m ∧ (∃ d, b.doc .matieres m = some d) ∧
    ClasseAvec b t c m

/-- The section is the class's: its name, and each of the teacher's subjects in it once. -/
def SectionDe (b : Base) (e : UtilisateurModele) (c : String)
    (s : String × List MatiereAvecCoef) : Prop :=
  TitreDe b c s.1 ∧ ∃ ms : List String, ms.Nodup ∧ (∀ m, m ∈ ms ↔ Montree b e c m) ∧
    List.Forall₂ (EntreeDe b) ms s.2

/-- Each class has its section, and no other section is shown. -/
def UneParClasse (b : Base) (e : UtilisateurModele)
    (sections : List (String × List MatiereAvecCoef)) : Prop :=
  ∃ cs : List String, cs.Nodup ∧ (∀ c, c ∈ cs ↔ ∃ m, Montree b e c m) ∧
    List.Forall₂ (SectionDe b e) cs sections

/-- The classes of the teacher have names of their own. -/
def NomsDistincts (b : Base) (e : UtilisateurModele) : Prop :=
  ∀ c m c' m' titre, Montree b e c m → Montree b e c' m' → TitreDe b c titre →
    TitreDe b c' titre → c = c'

theorem TitreDe.unique {titre titre' : String} (h : TitreDe b c titre) (h' : TitreDe b c titre') :
    titre = titre' := by
  obtain ⟨d, classe, hd, hclasse, rfl⟩ := h
  obtain ⟨d', classe', hd', hclasse', rfl⟩ := h'
  obtain rfl := Option.some.inj (hd.symm.trans hd')
  obtain rfl := Except.ok.inj (hclasse.symm.trans hclasse')
  rfl

/-- The lines are the classes' subjects. -/
theorem mem_chargement {xs : List LigneTableau} (h : chargement b e = .ok xs)
    {x : LigneTableau} : x ∈ xs ↔ Montree b e x.classe x.matiere ∧ TitreDe b x.classe x.titre ∧
      EntreeDe b x.matiere x.entree := by
  rcases ht : enseignantDe b e.id with _ | t
  · obtain ⟨-, -, h⟩ := bind_eq_ok_iff.mp h
    rw [ht] at h
    obtain rfl := Except.ok.inj h
    refine ⟨fun hx => absurd hx List.not_mem_nil, ?_⟩
    rintro ⟨⟨t, ht', -⟩, -⟩
    rw [ht] at ht'
    cases ht'
  · rw [chargement_of_some ht] at h
    obtain ⟨-, -, h⟩ := bind_eq_ok_iff.mp h
    rw [mem_lignesEnseignant h]
    constructor
    · rintro ⟨henseignee, hclasse, htitre, hentree⟩
      obtain ⟨d, -, hd, -⟩ := id hentree
      exact ⟨⟨t, ht, henseignee, ⟨d, hd⟩, hclasse⟩, htitre, hentree⟩
    · rintro ⟨⟨t', ht', henseignee, -, hclasse⟩, htitre, hentree⟩
      obtain rfl := Option.some.inj (ht.symm.trans ht')
      exact ⟨henseignee, hclasse, htitre, hentree⟩

theorem nodup_chargement {xs : List LigneTableau} (h : chargement b e = .ok xs) :
    (xs.map fun x => (x.classe, x.matiere)).Nodup := by
  rcases ht : enseignantDe b e.id with _ | t
  · obtain ⟨-, -, h⟩ := bind_eq_ok_iff.mp h
    rw [ht] at h
    obtain rfl := Except.ok.inj h
    exact List.nodup_nil
  · rw [chargement_of_some ht] at h
    obtain ⟨-, -, h⟩ := bind_eq_ok_iff.mp h
    exact nodup_lignesEnseignant h

/-- A class and its subject can be read, and have a line. -/
theorem exists_ligne {xs : List LigneTableau} (h : chargement b e = .ok xs)
    (hmontree : Montree b e c m) : ∃ titre entree, (⟨c, m, titre, entree⟩ : LigneTableau) ∈ xs := by
  have hlisible := exists_chargement_iff.mp ⟨xs, h⟩
  obtain ⟨t, ht, henseignee, ⟨data, hdata⟩, d, hd, hcm, hct⟩ := id hmontree
  obtain ⟨-, hmatiere, hclasse⟩ := hlisible.enseignements t ht
  obtain ⟨matiere, hmatiere⟩ := hmatiere m data henseignee hdata
  obtain ⟨l, hl, hclasse⟩ := hclasse m data c d henseignee hdata hd hcm
  rw [strsOf_of_orStrs hl] at hct
  obtain ⟨classe, hclasse⟩ := hclasse hct
  exact ⟨classe.nom, ⟨matiere.nom, matiere.coefficient⟩, (mem_chargement h).mpr
    ⟨hmontree, ⟨d, classe, hd, hclasse, rfl⟩, data, matiere, hdata, hmatiere, rfl⟩⟩

theorem labels_of_sections {cs : List String} {sections : List (String × List MatiereAvecCoef)}
    (h : List.Forall₂ (SectionDe b e) cs sections) :
    List.Forall₂ (TitreDe b) cs (sections.map Prod.fst) := by
  rw [List.forall₂_map_right_iff]
  exact h.imp fun _ _ hs => hs.1

theorem nodup_sectionsDe : ((sectionsDe b e).map Prod.fst).Nodup := by
  unfold sectionsDe
  rcases chargement b e with err | xs
  · exact List.nodup_nil
  · exact (isGrouping_groups _).nodup

/-- Sections that are the classes' tell the classes apart by their names. -/
theorem nomsDistincts_of_une (h : UneParClasse b e (sectionsDe b e)) : NomsDistincts b e := by
  obtain ⟨cs, -, hcs, hsections⟩ := h
  intro c m c' m' titre hm hm' htitre htitre'
  exact eq_of_label (T := TitreDe b) (fun _ _ _ h h' => h.unique h')
    (labels_of_sections hsections) nodup_sectionsDe ((hcs c).mpr ⟨m, hm⟩)
    ((hcs c').mpr ⟨m', hm'⟩) htitre htitre'

/-- A class that is shown is read. -/
theorem lisible_of_une (h : UneParClasse b e (sectionsDe b e)) (hm : Montree b e c m) :
    TableauLisible b e := by
  obtain ⟨cs, -, hcs, hsections⟩ := h
  refine exists_chargement_iff.mp ?_
  obtain ⟨s, hs, -⟩ := exists_label hsections ((hcs c).mpr ⟨m, hm⟩)
  unfold sectionsDe at hs
  rcases hload : chargement b e with err | xs
  · rw [hload] at hs
    cases hs
  · exact ⟨xs, rfl⟩

/-- A group of lines is the section of the one class of its name. -/
theorem sectionDe_of_group {xs : List LigneTableau} (h : chargement b e = .ok xs)
    (hnoms : NomsDistincts b e) {s : String × List MatiereAvecCoef}
    (hs : s ∈ groups (xs.map fun x => (x.titre, x.entree))) :
    ∃ c, (∃ m, Montree b e c m) ∧ SectionDe b e c s := by
  have hgroupes := isGrouping_groups (xs.map fun x => (x.titre, x.entree))
  have htitre := (hgroupes.mem_keys s.1).mp (List.mem_map_of_mem hs)
  rw [List.map_map] at htitre
  obtain ⟨x, hx, hxs⟩ := List.mem_map.mp htitre
  obtain ⟨hmontree, htitre, -⟩ := (mem_chargement h).mp hx
  rw [show x.titre = s.1 from hxs] at htitre
  refine ⟨x.classe, ⟨x.matiere, hmontree⟩, htitre, ?_⟩
  -- the lines of the group, all of the one class
  let lignes := xs.filter fun y => y.titre = s.1
  have hlignes : ∀ y, y ∈ lignes ↔ y ∈ xs ∧ y.titre = s.1 := by
    intro y
    rw [List.mem_filter, decide_eq_true_eq]
  have hclasse : ∀ y, y ∈ lignes → y.classe = x.classe := by
    intro y hy
    obtain ⟨hyxs, hyt⟩ := (hlignes y).mp hy
    obtain ⟨hym, hytitre, -⟩ := (mem_chargement h).mp hyxs
    exact hnoms _ _ _ _ _ hym hmontree (hyt ▸ hytitre) htitre
  refine ⟨lignes.map LigneTableau.matiere, ?_, fun m => ?_, ?_⟩
  · have hnodup : (xs.map fun y => (y.classe, y.matiere)).Nodup := nodup_chargement h
    have hsub : (lignes.map fun y => (y.classe, y.matiere)).Nodup :=
      hnodup.sublist (List.filter_sublist.map _)
    refine List.Nodup.of_map (fun m => (x.classe, m)) ?_
    rw [List.map_map]
    refine (List.map_congr_left fun y hy => ?_) ▸ hsub
    rw [hclasse y hy]
    rfl
  · rw [List.mem_map]
    constructor
    · rintro ⟨y, hy, rfl⟩
      have hym := ((mem_chargement h).mp ((hlignes y).mp hy).1).1
      rwa [hclasse y hy] at hym
    · intro hm
      obtain ⟨titre, entree, hy⟩ := exists_ligne h hm
      have htitre' := ((mem_chargement h).mp hy).2.1
      exact ⟨_, (hlignes _).mpr ⟨hy, htitre'.unique htitre⟩, rfl⟩
  · rw [hgroupes.elements s hs, List.filter_map, List.map_map, List.forall₂_map_left_iff,
      List.forall₂_map_right_iff]
    refine List.forall₂_same.mpr fun y hy => ?_
    exact ((mem_chargement h).mp ((hlignes y).mp hy).1).2.2

theorem uneParClasse_of_lisible (hlisible : TableauLisible b e) (hnoms : NomsDistincts b e) :
    UneParClasse b e (sectionsDe b e) := by
  obtain ⟨xs, h⟩ := exists_chargement_iff.mpr hlisible
  have hsections : sectionsDe b e = groups (xs.map fun x => (x.titre, x.entree)) := by
    rw [sectionsDe, h]
  have hclasses : ∀ s ∈ sectionsDe b e, ∃ c, (∃ m, Montree b e c m) ∧ SectionDe b e c s := by
    rw [hsections]
    exact fun s hs => sectionDe_of_group h hnoms hs
  obtain ⟨cs, hcs⟩ := exists_labelled hclasses
  have hsecs : List.Forall₂ (SectionDe b e) cs (sectionsDe b e) := hcs.imp fun _ _ hs => hs.2
  have hlabels := labels_of_sections hsecs
  refine ⟨cs, nodup_of_labels (T := TitreDe b) (fun _ _ _ h h' => h.unique h') hlabels
    nodup_sectionsDe, fun c => ⟨fun hc => ?_, fun hc => ?_⟩, hsecs⟩
  · obtain ⟨s, -, hs, -⟩ := exists_label hcs hc
    exact hs
  · obtain ⟨m, hm⟩ := hc
    obtain ⟨titre, entree, hx⟩ := exists_ligne h hm
    obtain ⟨-, htitre, -⟩ := (mem_chargement h).mp hx
    have hgroupes := isGrouping_groups (xs.map fun x => (x.titre, x.entree))
    have hcle : titre ∈ (sectionsDe b e).map Prod.fst := by
      rw [hsections, hgroupes.mem_keys, List.map_map]
      exact List.mem_map.mpr ⟨_, hx, rfl⟩
    obtain ⟨s, hs, rfl⟩ := List.mem_map.mp hcle
    obtain ⟨c', hc', ⟨m', hm'⟩, hs'⟩ := exists_thing hcs hs
    rwa [hnoms c m c' m' s.1 hm hm' htitre hs'.1]

end Sections

/-- After the load, each class of the teacher has its section, which lists the teacher's subjects
of that class. -/
def SectionsParClasse (S : Server) (b : Base) (e : UtilisateurModele) : Prop :=
  DashboardEnseignantPage.initDashboard.Ends S.handler
    (fun _ p _ => UneParClasse b e p.matieresParClasse) { enseignant := e } b

theorem sectionsParClasse_iff_une {S : Server} {b : Base} {e : UtilisateurModele} :
    SectionsParClasse S b e ↔ UneParClasse b e (sectionsDe b e) := by
  have hends := ends_initDashboard (S := S) (b := b) (p := { enseignant := e }) rfl
  unfold SectionsParClasse Prog.Ends at *
  exact hends ▸ Iff.rfl

/-- **When the dashboard shows each class separately.** -/
theorem sectionsParClasse_iff (S : Server) (b : Base) (e : UtilisateurModele) :
    SectionsParClasse S b e ↔
      ((∃ c m, Montree b e c m) → TableauLisible b e) ∧ NomsDistincts b e := by
  rw [sectionsParClasse_iff_une]
  constructor
  · exact fun h => ⟨fun ⟨_, _, hm⟩ => lisible_of_une h hm, nomsDistincts_of_une h⟩
  · rintro ⟨hlisible, hnoms⟩
    by_cases hm : ∃ c m, Montree b e c m
    · exact uneParClasse_of_lisible (hlisible hm) hnoms
    · have hvide : sectionsDe b e = [] := by
        unfold sectionsDe
        rcases h : chargement b e with err | _ | ⟨x, xs⟩
        · rfl
        · rfl
        · exact absurd ⟨_, _, ((mem_chargement h).mp List.mem_cons_self).1⟩ hm
      rw [hvide]
      exact ⟨[], List.nodup_nil, fun c => ⟨fun hc => absurd hc List.not_mem_nil,
        fun hc => absurd ⟨c, hc⟩ hm⟩, .nil⟩

/-- A teacher of one subject in two classes called "A". -/
def deuxClassesA : Base :=
  [(Collection.enseignants, "t", [texte .utilisateurId "u"]),
    (.enseignements, "l", [texte .enseignantId "t", texte .matiereId "m"]),
    (.matieres, "m", [texte .nom "Français"]),
    (.classes, "a6", [texte .nom "A", texte .niveau "6e", textes .matieresIds ["m"],
      textes .enseignantsIds ["t"]]),
    (.classes, "a5", [texte .nom "A", texte .niveau "5e", textes .matieresIds ["m"],
      textes .enseignantsIds ["t"]])].foldl
    (fun b doc => b.putDoc doc.1 doc.2.1 (newDoc 0 doc.2.2)) baseVide

/-- The account of the teacher. -/
def compteA : UtilisateurModele := ⟨"u", "Nom", "", "", "", "", "", true, "enseignant", "", none⟩

/-- The two classes share their section. -/
theorem not_sectionsParClasse_deuxClassesA :
    ¬ SectionsParClasse (Server.longest 10) deuxClassesA compteA := by
  rw [sectionsParClasse_iff_une]
  intro h
  have hmontree : ∀ c d, deuxClassesA.doc .classes c = some d →
      "m" ∈ strsOf (d .matieresIds) → "t" ∈ strsOf (d .enseignantsIds) →
        Montree deuxClassesA compteA c "m" := by
    intro c d hc hm ht
    exact ⟨"t", rfl, ⟨"l", _, rfl, rfl, rfl⟩, ⟨_, rfl⟩, d, hc, hm, ht⟩
  have hmeme := nomsDistincts_of_une h "a6" "m" "a5" "m" "A"
    (hmontree _ _ rfl (by decide) (by decide)) (hmontree _ _ rfl (by decide) (by decide))
    ⟨_, ⟨"a6", "A", "6e", ["m"], []⟩, rfl, rfl, rfl⟩
    ⟨_, ⟨"a5", "A", "5e", ["m"], []⟩, rfl, rfl, rfl⟩
  exact absurd hmeme (by decide)

end EduConnect.Enseignant
