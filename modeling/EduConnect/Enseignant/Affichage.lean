import EduConnect.Enseignant.Enregistrement
import EduConnect.Lib.Lots
import Mathlib.Data.List.ReduceOption

/-!
# The students displayed and the students saved

`_chargerEleves` displays the students that the class has when its subject is chosen, while
`_enregistrerNotes` goes through those it had when the page was opened.
-/

namespace EduConnect.Enseignant

open Lib Prog

namespace NotesPage

/-! ## The pages -/

/-- The page after an event, when nobody else acts and the data are `b`. -/
def jouer (S : Server) (b : Base) (p : NotesPage) (ev : Evenement) : NotesPage :=
  match p.on ev with
  | some prog => (prog.exec S.handler p b).2.1
  | none => p

/-- The events that fill the form. -/
def Evenement.Frappe : Evenement → Prop
  | .ouvrir | .classe _ | .matiere _ | .enregistrer _ => False
  | _ => True

/-- The page was opened on the data `b₀`, and used since, whatever became of the data. -/
inductive Ouverte (S : Server) (b₀ : Base) : NotesPage → Prop
  | ouvrir (etablissementId utilisateurId : String) :
    Ouverte S b₀ (jouer S b₀ { etablissementId, utilisateurId } .ouvrir)
  | jouer {p : NotesPage} (b : Base) (ev : Evenement) (hev : ev ≠ .ouvrir) (hp : Ouverte S b₀ p) :
    Ouverte S b₀ (jouer S b p ev)

/-- A page that stays open while the data do not change. -/
theorem Ouverte.suite {S : Server} {b₀ : Base} {p : NotesPage} (hp : Ouverte S b₀ p) (b : Base)
    {evs : List Evenement} (hevs : ∀ ev ∈ evs, ev ≠ .ouvrir) :
    Ouverte S b₀ (evs.foldl (NotesPage.jouer S b) p) := by
  induction evs generalizing p with
  | nil => exact hp
  | cons ev evs ih =>
    have hnext := hp.jouer b ev (hevs ev List.mem_cons_self)
    exact ih hnext fun ev' hev' => hevs ev' (List.mem_cons_of_mem ev hev')

/-- The students were loaded from the data `b₁`, and the form filled since. -/
inductive Affichee (S : Server) (b₀ b₁ : Base) : NotesPage → Prop
  | charger {p : NotesPage} (n : ℕ) (hp : Ouverte S b₀ p) (hn : (p.on (.matiere n)).isSome) :
    Affichee S b₀ b₁ (jouer S b₁ p (.matiere n))
  | saisir {p : NotesPage} (ev : Evenement) (hev : ev.Frappe) (hp : Affichee S b₀ b₁ p) :
    Affichee S b₀ b₁ (jouer S b₁ p ev)

/-- The entry of the student `e` is a valid grade. -/
def ANote (p : NotesPage) (e : String) (v : Double) : Prop :=
  p.noteSaisie e = .ok (some v) ∧ SurVingt v

/-- Every grade typed for a student displayed is saved. -/
def Gardees (S : Server) (b : Base) (p : NotesPage) (h : Horloge) : Prop :=
  ∀ a ∈ p.eleves, ∀ v, p.ANote a.eleveId v →
    NouvelleNote b ((enregistrerNotes h).exec S.handler p b).2.2 a.eleveId v

/-! ## The roster of the page -/

/-- The page holds the classes `l`, and its class is one of them. -/
def Cache (l : List ClasseAvecMatieres) (p : NotesPage) : Prop :=
  p.classesAvecMatieres = l ∧ ∀ id, p.classeChoisieId = some id → ∃ c ∈ l, c.classeId = id

section Cache

variable {S : Server} {b b₀ b₁ : Base} {l : List ClasseAvecMatieres} {p : NotesPage}
  {prog : Action EtapeNotes NotesPage Unit} {ev : Evenement}

/-- An update that leaves the classes and the choice of one. -/
theorem Cache.congr {q : NotesPage} (h : Cache l p)
    (hl : q.classesAvecMatieres = p.classesAvecMatieres)
    (hc : q.classeChoisieId = p.classeChoisieId) : Cache l q :=
  ⟨hl.trans h.1, fun id hid => h.2 id (hc ▸ hid)⟩

theorem Cache.sansClasse {q : NotesPage} (h : Cache l p)
    (hl : q.classesAvecMatieres = p.classesAvecMatieres) (hc : q.classeChoisieId = none) :
    Cache l q := by
  refine ⟨hl.trans h.1, fun id hid => ?_⟩
  rw [hc] at hid
  cases hid

/-- The classes are loaded once, when the page is opened. -/
theorem keeps_on (hp : Cache l p) (hev : ev ≠ .ouvrir) (hon : p.on ev = some prog) :
    prog.Keeps (Cache l) := by
  have hsur : ∀ f, Choix.RemplitMatieres f → ∀ s : NotesPage, Cache l s → Cache l (sur f s) :=
    fun f hf s hs => hs.congr (hf.2 s.toChoix) (hf.1 s.toChoix).1
  rcases ev with _ | n | n | t | n | texte | ⟨n, texte⟩ | _ | _ | h
  · exact absurd rfl hev
  all_goals
    unfold on at hon
    dsimp only at hon
    split_ifs at hon
  · obtain ⟨c, hc, rfl⟩ := Option.map_eq_some_iff.mp hon
    have hmem : c ∈ l := by
      rw [← hp.1]
      exact List.mem_of_getElem? (Option.filter_eq_some_iff.mp hc).1
    refine .bind ((keeps_setState _).mpr fun s hs => ?_) fun _ =>
      Choix.keeps_chargerMatieres hsur _ _
    exact ⟨hs.1, fun id hid => ⟨c, hmem, Option.some.inj hid⟩⟩
  · obtain ⟨c, -, hm⟩ := Option.bind_eq_some_iff.mp hon
    obtain ⟨m, -, rfl⟩ := Option.map_eq_some_iff.mp hm
    refine .bind ((keeps_setState _).mpr fun s hs => hs.congr rfl rfl) fun _ => ?_
    exact keeps_chargerEleves c fun _ s hs => hs.congr rfl rfl
  · obtain rfl := Option.some.inj hon
    exact (keeps_setState _).mpr fun s hs => hs.congr rfl rfl
  · obtain ⟨q, -, rfl⟩ := Option.map_eq_some_iff.mp hon
    exact (keeps_setState _).mpr fun s hs => hs.congr rfl rfl
  · obtain rfl := Option.some.inj hon
    exact (keeps_setState _).mpr fun s hs => hs.congr rfl rfl
  · obtain ⟨e, -, rfl⟩ := Option.map_eq_some_iff.mp hon
    exact (keeps_setState _).mpr fun s hs => hs.congr rfl rfl
  · obtain rfl := Option.some.inj hon
    exact (keeps_setState _).mpr fun s hs => hs.congr rfl rfl
  · obtain rfl := Option.some.inj hon
    exact (keeps_setState _).mpr fun s hs => hs.congr rfl rfl
  · obtain rfl := Option.some.inj hon
    exact keeps_enregistrerNotes h (fun _ s hs => hs.congr rfl rfl) (fun _ s hs => hs.congr rfl rfl)
      fun s hs => hs.sansClasse rfl rfl

theorem Cache.jouer (hp : Cache l p) (b : Base) (hev : ev ≠ .ouvrir) :
    Cache l (jouer S b p ev) := by
  unfold NotesPage.jouer
  rcases hon : p.on ev with _ | prog
  · exact hp
  · exact (keeps_on hp hev hon).ends (h := S.handler) (b := b) hp

/-- The entry of a class has the students the class has when it is made. -/
theorem elevesIds_of_classe {id : String} {d : Document} {matieresIds : List String}
    {c : ClasseAvecMatieres} (hd : b.doc .classes id = some d)
    (hc : classe id d matieresIds = .ok c) : c.elevesIds = elevesDeClasse b c.classeId := by
  unfold classe at hc
  rcases hnom : (d.get .nom).orStr "" with e | nom
  · rw [hnom] at hc
    cases hc
  rcases hniveau : (d.get .niveau).orStr "" with e | niveau
  · rw [hnom, hniveau] at hc
    cases hc
  rcases hids : (d.get .elevesIds).orStrs with e | ids
  · rw [hnom, hniveau, hids] at hc
    cases hc
  · rw [hnom, hniveau, hids] at hc
    obtain rfl := Except.ok.inj hc
    show ids = elevesDeClasse b id
    rw [elevesDeClasse_of_doc hd, strsOf_of_orStrs hids]

/-- The classes of the page are as in `b₀`, and none is chosen. -/
def Fraiche (b₀ : Base) (p : NotesPage) : Prop :=
  (∀ c ∈ p.classesAvecMatieres, c.elevesIds = elevesDeClasse b₀ c.classeId) ∧
    p.classeChoisieId = none

/-- The entries made of the classes that a query returned. -/
theorem entrees_fraiches {fs : List (Lib.Filter Champ)} {enseignantId : String}
    {matieres : List String} {temp : List (Option ClasseAvecMatieres)}
    (h : ((⟨fs, none, none⟩ : Query Champ).run (b.docs .classes)).mapM
      (Choix.entree classe enseignantId matieres) = .ok temp) :
    ∀ c ∈ temp.reduceOption, c.elevesIds = elevesDeClasse b c.classeId := by
  intro c hc
  rw [List.reduceOption_mem_iff] at hc
  obtain ⟨doc, hdoc, hentree⟩ := exists_of_mem_mapM h hc
  have hd : b.doc .classes doc.1 = some doc.2 := (Query.of_mem_run hdoc).1
  unfold Choix.entree at hentree
  rcases henseignants : (doc.2.get .enseignantsIds).orStrs with e | enseignantsIds
  · rw [henseignants] at hentree
    cases hentree
  rw [henseignants] at hentree
  replace hentree : (if enseignantId ∉ enseignantsIds then pure none else _) = _ := hentree
  by_cases hin : enseignantId ∉ enseignantsIds
  · rw [if_pos hin] at hentree
    cases hentree
  rw [if_neg hin] at hentree
  rcases hmatieres : (doc.2.get .matieresIds).orStrs with e | matieresIds
  · rw [hmatieres] at hentree
    cases hentree
  rw [hmatieres] at hentree
  replace hentree : (if _ then pure none else _) = _ := hentree
  split_ifs at hentree
  · cases hentree
  · rcases hclasse : classe doc.1 doc.2 (matieresIds.filter fun id => id ∈ matieres) with e | c'
    · rw [hclasse] at hentree
      cases hentree
    · rw [hclasse] at hentree
      obtain rfl : c' = c := Option.some.inj (Except.ok.inj hentree)
      exact elevesIds_of_classe hd hclasse

theorem ends_initData (hp : Fraiche b p) :
    initData.Ends S.handler (fun _ s _ => Fraiche b s) p b := by
  have hfin : ∀ texte s, Fraiche b s →
      Fraiche b (sur (fun c => { c with loading := false }) (afficher texte s)) := fun _ _ hs => hs
  unfold initData Choix.initData
  refine ends_bind.mpr ((ends_attendre _).mpr ?_)
  refine Ends.catching_keeps ?_ fun e => (keeps_setState _).mpr (hfin _)
  refine ends_page_bind.mpr (ends_bind.mpr ((ends_chercherPremier _ _ _).mpr ?_))
  rw [if_neg (by simp [Filter.refused])]
  rcases Query.run _ _ with _ | ⟨doc, docs⟩
  · exact hfin _ _ hp
  refine ends_setState_bind.mpr (ends_bind.mpr ((ends_chercher _ _ _).mpr ?_))
  rw [if_neg (by simp [Filter.refused])]
  refine ends_bind.mpr ((ends_chercher _ _ _).mpr ?_)
  rw [if_neg (by simp [Filter.refused])]
  refine ends_bind.mpr ((ends_ofExcept _).mpr ?_)
  rcases List.mapM _ _ with e | matieres
  · exact hp
  refine ends_bind.mpr ((ends_ofExcept _).mpr ?_)
  rcases htemp : List.mapM (Choix.entree classe doc.1 matieres) _ with e | temp
  · exact hp
  · exact ⟨entrees_fraiches htemp, hp.2⟩

/-- A page that is open holds the rosters of the data it was opened on. -/
theorem Ouverte.cache (hp : Ouverte S b₀ p) :
    ∃ l, (∀ c ∈ l, c.elevesIds = elevesDeClasse b₀ c.classeId) ∧ Cache l p := by
  induction hp with
  | ouvrir etablissementId utilisateurId =>
    have hstart : Fraiche b₀ { etablissementId, utilisateurId } :=
      ⟨fun c hc => absurd hc (by simp), rfl⟩
    have hends := ends_initData (S := S) hstart
    refine ⟨_, hends.1, rfl, fun id hid => ?_⟩
    have hnone := hends.2
    rw [show (Prog.exec S.handler initData _ b₀).2.1.classeChoisieId = some id from hid] at hnone
    cases hnone
  | jouer b ev hev hp ih =>
    obtain ⟨l, hl, hcache⟩ := ih
    exact ⟨l, hl, hcache.jouer b hev⟩

/-- The roster that a save goes through. -/
theorem Cache.elevesDeLaClasse (hp : Cache l p)
    (hl : ∀ c ∈ l, c.elevesIds = elevesDeClasse b₀ c.classeId) {id : String}
    (hid : p.classeChoisieId = some id) : p.elevesDeLaClasse = elevesDeClasse b₀ id := by
  obtain ⟨c, hc, rfl⟩ := hp.2 id hid
  unfold NotesPage.elevesDeLaClasse
  rw [hp.1, hid]
  rcases hfind : l.find? fun x => some x.classeId = some c.classeId with _ | c'
  · exact absurd (decide_eq_true rfl) (List.find?_eq_none.mp hfind c hc)
  · have hsame := List.find?_some hfind
    have heq : c'.classeId = c.classeId := Option.some.inj (of_decide_eq_true hsame)
    rw [hfind, Option.map_some, Option.getD_some, hl c' (List.mem_of_find?_eq_some hfind), heq]

end Cache

/-! ## The students displayed -/

section Affichees

variable {S : Server} {b b₀ b₁ : Base} {p q : NotesPage}

/-- The students displayed have a record. -/
def Connus (b : Base) (p : NotesPage) : Prop := ∀ a ∈ p.eleves, Existe b a.eleveId

/-- A student that is loaded has a record. -/
theorem ends_chargerEleve (id : String) (hp : Connus b p) :
    (chargerEleve id).Ends S.handler (fun r s b' => b' = b ∧ Connus b s ∧
      ∀ a, r = .ok (some a) → Existe b a.eleveId) p b := by
  unfold chargerEleve lireDoc
  by_cases hid : id = ""
  · rw [if_pos hid]
    exact ⟨rfl, hp, fun a ha => by cases ha⟩
  rw [if_neg hid]
  refine ends_bind.mpr ((ends_lire _ _ _).mpr ?_)
  rcases hd : b.doc .eleves id with _ | eleveDoc
  · exact ⟨rfl, hp, fun a ha => by cases ha⟩
  refine ends_bind.mpr ((ends_ofExcept _).mpr ?_)
  rcases (eleveDoc.field .utilisateurId).bind AppelPage.reference with e | _ | utilisateurId
  · exact ⟨rfl, hp, fun a ha => by cases ha⟩
  · exact ⟨rfl, hp, fun a ha => by cases ha⟩
  refine ends_bind.mpr ((ends_lire _ _ _).mpr ?_)
  rcases b.doc .utilisateurs utilisateurId with _ | userDoc
  · exact ⟨rfl, hp, fun a ha => by cases ha⟩
  refine ends_bind.mpr ((ends_ofExcept _).mpr ?_)
  rcases (userDoc.field .nom).bind (Value.orStr "Nom inconnu") with e | nom
  · exact ⟨rfl, hp, fun a ha => by cases ha⟩
  refine ends_bind.mpr ((ends_ofExcept _).mpr ?_)
  rcases (userDoc.field .prenom).bind (Value.orStr "") with e | prenom
  · exact ⟨rfl, hp, fun a ha => by cases ha⟩
  refine ends_bind.mpr ((ends_ofExcept _).mpr ?_)
  rcases (eleveDoc.field .notesIds).bind Value.orStrs with e | notesIds
  · exact ⟨rfl, hp, fun a ha => by cases ha⟩
  · refine ⟨rfl, hp, fun a ha => ?_⟩
    obtain rfl := Option.some.inj (Except.ok.inj ha)
    show (b.doc .eleves id).isSome = true
    rw [hd]
    rfl

theorem ends_chargerTous (ids : List String) (hp : Connus b p) :
    (chargerTous ids).Ends S.handler (fun r s b' => b' = b ∧ Connus b s ∧
      ∀ l, r = .ok l → ∀ a ∈ l.reduceOption, Existe b a.eleveId) p b := by
  induction ids generalizing p with
  | nil =>
    refine ⟨rfl, hp, fun l hl a ha => ?_⟩
    obtain rfl := Except.ok.inj hl
    cases ha
  | cons id ids ih =>
    refine ends_bind.mpr ((ends_chargerEleve id hp).mono ?_)
    rintro (e | eleve) s b' ⟨rfl, hs, heleve⟩
    · exact ⟨rfl, hs, fun l hl => by cases hl⟩
    refine ends_bind.mpr ((ih hs).mono ?_)
    rintro (e | eleves) s' b'' ⟨rfl, hs', heleves⟩
    · exact ⟨rfl, hs', fun l hl => by cases hl⟩
    refine ⟨rfl, hs', fun l hl a ha => ?_⟩
    obtain rfl := Except.ok.inj hl
    rw [List.reduceOption_mem_iff] at ha
    rcases List.mem_cons.mp ha with ha | ha
    · exact heleve a (congrArg Except.ok ha.symm)
    · exact heleves eleves rfl a (List.reduceOption_mem_iff.mpr ha)

theorem ends_chargerEleves (classeId : String) (hp : Connus b p) :
    (chargerEleves classeId).Ends S.handler (fun _ s _ => Connus b s) p b := by
  unfold chargerEleves lireDoc
  by_cases hid : classeId = ""
  · rw [if_pos hid]
    exact hp
  rw [if_neg hid]
  refine ends_bind.mpr ((ends_lire _ _ _).mpr (ends_bind.mpr ((ends_ofExcept _).mpr ?_)))
  rcases AppelPage.elevesIds (b.doc .classes classeId) with e | ids
  · exact hp
  refine ends_bind.mpr ((ends_chargerTous ids hp).mono ?_)
  rintro (e | results) s b' ⟨rfl, hs, hresults⟩
  · exact hs
  · exact ends_bind.mpr ((ends_attendre _).mpr (hresults results rfl))

theorem connus_choisir (n : ℕ) (hn : (p.on (.matiere n)).isSome) :
    Connus b (jouer S b p (.matiere n)) := by
  unfold jouer
  rcases hon : p.on (.matiere n) with _ | prog
  · rw [hon] at hn
    cases hn
  unfold on at hon
  dsimp only at hon
  split_ifs at hon
  obtain ⟨c, -, hm⟩ := Option.bind_eq_some_iff.mp hon
  obtain ⟨m, -, rfl⟩ := Option.map_eq_some_iff.mp hm
  exact ends_chargerEleves (S := S) c fun a ha => by cases ha

/-- To fill the form leaves the list of students as it is. -/
theorem eleves_jouer {ev : Evenement} (hev : ev.Frappe) : (jouer S b p ev).eleves = p.eleves := by
  unfold jouer
  rcases hon : p.on ev with _ | prog
  · rfl
  have hkeeps : prog.Keeps fun s => s.eleves = p.eleves := by
    rcases ev with _ | n | n | t | n | texte | ⟨n, texte⟩ | _ | _ | h
    all_goals first
      | exact hev.elim
      | unfold on at hon
        dsimp only at hon
        split_ifs at hon
    · obtain rfl := Option.some.inj hon
      exact (keeps_setState _).mpr fun s hs => hs
    · obtain ⟨q, -, rfl⟩ := Option.map_eq_some_iff.mp hon
      exact (keeps_setState _).mpr fun s hs => hs
    · obtain rfl := Option.some.inj hon
      exact (keeps_setState _).mpr fun s hs => hs
    · obtain ⟨e, -, rfl⟩ := Option.map_eq_some_iff.mp hon
      exact (keeps_setState _).mpr fun s hs => hs
    · obtain rfl := Option.some.inj hon
      exact (keeps_setState _).mpr fun s hs => hs
    · obtain rfl := Option.some.inj hon
      exact (keeps_setState _).mpr fun s hs => hs
  exact hkeeps.ends (h := S.handler) (b := b) rfl

/-- The roster a save goes through is that of the data the page was opened on, and the students
displayed have a record in the data they were loaded from. -/
theorem Affichee.cache (hp : Affichee S b₀ b₁ p) :
    Connus b₁ p ∧ ∃ l, (∀ c ∈ l, c.elevesIds = elevesDeClasse b₀ c.classeId) ∧ Cache l p := by
  induction hp with
  | charger n hp hn =>
    obtain ⟨l, hl, hcache⟩ := hp.cache
    exact ⟨connus_choisir n hn, l, hl, hcache.jouer b₁ (by simp)⟩
  | saisir ev hev hp ih =>
    obtain ⟨hconnus, l, hl, hcache⟩ := ih
    refine ⟨fun a ha => hconnus a ?_, l, hl, hcache.jouer b₁ ?_⟩
    · rw [eleves_jouer hev] at ha
      exact ha
    · rintro rfl
      exact hev

/-- **Displayed and saved.**  When a save says it succeeded, every valid grade typed for a student
displayed is saved, if and only if each of these students was in the class when the page was
opened. -/
theorem gardees_iff {h : Horloge} (hp : Affichee S b₀ b₁ p)
    (hok : Annonce p ((enregistrerNotes h).exec S.handler p b₁).2.1) :
    Gardees S b₁ p h ↔ ∀ a ∈ p.eleves, ∀ v, p.ANote a.eleveId v →
      ∃ c, p.classeChoisieId = some c ∧ a.eleveId ∈ elevesDeClasse b₀ c := by
  obtain ⟨hconnus, l, hl, hcache⟩ := hp.cache
  obtain ⟨x, ts, hpage, -, hsoumise, -, hts⟩ := parcouru_of_annonce hok
  obtain ⟨c, hc⟩ := hsoumise.classe
  rw [hcache.elevesDeLaClasse hl hc] at hts
  refine forall₂_congr fun a ha => forall₂_congr fun v hv => ?_
  have hsaisie : x.page.noteSaisie a.eleveId = .ok (some v) := by
    rw [hpage, noteSaisie_occuper]
    exact hv.1
  rw [hts.nouvelleNote_iff hsaisie, hc]
  constructor
  · rintro ⟨hmem, -⟩
    exact ⟨c, rfl, hmem⟩
  · rintro ⟨c', hc', hmem⟩
    obtain rfl := Option.some.inj hc'
    exact ⟨hmem, hconnus a ha⟩

end Affichees

/-! ### A student who enters the class -/

/-- The class `A` of `uneClasse`, and a student `b` outside it. -/
def deuxEleves : Base :=
  (uneClasse.putDoc .eleves "b" (newDoc 0 [texte .utilisateurId "ub", textes .notesIds []])).putDoc
    .utilisateurs "ub" (newDoc 0 [texte .prenom "", texte .nom "b"])

/-- An administrator puts `b` in the class. -/
def deuxInscrits : Base :=
  ((Server.longest 10).handler (.write (.update .classes "A" [(.elevesIds, .arrayUnion ["b"])]))
    deuxEleves).2

/-- The page is opened on `deuxEleves`, the class chosen, the students loaded from `b₁`, and 12 typed
for the last of them. -/
def pageRemplie (b₁ : Base) (n : ℕ) : NotesPage :=
  let S := Server.longest 10
  let classe := jouer S deuxEleves (jouer S deuxEleves pageNotes .ouvrir) (.classe 0)
  jouer S b₁ (jouer S b₁ (jouer S b₁ classe (.matiere 0)) (.type .examen)) (.saisir n "12")

theorem affichee_pageRemplie (b₁ : Base) (n : ℕ)
    (hn : ((jouer (Server.longest 10) deuxEleves (jouer (Server.longest 10) deuxEleves pageNotes
      .ouvrir) (.classe 0)).on (.matiere 0)).isSome) :
    Affichee (Server.longest 10) deuxEleves b₁ (pageRemplie b₁ n) :=
  .saisir (.saisir n "12") trivial (.saisir (.type .examen) trivial
    (.charger 0 (.jouer deuxEleves (.classe 0) (by simp) (.ouvrir "e" "u")) hn))

theorem gardees_pageRemplie : Gardees (Server.longest 10) deuxEleves (pageRemplie deuxEleves 0)
    horlogeZero := by
  refine (gardees_iff (affichee_pageRemplie deuxEleves 0 (by decide +kernel)) ?_).mpr ?_
  · show _ = _
    decide +kernel
  · have hclasse : (pageRemplie deuxEleves 0).classeChoisieId = some "A" := by decide +kernel
    have hall : ((pageRemplie deuxEleves 0).eleves.all fun a =>
      decide (a.eleveId ∈ elevesDeClasse deuxEleves "A")) = true := by decide +kernel
    intro a ha v hv
    exact ⟨"A", hclasse, of_decide_eq_true (List.all_eq_true.mp hall a ha)⟩

/-- `b` is displayed and 12 typed for him, the page says the grades are saved, and his is not. -/
theorem not_gardees_pageRemplie :
    Affichee (Server.longest 10) deuxEleves deuxInscrits (pageRemplie deuxInscrits 1) ∧
      Annonce (pageRemplie deuxInscrits 1) ((enregistrerNotes horlogeZero).exec
        (Server.longest 10).handler (pageRemplie deuxInscrits 1) deuxInscrits).2.1 ∧
      ¬Gardees (Server.longest 10) deuxInscrits (pageRemplie deuxInscrits 1) horlogeZero := by
  refine ⟨affichee_pageRemplie deuxInscrits 1 (by decide +kernel), ?_, fun h => ?_⟩
  · show _ = _
    decide +kernel
  have hdisplayed : ((pageRemplie deuxInscrits 1).eleves.any fun a => a.eleveId = "b") = true := by
    decide +kernel
  obtain ⟨a, ha, hid⟩ := List.any_eq_true.mp hdisplayed
  have hb : a.eleveId = "b" := of_decide_eq_true hid
  have htexte : ((pageRemplie deuxInscrits 1).notesStr.find "b").getD "" = "12" := by decide +kernel
  have hnote : (pageRemplie deuxInscrits 1).noteSaisie "b" = .ok (some (.finite 12)) := by
    rw [noteSaisie_eq_some_iff, htexte]
    decide +kernel
  obtain ⟨id, d, -, hd, heleve, -⟩ := h a ha (.finite 12) ⟨hb ▸ hnote, 12, rfl, by decide, by decide⟩
  have hnone : ((((enregistrerNotes horlogeZero).exec (Server.longest 10).handler
      (pageRemplie deuxInscrits 1) deuxInscrits).2.2.docs .notes).rows.all fun row =>
        !(row.2.get .eleveId).isStr "b") = true := by
    decide +kernel
  have hrow := List.all_eq_true.mp hnone (id, d) (Table.find_eq_some_iff.mp hd)
  rw [Doc.isStr_get_iff.mpr (hb ▸ heleve)] at hrow
  cases hrow

end NotesPage

end EduConnect.Enseignant
