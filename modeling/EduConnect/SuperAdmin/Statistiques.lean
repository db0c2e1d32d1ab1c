import EduConnect.Admin.Fiches
import EduConnect.Lib.Groups
import EduConnect.Lib.Runs
import EduConnect.Modeles
import EduConnect.SuperAdmin.Roles

/-!
# The statistics of the super administrator

`fetchStats` adds the sizes of `utilisateurs` and `administrateurs` and counts the users under the
text of their field `etablissement`. That field is the copy of an establishment's document which the
screen of a student stores; the other screens store an `etablissementId` only.
-/

namespace EduConnect.SuperAdmin

open Lib Prog Donnees Admin

/-! ## The home page -/

structure Stats where
  etablissements : ℕ := 0
  utilisateurs : ℕ := 0
  roles : ℕ := 0
  administrateurs : ℕ := 0

/-- `_SuperAdminPageState`; an entry of `usageStats` is an `etablissement` with its `utilisateurs`. -/
structure HomeSuperAdmin where
  isLoading : Bool := true
  stats : Stats := {}
  usageStats : List (String × ℕ) := []

section Textes

-- `toString` of a value that is not null
variable (texteDe : Valeur → String)

/-- `data['etablissement']?.toString() ?? 'Inconnu'`. -/
def etab (data : Document) : String :=
  match data.get .etablissement with
  | .null => "Inconnu"
  | v => texteDe v

def HomeSuperAdmin.fetchStats : Action Etape HomeSuperAdmin Unit := do
  setState fun p => { p with isLoading := true }
  catching (do
    let etablissements ← chercher .autre .etablissements []
    let roles ← chercher .autre .roles []
    let admins ← chercher .autre .administrateurs []
    let utilisateurs ← chercher .autre .utilisateurs []
    let adminCount := admins.length
    setState fun p => { p with
      stats := {
        etablissements := etablissements.length
        utilisateurs := utilisateurs.length + adminCount
        roles := roles.length
        administrateurs := adminCount }
      usageStats := tally (utilisateurs.map fun doc => etab texteDe doc.2)
      isLoading := false })
    fun _ => setState fun p => { p with isLoading := false }

end Textes

/-! ## The establishments -/

namespace DepotEtablissement

def ajouterEtablissement (etab : EtablissementModele) : Action Etape Unit Unit := do
  let _ ← ajouter .autre .etablissements etab.toMap
  ret ()

def modifierEtablissement (id : String) (etab : EtablissementModele) : Action Etape Unit Unit :=
  ecrire .autre (.update .etablissements id etab.toMap)

def supprimerEtablissement (id : String) : Action Etape Unit Unit :=
  ecrire .autre (.delete .etablissements id)

end DepotEtablissement

/-! ## Runs -/

/-- What changes the data: a press on a screen that creates accounts, with the requests that are lost,
or an edit of an establishment. -/
inductive Intervention where
  | creer (e : EcranAjout) (p : e.Page) (pannes : List (Option Err))
  | ajouterEtablissement (etab : EtablissementModele)
  | modifierEtablissement (id : String) (etab : EtablissementModele)
  | supprimerEtablissement (id : String)

def Intervention.edition : Intervention → Bool
  | .creer .. => false
  | _ => true

/-- The data after a program that finds no page. -/
def execute (S : Server) (p : Action Etape Unit Unit) (b : Base) : Base :=
  (p.exec S.handler () b).2.2

def intervenir (S : Server) (b : Base) : Intervention → Option Base
  | .creer e p pannes => some (e.execution S p b pannes).2
  | .ajouterEtablissement etab => some (execute S (DepotEtablissement.ajouterEtablissement etab) b)
  | .modifierEtablissement id etab =>
    some (execute S (DepotEtablissement.modifierEtablissement id etab) b)
  | .supprimerEtablissement id => some (execute S (DepotEtablissement.supprimerEtablissement id) b)

/-- No user has an account yet. -/
structure SansUtilisateur (b : Base) : Prop where
  utilisateurs : (b.docs .utilisateurs).rows = []
  administrateurs : (b.docs .administrateurs).rows = []

/-! ## The statistics and what they count -/

/-- The ids of the user accounts, in whichever collections they are. -/
def comptesDistincts (b : Base) : List String :=
  ((b.docs .utilisateurs).rows.map Prod.fst ++ (b.docs .administrateurs).rows.filterMap fun row =>
    match row.2.get .utilisateurId with
    | .str u => some u
    | _ => none).dedup

/-- The number of `utilisateurs` documents of an establishment. -/
def nbUtilisateurs (b : Base) (etablissementId : String) : ℕ :=
  (b.docs .utilisateurs).rows.countP fun row => (row.2.get .etablissementId).isStr etablissementId

section Enonces

variable (texteDe : Valeur → String)

/-- The total counts each account once, and the users of each establishment have one entry, which
counts them all and nobody else; `'Inconnu'` stands for no establishment. -/
structure Justes (b : Base) (p : HomeSuperAdmin) : Prop where
  utilisateurs : p.stats.utilisateurs = (comptesDistincts b).length
  usage : ∀ id, nbUtilisateurs b id ≠ 0 → ∃ k, k ≠ "Inconnu" ∧
    (∀ u d, b.doc .utilisateurs u = some d → d .etablissementId = some (.str id) →
      etab texteDe d = k) ∧
    p.usageStats.filter (fun x => x.1 = k) = [(k, nbUtilisateurs b id)]

/-- The statistics are right once they are fetched. -/
def StatsJustes (S : Server) (b : Base) : Prop :=
  ∀ p, (HomeSuperAdmin.fetchStats texteDe).Ends S.handler (fun _ q _ => Justes texteDe b q) p b

/-- The text that the screen's new user is counted under. -/
def etiquette : (e : EcranAjout) → e.Page → String
  | .eleve, p => match p.etablissement with
    | none => "Inconnu"
    | some d => texteDe (.map d)
  | _, _ => "Inconnu"

/-- The new user is counted with the users of his establishment, and with them only. -/
def Range (b : Base) (e : EcranAjout) (p : e.Page) : Prop :=
  etiquette texteDe e p ≠ "Inconnu" ∧ ∀ u d, b.doc .utilisateurs u = some d →
    (d .etablissementId = some (.str (etablissementSaisi e p)) ↔
      etab texteDe d = etiquette texteDe e p)

/-- The intervention stores no user who is not so counted. -/
def SansEcart (b : Base) : Intervention → Prop
  | .creer e p pannes => e.EcritFiche p b pannes → Range texteDe b e p
  | _ => True

end Enonces

/-! ## What is fetched -/

section Preuve

variable {texteDe : Valeur → String} {S : Server} {b b' : Base}

/-- The statistics of the data. -/
theorem ends_fetchStats (texteDe : Valeur → String) (S : Server) (b : Base)
    (p : HomeSuperAdmin) :
    (HomeSuperAdmin.fetchStats texteDe).Ends S.handler (fun _ q _ =>
      q.stats.utilisateurs =
        (b.docs .utilisateurs).rows.length + (b.docs .administrateurs).rows.length ∧
      q.usageStats = tally ((b.docs .utilisateurs).rows.map fun row => etab texteDe row.2)) p b := by
  have htous : ∀ c, (⟨[], none, none⟩ : Query Champ).run (b.docs c) = (b.docs c).rows := fun c =>
    List.filter_eq_self.mpr fun _ _ => rfl
  unfold HomeSuperAdmin.fetchStats
  simp only [bind_eq]
  refine ends_setState_bind.mpr (ends_catching.mpr ?_)
  refine ends_chercher_bind (fun _ => ?_) nofun
  refine ends_chercher_bind (fun _ => ?_) nofun
  refine ends_chercher_bind (fun _ => ?_) nofun
  refine ends_chercher_bind (fun _ => ?_) nofun
  simp only [htous]
  exact ⟨rfl, rfl⟩

/-- Every user is counted with those of his establishment, and with them only. -/
def Classes (texteDe : Valeur → String) (b : Base) : Prop :=
  ∀ u d id, b.doc .utilisateurs u = some d → d .etablissementId = some (.str id) →
    etab texteDe d ≠ "Inconnu" ∧ ∀ u' d', b.doc .utilisateurs u' = some d' →
      (d' .etablissementId = some (.str id) ↔ etab texteDe d' = etab texteDe d)

theorem nbUtilisateurs_ne_zero_iff {id : String} : nbUtilisateurs b id ≠ 0 ↔
    ∃ u d, b.doc .utilisateurs u = some d ∧ d .etablissementId = some (.str id) := by
  unfold nbUtilisateurs
  rw [ne_eq, List.countP_eq_zero]
  constructor
  · intro h
    by_contra hnone
    refine h fun row hrow hstr => hnone ⟨row.1, row.2, ?_, Doc.isStr_get_iff.mp hstr⟩
    exact Table.find_eq_some_iff.mpr hrow
  · rintro ⟨u, d, hd, hid⟩ hall
    exact hall (u, d) (Table.find_eq_some_iff.mp hd) (Doc.isStr_get_iff.mpr hid)

/-- The number of users under a text. -/
theorem count_etab (b : Base) (k : String) :
    ((b.docs .utilisateurs).rows.map fun row => etab texteDe row.2).count k =
      (b.docs .utilisateurs).rows.countP fun row => decide (etab texteDe row.2 = k) := by
  rw [List.count, List.countP_map]
  rfl

/-- The entries are right exactly when the users are put with those of their establishments. -/
theorem usage_iff {q : HomeSuperAdmin} (hq : q.usageStats =
    tally ((b.docs .utilisateurs).rows.map fun row => etab texteDe row.2)) :
    (∀ id, nbUtilisateurs b id ≠ 0 → ∃ k, k ≠ "Inconnu" ∧
      (∀ u d, b.doc .utilisateurs u = some d → d .etablissementId = some (.str id) →
        etab texteDe d = k) ∧
      q.usageStats.filter (fun x => x.1 = k) = [(k, nbUtilisateurs b id)]) ↔
    Classes texteDe b := by
  rw [hq]
  constructor
  · intro h u d id hd hid
    obtain ⟨k, hk, hmembres, hentree⟩ := h id (nbUtilisateurs_ne_zero_iff.mpr ⟨u, d, hd, hid⟩)
    rw [filter_tally, count_etab] at hentree
    split_ifs at hentree with hzero
    have hnombre := (Prod.mk.inj (List.singleton_inj.mp hentree)).2
    rw [hmembres u d hd hid]
    refine ⟨hk, fun u' d' hd' => ⟨hmembres u' d' hd', fun htexte => ?_⟩⟩
    -- nobody else is counted under `k`
    have hautres := of_countP_eq (fun row hrow hstr => ?_) hnombre.symm (u', d')
      (Table.find_eq_some_iff.mp hd') (decide_eq_true htexte)
    · exact Doc.isStr_get_iff.mp hautres
    · exact decide_eq_true (hmembres row.1 row.2 (Table.find_eq_some_iff.mpr hrow)
        (Doc.isStr_get_iff.mp hstr))
  · intro h id hnombre
    obtain ⟨u, d, hd, hid⟩ := nbUtilisateurs_ne_zero_iff.mp hnombre
    obtain ⟨hconnu, hmembres⟩ := h u d id hd hid
    have hegal : ((b.docs .utilisateurs).rows.map fun row => etab texteDe row.2).count
        (etab texteDe d) = nbUtilisateurs b id := by
      rw [count_etab]
      refine List.countP_congr fun row hrow => ?_
      rw [decide_eq_true_eq, Doc.isStr_get_iff]
      exact (hmembres row.1 row.2 (Table.find_eq_some_iff.mpr hrow)).symm
    refine ⟨etab texteDe d, hconnu, fun u' d' hd' => (hmembres u' d' hd').mp, ?_⟩
    rw [filter_tally, hegal, if_neg hnombre]

/-- The state of the data while the statistics are right. -/
structure Bien (texteDe : Valeur → String) (b : Base) : Prop where
  administrateurs : (b.docs .administrateurs).rows = []
  comptes : ∀ u d, b.doc .utilisateurs u = some d → (b.accounts.find u).isSome
  classes : Classes texteDe b

theorem Bien.justes (hb : Bien texteDe b) : StatsJustes texteDe S b := by
  intro p
  refine (ends_fetchStats texteDe S b p).mono ?_
  rintro a q b' ⟨htotal, husage⟩
  refine ⟨?_, (usage_iff husage).mpr hb.classes⟩
  rw [htotal, comptesDistincts, hb.administrateurs, List.filterMap_nil, List.append_nil,
    (Table.keys_nodup _).dedup, List.length_map]
  rfl

theorem StatsJustes.classes (h : StatsJustes texteDe S b) : Classes texteDe b := by
  obtain ⟨-, husage⟩ := ends_fetchStats texteDe S b {}
  exact (usage_iff husage).mp (h {}).usage

theorem Bien.congr (hb : Bien texteDe b) (hu : b'.docs .utilisateurs = b.docs .utilisateurs)
    (ha : b'.docs .administrateurs = b.docs .administrateurs) (hc : b'.accounts = b.accounts) :
    Bien texteDe b' := by
  have hdoc : ∀ u, b'.doc .utilisateurs u = b.doc .utilisateurs u := fun u => by
    rw [Data.doc, hu]
    rfl
  refine ⟨ha ▸ hb.administrateurs, fun u d hd => ?_, fun u d id hd hid => ?_⟩
  · rw [hc]
    exact hb.comptes u d ((hdoc u).symm.trans hd)
  · obtain ⟨hconnu, hmembres⟩ := hb.classes u d id ((hdoc u).symm.trans hd) hid
    exact ⟨hconnu, fun u' d' hd' => hmembres u' d' ((hdoc u').symm.trans hd')⟩

/-! ## One intervention -/

theorem etab_fiche (texteDe : Valeur → String) (e : EcranAjout) (p : e.Page) (u r : String)
    (file : Option String) (now : ℤ) :
    newDoc now (e.fiche p u r file) .etablissementId = some (.str (etablissementSaisi e p)) ∧
      etab texteDe (newDoc now (e.fiche p u r file)) = etiquette texteDe e p := by
  cases e with
  | eleve =>
    refine ⟨rfl, ?_⟩
    have hval : (newDoc now (AjoutEleve.utilisateurData p u r file)).get .etablissement =
        valeurOption (p.etablissement.map .map) := rfl
    show (match (newDoc now (AjoutEleve.utilisateurData p u r file)).get .etablissement with
      | .null => "Inconnu"
      | v => texteDe v) = _
    rw [hval]
    cases h : p.etablissement with
    | none => simp [etiquette, h, valeurOption]
    | some d => simp [etiquette, h, valeurOption]
  | parent => exact ⟨rfl, rfl⟩
  | enseignant => exact ⟨rfl, rfl⟩
  | administrateur => exact ⟨rfl, rfl⟩

/-- What a press does with the accounts and the users. -/
theorem execution_users (texteDe : Valeur → String) (S : Server) (e : EcranAjout) (p : e.Page)
    (b : Base) (f : List (Option Err)) :
    (∀ u, (b.accounts.find u).isSome → ((e.execution S p b f).2.accounts.find u).isSome) ∧
    (¬e.EcritFiche p b f → (e.execution S p b f).2.docs .utilisateurs = b.docs .utilisateurs) ∧
    (e.EcritFiche p b f → ∃ d, (e.execution S p b f).2.docs .utilisateurs =
        (b.docs .utilisateurs).put (S.newId b.accounts) d ∧
      d .etablissementId = some (.str (etablissementSaisi e p)) ∧
      etab texteDe d = etiquette texteDe e p ∧
      ((e.execution S p b f).2.accounts.find (S.newId b.accounts)).isSome) := by
  obtain ⟨havec, hsans⟩ := EcranAjout.execution_fiche S e p b f
  by_cases hc : e.CompteCree p b f
  · have haccounts := (EcranAjout.execution_avec_compte (S := S) hc).accounts
    obtain ⟨r, hfiche⟩ := havec hc
    unfold FicheEcrite at hfiche
    refine ⟨fun u hu => ?_, fun hnon => ?_, fun hecrit => ?_⟩
    · rw [haccounts, Table.find_put]
      split_ifs
      · rfl
      · exact hu
    · rw [hfiche, if_neg fun hf => hnon ⟨hc, hf⟩]
    · rw [if_pos hecrit.2] at hfiche
      obtain ⟨hid, htexte⟩ := etab_fiche texteDe e p (S.newId b.accounts) r
        (e.flux.fichier S p b f) b.clock
      refine ⟨_, hfiche, hid, htexte, ?_⟩
      rw [haccounts, Table.find_put_self]
      rfl
  · obtain ⟨t, ht⟩ := (EcranAjout.execution_sans_compte (S := S) hc).base
    refine ⟨fun u hu => ?_, fun _ => congrFun (hsans hc) _, fun hecrit => absurd hecrit.1 hc⟩
    rw [ht]
    exact hu

/-- An edit of an establishment touches neither the accounts nor the users. -/
theorem intervenir_edition {i : Intervention} (hi : i.edition = true)
    (h : intervenir S b i = some b') : b'.docs .utilisateurs = b.docs .utilisateurs ∧
      b'.docs .administrateurs = b.docs .administrateurs ∧ b'.accounts = b.accounts := by
  cases i with
  | creer e p pannes => exact nomatch hi
  | ajouterEtablissement etab =>
    obtain rfl := Option.some.inj h
    exact ⟨rfl, rfl, rfl⟩
  | modifierEtablissement id etab =>
    obtain rfl := Option.some.inj h
    let r : Requete := .write (.update .etablissements id etab.toMap)
    have hcall : (DepotEtablissement.modifierEtablissement id etab).exec S.handler () b =
        ((S.handler r b).1, (), (S.handler r b).2) := exec_call _ r _ _
    have hexec : execute S (DepotEtablissement.modifierEtablissement id etab) b =
        (S.handler r b).2 := congrArg (fun x => x.2.2) hcall
    rw [hexec]
    refine ⟨docs_handler_of_avoids nofun, docs_handler_of_avoids nofun, ?_⟩
    simp only [r, Server.handler, Write.apply]
    rcases b.doc .etablissements id with _ | d <;> rfl
  | supprimerEtablissement id =>
    obtain rfl := Option.some.inj h
    exact ⟨rfl, rfl, rfl⟩

/-- A press that meets the condition leaves the data so. -/
theorem Bien.execution (hb : Bien texteDe b) {e : EcranAjout} {p : e.Page}
    {f : List (Option Err)} (hc : e.EcritFiche p b f → Range texteDe b e p) :
    Bien texteDe (e.execution S p b f).2 := by
  obtain ⟨hcomptes, hsans, havec⟩ := execution_users texteDe S e p b f
  have hlien : ¬e.EcritLien p b f := by
    rintro ⟨rfl, hecrit, -⟩
    exact (hc hecrit).1 rfl
  have hadmins := EcranAjout.execution_administrateurs (S := S) hlien
  by_cases hecrit : e.EcritFiche p b f
  · obtain ⟨d₀, hdocs, hid₀, htexte₀, hcompte⟩ := havec hecrit
    obtain ⟨hconnu, hranges⟩ := hc hecrit
    have hdoc : ∀ u d, (e.execution S p b f).2.doc .utilisateurs u = some d →
        (u = S.newId b.accounts ∧ d = d₀) ∨ b.doc .utilisateurs u = some d := by
      intro u d hd
      rw [Data.doc, hdocs, Table.find_put] at hd
      split_ifs at hd with hu
      · exact .inl ⟨hu, (Option.some.inj hd).symm⟩
      · exact .inr hd
    refine ⟨hadmins ▸ hb.administrateurs, fun u d hd => ?_, fun u d id hd hid => ?_⟩
    · rcases hdoc u d hd with ⟨rfl, -⟩ | hd
      · exact hcompte
      · exact hcomptes u (hb.comptes u d hd)
    · rcases hdoc u d hd with ⟨-, rfl⟩ | hd
      · -- the new user
        obtain rfl : etablissementSaisi e p = id :=
          Value.str.inj (Option.some.inj (hid₀.symm.trans hid))
        rw [htexte₀]
        refine ⟨hconnu, fun u' d' hd' => ?_⟩
        rcases hdoc u' d' hd' with ⟨-, rfl⟩ | hd'
        · exact iff_of_true hid₀ htexte₀
        · exact hranges u' d' hd'
      · obtain ⟨hconnu', hmembres⟩ := hb.classes u d id hd hid
        refine ⟨hconnu', fun u' d' hd' => ?_⟩
        rcases hdoc u' d' hd' with ⟨-, rfl⟩ | hd'
        · have hrange := hranges u d hd
          rw [hid] at hrange
          rw [hid₀, htexte₀]
          exact eq_comm.trans (hrange.trans eq_comm)
        · exact hmembres u' d' hd'
  · have hdocs := hsans hecrit
    have hdoc : ∀ u, (e.execution S p b f).2.doc .utilisateurs u = b.doc .utilisateurs u :=
      fun u => by
        rw [Data.doc, hdocs]
        rfl
    refine ⟨hadmins ▸ hb.administrateurs, fun u d hd => ?_, fun u d id hd hid => ?_⟩
    · exact hcomptes u (hb.comptes u d ((hdoc u).symm.trans hd))
    · obtain ⟨hconnu, hmembres⟩ := hb.classes u d id ((hdoc u).symm.trans hd) hid
      exact ⟨hconnu, fun u' d' hd' => hmembres u' d' ((hdoc u').symm.trans hd')⟩

/-- A press that stores another user loses the property. -/
theorem Bien.range (hb : Bien texteDe b) {e : EcranAjout} {p : e.Page} {f : List (Option Err)}
    (hecrit : e.EcritFiche p b f) (h : Classes texteDe (e.execution S p b f).2) :
    Range texteDe b e p := by
  obtain ⟨-, -, havec⟩ := execution_users texteDe S e p b f
  obtain ⟨d₀, hdocs, hid₀, htexte₀, -⟩ := havec hecrit
  have hneuf : (e.execution S p b f).2.doc .utilisateurs (S.newId b.accounts) = some d₀ := by
    rw [Data.doc, hdocs, Table.find_put_self]
  obtain ⟨hconnu, hmembres⟩ := h _ d₀ _ hneuf hid₀
  rw [htexte₀] at hconnu hmembres
  refine ⟨hconnu, fun u d hd => hmembres u d ?_⟩
  have hne : u ≠ S.newId b.accounts := by
    rintro rfl
    have hcompte := hb.comptes _ d hd
    rw [Server.find_newId] at hcompte
    cases hcompte
  rw [Data.doc, hdocs, Table.find_put_ne _ hne]
  exact hd

/-- **Statistics.** From data without users, the statistics are right in every state of a run exactly
when each press that stores a user stores one who is counted with the users of his establishment, and
with them only: a student, with the copy of his establishment that they have. -/
theorem statsJustes_iff (texteDe : Valeur → String) (S : Server) {b : Base}
    (hb : SansUtilisateur b) (is : List Intervention) :
    Always (intervenir S) (StatsJustes texteDe S) b is ↔
      AllMeet (intervenir S) (SansEcart texteDe) b is := by
  have hvide : ∀ u, b.doc .utilisateurs u = none := by
    intro u
    refine Table.find_eq_none_iff.mpr fun d hd => ?_
    rw [hb.utilisateurs] at hd
    exact List.not_mem_nil hd
  have hdepart : Bien texteDe b := by
    refine ⟨hb.administrateurs, fun u d hd => ?_, fun u d id hd => ?_⟩
    · exact nomatch (hvide u).symm.trans hd
    · exact nomatch (hvide u).symm.trans hd
  refine always_iff_allMeet_of_loss (P := StatsJustes texteDe S) (Q := Bien texteDe)
    (fun _ hb => hb.justes) ?_ ?_ hdepart is
  · intro b i b' hb hstep hc
    cases i with
    | creer e p pannes =>
      obtain rfl := Option.some.inj hstep
      exact hb.execution hc
    | _ =>
      obtain ⟨hu, ha, hcomptes⟩ := intervenir_edition rfl hstep
      exact hb.congr hu ha hcomptes
  · intro b i b' hb hstep hc hj
    cases i with
    | creer e p pannes =>
      obtain rfl := Option.some.inj hstep
      exact hc fun hecrit => hb.range hecrit hj.classes
    | _ => exact hc trivial

end Preuve

/-! ## Runs of a school -/

/-- `toString` of the copy of an establishment, with its fields in the order they are written. -/
def texteEtablissement : Valeur → String
  | .str s => s
  | .map m =>
    let champs := [(Champ.nom, "nom"), (.type, "type"), (.description, "description"),
      (.adresse, "adresse"), (.ville, "ville"), (.region, "region"), (.pays, "pays"),
      (.codePostal, "codePostal"), (.email, "email"), (.telephone, "telephone")]
    "\x7b" ++ ", ".intercalate (champs.filterMap fun x =>
      match m x.1 with
      | some (.str s) => some (x.2 ++ ": " ++ s)
      | _ => none) ++ "\x7d"
  | _ => ""

/-- The school `e1`, under a name it may have. -/
def lycee (nom : String) : EtablissementModele where
  id := "e1"
  nom := nom
  type := "Public"
  description := "Lycée"
  adresse := "Rue 1"
  ville := "Douala"
  region := "Littoral"
  pays := "Cameroun"
  codePostal := "0000"
  email := "lycee@ecole.cm"
  telephone := "600000000"

/-- The school with a class, before anybody has an account. -/
def lyceeVide : Base where
  docs
    | .roles => Table.ofRows
      [("r1", newDoc 0 [texte .nom "administrateur"]), ("r2", newDoc 0 [texte .nom "parent"]),
        ("r3", newDoc 0 [texte .nom "eleve"])]
    | .etablissements => Table.ofRows [("e1", newDoc 0 (lycee "Joss").toMap)]
    | .classes => Table.ofRows [("c1", newDoc 0 [texte .nom "3e A"])]
    | _ => Table.empty

def saisieDe (email : String) : Saisie where
  nom := "Ngono"
  prenom := "Awa"
  email := email
  telephone := "600000000"
  adresse := "Douala"
  motDePasse := "secret"

/-- A student of the school is created, on a page that has loaded it under a name. -/
def unEleve (email nom : String) : Intervention := .creer .eleve {
  etablissementId := "e1"
  nom := "Ngono"
  prenom := "Awa"
  email := email
  telephone := "600000000"
  adresse := "Douala"
  motDePasse := "secret"
  etablissement := some (newDoc 0 (lycee nom).toMap)
  classeIdSelectionne := some "c1" } []

def unParent : Intervention :=
  .creer .parent { toSaisie := saisieDe "p@ecole.cm", etablissementId := "e1" } []

def unAdministrateur : Intervention :=
  .creer .administrateur
    { toSaisie := saisieDe "a@ecole.cm", etablissementIdSelectionne := some "e1" } []

/-- The page shows another total, or no entry for the users of `id`. -/
def fausses (texteDe : Valeur → String) (S : Server) (id : String) (b : Base) : Bool :=
  let p := ((HomeSuperAdmin.fetchStats texteDe).exec S.handler {} b).2.1
  decide (p.stats.utilisateurs ≠ (comptesDistincts b).length) ||
    decide (nbUtilisateurs b id ≠ 0) &&
      p.usageStats.all fun x => decide (x.1 = "Inconnu" ∨ x.2 ≠ nbUtilisateurs b id)

theorem not_statsJustes_of_fausses {texteDe : Valeur → String} {S : Server} {id : String}
    {b : Base} (h : fausses texteDe S id b = true) : ¬StatsJustes texteDe S b := by
  intro hj
  obtain ⟨htotal, husage⟩ := hj {}
  unfold fausses at h
  rcases Bool.or_eq_true_iff.mp h with h | h
  · exact of_decide_eq_true h htotal
  · obtain ⟨hnombre, htous⟩ := Bool.and_eq_true_iff.mp h
    obtain ⟨k, hk, -, hentree⟩ := husage id (of_decide_eq_true hnombre)
    have hmem : (k, nbUtilisateurs b id) ∈ List.filter (fun x => x.1 = k) _ :=
      hentree ▸ List.mem_singleton.mpr rfl
    have hx := of_decide_eq_true (List.all_eq_true.mp htous _ (List.mem_filter.mp hmem).1)
    exact hx.elim hk fun hne => hne rfl

/-- A test of the condition. -/
def rangeable (texteDe : Valeur → String) (b : Base) : Intervention → Bool
  | .creer e p _ => decide (etiquette texteDe e p ≠ "Inconnu") &&
    (b.docs .utilisateurs).rows.all fun row =>
      (row.2.get .etablissementId).isStr (etablissementSaisi e p) =
        decide (etab texteDe row.2 = etiquette texteDe e p)
  | _ => true

theorem sansEcart_of_rangeable {texteDe : Valeur → String} {b : Base} {i : Intervention}
    (h : rangeable texteDe b i = true) : SansEcart texteDe b i := by
  cases i with
  | creer e p pannes =>
    intro _
    obtain ⟨hconnu, htous⟩ := Bool.and_eq_true_iff.mp h
    refine ⟨of_decide_eq_true hconnu, fun u d hd => ?_⟩
    have hrow := of_decide_eq_true
      (List.all_eq_true.mp htous (u, d) (Table.find_eq_some_iff.mp hd))
    rw [← Doc.isStr_get_iff, hrow, decide_eq_true_eq]
  | _ => trivial

/-- Two students stored with the same copy of their school, which is renamed afterwards. -/
theorem statsJustes_iff_lyceeVide :
    Always (intervenir (Server.longest 10)) (StatsJustes texteEtablissement (Server.longest 10))
      lyceeVide [unEleve "e@ecole.cm" "Joss", unEleve "f@ecole.cm" "Joss",
        .modifierEtablissement "e1" (lycee "Leclerc")] :=
  (statsJustes_iff texteEtablissement (Server.longest 10) ⟨rfl, rfl⟩ _).mpr
    (allMeet_of_checkAll (rangeable texteEtablissement) (fun _ _ => sansEcart_of_rangeable)
      (by decide +kernel))

/-- An administrator is counted twice, a parent is counted under `'Inconnu'`, and two students of a
school that is renamed between them are counted under two names. -/
theorem not_statsJustes :
    ¬Always (intervenir (Server.longest 10))
      (StatsJustes texteEtablissement (Server.longest 10)) lyceeVide [unAdministrateur] ∧
    ¬Always (intervenir (Server.longest 10))
      (StatsJustes texteEtablissement (Server.longest 10)) lyceeVide [unParent] ∧
    ¬Always (intervenir (Server.longest 10))
      (StatsJustes texteEtablissement (Server.longest 10)) lyceeVide [unEleve "e@ecole.cm" "Joss",
        .modifierEtablissement "e1" (lycee "Leclerc"), unEleve "f@ecole.cm" "Leclerc"] := by
  have hfaux : ∀ is : List Intervention, ((is.foldlM (intervenir (Server.longest 10)) lyceeVide).any
      (fausses texteEtablissement (Server.longest 10) "e1")) = true →
      ¬Always (intervenir (Server.longest 10))
        (StatsJustes texteEtablissement (Server.longest 10)) lyceeVide is := fun _ =>
    not_always_of_final (fausses texteEtablissement (Server.longest 10) "e1")
      fun _ => not_statsJustes_of_fausses
  exact ⟨hfaux _ (by decide +kernel), hfaux _ (by decide +kernel), hfaux _ (by decide +kernel)⟩

end EduConnect.SuperAdmin
