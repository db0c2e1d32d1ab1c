import EduConnect.Commun.Ecrans

/-!
# The grades, from the teachers to the families

A student and his parents see every grade that was entered for him, last first, with its mention;
whatever the clients do, none of them changes or leaves the list.
-/

namespace EduConnect.Familles

open Lib Prog

variable {S : Server} {b b' : Base} {e : String}

/-- The tiles that can be built. -/
def lignes (docs : List (String × Document)) : List (String × LigneNote) :=
  docs.filterMap fun doc => (LigneNote.fromDoc doc.2).toOption.map fun l => (doc.1, l)

/-- The grades of a student, as his page and those of his parents list them. -/
def releve (b : Base) (e : String) : List (String × LigneNote) :=
  lignes ((requeteNotes e).run (b.docs .notes))

/-- The body of a page with these tiles. -/
def corpsDe : List (String × LigneNote) → Corps
  | [] => .texte "Aucune note trouvée."
  | l => .liste (l.map fun x => (x.1, .ok x.2))

/-- The list has each grade of the student once, the last ones first, with the mention of its value. -/
structure Releve (b : Base) (e : String) (l : List (String × LigneNote)) : Prop where
  ids : (l.map Prod.fst).Nodup
  mem : ∀ id x, (id, x) ∈ l ↔ ∃ d, b.doc .notes id = some d ∧ d .eleveId = some (.str e) ∧
    LigneNote.fromDoc d = .ok x
  ordre : l.Pairwise fun x y => ∃ t t', x.2.date = some t ∧ y.2.date = some t' ∧ t' ≤ t
  mention : ∀ x ∈ l, ∃ v : Double, x.2.valeur = v.toText ∧ x.2.mention = Enseignant.getMention v

/-! ## The tiles -/

/-- The tile of a grade. -/
theorem fromDoc_saisie {d : Document} (hd : NoteSaisie d) : ∃ l v t, LigneNote.fromDoc d = .ok l ∧
    (l.valeur = v.toText ∧ l.mention = Enseignant.getMention v) ∧ l.date = some t ∧
      d .date = some (.stamp t) := by
  obtain ⟨v, hv, hmention⟩ := hd.valeur
  obtain ⟨m, hm⟩ := hd.matiereId
  obtain ⟨t, ht⟩ := hd.date
  have hget : ∀ {f : Champ} {w : Valeur}, d f = some w → d.get f = w := fun h => by rw [Doc.get, h]; rfl
  obtain ⟨detail, hdetail⟩ : ∃ s, LigneNote.detailDe d = .ok s := by
    unfold LigneNote.detailDe
    obtain ⟨htype, s, hs⟩ | ⟨htype, s, hs⟩ := hd.type
    · rw [hget htype, hget hs]
      exact ⟨_, rfl⟩
    · rw [hget htype, hget hs]
      exact ⟨_, rfl⟩
  refine ⟨⟨m, v.toText, Enseignant.getMention v, detail, some t⟩, v, t, ?_, ⟨rfl, rfl⟩, rfl, ht⟩
  unfold LigneNote.fromDoc
  rw [hget hm, hget hv, hget hmention, hdetail, hget ht]
  rfl

theorem mem_lignes {docs : List (String × Document)} {id : String} {l : LigneNote} :
    (id, l) ∈ lignes docs ↔ ∃ d, (id, d) ∈ docs ∧ LigneNote.fromDoc d = .ok l := by
  simp only [lignes, List.mem_filterMap, Option.map_eq_some_iff, toOption_eq_some_iff, Prod.mk.injEq]
  constructor
  · rintro ⟨doc, hdoc, l', hl, rfl, rfl⟩
    exact ⟨doc.2, hdoc, hl⟩
  · exact fun ⟨d, hd, hl⟩ => ⟨(id, d), hd, l, hl, rfl, rfl⟩

theorem lignes_ids_sublist (docs : List (String × Document)) :
    ((lignes docs).map Prod.fst).Sublist (docs.map Prod.fst) := by
  induction docs with
  | nil => exact .slnil
  | cons doc docs ih =>
    unfold lignes at ih ⊢
    rcases hdoc : LigneNote.fromDoc doc.2 with e | l
    · simpa [hdoc, Except.toOption] using ih.cons doc.1
    · simpa [hdoc, Except.toOption] using ih

/-- The body of a page whose tiles can all be built. -/
theorem corps_docs {docs : List (String × Document)}
    (h : ∀ doc ∈ docs, ∃ l, LigneNote.fromDoc doc.2 = .ok l) :
    (Emission.docs docs).corps = corpsDe (lignes docs) := by
  have hmap : docs.map (fun doc => (doc.1, LigneNote.fromDoc doc.2)) =
      (lignes docs).map fun x => (x.1, .ok x.2) := by
    induction docs with
    | nil => rfl
    | cons doc docs ih =>
      obtain ⟨l, hl⟩ := h doc List.mem_cons_self
      have ih := ih fun doc' hdoc' => h doc' (List.mem_cons_of_mem doc hdoc')
      unfold lignes at ih ⊢
      simpa [hl, Except.toOption] using ih
  cases docs with
  | nil => rfl
  | cons doc docs =>
    show Corps.liste _ = _
    rw [hmap]
    rcases hl : lignes (doc :: docs) with _ | ⟨x, l⟩
    · rw [hl] at hmap
      cases hmap
    · rfl

/-! ## The list of a student -/

/-- In a store in order, a grade of the list is as it was entered. -/
theorem saisie_of_mem (hb : EnOrdre b) {id : String} {d : Document}
    (hd : (id, d) ∈ (requeteNotes e).run (b.docs .notes)) :
    NoteSaisie d ∧ b.doc .notes id = some d ∧ d .eleveId = some (.str e) := by
  obtain ⟨hfind, hsat, -⟩ := Query.mem_run_orderBy.mp hd
  have he := hsat _ List.mem_cons_self
  rw [Filter.sat_isEqualTo_str] at he
  exact ⟨hb.saisie .notes rfl id d hfind, hfind, he⟩

theorem releve_juste (hb : EnOrdre b) : Releve b e (releve b e) where
  ids := by
    have hnodup : (((requeteNotes e).run (b.docs .notes)).map Prod.fst).Nodup := by
      refine ((Query.run_orderBy_perm _).map Prod.fst).nodup_iff.mpr ?_
      exact ((List.filter_sublist.trans List.filter_sublist).map Prod.fst).nodup
        (b.docs .notes).keys_nodup
    exact (lignes_ids_sublist _).nodup hnodup
  mem id x := by
    rw [releve, mem_lignes]
    refine exists_congr fun d => ?_
    constructor
    · rintro ⟨hd, hx⟩
      obtain ⟨-, hfind, he⟩ := saisie_of_mem hb hd
      exact ⟨hfind, he, hx⟩
    · rintro ⟨hfind, he, hx⟩
      obtain ⟨t, ht⟩ := (hb.saisie .notes rfl id d hfind).date
      refine ⟨Query.mem_run_orderBy.mpr ⟨hfind, fun c hc => ?_, by rw [ht]; rfl⟩, hx⟩
      obtain rfl := List.mem_singleton.mp hc
      exact Filter.sat_isEqualTo_str.mpr he
  ordre := by
    refine List.pairwise_filterMap.mpr ((Query.pairwise_run_desc _ _ _).imp_of_mem ?_)
    rintro ⟨id, d⟩ ⟨id', d'⟩ hd hd' hle x hx y hy
    obtain ⟨l, -, t, hl, -, hlt, ht⟩ := fromDoc_saisie (saisie_of_mem hb hd).1
    obtain ⟨l', -, t', hl', -, hlt', ht'⟩ := fromDoc_saisie (saisie_of_mem hb hd').1
    simp only [hl, hl', Except.toOption, Option.map_some, Option.some.injEq] at hx hy
    subst hx hy
    refine ⟨t, t', hlt, hlt', ?_⟩
    simpa [Doc.get, ht, ht', Value.le] using hle
  mention := by
    rintro ⟨id, l⟩ hl
    obtain ⟨d, hd, hdl⟩ := mem_lignes.mp hl
    obtain ⟨l', v, t, hl', hv, -, -⟩ := fromDoc_saisie (saisie_of_mem hb hd).1
    obtain rfl := Except.ok.inj (hdl.symm.trans hl')
    exact ⟨v, hv⟩

/-- Where no grade is deleted or altered, the list keeps its tiles, in their order. -/
theorem releve_sublist (hb : EnOrdre b) (h : Evolves politique .notes b b') :
    (releve b e).Sublist (releve b' e) := by
  have hkeep : ∀ id d, (b.docs .notes).find id = some d → (b'.docs .notes).find id = some d := by
    intro id d hd
    obtain ⟨d', hd'⟩ := h.stays rfl id d hd
    obtain ⟨d₀, hd₀, hsame⟩ := h.same id (hb.registre .notes rfl id d hd) d' hd'
    obtain rfl := Option.some.inj (hd₀.symm.trans hd)
    obtain rfl : d' = d₀ := funext fun f => hsame f rfl
    exact hd'
  unfold releve requeteNotes
  rw [Query.run_desc_eq_filter hkeep]
  exact List.filter_sublist.filterMap _

/-! ## The pages -/

theorem ends_snapshots {σ : Type} {s : σ} (hb : EnOrdre b) :
    (snapshots e : Action Unit σ Emission).Ends S.handler (fun r s' b' => ∃ m, r = .ok m ∧ s' = s ∧
      b' = b ∧ m.corps = corpsDe (releve b e)) s b := by
  unfold snapshots
  refine ends_catching.mpr (ends_bind.mpr ((ends_requete _ _ _).mpr ?_))
  have haccepte : (requeteNotes e).filters.any (Filter.refused S.maxIn) = false := rfl
  rw [haccepte, if_neg Bool.false_ne_true]
  refine ⟨_, rfl, rfl, rfl, corps_docs fun ⟨id, d⟩ hd => ?_⟩
  obtain ⟨l, -, -, hl, -⟩ := fromDoc_saisie (saisie_of_mem hb hd).1
  exact ⟨l, hl⟩

/-- The page of a parent lists the grades of the child. -/
theorem NotesEnfantPage.ends_recevoir (hb : EnOrdre b) {p : NotesEnfantPage} (hp : p.enfantId = e) :
    recevoir.Ends S.handler (fun r p' b' => (r = .ok () ∧ b' = b) ∧
      p'.body = corpsDe (releve b e)) p b := by
  unfold recevoir
  rw [bind_eq]
  refine ends_page_bind.mpr ?_
  rw [hp, bind_eq]
  refine ends_bind.mpr ((ends_snapshots hb).mono fun r s' b' h => ?_)
  obtain ⟨m, rfl, rfl, rfl, hm⟩ := h
  exact ⟨⟨rfl, rfl⟩, hm⟩

/-- The page of a student lists his grades. -/
theorem NotesElevePage.ends_recevoir (hb : EnOrdre b) {p : NotesElevePage} {d : Document}
    (hp : p.utilisateurId = e) (hd : b.doc .eleves e = some d) :
    (chargerInfosEleve.bind fun _ => recevoir).Ends S.handler (fun r p' b' => (r = .ok () ∧ b' = b) ∧
      p'.body = corpsDe (releve b e)) p b := by
  have hligne : (⟨[.isEqualTo .utilisateurId (.str p.utilisateurId)], none, some 1⟩ :
      Query Champ).run (b.docs .eleves) = [(e, d)] := by
    rw [Query.run_premier_of_id (hb.nom .eleves .utilisateurId List.mem_cons_self), hp]
    show ((b.doc .eleves e).map _).toList = _
    rw [hd]
    rfl
  refine ends_bind.mpr (ends_catching.mpr (ends_page_bind.mpr (ends_chercherPremier_bind (fun _ => ?_)
    fun h => absurd h Bool.false_ne_true)))
  rw [hligne]
  refine (ends_setState _).mpr ?_
  unfold recevoir
  rw [bind_eq]
  refine ends_page_bind.mpr ?_
  refine ends_bind.mpr ((ends_snapshots hb).mono fun r s' b' h => ?_)
  obtain ⟨m, rfl, rfl, rfl, hm⟩ := h
  exact ⟨⟨rfl, rfl⟩, hm⟩

end EduConnect.Familles

namespace EduConnect

open Lib Prog Enseignant Admin SuperAdmin Familles

section Runs

variable {ι : Type} [DecidableEq ι]

/-- **Every grade that was entered for a student is on his page and on those of his parents**, once, last
first, with the mention of its value, and whatever the clients do next it stays there as it is. -/
theorem application_releves {S : Server} {z : Calendrier}
    {pages : ι → (e : Ecran) → (e.vue z).Page} {as as' : List (Act ι (GesteClient z) Base)}
    {s s' : Ensemble ι z}
    (hs : as.foldlM (Sys.closedStep (application ι S z)) (Sys.init baseVide pages) = some s)
    (hs' : as'.foldlM (Sys.closedStep (application ι S z)) s = some s') (e : String) :
    Releve s.base e (releve s.base e) ∧ (releve s.base e).Sublist (releve s'.base e) ∧
      (∀ p : NotesEnfantPage, p.enfantId = e → NotesEnfantPage.recevoir.Ends S.handler
        (fun r p' b' => (r = .ok () ∧ b' = s.base) ∧ p'.body = corpsDe (releve s.base e)) p s.base) ∧
      ∀ (p : NotesElevePage) (d : Document), p.utilisateurId = e → s.base.doc .eleves e = some d →
        (NotesElevePage.chargerInfosEleve.bind fun _ => NotesElevePage.recevoir).Ends S.handler
          (fun r p' b' => (r = .ok () ∧ b' = s.base) ∧ p'.body = corpsDe (releve s.base e)) p
          s.base := by
  obtain ⟨⟨-, hordre⟩, hevolue⟩ := application_evolue hs hs'
  exact ⟨releve_juste hordre, releve_sublist hordre (hevolue .notes rfl),
    fun p hp => NotesEnfantPage.ends_recevoir hordre hp,
    fun p d hp hd => NotesElevePage.ends_recevoir hordre hp hd⟩

end Runs

/-! ### A run -/

/-- A request is answered. -/
def tour : List (Act Unit (GesteClient tempsUniversel) Base) := [.serve 0, .resume 0]

/-- The role of the students and a student are added, -/
def ajoutDEleve : List (Act Unit (GesteClient tempsUniversel) Base) :=
  [.event () ⟨.ajoutRole, .inl { nom := "eleve", description := "Un élève" }⟩,
    .event () ⟨.ajoutRole, .inr ()⟩] ++ tour ++
  [.event () ⟨.ajout .eleve, .inl ({
      etablissementId := "e", nom := "Abena", prenom := "Luc", email := "luc@abena.cm"
      telephone := "6", adresse := "Yaoundé", motDePasse := "secret"
      etablissement := some fun _ => none, classeIdSelectionne := some "c" } : AjoutEleve)⟩,
    .event () ⟨.ajout .eleve, .inr ()⟩] ++ (List.replicate 5 tour).flatten

/-- a grade of his is saved, -/
def saisieDeNote : List (Act Unit (GesteClient tempsUniversel) Base) :=
  .event () ⟨.notes, .enregistrer ⟨"1er mars", fun _ => 0, fun _ _ => 0, fun _ => 0⟩⟩ ::
    (List.replicate 3 tour).flatten ++ [.serve 0]

/-- and the families are notified. -/
def finDeSaisie : List (Act Unit (GesteClient tempsUniversel) Base) :=
  .resume 0 :: (List.replicate 3 tour).flatten

/-- The screens, with a form of grades that is filled in for the student `x`. -/
def pagesDeSaisie (e : Ecran) : (e.vue tempsUniversel).Page :=
  Function.update (pagesVides tempsUniversel) .notes
    ({  etablissementId := "e", utilisateurId := "t", loading := false
        classesAvecMatieres := [⟨"c", "6e", "", ["m"], ["x"]⟩], classeChoisieId := some "c"
        matiereChoisieId := some "m", typeNote := some .exercice, descriptionExercice := "Calcul"
        notesStr := Table.empty.put "x" "15" } : NotesPage) e

/-- His only grade stays. -/
theorem application_releves_note :
    ∃ s s', (ajoutDEleve ++ saisieDeNote).foldlM
        (Sys.closedStep (application Unit (Server.longest 30) tempsUniversel))
          (Sys.init baseVide fun _ => pagesDeSaisie) = some s ∧
      finDeSaisie.foldlM
        (Sys.closedStep (application Unit (Server.longest 30) tempsUniversel)) s = some s' ∧
      (releve s.base "x").length = 1 ∧ (releve s.base "x").Sublist (releve s'.base "x") := by
  have h : (((ajoutDEleve ++ saisieDeNote).foldlM
      (Sys.closedStep (application Unit (Server.longest 30) tempsUniversel))
        (Sys.init baseVide fun _ => pagesDeSaisie)).bind fun s =>
      (finDeSaisie.foldlM (Sys.closedStep (application Unit (Server.longest 30) tempsUniversel))
        s).map fun _ => (releve s.base "x").length) = some 1 := by decide +kernel
  obtain ⟨s, hs, h⟩ := Option.bind_eq_some_iff.mp h
  obtain ⟨s', hs', hlength⟩ := Option.map_eq_some_iff.mp h
  exact ⟨s, s', hs, hs', hlength, (application_releves hs hs' "x").2.1⟩

end EduConnect
