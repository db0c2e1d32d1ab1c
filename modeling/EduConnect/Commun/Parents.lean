import EduConnect.Commun.Ecrans
import EduConnect.Donnees.Atomicite

/-!
# The parents, in the states of the application

`ModifierParent` is opened on the id of a `parents` document and reads a user under it.  The two ids
are the same in every state that the clients reach, so a card of `ListeParents` opens on the account
that it shows.
-/

namespace EduConnect.Admin

open Lib Prog Donnees Messagerie

variable {S : Server} {b : Base} {E : String}

/-- A card of the establishment: a parent and a user stored under one id. -/
structure CarteDe (b : Base) (E : String) (x : ParentModele × UtilisateurModele) : Prop where
  parent : ∃ d, b.doc .parents x.1.id = some d ∧ ParentModele.fromMap d x.1.id = .ok x.1
  utilisateur : ∃ d, b.doc .utilisateurs x.1.id = some d ∧ d .etablissementId = some (.str E) ∧
    UtilisateurModele.fromMap d x.1.id = .ok x.2

theorem CarteDe.id_eq {x : ParentModele × UtilisateurModele} (h : CarteDe b E x) : x.2.id = x.1.id := by
  obtain ⟨d, -, -, hd⟩ := h.utilisateur
  exact UtilisateurModele.id_of_fromMap hd

/-- A parent refers to the user of his id. -/
theorem parent_enOrdre (hb : EnOrdre b) {d : Document} {id : String} {m : ParentModele}
    (hd : b.doc .parents id = some d) (hm : ParentModele.fromMap d id = .ok m) :
    m = ⟨id, id⟩ := by
  obtain ⟨u, hu, hm⟩ := bind_eq_ok_iff.mp hm
  have hnom : d .utilisateurId = some (.str id) :=
    hb.nom .parents .utilisateurId List.mem_cons_self id d hd
  rw [Doc.get, hnom] at hu
  obtain rfl := Except.ok.inj hu
  exact (Except.ok.inj hm).symm

/-- In a store in order, the two documents make a card. -/
theorem carteDe_of_docs (hb : BienType b) {id : String} {d d' : Document}
    (hd : b.doc .parents id = some d) (hd' : b.doc .utilisateurs id = some d')
    (hE : d' .etablissementId = some (.str E)) : ∃ x, CarteDe b E x ∧ x.1.id = id := by
  obtain ⟨u, hu⟩ := utilisateur_lisible (hb _ id d' hd') id
  obtain ⟨v, hv⟩ := (hb _ id d hd .utilisateurId).orStr ""
  exact ⟨(⟨id, v⟩, u), ⟨⟨d, hd, bind_eq_ok_iff.mpr ⟨v, hv, rfl⟩⟩, d', hd', hE, hu⟩, rfl⟩

/-! ## The list -/

namespace ListeParents

variable {p p' : ListeParents} {toLowerCase : String → String}

/-- What the search keeps. -/
def Retient (toLowerCase : String → String) (p : ListeParents) (u : UtilisateurModele) : Prop :=
  p.searchQuery = "" ∨ SuperAdmin.contient (toLowerCase (u.nom ++ " " ++ u.prenom))
    (toLowerCase p.searchQuery) = true

/-- The page is another state of the same list. -/
structure Meme (p p' : ListeParents) : Prop where
  etablissementId : p'.etablissementId = p.etablissementId
  searchQuery : p'.searchQuery = p.searchQuery

/-- The page shows the cards of its establishment, each once. -/
structure Montre (b : Base) (p : ListeParents) : Prop where
  error : p.error = none
  isLoading : p.isLoading = false
  cartes : ∀ toLowerCase, Exactement (fun x => x.1.id)
    (fun x => CarteDe b p.etablissementId x ∧ p.Retient toLowerCase x.2) (p.cartes toLowerCase)

theorem mem_cartes {m : ParentModele} {u : UtilisateurModele} : (m, u) ∈ p.cartes toLowerCase ↔
    m ∈ p.parents ∧ p.utilisateur m.utilisateurId = some u ∧ p.Retient toLowerCase u := by
  have hcarte : (m, u) ∈ p.cartes toLowerCase ↔
      m ∈ p.filtrerParents toLowerCase ∧ p.utilisateur m.utilisateurId = some u := by
    simp only [cartes, List.mem_filterMap, Option.map_eq_some_iff, Prod.mk.injEq]
    constructor
    · rintro ⟨m, hm, u, hu, rfl, rfl⟩
      exact ⟨hm, hu⟩
    · exact fun ⟨hm, hu⟩ => ⟨m, hm, u, hu, rfl, rfl⟩
  rw [hcarte]
  unfold filtrerParents Retient
  by_cases hq : p.searchQuery = ""
  · simp [hq]
  · rw [if_neg hq, List.mem_filter]
    constructor
    · rintro ⟨⟨hm, htest⟩, hu⟩
      rw [hu] at htest
      exact ⟨hm, hu, .inr htest⟩
    · rintro ⟨hm, hu, hretient⟩
      refine ⟨⟨hm, ?_⟩, hu⟩
      rw [hu]
      exact hretient.resolve_left hq

/-- The cards are some of the parents, in their order. -/
theorem cartes_sublist : ((p.cartes toLowerCase).map Prod.fst).Sublist p.parents := by
  have hfst : ∀ l : List ParentModele, ((l.filterMap fun m =>
      (p.utilisateur m.utilisateurId).map fun u => (m, u)).map Prod.fst).Sublist l := by
    intro l
    induction l with
    | nil => exact .slnil
    | cons m l ih =>
      rcases hu : p.utilisateur m.utilisateurId with _ | u
      · simpa [hu] using ih.cons m
      · simpa [hu] using ih
  refine (hfst _).trans ?_
  unfold filtrerParents
  split_ifs
  · exact .refl _
  · exact List.filter_sublist

/-- A row of the map: an account under its id. -/
theorem compte_eq_ok_iff {d : Document} {id : String} {a : String × UtilisateurModele} :
    (do return (id, ← UtilisateurModele.fromMap d id) : Except Err _) = .ok a ↔
      a.1 = id ∧ UtilisateurModele.fromMap d id = .ok a.2 := by
  constructor
  · intro h
    obtain ⟨u, hu, h⟩ := bind_eq_ok_iff.mp h
    obtain rfl := Except.ok.inj h
    exact ⟨rfl, hu⟩
  · rintro ⟨rfl, hu⟩
    exact bind_eq_ok_iff.mpr ⟨a.2, hu, rfl⟩

/-- The accounts of the map are those of the establishment. -/
theorem utilisateur_iff (hmap : ((⟨[.isEqualTo .etablissementId (.str E)], none, none⟩ :
      Query Champ).run (b.docs .utilisateurs)).mapM (fun doc => do
        return (doc.1, ← UtilisateurModele.fromMap doc.2 doc.1)) = Except.ok p.utilisateursMap)
    {id : String} {u : UtilisateurModele} : p.utilisateur id = some u ↔
      ∃ d, b.doc .utilisateurs id = some d ∧ d .etablissementId = some (.str E) ∧
        UtilisateurModele.fromMap d id = .ok u := by
  unfold utilisateur
  rw [find_decode (fun doc a ha => (compte_eq_ok_iff.mp ha).1) hmap]
  simp only [Option.map_eq_some_iff, Option.bind_eq_some_iff, Option.filter_eq_some_iff,
    toOption_eq_some_iff, compte_eq_ok_iff, List.all_cons, List.all_nil, Bool.and_true,
    Filter.sat_isEqualTo_str]
  constructor
  · rintro ⟨a, ⟨d, ⟨hd, hE⟩, -, hu⟩, rfl⟩
    exact ⟨d, hd, hE, hu⟩
  · rintro ⟨d, hd, hE, hu⟩
    exact ⟨(id, u), ⟨d, ⟨hd, hE⟩, rfl, hu⟩, rfl⟩

/-- The cards of a page with the accounts of the establishment and the parents that have one. -/
theorem exactement_cartes (ho : EnOrdre b) {ms : List ParentModele}
    (hmap : ((⟨[.isEqualTo .etablissementId (.str E)], none, none⟩ : Query Champ).run
      (b.docs .utilisateurs)).mapM (fun doc => do
        return (doc.1, ← UtilisateurModele.fromMap doc.2 doc.1)) = Except.ok p.utilisateursMap)
    (hms : ((⟨[], none, none⟩ : Query Champ).run (b.docs .parents)).mapM
      (fun doc => ParentModele.fromMap doc.2 doc.1) = Except.ok ms)
    (hp : p.parents = ms.filter fun m => (p.utilisateur m.utilisateurId).isSome) :
    Exactement (fun x => x.1.id) (fun x => CarteDe b E x ∧ p.Retient toLowerCase x.2)
      (p.cartes toLowerCase) := by
  have hid : ∀ d i m, ParentModele.fromMap d i = .ok m → m.id = i := by
    intro d i m hm
    obtain ⟨u, -, hm⟩ := bind_eq_ok_iff.mp hm
    exact congrArg ParentModele.id (Except.ok.inj hm).symm
  obtain ⟨hnodup, hmem⟩ := modeles_exacts hid (.refl _) hms
  refine ⟨?_, fun ⟨m, u⟩ => ?_⟩
  · have hsub : ((p.cartes toLowerCase).map Prod.fst).Sublist ms := by
      refine cartes_sublist.trans ?_
      rw [hp]
      exact List.filter_sublist
    have hids := (hsub.map ParentModele.id).nodup hnodup
    rwa [List.map_map] at hids
  · rw [mem_cartes, hp, List.mem_filter, hmem]
    constructor
    · rintro ⟨⟨⟨d, hd, -, hm⟩, -⟩, hu, hretient⟩
      have hidem : m.utilisateurId = m.id :=
        congrArg ParentModele.utilisateurId (parent_enOrdre ho hd hm)
      exact ⟨⟨⟨d, hd, hm⟩, (utilisateur_iff hmap).mp (hidem ▸ hu)⟩, hretient⟩
    · rintro ⟨⟨⟨d, hd, hm⟩, hutilisateur⟩, hretient⟩
      have hidem : m.utilisateurId = m.id :=
        congrArg ParentModele.utilisateurId (parent_enOrdre ho hd hm)
      have hu : p.utilisateur m.utilisateurId = some u := hidem ▸ (utilisateur_iff hmap).mpr hutilisateur
      exact ⟨⟨⟨d, hd, fun x hx => absurd hx List.not_mem_nil, hm⟩, Option.isSome_of_eq_some hu⟩, hu,
        hretient⟩

/-- **In a store in order, a load shows the cards of the establishment.** -/
theorem ends_chargerDonnees (hb : BienType b) (ho : EnOrdre b) (p : ListeParents) :
    chargerDonnees.Ends S.handler (fun r p' b' => (r = .ok () ∧ b' = b) ∧
      (p.Meme p' ∧ p'.messages = p.messages) ∧ p'.Montre b) p b := by
  obtain ⟨us, hus⟩ := exists_mapM_run (b := b) (c := .utilisateurs) (f := fun doc => do
    return (doc.1, ← UtilisateurModele.fromMap doc.2 doc.1)) (fun id d hd =>
      exists_bind (utilisateur_lisible (hb _ id d hd) id) fun _ => ⟨_, rfl⟩)
    ⟨[.isEqualTo .etablissementId (.str p.etablissementId)], none, none⟩
  obtain ⟨ms, hms⟩ := exists_mapM_run (b := b) (c := .parents) (f := fun doc =>
    ParentModele.fromMap doc.2 doc.1) (fun id d hd =>
      exists_bind ((hb _ id d hd .utilisateurId).orStr "") fun _ => ⟨_, rfl⟩) ⟨[], none, none⟩
  simp only [chargerDonnees, bind_eq]
  refine ends_catching.mpr (ends_setState_bind.mpr (ends_page_bind.mpr ?_))
  refine ends_chercher_bind (fun _ => ends_bind.mpr ((ends_ofExcept _).mpr ?_))
    fun h => absurd h Bool.false_ne_true
  dsimp only
  rw [hus]
  refine ends_setState_bind.mpr (ends_chercher_bind (fun _ => ends_bind.mpr
    ((ends_ofExcept _).mpr ?_)) fun h => absurd h Bool.false_ne_true)
  dsimp only
  rw [hms]
  refine ends_setState_bind.mpr ((ends_setState _).mpr
    ⟨⟨rfl, rfl⟩, ⟨⟨rfl, rfl⟩, rfl⟩, rfl, rfl, fun f => ?_⟩)
  exact exactement_cartes ho hus hms rfl

/-! ### Deletion -/

/-- The documents of a card are deleted. -/
def retiree (b : Base) (id : String) : Base := (b.eraseDoc .parents id).eraseDoc .utilisateurs id

theorem doc_retiree (id : String) (c : Collection) (i : String) : (retiree b id).doc c i =
    if (c = .parents ∨ c = .utilisateurs) ∧ i = id then none else b.doc c i := by
  unfold retiree
  rw [Data.doc_eraseDoc, Data.doc_eraseDoc]
  grind

theorem carteDe_retiree {id : String} {y : ParentModele × UtilisateurModele} :
    CarteDe (retiree b id) E y ↔ CarteDe b E y ∧ y.1.id ≠ id := by
  have hparents := doc_retiree (b := b) id .parents y.1.id
  have hutilisateurs := doc_retiree (b := b) id .utilisateurs y.1.id
  by_cases hy : y.1.id = id
  · refine iff_of_false (fun h => ?_) fun h => h.2 hy
    obtain ⟨d, hd, -⟩ := h.parent
    rw [hparents, if_pos ⟨.inl rfl, hy⟩] at hd
    cases hd
  · rw [if_neg fun h => hy h.2] at hparents hutilisateurs
    constructor
    · rintro ⟨⟨d, hd, hm⟩, e, he, hu⟩
      exact ⟨⟨⟨d, hparents ▸ hd, hm⟩, e, hutilisateurs ▸ he, hu⟩, hy⟩
    · rintro ⟨⟨⟨d, hd, hm⟩, e, he, hu⟩, -⟩
      exact ⟨⟨d, hparents ▸ hd, hm⟩, e, hutilisateurs ▸ he, hu⟩

/-- The store stays in order. -/
theorem enOrdre_eraseDoc (hb : BienType b ∧ EnOrdre b) {c : Collection} (hc : supprime c = true)
    (id : String) : BienType (b.eraseDoc c id) ∧ EnOrdre (b.eraseDoc c id) :=
  (contrat_honours (S := Server.longest 10) (.write (.delete c id)) b ⟨trivial, hc⟩ hb).1

theorem ends_supprimerDoc_bind {σ α : Type} {Q : Except Err α → σ → Base → Prop} {c : Collection}
    {id : String} (hid : id ≠ "") {f : Unit → Action Unit σ α} {s : σ} :
    (Prog.bind (supprimerDoc c id) f).Ends S.handler Q s b ↔
      (f ()).Ends S.handler Q s (b.eraseDoc c id) := by
  rw [supprimerDoc, if_neg hid, ends_bind, ends_ecrire]
  rfl

/-- **The deletion of a card takes away its two documents, and the list is then right.** -/
theorem ends_supprimerParent (hb : BienType b ∧ EnOrdre b) {x : ParentModele × UtilisateurModele}
    (hx : CarteDe b E x) (hid : x.1.id ≠ "") (p : ListeParents) :
    (supprimerParent x.2.id x.1.id true).Ends S.handler (fun r p' b' =>
      (r = .ok () ∧ b' = retiree b x.1.id) ∧ (p.Meme p' ∧
        p'.messages = p.messages ++ ["Parent supprimé avec succès"]) ∧ p'.Montre b') p b := by
  obtain ⟨hb', ho'⟩ := enOrdre_eraseDoc (enOrdre_eraseDoc hb (c := .parents) rfl x.1.id)
    (c := .utilisateurs) rfl x.1.id
  rw [hx.id_eq]
  unfold supprimerParent
  rw [if_pos rfl]
  simp only [bind_eq]
  refine ends_catching.mpr ((ends_supprimerDoc_bind hid).mpr ((ends_supprimerDoc_bind hid).mpr
    (ends_bind.mpr ((ends_chargerDonnees hb' ho' p).mono fun r p' b' h => ?_))))
  obtain ⟨⟨rfl, rfl⟩, ⟨hmeme, hmessages⟩, hmontre⟩ := h
  refine ⟨⟨rfl, rfl⟩, ⟨⟨hmeme.etablissementId, hmeme.searchQuery⟩, ?_⟩, hmontre.error,
    hmontre.isLoading, hmontre.cartes⟩
  exact congrArg (· ++ ["Parent supprimé avec succès"]) hmessages

end ListeParents

/-! ## The form -/

namespace ModifierParent

variable {p : ModifierParent} {x : ParentModele × UtilisateurModele} {d : Document} {id : String}
  {u : UtilisateurModele}

/-- The form with the texts of the account. -/
def remplie (p : ModifierParent) (u : UtilisateurModele) : ModifierParent :=
  { p with
    nom := u.nom, prenom := u.prenom, email := u.email, telephone := u.numeroTelephone
    adresse := u.adresse }

/-- The fields of the account that the form edits. -/
def champs : List Champ := [.nom, .prenom, .email, .numeroTelephone, .adresse]

/-- The account with the texts of the form. -/
def enregistre (p : ModifierParent) (u : UtilisateurModele) : UtilisateurModele :=
  { u with
    nom := trim p.nom, prenom := trim p.prenom, email := trim p.email
    numeroTelephone := trim p.telephone, adresse := trim p.adresse }

theorem ends_remplir (hd : UtilisateurModele.fromMap d id = .ok u) :
    (remplir d).Ends S.handler (fun r p' b' => r = .ok () ∧ b' = b ∧ p' = p.remplie u) p b := by
  obtain ⟨nom, hnom, hd⟩ := bind_eq_ok_iff.mp hd
  obtain ⟨prenom, hprenom, hd⟩ := bind_eq_ok_iff.mp hd
  obtain ⟨email, hemail, hd⟩ := bind_eq_ok_iff.mp hd
  obtain ⟨telephone, htelephone, hd⟩ := bind_eq_ok_iff.mp hd
  obtain ⟨adresse, hadresse, hd⟩ := bind_eq_ok_iff.mp hd
  iterate 5
    obtain ⟨_, -, hd⟩ := bind_eq_ok_iff.mp hd
  obtain rfl := Except.ok.inj hd
  unfold remplir
  rw [hnom, hprenom, hemail, htelephone, hadresse]
  exact ⟨rfl, rfl, rfl⟩

/-- The form opens on the account of the card. -/
theorem ends_chargerDonneesParent (hx : CarteDe b E x) (hid : x.1.id ≠ "") (hp : p.parentId = x.1.id) :
    chargerDonneesParent.Ends S.handler (fun r p' b' => r = .ok () ∧ b' = b ∧
      p' = { p.remplie x.2 with loading := false }) p b := by
  obtain ⟨d, hd, -, hu⟩ := hx.utilisateur
  simp only [chargerDonneesParent, bind_eq]
  rw [← hp] at hd hid
  refine ends_setState_bind.mpr (ends_ensuring.mpr (ends_catching.mpr (ends_page_bind.mpr ?_)))
  rw [lireDoc, if_neg hid]
  refine ends_bind.mpr ((ends_lire _ _ _).mpr ?_)
  rw [hd]
  refine (ends_remplir hu).mono fun r p' b' h => ?_
  obtain ⟨rfl, rfl, rfl⟩ := h
  exact ⟨rfl, rfl, rfl⟩

theorem fromMap_updatedUser (hd : UtilisateurModele.fromMap d id = .ok u) (now : ℤ) :
    UtilisateurModele.fromMap (writeFields now d p.updatedUser) id = .ok (p.enregistre u) := by
  iterate 5
    obtain ⟨_, -, hd⟩ := bind_eq_ok_iff.mp hd
  obtain ⟨motDePasse, h₁, hd⟩ := bind_eq_ok_iff.mp hd
  obtain ⟨statut, h₂, hd⟩ := bind_eq_ok_iff.mp hd
  obtain ⟨roleId, h₃, hd⟩ := bind_eq_ok_iff.mp hd
  obtain ⟨etablissementId, h₄, hd⟩ := bind_eq_ok_iff.mp hd
  obtain ⟨photo, h₅, hd⟩ := bind_eq_ok_iff.mp hd
  obtain rfl := Except.ok.inj hd
  refine bind_eq_ok_iff.mpr ⟨_, rfl, bind_eq_ok_iff.mpr ⟨_, rfl, bind_eq_ok_iff.mpr ⟨_, rfl,
    bind_eq_ok_iff.mpr ⟨_, rfl, bind_eq_ok_iff.mpr ⟨_, rfl, ?_⟩⟩⟩⟩⟩
  exact bind_eq_ok_iff.mpr ⟨_, h₁, bind_eq_ok_iff.mpr ⟨_, h₂, bind_eq_ok_iff.mpr ⟨_, h₃,
    bind_eq_ok_iff.mpr ⟨_, h₄, bind_eq_ok_iff.mpr ⟨_, h₅, rfl⟩⟩⟩⟩⟩

/-- The cards after the form was saved. -/
theorem carteDe_putDoc (hx : CarteDe b E x) (hd : b.doc .utilisateurs x.1.id = some d) {E' : String}
    {y : ParentModele × UtilisateurModele} :
    CarteDe (b.putDoc .utilisateurs x.1.id (writeFields b.clock d p.updatedUser)) E' y ↔
      ∃ z, CarteDe b E' z ∧ y = (z.1, if z.1.id = x.1.id then p.enregistre z.2 else z.2) := by
  have hparents : ∀ id, (b.putDoc .utilisateurs x.1.id (writeFields b.clock d p.updatedUser)).doc
      .parents id = b.doc .parents id := fun id =>
    (Data.doc_putDoc ..).trans (if_neg fun h => by cases h.1)
  have hutilisateurs : ∀ id, (b.putDoc .utilisateurs x.1.id
      (writeFields b.clock d p.updatedUser)).doc .utilisateurs id =
        if id = x.1.id then some (writeFields b.clock d p.updatedUser) else b.doc .utilisateurs id :=
    fun id => (Data.doc_putDoc ..).trans (by simp)
  have hE : writeFields b.clock d p.updatedUser .etablissementId = d .etablissementId := rfl
  obtain ⟨d₀, hd₀, -, hx⟩ := hx.utilisateur
  obtain rfl := Option.some.inj (hd.symm.trans hd₀)
  constructor
  · rintro ⟨⟨e, he, hm⟩, f, hf, hfE, hu⟩
    rw [hparents] at he
    rw [hutilisateurs] at hf
    by_cases hy : y.1.id = x.1.id
    · rw [if_pos hy] at hf
      obtain rfl := Option.some.inj hf
      have hsaved := fromMap_updatedUser (p := p) hx b.clock
      rw [← hy, hu] at hsaved
      refine ⟨(y.1, x.2), ⟨⟨e, he, hm⟩, d, hy ▸ hd, hE ▸ hfE, hy ▸ hx⟩, ?_⟩
      rw [if_pos hy, ← Except.ok.inj hsaved]
    · rw [if_neg hy] at hf
      exact ⟨y, ⟨⟨e, he, hm⟩, f, hf, hfE, hu⟩, by rw [if_neg hy]⟩
  · rintro ⟨z, ⟨⟨e, he, hm⟩, f, hf, hfE, hu⟩, rfl⟩
    refine ⟨⟨e, (hparents _).trans he, hm⟩, ?_⟩
    dsimp only
    rw [hutilisateurs]
    by_cases hz : z.1.id = x.1.id
    · rw [hz, hd] at hf
      obtain rfl := Option.some.inj hf
      rw [if_pos hz, if_pos hz]
      exact ⟨_, rfl, hE.trans hfE, fromMap_updatedUser hu b.clock⟩
    · rw [if_neg hz, if_neg hz]
      exact ⟨f, hf, hfE, hu⟩

theorem ends_modifierParent (hx : CarteDe b E x) (hid : x.1.id ≠ "") (hp : p.parentId = x.1.id)
    (hv : p.validate = true) :
    modifierParent.Ends S.handler (fun r p' b' => r = .ok () ∧
      p'.messages = p.messages ++ [⟨"Succès", "Modification effectuée", .success⟩] ∧
      (∀ c i, ¬(c = .utilisateurs ∧ i = x.1.id) → b'.doc c i = b.doc c i) ∧
      (∃ d d', b.doc .utilisateurs x.1.id = some d ∧ b'.doc .utilisateurs x.1.id = some d' ∧
        ∀ f ∉ champs, d' f = d f) ∧
      ∀ E' y, CarteDe b' E' y ↔
        ∃ z, CarteDe b E' z ∧ y = (z.1, if z.1.id = x.1.id then p.enregistre z.2 else z.2)) p b := by
  obtain ⟨d, hd, -, -⟩ := hx.utilisateur
  simp only [modifierParent, bind_eq]
  refine ends_page_bind.mpr ?_
  rw [if_pos hv, modifierDoc, hp, if_neg hid]
  refine ends_setState_bind.mpr (ends_ensuring.mpr (ends_catching.mpr (ends_bind.mpr
    ((ends_ecrire _ _).mpr ?_))))
  have happly : (Write.update .utilisateurs x.1.id p.updatedUser : Ecriture).apply b =
      some (b.putDoc .utilisateurs x.1.id (writeFields b.clock d p.updatedUser)) := by
    simp [Write.apply, hd]
  rw [happly]
  refine ⟨rfl, rfl, fun c i hne => ?_, ?_, fun E' y => carteDe_putDoc hx hd⟩
  · exact (Data.doc_putDoc ..).trans (if_neg hne)
  · exact ⟨d, _, hd, (Data.doc_putDoc ..).trans (if_pos ⟨rfl, rfl⟩), fun f hf =>
      writeFields_of_not_mem hf⟩

end ModifierParent

end EduConnect.Admin

namespace EduConnect

open Lib Prog Admin Enseignant

/-- **Whatever the clients have done**, a load of the parents of an establishment shows its cards, each
once; the form of a card opens on the account shown and saves its five texts there, where all other
fields stay, and nowhere else; and the deletion of a card takes that card away and no other. -/
theorem application_parents {ι : Type} [DecidableEq ι] (S : Server) (z : Calendrier)
    (pages : ι → (e : Ecran) → (e.vue z).Page) (as : List (Act ι (GesteClient z) Base)) :
    Always (Sys.closedStep (application ι S z)) (fun s =>
      (∀ p : ListeParents, ListeParents.chargerDonnees.Ends S.handler (fun r p' b' =>
        (r = .ok () ∧ b' = s.base) ∧ p.Meme p' ∧ p'.Montre s.base) p s.base) ∧
      ∀ E x, CarteDe s.base E x → x.1.id ≠ "" →
        (∀ p : ModifierParent, p.parentId = x.1.id →
          ModifierParent.chargerDonneesParent.Ends S.handler (fun r p' b' => r = .ok () ∧
            b' = s.base ∧ p' = { p.remplie x.2 with loading := false }) p s.base ∧
          (p.validate = true → ModifierParent.modifierParent.Ends S.handler (fun r _ b' =>
            r = .ok () ∧
              (∀ c i, ¬(c = .utilisateurs ∧ i = x.1.id) → b'.doc c i = s.base.doc c i) ∧
              (∃ d d', s.base.doc .utilisateurs x.1.id = some d ∧
                b'.doc .utilisateurs x.1.id = some d' ∧ ∀ f ∉ ModifierParent.champs, d' f = d f) ∧
              ∀ E' y, CarteDe b' E' y ↔ ∃ w, CarteDe s.base E' w ∧
                y = (w.1, if w.1.id = x.1.id then p.enregistre w.2 else w.2)) p s.base)) ∧
        ∀ p : ListeParents, (ListeParents.supprimerParent x.2.id x.1.id true).Ends S.handler
          (fun r p' b' => r = .ok () ∧ p.Meme p' ∧ p'.Montre b' ∧
            (∀ c i, b'.doc c i = if (c = .parents ∨ c = .utilisateurs) ∧ i = x.1.id then none
              else s.base.doc c i) ∧
            ∀ E' y, CarteDe b' E' y ↔ CarteDe s.base E' y ∧ y.1.id ≠ x.1.id) p s.base)
      (Sys.init baseVide pages) as := by
  refine Always.mono (fun s hs => ⟨fun p => ?_, fun E x hx hid => ⟨fun p hp => ⟨?_, fun hv => ?_⟩,
    fun p => ?_⟩⟩) (application_ordre S z pages as)
  · refine (ListeParents.ends_chargerDonnees hs.1 hs.2 p).mono fun r p' b' h => ?_
    exact ⟨h.1, h.2.1.1, h.2.2⟩
  · exact ModifierParent.ends_chargerDonneesParent hx hid hp
  · refine (ModifierParent.ends_modifierParent hx hid hp hv).mono fun r p' b' h => ?_
    exact ⟨h.1, h.2.2⟩
  · refine (ListeParents.ends_supprimerParent hs hx hid p).mono fun r p' b' h => ?_
    obtain ⟨⟨hr, rfl⟩, ⟨hmeme, -⟩, hmontre⟩ := h
    refine ⟨hr, hmeme, hmontre, ListeParents.doc_retiree x.1.id, fun E' y => ?_⟩
    exact ListeParents.carteDe_retiree

/-! ### A run -/

/-- The role of the parents and a parent are added. -/
def ajoutDeParent : List (Act Unit (GesteClient tempsUniversel) Base) :=
  [.event () ⟨.ajoutRole, .inl { nom := "parent", description := "Un parent" }⟩,
    .event () ⟨.ajoutRole, .inr ()⟩, .serve 0, .resume 0] ++
  [.event () ⟨.ajout .parent, .inl ({
      etablissementId := "e", nom := "Abena", prenom := "Rose", email := "rose@abena.cm"
      telephone := "6", adresse := "Yaoundé", motDePasse := "secret" } : AjoutParent)⟩,
    .event () ⟨.ajout .parent, .inr ()⟩] ++ (List.replicate 4 [.serve 0, .resume 0]).flatten

/-- His card is shown, and no longer once it was deleted. -/
theorem application_parents_carte :
    ∃ s x, ajoutDeParent.foldlM (Sys.closedStep (application Unit (Server.longest 30) tempsUniversel))
        (Sys.init baseVide fun _ => pagesVides tempsUniversel) = some s ∧
      CarteDe s.base "e" x ∧ x.1.id = "x" ∧
      ListeParents.chargerDonnees.Ends (Server.longest 30).handler (fun _ p' _ =>
        ∀ f, x ∈ p'.cartes f) { etablissementId := "e" } s.base ∧
      (ListeParents.supprimerParent x.2.id x.1.id true).Ends (Server.longest 30).handler
        (fun _ p' _ => ∀ f, x ∉ p'.cartes f) { etablissementId := "e" } s.base := by
  have h : ((ajoutDeParent.foldlM
      (Sys.closedStep (application Unit (Server.longest 30) tempsUniversel))
        (Sys.init baseVide fun _ => pagesVides tempsUniversel)).bind fun s =>
      (s.base.doc .parents "x").bind fun _ => (s.base.doc .utilisateurs "x").bind fun d =>
        (d.get .etablissementId).asStr.toOption) = some "e" := by decide +kernel
  obtain ⟨s, hs, h⟩ := Option.bind_eq_some_iff.mp h
  obtain ⟨d, hd, h⟩ := Option.bind_eq_some_iff.mp h
  obtain ⟨d', hd', hE⟩ := Option.bind_eq_some_iff.mp h
  obtain ⟨x, hx, hid⟩ := carteDe_of_docs
    ((application_ordre (Server.longest 30) tempsUniversel _ _).final hs).1 hd hd'
      (Doc.asStr_get_iff.mp (toOption_eq_some_iff.mp hE))
  obtain ⟨hliste, hcarte⟩ := (application_parents (Server.longest 30) tempsUniversel _ _).final hs
  have hne : x.1.id ≠ "" := by rw [hid]; decide
  refine ⟨s, x, hs, hx, hid, ?_, ?_⟩
  · refine (hliste { etablissementId := "e" }).mono fun r p' b' h f => ?_
    obtain ⟨-, hmeme, hmontre⟩ := h
    refine ((hmontre.cartes f).2 x).mpr ⟨?_, .inl hmeme.searchQuery⟩
    rw [hmeme.etablissementId]
    exact hx
  · refine ((hcarte "e" x hx hne).2 { etablissementId := "e" }).mono fun r p' b' h f hmem => ?_
    obtain ⟨-, -, hmontre, -, hreste⟩ := h
    exact ((hreste _ x).mp (((hmontre.cartes f).2 x).mp hmem).1).2 rfl

end EduConnect
