import EduConnect.Enseignant.Rosters
import EduConnect.Enseignant.Valeurs
import EduConnect.Lib.Owner

/-!
# The chips of the subjects

`_chargerMatieres` clears a list of the page and then adds to it after each answer.  The list is
that of the class chosen when no load is started before the last one has ended, and the links of
the teacher name no subject twice.
-/

namespace EduConnect.Enseignant

open Lib Prog

section Puces

variable {ι Λ σ : Type}

/-- A load of the subjects on the page of `i` read the subjects `ids` of a class. -/
def ClasseLue (l : Λ) (w : List (Exchange ι Λ Requete Req.Ans Err)) (i : ι) (classeId : String)
    (ids : List String) : Prop :=
  ∃ doc : Option Document,
    (⟨i, l, .get .classes classeId, .ok doc⟩ : Exchange ι Λ Requete Req.Ans Err) ∈ w ∧
      (champ doc .matieresIds).bind Value.orStrs = .ok ids

/-- The subjects shown are those of the class chosen, as read, each once. -/
def PucesExactes (l : Λ) (w : List (Exchange ι Λ Requete Req.Ans Err)) (i : ι) (c : Choix) : Prop :=
  ∀ classeId, c.classeChoisieId = some classeId → (c.matieres.map Matiere.id).Nodup ∧
    (c.matieres ≠ [] → ∃ ids, ClasseLue l w i classeId ids ∧ c.matieres.map Matiere.id ⊆ ids)

/-- The subjects that links name. -/
def matieresDes (rows : List (String × Document)) : List String :=
  rows.filterMap fun doc => match doc.2 .matiereId with
    | some (.str matiereId) => some matiereId
    | _ => none

/-- The links in an answer name no subject twice. -/
def LiensDistincts : Exchange ι Λ Requete Req.Ans Err → Prop
  | ⟨_, _, .query .enseignements _, .ok rows⟩ => (matieresDes rows).Nodup
  | _ => True

/-- What the other programs do to the class chosen and its subjects: nothing, or no class is chosen
any more. -/
def Laisse (c c' : Choix) : Prop :=
  c'.classeChoisieId = none ∨ c'.classeChoisieId = c.classeChoisieId ∧ c'.matieres = c.matieres

theorem Laisse.refl (c : Choix) : Laisse c c := Or.inr ⟨rfl, rfl⟩

theorem Laisse.trans {c c' c'' : Choix} (h : Laisse c c') (h' : Laisse c' c'') : Laisse c c'' := by
  rcases h' with hnone | ⟨hclasse, hmatieres⟩
  · exact Or.inl hnone
  rcases h with hnone | ⟨hclasse', hmatieres'⟩
  · exact Or.inl (hclasse.trans hnone)
  · exact Or.inr ⟨hclasse.trans hclasse', hmatieres.trans hmatieres'⟩

theorem ClasseLue.mono {l : Λ} {w w' : List (Exchange ι Λ Requete Req.Ans Err)} (hw : w <+: w')
    {i : ι} {classeId : String} {ids : List String} (h : ClasseLue l w i classeId ids) :
    ClasseLue l w' i classeId ids := by
  obtain ⟨doc, hmem, hids⟩ := h
  exact ⟨doc, hw.subset hmem, hids⟩

theorem PucesExactes.mono {l : Λ} {w w' : List (Exchange ι Λ Requete Req.Ans Err)} {i : ι}
    {c : Choix} (hw : w <+: w') (h : PucesExactes l w i c) : PucesExactes l w' i c := by
  intro classeId hc
  refine ⟨(h classeId hc).1, fun hne => ?_⟩
  obtain ⟨ids, hlu, hsub⟩ := (h classeId hc).2 hne
  exact ⟨ids, hlu.mono hw, hsub⟩

theorem PucesExactes.laisse {l : Λ} {w : List (Exchange ι Λ Requete Req.Ans Err)} {i : ι}
    {c c' : Choix} (h : PucesExactes l w i c) (hc : Laisse c c') : PucesExactes l w i c' := by
  intro classeId hclasse
  rcases hc with hnone | ⟨hsame, hmatieres⟩
  · rw [hnone] at hclasse
    cases hclasse
  · rw [hmatieres]
    exact h classeId (hsame ▸ hclasse)

/-! ## A load alone on its page -/

/-- A load of the class has put the subjects `faits` on the page, if the class is still chosen. -/
def EnCharge (classeId : String) (faits : List String) (c : Choix) : Prop :=
  c.classeChoisieId = none ∨
    c.classeChoisieId = some classeId ∧ c.matieres.map Matiere.id = faits

theorem EnCharge.laisse {classeId : String} {faits : List String} {c c' : Choix}
    (h : EnCharge classeId faits c) (hc : Laisse c c') : EnCharge classeId faits c' := by
  rcases hc with hnone | ⟨hclasse, hmatieres⟩
  · exact Or.inl hnone
  rcases h with hnone | ⟨hclasse', hfaits⟩
  · exact Or.inl (hclasse.trans hnone)
  · exact Or.inr ⟨hclasse.trans hclasse', hmatieres ▸ hfaits⟩

/-- What a load has put on the page is right. -/
theorem EnCharge.exactes {classeId : String} {faits : List String} {c : Choix}
    (h : EnCharge classeId faits c) (hnodup : faits.Nodup) {l : Λ}
    {w : List (Exchange ι Λ Requete Req.Ans Err)} {i : ι}
    (hlu : faits ≠ [] → ∃ ids, ClasseLue l w i classeId ids ∧ faits ⊆ ids) :
    PucesExactes l w i c := by
  intro d hd
  rcases h with hnone | ⟨hclasse, hfaits⟩
  · rw [hnone] at hd
    cases hd
  obtain rfl : classeId = d := Option.some.inj (hclasse.symm.trans hd)
  rw [hfaits]
  refine ⟨hnodup, fun hne => hlu ?_⟩
  rintro rfl
  exact hne (List.map_eq_nil_iff.mp hfaits)

/-- One more subject. -/
theorem EnCharge.ajout {classeId : String} {faits : List String} {c : Choix}
    (h : EnCharge classeId faits c) (m : Matiere) :
    EnCharge classeId (faits ++ [m.id]) { c with matieres := c.matieres ++ [m] } := by
  refine h.imp_right fun hc => ⟨hc.1, ?_⟩
  rw [List.map_append, hc.2, List.map_singleton]

section Charge

variable {choix : σ → Choix} {sur : (Choix → Choix) → σ → σ}
  (hsur : ∀ f s, choix (sur f s) = f (choix s)) {l : Λ} {i : ι}
  {w : List (Exchange ι Λ Requete Req.Ans Err)} {s : σ} {classeId : String}

variable (choix l i) in
/-- A program that has the subjects of the page to itself and leaves them right. -/
abbrev Seule {α : Type} (p : Action Λ σ α) (w : List (Exchange ι Λ Requete Req.Ans Err))
    (s : σ) : Prop :=
  p.Owns (fun s s' => Laisse (choix s) (choix s')) (fun l' => l' = l) LiensDistincts i
    (fun _ v x => PucesExactes l v i (choix x)) w s

/-- A program that leaves the subjects as they are. -/
theorem seule_of_keeps {α : Type} {p : Action Λ σ α}
    (hp : ∀ s₀, p.Keeps fun s => Laisse (choix s₀) (choix s)) (hi : p.Issues fun l' _ => l' = l)
    (h : PucesExactes l w i (choix s)) : Seule choix l i p w s :=
  Keeps.owns (Q := fun v x => PucesExactes l v i (choix x)) (fun _ _ _ hw hx => hx.mono hw)
    (fun _ _ _ hs hx => hx.laisse hs) (fun _ => Laisse.refl _) hp hi h

theorem seule_lireDoc_bind {α : Type} {c : Collection} {id : String}
    {f : Option Document → Action Λ σ α} (hfail : PucesExactes l w i (choix s))
    (h : ∀ (a : Except Err (Option Document)) w' s', w <+: w' →
      (⟨i, l, .get c id, a⟩ : Exchange ι Λ Requete Req.Ans Err) ∈ w' →
      Laisse (choix s) (choix s') → match a with
        | .ok doc => Seule choix l i (f doc) w' s'
        | .error _ => PucesExactes l w' i (choix s')) :
    Seule choix l i ((lireDoc l c id).bind f) w s := by
  unfold lireDoc
  by_cases hid : id = ""
  · rw [if_pos hid]
    exact owns_fail.mpr hfail
  · rw [if_neg hid]
    refine owns_call_bind.mpr ⟨rfl, fun a w' s' hw hmem _ hs => ?_⟩
    rcases a with e | doc
    · exact h (.error e) w' s' hw hmem hs
    · exact h (.ok doc) w' s' hw hmem hs

include hsur

/-- The loop: the subjects put on the page and those to come are those of the answer. -/
theorem seule_ajouterMatieres {ids faits : List String} (docs : List (String × Document))
    (hlu : ClasseLue l w i classeId ids) (hsub : faits ⊆ ids)
    (hnodup : (faits ++ matieresDes docs).Nodup) (h : EnCharge classeId faits (choix s)) :
    Seule choix l i (Choix.ajouterMatieres sur l ids docs) w s := by
  induction docs generalizing w s faits with
  | nil =>
    refine owns_setState_ret.mpr ?_
    rw [hsur]
    exact h.exactes (List.nodup_append.mp hnodup).1 fun _ => ⟨ids, hlu, hsub⟩
  | cons doc docs ih =>
    have hpost : ∀ {v x}, w <+: v → EnCharge classeId faits (choix x) →
        PucesExactes l v i (choix x) := fun hv hx =>
      hx.exactes (List.nodup_append.mp hnodup).1 fun _ => ⟨ids, hlu.mono hv, hsub⟩
    refine owns_ofExcept_bind.mpr ?_
    rcases hfield : doc.2.field .matiereId with e | v
    · exact hpost (List.prefix_refl w) h
    have hv : doc.2 .matiereId = some v := by
      unfold Doc.field at hfield
      rcases hd : doc.2 .matiereId with _ | v'
      · rw [hd] at hfield
        cases hfield
      · rw [hd] at hfield
        rw [Except.ok.inj hfield]
    have hrest : (faits ++ matieresDes docs).Nodup := by
      refine hnodup.sublist (List.Sublist.append_left ?_ faits)
      exact (List.sublist_cons_self doc docs).filterMap _
    cases v with
    | str matId =>
      have hdes : matieresDes (doc :: docs) = matId :: matieresDes docs := by
        simp [matieresDes, hv]
      dsimp only
      by_cases hin : matId ∈ ids
      · rw [if_pos hin]
        refine seule_lireDoc_bind (hpost (List.prefix_refl w) h) ?_
        rintro (e | matDoc) w' s' hw - hs
        · exact hpost hw (h.laisse hs)
        refine owns_ofExcept_bind.mpr ?_
        rcases (champ matDoc .nom).bind Value.asStr with e | nom
        · exact hpost hw (h.laisse hs)
        have hsub' : faits ++ [matId] ⊆ ids :=
          List.append_subset.mpr ⟨hsub, fun x hx => List.mem_singleton.mp hx ▸ hin⟩
        have hnodup' : (faits ++ [matId] ++ matieresDes docs).Nodup := by
          rwa [hdes, List.append_cons] at hnodup
        refine owns_setState.mpr (ih (hlu.mono hw) hsub' hnodup' ?_)
        rw [hsur]
        exact (h.laisse hs).ajout ⟨matId, nom⟩
      · rw [if_neg hin]
        exact ih hlu hsub hrest h
    | _ => exact ih hlu hsub hrest h

/-- A load started on the page of its class. -/
theorem seule_chargerMatieres (h : (choix s).classeChoisieId = some classeId) :
    Seule choix l i (Choix.chargerMatieres choix sur l classeId) w s := by
  unfold Choix.chargerMatieres
  simp only [bind_eq]
  have hdebut : EnCharge classeId [] (choix (sur (fun c => { c with matieres := [] }) s)) := by
    rw [hsur]
    exact Or.inr ⟨h, rfl⟩
  have hpost : ∀ {v x}, EnCharge classeId [] (choix x) → PucesExactes l v i (choix x) :=
    fun hx => hx.exactes List.nodup_nil fun hne => absurd rfl hne
  refine owns_setState.mpr (seule_lireDoc_bind (hpost hdebut) ?_)
  rintro (e | classeDoc) w₁ s₁ - hmem hs₁
  · exact hpost (hdebut.laisse hs₁)
  refine owns_ofExcept_bind.mpr ?_
  rcases hids : (champ classeDoc .matieresIds).bind Value.orStrs with e | ids
  · exact hpost (hdebut.laisse hs₁)
  have hlu : ClasseLue l w₁ i classeId ids := ⟨classeDoc, hmem, hids⟩
  refine owns_page.mpr (owns_call_bind.mpr ⟨rfl, ?_⟩)
  rintro (e | docs) w₂ s₂ hw - hdistincts hs₂
  · exact hpost ((hdebut.laisse hs₁).laisse hs₂)
  · exact seule_ajouterMatieres hsur docs (hlu.mono hw) (List.nil_subset ids) hdistincts
      ((hdebut.laisse hs₁).laisse hs₂)

end Charge

/-! ## The roll-call page -/

namespace AppelPage

/-- A program that leaves the class chosen and its subjects alone, or chooses no class. -/
abbrev Cede (q : Action EtapeAppel AppelPage Unit) : Prop :=
  q.Yields (fun p p' => Laisse p.toChoix p'.toChoix) fun l => l = .choix

theorem keeps_of_laisse {f : AppelPage → AppelPage} (hf : ∀ p, Laisse p.toChoix (f p).toChoix)
    (p₀ : AppelPage) : (setState f : Action EtapeAppel AppelPage Unit).Keeps
      fun p => Laisse p₀.toChoix p.toChoix :=
  (keeps_setState _).mpr fun p hp => hp.trans (hf p)

theorem cede_setState {f : AppelPage → AppelPage} (hf : ∀ p, Laisse p.toChoix (f p).toChoix) :
    Cede (setState f) :=
  ⟨keeps_of_laisse hf, trivial⟩

theorem cede_chargerEleves (c : String) : Cede (chargerEleves c) := by
  refine ⟨fun p₀ => keeps_chargerEleves c fun _ _ hp => hp, (issues_chargerEleves c).mono ?_⟩
  rintro l r ⟨rfl | rfl | rfl, -⟩ <;> simp

theorem cede_enregistrerAppel (h : Horloge) : Cede (enregistrerAppel h) := by
  refine ⟨fun p₀ => keeps_enregistrerAppel h (fun p hp => hp) fun p hp => Or.inl rfl,
    (issues_enregistrerAppel h).mono ?_⟩
  rintro l r (rfl | rfl | rfl) <;> simp

/-- An event that loads the classes, or the subjects of one. -/
def LanceChargement (ev : Evenement) : Prop := ev = .ouvrir ∨ ∃ n, ev = .classe n

/-- An event starts a load, or a program that leaves the subjects alone. -/
theorem cede_or_seule (w : List (EchangeAppel ι)) (i : ι) {ev : Evenement} {p : AppelPage}
    {q : Action EtapeAppel AppelPage Unit} (hq : p.on ev = some q) : Cede q ∨
      LanceChargement ev ∧
        (PucesExactes .choix w i p.toChoix → Seule toChoix .choix i q w p) := by
  have hsur : ∀ f s, (sur f s).toChoix = f s.toChoix := fun _ _ => rfl
  rcases ev with _ | n | n | n | _ | _ | h
  · obtain rfl := Option.some.inj hq
    refine Or.inr ⟨Or.inl rfl, seule_of_keeps (fun p₀ => ?_) ?_⟩
    · refine Choix.keeps_initData (fun f hf p hp => hp.trans (Or.inr ⟨(hf.1 _).1, hf.2 _⟩)) _ _
        (keeps_ret _) fun e => keeps_of_laisse (fun p => .refl _) p₀
    · refine (Choix.issues_initData _ _ ?_ fun e => ?_).mono fun l r hl => hl.1 <;> trivial
  all_goals
    unfold on at hq
    dsimp only at hq
    split_ifs at hq
  · obtain ⟨c, -, rfl⟩ := Option.map_eq_some_iff.mp hq
    exact Or.inr ⟨Or.inr ⟨n, rfl⟩, fun _ => owns_setState.mpr (seule_chargerMatieres hsur rfl)⟩
  · obtain ⟨c, -, hm⟩ := Option.bind_eq_some_iff.mp hq
    obtain ⟨m, -, rfl⟩ := Option.map_eq_some_iff.mp hm
    obtain ⟨hk, hi⟩ := cede_chargerEleves c
    exact Or.inl ⟨fun p₀ => .bind (keeps_of_laisse (fun p => .refl _) p₀) fun _ => hk p₀,
      .bind trivial fun _ => hi⟩
  · obtain ⟨e, -, rfl⟩ := Option.map_eq_some_iff.mp hq
    exact Or.inl (cede_setState fun p => .refl _)
  · obtain rfl := Option.some.inj hq
    exact Or.inl (cede_setState fun p => .refl _)
  · obtain rfl := Option.some.inj hq
    exact Or.inl (cede_setState fun p => .refl _)
  · obtain rfl := Option.some.inj hq
    exact Or.inl (cede_enregistrerAppel h)

end AppelPage

/-! ## The grades page -/

namespace NotesPage

/-- A program that leaves the class chosen and its subjects alone, or chooses no class. -/
abbrev Cede (q : Action EtapeNotes NotesPage Unit) : Prop :=
  q.Yields (fun p p' => Laisse p.toChoix p'.toChoix) fun l => l = .choix

theorem keeps_of_laisse {f : NotesPage → NotesPage} (hf : ∀ p, Laisse p.toChoix (f p).toChoix)
    (p₀ : NotesPage) : (setState f : Action EtapeNotes NotesPage Unit).Keeps
      fun p => Laisse p₀.toChoix p.toChoix :=
  (keeps_setState _).mpr fun p hp => hp.trans (hf p)

theorem cede_setState {f : NotesPage → NotesPage} (hf : ∀ p, Laisse p.toChoix (f p).toChoix) :
    Cede (setState f) :=
  ⟨keeps_of_laisse hf, trivial⟩

theorem cede_chargerEleves (c : String) : Cede (chargerEleves c) := by
  refine ⟨fun p₀ => keeps_chargerEleves c fun _ _ hp => hp, (issues_chargerEleves c).mono ?_⟩
  rintro l r ⟨rfl, -⟩
  simp

theorem cede_enregistrerNotes (h : Horloge) : Cede (enregistrerNotes h) :=
  ⟨fun _ => keeps_enregistrerNotes h (fun _ _ hp => hp) (fun _ _ hp => hp) fun _ _ => Or.inl rfl,
    (issues_enregistrerNotes envois_envoi h).mono fun _ _ hl => hl.1.1⟩

/-- An event that loads the classes, or the subjects of one. -/
def LanceChargement (ev : Evenement) : Prop := ev = .ouvrir ∨ ∃ n, ev = .classe n

/-- An event starts a load, or a program that leaves the subjects alone. -/
theorem cede_or_seule (w : List (Exchange ι EtapeNotes Requete Req.Ans Err)) (i : ι)
    {ev : Evenement} {p : NotesPage} {q : Action EtapeNotes NotesPage Unit}
    (hq : p.on ev = some q) : Cede q ∨ LanceChargement ev ∧
      (PucesExactes .choix w i p.toChoix → Seule toChoix .choix i q w p) := by
  have hsur : ∀ f s, (sur f s).toChoix = f s.toChoix := fun _ _ => rfl
  rcases ev with _ | n | n | t | n | texte | ⟨n, texte⟩ | _ | _ | h
  · obtain rfl := Option.some.inj hq
    refine Or.inr ⟨Or.inl rfl, seule_of_keeps (fun _ => ?_) ?_⟩
    · exact keeps_initData (fun f hf p hp => hp.trans (Or.inr ⟨(hf.1 _).1, hf.2 _⟩))
        (fun p hp => hp) fun e p hp => hp
    · exact issues_initData.mono fun l r hl => hl.1
  all_goals
    unfold on at hq
    dsimp only at hq
    split_ifs at hq
  · obtain ⟨c, -, rfl⟩ := Option.map_eq_some_iff.mp hq
    exact Or.inr ⟨Or.inr ⟨n, rfl⟩, fun _ => owns_setState.mpr (seule_chargerMatieres hsur rfl)⟩
  · obtain ⟨c, -, hm⟩ := Option.bind_eq_some_iff.mp hq
    obtain ⟨m, -, rfl⟩ := Option.map_eq_some_iff.mp hm
    obtain ⟨hk, hi⟩ := cede_chargerEleves c
    exact Or.inl ⟨fun p₀ => .bind (keeps_of_laisse (fun p => .refl _) p₀) fun _ => hk p₀,
      .bind trivial fun _ => hi⟩
  · obtain rfl := Option.some.inj hq
    exact Or.inl (cede_setState fun p => .refl _)
  · obtain ⟨q, -, rfl⟩ := Option.map_eq_some_iff.mp hq
    exact Or.inl (cede_setState fun p => .refl _)
  · obtain rfl := Option.some.inj hq
    exact Or.inl (cede_setState fun p => .refl _)
  · obtain ⟨e, -, rfl⟩ := Option.map_eq_some_iff.mp hq
    exact Or.inl (cede_setState fun p => .refl _)
  · obtain rfl := Option.some.inj hq
    exact Or.inl (cede_setState fun p => .refl _)
  · obtain rfl := Option.some.inj hq
    exact Or.inl (cede_setState fun p => .refl _)
  · obtain rfl := Option.some.inj hq
    exact Or.inl (cede_enregistrerNotes h)

end NotesPage

/-! ## Runs -/

section Runs

variable [DecidableEq ι] {β Ev : Type}

/-- Once the loads of a page have ended, its subjects are those of the class chosen. -/
def PucesAJour (choix : σ → Choix) (l : Λ) (s : Sys ι Λ Requete Req.Ans Err σ β) : Prop :=
  ∀ i, (∀ t ∈ s.tasks, t.who = i → t.lab ≠ l) → PucesExactes l s.log i (choix (s.pages i))

/-- A load is started on a page when no other runs, and the links in the answers it gets are
distinct. -/
def ChargementSeul (l : Λ) (E : Ev → Prop) (s : Sys ι Λ Requete Req.Ans Err σ β)
    (a : Act ι Ev β) : Prop :=
  s.Alone (fun l' => l' = l) E a ∧ s.Resumes (fun _ x _ => LiensDistincts x) a

/-- The rule of `Sys.always_owned` for the two pages. -/
theorem pucesAJour_of {choix : σ → Choix} {l : Λ} {E : Ev → Prop}
    (S : Spec ι Λ Requete Req.Ans Err σ β Ev)
    (hon : ∀ w i ev s p, S.on i ev s = some p →
      p.Yields (fun s s' => Laisse (choix s) (choix s')) (fun l' => l' = l) ∨
        E ev ∧ (PucesExactes l w i (choix s) → Seule choix l i p w s))
    {pages : ι → σ} (hpages : ∀ i, (choix (pages i)).classeChoisieId = none) (b : β)
    {as : List (Act ι Ev β)}
    (h : AllMeet (Sys.step S) (ChargementSeul l E) (Sys.init b pages) as) :
    Always (Sys.step S) (PucesAJour choix l) (Sys.init b pages) as := by
  have hdebut : ∀ i, PucesExactes l [] i (choix (pages i)) := by
    intro i classeId hc
    rw [hpages i] at hc
    cases hc
  have hinit : (Sys.init b pages).Owned (fun s s' => Laisse (choix s) (choix s')) (fun l' => l' = l)
      LiensDistincts fun w i s => PucesExactes l w i (choix s) := by
    refine Sys.Owned.init (fun i => ?_) b
    exact hdebut i
  have hall := Sys.always_owned (fun _ => .refl _) (fun _ _ _ hs hs' => hs.trans hs')
    (fun _ _ _ _ hw hx => hx.mono hw) (fun _ _ _ _ hs hx => hx.laisse hs) S hon hinit
    (h.mono fun _ _ hc => hc.1) (h.mono fun _ _ hc => hc.2)
  exact hall.mono fun s hs i hi => hs.page i hi

/-- **The chips are those of the class chosen.**  In every run of roll-call pages, and in every run
of grades pages, in which no class is chosen while a load of the page runs and the links a load
receives name no subject twice, the subjects shown once the loads have ended are subjects of the
class chosen, each once. -/
theorem pucesAJour_run (S : Server) (b : Base) (pages : ι → String × String) :
    (∀ as, AllMeet (Sys.step (appels ι S)) (ChargementSeul .choix AppelPage.LanceChargement)
        (Sys.init b fun i => { etablissementId := (pages i).1, utilisateurId := (pages i).2 }) as →
      Always (Sys.step (appels ι S)) (PucesAJour AppelPage.toChoix .choix)
        (Sys.init b fun i => { etablissementId := (pages i).1, utilisateurId := (pages i).2 }) as) ∧
    ∀ as, AllMeet (Sys.step (pagesNotes ι S)) (ChargementSeul .choix NotesPage.LanceChargement)
        (Sys.init b fun i => { etablissementId := (pages i).1, utilisateurId := (pages i).2 }) as →
      Always (Sys.step (pagesNotes ι S)) (PucesAJour NotesPage.toChoix .choix)
        (Sys.init b fun i => { etablissementId := (pages i).1, utilisateurId := (pages i).2 }) as :=
  ⟨fun _ h => pucesAJour_of _ (fun w i _ _ _ hp => AppelPage.cede_or_seule w i hp)
      (fun _ => rfl) b h,
    fun _ h => pucesAJour_of _ (fun w i _ _ _ hp => NotesPage.cede_or_seule w i hp)
      (fun _ => rfl) b h⟩

end Runs

end Puces

/-! ### Two classes, one subject each -/

/-- The teacher `t` of the classes `A`, with the subject `m`, and `B`, with the subject `n`. -/
def uneMatiereChacune : Base :=
  let classe (nom matiere : String) : Document :=
    newDoc 0 [texte .nom nom, texte .niveau "1", texte .etablissementId "e",
      textes .enseignantsIds ["t"], textes .matieresIds [matiere], textes .elevesIds []]
  let lien (matiere : String) : Document :=
    newDoc 0 [texte .enseignantId "t", texte .matiereId matiere]
  ((((((baseVide.putDoc .enseignants "t" (newDoc 0 [texte .utilisateurId "u"])).putDoc
    .classes "A" (classe "A" "m")).putDoc .classes "B" (classe "B" "n")).putDoc
    .enseignements "x" (lien "m")).putDoc .enseignements "y" (lien "n")).putDoc
    .matieres "m" (newDoc 0 [texte .nom "Maths"])).putDoc
    .matieres "n" (newDoc 0 [texte .nom "Anglais"])

/-- `A`, then `B` once the subjects of `A` are there. -/
def deuxChoix {Ev : Type} (ouvrir : Ev) (classe : ℕ → Ev) : List (Act Unit Ev Base) :=
  [.event () ouvrir] ++ poursuivre 0 4 ++ [.event () (classe 0)] ++ poursuivre 0 3 ++
    [.event () (classe 1)] ++ poursuivre 0 3

/-- `A`, then `B` at once; the answers to the load of `A` are the last to come. -/
def deuxChoixPresses : List (Act Unit AppelPage.Evenement Base) :=
  [.event () .ouvrir] ++ poursuivre 0 4 ++ [.event () (.classe 0), .event () (.classe 1)] ++
    poursuivre 1 3 ++ poursuivre 0 3

/-- A test of `LiensDistincts`. -/
def liensTest {Λ : Type} : Exchange Unit Λ Requete Req.Ans Err → Bool
  | ⟨_, _, .query .enseignements _, .ok rows⟩ => decide (matieresDes rows).Nodup
  | _ => true

theorem liensDistincts_of_test {Λ : Type} {x : Exchange Unit Λ Requete Req.Ans Err}
    (h : liensTest x = true) : LiensDistincts x := by
  unfold LiensDistincts
  split
  · exact of_decide_eq_true h
  · trivial

/-- A test of `ChargementSeul`. -/
def seulTest {Λ σ Ev : Type} [DecidableEq Λ] (l : Λ) (lance : Ev → Bool)
    (s : Sys Unit Λ Requete Req.Ans Err σ Base) : Act Unit Ev Base → Bool
  | .event _ ev => !lance ev || s.tasks.all fun t => decide (t.lab ≠ l)
  | .resume n => (s.tasks[n]?).all fun t => t.ans.all fun a => liensTest ⟨t.who, t.lab, t.req, a⟩
  | _ => true

theorem chargementSeul_of_test {Λ σ Ev : Type} [DecidableEq Λ] {l : Λ} {E : Ev → Prop}
    {lance : Ev → Bool} (hlance : ∀ ev, E ev → lance ev = true)
    (s : Sys Unit Λ Requete Req.Ans Err σ Base) (a : Act Unit Ev Base)
    (h : seulTest l lance s a = true) : ChargementSeul l E s a := by
  rcases a with ⟨i, ev⟩ | _ | _ | n | _
  case event =>
    refine ⟨fun hE t ht _ => ?_, trivial⟩
    simp only [seulTest, hlance ev hE, Bool.not_true, Bool.false_or] at h
    exact of_decide_eq_true (List.all_eq_true.mp h t ht)
  case resume =>
    refine ⟨trivial, fun t ht a ha => ?_⟩
    simp only [seulTest, ht, ha, Option.all_some] at h
    exact liensDistincts_of_test h
  all_goals exact ⟨trivial, trivial⟩

def lanceAppel : AppelPage.Evenement → Bool
  | .ouvrir | .classe _ => true
  | _ => false

def lanceNotes : NotesPage.Evenement → Bool
  | .ouvrir | .classe _ => true
  | _ => false

theorem pucesAJour_run_deuxChoix :
    Always (Sys.step (appels Unit (Server.longest 10))) (PucesAJour AppelPage.toChoix .choix)
        (Sys.init uneMatiereChacune fun _ => pageAppel) (deuxChoix .ouvrir .classe) ∧
      Always (Sys.step (pagesNotes Unit (Server.longest 10))) (PucesAJour NotesPage.toChoix .choix)
        (Sys.init uneMatiereChacune fun _ => pageNotes) (deuxChoix .ouvrir .classe) := by
  have hrun := pucesAJour_run (Server.longest 10) uneMatiereChacune fun _ : Unit => ("e", "u")
  refine ⟨hrun.1 (deuxChoix .ouvrir .classe) (allMeet_of_checkAll (seulTest EtapeAppel.choix lanceAppel)
      (chargementSeul_of_test ?_) (by decide +kernel)),
    hrun.2 (deuxChoix .ouvrir .classe) (allMeet_of_checkAll (seulTest EtapeNotes.choix lanceNotes)
      (chargementSeul_of_test ?_) (by decide +kernel))⟩
  · rintro ev (rfl | ⟨n, rfl⟩) <;> rfl
  · rintro ev (rfl | ⟨n, rfl⟩) <;> rfl

/-- A test of the subject `m` shown for the chosen class `B` while no load runs, when no list read
of `B` has it. -/
def pucePerimee (s : SystemeAppel Unit) : Bool :=
  s.tasks.isEmpty && decide ((s.pages ()).classeChoisieId = some "B") &&
  decide ("m" ∈ (s.pages ()).matieres.map Matiere.id) &&
  s.log.all fun x => match x with
    | ⟨_, _, .get .classes "B", .ok doc⟩ =>
      ((champ doc .matieresIds).bind Value.orStrs).toOption.all fun ids => decide ("m" ∉ ids)
    | _ => true

/-- Class `B` is chosen and no load runs, but the subject of `A` is shown. -/
theorem not_pucesAJour_deuxChoixPresses :
    ¬Always (Sys.step (appels Unit (Server.longest 10))) (PucesAJour AppelPage.toChoix .choix)
      (Sys.init uneMatiereChacune fun _ => pageAppel) deuxChoixPresses := by
  refine not_always_of_final pucePerimee (fun s hs hP => ?_) (by decide +kernel)
  simp only [pucePerimee, Bool.and_eq_true, decide_eq_true_eq] at hs
  obtain ⟨⟨⟨htasks, hB⟩, hm⟩, hall⟩ := hs
  have hnone : ∀ t ∈ s.tasks, t.who = () → t.lab ≠ EtapeAppel.choix := by
    rw [List.isEmpty_iff.mp htasks]
    exact fun t ht => absurd ht List.not_mem_nil
  obtain ⟨-, hlu⟩ := hP () hnone "B" hB
  obtain ⟨ids, ⟨doc, hmem, hids⟩, hsub⟩ := hlu fun hnil => by
    have hvide : (s.pages ()).matieres = [] := hnil
    rw [hvide] at hm
    cases hm
  have hnot := List.all_eq_true.mp hall _ hmem
  have hnot' : ((champ doc .matieresIds).bind Value.orStrs).toOption.all
      (fun ids => decide ("m" ∉ ids)) = true := hnot
  simp only [hids, Except.toOption, Option.all_some] at hnot'
  exact of_decide_eq_true hnot' (hsub hm)

end EduConnect.Enseignant
