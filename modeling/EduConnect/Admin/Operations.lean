import EduConnect.Admin.Isolation
import EduConnect.Enseignant.Matieres

/-!
# What the operations of ClasseController do

The eight operations that change a class: each does exactly what it says to a class of the connected
establishment, and nothing when the class is not there or belongs to another one.  Additions to a
list and removals from it are set insertion and removal, so those of distinct ids commute.
-/

namespace EduConnect.Admin

open Lib Prog Enseignant

/-! ## Insertion and removal -/

/-- An id is added to a list or removed from it. -/
inductive Sens where
  | ajouter | retirer
  deriving DecidableEq

namespace Sens

/-- What the operation writes. -/
def op : Sens → String → FieldOp Champ
  | ajouter, x => .arrayUnion [x]
  | retirer, x => .arrayRemove [x]

/-- What the operation makes of a list. -/
def sur : Sens → String → List Valeur → List Valeur
  | ajouter, x, l => if l.any (Value.isStr x) then l else l ++ [.str x]
  | retirer, x, l => l.filter fun v => !v.isStr x

/-- The id is added or removed once: not twice, and not when it is there or missing already. -/
def UneFois : Sens → String → List Valeur → List Valeur → Prop
  | ajouter, x, l, l' => .str x ∈ l ∧ l' = l ∨ .str x ∉ l ∧ l' = l ++ [.str x]
  | retirer, x, l, l' => .str x ∉ l ∧ l' = l ∨ ∃ u v, l = u ++ .str x :: v ∧ l' = u ++ v

variable {x y : String} {l : List Valeur}

theorem any_isStr_iff : l.any (Value.isStr x) = true ↔ .str x ∈ l := by
  rw [List.any_eq_true]
  constructor
  · rintro ⟨v, hv, hx⟩
    exact Value.isStr_iff.mp hx ▸ hv
  · exact fun h => ⟨_, h, Value.isStr_iff.mpr rfl⟩

theorem sur_of_mem (h : .str x ∈ l) : ajouter.sur x l = l := if_pos (any_isStr_iff.mpr h)

theorem sur_of_not_mem (h : .str x ∉ l) : ajouter.sur x l = l ++ [.str x] :=
  if_neg (mt any_isStr_iff.mp h)

theorem mem_retirer {v : Valeur} : v ∈ retirer.sur x l ↔ v ∈ l ∧ v ≠ .str x := by
  refine List.mem_filter.trans (and_congr_right fun _ => ?_)
  rw [Bool.not_eq_true', ne_eq, ← Value.isStr_iff, Bool.not_eq_true]

theorem retirer_of_not_mem (h : .str x ∉ l) : retirer.sur x l = l :=
  List.filter_eq_self.mpr fun v hv => by
    have hvx : ¬v.isStr x = true := fun hx => h (Value.isStr_iff.mp hx ▸ hv)
    simpa using hvx

theorem retirer_append (l l' : List Valeur) :
    retirer.sur x (l ++ l') = retirer.sur x l ++ retirer.sur x l' :=
  List.filter_append l l'

theorem uneFois_sur (s : Sens) (x : String) (h : l.Nodup) : s.UneFois x l (s.sur x l) := by
  by_cases hx : .str x ∈ l
  · cases s with
    | ajouter => exact Or.inl ⟨hx, sur_of_mem hx⟩
    | retirer =>
      obtain ⟨u, v, rfl⟩ := List.append_of_mem hx
      obtain ⟨hxuv, -⟩ := List.nodup_cons.mp (List.nodup_middle.mp h)
      rw [List.mem_append, not_or] at hxuv
      have htete : retirer.sur x [.str x] = [] := by
        show List.filter _ _ = _
        simp [Value.isStr]
      refine Or.inr ⟨u, v, rfl, ?_⟩
      rw [retirer_append, ← List.singleton_append, retirer_append, htete, retirer_of_not_mem hxuv.1,
        retirer_of_not_mem hxuv.2, List.nil_append]
  · cases s with
    | ajouter => exact Or.inr ⟨hx, sur_of_not_mem hx⟩
    | retirer => exact Or.inl ⟨hx, retirer_of_not_mem hx⟩

theorem UneFois.nodup {s : Sens} {l' : List Valeur} (h : s.UneFois x l l') (hl : l.Nodup) :
    l'.Nodup := by
  cases s with
  | ajouter =>
    rcases h with ⟨-, rfl⟩ | ⟨hx, rfl⟩
    · exact hl
    · refine List.nodup_append.mpr ⟨hl, List.nodup_singleton _, fun a ha b hb => ?_⟩
      rintro rfl
      exact hx (List.mem_singleton.mp hb ▸ ha)
  | retirer =>
    rcases h with ⟨-, rfl⟩ | ⟨u, v, rfl, rfl⟩
    · exact hl
    · exact (List.nodup_cons.mp (List.nodup_middle.mp hl)).2

/-- The write does it. -/
theorem eval_op (s : Sens) (x : String) (now : ℤ) (old : Option Valeur) :
    (s.op x).eval now old = .list (s.sur x (arrayOf old)) := by
  cases s with
  | ajouter => rfl
  | retirer =>
    refine congrArg Value.list (List.filter_congr fun v _ => ?_)
    rw [List.any_cons, List.any_nil, Bool.or_false]

/-- Operations on distinct ids commute, unless both add. -/
theorem sur_comm (s s' : Sens) (hxy : x ≠ y) (h : ¬(s = ajouter ∧ s' = ajouter)) :
    s.sur x (s'.sur y l) = s'.sur y (s.sur x l) := by
  have hmixte : ∀ {x y : String}, x ≠ y →
      ajouter.sur x (retirer.sur y l) = retirer.sur y (ajouter.sur x l) := by
    intro x y hxy
    have hne : (.str x : Valeur) ≠ .str y := fun h => hxy (Value.str.inj h)
    have hseul : retirer.sur y [.str x] = [.str x] :=
      retirer_of_not_mem fun h => hne (List.mem_singleton.mp h).symm
    by_cases hx : .str x ∈ l
    · rw [sur_of_mem hx, sur_of_mem (mem_retirer.mpr ⟨hx, hne⟩)]
    · have hxy : .str x ∉ retirer.sur y l := fun h => hx (mem_retirer.mp h).1
      rw [sur_of_not_mem hx, sur_of_not_mem hxy, retirer_append, hseul]
  cases s with
  | ajouter =>
    cases s' with
    | ajouter => exact absurd ⟨rfl, rfl⟩ h
    | retirer => exact hmixte hxy
  | retirer =>
    cases s' with
    | ajouter => exact (hmixte hxy.symm).symm
    | retirer =>
      show List.filter _ (List.filter _ l) = List.filter _ (List.filter _ l)
      rw [List.filter_filter, List.filter_filter]
      exact List.filter_congr fun v _ => Bool.and_comm _ _

/-- They commute up to the order of the list. -/
theorem sur_perm (s s' : Sens) (hxy : x ≠ y) : (s.sur x (s'.sur y l)).Perm (s'.sur y (s.sur x l)) := by
  by_cases h : s = ajouter ∧ s' = ajouter
  · obtain ⟨rfl, rfl⟩ := h
    have hne : (.str x : Valeur) ≠ .str y := fun h => hxy (Value.str.inj h)
    by_cases hx : .str x ∈ l
    · rw [sur_of_mem hx]
      by_cases hy : .str y ∈ l
      · rw [sur_of_mem hy, sur_of_mem hx]
      · rw [sur_of_not_mem hy, sur_of_mem (List.mem_append_left _ hx)]
    · rw [sur_of_not_mem hx]
      by_cases hy : .str y ∈ l
      · rw [sur_of_mem hy, sur_of_not_mem hx, sur_of_mem (List.mem_append_left _ hy)]
      · have hxl : .str x ∉ l ++ [.str y] := by simp [hx, hne]
        have hyl : .str y ∉ l ++ [.str x] := by simp [hy, hne.symm]
        rw [sur_of_not_mem hy, sur_of_not_mem hxl, sur_of_not_mem hyl, List.append_assoc,
          List.append_assoc]
        exact List.Perm.append_left l (List.Perm.swap _ _ [])
  · rw [sur_comm s s' hxy h]

end Sens

/-! ## The operations -/

inductive OperationClasse where
  | supprimerClasse (id : String)
  | liste (sens : Sens) (l : ListeClasse) (classeId id : String)
  | mettreAJourClasse (classeId : String) (nom niveau : Option String)

namespace OperationClasse

/-- The call of `ClasseController`. -/
def appel : OperationClasse → AppelControleur
  | supprimerClasse id => .supprimerClasse id
  | liste .ajouter .eleves classeId id => .ajouterEleve classeId id
  | liste .retirer .eleves classeId id => .supprimerEleve classeId id
  | liste .ajouter .matieres classeId id => .ajouterMatiereAClasse classeId id
  | liste .retirer .matieres classeId id => .supprimerMatiereDeClasse classeId id
  | liste .ajouter .enseignants classeId id => .ajouterEnseignant classeId id
  | liste .retirer .enseignants classeId id => .supprimerEnseignant classeId id
  | mettreAJourClasse classeId nom niveau => .mettreAJourClasse classeId nom niveau

/-- The class it names. -/
def classeId : OperationClasse → String
  | supprimerClasse id => id
  | liste _ _ classeId _ => classeId
  | mettreAJourClasse classeId _ _ => classeId

/-- What it writes to a class `d` of its establishment. -/
def effet (b : Base) (d : Document) : OperationClasse → Base
  | supprimerClasse id => b.eraseDoc .classes id
  | liste sens l classeId id =>
    b.putDoc .classes classeId (writeFields b.clock d [(l.champ, sens.op id)])
  | mettreAJourClasse classeId nom niveau =>
    if ClasseController.miseAJour nom niveau = [] then b
    else b.putDoc .classes classeId
      (writeFields b.clock d (ClasseController.miseAJour nom niveau))

theorem effet_mettreAJourClasse {b : Base} {d : Document} {classeId : String}
    {nom niveau : Option String} : (mettreAJourClasse classeId nom niveau).effet b d =
      if ClasseController.miseAJour nom niveau = [] then b
      else b.putDoc .classes classeId
        (writeFields b.clock d (ClasseController.miseAJour nom niveau)) := rfl

end OperationClasse

section Execution

variable {Λ σ : Type} {S : Server} {l : Λ} {E : String} {s : σ} {b : Base} {c : Collection}
  {id : String}

/-- The class exists and belongs to the establishment; no document has the empty id. -/
def Connectee (E : String) (b : Base) (classeId : String) : Prop :=
  classeId ≠ "" ∧ ∃ d, b.doc .classes classeId = some d ∧ Appartient E d

/-- An operation on a document of the establishment takes place. -/
theorem exec_siConnecte_of {d : Document} {introuvable refus contexte : String}
    {op : Action Λ σ Unit} {b' : Base} (hid : id ≠ "") (hd : b.doc c id = some d)
    (hown : Appartient E d) (hop : op.exec S.handler s b = (.ok (), s, b')) :
    (siConnecte l c introuvable E id refus contexte op).exec S.handler s b = (.ok (), s, b') := by
  have hlire : (lireDoc l c id : Action Λ σ _).exec S.handler s b = (.ok (some d), s, b) := by
    rw [lireDoc, if_neg hid, ← hd]
    exact exec_call l (Req.get c id : Requete) s b
  have hown' : (d .etablissementId).bind Value.scalar = some (.str E) := hown
  rw [siConnecte, exec_catching]
  simp only [bind_eq]
  rw [exec_bind, hlire]
  simp only [if_pos hown', hop]

/-- On another document, or none, it throws and changes nothing. -/
theorem exec_siConnecte_of_not {introuvable refus contexte : String} {op : Action Λ σ Unit}
    (h : ¬(id ≠ "" ∧ ∃ d, b.doc c id = some d ∧ Appartient E d)) :
    ∃ e, (siConnecte l c introuvable E id refus contexte op).exec S.handler s b =
      (.error e, s, b) := by
  rw [siConnecte, exec_catching]
  simp only [bind_eq]
  rw [exec_bind]
  by_cases hid : id = ""
  · rw [lireDoc, if_pos hid]
    exact ⟨_, rfl⟩
  · have hlire : (lireDoc l c id : Action Λ σ _).exec S.handler s b = (.ok (b.doc c id), s, b) := by
      rw [lireDoc, if_neg hid]
      exact exec_call l (Req.get c id : Requete) s b
    rw [hlire]
    cases hd : b.doc c id with
    | none => exact ⟨_, rfl⟩
    | some d =>
      have hother : ¬(d .etablissementId).bind Value.scalar = some (.str E) :=
        fun hown => h ⟨hid, d, hd, hown⟩
      simp only [if_neg hother]
      exact ⟨_, rfl⟩

theorem exec_update {d : Document} {fs : Champs} (hd : b.doc c id = some d) :
    (ecrire l (.update c id fs) : Action Λ σ Unit).exec S.handler s b =
      (.ok (), s, b.putDoc c id (writeFields b.clock d fs)) := by
  rw [exec_ecrire, Write.apply, hd]
  rfl

/-- The outcome of an operation and the store after it. -/
def resultat (S : Server) (E : String) (b : Base) (o : OperationClasse) : Except Err Unit × Base :=
  let x := (o.appel.action E).exec S.handler () b
  (x.1, x.2.2)

theorem resultat_of_connectee {o : OperationClasse} {d : Document} (hid : o.classeId ≠ "")
    (hd : b.doc .classes o.classeId = some d) (hown : Appartient E d) :
    resultat S E b o = (.ok (), o.effet b d) := by
  have hexec : (o.appel.action E).exec S.handler () b = (.ok (), (), o.effet b d) := by
    cases o with
    | supprimerClasse id =>
      refine exec_siConnecte_of hid hd hown ?_
      rw [exec_ecrire]
      rfl
    | liste sens l classeId id =>
      have hd : b.doc .classes classeId = some d := hd
      cases sens <;> cases l <;> exact exec_siConnecte_of hid hd hown (exec_update hd)
    | mettreAJourClasse classeId nom niveau =>
      have hd : b.doc .classes classeId = some d := hd
      refine exec_siConnecte_of hid hd hown ?_
      rw [OperationClasse.effet_mettreAJourClasse]
      by_cases hvide : ClasseController.miseAJour nom niveau = []
      · rw [if_pos hvide, if_pos hvide]
        rfl
      · rw [if_neg hvide, if_neg hvide]
        exact exec_update hd
  rw [resultat, hexec]

theorem resultat_of_not {o : OperationClasse} (h : ¬Connectee E b o.classeId) :
    ∃ e, resultat S E b o = (.error e, b) := by
  have hexec : ∃ e, (o.appel.action E).exec S.handler () b = (.error e, (), b) := by
    cases o with
    | supprimerClasse id => exact exec_siConnecte_of_not h
    | liste sens l classeId id => cases sens <;> cases l <;> exact exec_siConnecte_of_not h
    | mettreAJourClasse classeId nom niveau => exact exec_siConnecte_of_not h
  obtain ⟨e, he⟩ := hexec
  exact ⟨e, by rw [resultat, he]⟩

end Execution

/-! ## Exactness -/

/-- No list of a class holds an element twice. -/
def SansDoublon (b : Base) : Prop :=
  ∀ id d, b.doc .classes id = some d → ∀ l : ListeClasse, (arrayOf (d l.champ)).Nodup

namespace OperationClasse

/-- What the operation is to make of its class: only the fields it names change. -/
def Applique (d : Document) : OperationClasse → Option Document → Prop
  | supprimerClasse _, d' => d' = none
  | liste sens l _ id, d' => ∃ ids, sens.UneFois id (arrayOf (d l.champ)) ids ∧
      d' = some (Function.update d l.champ (some (.list ids)))
  | mettreAJourClasse _ nom niveau, d' => ∃ d₁, d' = some d₁ ∧
      d₁ .nom = nom.elim (d .nom) (some ∘ .str) ∧
      d₁ .niveau = niveau.elim (d .niveau) (some ∘ .str) ∧
      ∀ f, f ≠ .nom → f ≠ .niveau → d₁ f = d f

end OperationClasse

section Exactitude

variable {S : Server} {E : String} {b : Base} {d : Document} {o : OperationClasse}

/-- The call throws. -/
def Leve (S : Server) (E : String) (b : Base) (o : OperationClasse) : Prop :=
  ∃ e, (resultat S E b o).1 = .error e

/-- The store after the call. -/
def apres (S : Server) (E : String) (b : Base) (o : OperationClasse) : Base := (resultat S E b o).2

theorem leve_iff : Leve S E b o ↔ ¬Connectee E b o.classeId := by
  constructor
  · rintro ⟨e, he⟩ ⟨hid, d, hd, hown⟩
    rw [resultat_of_connectee hid hd hown] at he
    cases he
  · intro h
    obtain ⟨e, he⟩ := resultat_of_not (S := S) h
    exact ⟨e, by rw [he]⟩

theorem apres_of_not (h : ¬Connectee E b o.classeId) : apres S E b o = b := by
  obtain ⟨e, he⟩ := resultat_of_not (S := S) h
  rw [apres, he]

theorem apres_of_connectee (hid : o.classeId ≠ "") (hd : b.doc .classes o.classeId = some d)
    (hown : Appartient E d) : apres S E b o = o.effet b d := by
  rw [apres, resultat_of_connectee hid hd hown]

/-- What is written to a list. -/
theorem writeFields_liste (now : ℤ) (d : Document) (sens : Sens) (l : ListeClasse) (x : String) :
    writeFields now d [(l.champ, sens.op x)] =
      Function.update d l.champ (some (.list (sens.sur x (arrayOf (d l.champ))))) := by
  rw [writeFields_cons, writeFields_nil, Sens.eval_op]

/-- What is written of the name and the level. -/
theorem writeFields_miseAJour (now : ℤ) (d : Document) (nom niveau : Option String) :
    (writeFields now d (ClasseController.miseAJour nom niveau)) .nom =
        nom.elim (d .nom) (some ∘ .str) ∧
      (writeFields now d (ClasseController.miseAJour nom niveau)) .niveau =
        niveau.elim (d .niveau) (some ∘ .str) ∧
      ∀ f, f ≠ .nom → f ≠ .niveau →
        writeFields now d (ClasseController.miseAJour nom niveau) f = d f := by
  refine ⟨?_, ?_, fun f hnom hniveau => writeFields_of_not_mem fun h => ?_⟩
  · cases nom <;> cases niveau <;> rfl
  · cases nom <;> cases niveau <;> rfl
  · cases nom <;> cases niveau <;> simp [ClasseController.miseAJour, texte, hnom, hniveau] at h

/-- The operation does to its class what it is to do. -/
theorem applique_effet (hb : SansDoublon b) (hd : b.doc .classes o.classeId = some d) :
    o.Applique d ((o.effet b d).doc .classes o.classeId) := by
  cases o with
  | supprimerClasse id =>
    show (b.eraseDoc .classes id).doc .classes id = none
    rw [Data.doc_eraseDoc, if_pos ⟨rfl, rfl⟩]
  | liste sens l classeId id =>
    refine ⟨sens.sur id (arrayOf (d l.champ)), Sens.uneFois_sur sens id (hb classeId d hd l), ?_⟩
    rw [← writeFields_liste b.clock]
    show (b.putDoc .classes classeId _).doc .classes classeId = _
    rw [Data.doc_putDoc, if_pos ⟨rfl, rfl⟩]
  | mettreAJourClasse classeId nom niveau =>
    have hd : b.doc .classes classeId = some d := hd
    refine ⟨_, ?_, writeFields_miseAJour b.clock d nom niveau⟩
    rw [OperationClasse.effet_mettreAJourClasse, OperationClasse.classeId]
    by_cases hvide : ClasseController.miseAJour nom niveau = []
    · rw [if_pos hvide, hvide, writeFields_nil, hd]
    · rw [if_neg hvide, Data.doc_putDoc, if_pos ⟨rfl, rfl⟩]

/-- It leaves the other documents. -/
theorem doc_effet_ailleurs {c : Collection} {id : String}
    (h : ¬(c = .classes ∧ id = o.classeId)) : (o.effet b d).doc c id = b.doc c id := by
  cases o with
  | supprimerClasse classeId => exact (Data.doc_eraseDoc ..).trans (if_neg h)
  | liste sens l classeId x => exact (Data.doc_putDoc ..).trans (if_neg h)
  | mettreAJourClasse classeId nom niveau =>
    rw [OperationClasse.effet_mettreAJourClasse]
    by_cases hvide : ClasseController.miseAJour nom niveau = []
    · rw [if_pos hvide]
    · rw [if_neg hvide]
      exact (Data.doc_putDoc ..).trans (if_neg h)

/-- It changes nothing but documents. -/
theorem reste_effet : { o.effet b d with docs := b.docs } = b := by
  cases o with
  | supprimerClasse classeId => rfl
  | liste sens l classeId x => rfl
  | mettreAJourClasse classeId nom niveau =>
    rw [OperationClasse.effet_mettreAJourClasse]
    by_cases hvide : ClasseController.miseAJour nom niveau = []
    · rw [if_pos hvide]
    · rw [if_neg hvide]
      rfl

/-- The lists of a class an operation was applied to hold no element twice. -/
theorem nodup_of_applique {d' : Document} (hd : ∀ l : ListeClasse, (arrayOf (d l.champ)).Nodup)
    (h : o.Applique d (some d')) (l : ListeClasse) : (arrayOf (d' l.champ)).Nodup := by
  cases o with
  | supprimerClasse id => cases h
  | liste sens l₀ classeId x =>
    obtain ⟨ids, hids, rfl⟩ : ∃ ids, sens.UneFois x (arrayOf (d l₀.champ)) ids ∧
        d' = Function.update d l₀.champ (some (.list ids)) := by
      obtain ⟨ids, hids, hd'⟩ := h
      exact ⟨ids, hids, Option.some.inj hd'⟩
    by_cases hl : l.champ = l₀.champ
    · rw [hl, Function.update_self, arrayOf_list]
      exact hids.nodup (hd l₀)
    · rw [Function.update_of_ne hl]
      exact hd l
  | mettreAJourClasse classeId nom niveau =>
    obtain ⟨d₁, hd₁, -, -, hautres⟩ := h
    obtain rfl := Option.some.inj hd₁
    rw [hautres l.champ (by cases l <;> decide) (by cases l <;> decide)]
    exact hd l

/-- The call is exact or has no effect. -/
structure Exacte (S : Server) (E : String) (b : Base) (o : OperationClasse) : Prop where
  /-- It throws when the class does not exist or belongs to another establishment. -/
  leve_iff : Leve S E b o ↔ ¬Connectee E b o.classeId
  /-- The store is then unchanged. -/
  intact : Leve S E b o → apres S E b o = b
  /-- Otherwise the class becomes what it is to become. -/
  classe : ¬Leve S E b o → ∃ d, b.doc Collection.classes o.classeId = some d ∧
    o.Applique d ((apres S E b o).doc .classes o.classeId)
  /-- The other documents stay. -/
  ailleurs : ∀ c id, ¬(c = .classes ∧ id = o.classeId) → (apres S E b o).doc c id = b.doc c id
  /-- So does everything that is no document. -/
  reste : { apres S E b o with docs := b.docs } = b
  sansDoublon : SansDoublon (apres S E b o)

/-- Every operation is exact or has no effect. -/
theorem exacte (hb : SansDoublon b) (o : OperationClasse) : Exacte S E b o := by
  by_cases h : Connectee E b o.classeId
  · have hleve : ¬Leve S E b o := fun hl => leve_iff.mp hl h
    obtain ⟨hid, d, hd, hown⟩ := h
    have hapres : apres S E b o = o.effet b d := apres_of_connectee hid hd hown
    refine ⟨leve_iff, fun hl => absurd hl hleve, fun _ => ⟨d, hd, hapres ▸ applique_effet hb hd⟩,
      fun c id hc => hapres ▸ doc_effet_ailleurs hc, hapres ▸ reste_effet, ?_⟩
    rw [hapres]
    intro id d' hd' l
    by_cases hc : id = o.classeId
    · obtain rfl := hc
      exact nodup_of_applique (hb _ d hd) (hd' ▸ applique_effet hb hd) l
    · rw [doc_effet_ailleurs fun hcl => hc hcl.2] at hd'
      exact hb id d' hd' l
  · have hapres : apres S E b o = b := apres_of_not h
    exact ⟨leve_iff, fun _ => hapres, fun hl => absurd (leve_iff.mpr h) hl,
      fun c id _ => by rw [hapres], by rw [hapres], hapres.symm ▸ hb⟩

end Exactitude

/-! ## Commutation -/

section Commutation

variable {S : Server} {E : String} {b : Base} {d : Document}

/-- The same fields, up to the order of the lists. -/
def Pareils : Option Document → Option Document → Prop
  | some d, some d' => ∀ f, d f = d' f ∨
      ∃ l l', d f = some (.list l) ∧ d' f = some (.list l') ∧ l.Perm l'
  | none, none => True
  | _, _ => False

theorem Pareils.refl : ∀ d : Option Document, Pareils d d
  | some _ => fun _ => Or.inl rfl
  | none => trivial

/-- The change of one list of a class of the establishment. -/
structure Changement where
  sens : Sens
  liste : ListeClasse
  classeId : String
  id : String

namespace Changement

variable {g g' : Changement}

def operation (g : Changement) : OperationClasse := .liste g.sens g.liste g.classeId g.id

/-- The class with the list changed. -/
def ecrit (g : Changement) (d : Document) : Document :=
  Function.update d g.liste.champ (some (.list (g.sens.sur g.id (arrayOf (d g.liste.champ)))))

/-- Both add to one list. -/
def Ensemble (g g' : Changement) : Prop :=
  g.sens = .ajouter ∧ g'.sens = .ajouter ∧ g.liste = g'.liste ∧ g.classeId = g'.classeId

theorem appartient_ecrit : Appartient E (g.ecrit d) ↔ Appartient E d := by
  unfold Appartient ecrit
  rw [Function.update_of_ne (by cases g.liste <;> decide)]

theorem apres_of_connectee (hid : g.classeId ≠ "") (hd : b.doc .classes g.classeId = some d)
    (hown : Appartient E d) : apres S E b g.operation = b.putDoc .classes g.classeId (g.ecrit d) := by
  refine (Admin.apres_of_connectee (o := g.operation) hid hd hown).trans ?_
  show b.putDoc .classes g.classeId (writeFields b.clock d [(g.liste.champ, g.sens.op g.id)]) = _
  rw [writeFields_liste, ecrit]

/-- A change leaves the classes of the establishment. -/
theorem connectee_apres {classeId : String} :
    Connectee E (apres S E b g.operation) classeId ↔ Connectee E b classeId := by
  by_cases h : Connectee E b g.classeId
  · obtain ⟨hid, d, hd, hown⟩ := h
    rw [apres_of_connectee hid hd hown]
    unfold Connectee
    rw [Data.doc_putDoc]
    refine and_congr_right fun _ => ?_
    by_cases hc : classeId = g.classeId
    · obtain rfl := hc
      rw [if_pos ⟨rfl, rfl⟩, hd]
      constructor
      · exact fun _ => ⟨d, rfl, hown⟩
      · exact fun _ => ⟨g.ecrit d, rfl, appartient_ecrit.mpr hown⟩
    · rw [if_neg fun h => hc h.2]
  · rw [apres_of_not (o := g.operation) h]

/-- Changes of distinct ids commute on a class, unless both add to one list. -/
theorem ecrit_comm (hxy : g.id ≠ g'.id) (d : Document)
    (h : g.liste = g'.liste → ¬(g.sens = .ajouter ∧ g'.sens = .ajouter)) :
    g'.ecrit (g.ecrit d) = g.ecrit (g'.ecrit d) := by
  by_cases hl : g.liste = g'.liste
  · rw [ecrit, ecrit, ecrit, ecrit, ← hl, Function.update_self, Function.update_self,
      Function.update_idem, Function.update_idem, arrayOf_list, arrayOf_list,
      Sens.sur_comm g'.sens g.sens hxy.symm fun hs => h hl hs.symm]
  · have hne : g.liste.champ ≠ g'.liste.champ := fun h => hl (ListeClasse.champ_injective h)
    rw [ecrit, ecrit, ecrit, ecrit, Function.update_of_ne hne, Function.update_of_ne hne.symm,
      Function.update_comm hne]

/-- If both do, they commute up to its order. -/
theorem pareils_ecrit (hxy : g.id ≠ g'.id) (d : Document) :
    Pareils (some (g'.ecrit (g.ecrit d))) (some (g.ecrit (g'.ecrit d))) := by
  by_cases hl : g.liste = g'.liste
  · intro f
    by_cases hf : f = g.liste.champ
    · have hperm := Sens.sur_perm (l := arrayOf (d f)) g'.sens g.sens hxy.symm
      refine Or.inr ⟨_, _, ?_, ?_, hperm⟩
      · rw [ecrit, ecrit, ← hl, hf, Function.update_self, Function.update_self, arrayOf_list]
      · rw [ecrit, ecrit, ← hl, hf, Function.update_self, Function.update_self, arrayOf_list]
    · left
      rw [ecrit, ecrit, ecrit, ecrit, ← hl, Function.update_of_ne hf, Function.update_of_ne hf,
        Function.update_of_ne hf, Function.update_of_ne hf]
  · rw [ecrit_comm hxy d fun h => absurd h hl]
    exact Pareils.refl _

/-- The change reaches the document. -/
def Touche (E : String) (g : Changement) (c : Collection) (id : String) (d : Document) : Prop :=
  c = .classes ∧ id = g.classeId ∧ id ≠ "" ∧ Appartient E d

instance {g : Changement} {c : Collection} {id : String} : Decidable (Touche E g c id d) :=
  inferInstanceAs (Decidable (_ ∧ _ ∧ _ ∧ _))

/-- What it makes of the document. -/
def surDoc (E : String) (g : Changement) (c : Collection) (id : String) (d : Document) : Document :=
  if Touche E g c id d then g.ecrit d else d

theorem touche_surDoc {c : Collection} {id : String} :
    Touche E g c id (g'.surDoc E c id d) ↔ Touche E g c id d := by
  rw [surDoc]
  by_cases h : Touche E g' c id d
  · rw [if_pos h]
    exact and_congr_right fun _ => and_congr_right fun _ => and_congr_right fun _ =>
      appartient_ecrit
  · rw [if_neg h]

theorem doc_apres (c : Collection) (id : String) :
    (apres S E b g.operation).doc c id = (b.doc c id).map (g.surDoc E c id) := by
  have hid : ∀ {x : Option Document}, (∀ d, x = some d → ¬Touche E g c id d) →
      x.map (g.surDoc E c id) = x := by
    intro x hx
    rcases x with _ | d
    · rfl
    · exact congrArg some (if_neg (hx d rfl))
  by_cases h : Connectee E b g.classeId
  · obtain ⟨hne, d, hd, hown⟩ := h
    rw [apres_of_connectee hne hd hown, Data.doc_putDoc]
    by_cases hc : c = .classes ∧ id = g.classeId
    · obtain ⟨rfl, rfl⟩ := hc
      rw [if_pos ⟨rfl, rfl⟩, hd]
      exact congrArg some (if_pos ⟨rfl, rfl, hne, hown⟩).symm
    · rw [if_neg hc]
      exact (hid fun _ _ ht => hc ⟨ht.1, ht.2.1⟩).symm
  · rw [apres_of_not (o := g.operation) h]
    refine (hid fun d hd ht => h ?_).symm
    obtain ⟨rfl, rfl, hne, hown⟩ := ht
    exact ⟨hne, d, hd, hown⟩

/-- Two changes of distinct ids make the same of a document. -/
theorem pareils_surDoc (hxy : g.id ≠ g'.id) {c : Collection} {id : String} (d : Document) :
    Pareils (some (g'.surDoc E c id (g.surDoc E c id d)))
        (some (g.surDoc E c id (g'.surDoc E c id d))) ∧
      (¬Ensemble g g' → g'.surDoc E c id (g.surDoc E c id d) =
        g.surDoc E c id (g'.surDoc E c id d)) := by
  by_cases h : Touche E g c id d
  · by_cases h' : Touche E g' c id d
    · have hgg' : g'.surDoc E c id (g.surDoc E c id d) = g'.ecrit (g.ecrit d) := by
        rw [surDoc, if_pos (touche_surDoc.mpr h'), surDoc, if_pos h]
      have hg'g : g.surDoc E c id (g'.surDoc E c id d) = g.ecrit (g'.ecrit d) := by
        rw [surDoc, if_pos (touche_surDoc.mpr h), surDoc, if_pos h']
      rw [hgg', hg'g]
      refine ⟨pareils_ecrit hxy d, fun hens => ecrit_comm hxy d fun hl hs => hens ?_⟩
      exact ⟨hs.1, hs.2, hl, h.2.1.symm.trans h'.2.1⟩
    · have hg' : ∀ {d}, ¬Touche E g' c id d → g'.surDoc E c id d = d := fun hd => if_neg hd
      rw [hg' (mt touche_surDoc.mp h'), hg' h']
      exact ⟨Pareils.refl _, fun _ => rfl⟩
  · have hg : ∀ {d}, ¬Touche E g c id d → g.surDoc E c id d = d := fun hd => if_neg hd
    rw [hg h, hg (mt touche_surDoc.mp h)]
    exact ⟨Pareils.refl _, fun _ => rfl⟩

/-- The order of the two changes does not matter. -/
structure Commutent (S : Server) (E : String) (b : Base) (g g' : Changement) : Prop where
  /-- Neither makes the other throw, or keeps it from throwing. -/
  leve : Leve S E (apres S E b g.operation) g'.operation ↔ Leve S E b g'.operation
  leve_symm : Leve S E (apres S E b g'.operation) g.operation ↔ Leve S E b g.operation
  /-- The documents are the same, up to the order of the lists. -/
  pareils : ∀ c id, Pareils ((apres S E (apres S E b g.operation) g'.operation).doc c id)
    ((apres S E (apres S E b g'.operation) g.operation).doc c id)
  /-- The order of a list differs only when both add to it. -/
  egales : ¬Ensemble g g' → apres S E (apres S E b g.operation) g'.operation =
    apres S E (apres S E b g'.operation) g.operation

theorem leve_apres : Leve S E (apres S E b g.operation) g'.operation ↔ Leve S E b g'.operation := by
  rw [leve_iff, leve_iff]
  exact not_congr connectee_apres

/-- A change leaves everything that is no document. -/
theorem reste_apres :
    apres S E b g.operation = { b with docs := (apres S E b g.operation).docs } := by
  by_cases h : Connectee E b g.classeId
  · obtain ⟨hid, d, hd, hown⟩ := h
    rw [apres_of_connectee hid hd hown]
    rfl
  · rw [apres_of_not (o := g.operation) h]

theorem commutent (hxy : g.id ≠ g'.id) : Commutent S E b g g' := by
  have hdeux : ∀ (g g' : Changement) (c : Collection) (id : String),
      (apres S E (apres S E b g.operation) g'.operation).doc c id =
        (b.doc c id).map fun d => g'.surDoc E c id (g.surDoc E c id d) := by
    intro g g' c id
    rw [doc_apres, doc_apres, Option.map_map]
    rfl
  refine ⟨leve_apres, leve_apres, fun c id => ?_, fun hens => ?_⟩
  · rw [hdeux, hdeux]
    cases b.doc c id with
    | none => trivial
    | some d => exact (pareils_surDoc hxy d).1
  · have hdocs : (apres S E (apres S E b g.operation) g'.operation).docs =
        (apres S E (apres S E b g'.operation) g.operation).docs := by
      funext c
      refine Table.ext_find fun id => ?_
      have hcomm : (fun d => g'.surDoc E c id (g.surDoc E c id d)) =
          fun d => g.surDoc E c id (g'.surDoc E c id d) :=
        funext fun d => (pareils_surDoc hxy d).2 hens
      show Data.doc _ c id = Data.doc _ c id
      rw [hdeux, hdeux, hcomm]
    have hreste : ∀ g g' : Changement,
        apres S E (apres S E b g.operation) g'.operation =
          { b with docs := (apres S E (apres S E b g.operation) g'.operation).docs } := by
      intro g g'
      have hpremier := congrArg
        (fun x : Base => { x with docs := (apres S E (apres S E b g.operation) g'.operation).docs })
        (reste_apres (S := S) (E := E) (b := b) (g := g))
      exact reste_apres.trans hpremier
    rw [hreste g g', hreste g' g, hdocs]

end Changement

/-- Every operation does what it says to a class of its establishment or nothing at all, and two
changes of lists with distinct ids commute. -/
theorem operations_exactes (S : Server) (E : String) {b : Base} (hb : SansDoublon b) :
    (∀ o, Exacte S E b o) ∧
      ∀ g g' : Changement, g.id ≠ g'.id → Changement.Commutent S E b g g' :=
  ⟨exacte hb, fun _ _ => Changement.commutent⟩

/-- A class of two students. -/
def baseDeuxEleves : Base := baseVide.putDoc .classes "c" (newDoc 0 (ClasseModele.toMap
  { id := "c", nom := "6e A", niveau := "6e", etablissementId := "e", elevesIds := ["a", "b"] }))

theorem sansDoublon_deuxEleves : SansDoublon baseDeuxEleves := by
  intro id d hd l
  rw [baseDeuxEleves, Data.doc_putDoc] at hd
  by_cases hid : Collection.classes = .classes ∧ id = "c"
  · rw [if_pos hid] at hd
    obtain rfl := Option.some.inj hd
    have hlu : ∃ ids : List String, ids.Nodup ∧ arrayOf (newDoc 0 (ClasseModele.toMap
        { id := "c", nom := "6e A", niveau := "6e", etablissementId := "e",
          elevesIds := ["a", "b"] }) l.champ) = ids.map .str := by
      cases l with
      | matieres => exact ⟨[], List.nodup_nil, rfl⟩
      | eleves => exact ⟨["a", "b"], by decide, rfl⟩
      | enseignants => exact ⟨[], List.nodup_nil, rfl⟩
    obtain ⟨ids, hids, hl⟩ := hlu
    rw [hl]
    exact hids.map fun _ _ => Value.str.inj
  · rw [if_neg hid] at hd
    cases hd

/-- A student leaves the class while another one enters it. -/
theorem operations_exactes_deuxEleves :
    (∀ o, Exacte (Server.longest 10) "e" baseDeuxEleves o) ∧
      Changement.Commutent (Server.longest 10) "e" baseDeuxEleves
        ⟨.retirer, .eleves, "c", "a"⟩ ⟨.ajouter, .eleves, "c", "z"⟩ :=
  have h := operations_exactes (Server.longest 10) "e" sansDoublon_deuxEleves
  ⟨h.1, h.2 _ _ (by decide)⟩

end Commutation

end EduConnect.Admin
