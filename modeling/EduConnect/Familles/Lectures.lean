import EduConnect.Enseignant.Devoirs
import EduConnect.Familles.Devoirs
import EduConnect.Familles.Notifications

/-!
# Three views of who has read a homework

`DevoirModele.fromDocument` decodes the field `lusPar`, which `DevoirRepository` writes; the list
pages and the badges of the home pages go by the field `lu`, which the list pages write.  Whether
the views agree on a reader is read off the history of the marks.
-/

namespace EduConnect.Familles

open Lib Prog Enseignant

/-! ## Readers and their views -/

/-- A student, or a parent with the ids of his user and of his document in `parents`. -/
inductive Lecteur where
  | eleve (eleveId : String)
  | parent (utilisateurId parentId : String)

namespace Lecteur

def role : Lecteur → RoleLecteur
  | eleve _ => .eleve
  | parent _ _ => .parent

/-- The id his list of homework goes by. -/
def lecteurId : Lecteur → String
  | eleve eleveId => eleveId
  | parent utilisateurId _ => utilisateurId

/-- The id his home page goes by. -/
def accueilId : Lecteur → String
  | eleve eleveId => eleveId
  | parent _ parentId => parentId

def page : Lecteur → ListeDevoirs
  | eleve eleveId => DevoirElevePage eleveId
  | parent utilisateurId _ => ListeDevoirsParentPage utilisateurId

@[simp] theorem page_role (u : Lecteur) : u.page.role = u.role := by cases u <;> rfl

@[simp] theorem page_lecteurId (u : Lecteur) : u.page.lecteurId = u.lecteurId := by cases u <;> rfl

end Lecteur

/-- The homework of the badge. -/
def devoirsDe (role : RoleLecteur) (id : String) (b : Base) : List (String × Document) :=
  (⟨[.arrayContains role.destinataires id], none, none⟩ : Query Champ).run (b.docs .devoirs)

/-- The body of the loop that counts unread homework. -/
def devoirNonLu (id : String) (doc : String × Document) : Except Err Bool := do
  let lus ← (doc.2.get .lu).orStrs
  return decide (id ∉ lus)

/-- `nonLus` at the end of the loop. -/
def compterNonLus (role : RoleLecteur) (id : String) (b : Base) : Except Err ℕ := do
  let nonLus ← (devoirsDe role id b).mapM (devoirNonLu id)
  return nonLus.count true

/-- `nbDevoirsNonLus` in `home_eleve.dart`, when the data are `b`. -/
def HomeEleve.nbDevoirsNonLus (b : Base) (p : HomeEleve) : Except Err ℕ :=
  match p.ecoute .devoirs with
  | none => .ok 0
  | some eleveId => compterNonLus .eleve eleveId b

/-- `nbDevoirsNonLus` in `home_parent.dart`, when the data are `b`. -/
def HomeParent.nbDevoirsNonLus (b : Base) (p : HomeParent) : Except Err ℕ :=
  match p.ecoute .devoirs with
  | none => .ok 0
  | some parentId => compterNonLus .parent parentId b

/-- The page when its stream has emitted the data `b`. -/
def ListeDevoirs.recue (b : Base) (p : ListeDevoirs) : ListeDevoirs :=
  { p with docs := p.requete.run (b.docs .devoirs) }

theorem ListeDevoirs.exec_recevoir {S : Server} (p : ListeDevoirs) (b : Base) :
    recevoir.exec S.handler p b = (.ok (), p.recue b, b) := rfl

/-- The decoded model names the reader. -/
def decodeLu (b : Base) (u : Lecteur) (id : String) : Bool :=
  (b.doc .devoirs id).any fun doc => match DevoirModele.fromDocument (id, doc) with
    | .ok m => decide (u.lecteurId ∈ m.lusPar)
    | .error _ => false

/-- The list page shows the homework as read. -/
def listeLue (b : Base) (u : Lecteur) (id : String) : Bool :=
  ((u.page.recue b).entree id).any (u.page.recue b).estLu

/-- The homework is counted in the badge. -/
def compte (b : Base) (u : Lecteur) (id : String) : Bool :=
  (devoirsDe u.role u.accueilId b).any fun doc => doc.1 = id &&
    match devoirNonLu u.accueilId doc with
    | .ok nonLu => nonLu
    | .error _ => false

/-- The three views agree. -/
structure VuesAccordees (b : Base) (u : Lecteur) (id : String) : Prop where
  liste : decodeLu b u id = listeLue b u id
  badge : listeLue b u id = !compte b u id

/-! ## Creations and marks -/

inductive OperationDevoir where
  /-- A submission of `CreationDevoirPage`. -/
  | creer (p : CreationDevoirPage) (maintenant : ℤ)
  /-- `DevoirRepository.marquerDevoirCommeLu`. -/
  | marquer (devoirId utilisateurId : String)
  /-- A tap on the homework in the reader's list. -/
  | ouvrir (u : Lecteur) (devoirId : String)

/-- The operation run to its end. -/
def executerDevoir (S : Server) (b : Base) : OperationDevoir → Base
  | .creer p maintenant => ((CreationDevoirPage.submit maintenant).exec S.handler p b).2.2
  | .marquer devoirId utilisateurId =>
    ((DevoirRepository.marquerDevoirCommeLu () devoirId utilisateurId : Action Unit Unit Unit).exec
      S.handler () b).2.2
  | .ouvrir u devoirId =>
    let p := (ListeDevoirs.recevoir.exec S.handler u.page b).2.1
    match p.on (.onTap devoirId) with
    | some tap => (tap.exec S.handler p b).2.2
    | none => b

def jouerDevoirs (S : Server) (b : Base) (ops : List OperationDevoir) : Base :=
  ops.foldl (executerDevoir S) b

/-- The homework is addressed to `id`. -/
def Destinataire (b : Base) (role : RoleLecteur) (devoirId id : String) : Prop :=
  ∃ doc, b.doc .devoirs devoirId = some doc ∧ id ∈ strsOf (doc role.destinataires)

section Histoire

variable (S : Server) (b₀ : Base)

/-- At some point of the run an operation meets `ev` on the data it finds. -/
def Arrive (ev : Base → OperationDevoir → Prop) (ops : List OperationDevoir) : Prop :=
  ∃ avant op apres, ops = avant ++ op :: apres ∧ ev (jouerDevoirs S b₀ avant) op

/-- The repository has marked the homework as read by `id`. -/
def Marque (ops : List OperationDevoir) (devoirId id : String) : Prop :=
  Arrive S b₀ (fun b op => op = .marquer devoirId id ∧ (b.doc .devoirs devoirId).isSome) ops

/-- The homework has been opened in the list of a reader who goes by `id`. -/
def Ouvert (ops : List OperationDevoir) (devoirId id : String) : Prop :=
  Arrive S b₀ (fun b op => ∃ u, op = .ouvrir u devoirId ∧ u.lecteurId = id ∧
    Destinataire b u.role devoirId id) ops

variable {S b₀}

theorem jouerDevoirs_append (ops : List OperationDevoir) (op : OperationDevoir) :
    jouerDevoirs S b₀ (ops ++ [op]) = executerDevoir S (jouerDevoirs S b₀ ops) op := by
  unfold jouerDevoirs
  rw [List.foldl_append]
  rfl

theorem arrive_append {ev : Base → OperationDevoir → Prop} {ops : List OperationDevoir}
    {op : OperationDevoir} : Arrive S b₀ ev (ops ++ [op]) ↔
      Arrive S b₀ ev ops ∨ ev (jouerDevoirs S b₀ ops) op := by
  constructor
  · rintro ⟨avant, o, apres, heq, hev⟩
    rcases snoc_eq_append_cons.mp heq with ⟨-, rfl, rfl⟩ | ⟨apres', -, hops⟩
    · exact Or.inr hev
    · exact Or.inl ⟨avant, o, apres', hops, hev⟩
  · rintro (⟨avant, o, apres, rfl, hev⟩ | hev)
    · exact ⟨avant, o, apres ++ [op], by rw [List.append_assoc, List.cons_append], hev⟩
    · exact ⟨ops, op, [], rfl, hev⟩

end Histoire

/-! ### Each operation -/

/-- A homework with the readers its list pages have written. -/
def devoirStocke (m : DevoirModele) (lu : Option (List String)) (now : ℤ) : Document :=
  match lu with
  | none => newDoc now m.toMap
  | some l => Function.update (newDoc now m.toMap) .lu (some (.strs l))

theorem devoirStocke_ne {m : DevoirModele} {lu : Option (List String)} {now : ℤ} {f : Champ}
    (hf : f ≠ .lu) : devoirStocke m lu now f = newDoc now m.toMap f := by
  cases lu with
  | none => rfl
  | some l => exact Function.update_of_ne hf _ _

theorem orStrs_lu (m : DevoirModele) (lu : Option (List String)) (now : ℤ) :
    ((devoirStocke m lu now).get .lu).orStrs = .ok (lu.getD []) := by
  cases lu with
  | none => rfl
  | some l =>
    have hlu : (devoirStocke m (some l) now).get .lu = .strs l := by simp [devoirStocke, Doc.get]
    rw [hlu, Value.orStrs_strs, Option.getD_some]

/-- The recipients of a role. -/
def destinatairesDe (m : DevoirModele) : RoleLecteur → List String
  | .eleve => m.eleveIds
  | .parent => m.parentIds

theorem strsOf_destinataires (m : DevoirModele) (lu : Option (List String)) (now : ℤ)
    (role : RoleLecteur) :
    strsOf (devoirStocke m lu now role.destinataires) = destinatairesDe m role := by
  cases role with
  | eleve =>
    rw [RoleLecteur.destinataires, devoirStocke_ne (by decide)]
    exact strsOf_strs m.eleveIds
  | parent =>
    rw [RoleLecteur.destinataires, devoirStocke_ne (by decide)]
    exact strsOf_strs m.parentIds

/-- The decoded model is the one stored. -/
theorem fromDocument_devoirStocke (m : DevoirModele) (lu : Option (List String)) (now : ℤ)
    (id : String) : DevoirModele.fromDocument (id, devoirStocke m lu now) =
      .ok { m with id := id } := by
  have hget : ∀ f : Champ, f ≠ .lu → (devoirStocke m lu now).get f = (newDoc now m.toMap).get f :=
    fun f hf => by rw [Doc.get, devoirStocke_ne hf, Doc.get]
  have heleves : (newDoc now m.toMap).get .eleveIds = Value.strs m.eleveIds := rfl
  have hparents : (newDoc now m.toMap).get .parentIds = Value.strs m.parentIds := rfl
  have hlus : (newDoc now m.toMap).get .lusPar = Value.strs m.lusPar := rfl
  simp only [DevoirModele.fromDocument, hget, ne_eq, reduceCtorEq, not_false_eq_true, heleves,
    hparents, hlus, Value.orStrs_strs]
  obtain ⟨mid, titre, description, etablissementId, classeId, matiereId, enseignantId, eleveIds,
    parentIds, lusPar, dateRemise, fichierUrl, fichierType, dateCreation⟩ := m
  rcases fichierUrl with _ | fichierUrl
  · rcases fichierType with _ | fichierType <;> rfl
  · rcases fichierType with _ | fichierType <;> rfl

/-- The entry of a stored homework. -/
def entreeDe (m : DevoirModele) (lu : Option (List String)) (id : String) : EntreeDevoir where
  id := id
  titre := m.titre
  description := m.description
  classeId := m.classeId
  matiereId := m.matiereId
  lus := lu.getD []
  dateRemise := some m.dateRemise

theorem deDocument_devoirStocke (role : RoleLecteur) (m : DevoirModele) (lu : Option (List String))
    (now : ℤ) (id : String) :
    EntreeDevoir.deDocument role (id, devoirStocke m lu now) = .ok (entreeDe m lu id) := by
  have hget : ∀ f : Champ, f ≠ .lu → (devoirStocke m lu now).get f = (newDoc now m.toMap).get f :=
    fun f hf => by rw [Doc.get, devoirStocke_ne hf, Doc.get]
  have heleves : elevesDuDevoir role (devoirStocke m lu now) =
      .ok (match role with | .eleve => [] | .parent => m.eleveIds) := by
    cases role with
    | eleve => rfl
    | parent =>
      have hids : (newDoc now m.toMap).get .eleveIds = Value.strs m.eleveIds := rfl
      rw [elevesDuDevoir, hget _ (by decide), hids, Value.orStrs_strs]
  simp only [EntreeDevoir.deDocument, heleves, orStrs_lu, hget, ne_eq, reduceCtorEq,
    not_false_eq_true]
  rfl

/-- The stored readers are the only trace of `lusPar`. -/
theorem newDoc_lusPar (m : DevoirModele) (l : List String) (now : ℤ) :
    newDoc now { m with lusPar := l }.toMap =
      Function.update (newDoc now m.toMap) .lusPar (some (.strs l)) := by
  funext f
  by_cases hf : f = .lusPar
  · subst hf
    rw [Function.update_self]
    rfl
  · rw [Function.update_of_ne hf]
    simp only [newDoc, DevoirModele.toMap, texte, textes, writeFields_cons, writeFields_nil,
      FieldOp.eval, Function.update_apply, hf, if_false]

/-- A mark of the repository. -/
theorem devoirStocke_marquer (m : DevoirModele) (lu : Option (List String)) (now : ℤ)
    (clock : ℤ) (id : String) :
    writeFields clock (devoirStocke m lu now) [(.lusPar, .arrayUnion [id])] =
      devoirStocke { m with lusPar := if id ∈ m.lusPar then m.lusPar else m.lusPar ++ [id] } lu
        now := by
  have hval : (FieldOp.arrayUnion [id] : FieldOp Champ).eval clock (some (.strs m.lusPar)) =
      .strs (if id ∈ m.lusPar then m.lusPar else m.lusPar ++ [id]) := by
    unfold Value.strs
    rw [FieldOp.eval, List.foldl_cons, List.foldl_nil, arrayOf_list, Value.any_isStr_map_str]
    by_cases hid : id ∈ m.lusPar <;> simp [hid]
  have hlus : devoirStocke m lu now .lusPar = some (.strs m.lusPar) := devoirStocke_ne (by decide)
  rw [writeFields_cons, writeFields_nil, hlus, hval]
  cases lu with
  | none => exact (newDoc_lusPar m _ now).symm
  | some l =>
    show Function.update (Function.update _ _ _) _ _ = Function.update _ _ _
    rw [Function.update_comm (by decide), ← newDoc_lusPar]

/-- A mark of a list page. -/
theorem devoirStocke_ouvrir (m : DevoirModele) (lu : Option (List String)) (now : ℤ) (clock : ℤ)
    (l : List String) :
    writeFields clock (devoirStocke m lu now) [textes .lu l] = devoirStocke m (some l) now := by
  cases lu with
  | none => rfl
  | some l' => exact Function.update_idem _ _ _

/-! ### What an operation does -/

variable {S : Server} {b : Base}

/-- Creations leave the other homework as it is, and add homework that nobody has read. -/
structure Publiee (b b' : Base) : Prop where
  garde : ∀ id doc, b.doc .devoirs id = some doc → b'.doc .devoirs id = some doc
  nouveau : ∀ id doc, b'.doc .devoirs id = some doc → b.doc .devoirs id = some doc ∨
    b.doc .devoirs id = none ∧ ∃ m now, m.lusPar = [] ∧ doc = devoirStocke m none now

theorem Publiee.refl (b : Base) : Publiee b b := ⟨fun _ _ h => h, fun _ _ h => Or.inl h⟩

theorem Publiee.congr {b' b'' : Base} (h : Publiee b b')
    (hdoc : ∀ id, b''.doc .devoirs id = b'.doc .devoirs id) : Publiee b b'' :=
  ⟨fun id doc hd => (hdoc id).trans (h.garde id doc hd),
    fun id doc hd => h.nouveau id doc ((hdoc id).symm.trans hd)⟩

/-- A homework is added. -/
theorem Publiee.ajout {b' : Base} (h : Publiee b b') {m : DevoirModele} (hm : m.lusPar = []) :
    Publiee b (S.addDoc .devoirs b' m.toMap) := by
  have hdoc : ∀ id, (S.addDoc .devoirs b' m.toMap).doc .devoirs id =
      if id = S.newDocId b' .devoirs then some (devoirStocke m none b'.clock)
      else b'.doc .devoirs id := by
    intro id
    rw [Server.addDoc, Data.doc_issue, Data.doc_putDoc]
    simp only [true_and]
    rfl
  have hnouveau : b'.doc .devoirs (S.newDocId b' .devoirs) = none := S.doc_newDocId b' .devoirs
  refine ⟨fun id doc hd => ?_, fun id doc hd => ?_⟩
  · have hd' := h.garde id doc hd
    rw [hdoc, if_neg, hd']
    rintro rfl
    rw [hnouveau] at hd'
    cases hd'
  · rw [hdoc] at hd
    by_cases hid : id = S.newDocId b' .devoirs
    · rw [if_pos hid] at hd
      obtain rfl := Option.some.inj hd
      refine Or.inr ⟨?_, m, b'.clock, hm, rfl⟩
      cases hb : b.doc .devoirs id with
      | none => rfl
      | some doc =>
        have hd' := h.garde id doc hb
        rw [hid, hnouveau] at hd'
        cases hd'
    · rw [if_neg hid] at hd
      exact h.nouveau id doc hd

theorem publiee_creer (p : CreationDevoirPage) (maintenant : ℤ) :
    Publiee b (executerDevoir S b (.creer p maintenant)) := by
  refine (CreationDevoirPage.issues_submit maintenant).exec (fun l r b' hr hb' => ?_) (.refl b)
  rcases hr with hr | ⟨nom, rfl⟩ | ⟨m, hm, rfl⟩
  · rw [handler_lecture hr]
    exact hb'
  · exact hb'.congr fun id => rfl
  · exact hb'.ajout hm

/-- A mark of the repository changes the homework it names, if it is there. -/
theorem doc_marquer (devoirId utilisateurId id : String) :
    (executerDevoir S b (.marquer devoirId utilisateurId)).doc .devoirs id =
      if id = devoirId then (b.doc .devoirs id).map fun d =>
        writeFields b.clock d [(.lusPar, .arrayUnion [utilisateurId])]
      else b.doc .devoirs id :=
  ends_update_doc (σ := Unit) () .devoirs devoirId _ id (s := ())

/-! ### The entries of a list -/

/-- The entry a list shows: a homework of the store addressed to its reader. -/
theorem entree_recue {p : ListeDevoirs} {id : String} {e : EntreeDevoir} :
    (p.recue b).entree id = some e ↔ ∃ doc, b.doc .devoirs id = some doc ∧
      p.lecteurId ∈ strsOf (doc p.role.destinataires) ∧ (doc .dateCreation).isSome ∧
      EntreeDevoir.deDocument p.role (id, doc) = .ok e := by
  have hlignes : ∀ id doc, (id, doc) ∈ (p.recue b).docs ↔ b.doc .devoirs id = some doc ∧
      p.lecteurId ∈ strsOf (doc p.role.destinataires) ∧ (doc .dateCreation).isSome := by
    intro id doc
    show (id, doc) ∈ (⟨[.arrayContains p.role.destinataires p.lecteurId],
      some (.dateCreation, true), none⟩ : Query Champ).run (b.docs .devoirs) ↔ _
    rw [Query.mem_run_orderBy, List.forall_mem_singleton, Filter.sat_arrayContains]
    exact Iff.rfl
  have hok : ∀ doc : String × Document,
      (EntreeDevoir.deDocument p.role doc).toOption = some e ↔
        EntreeDevoir.deDocument p.role doc = .ok e := by
    intro doc
    cases EntreeDevoir.deDocument p.role doc <;> simp [Except.toOption]
  show ((p.recue b).docs.find? fun doc => decide (doc.1 = id)).bind
    (fun doc => (EntreeDevoir.deDocument p.role doc).toOption) = some e ↔ _
  rw [Option.bind_eq_some_iff]
  constructor
  · rintro ⟨⟨id', doc⟩, hdoc, he⟩
    have hid := List.find?_some hdoc
    obtain rfl : id' = id := by simpa using hid
    obtain ⟨hstocke, hlecteur, hdate⟩ := (hlignes id' doc).mp (List.mem_of_find?_eq_some hdoc)
    exact ⟨doc, hstocke, hlecteur, hdate, (hok _).mp he⟩
  · rintro ⟨doc, hstocke, hlecteur, hdate, he⟩
    have hmem : (id, doc) ∈ (p.recue b).docs := (hlignes id doc).mpr ⟨hstocke, hlecteur, hdate⟩
    cases hf : (p.recue b).docs.find? fun doc => decide (doc.1 = id) with
    | none => exact absurd (decide_eq_true rfl) (List.find?_eq_none.mp hf _ hmem)
    | some doc' =>
      obtain ⟨id', doc'⟩ := doc'
      have hid := List.find?_some hf
      obtain rfl : id' = id := by simpa using hid
      have hstocke' := ((hlignes id' doc').mp (List.mem_of_find?_eq_some hf)).1
      obtain rfl := Option.some.inj (hstocke.symm.trans hstocke')
      exact ⟨_, rfl, (hok _).mpr he⟩

/-- A list shows the stored homework addressed to its reader. -/
theorem entree_stocke {u : Lecteur} {m : DevoirModele} {lu : Option (List String)} {now : ℤ}
    {id : String} (h : b.doc .devoirs id = some (devoirStocke m lu now)) {e : EntreeDevoir} :
    (u.page.recue b).entree id = some e ↔
      u.lecteurId ∈ destinatairesDe m u.role ∧ e = entreeDe m lu id := by
  rw [entree_recue, u.page_lecteurId, u.page_role]
  constructor
  · rintro ⟨doc, hdoc, hlecteur, -, he⟩
    obtain rfl := Option.some.inj (h.symm.trans hdoc)
    rw [strsOf_destinataires] at hlecteur
    rw [deDocument_devoirStocke] at he
    exact ⟨hlecteur, (Except.ok.inj he).symm⟩
  · rintro ⟨hlecteur, rfl⟩
    refine ⟨_, h, ?_, ?_, deDocument_devoirStocke u.role m lu now id⟩
    · rwa [strsOf_destinataires]
    · rw [devoirStocke_ne (by decide)]
      rfl

theorem destinataire_stocke {role : RoleLecteur} {m : DevoirModele} {lu : Option (List String)}
    {now : ℤ} {id x : String} (h : b.doc .devoirs id = some (devoirStocke m lu now)) :
    Destinataire b role id x ↔ x ∈ destinatairesDe m role := by
  constructor
  · rintro ⟨doc, hdoc, hx⟩
    obtain rfl := Option.some.inj (h.symm.trans hdoc)
    rwa [strsOf_destinataires] at hx
  · intro hx
    refine ⟨_, h, ?_⟩
    rwa [strsOf_destinataires]

/-- A tap on an entry adds the reader to the list the entry shows. -/
theorem exec_onTap (p : ListeDevoirs) (e : EntreeDevoir) (id : String) :
    ((ListeDevoirs.onTap e).exec S.handler p b).2.2.doc .devoirs id =
      if id = e.id ∧ p.lecteurId ∉ e.lus then (b.doc .devoirs id).map fun d =>
        writeFields b.clock d [textes .lu (e.lus ++ [p.lecteurId])]
      else b.doc .devoirs id := by
  have hends : (ListeDevoirs.onTap e).Ends S.handler (fun _ _ b' => b'.doc .devoirs id =
      if id = e.id ∧ p.lecteurId ∉ e.lus then (b.doc .devoirs id).map fun d =>
        writeFields b.clock d [textes .lu (e.lus ++ [p.lecteurId])]
      else b.doc .devoirs id) p b := by
    refine ends_bind.mpr (ends_page_bind.mpr ?_)
    by_cases hlu : p.lecteurId ∈ e.lus
    · rw [if_pos (show p.lecteurId ∈ (some e.lus).getD [] from hlu)]
      show b.doc .devoirs id = _
      rw [if_neg fun h => h.2 hlu]
    · rw [if_neg (show p.lecteurId ∉ (some e.lus).getD [] from hlu)]
      refine (ends_update_doc _ .devoirs e.id _ id).mono fun a s' b' hb' => ?_
      simp only [hlu, not_false_eq_true, and_true]
      cases a with
      | error err => exact hb'
      | ok u => exact hb'
  exact hends

theorem executer_ouvrir_none {u : Lecteur} {devoirId : String}
    (he : (u.page.recue b).entree devoirId = none) :
    executerDevoir S b (.ouvrir u devoirId) = b := by
  have hon : (u.page.recue b).on (.onTap devoirId) = none := by rw [ListeDevoirs.on, he]; rfl
  simp only [executerDevoir, ListeDevoirs.exec_recevoir, hon]

theorem executer_ouvrir_some {u : Lecteur} {devoirId : String} {e : EntreeDevoir}
    (he : (u.page.recue b).entree devoirId = some e) : executerDevoir S b (.ouvrir u devoirId) =
      ((ListeDevoirs.onTap e).exec S.handler (u.page.recue b) b).2.2 := by
  have hon : (u.page.recue b).on (.onTap devoirId) = some (ListeDevoirs.onTap e) := by
    rw [ListeDevoirs.on, he]
    rfl
  simp only [executerDevoir, ListeDevoirs.exec_recevoir, hon]

/-! ## The history of a homework -/

/-- The homework stores the readers that the history has marked. -/
def Suivie (S : Server) (b₀ : Base) (ops : List OperationDevoir) (id : String) (doc : Document) :
    Prop :=
  ∃ m lu now, doc = devoirStocke m lu now ∧ (∀ x, x ∈ m.lusPar ↔ Marque S b₀ ops id x) ∧
    ∀ x, x ∈ lu.getD [] ↔ Ouvert S b₀ ops id x

variable {b₀ : Base}

/-- No operation removes a homework. -/
theorem devoir_reste (b : Base) (op : OperationDevoir) {id : String}
    (h : (b.doc .devoirs id).isSome) : ((executerDevoir S b op).doc .devoirs id).isSome := by
  obtain ⟨doc, hdoc⟩ := Option.isSome_iff_exists.mp h
  cases op with
  | creer p maintenant =>
    rw [(publiee_creer p maintenant).garde id doc hdoc]
    rfl
  | marquer devoirId utilisateurId =>
    rw [doc_marquer]
    split_ifs
    · rw [Option.isSome_map]
      exact h
    · exact h
  | ouvrir u devoirId =>
    cases he : (u.page.recue b).entree devoirId with
    | none =>
      rw [executer_ouvrir_none he]
      exact h
    | some e =>
      rw [executer_ouvrir_some he, exec_onTap]
      split_ifs
      · rw [Option.isSome_map]
        exact h
      · exact h

/-- What happens to a homework happens to one that stays. -/
theorem isSome_of_arrive {ev : Base → OperationDevoir → Prop} {id : String}
    (hev : ∀ b op, ev b op → (b.doc .devoirs id).isSome) {ops : List OperationDevoir}
    (h : Arrive S b₀ ev ops) : ((jouerDevoirs S b₀ ops).doc .devoirs id).isSome := by
  induction ops using List.reverseRecOn with
  | nil =>
    obtain ⟨avant, op, apres, heq, -⟩ := h
    simp at heq
  | append_singleton ops op ih =>
    rw [jouerDevoirs_append]
    refine devoir_reste _ op ?_
    rcases arrive_append.mp h with h | h
    · exact ih h
    · exact hev _ _ h

theorem Destinataire.isSome {b : Base} {role : RoleLecteur} {devoirId id : String}
    (h : Destinataire b role devoirId id) : (b.doc .devoirs devoirId).isSome := by
  obtain ⟨doc, hdoc, -⟩ := h
  rw [hdoc]
  rfl

theorem Marque.isSome {ops : List OperationDevoir} {id x : String} (h : Marque S b₀ ops id x) :
    ((jouerDevoirs S b₀ ops).doc .devoirs id).isSome :=
  isSome_of_arrive (fun _ _ hev => hev.2) h

theorem Ouvert.isSome {ops : List OperationDevoir} {id x : String} (h : Ouvert S b₀ ops id x) :
    ((jouerDevoirs S b₀ ops).doc .devoirs id).isSome := by
  refine isSome_of_arrive (fun b op hev => ?_) h
  obtain ⟨u, -, -, hdest⟩ := hev
  exact hdest.isSome

theorem marque_append {ops : List OperationDevoir} {op : OperationDevoir} {id x : String} :
    Marque S b₀ (ops ++ [op]) id x ↔ Marque S b₀ ops id x ∨
      op = .marquer id x ∧ ((jouerDevoirs S b₀ ops).doc .devoirs id).isSome :=
  arrive_append

theorem ouvert_append {ops : List OperationDevoir} {op : OperationDevoir} {id x : String} :
    Ouvert S b₀ (ops ++ [op]) id x ↔ Ouvert S b₀ ops id x ∨ ∃ u, op = .ouvrir u id ∧
      u.lecteurId = x ∧ Destinataire (jouerDevoirs S b₀ ops) u.role id x :=
  arrive_append

/-- An operation that is no mark of this homework leaves its history. -/
theorem Suivie.autre {ops : List OperationDevoir} {op : OperationDevoir} {id : String}
    {doc : Document} (h : Suivie S b₀ ops id doc) (hm : ∀ x, op ≠ .marquer id x)
    (ho : ∀ u, op = .ouvrir u id →
      ¬Destinataire (jouerDevoirs S b₀ ops) u.role id u.lecteurId ∨
      Ouvert S b₀ ops id u.lecteurId) : Suivie S b₀ (ops ++ [op]) id doc := by
  obtain ⟨m, lu, now, rfl, hmarque, houvert⟩ := h
  refine ⟨m, lu, now, rfl, fun x => ?_, fun x => ?_⟩
  · rw [hmarque, marque_append]
    exact (or_iff_left fun h => hm x h.1).symm
  · rw [houvert, ouvert_append]
    refine ⟨Or.inl, ?_⟩
    rintro (h | ⟨u, rfl, rfl, hdest⟩)
    · exact h
    · exact (ho u rfl).resolve_left (not_not.mpr hdest)

/-- The homework of a run are followed. -/
def Suivis (S : Server) (b₀ : Base) (ops : List OperationDevoir) : Prop :=
  ∀ id doc, (jouerDevoirs S b₀ ops).doc .devoirs id = some doc → Suivie S b₀ ops id doc

theorem Suivis.creer {ops : List OperationDevoir} (h : Suivis S b₀ ops) (p : CreationDevoirPage)
    (maintenant : ℤ) : Suivis S b₀ (ops ++ [.creer p maintenant]) := by
  intro id doc hdoc
  rw [jouerDevoirs_append] at hdoc
  rcases (publiee_creer p maintenant).nouveau id doc hdoc with hold | ⟨hnone, m, now, hm, rfl⟩
  · exact (h id doc hold).autre (fun x h => by cases h) fun u h => by cases h
  -- nothing can have happened to a homework before it was created
  have hrien : ¬((jouerDevoirs S b₀ ops).doc .devoirs id).isSome := by
    rw [hnone]
    exact Bool.false_ne_true
  refine ⟨m, none, now, rfl, fun x => ?_, fun x => ?_⟩
  · rw [hm, marque_append]
    refine iff_of_false List.not_mem_nil ?_
    rintro (h | ⟨h, -⟩)
    · exact hrien h.isSome
    · cases h
  · rw [ouvert_append]
    refine iff_of_false List.not_mem_nil ?_
    rintro (h | ⟨u, h, -⟩)
    · exact hrien h.isSome
    · cases h

theorem Suivis.marquer {ops : List OperationDevoir} (h : Suivis S b₀ ops)
    (devoirId utilisateurId : String) : Suivis S b₀ (ops ++ [.marquer devoirId utilisateurId]) := by
  intro id doc hdoc
  rw [jouerDevoirs_append, doc_marquer] at hdoc
  by_cases hid : id = devoirId
  · subst hid
    rw [if_pos rfl, Option.map_eq_some_iff] at hdoc
    obtain ⟨d, hd, rfl⟩ := hdoc
    obtain ⟨m, lu, now, rfl, hmarque, houvert⟩ := h id d hd
    refine ⟨_, lu, now, devoirStocke_marquer m lu now _ utilisateurId, fun x => ?_, fun x => ?_⟩
    · have hstocke : ((jouerDevoirs S b₀ ops).doc .devoirs id).isSome := by
        rw [hd]
        rfl
      rw [marque_append, ← hmarque]
      by_cases hmem : utilisateurId ∈ m.lusPar
      · simp only [if_pos hmem]
        refine ⟨Or.inl, ?_⟩
        rintro (hx | ⟨h, -⟩)
        · exact hx
        · cases h
          exact hmem
      · simp only [if_neg hmem, List.mem_append, List.mem_singleton]
        refine or_congr_right ⟨?_, ?_⟩
        · rintro rfl
          exact ⟨rfl, hstocke⟩
        · rintro ⟨h, -⟩
          cases h
          rfl
    · rw [houvert, ouvert_append]
      exact (or_iff_left fun ⟨u, h, _⟩ => by cases h).symm
  · rw [if_neg hid] at hdoc
    refine (h id doc hdoc).autre (fun x h => ?_) fun u h => by cases h
    cases h
    exact hid rfl

/-- The homework that a reader opens. -/
theorem Suivis.ouvrir_entree {ops : List OperationDevoir} (h : Suivis S b₀ ops) {u : Lecteur}
    {devoirId : String} {e : EntreeDevoir}
    (he : (u.page.recue (jouerDevoirs S b₀ ops)).entree devoirId = some e) :
    Suivis S b₀ (ops ++ [.ouvrir u devoirId]) := by
  intro id doc hdoc
  obtain ⟨doc₀, hdoc₀, -⟩ := entree_recue.mp he
  obtain ⟨m, lu, now, rfl, hmarque, houvert⟩ := h devoirId doc₀ hdoc₀
  obtain ⟨hlecteur, rfl⟩ := (entree_stocke hdoc₀).mp he
  have hlu : (u.page.recue (jouerDevoirs S b₀ ops)).lecteurId = u.lecteurId := u.page_lecteurId
  rw [jouerDevoirs_append, executer_ouvrir_some he, exec_onTap, hlu] at hdoc
  by_cases hid : id = devoirId
  · subst hid
    by_cases hmem : u.lecteurId ∈ lu.getD []
    · rw [if_neg fun h => h.2 hmem] at hdoc
      refine (h id doc hdoc).autre (fun x h => by cases h) fun u' h => Or.inr ?_
      cases h
      exact (houvert u.lecteurId).mp hmem
    · rw [if_pos ⟨rfl, hmem⟩, hdoc₀] at hdoc
      obtain rfl := Option.some.inj hdoc
      refine ⟨m, _, now, devoirStocke_ouvrir m lu now _ _, fun x => ?_, fun x => ?_⟩
      · rw [hmarque, marque_append]
        exact (or_iff_left fun h => by cases h.1).symm
      · rw [ouvert_append, ← houvert]
        simp only [Option.getD_some, List.mem_append, List.mem_singleton]
        refine or_congr_right ⟨?_, ?_⟩
        · rintro rfl
          exact ⟨u, rfl, rfl, (destinataire_stocke hdoc₀).mpr hlecteur⟩
        · rintro ⟨u', h, rfl, -⟩
          cases h
          rfl
  · rw [if_neg fun h => hid h.1] at hdoc
    refine (h id doc hdoc).autre (fun x h => by cases h) fun u' h => ?_
    cases h
    exact absurd rfl hid

theorem Suivis.ouvrir {ops : List OperationDevoir} (h : Suivis S b₀ ops) (u : Lecteur)
    (devoirId : String) : Suivis S b₀ (ops ++ [.ouvrir u devoirId]) := by
  rcases he : (u.page.recue (jouerDevoirs S b₀ ops)).entree devoirId with _ | e
  · intro id doc hdoc
    rw [jouerDevoirs_append, executer_ouvrir_none he] at hdoc
    refine (h id doc hdoc).autre (fun x h => by cases h) fun u' hu => Or.inl fun hdest => ?_
    cases hu
    -- the list shows every homework of its reader
    obtain ⟨m, lu, now, rfl, -, -⟩ := h devoirId doc hdoc
    have hentree := (entree_stocke hdoc).mpr ⟨(destinataire_stocke hdoc).mp hdest, rfl⟩
    rw [he] at hentree
    cases hentree
  · exact h.ouvrir_entree he

/-- **Run lemma.**  A run from a store without homework follows every homework. -/
theorem suivie_jouer (hb₀ : ∀ id, b₀.doc .devoirs id = none) (ops : List OperationDevoir) :
    Suivis S b₀ ops := by
  induction ops using List.reverseRecOn with
  | nil =>
    intro id doc hdoc
    rw [jouerDevoirs, List.foldl_nil, hb₀] at hdoc
    cases hdoc
  | append_singleton ops op ih =>
    cases op with
    | creer p maintenant => exact ih.creer p maintenant
    | marquer devoirId utilisateurId => exact ih.marquer devoirId utilisateurId
    | ouvrir u devoirId => exact ih.ouvrir u devoirId

/-! ## Agreement -/

section Accord

variable {u : Lecteur} {m : DevoirModele} {lu : Option (List String)} {now : ℤ} {id : String}

theorem decodeLu_stocke (h : b.doc .devoirs id = some (devoirStocke m lu now)) :
    decodeLu b u id = decide (u.lecteurId ∈ m.lusPar) := by
  unfold decodeLu
  rw [h, Option.any_some, fromDocument_devoirStocke]

theorem listeLue_stocke (h : b.doc .devoirs id = some (devoirStocke m lu now)) :
    listeLue b u id =
      decide (u.lecteurId ∈ destinatairesDe m u.role ∧ u.lecteurId ∈ lu.getD []) := by
  have hestLu : (u.page.recue b).estLu (entreeDe m lu id) = decide (u.lecteurId ∈ lu.getD []) := by
    show decide (u.page.lecteurId ∈ lu.getD []) = _
    rw [u.page_lecteurId]
  unfold listeLue
  by_cases hdest : u.lecteurId ∈ destinatairesDe m u.role
  · rw [(entree_stocke h).mpr ⟨hdest, rfl⟩, Option.any_some, hestLu]
    simp [hdest]
  · have hnone : (u.page.recue b).entree id = none :=
      Option.eq_none_iff_forall_ne_some.mpr fun e he => hdest ((entree_stocke h).mp he).1
    rw [hnone]
    simp [hdest]

theorem devoirNonLu_stocke (m : DevoirModele) (lu : Option (List String)) (now : ℤ)
    (lecteurId id : String) : devoirNonLu lecteurId (id, devoirStocke m lu now) =
      .ok (decide (lecteurId ∉ lu.getD [])) := by
  unfold devoirNonLu
  rw [orStrs_lu]
  rfl

/-- The homework of a badge is stored and addressed to its reader. -/
theorem mem_devoirsDe_stocke {role : RoleLecteur} {x : String}
    (h : b.doc .devoirs id = some (devoirStocke m lu now)) {doc : Document} :
    (id, doc) ∈ devoirsDe role x b ↔
      doc = devoirStocke m lu now ∧ x ∈ destinatairesDe m role := by
  rw [devoirsDe, Query.mem_run, List.forall_mem_singleton, Filter.sat_arrayContains]
  show b.doc .devoirs id = some doc ∧ _ ↔ _
  rw [h, Option.some.injEq]
  constructor
  · rintro ⟨rfl, hdest⟩
    rw [strsOf_destinataires] at hdest
    exact ⟨rfl, hdest⟩
  · rintro ⟨rfl, hdest⟩
    rw [strsOf_destinataires]
    exact ⟨rfl, hdest⟩

theorem compte_stocke (h : b.doc .devoirs id = some (devoirStocke m lu now)) :
    compte b u id =
      decide (u.accueilId ∈ destinatairesDe m u.role ∧ u.accueilId ∉ lu.getD []) := by
  rw [Bool.eq_iff_iff, decide_eq_true_iff]
  unfold compte
  rw [List.any_eq_true]
  constructor
  · rintro ⟨⟨id', doc⟩, hmem, htest⟩
    obtain ⟨hid, hnon⟩ := Bool.and_eq_true_iff.mp htest
    obtain rfl : id' = id := of_decide_eq_true hid
    obtain ⟨rfl, hdest⟩ := (mem_devoirsDe_stocke h).mp hmem
    rw [devoirNonLu_stocke] at hnon
    exact ⟨hdest, of_decide_eq_true hnon⟩
  · rintro ⟨hdest, hnon⟩
    refine ⟨(id, devoirStocke m lu now), (mem_devoirsDe_stocke h).mpr ⟨rfl, hdest⟩, ?_⟩
    rw [devoirNonLu_stocke]
    simpa using hnon

end Accord

/-- The loop counts the homework shown as unread. -/
theorem compterNonLus_eq (hb₀ : ∀ id, b₀.doc .devoirs id = none) (ops : List OperationDevoir)
    (u : Lecteur) : compterNonLus u.role u.accueilId (jouerDevoirs S b₀ ops) =
      .ok ((devoirsDe u.role u.accueilId (jouerDevoirs S b₀ ops)).countP fun doc =>
        compte (jouerDevoirs S b₀ ops) u doc.1) := by
  have hcompte : ∀ doc ∈ devoirsDe u.role u.accueilId (jouerDevoirs S b₀ ops),
      devoirNonLu u.accueilId doc = .ok (compte (jouerDevoirs S b₀ ops) u doc.1) := by
    rintro ⟨id, doc⟩ hmem
    have hdoc : (jouerDevoirs S b₀ ops).doc .devoirs id = some doc := (Query.of_mem_run hmem).1
    obtain ⟨m, lu, now, rfl, -, -⟩ := suivie_jouer hb₀ ops id doc hdoc
    have hdest := ((mem_devoirsDe_stocke hdoc).mp hmem).2
    rw [devoirNonLu_stocke, compte_stocke hdoc]
    simp [hdest]
  unfold compterNonLus
  rw [mapM_eq_ok hcompte]
  show Except.ok (List.count true _) = _
  rw [List.count, List.countP_map]
  congr 1
  exact List.countP_congr fun doc _ => by simp

/-- **The badge of a home page** is the number of homework counted for the id it listens for. -/
theorem nbDevoirsNonLus_eleve (hb₀ : ∀ id, b₀.doc .devoirs id = none) (ops : List OperationDevoir)
    {p : HomeEleve} {eleveId : String} (hp : p.ecoute .devoirs = some eleveId) :
    p.nbDevoirsNonLus (jouerDevoirs S b₀ ops) =
      .ok ((devoirsDe .eleve eleveId (jouerDevoirs S b₀ ops)).countP fun doc =>
        compte (jouerDevoirs S b₀ ops) (.eleve eleveId) doc.1) := by
  unfold HomeEleve.nbDevoirsNonLus
  rw [hp]
  exact compterNonLus_eq hb₀ ops (.eleve eleveId)

theorem nbDevoirsNonLus_parent (hb₀ : ∀ id, b₀.doc .devoirs id = none)
    (ops : List OperationDevoir) {p : HomeParent} {parentId : String}
    (hp : p.ecoute .devoirs = some parentId) (utilisateurId : String) :
    p.nbDevoirsNonLus (jouerDevoirs S b₀ ops) =
      .ok ((devoirsDe .parent parentId (jouerDevoirs S b₀ ops)).countP fun doc =>
        compte (jouerDevoirs S b₀ ops) (.parent utilisateurId parentId) doc.1) := by
  unfold HomeParent.nbDevoirsNonLus
  rw [hp]
  exact compterNonLus_eq hb₀ ops (.parent utilisateurId parentId)

/-- The marks under which the views agree: the reader's mark was made through the repository exactly
when it was made through his list, and it is his list that his home page goes by. -/
structure Concorde (S : Server) (b₀ : Base) (ops : List OperationDevoir) (u : Lecteur)
    (id : String) : Prop where
  repository : Marque S b₀ ops id u.lecteurId ↔
    Destinataire (jouerDevoirs S b₀ ops) u.role id u.lecteurId ∧ Ouvert S b₀ ops id u.lecteurId
  accueil : Destinataire (jouerDevoirs S b₀ ops) u.role id u.lecteurId ∧
      Ouvert S b₀ ops id u.lecteurId ↔
    (Destinataire (jouerDevoirs S b₀ ops) u.role id u.accueilId → Ouvert S b₀ ops id u.accueilId)

/-- Where list and home page go by one id, the homework must be addressed to it. -/
theorem concorde_iff {ops : List OperationDevoir} {u : Lecteur} {id : String}
    (hu : u.accueilId = u.lecteurId) : Concorde S b₀ ops u id ↔
      Destinataire (jouerDevoirs S b₀ ops) u.role id u.lecteurId ∧
        (Marque S b₀ ops id u.lecteurId ↔ Ouvert S b₀ ops id u.lecteurId) := by
  constructor
  · rintro ⟨hrepository, haccueil⟩
    rw [hu] at haccueil
    have hdest : Destinataire (jouerDevoirs S b₀ ops) u.role id u.lecteurId := by
      by_contra hnon
      exact hnon (haccueil.mpr fun h => absurd h hnon).1
    exact ⟨hdest, hrepository.trans (and_iff_right hdest)⟩
  · rintro ⟨hdest, hmarque⟩
    refine ⟨hmarque.trans (and_iff_right hdest).symm, ?_⟩
    rw [hu]
    exact ⟨fun h _ => h.2, fun h => ⟨hdest, h hdest⟩⟩

/-- **Three views of a homework.**  After any creations and marks, the views agree on a reader of a
homework exactly if his marks do. -/
theorem vuesAccordees_iff (S : Server) {b₀ : Base} (hb₀ : ∀ id, b₀.doc .devoirs id = none)
    (ops : List OperationDevoir) (u : Lecteur) {id : String}
    (hid : ((jouerDevoirs S b₀ ops).doc .devoirs id).isSome) :
    VuesAccordees (jouerDevoirs S b₀ ops) u id ↔ Concorde S b₀ ops u id := by
  obtain ⟨doc, hdoc⟩ := Option.isSome_iff_exists.mp hid
  obtain ⟨m, lu, now, rfl, hmarque, houvert⟩ := suivie_jouer hb₀ ops id doc hdoc
  have hdecode := decodeLu_stocke (u := u) hdoc
  have hliste := listeLue_stocke (u := u) hdoc
  have hcompte := compte_stocke (u := u) hdoc
  have hrepository : decodeLu (jouerDevoirs S b₀ ops) u id =
      listeLue (jouerDevoirs S b₀ ops) u id ↔ (Marque S b₀ ops id u.lecteurId ↔
        Destinataire (jouerDevoirs S b₀ ops) u.role id u.lecteurId ∧
          Ouvert S b₀ ops id u.lecteurId) := by
    rw [hdecode, hliste, decide_eq_decide, hmarque, houvert, destinataire_stocke hdoc]
  have haccueil : listeLue (jouerDevoirs S b₀ ops) u id =
      !compte (jouerDevoirs S b₀ ops) u id ↔
      (Destinataire (jouerDevoirs S b₀ ops) u.role id u.lecteurId ∧
        Ouvert S b₀ ops id u.lecteurId ↔
      (Destinataire (jouerDevoirs S b₀ ops) u.role id u.accueilId →
        Ouvert S b₀ ops id u.accueilId)) := by
    rw [hliste, hcompte, ← decide_not, decide_eq_decide, houvert, houvert,
      destinataire_stocke hdoc, destinataire_stocke hdoc, not_and, not_not]
  exact ⟨fun h => ⟨hrepository.mp h.liste, haccueil.mp h.badge⟩,
    fun h => ⟨hrepository.mpr h.repository, haccueil.mpr h.accueil⟩⟩

/-- A class with one student. -/
def baseUnEleve : Base :=
  baseVide.putDoc .classes "c" (newDoc 0 [textes .elevesIds ["a"]])

/-- A homework ready to be sent to that class. -/
def devoirRempli : CreationDevoirPage where
  enseignantUtilisateurId := "u"
  etablissementId := "E"
  enseignantDocId := some "t"
  classeSelectionneeId := some "c"
  matiereSelectionneeId := some "m"
  titre := "Lecture"
  description := "Page 10"
  dateRemise := some 0

/-- It is sent, and the student opens it. -/
def devoirOuvert : List OperationDevoir := [.creer devoirRempli 0, .ouvrir (.eleve "a") "x"]

theorem vuesAccordees_devoirOuvert :
    VuesAccordees (jouerDevoirs (Server.longest 10) baseUnEleve devoirOuvert) (.eleve "a") "x" ↔
      Concorde (Server.longest 10) baseUnEleve devoirOuvert (.eleve "a") "x" :=
  vuesAccordees_iff (Server.longest 10) (fun _ => rfl) devoirOuvert (.eleve "a")
    (by decide +kernel)

/-- The list and the badge know that it was read, the decoded model does not. -/
theorem not_vuesAccordees_devoirOuvert :
    ¬VuesAccordees (jouerDevoirs (Server.longest 10) baseUnEleve devoirOuvert) (.eleve "a") "x" := by
  intro h
  exact absurd h.liste (by decide +kernel)

end EduConnect.Familles
