import EduConnect.Schema
import EduConnect.Lib.Faults

/-!
# Requests that may be lost

What each request of the application does on the server `S` behind a connection with the faults `f`.
-/

namespace EduConnect

open Lib Prog

section Pannes

variable {Λ σ : Type} {S : Server} {s : σ} {b : Base} {f : List (Option Err)}

/-- A request is lost, or served. -/
abbrev PerduOuServi {α : Type} (Q : Except Err α → Base × List (Option Err) → Prop) (b : Base)
    (f : List (Option Err)) (a : Except Err α) (b' : Base) : Prop :=
  (∀ e, nextFault f = some e → Q (.error e) (b, f.tail)) ∧ (nextFault f = none → Q a (b', f.tail))

theorem perduOuServi_of_none {α : Type} {Q : Except Err α → Base × List (Option Err) → Prop}
    {a : Except Err α} {b' : Base} (hf : nextFault f = none) :
    PerduOuServi Q b f a b' ↔ Q a (b', f.tail) := by
  simp [PerduOuServi, hf]

theorem perduOuServi_of_some {α : Type} {Q : Except Err α → Base × List (Option Err) → Prop}
    {a : Except Err α} {b' : Base} {e : Err} (hf : nextFault f = some e) :
    PerduOuServi Q b f a b' ↔ Q (.error e) (b, f.tail) := by
  simp [PerduOuServi, hf]

theorem ends_lire_pannes {Q : Except Err (Option Document) → σ → Base × List (Option Err) → Prop}
    {l : Λ} {c : Collection} {id : String} : (lire l c id).Ends (faulty S.handler) Q s (b, f) ↔
      PerduOuServi (Q · s) b f (.ok (b.doc c id)) b :=
  ends_call_faulty (r := Req.get c id)

/-- A query is answered, unless the database refuses it. -/
theorem ends_requete_pannes
    {Q : Except Err (List (String × Document)) → σ → Base × List (Option Err) → Prop} {l : Λ}
    {c : Collection} {q : Query Champ} (hq : q.filters.any (Filter.refused S.maxIn) = false) :
    (Prog.call l (Req.query c q) : Action Λ σ _).Ends (faulty S.handler) Q s (b, f) ↔
      PerduOuServi (Q · s) b f (.ok (q.run (b.docs c))) b := by
  have hserved : S.handler (.query c q : Requete) b = (.ok (q.run (b.docs c)), b) := by
    simp only [Server.handler, hq]
    rfl
  refine (ends_call_faulty (r := Req.query c q)).trans ?_
  rw [hserved]
  rfl

theorem ends_ajouter_pannes {Q : Except Err String → σ → Base × List (Option Err) → Prop} {l : Λ}
    {c : Collection} {fs : Champs} : (ajouter l c fs).Ends (faulty S.handler) Q s (b, f) ↔
      PerduOuServi (Q · s) b f (.ok (S.newDocId b c)) (S.addDoc c b fs) :=
  ends_call_faulty (r := Req.add c fs)

theorem ends_set_pannes {Q : Except Err Unit → σ → Base × List (Option Err) → Prop} {l : Λ}
    {c : Collection} {id : String} {fs : Champs} :
    (ecrire l (.set c id fs)).Ends (faulty S.handler) Q s (b, f) ↔
      PerduOuServi (Q · s) b f (.ok ()) (b.putDoc c id (newDoc b.clock fs)) :=
  ends_call_faulty (r := Req.write (.set c id fs))

/-- An update of a document that is there. -/
theorem ends_update_pannes {Q : Except Err Unit → σ → Base × List (Option Err) → Prop} {l : Λ}
    {c : Collection} {id : String} {fs : Champs} {d : Document} (hd : b.doc c id = some d) :
    (ecrire l (.update c id fs)).Ends (faulty S.handler) Q s (b, f) ↔
      PerduOuServi (Q · s) b f (.ok ()) (b.putDoc c id (writeFields b.clock d fs)) := by
  have hserved : S.handler (.write (.update c id fs) : Requete) b =
      (.ok (), b.putDoc c id (writeFields b.clock d fs)) := by
    simp only [Server.handler, Write.apply, hd, Option.map_some]
  refine (ends_call_faulty (r := Req.write (.update c id fs))).trans ?_
  rw [hserved]
  rfl

theorem ends_update_absent_pannes {Q : Except Err Unit → σ → Base × List (Option Err) → Prop}
    {l : Λ} {c : Collection} {id : String} {fs : Champs} (hd : b.doc c id = none) :
    (ecrire l (.update c id fs)).Ends (faulty S.handler) Q s (b, f) ↔
      PerduOuServi (Q · s) b f (.error .notFound) b := by
  have hserved : S.handler (.write (.update c id fs) : Requete) b = (.error .notFound, b) := by
    simp only [Server.handler, Write.apply, hd, Option.map_none]
  refine (ends_call_faulty (r := Req.write (.update c id fs))).trans ?_
  rw [hserved]
  rfl

theorem ends_delete_pannes {Q : Except Err Unit → σ → Base × List (Option Err) → Prop} {l : Λ}
    {c : Collection} {id : String} :
    (ecrire l (.delete c id)).Ends (faulty S.handler) Q s (b, f) ↔
      PerduOuServi (Q · s) b f (.ok ()) (b.eraseDoc c id) :=
  ends_call_faulty (r := Req.write (.delete c id))

/-- The backend accepts to create the account. -/
def CompteAccepte (b : Base) (email password : String) : Prop :=
  b.accounts.rows.any (fun a => a.2.1 = email) = false ∧ ¬password.length < 6

/-- The backend once the account is created: its user is signed in. -/
def avecCompte (S : Server) (b : Base) (email password : String) : Base :=
  { b with
    accounts := b.accounts.put (S.newId b.accounts) (email, password)
    session := some (S.newId b.accounts) }

theorem ends_creerCompte_pannes {Q : Except Err String → σ → Base × List (Option Err) → Prop}
    {l : Λ} {email password : String} (h : CompteAccepte b email password) :
    (creerCompte l email password).Ends (faulty S.handler) Q s (b, f) ↔
      PerduOuServi (Q · s) b f (.ok (S.newId b.accounts)) (avecCompte S b email password) := by
  have hserved : S.handler (.createUser email password : Requete) b =
      (.ok (S.newId b.accounts), avecCompte S b email password) := by
    simp only [Server.handler, h.1, if_neg h.2]
    rfl
  refine (ends_call_faulty (r := Req.createUser email password)).trans ?_
  rw [hserved]
  rfl

/-- A refused account changes nothing. -/
theorem ends_creerCompte_refus_pannes
    {Q : Except Err String → σ → Base × List (Option Err) → Prop} {l : Λ} {email password : String}
    (h : ¬CompteAccepte b email password) (hQ : ∀ e, Q (.error e) s (b, f.tail)) :
    (creerCompte l email password).Ends (faulty S.handler) Q s (b, f) := by
  have hserved : ∃ e, S.handler (.createUser email password : Requete) b = (.error e, b) := by
    by_cases hlibre : b.accounts.rows.any (fun a => a.2.1 = email) = true
    · exact ⟨.auth "email-already-in-use" none, by simp only [Server.handler, if_pos hlibre]⟩
    · have hcourt : password.length < 6 := by
        by_contra hlong
        exact h ⟨Bool.not_eq_true _ ▸ hlibre, hlong⟩
      refine ⟨.auth "weak-password" none, ?_⟩
      simp only [Server.handler, if_neg hlibre, if_pos hcourt]
  obtain ⟨e, hserved⟩ := hserved
  refine (ends_call_faulty (r := Req.createUser email password)).mpr ?_
  rw [hserved]
  exact ⟨fun e' _ => hQ e', fun _ => hQ e⟩

theorem ends_creerFichier_pannes {Q : Except Err String → σ → Base × List (Option Err) → Prop}
    {l : Λ} {name : String} : (creerFichier l name).Ends (faulty S.handler) Q s (b, f) ↔
      PerduOuServi (Q · s) b f (.ok (S.newId b.files))
        { b with files := b.files.put (S.newId b.files) () } :=
  ends_call_faulty (r := Req.createFile name)

/-- Only a file that is there can be deleted. -/
theorem ends_supprimerFichier_pannes
    {Q : Except Err Unit → σ → Base × List (Option Err) → Prop} {l : Λ} {id : String} :
    (supprimerFichier l id).Ends (faulty S.handler) Q s (b, f) ↔
      PerduOuServi (Q · s) b f (if (b.files.find id).isSome then .ok () else .error .notFound)
        (if (b.files.find id).isSome then { b with files := b.files.erase id } else b) := by
  refine (ends_call_faulty (r := Req.deleteFile id)).trans ?_
  rcases hfichier : b.files.find id with _ | u
  · simp only [Server.handler, hfichier]
    exact Iff.rfl
  · simp only [Server.handler, hfichier]
    exact Iff.rfl

/-! With the current user, which the client knows without the connection. -/

/-- The request does not go through the connection. -/
def Local : Requete → Bool
  | .currentUser => true
  | _ => false

/-- The server behind a connection with faults. -/
abbrev pannes (S : Server) : (r : Requete) → Base × List (Option Err) →
    Except Err r.Ans × (Base × List (Option Err)) :=
  faultyBut Local S.handler

variable {x : Base × List (Option Err)}

@[simp] theorem ends_utilisateurCourant
    {Q : Except Err (Option String) → σ → Base × List (Option Err) → Prop} {l : Λ} :
    (utilisateurCourant l).Ends (pannes S) Q s (b, f) ↔ Q (.ok b.session) s (b, f) :=
  ends_call_local (r := Req.currentUser) rfl

theorem ends_lire_reseau {Q : Except Err (Option Document) → σ → Base × List (Option Err) → Prop}
    {l : Λ} {c : Collection} {id : String} :
    (lire l c id).Ends (pannes S) Q s (b, f) ↔ PerduOuServi (Q · s) b f (.ok (b.doc c id)) b :=
  (ends_call_not_local (r := Req.get c id) rfl).trans ends_lire_pannes

theorem ends_ecrire_reseau {Q : Except Err Unit → σ → Base × List (Option Err) → Prop} {l : Λ}
    {w : Ecriture} : (ecrire l w).Ends (pannes S) Q s x ↔
      (ecrire l w).Ends (faulty S.handler) Q s x :=
  ends_call_not_local (r := Req.write w) rfl

theorem ends_seConnecter_reseau {Q : Except Err String → σ → Base × List (Option Err) → Prop}
    {l : Λ} {email password : String} :
    (seConnecter l email password).Ends (pannes S) Q s (b, f) ↔
      PerduOuServi (Q · s) b f (S.handler (.signIn email password) b).1
        (S.handler (.signIn email password) b).2 :=
  (ends_call_not_local (r := Req.signIn email password) rfl).trans
    (ends_call_faulty (r := Req.signIn email password))

theorem ends_seDeconnecter_reseau {Q : Except Err Unit → σ → Base × List (Option Err) → Prop}
    {l : Λ} : (seDeconnecter l).Ends (pannes S) Q s (b, f) ↔
      PerduOuServi (Q · s) b f (.ok ()) { b with session := none } :=
  (ends_call_not_local (r := Req.signOut) rfl).trans (ends_call_faulty (r := Req.signOut))

/-- A program that only reads leaves the data as they are. -/
theorem ends_pannes_of_lecture {α : Type} {p : Action Λ σ α} (hp : p.Issues fun _ r => Lecture r) :
    p.Ends (faulty S.handler) (fun _ _ x => x.1 = b) s (b, f) := by
  refine hp.exec (P := fun x : Base × List (Option Err) => x.1 = b) ?_ rfl
  rintro _ r ⟨b₁, f₁⟩ hr rfl
  exact faulty_cases (P := fun x => x.2.1 = _) (fun _ _ => rfl) fun _ => handler_lecture hr

end Pannes

end EduConnect
