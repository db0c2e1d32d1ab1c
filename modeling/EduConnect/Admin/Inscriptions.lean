import EduConnect.Admin.Comptes
import EduConnect.Lib.Stored

/-!
# What an account creation does

Run behind a connection that may lose requests, a flow either creates no account, and then changes
no document, or creates one (`Flux.CompteCree` says which), and then its documents may be missing.
-/

namespace EduConnect.Admin

open Lib Prog Donnees

/-! ## The page -/

namespace Flux

variable {σ : Type} (F : Flux σ)

/-- The form: the page without what it shows. -/
def forme : σ → σ := F.avec fun s => { s with loading := false, messages := [] }

def messages (p : σ) : List Message := (F.saisie p).messages

/-- From `p` to `p'` only the loading mark and failure messages have changed. -/
structure Suite (p p' : σ) : Prop where
  forme : F.forme p' = F.forme p
  messages : ∃ ms : List Message, (∀ m ∈ ms, m.type ≠ .success) ∧
    F.messages p' = F.messages p ++ ms

/-- The page after the message of success. -/
def apresSucces (p : σ) : σ :=
  F.vider (F.avec (fun s => { s with
    messages := s.messages ++ [⟨"Succès", F.succes, .success⟩] }) p)

variable {F} {p p' p'' : σ}

theorem Suite.refl : F.Suite p p := ⟨rfl, [], by simp, by simp⟩

theorem Suite.trans (h : F.Suite p p') (h' : F.Suite p' p'') : F.Suite p p'' := by
  obtain ⟨hf, ms, hms, hm⟩ := h
  obtain ⟨hf', ms', hms', hm'⟩ := h'
  refine ⟨hf'.trans hf, ms ++ ms', fun m hmem => ?_, by rw [hm', hm, List.append_assoc]⟩
  exact (List.mem_append.mp hmem).elim (hms m) (hms' m)

theorem suite_message (titre message : String) {type : DialogType} (htype : type ≠ .success) :
    F.Suite p (F.avec (fun s => { s with messages := s.messages ++ [⟨titre, message, type⟩] }) p) := by
  refine ⟨?_, [⟨titre, message, type⟩], by simpa using htype, ?_⟩
  · rw [forme, F.avec_avec]
    rfl
  · rw [messages, F.saisie_avec]
    rfl

theorem suite_chargement (loading : Bool) : F.Suite p (F.chargement loading p) := by
  refine ⟨?_, [], by simp, ?_⟩
  · rw [forme, chargement, F.avec_avec]
    rfl
  · rw [messages, chargement, F.saisie_avec]
    exact (List.append_nil _).symm

theorem messages_apresSucces :
    F.messages (F.apresSucces p) = F.messages p ++ [⟨"Succès", F.succes, .success⟩] := by
  rw [messages, apresSucces, F.messages_vider, F.saisie_avec]
  rfl

/-- A page that only shows more failures does not show the message of success. -/
theorem Suite.messages_ne (h : F.Suite p p') :
    F.messages p' ≠ F.messages p ++ [⟨"Succès", F.succes, .success⟩] := by
  obtain ⟨-, ms, hms, hm⟩ := h
  intro heq
  rw [hm] at heq
  refine hms ⟨"Succès", F.succes, .success⟩ ?_ rfl
  rw [List.append_cancel_left heq]
  exact List.mem_singleton.mpr rfl

end Flux

/-! ## The steps before the documents -/

/-- The role named `nomRole`, as the query finds it. -/
def roleNomme (b : Base) (nomRole : String) : Option String :=
  ((⟨[.isEqualTo .nom (.str nomRole)], none, some 1⟩ : Query Champ).run
    (b.docs .roles)).head?.map Prod.fst

/-- What an upload of the picture `image` answers, and what it leaves. -/
def televerse (S : Server) (image : Option String) (b : Base) (f : List (Option Err)) :
    Option String × Base × List (Option Err) :=
  match image with
  | none => (none, b, f)
  | some _ =>
    match nextFault f with
    | some _ => (none, b, f.tail)
    | none => (some (S.newId b.files), { b with files := b.files.put (S.newId b.files) () }, f.tail)

/-- An upload changes nothing but the files. -/
theorem televerse_base (S : Server) (image : Option String) (b : Base) (f : List (Option Err)) :
    ∃ t, (televerse S image b f).2.1 = { b with files := t } := by
  rcases image with _ | image
  · exact ⟨b.files, rfl⟩
  · rcases hf : nextFault f with _ | e
    · exact ⟨b.files.put (S.newId b.files) (), by simp only [televerse, hf]⟩
    · exact ⟨b.files, by simp only [televerse, hf]⟩

/-- An upload is one request, if there is a picture. -/
theorem televerse_pannes (S : Server) (image : Option String) (b : Base) (f : List (Option Err)) :
    (televerse S image b f).2.2 = if image.isSome then f.tail else f := by
  rcases image with _ | image
  · rfl
  · rcases hf : nextFault f with _ | e <;> simp only [televerse, hf] <;> rfl

/-- The file id depends on the files only. -/
theorem televerse_fichier {S : Server} {image : Option String} (b b' : Base)
    {f : List (Option Err)} (h : b'.files = b.files) :
    (televerse S image b' f).1 = (televerse S image b f).1 := by
  rcases image with _ | image
  · rfl
  · rcases hf : nextFault f with _ | e <;> simp only [televerse, hf, h]

namespace Flux

variable {σ : Type} {F : Flux σ} {S : Server} {p : σ} {b : Base} {f : List (Option Err)}

theorem ends_televerserPhoto
    {Q : Except Err (Option String) → σ → Base × List (Option Err) → Prop} :
    F.televerserPhoto.Ends (faulty S.handler) Q p (b, f) ↔
      Q (.ok (televerse S (F.saisie p).image b f).1) p (televerse S (F.saisie p).image b f).2 := by
  simp only [televerserPhoto, bind_eq]
  rw [ends_page_bind]
  unfold Saisie.image
  rcases (F.saisie p).imageBytes with _ | bytes
  · exact Iff.rfl
  rcases (F.saisie p).imageName with _ | imageName
  · exact Iff.rfl
  simp only [uploadImageToAppwrite, ends_catching, bind_eq, ends_bind, ends_creerFichier_pannes]
  rcases hf : nextFault f with _ | e
  · rw [perduOuServi_of_none hf]
    simp only [televerse, hf]
    exact Iff.rfl
  · rw [perduOuServi_of_some hf]
    simp only [televerse, hf]
    exact Iff.rfl

/-- The role query: lost, it gives no role or throws; served, it gives the role. -/
theorem ends_recupererRoleId
    {Q : Except Err (Option String) → σ → Base × List (Option Err) → Prop}
    (hperdu : ∀ e, nextFault f = some e → (∀ p', F.Suite p p' → Q (.ok none) p' (b, f.tail)) ∧
      Q (.error e) p (b, f.tail))
    (hservi : nextFault f = none → Q (.ok (roleNomme b F.nomRole)) p (b, f.tail)) :
    F.recupererRoleId.Ends (faulty S.handler) Q p (b, f) := by
  have hrole : ∀ {Q' : Except Err (Option String) → σ → Base × List (Option Err) → Prop},
      (∀ e, nextFault f = some e → Q' (.error e) p (b, f.tail)) →
      (nextFault f = none → Q' (.ok (roleNomme b F.nomRole)) p (b, f.tail)) →
      F.chercherRole.Ends (faulty S.handler) Q' p (b, f) := fun hlost hserved => by
    refine ends_bind.mpr ((ends_requete_pannes rfl).mpr ⟨fun e he => hlost e he, fun h => ?_⟩)
    exact hserved h
  unfold recupererRoleId
  rcases F.erreurRole with _ | contexte
  · exact hrole (fun e he => (hperdu e he).2) hservi
  · refine ends_catching.mpr (hrole (fun e he => ?_) hservi)
    exact (hperdu e he).1 _ (suite_message "Erreur" _ (by decide))

variable (F S) in
/-- The backend once the account is created. -/
def cree (p : σ) (b : Base) : Base :=
  avecCompte S b (trim (F.saisie p).email) (trim (F.saisie p).motDePasse)

theorem ends_creerUtilisateur {Q : Except Err String → σ → Base × List (Option Err) → Prop}
    (h : CompteAccepte b (trim (F.saisie p).email) (trim (F.saisie p).motDePasse))
    (hf : nextFault f = none) :
    F.creerUtilisateur.Ends (faulty S.handler) Q p (b, f) ↔
      Q (.ok (S.newId b.accounts)) p (F.cree S p b, f.tail) := by
  simp only [creerUtilisateur, bind_eq]
  rw [ends_page_bind, ends_creerCompte_pannes h, perduOuServi_of_none hf]
  rfl

/-- Refused or lost, the creation of the account throws. -/
theorem ends_creerUtilisateur_refus {Q : Except Err String → σ → Base × List (Option Err) → Prop}
    (h : nextFault f = none →
      ¬CompteAccepte b (trim (F.saisie p).email) (trim (F.saisie p).motDePasse))
    (hQ : ∀ e, Q (.error e) p (b, f.tail)) :
    F.creerUtilisateur.Ends (faulty S.handler) Q p (b, f) := by
  simp only [creerUtilisateur, bind_eq]
  rw [ends_page_bind]
  by_cases hc : CompteAccepte b (trim (F.saisie p).email) (trim (F.saisie p).motDePasse)
  · exact (ends_creerCompte_pannes hc).mpr ⟨fun e _ => hQ e, fun hf => absurd hc (h hf)⟩
  · exact ends_creerCompte_refus_pannes hc hQ

/-! ## With an account, or without -/

variable (F S) in
/-- The faults left when the account is to be created. -/
def pannesCompte (p : σ) (f : List (Option Err)) : List (Option Err) :=
  if F.photoAvant ∧ (F.saisie p).image.isSome then f.tail.tail else f.tail

variable (F) in
/-- The flow creates the account: the role is found, neither its query nor the request for the
account is lost, and the backend accepts the account. -/
def CompteCree (p : σ) (b : Base) (f : List (Option Err)) : Prop :=
  nextFault f = none ∧ (roleNomme b F.nomRole).isSome ∧ nextFault (F.pannesCompte p f) = none ∧
    CompteAccepte b (trim (F.saisie p).email) (trim (F.saisie p).motDePasse)

variable (F) in
/-- The faults left when the documents are to be written. -/
def pannesDocuments (p : σ) (f : List (Option Err)) : List (Option Err) :=
  if (F.saisie p).image.isSome then f.tail.tail.tail else f.tail.tail

variable (F S) in
/-- The id of the uploaded picture. -/
def fichier (p : σ) (b : Base) (f : List (Option Err)) : Option String :=
  (televerse S (F.saisie p).image b (if F.photoAvant then f.tail else f.tail.tail)).1

/-- Nothing changed but the files and what the page shows. -/
structure Intact (F : Flux σ) (p : σ) (b : Base) (p' : σ) (b' : Base) : Prop where
  page : F.Suite p p'
  base : ∃ t, b' = { b with files := t }

theorem pannesCompte_eq (S : Server) (h : F.photoAvant = true) :
    F.pannesCompte p f = (televerse S (F.saisie p).image b f.tail).2.2 := by
  unfold pannesCompte
  rcases (F.saisie p).image with _ | image
  · simp [h, televerse]
  · rcases hf : nextFault f.tail with _ | e <;> simp [h, televerse, hf]

theorem ends_creer_sans_compte (hc : ¬F.CompteCree p b f) :
    F.creer.Ends (faulty S.handler) (fun _ p' x => F.Intact p b p' x.1) p (b, f) := by
  simp only [creer, bind_eq]
  refine ends_bind.mpr (ends_recupererRoleId (fun e he => ⟨fun p' hp' => ?_, ?_⟩) fun hf => ?_)
  · exact ⟨(hp'.trans (suite_message _ _ (by decide))).trans (suite_chargement false), b.files, rfl⟩
  · exact ⟨Suite.refl, b.files, rfl⟩
  · rcases hrole : roleNomme b F.nomRole with _ | r
    · exact ⟨(suite_message _ _ (by decide)).trans (suite_chargement false), b.files, rfl⟩
    · have hrefus : nextFault (F.pannesCompte p f) = none →
          ¬CompteAccepte b (trim (F.saisie p).email) (trim (F.saisie p).motDePasse) :=
        fun hf' hacc => hc ⟨hf, by rw [hrole]; rfl, hf', hacc⟩
      dsimp only
      by_cases hphoto : F.photoAvant = true
      · rw [if_pos hphoto]
        refine ends_bind.mpr (ends_televerserPhoto.mpr ?_)
        obtain ⟨t, ht⟩ := televerse_base S (F.saisie p).image b f.tail
        rw [pannesCompte_eq (b := b) S hphoto] at hrefus
        refine ends_bind.mpr ?_
        generalize televerse S (F.saisie p).image b f.tail = x at ht hrefus ⊢
        obtain ⟨file, b₁, f₁⟩ := x
        subst ht
        refine ends_creerUtilisateur_refus (fun hf' => hrefus hf') fun e => ?_
        exact ⟨Suite.refl, t, rfl⟩
      · rw [if_neg hphoto]
        have hpannes : F.pannesCompte p f = f.tail := by
          unfold pannesCompte
          rw [if_neg fun h => hphoto h.1]
        rw [hpannes] at hrefus
        refine ends_bind.mpr (ends_creerUtilisateur_refus hrefus fun e => ?_)
        exact ⟨Suite.refl, b.files, rfl⟩

/-- With an account: the documents are written by `F.documents`, whose outcome is `R`. -/
theorem ends_creer_avec_compte (hc : F.CompteCree p b f) {r : String}
    (hrole : roleNomme b F.nomRole = some r)
    {R : String → String → Option String → Base → List (Option Err) → Except Err Unit → Base → Prop}
    (hdoc : ∀ u r file b f, (F.documents u r file).Ends (faulty S.handler)
      (fun a p' x => p' = p ∧ R u r file b f a x.1) p (b, f)) :
    F.creer.Ends (faulty S.handler) (fun a p' x => ∃ t,
      R (S.newId b.accounts) r (F.fichier S p b f) { F.cree S p b with files := t }
        (F.pannesDocuments p f) a x.1 ∧
      (a = .ok () → p' = F.apresSucces p) ∧ ∀ e, a = .error e → p' = p) p (b, f) := by
  obtain ⟨hf, -, hf', hacc⟩ := hc
  -- the common end of the two orders
  have hterminer : ∀ (t : Table String Unit) (f₁ : List (Option Err)),
      f₁ = F.pannesDocuments p f →
      (F.terminer (S.newId b.accounts) r (F.fichier S p b f)).Ends (faulty S.handler)
        (fun a p' x => ∃ t,
          R (S.newId b.accounts) r (F.fichier S p b f) { F.cree S p b with files := t }
            (F.pannesDocuments p f) a x.1 ∧
          (a = .ok () → p' = F.apresSucces p) ∧ ∀ e, a = .error e → p' = p) p
        ({ F.cree S p b with files := t }, f₁) := by
    rintro t f₁ rfl
    simp only [terminer, bind_eq]
    refine ends_bind.mpr ((hdoc _ _ _ _ _).mono ?_)
    rintro (e | u) p' x ⟨rfl, hR⟩
    · exact ⟨t, hR, (fun h => nomatch h), fun _ _ => rfl⟩
    · exact ⟨t, hR, fun _ => rfl, (fun _ h => nomatch h)⟩
  simp only [creer, bind_eq]
  refine ends_bind.mpr (ends_recupererRoleId (fun e he => ?_) fun _ => ?_)
  · rw [hf] at he
    exact nomatch he
  rw [hrole]
  dsimp only
  by_cases hphoto : F.photoAvant = true
  · rw [if_pos hphoto]
    refine ends_bind.mpr (ends_televerserPhoto.mpr ?_)
    obtain ⟨t, ht⟩ := televerse_base S (F.saisie p).image b f.tail
    rw [pannesCompte_eq (b := b) S hphoto] at hf'
    have hfichier : F.fichier S p b f = (televerse S (F.saisie p).image b f.tail).1 := by
      rw [fichier, if_pos hphoto]
    have hpannes : (televerse S (F.saisie p).image b f.tail).2.2.tail = F.pannesDocuments p f := by
      rw [televerse_pannes, pannesDocuments]
      split_ifs <;> rfl
    dsimp only
    rw [← hfichier]
    generalize televerse S (F.saisie p).image b f.tail = x at ht hf' hpannes ⊢
    obtain ⟨file, b₁, f₁⟩ := x
    subst ht
    have hacc₁ : CompteAccepte { b with files := t } (trim (F.saisie p).email)
        (trim (F.saisie p).motDePasse) := hacc
    exact ends_bind.mpr ((ends_creerUtilisateur hacc₁ hf').mpr (hterminer t f₁.tail hpannes))
  · rw [if_neg hphoto]
    have hcompte : F.pannesCompte p f = f.tail := by
      unfold pannesCompte
      rw [if_neg fun h => hphoto h.1]
    rw [hcompte] at hf'
    refine ends_bind.mpr ((ends_creerUtilisateur hacc hf').mpr ?_)
    refine ends_bind.mpr (ends_televerserPhoto.mpr ?_)
    have hfichier : F.fichier S p b f =
        (televerse S (F.saisie p).image (F.cree S p b) f.tail.tail).1 := by
      rw [fichier, if_neg hphoto]
      exact (televerse_fichier b (F.cree S p b) rfl).symm
    obtain ⟨t, ht⟩ := televerse_base S (F.saisie p).image
      (F.cree S p b) f.tail.tail
    have hpannes : (televerse S (F.saisie p).image (F.cree S p b) f.tail.tail).2.2 =
        F.pannesDocuments p f := televerse_pannes ..
    dsimp only
    rw [← hfichier]
    generalize televerse S (F.saisie p).image (F.cree S p b) f.tail.tail = x at ht hpannes ⊢
    obtain ⟨file, b₁, f₁⟩ := x
    subst ht
    exact hterminer t f₁ hpannes

end Flux

/-! ## The documents -/

/-- Outcome of writing documents: the accounts stay, the data are `attendue` once all is written.
Without a fault this succeeds if `prets` holds. -/
structure Ecrits (attendue : Base) (prets : Prop) (b : Base) (f : List (Option Err))
    (a : Except Err Unit) (b' : Base) : Prop where
  accounts : b'.accounts = b.accounts
  session : b'.session = b.session
  fini : a = .ok () → b' = attendue ∧ prets
  complet : f = [] → prets → a = .ok ()

section Documents

variable {S : Server} {b : Base} {f : List (Option Err)} {attendue : Base} {prets : Prop}

/-- A lost request ends the writing. -/
theorem ecrits_perdu {g : List (Option Err)} {b' : Base} {e : Err} (hg : nextFault g = some e)
    (hfg : f = [] → g = []) (haccounts : b'.accounts = b.accounts)
    (hsession : b'.session = b.session) : Ecrits attendue prets b f (.error e) b' where
  accounts := haccounts
  session := hsession
  fini h := nomatch h
  complet hf := by
    rw [hfg hf] at hg
    exact nomatch hg

theorem ecrits_fini {b' : Base} (h : b' = attendue) (hprets : prets)
    (haccounts : b'.accounts = b.accounts) (hsession : b'.session = b.session) :
    Ecrits attendue prets b f (.ok ()) b' where
  accounts := haccounts
  session := hsession
  fini _ := ⟨h, hprets⟩
  complet _ _ := rfl

/-- Writing stops on an error of the program when the data are not as expected. -/
theorem ecrits_refus {b' : Base} {e : Err} (hprets : ¬prets) (haccounts : b'.accounts = b.accounts)
    (hsession : b'.session = b.session) : Ecrits attendue prets b f (.error e) b' where
  accounts := haccounts
  session := hsession
  fini h := nomatch h
  complet _ h := absurd h hprets

theorem tail_eq_nil {α : Type} {l : List α} (h : l = []) : l.tail = [] := by rw [h, List.tail_nil]

namespace AjoutEleve

/-- The data with `u` on the list of the class `c`, if the class exists. -/
def inscrit (u c : String) (b : Base) : Base :=
  match b.doc .classes c with
  | none => b
  | some d =>
    match (d.get .elevesIds).orList with
    | .ok l =>
      if l.any (Value.isStr u) then b
      else b.putDoc .classes c
        (writeFields b.clock d [(.elevesIds, .put (.list (l ++ [.str u])))])
    | .error _ => b

theorem inscrit_docs (b b' : Base) (h : b'.docs = b.docs) (hclock : b'.clock = b.clock)
    (u c : String) : (inscrit u c b').docs = (inscrit u c b).docs := by
  have hdoc : b'.doc .classes c = b.doc .classes c := by rw [Data.doc, Data.doc, h]
  unfold inscrit
  rw [hdoc]
  rcases b.doc .classes c with _ | d
  · exact h
  dsimp only
  rcases (d.get .elevesIds).orList with e | l
  · exact h
  dsimp only
  by_cases hu : l.any (Value.isStr u) = true
  · rw [if_pos hu, if_pos hu]
    exact h
  · rw [if_neg hu, if_neg hu, Data.putDoc, Data.putDoc, h, hclock]

theorem inscrit_docs_ne {b : Base} {u c : String} {k : Collection} (hk : k ≠ .classes) :
    (inscrit u c b).docs k = b.docs k := by
  unfold inscrit
  rcases b.doc .classes c with _ | d
  · rfl
  dsimp only
  rcases (d.get .elevesIds).orList with e | l
  · rfl
  dsimp only
  by_cases hu : l.any (Value.isStr u) = true
  · rw [if_pos hu]
  · rw [if_neg hu, Data.docs_putDoc_ne b hk]

/-- The list of the class `c`, if the class exists, is a list. -/
def ListeLisible (b : Base) (c : String) : Prop :=
  ∀ d, b.doc .classes c = some d → ∃ l, (d.get .elevesIds).orList = .ok l

theorem ends_ajouterALaClasse {p : AjoutEleve} {u c : String} :
    (ajouterALaClasse c u).Ends (faulty S.handler)
      (fun a p' x => p' = p ∧ Ecrits (inscrit u c b) (ListeLisible b c) b f a x.1) p (b, f) := by
  simp only [ajouterALaClasse, bind_eq]
  refine ends_bind.mpr (ends_lire_pannes.mpr ⟨fun e he => ?_, fun _ => ?_⟩)
  · exact ⟨rfl, ecrits_perdu he id rfl rfl⟩
  dsimp only
  rcases hd : b.doc .classes c with _ | d
  · refine (ends_ret ()).mpr ⟨rfl, ecrits_fini ?_ (fun d hd' => ?_) rfl rfl⟩
    · simp only [inscrit, hd]
    · rw [hd] at hd'
      cases hd'
  refine ends_bind.mpr ((ends_ofExcept _).mpr ?_)
  rcases hl : (d.get .elevesIds).orList with e | l
  · refine ⟨rfl, ecrits_refus (fun h => ?_) rfl rfl⟩
    obtain ⟨l, hl'⟩ := h d hd
    rw [hl] at hl'
    cases hl'
  have hlisible : ListeLisible b c := fun d' hd' => by
    obtain rfl : d = d' := Option.some.inj (hd.symm.trans hd')
    exact ⟨l, hl⟩
  dsimp only
  split_ifs with hu
  · refine (ends_ret ()).mpr ⟨rfl, ecrits_fini ?_ hlisible rfl rfl⟩
    simp only [inscrit, hd, hl, if_pos hu]
  · refine (ends_update_pannes hd).mpr ⟨fun e he => ?_, fun _ => ?_⟩
    · exact ⟨rfl, ecrits_perdu he tail_eq_nil rfl rfl⟩
    · refine ⟨rfl, ecrits_fini ?_ hlisible rfl rfl⟩
      simp only [inscrit, hd, hl, if_neg hu]

/-- The data with the documents of a new student. -/
def apres (p : AjoutEleve) (u r : String) (fileId : Option String) (b : Base) : Base :=
  inscrit u (p.classeIdSelectionne.getD "")
    ((b.putDoc .utilisateurs u (newDoc b.clock (p.utilisateurData u r fileId))).putDoc .eleves u
      (newDoc b.clock (eleveData u p.classeIdSelectionne)))

theorem ends_enregistrerDocuments {p : AjoutEleve} {u r : String} {fileId : Option String}
    (hp : p.classeIdSelectionne ≠ none) : (enregistrerDocuments u r fileId).Ends (faulty S.handler)
      (fun a p' x => p' = p ∧ Ecrits (p.apres u r fileId b)
        (∃ c, p.classeIdSelectionne = some c ∧ ListeLisible b c) b f a x.1) p (b, f) := by
  simp only [enregistrerDocuments, bind_eq]
  rw [ends_page_bind]
  refine ends_bind.mpr (ends_set_pannes.mpr ⟨fun e he => ?_, fun _ => ?_⟩)
  · exact ⟨rfl, ecrits_perdu he id rfl rfl⟩
  refine ends_page_bind.mpr (ends_bind.mpr (ends_set_pannes.mpr ⟨fun e he => ?_, fun _ => ?_⟩))
  · exact ⟨rfl, ecrits_perdu he tail_eq_nil rfl rfl⟩
  refine ends_page_bind.mpr ?_
  obtain ⟨c, hc⟩ := Option.ne_none_iff_exists'.mp hp
  simp only [hc]
  refine ends_ajouterALaClasse.mono ?_
  rintro a p' x ⟨rfl, haccounts, hsession, hfini, hcomplet⟩
  -- the class is not among the documents written before
  have hclasse : ∀ now now' fs fs', ((b.putDoc .utilisateurs u (newDoc now fs)).putDoc .eleves u
      (newDoc now' fs')).doc .classes c = b.doc .classes c := fun _ _ _ _ => by
    simp [Data.doc_putDoc]
  refine ⟨rfl, haccounts, hsession, fun ha => ?_, fun hf hprets => ?_⟩
  · obtain ⟨hx, hlisible⟩ := hfini ha
    refine ⟨?_, c, rfl, fun d hd => hlisible d ((hclasse _ _ _ _).trans hd)⟩
    rw [hx, apres, hc]
    rfl
  · obtain ⟨c', hc', hlisible⟩ := hprets
    obtain rfl : c = c' := Option.some.inj hc'
    exact hcomplet (tail_eq_nil (tail_eq_nil hf))
      fun d hd => hlisible d ((hclasse _ _ _ _).symm.trans hd)

end AjoutEleve

namespace AjoutParent

/-- The data with the documents of a new parent. -/
def apres (p : AjoutParent) (u r : String) (fileId : Option String) (b : Base) : Base :=
  (b.putDoc .utilisateurs u (newDoc b.clock (p.utilisateurData u r fileId))).putDoc .parents u
    (newDoc b.clock (parentData u))

theorem ends_enregistrerDocuments {p : AjoutParent} {u r : String} {fileId : Option String} :
    (enregistrerDocuments u r fileId).Ends (faulty S.handler)
      (fun a p' x => p' = p ∧ Ecrits (p.apres u r fileId b) True b f a x.1) p (b, f) := by
  simp only [enregistrerDocuments, bind_eq]
  rw [ends_page_bind]
  refine ends_bind.mpr (ends_set_pannes.mpr ⟨fun e he => ?_, fun _ => ?_⟩)
  · exact ⟨rfl, ecrits_perdu he id rfl rfl⟩
  refine ends_set_pannes.mpr ⟨fun e he => ?_, fun _ => ?_⟩
  · exact ⟨rfl, ecrits_perdu he tail_eq_nil rfl rfl⟩
  · exact ⟨rfl, ecrits_fini rfl trivial rfl rfl⟩

end AjoutParent

namespace AjoutEnseignant

/-- The data with the documents of a new teacher. -/
def apres (S : Server) (p : AjoutEnseignant) (u r : String) (fileId : Option String) (b : Base) :
    Base :=
  S.addDoc .enseignants (b.putDoc .utilisateurs u
    (newDoc b.clock (p.utilisateur u r p.etablissementId fileId).toMap)) (lienUtilisateur u)

theorem ends_enregistrerDocuments {p : AjoutEnseignant} {u r : String} {fileId : Option String} :
    (enregistrerDocuments u r fileId).Ends (faulty S.handler)
      (fun a p' x => p' = p ∧ Ecrits (p.apres S u r fileId b) True b f a x.1) p (b, f) := by
  simp only [enregistrerDocuments, ajouterUtilisateur, ajouterEnseignant, bind_eq]
  rw [ends_page_bind]
  refine ends_bind.mpr (ends_set_pannes.mpr ⟨fun e he => ?_, fun _ => ?_⟩)
  · exact ⟨rfl, ecrits_perdu he id rfl rfl⟩
  refine ends_bind.mpr (ends_ajouter_pannes.mpr ⟨fun e he => ?_, fun _ => ?_⟩)
  · exact ⟨rfl, ecrits_perdu he tail_eq_nil rfl rfl⟩
  · exact ⟨rfl, ecrits_fini rfl trivial rfl rfl⟩

end AjoutEnseignant

namespace AjoutAdministrateur

/-- The data with the documents of a new administrator. -/
def apres (p : AjoutAdministrateur) (u r : String) (fileId : Option String) (b : Base) : Base :=
  (b.putDoc .utilisateurs u (newDoc b.clock (p.utilisateur u r
    (p.etablissementIdSelectionne.getD "") fileId).toMap)).putDoc .administrateurs u
      (newDoc b.clock (lienUtilisateur u))

/-- The model that was just written reads back. -/
theorem fromMap_toMap (m : UtilisateurModele) (now : ℤ) (id : String) :
    ∃ m', UtilisateurModele.fromMap (newDoc now m.toMap) id = .ok m' := by
  obtain ⟨_, nom, prenom, email, tel, adresse, mdp, statut, roleId, etab, photo⟩ := m
  cases photo <;> exact ⟨_, rfl⟩

theorem ends_enregistrerDocuments {p : AjoutAdministrateur} {u r : String}
    {fileId : Option String} :
    (enregistrerDocuments u r fileId).Ends (faulty S.handler)
      (fun a p' x => p' = p ∧ Ecrits (p.apres u r fileId b)
        (p.etablissementIdSelectionne.isSome ∧ (roleNomme b "administrateur").isSome) b f a x.1)
      p (b, f) := by
  simp only [enregistrerDocuments, ajouterUtilisateur, ajouterAdministrateur, getUtilisateurParId,
    bind_eq]
  rw [ends_page_bind]
  rcases hetab : p.etablissementIdSelectionne with _ | etab
  · refine ends_bind.mpr ((ends_ofExcept _).mpr ⟨rfl, ecrits_refus ?_ rfl rfl⟩)
    rintro ⟨h, -⟩
    exact nomatch h
  refine ends_bind.mpr ((ends_ofExcept _).mpr ?_)
  dsimp only [idDeDocument]
  refine ends_bind.mpr (ends_set_pannes.mpr ⟨fun e he => ?_, fun _ => ?_⟩)
  · exact ⟨rfl, ecrits_perdu he id rfl rfl⟩
  refine ends_bind.mpr ((ends_requete_pannes rfl).mpr ⟨fun e he => ?_, fun _ => ?_⟩)
  · exact ⟨rfl, ecrits_perdu he tail_eq_nil rfl rfl⟩
  dsimp only
  rw [Data.docs_putDoc_ne b (by decide)]
  split_ifs with hvide
  · refine ⟨rfl, ecrits_refus ?_ rfl rfl⟩
    rintro ⟨-, h⟩
    rw [roleNomme, hvide] at h
    exact nomatch h
  refine ends_bind.mpr (ends_bind.mpr (ends_lire_pannes.mpr ⟨fun e he => ?_, fun _ => ?_⟩))
  · exact ⟨rfl, ecrits_perdu he (fun h => tail_eq_nil (tail_eq_nil h)) rfl rfl⟩
  rw [Data.doc_putDoc, if_pos ⟨rfl, rfl⟩]
  obtain ⟨m, hm⟩ := fromMap_toMap (p.utilisateur u r etab fileId) b.clock u
  dsimp only
  refine ends_bind.mpr ((ends_ofExcept _).mpr ?_)
  dsimp only [Saisie.utilisateur] at hm ⊢
  rw [hm]
  refine (ends_ret (some m)).mpr (ends_set_pannes.mpr ⟨fun e he => ?_, fun _ => ?_⟩)
  · exact ⟨rfl, ecrits_perdu he (fun h => tail_eq_nil (tail_eq_nil (tail_eq_nil h))) rfl rfl⟩
  · refine ⟨rfl, ecrits_fini ?_ ⟨rfl, ?_⟩ rfl rfl⟩
    · rw [apres, hetab]
      rfl
    · rw [roleNomme]
      simpa [List.head?_eq_none_iff, Option.isSome_iff_ne_none] using hvide

end AjoutAdministrateur

end Documents

/-! ## Checks of the forms -/

section Controles

variable {β : Type} {h : (r : Requete) → β → Except Err r.Ans × β} {x : β}

namespace AjoutEleve

/-- The class is required by the form. -/
theorem classe_of_accepte {p : AjoutEleve} (hp : (p.validate && p.etablissement.isSome) = true) :
    p.classeIdSelectionne ≠ none := by
  obtain ⟨hvalide, -⟩ := Bool.and_eq_true_iff.mp hp
  rw [validate, Bool.and_eq_true] at hvalide
  exact Option.isSome_iff_ne_none.mp hvalide.2

theorem ends_enregistrerEleve_accepte {Q : Except Err Unit → AjoutEleve → β → Prop}
    {p : AjoutEleve} (hp : (p.validate && p.etablissement.isSome) = true) :
    enregistrerEleve.Ends h Q p x ↔ flux.enregistrer.Ends h Q p x := by
  obtain ⟨hvalide, hetab⟩ := Bool.and_eq_true_iff.mp hp
  have hclasse : p.classeIdSelectionne ≠ none := classe_of_accepte hp
  have hetab' : ¬p.etablissement.isNone = true := by
    rw [Option.isNone_iff_eq_none]
    exact Option.isSome_iff_ne_none.mp hetab
  simp only [enregistrerEleve, bind_eq]
  rw [ends_page_bind, if_pos hvalide, if_neg hetab', if_neg hclasse]
  exact Iff.rfl

theorem ends_enregistrerEleve_refuse {p : AjoutEleve}
    (hp : ¬(p.validate && p.etablissement.isSome) = true) :
    enregistrerEleve.Ends h (fun _ p' x' => flux.Suite p p' ∧ x' = x) p x := by
  simp only [enregistrerEleve, bind_eq]
  rw [ends_page_bind]
  split_ifs with hvalide hetab hclasse
  · exact ⟨Flux.suite_message (F := flux) _ _ (by decide), rfl⟩
  · exact ⟨Flux.suite_message (F := flux) _ _ (by decide), rfl⟩
  · exact absurd (by simp [hvalide, Option.isSome_iff_ne_none, Option.isNone_iff_eq_none.not.mp hetab])
      hp
  · exact ⟨Flux.Suite.refl, rfl⟩

end AjoutEleve

theorem AjoutParent.ends_enregistrerParent_accepte {Q : Except Err Unit → AjoutParent → β → Prop}
    {p : AjoutParent} (hp : p.toutRequis = true) :
    enregistrerParent.Ends h Q p x ↔ flux.enregistrer.Ends h Q p x := by
  simp only [enregistrerParent, bind_eq]
  rw [ends_page_bind, if_pos hp]

theorem AjoutParent.ends_enregistrerParent_refuse {p : AjoutParent} (hp : ¬p.toutRequis = true) :
    enregistrerParent.Ends h (fun _ p' x' => flux.Suite p p' ∧ x' = x) p x := by
  simp only [enregistrerParent, bind_eq]
  rw [ends_page_bind, if_neg hp]
  exact ⟨Flux.Suite.refl, rfl⟩

theorem AjoutEnseignant.ends_enregistrerEnseignant_accepte
    {Q : Except Err Unit → AjoutEnseignant → β → Prop} {p : AjoutEnseignant}
    (hp : p.controle = true) :
    enregistrerEnseignant.Ends h Q p x ↔ flux.enregistrer.Ends h Q p x := by
  simp only [enregistrerEnseignant, bind_eq]
  rw [ends_page_bind, if_pos hp]

theorem AjoutEnseignant.ends_enregistrerEnseignant_refuse {p : AjoutEnseignant}
    (hp : ¬p.controle = true) :
    enregistrerEnseignant.Ends h (fun _ p' x' => flux.Suite p p' ∧ x' = x) p x := by
  simp only [enregistrerEnseignant, bind_eq]
  rw [ends_page_bind, if_neg hp]
  exact ⟨Flux.Suite.refl, rfl⟩

theorem AjoutAdministrateur.ends_enregistrerAdministrateur_accepte
    {Q : Except Err Unit → AjoutAdministrateur → β → Prop} {p : AjoutAdministrateur}
    (hp : p.validate = true) :
    enregistrerAdministrateur.Ends h Q p x ↔ flux.enregistrer.Ends h Q p x := by
  have hetab : p.etablissementIdSelectionne ≠ none :=
    Option.isSome_iff_ne_none.mp (Bool.and_eq_true_iff.mp hp).2
  simp only [enregistrerAdministrateur, bind_eq]
  rw [ends_page_bind, if_pos hp, if_neg hetab]

theorem AjoutAdministrateur.ends_enregistrerAdministrateur_refuse {p : AjoutAdministrateur}
    (hp : ¬p.validate = true) :
    enregistrerAdministrateur.Ends h (fun _ p' x' => flux.Suite p p' ∧ x' = x) p x := by
  simp only [enregistrerAdministrateur, bind_eq]
  rw [ends_page_bind, if_neg hp]
  exact ⟨Flux.Suite.refl, rfl⟩

end Controles

/-! ## The four screens -/

namespace EcranAjout

/-- The data with the documents of the new user. -/
def apres (S : Server) : (e : EcranAjout) → e.Page → String → String → Option String → Base → Base
  | eleve => AjoutEleve.apres
  | parent => AjoutParent.apres
  | enseignant => AjoutEnseignant.apres S
  | administrateur => AjoutAdministrateur.apres

/-- What writing the documents needs of the form and of the data. -/
def Prets : (e : EcranAjout) → e.Page → Base → Prop
  | eleve, p, b => ∃ c, p.classeIdSelectionne = some c ∧ AjoutEleve.ListeLisible b c
  | parent, _, _ => True
  | enseignant, _, _ => True
  | administrateur, p, b =>
    p.etablissementIdSelectionne.isSome ∧ (roleNomme b "administrateur").isSome

variable {S : Server} {e : EcranAjout} {p p' : e.Page} {b b' : Base} {f : List (Option Err)}

theorem ends_documents (hp : e.accepte p = true) (u r : String) (fileId : Option String) (b : Base)
    (f : List (Option Err)) : (e.flux.documents u r fileId).Ends (faulty S.handler)
      (fun a p' x => p' = p ∧ Ecrits (e.apres S p u r fileId b) (e.Prets p b) b f a x.1) p (b, f) := by
  cases e with
  | eleve => exact AjoutEleve.ends_enregistrerDocuments (AjoutEleve.classe_of_accepte hp)
  | parent => exact AjoutParent.ends_enregistrerDocuments
  | enseignant => exact AjoutEnseignant.ends_enregistrerDocuments
  | administrateur => exact AjoutAdministrateur.ends_enregistrerDocuments

/-- The documents do not depend on the accounts, the session and the files. -/
theorem apres_docs (u r : String) (fileId : Option String) (accounts : Table String (String × String))
    (session : Option String) (files : Table String Unit) :
    (e.apres S p u r fileId
      { b with accounts := accounts, session := session, files := files }).docs =
      (e.apres S p u r fileId b).docs := by
  cases e with
  | eleve =>
    exact AjoutEleve.inscrit_docs ((b.putDoc .utilisateurs u _).putDoc .eleves u _)
      ((Data.putDoc { b with accounts := accounts, session := session, files := files }
        .utilisateurs u _).putDoc .eleves u _) rfl rfl _ _
  | parent => rfl
  | enseignant => rfl
  | administrateur => rfl

theorem apres_chargement (loading : Bool) (u r : String) (fileId : Option String) :
    e.apres S (e.flux.chargement loading p) u r fileId b = e.apres S p u r fileId b := by
  cases e <;> rfl

theorem prets_chargement (loading : Bool) :
    e.Prets (e.flux.chargement loading p) b = e.Prets p b := by
  cases e <;> rfl

theorem compteCree_chargement (loading : Bool) :
    e.flux.CompteCree (e.flux.chargement loading p) b f = e.flux.CompteCree p b f := by
  cases e <;> rfl

theorem fichier_chargement (loading : Bool) :
    e.flux.fichier S (e.flux.chargement loading p) b f = e.flux.fichier S p b f := by
  cases e <;> rfl

/-- A form that passes the checks follows the flow. -/
theorem ends_enregistrer_accepte {β : Type} {h : (r : Requete) → β → Except Err r.Ans × β}
    {Q : Except Err Unit → e.Page → β → Prop} {x : β} (hp : e.accepte p = true) :
    e.enregistrer.Ends h Q p x ↔ e.flux.enregistrer.Ends h Q p x := by
  cases e with
  | eleve => exact AjoutEleve.ends_enregistrerEleve_accepte hp
  | parent => exact AjoutParent.ends_enregistrerParent_accepte hp
  | enseignant => exact AjoutEnseignant.ends_enregistrerEnseignant_accepte hp
  | administrateur => exact AjoutAdministrateur.ends_enregistrerAdministrateur_accepte hp

/-- A form that fails them asks nothing of the backend. -/
theorem ends_enregistrer_refuse {β : Type} {h : (r : Requete) → β → Except Err r.Ans × β} {x : β}
    (hp : ¬e.accepte p = true) :
    e.enregistrer.Ends h (fun _ p' x' => e.flux.Suite p p' ∧ x' = x) p x := by
  cases e with
  | eleve => exact AjoutEleve.ends_enregistrerEleve_refuse hp
  | parent => exact AjoutParent.ends_enregistrerParent_refuse hp
  | enseignant => exact AjoutEnseignant.ends_enregistrerEnseignant_refuse hp
  | administrateur => exact AjoutAdministrateur.ends_enregistrerAdministrateur_refuse hp

/-! ### What a press keeps -/

/-- A property of the data that only documents matter for is kept if it is kept while the documents
are written. -/
theorem preserves_enregistrer {β : Type} {h : (r : Requete) → β → Except Err r.Ans × β}
    {P : β → Prop} (hmuette : ∀ (r : Requete) x, r.Silent → P x → P (h r x).2) (e : EcranAjout)
    (hdocuments : ∀ u r file, (e.flux.documents u r file).Preserves h P) :
    e.enregistrer.Preserves h P := by
  have hsilent : ∀ {α : Type} {q : Action Etape e.Page α}, (q.Issues fun _ r => r.Silent) →
      q.Preserves h P := fun hq => hq.preserves fun _ r x hr hx => hmuette r x hr hx
  have hrole : e.flux.recupererRoleId.Issues fun _ r => r.Silent := by
    have hchercher : e.flux.chercherRole.Issues fun _ r => r.Silent :=
      .bind ((issues_chercherPremier _ _ _).mpr fun _ => trivial) fun _ => trivial
    unfold Flux.recupererRoleId
    rcases e.flux.erreurRole with _ | contexte
    · exact hchercher
    · exact .catching hchercher fun _ => trivial
  have hphoto : e.flux.televerserPhoto.Issues fun _ r => r.Silent := by
    refine .bind (fun _ => trivial) fun p => ?_
    rcases (e.flux.saisie p).imageBytes with _ | bytes
    · trivial
    rcases (e.flux.saisie p).imageName with _ | name
    · trivial
    · refine .catching ?_ fun _ => trivial
      exact .bind ((issues_creerFichier _ _).mpr fun _ => trivial) fun _ => trivial
  have hcompte : e.flux.creerUtilisateur.Issues fun _ r => r.Silent :=
    .bind (fun _ => trivial) fun p => (issues_creerCompte _ _ _).mpr fun _ => trivial
  have hfin : ∀ u r file, (e.flux.terminer u r file).Preserves h P :=
    fun u r file => .bind (hdocuments u r file) fun _ => hsilent trivial
  have hflux : e.flux.enregistrer.Preserves h P := by
    refine .bind (hsilent trivial) fun _ => .ensuring (.catching ?_ fun _ => ?_) _
    rotate_left
    · exact hsilent trivial
    refine .bind (hsilent hrole) fun roleId => ?_
    rcases roleId with _ | roleId
    · exact hsilent trivial
    by_cases havant : e.flux.photoAvant = true
    · show Prog.Preserves _ _ (if _ then _ else _)
      rw [if_pos havant]
      exact .bind (hsilent hphoto) fun file => .bind (hsilent hcompte) fun u => hfin u roleId file
    · show Prog.Preserves _ _ (if _ then _ else _)
      rw [if_neg havant]
      exact .bind (hsilent hcompte) fun u => .bind (hsilent hphoto) fun file => hfin u roleId file
  intro p x hx
  by_cases hp : e.accepte p = true
  · exact (ends_enregistrer_accepte hp).mpr (hflux p x hx)
  · refine (ends_enregistrer_refuse hp).mono ?_
    rintro _ _ x' ⟨-, rfl⟩
    exact hx

/-! ### One press of the button -/

variable (S) in
/-- The page and the data after a press of the button. -/
def execution (e : EcranAjout) (p : e.Page) (b : Base) (f : List (Option Err)) : e.Page × Base :=
  let x := e.enregistrer.exec (faulty S.handler) p (b, f)
  (x.2.1, x.2.2.1)

/-- The press added the message of success. -/
def Reussie (e : EcranAjout) (p p' : e.Page) : Prop :=
  e.flux.messages p' = e.flux.messages p ++ [⟨"Succès", e.flux.succes, .success⟩]

instance : Decidable (e.Reussie p p') := inferInstanceAs (Decidable (_ = _))

/-- The press creates an account. -/
def CompteCree (e : EcranAjout) (p : e.Page) (b : Base) (f : List (Option Err)) : Prop :=
  e.accepte p = true ∧ e.flux.CompteCree p b f

/-- After a press that creates the account: its documents are written, with the message of success,
or some of them are missing. -/
structure AvecCompte (S : Server) (e : EcranAjout) (p : e.Page) (b : Base) (f : List (Option Err))
    (p' : e.Page) (b' : Base) : Prop where
  accounts : b'.accounts = b.accounts.put (S.newId b.accounts)
    (trim (e.flux.saisie p).email, trim (e.flux.saisie p).motDePasse)
  session : b'.session = some (S.newId b.accounts)
  issue : (e.Reussie p p' ∧ e.Prets p b ∧ ∃ r, roleNomme b e.flux.nomRole = some r ∧
    b'.docs = (e.apres S p (S.newId b.accounts) r (e.flux.fichier S p b f) b).docs) ∨
    e.flux.Suite p p'
  complet : f = [] → e.Prets p b → e.Reussie p p'

theorem suite_not_reussie (h : e.flux.Suite p p') : ¬e.Reussie p p' := h.messages_ne

/-- Without an account, no document changes. -/
theorem execution_sans_compte (h : ¬e.CompteCree p b f) :
    e.flux.Intact p b (execution S e p b f).1 (execution S e p b f).2 := by
  by_cases hp : e.accepte p = true
  · have hc : ¬e.flux.CompteCree (e.flux.chargement true p) b f := by
      rw [compteCree_chargement]
      exact fun hc => h ⟨hp, hc⟩
    have hends : e.enregistrer.Ends (faulty S.handler) (fun _ p' x => e.flux.Intact p b p' x.1) p
        (b, f) := by
      refine (ends_enregistrer_accepte hp).mpr ?_
      simp only [Flux.enregistrer, bind_eq]
      refine ends_setState_bind.mpr (ends_ensuring.mpr (ends_catching.mpr ?_))
      refine (Flux.ends_creer_sans_compte hc).mono ?_
      rintro (err | u) p' x ⟨hpage, hbase⟩
      · refine ⟨((Flux.suite_chargement true).trans hpage).trans ?_, hbase⟩
        exact (Flux.suite_message _ _ (by decide)).trans (Flux.suite_chargement false)
      · exact ⟨((Flux.suite_chargement true).trans hpage).trans (Flux.suite_chargement false), hbase⟩
    exact hends
  · have hends := ends_enregistrer_refuse (h := faulty S.handler) (x := (b, f)) hp
    obtain ⟨hpage, hx⟩ := hends
    exact ⟨hpage, b.files, congrArg Prod.fst hx⟩

theorem accepte_chargement (loading : Bool) :
    e.accepte (e.flux.chargement loading p) = e.accepte p := by
  cases e <;> rfl

theorem messages_chargement (loading : Bool) :
    e.flux.messages (e.flux.chargement loading p) = e.flux.messages p := by
  cases e <;> rfl

theorem execution_avec_compte (h : e.CompteCree p b f) :
    AvecCompte S e p b f (execution S e p b f).1 (execution S e p b f).2 := by
  obtain ⟨hp, hc⟩ := h
  obtain ⟨r, hrole⟩ := Option.isSome_iff_exists.mp hc.2.1
  have hc' : e.flux.CompteCree (e.flux.chargement true p) b f := by rwa [compteCree_chargement]
  have hsaisie : (e.flux.saisie (e.flux.chargement true p)) =
      { e.flux.saisie p with loading := true } := e.flux.saisie_avec _ _
  have hends : e.enregistrer.Ends (faulty S.handler) (fun _ p' x => AvecCompte S e p b f p' x.1) p
      (b, f) := by
    refine (ends_enregistrer_accepte hp).mpr ?_
    simp only [Flux.enregistrer, bind_eq]
    refine ends_setState_bind.mpr (ends_ensuring.mpr (ends_catching.mpr ?_))
    refine (Flux.ends_creer_avec_compte hc' hrole
      (ends_documents ((accepte_chargement true).trans hp))).mono ?_
    have hsansPanne : f = [] → e.flux.pannesDocuments (e.flux.chargement true p) f = [] := by
      rintro rfl
      unfold Flux.pannesDocuments
      split_ifs <;> rfl
    rintro (err | u) p' x ⟨t, ⟨haccounts, hsession, hfini, hcomplet⟩, hok, herr⟩
    · obtain rfl := herr err rfl
      refine (ends_setState _).mpr ⟨?_, hsession, .inr ?_, fun hf hprets => ?_⟩
      · rw [haccounts]
        simp only [Flux.cree, avecCompte, hsaisie]
      · exact ((Flux.suite_chargement true).trans (Flux.suite_message _ _ (by decide))).trans
          (Flux.suite_chargement false)
      · refine nomatch hcomplet (hsansPanne hf) ?_
        rw [prets_chargement]
        cases e <;> exact hprets
    · obtain rfl := hok rfl
      obtain ⟨hx, hprets⟩ := hfini rfl
      have hreussie : e.Reussie p (e.flux.chargement false
          (e.flux.apresSucces (e.flux.chargement true p))) := by
        unfold Reussie
        rw [messages_chargement, Flux.messages_apresSucces, messages_chargement]
      refine ⟨?_, hsession, .inl ⟨hreussie, ?_, r, hrole, ?_⟩, fun _ _ => hreussie⟩
      · rw [haccounts]
        simp only [Flux.cree, avecCompte, hsaisie]
      · rw [prets_chargement] at hprets
        cases e <;> exact hprets
      · rw [hx, apres_chargement, fichier_chargement]
        exact apres_docs (b := b) _ _ _ _ _ _
  exact hends

/-- Success means that the account was created and the documents written. -/
theorem execution_reussie (h : e.Reussie p (execution S e p b f).1) :
    e.CompteCree p b f ∧ e.Prets p b ∧ ∃ r, roleNomme b e.flux.nomRole = some r ∧
      (execution S e p b f).2.docs =
        (e.apres S p (S.newId b.accounts) r (e.flux.fichier S p b f) b).docs := by
  by_cases hc : e.CompteCree p b f
  · rcases (execution_avec_compte (S := S) hc).issue with ⟨-, hdocs⟩ | hsuite
    · exact ⟨hc, hdocs⟩
    · exact absurd h (suite_not_reussie hsuite)
  · exact absurd h (suite_not_reussie (execution_sans_compte hc).page)

end EcranAjout

end EduConnect.Admin
