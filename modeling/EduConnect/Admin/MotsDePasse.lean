import EduConnect.Admin.Inscriptions

/-!
# Passwords in the documents

Two successful presses on the same form but for the password leave the same documents on the screens
of a student and of a parent.  The screens of a teacher and of an administrator store the whole
model of the user, password included.
-/

namespace EduConnect.Admin

open Lib Prog Donnees

theorem Saisie.utilisateur_motDePasse {s : Saisie} {m : String} (h : trim s.motDePasse = trim m)
    (uid roleId etablissementId : String) (fileId : Option String) :
    Saisie.utilisateur { s with motDePasse := m } uid roleId etablissementId fileId =
      s.utilisateur uid roleId etablissementId fileId := by
  unfold Saisie.utilisateur
  rw [h]

namespace EcranAjout

variable {S : Server} {e : EcranAjout} {p q : e.Page} {b : Base} {f : List (Option Err)}

/-- The same form with the password `m`. -/
def avecMotDePasse (e : EcranAjout) (m : String) (p : e.Page) : e.Page :=
  e.flux.avec (fun s => { s with motDePasse := m }) p

/-- The screen builds its documents without the password. -/
def SansMotDePasse (e : EcranAjout) : Prop := e = eleve ∨ e = parent

theorem fichier_avecMotDePasse (m : String) :
    e.flux.fichier S (e.avecMotDePasse m p) b f = e.flux.fichier S p b f := by
  cases e <;> rfl

/-- Documents built field by field do not mention the password. -/
theorem apres_sansMotDePasse (he : e.SansMotDePasse) (m u r : String) (fileId : Option String) :
    e.apres S (e.avecMotDePasse m p) u r fileId b = e.apres S p u r fileId b := by
  rcases he with rfl | rfl <;> rfl

/-- The password only matters trimmed. -/
theorem apres_motDePasse {m : String} (h : trim (e.flux.saisie p).motDePasse = trim m)
    (u r : String) (fileId : Option String) :
    e.apres S (e.avecMotDePasse m p) u r fileId b = e.apres S p u r fileId b := by
  cases e with
  | eleve => rfl
  | parent => rfl
  | enseignant =>
    show AjoutEnseignant.apres S _ u r fileId b = AjoutEnseignant.apres S _ u r fileId b
    unfold AjoutEnseignant.apres
    exact congrArg (fun x : UtilisateurModele => S.addDoc .enseignants
      (b.putDoc .utilisateurs u (newDoc b.clock x.toMap)) (lienUtilisateur u))
      (Saisie.utilisateur_motDePasse h ..)
  | administrateur =>
    show AjoutAdministrateur.apres _ u r fileId b = AjoutAdministrateur.apres _ u r fileId b
    unfold AjoutAdministrateur.apres
    exact congrArg (fun x : UtilisateurModele => (b.putDoc .utilisateurs u
      (newDoc b.clock x.toMap)).putDoc .administrateurs u (newDoc b.clock (lienUtilisateur u)))
      (Saisie.utilisateur_motDePasse h ..)

/-- The other screens store the trimmed password. -/
theorem motDePasse_apres (he : ¬e.SansMotDePasse) (u r : String) (fileId : Option String) :
    ∃ d, (e.apres S p u r fileId b).doc .utilisateurs u = some d ∧
      d .motDePasse = some (.str (trim (e.flux.saisie p).motDePasse)) := by
  cases e with
  | eleve => exact absurd (.inl rfl) he
  | parent => exact absurd (.inr rfl) he
  | enseignant => exact ⟨_, Table.find_put_self _ _ _, rfl⟩
  | administrateur => exact ⟨_, Table.find_put_self _ _ _, rfl⟩

/-- Two successful runs that differ in the password leave the same documents exactly on the screens
that do not store it, or when the passwords agree once trimmed. -/
theorem docs_motDePasse_iff (S : Server) (e : EcranAjout) (p : e.Page) (m : String) (b : Base)
    (f : List (Option Err)) (hp : e.Reussie p (execution S e p b f).1)
    (hq : e.Reussie (e.avecMotDePasse m p) (execution S e (e.avecMotDePasse m p) b f).1) :
    (execution S e (e.avecMotDePasse m p) b f).2.docs = (execution S e p b f).2.docs ↔
      e.SansMotDePasse ∨ trim (e.flux.saisie p).motDePasse = trim m := by
  obtain ⟨-, -, r, hr, hdocs⟩ := execution_reussie hp
  obtain ⟨-, -, r', hr', hdocs'⟩ := execution_reussie hq
  obtain rfl : r = r' := Option.some.inj (hr.symm.trans hr')
  rw [hdocs, hdocs', fichier_avecMotDePasse]
  constructor
  · intro heq
    by_cases he : e.SansMotDePasse
    · exact .inl he
    · right
      obtain ⟨d, hd, hmdp⟩ := motDePasse_apres (S := S) (p := p) (b := b) he
        (S.newId b.accounts) r (e.flux.fichier S p b f)
      obtain ⟨d', hd', hmdp'⟩ := motDePasse_apres (S := S) (p := e.avecMotDePasse m p) (b := b) he
        (S.newId b.accounts) r (e.flux.fichier S p b f)
      rw [Data.doc, heq] at hd'
      obtain rfl : d' = d := Option.some.inj (hd'.symm.trans hd)
      have hsaisie : (e.flux.saisie (e.avecMotDePasse m p)).motDePasse = m := by
        rw [avecMotDePasse, e.flux.saisie_avec]
      rw [hmdp, hsaisie] at hmdp'
      exact Value.str.inj (Option.some.inj hmdp')
  · rintro (he | hmdp)
    · rw [apres_sansMotDePasse he]
    · rw [apres_motDePasse hmdp]

/-! Two passwords of a new user, on the screens of a parent and of a teacher. -/

def baseRolesAdultes : Base :=
  (baseVide.putDoc .roles "r1" (newDoc 0 [texte .nom "parent"])).putDoc .roles "r2"
    (newDoc 0 [texte .nom "enseignant"])

def saisieMartin : Saisie where
  nom := "Martin"
  prenom := "Paul"
  email := "paul@ecole.fr"
  telephone := "0601020304"
  adresse := "1 rue Haute"
  motDePasse := "secret1"

theorem docs_motDePasse_iff_parent :
    let p : AjoutParent := { saisieMartin with etablissementId := "E" }
    (execution (Server.longest 10) parent (parent.avecMotDePasse "secret2" p)
        baseRolesAdultes []).2.docs =
      (execution (Server.longest 10) parent p baseRolesAdultes []).2.docs :=
  (docs_motDePasse_iff (Server.longest 10) parent _ "secret2" baseRolesAdultes []
    (by decide +kernel) (by decide +kernel)).mpr (.inl (.inr rfl))

/-- The two runs of a teacher succeed and leave different documents. -/
theorem docs_motDePasse_ne_enseignant :
    let p : AjoutEnseignant := { saisieMartin with etablissementId := "E" }
    enseignant.Reussie p (execution (Server.longest 10) enseignant p baseRolesAdultes []).1 ∧
    enseignant.Reussie (enseignant.avecMotDePasse "secret2" p) (execution (Server.longest 10)
      enseignant (enseignant.avecMotDePasse "secret2" p) baseRolesAdultes []).1 ∧
    (execution (Server.longest 10) enseignant (enseignant.avecMotDePasse "secret2" p)
        baseRolesAdultes []).2.docs ≠
      (execution (Server.longest 10) enseignant p baseRolesAdultes []).2.docs := by
  refine ⟨by decide +kernel, by decide +kernel, fun heq => ?_⟩
  have hmdp := congrArg (fun docs : Collection → Table String Document =>
    (docs .utilisateurs).rows.any fun a => (a.2.get .motDePasse).isStr "secret1") heq
  exact absurd hmdp (by decide +kernel)

end EcranAjout

end EduConnect.Admin
