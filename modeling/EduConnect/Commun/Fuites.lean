import EduConnect.Enseignant.Abonnements
import EduConnect.Familles.Accueils

/-!
# Home pages and their listeners

Of the three home pages only that of a student keeps to one subscription of each stream, and to none
after its disposal.  A parent's page subscribes once more with each load; a teacher's page
subscribes even if it has been disposed of.
-/

namespace EduConnect.Commun

open Lib Donnees Familles Enseignant

/-- **When a home page leaks a listener.** -/
theorem sansFuites_iff {ι : Type} [DecidableEq ι] (S : Server) (b : Base)
    (utilisateurs etablissements : ι → String) :
    (∀ as, Always (Sys.step (accueilsEleve ι S)) (SansFuite HomeEleve.ecran)
      (departEleve b utilisateurs etablissements) as) ∧
    (∀ as, Always (Sys.step (accueilsParent ι S)) (SansFuite HomeParent.ecran)
        (departParent b utilisateurs etablissements) as ↔
      AllMeet (Sys.step (accueilsParent ι S))
        (AbonneSi HomeParent.ecran (accueilsParent ι S) fun e => e.abonnements.active = [])
        (departParent b utilisateurs etablissements) as) ∧
    ∀ as, Always (Sys.step (accueilsEnseignant ι S)) (SansFuite HomeEnseignant.ecran)
        (departAccueil b utilisateurs etablissements) as ↔
      AllMeet (Sys.step (accueilsEnseignant ι S))
        (AbonneSi HomeEnseignant.ecran (accueilsEnseignant ι S) fun e => e.demonte = false)
        (departAccueil b utilisateurs etablissements) as :=
  ⟨sansFuite_eleve b utilisateurs etablissements,
    sansFuite_parent_iff b utilisateurs etablissements,
    sansFuite_enseignant_iff b utilisateurs etablissements⟩

/-! ## Two leaks -/

/-- The account of a parent. -/
def compteParent : Base := baseVide.putDoc .parents "p" (newDoc 0 [texte .utilisateurId "u"])

/-- A load, and a second one on the return from the profile. -/
def retourDuProfil : List (Act Unit EvHome Base) :=
  [.event () .charger, .serve 0, .resume 0, .serve 0, .resume 0,
    .event () .charger, .serve 0, .resume 0, .serve 0, .resume 0]

/-- The page is disposed of while the photo is being read. -/
def demontePendantLaPhoto : List (Act Unit EvAccueil Base) :=
  [.event () .initState, .serve 0, .resume 0, .serve 0, .resume 0, .serve 0, .event () .dispose,
    .resume 0]

/-- The messages are listened to twice after the return; the subscriptions made after the disposal
stay. -/
theorem not_sansFuite :
    ¬Always (Sys.step (accueilsParent Unit (Server.longest 10))) (SansFuite HomeParent.ecran)
        (departParent compteParent (fun _ => "u") fun _ => "e") retourDuProfil ∧
      ¬Always (Sys.step (accueilsEnseignant Unit (Server.longest 10)))
        (SansFuite HomeEnseignant.ecran)
        (departAccueil compteEnseignant (fun _ => "u") fun _ => "e") demontePendantLaPhoto := by
  constructor
  · refine not_always_of_final (fun s => decide ¬(s.pages ()).ecran.abonnements.AtMostOne)
      (fun s hbad hP => ?_) (by decide +kernel)
    exact of_decide_eq_true hbad (hP ()).1
  · refine not_always_of_final (fun s => (s.pages ()).ecran.demonte && s.tasks.isEmpty &&
      !(s.pages ()).ecran.abonnements.active.isEmpty) (fun s hbad hP => ?_) (by decide +kernel)
    obtain ⟨hfini, hactive⟩ := Bool.and_eq_true_iff.mp hbad
    obtain ⟨hd, htasks⟩ := Bool.and_eq_true_iff.mp hfini
    have hvide := (hP ()).2 hd fun t ht => by
      rw [List.isEmpty_iff.mp htasks] at ht
      cases ht
    rw [hvide] at hactive
    cases hactive

end EduConnect.Commun
