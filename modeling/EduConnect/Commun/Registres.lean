import EduConnect.Commun.Ecrans

/-!
# The registers of the application

Grades, attendance records, homework, notifications, messages, roles, establishments and links are
only entered under ids that the server makes up.  No run of the clients alters them beyond the
fields that `politique` lists, and none brings a deleted one back.
-/

namespace EduConnect

open Lib Prog Enseignant Admin SuperAdmin

section Runs

variable {ι : Type} [DecidableEq ι]

/-- **A document of a register is there as long as its collection deletes none, keeps the fields that
the screens do not edit, and does not come back once it is gone.** -/
theorem application_registres {S : Server} {z : Calendrier}
    {pages : ι → (e : Ecran) → (e.vue z).Page} {as as' : List (Act ι (GesteClient z) Base)}
    {s s' : Ensemble ι z}
    (hs : as.foldlM (Sys.closedStep (application ι S z)) (Sys.init baseVide pages) = some s)
    (hs' : as'.foldlM (Sys.closedStep (application ι S z)) s = some s')
    {c : Collection} (hc : pose c = false) {id : String} {d : Document}
    (hd : s.base.doc c id = some d) :
    (supprime c = false → ∃ d', s'.base.doc c id = some d') ∧
      (∀ d', s'.base.doc c id = some d' → ∀ f, politique.edits c f = false → d' f = d f) ∧
      (s'.base.doc c id = none → ∀ (as'' : List (Act ι (GesteClient z) Base)) (s'' : Ensemble ι z),
        as''.foldlM (Sys.closedStep (application ι S z)) s' = some s'' →
          s''.base.doc c id = none) := by
  obtain ⟨⟨-, hordre⟩, hevolue⟩ := application_evolue hs hs'
  have hid : id ∈ s.base.issued := hordre.registre c hc id d hd
  have hpas := hevolue c hc
  refine ⟨fun hkeep => hpas.stays hkeep id d hd, fun d' hd' f hf => ?_, fun hgone as'' s'' hs'' => ?_⟩
  · obtain ⟨e, he, hsame⟩ := hpas.same id hid d' hd'
    obtain rfl := Option.some.inj (he.symm.trans hd)
    exact hsame f hf
  · have hrun : (as ++ as').foldlM (Sys.closedStep (application ι S z)) (Sys.init baseVide pages) =
        some s' := by
      rw [List.foldlM_append, hs]
      exact hs'
    exact ((application_evolue hrun hs'').2 c hc).doc_eq_none (hpas.issued id hid) hgone

/-- A role is added on one screen, -/
def ajoutDeRole : List (Act Unit (GesteClient tempsUniversel) Base) :=
  [.event () ⟨.ajoutRole, .inl { nom := "eleve", description := "Un élève" }⟩,
    .event () ⟨.ajoutRole, .inr ()⟩, .serve 0, .resume 0]

def idDuRole : String := (Server.longest 30).newDocId baseVide .roles

/-- and deleted on another. -/
def suppressionDeRole : List (Act Unit (GesteClient tempsUniversel) Base) :=
  [.event () ⟨.listesSuperAdmin, .inr (.supprimerRole idDuRole true)⟩, .serve 0, .resume 0]

/-- The role does not come back. -/
theorem application_registres_role :
    ∃ s s' d, ajoutDeRole.foldlM
        (Sys.closedStep (application Unit (Server.longest 30) tempsUniversel))
          (Sys.init baseVide fun _ => pagesVides tempsUniversel) = some s ∧
      suppressionDeRole.foldlM
        (Sys.closedStep (application Unit (Server.longest 30) tempsUniversel)) s = some s' ∧
      s.base.doc .roles idDuRole = some d ∧
      ∀ (as'' : List (Act Unit (GesteClient tempsUniversel) Base)) s'', as''.foldlM
        (Sys.closedStep (application Unit (Server.longest 30) tempsUniversel)) s' = some s'' →
          s''.base.doc .roles idDuRole = none :=
  ⟨_, _, _, rfl, rfl, rfl, (@application_registres Unit _ (Server.longest 30) tempsUniversel _
    ajoutDeRole suppressionDeRole _ _ rfl rfl .roles rfl idDuRole _ rfl).2.2 rfl⟩

end Runs

end EduConnect
