import EduConnect.Admin.Ecrans
import EduConnect.Annonces.Pages
import EduConnect.Commun.Veracite
import EduConnect.Enseignant.Ecrans
import EduConnect.Familles.Devoirs
import EduConnect.Familles.Notes
import EduConnect.Familles.Notifications
import EduConnect.Messagerie.Conversation

/-!
# The screens of everybody, and what any run of them stores

Clients run the screens of the application on one server: whatever their users type and press, in
whatever order the requests are served, resumed and lost, every stored document is as the schema says.
-/

namespace EduConnect

open Lib Prog

/-! ## Messages and announcements -/

namespace Messagerie.Conversation

theorem message_complets (m : MessageModele) : Complets .messages m.toMap := by
  constructor
  · simp [MessageModele.toMap]
  · simp [MessageModele.toMap, texte, textes]

theorem marquer_contrat (messages : List MessageModele) :
    (marquerMessagesCommeLus messages).Within contrat := by
  refine fun p => within_commit fun w hw => ?_
  obtain ⟨m, -, rfl⟩ := List.mem_map.mp hw
  exact ⟨_, _, _, rfl, by simp⟩

theorem on_contrat {p : Conversation} {ev : Evenement} {q : Action Geste Conversation Unit}
    (h : p.on ev = some q) : q.Within contrat := by
  cases ev with
  | recevoir =>
    obtain rfl := Option.some.inj h
    refine .bind (.bind (fun _ => trivial) fun p => .bind within_query fun docs => within_ofExcept _)
      fun messages => .bind trivial fun _ => marquer_contrat messages
  | reconstruire =>
    obtain rfl := Option.some.inj h
    exact .bind (fun _ => trivial) fun p => marquer_contrat p.messages
  | saisir t =>
    obtain rfl := Option.some.inj h
    trivial
  | envoyerMessage t =>
    obtain rfl := Option.some.inj h
    refine .bind (fun _ => trivial) fun p => .ite trivial (.bind ?_ fun _ => trivial)
    unfold deposer
    split
    · refine .bind (within_update ?_) fun _ => trivial
      simp
    · exact .bind (within_ajouter (message_complets _) ⟨rfl, fun _ => trivial⟩) fun _ => trivial
  | repondre n =>
    obtain ⟨m, -, rfl⟩ := Option.map_eq_some_iff.mp h
    trivial
  | annulerReponse =>
    obtain rfl := Option.some.inj h
    trivial
  | modifier n =>
    obtain ⟨m, -, rfl⟩ := Option.map_eq_some_iff.mp h
    trivial
  | supprimerPourMoi n =>
    obtain ⟨m, -, rfl⟩ := Option.map_eq_some_iff.mp h
    intro p
    show (ecrire _ (retrait p.moi m)).Within contrat
    unfold retrait
    dsimp only
    split
    · exact within_delete rfl
    · refine within_update ?_
      simp
  | supprimerPourTous n =>
    obtain ⟨m, -, rfl⟩ := Option.map_eq_some_iff.mp h
    exact fun p => .ite trivial (within_delete rfl)

end Messagerie.Conversation

namespace Annonces

theorem annonce_complets (a : Admin.AnnonceModele) : Complets .annonces a.toMap := by
  refine ⟨?_, List.forall_mem_nil _⟩
  simp [Admin.AnnonceModele.toMap]
  exact fits_texteOption List.not_mem_nil rfl

theorem marquee_modifiables (u : String) : Modifiables .annonces (DepotAnnonce.marquee u) := by
  simp [DepotAnnonce.marquee]

theorem soumettreAnnonce_contrat (t : ℤ) : (CreerAnnonce.soumettreAnnonce t).Within contrat := by
  have hfichier : CreerAnnonce.uploaderFichierDansAppwrite.Within contrat := by
    refine .bind (fun _ => trivial) fun p => ?_
    split
    · exact .catching (.bind (within_call ⟨trivial, trivial⟩) fun _ => trivial) fun _ => trivial
    · trivial
  refine .bind (fun _ => trivial) fun p => .ite (.bind trivial fun _ => ?_) trivial
  -- the two branches of the upload go on alike
  refine .ite (.bind hfichier fun _ => ?_) ?_
  all_goals
    refine .ensuring ?_ _
    refine .catching ?_ fun _ => trivial
    refine .bind within_query fun users => .bind (fun _ => trivial) fun p => ?_
    refine .bind (within_ajouter ⟨?_, List.forall_mem_nil _⟩ ⟨rfl, fun _ => trivial⟩)
      fun _ => trivial
    simp [CreerAnnonce.champs]
    exact fits_texteOption List.not_mem_nil rfl

theorem chargerAnnonces_contrat (t : ℤ) : (ListeAnnonces.chargerAnnonces t).Within contrat := by
  refine .catching ?_ fun _ => trivial
  refine .bind trivial fun _ => .bind (fun _ => trivial) fun p => .bind within_query fun docs => ?_
  exact .bind (within_ofExcept _) fun _ => .bind trivial fun _ => trivial

theorem ListeAnnonces.marquerCommeLue_contrat (a : String) :
    (ListeAnnonces.marquerCommeLue a).Within contrat := by
  refine .bind (fun _ => trivial) fun p => .ite trivial (.catching ?_ fun _ => trivial)
  exact .bind (within_update (marquee_modifiables _)) fun _ => trivial

end Annonces

/-! ## Families -/

namespace Familles

theorem ListeDevoirs.on_contrat {p : ListeDevoirs} {ev : ListeDevoirs.Evenement}
    {q : Action ListeDevoirs.Attente ListeDevoirs Unit} (h : p.on ev = some q) :
    q.Within contrat := by
  cases ev with
  | snapshots =>
    obtain rfl := Option.some.inj h
    exact .bind (fun _ => trivial) fun p => .bind within_query fun _ => trivial
  | onTap d =>
    obtain ⟨e, -, rfl⟩ := Option.map_eq_some_iff.mp h
    refine .bind (.bind (fun _ => trivial) fun p => .ite trivial (within_update ?_)) fun _ => trivial
    simp

theorem NotificationsParentPage.onTap_contrat (n : Enseignant.NotificationModele) :
    (NotificationsParentPage.onTap n).Within contrat := by
  refine .ite trivial (.bind (within_update ?_) fun _ => trivial)
  simp

theorem ListeNotificationsElevePage.onTap_contrat (n : NotificationModeleEleve) :
    (ListeNotificationsElevePage.onTap n).Within contrat := by
  refine .ite trivial (.bind (within_update ?_) fun _ => trivial)
  simp

theorem fetchEleveId_contrat : ListeNotificationsElevePage.fetchEleveId.Within contrat := by
  refine .catching ?_ fun _ => trivial
  refine .bind (fun _ => trivial) fun p => .bind within_query fun docs => ?_
  rcases docs with _ | ⟨doc, docs⟩ <;> trivial

theorem snapshots_contrat {σ : Type} (e : String) :
    (snapshots e : Action Unit σ Emission).Within contrat :=
  .catching (.bind within_query fun _ => trivial) fun _ => trivial

theorem NotesEnfantPage.recevoir_contrat : NotesEnfantPage.recevoir.Within contrat :=
  .bind (fun _ => trivial) fun p => .bind (snapshots_contrat p.enfantId) fun _ => trivial

namespace NotesElevePage

theorem chargerInfosEleve_contrat : chargerInfosEleve.Within contrat := by
  refine .catching ?_ fun _ => trivial
  refine .bind (fun _ => trivial) fun p => .bind within_query fun docs => ?_
  rcases docs with _ | ⟨doc, docs⟩ <;> trivial

theorem recevoir_contrat : recevoir.Within contrat := by
  refine .bind (fun _ => trivial) fun p => ?_
  rcases p.eleveId with _ | e
  · trivial
  · exact .bind (snapshots_contrat e) fun _ => trivial

end NotesElevePage

end Familles

/-! ## Sessions -/

namespace Commun

theorem statut_modifiables (v : Bool) : Modifiables .utilisateurs [(.statut, .put (.bool v))] := by
  simp

theorem fermerSession_contrat : fermerSession.Within contrat := by
  refine .bind (within_call ⟨trivial, trivial⟩) fun user => ?_
  rcases (user : Option String) with _ | uid
  · exact within_call ⟨trivial, trivial⟩
  · exact .bind (within_update (statut_modifiables _)) fun _ => within_call ⟨trivial, trivial⟩

theorem deconnecter_contrat : deconnecter.Within contrat := by
  refine .catching ?_ fun _ => trivial
  exact .bind fermerSession_contrat fun _ => trivial

theorem logoutUser_contrat : logoutUser.Within contrat := by
  refine .catching ?_ fun _ => trivial
  exact .bind fermerSession_contrat fun _ => trivial

theorem connecter_contrat (email motDePasse : String) : (connecter email motDePasse).Within contrat := by
  have hrole : ∀ data, (lireRole data).Within contrat := by
    intro data
    unfold lireRole
    split
    · trivial
    · refine .bind (within_ofExcept _) fun r => .bind within_lireDoc fun doc => ?_
      rcases doc with _ | d
      · trivial
      · exact .bind (within_ofExcept _) fun _ => .bind (within_ofExcept _) fun _ => trivial
  refine .bind trivial fun _ => .catching ?_ fun _ => ?_
  · refine .bind (.catching (.bind (within_call ⟨trivial, trivial⟩) fun _ => trivial) fun _ => trivial)
      fun user => ?_
    rcases user with _ | uid
    · exact .bind trivial fun _ => trivial
    · refine .bind trivial fun _ => .bind (.bind (within_update (statut_modifiables _)) fun _ =>
        .bind within_lire fun doc => ?_) fun role => .bind trivial fun _ => trivial
      rcases doc with _ | d
      · trivial
      · exact hrole d
  · exact .bind trivial fun _ => trivial

theorem ouvrirAccueil_contrat (uid roleNom : String) : (ouvrirAccueil uid roleNom).Within contrat := by
  refine .bind within_lire fun doc => ?_
  rcases doc with _ | d
  · exact .bind trivial fun _ => trivial
  refine .bind (within_ofExcept _) fun e => ?_
  rcases e with _ | e
  · exact .bind trivial fun _ => trivial
  refine .ite (.bind trivial fun _ => trivial) ?_
  split
  · exact .bind trivial fun _ => trivial
  · exact .bind trivial fun _ => .bind trivial fun _ => trivial

theorem handleLogin_contrat (toLowerCase : String → String) (email password : String)
    (rememberMe : Bool) : (handleLogin toLowerCase email password rememberMe).Within contrat := by
  have hapres : (apresConnexion toLowerCase).Within contrat := by
    refine .bind (within_call ⟨trivial, trivial⟩) fun user => ?_
    rcases (user : Option String) with _ | uid
    · refine .bind (under_ret.mpr trivial) fun _ => .bind (fun _ => trivial) fun p => ?_
      split
      · exact .bind trivial fun _ => trivial
      · refine .ite (.bind trivial fun _ => trivial) (.bind (within_call ⟨trivial, trivial⟩) ?_)
        exact fun _ => .bind trivial fun _ => trivial
    · refine .bind (within_update (statut_modifiables _)) fun _ => .bind (fun _ => trivial) fun p => ?_
      split
      · exact .bind trivial fun _ => trivial
      · exact .ite (.bind trivial fun _ => trivial) (ouvrirAccueil_contrat uid _)
  refine .bind trivial fun _ => .bind (connecter_contrat _ _) fun ok => .bind trivial fun _ => ?_
  exact .ite hapres (.bind trivial fun _ => trivial)

end Commun

/-! ## What can be done on a screen -/

open Admin Enseignant Familles Annonces SuperAdmin

inductive GesteDetail where
  | fetchClasseDetails
  | toggleElement (liste : ListeClasse) (elementId : String) (selected : Bool)
  | resetClasse
  | validerMatiere (matiere enseignant : Option String)

def GesteDetail.programme : GesteDetail → Action Etape ClasseDetail Unit
  | fetchClasseDetails => ClasseDetail.fetchClasseDetails
  | toggleElement liste elementId selected =>
    ClasseDetail.toggleElement liste.champ elementId selected
  | resetClasse => ClasseDetail.resetClasse
  | validerMatiere matiere enseignant => ClasseDetail.validerMatiere matiere enseignant

inductive GesteEdition where
  | chargerClasse
  | modifierClasse

def GesteEdition.programme : GesteEdition → Action Etape ModifierClasse Unit
  | chargerClasse => ModifierClasse.chargerClasse
  | modifierClasse => ModifierClasse.modifierClasse

/-- The deletions of the lists that keep nothing but their messages. -/
inductive GesteListe where
  | supprimerClasse (docId : String) (confirmation : Bool)
  | supprimerMatiere (docId : String) (confirmation : Bool)
  | supprimerEnseignant (utilisateurId : String) (confirmation : Bool)
  | supprimerUtilisateur (userId : String) (confirm : Bool)

def GesteListe.programme : GesteListe → Action Etape (List String) Unit
  | supprimerClasse docId confirmation => Admin.supprimerClasse docId confirmation
  | supprimerMatiere docId confirmation => Admin.supprimerMatiere docId confirmation
  | supprimerEnseignant utilisateurId confirmation =>
    ListeEnseignants.supprimerUtilisateur utilisateurId confirmation
  | supprimerUtilisateur userId confirm => ListeUtilisateurs.supprimerUtilisateur userId confirm

inductive GesteEleves where
  | chargerDonnees
  | supprimerUtilisateur (utilisateurId eleveId : String) (confirmation : Bool)

def GesteEleves.programme : GesteEleves → Action Etape ListeEleves Unit
  | chargerDonnees => ListeEleves.chargerDonnees
  | supprimerUtilisateur utilisateurId eleveId confirmation =>
    ListeEleves.supprimerUtilisateur utilisateurId eleveId confirmation

inductive GesteInscription where
  | fetchClasseData
  | cocher (eleveId : String) (val : Bool)
  | ajouterEleves

def GesteInscription.programme : GesteInscription → Action Etape AjouterElevesClasse Unit
  | fetchClasseData => AjouterElevesClasse.fetchClasseData
  | cocher eleveId val => AjouterElevesClasse.cocher eleveId val
  | ajouterEleves => AjouterElevesClasse.ajouterEleves

inductive GesteProfil where
  | chargerInfos
  | modifierInformations (nom prenom email : String)
  | modifierPhotoProfil (picked : Option String)

def GesteProfil.programme : GesteProfil → Action Unit ProfilUtilisateur Unit
  | chargerInfos => ProfilUtilisateur.chargerInfos
  | modifierInformations nom prenom email => ProfilUtilisateur.modifierInformations nom prenom email
  | modifierPhotoProfil picked => ProfilUtilisateur.modifierPhotoProfil picked

inductive GesteParents where
  | chargerDonnees
  | supprimerParent (utilisateurId parentId : String) (confirmation : Bool)

def GesteParents.programme : GesteParents → Action Unit ListeParents Unit
  | chargerDonnees => ListeParents.chargerDonnees
  | supprimerParent utilisateurId parentId confirmation =>
    ListeParents.supprimerParent utilisateurId parentId confirmation

inductive GesteParent where
  | chargerDonneesParent
  | modifierParent

def GesteParent.programme : GesteParent → Action Unit ModifierParent Unit
  | chargerDonneesParent => ModifierParent.chargerDonneesParent
  | modifierParent => ModifierParent.modifierParent

inductive GesteAdministrateurs where
  | fetchRoleAdministrateurId
  | supprimerAdministrateur (utilisateurId : String) (confirmation : Bool)

def GesteAdministrateurs.programme : GesteAdministrateurs → Action Unit ListeAdministrateurs Unit
  | fetchRoleAdministrateurId => ListeAdministrateurs.fetchRoleAdministrateurId
  | supprimerAdministrateur utilisateurId confirmation =>
    ListeAdministrateurs.supprimerAdministrateur utilisateurId confirmation

/-- The deletions of the lists of roles and establishments. -/
inductive GesteSuperAdmin where
  | supprimerRole (docId : String) (confirmation : Bool)
  | supprimerEtablissement (docId : String) (confirmation : Bool)

def GesteSuperAdmin.programme : GesteSuperAdmin → Action Unit (List String) Unit
  | supprimerRole docId confirmation => SuperAdmin.supprimerRole docId confirmation
  | supprimerEtablissement docId confirmation =>
    SuperAdmin.supprimerEtablissement docId confirmation

inductive GesteAnnonce where
  | ajouter (annonce : AnnonceModele)
  | marquerCommeLue (annonceId utilisateurId : String)
  | supprimer (annonceId : String)

def GesteAnnonce.programme : GesteAnnonce → Action Unit Unit Unit
  | ajouter annonce => DepotAnnonce.ajouterAnnonce annonce
  | marquerCommeLue annonceId utilisateurId => DepotAnnonce.marquerCommeLue annonceId utilisateurId
  | supprimer annonceId => DepotAnnonce.supprimerAnnonce annonceId

inductive GesteLecteur where
  | chargerAnnonces (maintenant : ℤ)
  | marquerCommeLue (annonceId : String)

def GesteLecteur.programme : GesteLecteur → Action Unit ListeAnnonces Unit
  | chargerAnnonces maintenant => ListeAnnonces.chargerAnnonces maintenant
  | marquerCommeLue annonceId => ListeAnnonces.marquerCommeLue annonceId

inductive GesteNotifications where
  | fetchEleveId
  | onTap (notif : NotificationModeleEleve)

def GesteNotifications.programme :
    GesteNotifications → Action Unit ListeNotificationsElevePage Unit
  | fetchEleveId => ListeNotificationsElevePage.fetchEleveId
  | onTap notif => ListeNotificationsElevePage.onTap notif

inductive GesteNotes where
  | chargerInfosEleve
  | recevoir

def GesteNotes.programme : GesteNotes → Action Unit NotesElevePage Unit
  | chargerInfosEleve => NotesElevePage.chargerInfosEleve
  | recevoir => NotesElevePage.recevoir

/-! ## The application -/

inductive Ecran where
  | ajout (e : EcranAjout)
  | ajoutSuperAdministrateur
  | ajoutRole
  | modifierRole
  | ajoutEtablissement
  | modifierEtablissement
  | listesSuperAdmin
  | listeAdministrateurs
  | modifierEnseignant
  | modifierAdministrateur
  | profil
  | ficheEleve
  | modificationEleve
  | listeEleves
  | listeParents
  | modifierParent
  | listes
  | ajouterClasse
  | modifierClasse
  | detailClasse
  | dialogueMatiere
  | inscription
  | controleurs (etablissementId : String)
  | ajoutMatiere
  | modificationMatiere
  | lierParentEnfant
  | lierEnseignantMatiere
  | appel
  | notes
  | creationDevoir
  | lectureDevoir
  | listeDevoirs
  | notificationsParent
  | notificationsEleve
  | notesEleve
  | notesEnfant
  | conversation
  | creerAnnonce
  | depotAnnonce
  | listeAnnonces
  | session
  deriving DecidableEq

namespace Ecran

/-- The ids passed to the creations of classes and subjects are those that `doc()` makes up; a login
also says what `toLowerCase` does. -/
def vue (z : Calendrier) : Ecran → Screen Requete Req.Ans Err
  | ajout e => .ofActions fun _ : Unit => e.enregistrer
  | ajoutSuperAdministrateur =>
    .ofActions fun _ : Unit => AjoutSuperAdministrateur.enregistrerSuperAdministrateur
  | ajoutRole => .ofActions fun _ : Unit => AjoutRole.enregistrerRole
  | modifierRole => .ofActions fun _ : Unit => ModifierRole.modifierRole
  | ajoutEtablissement => .ofActions fun _ : Unit => AjoutEtablissement.enregistrerEtablissement
  | modifierEtablissement => .ofActions fun _ : Unit => ModifierEtablissement.modifierEtablissement
  | listesSuperAdmin => .ofActions GesteSuperAdmin.programme
  | listeAdministrateurs => .ofActions GesteAdministrateurs.programme
  | modifierEnseignant => .ofActions fun _ : Unit => ModificationUtilisateur.modifierEnseignant
  | modifierAdministrateur =>
    .ofActions fun _ : Unit => ModificationUtilisateur.modifierAdministrateur
  | profil => .ofActions GesteProfil.programme
  | ficheEleve => .ofActions fun _ : Unit => FicheEleve.chargerDonneesEleve
  | modificationEleve => .ofActions fun _ : Unit => ModificationEleve.modifierEleve
  | listeEleves => .ofActions GesteEleves.programme
  | listeParents => .ofActions GesteParents.programme
  | modifierParent => .ofActions GesteParent.programme
  | listes => .ofActions GesteListe.programme
  | ajouterClasse => .ofActions (AjouterClasse.ajouterClasse ())
  | modifierClasse => .ofActions GesteEdition.programme
  | detailClasse => .ofActions GesteDetail.programme
  | dialogueMatiere => .ofEvents DialogueMatiere.on
  | inscription => .ofActions GesteInscription.programme
  | controleurs etablissementId => .ofActions (AppelControleur.action etablissementId)
  | ajoutMatiere => .ofActions (AjoutMatiere.enregistrerMatiere ())
  | modificationMatiere => .ofActions fun _ : Unit => ModificationMatiere.modifierMatiere ()
  | lierParentEnfant => .ofEvents LierParentEnfant.on
  | lierEnseignantMatiere => .ofActions LierEnseignantMatiere.lierMatiere
  | appel => .ofEvents AppelPage.on
  | notes => .ofEvents NotesPage.on
  | creationDevoir => .ofEvents fun s ev => DevoirOuvert.programme z ev s
  | lectureDevoir => .ofActions fun x : String × String =>
    (DevoirRepository.marquerDevoirCommeLu () x.1 x.2 : Action Unit Unit Unit)
  | listeDevoirs => .ofEvents ListeDevoirs.on
  | notificationsParent => .ofActions NotificationsParentPage.onTap
  | notificationsEleve => .ofActions GesteNotifications.programme
  | notesEleve => .ofActions GesteNotes.programme
  | notesEnfant => .ofActions fun _ : Unit => NotesEnfantPage.recevoir
  | conversation => .ofEvents Messagerie.Conversation.on
  | creerAnnonce => .ofActions CreerAnnonce.soumettreAnnonce
  | depotAnnonce => .ofActions GesteAnnonce.programme
  | listeAnnonces => .ofActions GesteLecteur.programme
  | session => .ofActions fun x : (String → String) × Commun.Appel => x.2.programme x.1

/-- **Every screen is under the contract.** -/
theorem vue_contrat (z : Calendrier) (e : Ecran) : (e.vue z).Within contrat := by
  cases e with
  | ajout e => exact Screen.within_ofActions fun _ => EcranAjout.enregistrer_contrat e
  | ajoutSuperAdministrateur =>
    exact Screen.within_ofActions fun _ => enregistrerSuperAdministrateur_contrat
  | ajoutRole => exact Screen.within_ofActions fun _ => enregistrerRole_contrat
  | modifierRole => exact Screen.within_ofActions fun _ => ModifierRole.modifierRole_contrat
  | ajoutEtablissement => exact Screen.within_ofActions fun _ => enregistrerEtablissement_contrat
  | modifierEtablissement =>
    exact Screen.within_ofActions fun _ => ModifierEtablissement.modifierEtablissement_contrat
  | listesSuperAdmin =>
    refine Screen.within_ofActions fun g => ?_
    cases g with
    | supprimerRole docId confirmation => exact supprimerRole_contrat docId confirmation
    | supprimerEtablissement docId confirmation =>
      exact supprimerEtablissement_contrat docId confirmation
  | listeAdministrateurs =>
    refine Screen.within_ofActions fun g => ?_
    cases g with
    | fetchRoleAdministrateurId => exact fetchRoleAdministrateurId_contrat
    | supprimerAdministrateur u confirmation =>
      exact supprimerAdministrateur_contrat u confirmation
  | modifierEnseignant =>
    exact Screen.within_ofActions fun _ => EcranEdition.enregistrer_contrat .enseignant
  | modifierAdministrateur =>
    exact Screen.within_ofActions fun _ => EcranEdition.enregistrer_contrat .administrateur
  | profil =>
    refine Screen.within_ofActions fun g => ?_
    cases g with
    | chargerInfos => exact chargerInfos_contrat
    | modifierInformations nom prenom email => exact modifierInformations_contrat nom prenom email
    | modifierPhotoProfil picked => exact modifierPhotoProfil_contrat picked
  | ficheEleve => exact Screen.within_ofActions fun _ => chargerDonneesEleve_contrat
  | modificationEleve => exact Screen.within_ofActions fun _ => modifierEleve_contrat
  | listeEleves =>
    refine Screen.within_ofActions fun g => ?_
    cases g with
    | chargerDonnees => exact within_of_lecture ListeEleves.chargerDonnees_lecture
    | supprimerUtilisateur u e confirmation =>
      exact ListeEleves.supprimerUtilisateur_contrat u e confirmation
  | listeParents =>
    refine Screen.within_ofActions fun g => ?_
    cases g with
    | chargerDonnees => exact ListeParents.chargerDonnees_contrat
    | supprimerParent u p confirmation => exact ListeParents.supprimerParent_contrat u p confirmation
  | modifierParent =>
    refine Screen.within_ofActions fun g => ?_
    cases g with
    | chargerDonneesParent => exact ModifierParent.chargerDonneesParent_contrat
    | modifierParent => exact ModifierParent.modifierParent_contrat
  | listes =>
    refine Screen.within_ofActions fun g => ?_
    cases g with
    | supprimerClasse docId confirmation => exact supprimerClasse_contrat docId confirmation
    | supprimerMatiere docId confirmation => exact supprimerMatiere_contrat docId confirmation
    | supprimerEnseignant u confirmation =>
      exact ListeEnseignants.supprimerUtilisateur_contrat u confirmation
    | supprimerUtilisateur u confirm => exact ListeUtilisateurs.supprimerUtilisateur_contrat u confirm
  | ajouterClasse => exact Screen.within_ofActions (ajouterClasse_contrat ())
  | modifierClasse =>
    refine Screen.within_ofActions fun g => ?_
    cases g with
    | chargerClasse => exact chargerClasse_contrat
    | modifierClasse => exact modifierClasse_contrat
  | detailClasse =>
    refine Screen.within_ofActions fun g => ?_
    cases g with
    | fetchClasseDetails => exact fetchClasseDetails_contrat
    | toggleElement liste elementId selected => exact toggleElement_contrat liste elementId selected
    | resetClasse => exact resetClasse_contrat
    | validerMatiere m t => exact validerMatiere_contrat m t
  | dialogueMatiere => exact Screen.within_ofEvents fun _ _ _ => DialogueMatiere.on_contrat
  | inscription =>
    refine Screen.within_ofActions fun g => ?_
    cases g with
    | fetchClasseData => exact fetchClasseData_contrat
    | cocher e val => trivial
    | ajouterEleves => exact ajouterEleves_contrat
  | controleurs E => exact Screen.within_ofActions (AppelControleur.action_contrat E)
  | ajoutMatiere => exact Screen.within_ofActions (enregistrerMatiere_contrat ())
  | modificationMatiere =>
    exact Screen.within_ofActions fun _ => ModificationMatiere.modifierMatiere_contrat ()
  | lierParentEnfant => exact Screen.within_ofEvents fun _ _ _ => LierParentEnfant.on_contrat
  | lierEnseignantMatiere => exact Screen.within_ofActions lierMatiere_contrat
  | appel => exact Screen.within_ofEvents fun _ _ _ => AppelPage.on_contrat
  | notes => exact Screen.within_ofEvents fun _ _ _ => NotesPage.on_contrat
  | creationDevoir => exact Screen.within_ofEvents fun _ _ _ => DevoirOuvert.programme_contrat
  | lectureDevoir => exact Screen.within_ofActions fun x => marquerDevoirCommeLu_contrat () x.1 x.2
  | listeDevoirs => exact Screen.within_ofEvents fun _ _ _ => ListeDevoirs.on_contrat
  | notificationsParent => exact Screen.within_ofActions NotificationsParentPage.onTap_contrat
  | notificationsEleve =>
    refine Screen.within_ofActions fun g => ?_
    cases g with
    | fetchEleveId => exact fetchEleveId_contrat
    | onTap n => exact ListeNotificationsElevePage.onTap_contrat n
  | notesEleve =>
    refine Screen.within_ofActions fun g => ?_
    cases g with
    | chargerInfosEleve => exact NotesElevePage.chargerInfosEleve_contrat
    | recevoir => exact NotesElevePage.recevoir_contrat
  | notesEnfant => exact Screen.within_ofActions fun _ => NotesEnfantPage.recevoir_contrat
  | conversation => exact Screen.within_ofEvents fun _ _ _ => Messagerie.Conversation.on_contrat
  | creerAnnonce => exact Screen.within_ofActions soumettreAnnonce_contrat
  | depotAnnonce =>
    refine Screen.within_ofActions fun g => ?_
    cases g with
    | ajouter a => exact poserDoc_contrat (annonce_complets a) rfl rfl
    | marquerCommeLue a u => exact .ite trivial (within_update (marquee_modifiables u))
    | supprimer a => exact .ite trivial (within_delete rfl)
  | listeAnnonces =>
    refine Screen.within_ofActions fun g => ?_
    cases g with
    | chargerAnnonces t => exact chargerAnnonces_contrat t
    | marquerCommeLue a => exact ListeAnnonces.marquerCommeLue_contrat a
  | session =>
    refine Screen.within_ofActions fun x => ?_
    obtain ⟨toLowerCase, g⟩ := x
    cases g with
    | connecter email motDePasse =>
      exact .bind (Commun.connecter_contrat email motDePasse) fun _ => trivial
    | handleLogin email password rememberMe =>
      exact Commun.handleLogin_contrat toLowerCase email password rememberMe
    | deconnecter => exact Commun.deconnecter_contrat
    | logoutUser => exact Commun.logoutUser_contrat

end Ecran

/-- What a client can do. -/
abbrev GesteClient (z : Calendrier) : Type 0 := Σ e : Ecran, (e.vue z).Ev

/-- Clients with all the screens, on one server. -/
def application (ι : Type) (S : Server) (z : Calendrier) :
    Spec ι Unit Requete Req.Ans Err ((e : Ecran) → (e.vue z).Page) Base (GesteClient z) :=
  Screen.spec S.handler .unavailable (Ecran.vue z)

/-- The clients and their server. -/
abbrev Ensemble (ι : Type) (z : Calendrier) : Type :=
  Sys ι Unit Requete Req.Ans Err ((e : Ecran) → (e.vue z).Page) Base

def compteVide : Donnees.UtilisateurModele := ⟨"", "", "", "", "", "", "", true, "", "", none⟩

/-- The screens as they open on empty ids. -/
def pagesVides (z : Calendrier) : (e : Ecran) → (e.vue z).Page
  | .ajout .eleve => ({ etablissementId := "" } : AjoutEleve)
  | .ajout .parent => ({ etablissementId := "" } : AjoutParent)
  | .ajout .enseignant => ({ etablissementId := "" } : AjoutEnseignant)
  | .ajout .administrateur => ({} : AjoutAdministrateur)
  | .ajoutSuperAdministrateur => ({} : AjoutSuperAdministrateur)
  | .ajoutRole => ({} : AjoutRole)
  | .modifierRole => ({ id := "", nom := "", description := "" } : ModifierRole)
  | .ajoutEtablissement => ⟨⟨"", "", "", "", "", "", "", "", "", "", ""⟩, []⟩
  | .modifierEtablissement => ⟨⟨"", "", "", "", "", "", "", "", "", "", ""⟩, []⟩
  | .listesSuperAdmin => ([] : List String)
  | .listeAdministrateurs => ({} : ListeAdministrateurs)
  | .modifierEnseignant => ⟨compteVide, "", "", "", "", "", false, []⟩
  | .modifierAdministrateur => ⟨compteVide, "", "", "", "", "", false, []⟩
  | .profil => ({ utilisateurId := "" } : ProfilUtilisateur)
  | .ficheEleve => ({ eleveId := "" } : FicheEleve)
  | .modificationEleve => ({ eleveId := "" } : ModificationEleve)
  | .listeEleves => ({ etablissementId := "" } : ListeEleves)
  | .listeParents => ({ etablissementId := "" } : ListeParents)
  | .modifierParent => ({ parentId := "" } : ModifierParent)
  | .listes => ([] : List String)
  | .ajouterClasse => ({ etablissementId := "" } : AjouterClasse)
  | .modifierClasse => ({ idClasse := "" } : ModifierClasse)
  | .detailClasse => ({ classeId := "" } : ClasseDetail)
  | .dialogueMatiere => ({ classeId := "", etablissementId := "", selectedMatieres := [] } :
      DialogueMatiere)
  | .inscription => ({ classeId := "" } : AjouterElevesClasse)
  | .controleurs _ => ()
  | .ajoutMatiere => ({ etablissementId := "" } : AjoutMatiere)
  | .modificationMatiere => (⟨"", "", "", "", "", []⟩ : ModificationMatiere)
  | .lierParentEnfant => ({ parentId := "" } : LierParentEnfant)
  | .lierEnseignantMatiere => ({ enseignantId := "" } : LierEnseignantMatiere)
  | .appel => ({ etablissementId := "", utilisateurId := "" } : AppelPage)
  | .notes => ({ etablissementId := "", utilisateurId := "" } : NotesPage)
  | .creationDevoir => ⟨{ enseignantUtilisateurId := "", etablissementId := "" }, 0, [], []⟩
  | .lectureDevoir => ()
  | .listeDevoirs => Familles.DevoirElevePage ""
  | .notificationsParent => ({ parentId := "" } : Familles.NotificationsParentPage)
  | .notificationsEleve => ({ utilisateurId := "" } : Familles.ListeNotificationsElevePage)
  | .notesEleve => ({ utilisateurId := "" } : NotesElevePage)
  | .notesEnfant => ({ enfantId := "", nomComplet := "" } : NotesEnfantPage)
  | .conversation => ({ role := .parent, moi := "", interlocuteur := "" } : Messagerie.Conversation)
  | .creerAnnonce => ({ etablissementId := "" } : Annonces.CreerAnnonce)
  | .depotAnnonce => ()
  | .listeAnnonces =>
    ({ lecteur := .parent, utilisateurId := "", etablissementId := "" } : Annonces.ListeAnnonces)
  | .session => ({} : Commun.Application)

section Runs

variable {ι : Type} [DecidableEq ι]

/-- The documents of a store that the clients' runs reach, and what a run does to its registers. -/
theorem application_evolue {S : Server} {z : Calendrier} {pages : ι → (e : Ecran) → (e.vue z).Page}
    {as as' : List (Act ι (GesteClient z) Base)}
    {s s' : Ensemble ι z}
    (hs : as.foldlM (Sys.closedStep (application ι S z)) (Sys.init baseVide pages) = some s)
    (hs' : as'.foldlM (Sys.closedStep (application ι S z)) s = some s') :
    (BienType s.base ∧ EnOrdre s.base) ∧
      ∀ c, pose c = false → Evolves politique c s.base s'.base := by
  have hlost : contrat.fails .unavailable := trivial
  refine Screen.run_of_within contrat_honours hlost (Ecran.vue_contrat z)
    (T := fun b b' => ∀ c, pose c = false → Evolves politique c b b')
    (fun b c _ => .refl b) (fun b b₁ b' h h' c hc => (h c hc).trans (h' c hc))
    (fun r b hr hb c hc => ?_) ⟨bienType_baseVide, enOrdre_baseVide⟩ hs hs'
  exact (evolves_handler hc (hb.2.registre c hc) hr.2).1

/-- Every state of the clients' runs has a store in order. -/
theorem application_ordre (S : Server) (z : Calendrier)
    (pages : ι → (e : Ecran) → (e.vue z).Page) (as : List (Act ι (GesteClient z) Base)) :
    Always (Sys.closedStep (application ι S z)) (fun s => BienType s.base ∧ EnOrdre s.base)
      (Sys.init baseVide pages) as := by
  have hlost : contrat.fails .unavailable := trivial
  exact Screen.always_of_within contrat_honours hlost (Ecran.vue_contrat z)
    ⟨bienType_baseVide, enOrdre_baseVide⟩ pages as

/-- **Whatever the clients do, in whatever order, and whatever requests are lost, every stored document
is as the schema says.** -/
theorem application_bienType (S : Server) (z : Calendrier)
    (pages : ι → (e : Ecran) → (e.vue z).Page) (as : List (Act ι (GesteClient z) Base)) :
    Always (Sys.closedStep (application ι S z)) (fun s => BienType s.base)
      (Sys.init baseVide pages) as :=
  Always.mono (fun _ hs => hs.1) (application_ordre S z pages as)

end Runs

end EduConnect
