import EduConnect.Lib.Table
import EduConnect.Lib.Prog
import EduConnect.Lib.Runs
import EduConnect.Lib.Sched
import EduConnect.Lib.Text
import EduConnect.Lib.Backend
import EduConnect.Schema
import EduConnect.Modeles
import EduConnect.Admin.Classes
import EduConnect.Admin.Eleves
import EduConnect.Lib.Mirror
import EduConnect.Admin.Enrolment
import EduConnect.Admin.ClassUpdates
import EduConnect.Lignes
import EduConnect.Messagerie.Conversation
import EduConnect.Messagerie.Boite
import EduConnect.Messagerie.Depot
import EduConnect.Messagerie.Systeme
import EduConnect.Messagerie.Suppressions
import EduConnect.Messagerie.Edition
import EduConnect.Lib.Latest
import EduConnect.Messagerie.Resume
import EduConnect.Lib.Lots
import EduConnect.Lib.Tranches
import EduConnect.Messagerie.Listes
import EduConnect.Messagerie.Annuaires
import EduConnect.Messagerie.NonLus
import EduConnect.Messagerie.Identites
import EduConnect.Messagerie.Confidentialite
import EduConnect.Enseignant.Choix
import EduConnect.Enseignant.Appel
import EduConnect.Enseignant.Rosters
import EduConnect.Enseignant.Puces
import EduConnect.Codecs
import EduConnect.Lib.Faults
import EduConnect.Pannes
import EduConnect.Admin.Controleurs
import EduConnect.Admin.Isolation
import EduConnect.Admin.Edition
import EduConnect.Admin.Comptes
import EduConnect.Admin.Inscriptions
import EduConnect.Admin.Reprises
import EduConnect.Admin.MotsDePasse
import EduConnect.Commun.Connexion
import EduConnect.Commun.Session
import EduConnect.Commun.Veracite
import EduConnect.Admin.Presence
import EduConnect.Enseignant.Notes
import EduConnect.Enseignant.ClasseEntiere
import EduConnect.Enseignant.Matieres
import EduConnect.Admin.Operations
import EduConnect.Lib.Lock
import EduConnect.Lib.Owner
import EduConnect.Enseignant.Interruptions
import EduConnect.Enseignant.Presences
import EduConnect.Enseignant.Soumission
import EduConnect.Enseignant.Valeurs
import EduConnect.Lib.Additions
import EduConnect.Lib.Stored
import EduConnect.Lib.References
import EduConnect.Lib.Sorted
import EduConnect.Lib.Cuts
import EduConnect.Enseignant.Bilan
import EduConnect.Enseignant.Passages
import EduConnect.Enseignant.Enregistrement
import EduConnect.Enseignant.Affichage
import EduConnect.Enseignant.Relecture
import EduConnect.Enseignant.Devoirs
import EduConnect.Enseignant.Destinataires
import EduConnect.Admin.Liens
import EduConnect.Admin.Enseignements
import EduConnect.Admin.DialogueMatiere
import EduConnect.Admin.Creations
import EduConnect.Admin.ParClasse
import EduConnect.Admin.Retraits
import EduConnect.Annonces.Pages
import EduConnect.Annonces.Diffusion
import EduConnect.Familles.Notifications
import EduConnect.Familles.Ecole
import EduConnect.Familles.Livraison
import EduConnect.Familles.Devoirs
import EduConnect.Familles.Lectures
import EduConnect.SuperAdmin.Administrateurs
import EduConnect.SuperAdmin.Roles
import EduConnect.Admin.FicheEleve
import EduConnect.Admin.ParEtablissement
import EduConnect.Admin.Identifiants
import EduConnect.Admin.Photos
import EduConnect.Familles.Enfants
import EduConnect.Annonces.PiecesJointes
import EduConnect.Enseignant.Absences
import EduConnect.Enseignant.Tentatives
import EduConnect.Admin.PhotoProfil
import EduConnect.Lib.Motif
import EduConnect.SuperAdmin.Emails
import EduConnect.Admin.Coefficients
import EduConnect.Commun.Textes
import EduConnect.Messagerie.Jours
import EduConnect.Enseignant.DepotNotifications
import EduConnect.Enseignant.TableauDeBord
import EduConnect.Enseignant.Echeances
import EduConnect.Commun.Abonnements
import EduConnect.Enseignant.Accueil
import EduConnect.Familles.Accueils
import EduConnect.Enseignant.Abonnements
import EduConnect.Commun.Fuites
import EduConnect.Messagerie.Registre
import EduConnect.Messagerie.Compteurs
import EduConnect.SuperAdmin.Statistiques
import EduConnect.Lib.Contracts
import EduConnect.Lib.Typing
import EduConnect.Typage
import EduConnect.Admin.Ecrans
import EduConnect.Enseignant.Ecrans
import EduConnect.Commun.Ecrans
import EduConnect.Lib.Atomic
import EduConnect.Lib.Repositories
import EduConnect.Donnees.Depots
import EduConnect.Donnees.Objet
import EduConnect.Donnees.Atomicite
import EduConnect.Commun.Lisibilite
import EduConnect.Lib.Registers
import EduConnect.SuperAdmin.Listes
import EduConnect.Admin.Parents
import EduConnect.Familles.Notes
import EduConnect.Commun.Registres
import EduConnect.Commun.Parents
import EduConnect.Commun.Releves
