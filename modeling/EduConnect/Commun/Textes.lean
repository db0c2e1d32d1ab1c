import EduConnect.Lib.Runs
import EduConnect.Lib.Utf16

/-!
# Where texts are cut

The emoji keyboard of the conversation pages erases one code unit at a time, and the lists of
homework show the first 80 units of a description.  Both cuts can fall inside a character.
-/

namespace EduConnect.Commun

open Lib Utf16

/-- A text without unpaired surrogates. -/
structure Texte where
  unites : List UInt16
  entier : WellFormed unites

/-! ## The composer -/

/-- `onEmojiSelected` of the three pages: `_controller.text += emoji.emoji`. -/
def onEmojiSelected (emoji text : List UInt16) : List UInt16 := text ++ emoji

/-- `onBackspacePressed` of the three pages. -/
def onBackspacePressed (text : List UInt16) : List UInt16 :=
  if text ≠ [] then text.take (text.length - 1) else text

/-- A key of the emoji keyboard; the emojis are texts of their own. -/
inductive Touche where
  | emoji (e : Texte)
  | retour

def presser (text : List UInt16) : Touche → Option (List UInt16)
  | .emoji e => some (onEmojiSelected e.unites text)
  | .retour => some (onBackspacePressed text)

/-- What is erased is not the second half of a character. -/
def EffaceEntier (text : List UInt16) : Touche → Prop
  | .emoji _ => True
  | .retour => ∀ w, text.getLast? = some w → isLow w = false

theorem wellFormed_onBackspacePressed_iff {text : List UInt16} (h : WellFormed text) :
    WellFormed (onBackspacePressed text) ↔ ∀ w, text.getLast? = some w → isLow w = false := by
  unfold onBackspacePressed
  by_cases hvide : text = []
  · subst hvide
    exact ⟨fun _ w hw => (by cases hw), fun _ => .nil⟩
  · rw [if_pos hvide]
    have hdernier : text.getLast? = some (text.getLast hvide) := List.getLast?_eq_some_getLast hvide
    have hcoupe : text[text.length - 1]? = some (text.getLast hvide) := by
      rw [← List.getLast?_eq_getElem?, hdernier]
    rw [h.take_iff hcoupe, hdernier]
    exact ⟨fun hw w hw' => Option.some.inj hw' ▸ hw, fun hw => hw _ rfl⟩

theorem wellFormed_presser_iff {text text' : List UInt16} {t : Touche} (h : WellFormed text)
    (hpresse : presser text t = some text') : WellFormed text' ↔ EffaceEntier text t := by
  cases t with
  | emoji e =>
    obtain rfl : onEmojiSelected e.unites text = text' := Option.some.inj hpresse
    exact ⟨fun _ => trivial, fun _ => h.append e.entier⟩
  | retour =>
    obtain rfl : onBackspacePressed text = text' := Option.some.inj hpresse
    exact wellFormed_onBackspacePressed_iff h

/-! ## The preview of a description -/

/-- `...` -/
def pointsDeSuspension : List UInt16 := [0x2E, 0x2E, 0x2E]

/-- `description.length > 80 ? '${description.substring(0, 80)}...' : description`, in the lists of
the three roles. -/
def apercu (description : List UInt16) : List UInt16 :=
  if 80 < description.length then description.take 80 ++ pointsDeSuspension else description

theorem wellFormed_pointsDeSuspension : WellFormed pointsDeSuspension :=
  .single _ _ rfl rfl (.single _ _ rfl rfl (.single _ _ rfl rfl .nil))

theorem wellFormed_apercu_iff {description : List UInt16} (h : WellFormed description) :
    WellFormed (apercu description) ↔ ∀ w, description[80]? = some w → isLow w = false := by
  unfold apercu
  by_cases hlong : 80 < description.length
  · have hcoupe : description[80]? = some description[80] := List.getElem?_eq_getElem hlong
    have hpoint : isLow 0x2E = false := rfl
    rw [if_pos hlong, pointsDeSuspension,
      WellFormed.append_iff hpoint wellFormed_pointsDeSuspension, h.take_iff hcoupe, hcoupe]
    exact ⟨fun hw w hw' => Option.some.inj hw' ▸ hw, fun hw => hw _ rfl⟩
  · rw [if_neg hlong, List.getElem?_eq_none (by omega)]
    exact ⟨fun _ w hw => (by cases hw), fun _ => h⟩

/-! ## Texts stay whole -/

/-- From a whole text every text of the composer is whole, and the preview of a whole description is
whole, exactly if no key erases the second half of a character and unit 80 is none. -/
theorem textesEntiers_iff (text description : Texte) (touches : List Touche) :
    (Always presser WellFormed text.unites touches ∧ WellFormed (apercu description.unites)) ↔
      AllMeet presser EffaceEntier text.unites touches ∧
        ∀ w, description.unites[80]? = some w → isLow w = false := by
  rw [wellFormed_apercu_iff description.entier]
  have hsaisie : Always presser WellFormed text.unites touches ↔
      AllMeet presser EffaceEntier text.unites touches :=
    always_iff_allMeet (I := fun _ => True) (fun _ _ _ _ _ => trivial)
      (fun _ _ _ _ h hpresse => wellFormed_presser_iff h hpresse) trivial text.entier touches
  rw [hsaisie]

/-- An emoji of two units. -/
def souriant : Texte where
  unites := [0xD83D, 0xDE00]
  entier := .pair _ _ _ rfl rfl .nil

/-- One emoji, then one backspace: half of it is left. -/
theorem not_textesEntiers_retour :
    ¬ (Always presser WellFormed [] [.emoji souriant, .retour] ∧ WellFormed (apercu [])) := by
  rintro ⟨⟨-, hrun⟩, -⟩
  exact not_wellFormed_of_isHigh rfl ((hrun _ rfl).2 _ rfl)

end EduConnect.Commun
