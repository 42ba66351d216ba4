import Weave.Enumeration.Ordinal

/-!
# Display numbers

An ordered list is shown with the numbers that its author wrote, as far as they make sense.  A `1`
after a higher number restarts the count, and from there on items count up from one; decimal
numbers are always shown as written.
-/

namespace Weave

namespace Ordinal

/-- Marks the items that restart the count: those with the number one after a higher number since
the last restart.  `seenHigher` says whether such a number has been seen. -/
def restartsFrom (seenHigher : Bool) : List Ordinal → List Bool
  | [] => []
  | .whole n :: ordinals =>
    if n = 1 ∧ seenHigher then true :: restartsFrom false ordinals
    else false :: restartsFrom (seenHigher || 1 < n) ordinals
  | _ :: ordinals => false :: restartsFrom seenHigher ordinals

/-- Marks the items that restart the count. -/
def restarts (ordinals : List Ordinal) : List Bool := restartsFrom false ordinals

/-- The number shown for the item at `index`, where `start` is the last restart at or before it. -/
def shown (index : Nat) (start : Option Nat) : Ordinal → Text
  | .decimal text => text
  | ordinal =>
    match start with
    | some s => Text.ofNat (index - s + 1)
    | none =>
      match ordinal with
      | .whole n => if 0 < n then Text.ofNat n else Text.ofNat (index + 1)
      | _ => Text.ofNat (index + 1)

/-- The numbers shown for items from `index` on, where `start` is the last restart before them. -/
def shownFrom (index : Nat) (start : Option Nat) : List (Ordinal × Bool) → List Text
  | [] => []
  | (ordinal, restart) :: items =>
    let start := if restart then some index else start
    shown index start ordinal :: shownFrom (index + 1) start items

/-- The numbers shown for the items of a list. -/
def displayNumbers (ordinals : List Ordinal) : List Text :=
  shownFrom 0 none (ordinals.zip (restarts ordinals))

end Ordinal

end Weave
