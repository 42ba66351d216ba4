import Weave.Span
import Weave.Text.Alphanumeric

/-!
# Occurrences of names

The places at which a text occurs in another one, overlapping ones included, and the places at
which a name stands by itself, with no identifier character beside it.
-/

namespace Weave

/-- The byte offsets at which `needle` occurs, where the text begins at `offset`. -/
def occurrencesFrom (needle : Text) (offset : Nat) : Text → List Nat
  | [] => []
  | c :: t =>
    let later := occurrencesFrom needle (offset + c.utf8Size) t
    if Text.startsWith (c :: t) needle then offset :: later else later

/-- The byte offsets at which `needle` occurs; an empty needle occurs nowhere. -/
def occurrences (haystack needle : Text) : List Nat :=
  if needle.isEmpty then [] else occurrencesFrom needle 0 haystack

/-- The spans at which `name` stands by itself, where the text begins at `offset` after the
character `before`. -/
def identifierSpansFrom (name : Text) (offset : Nat) (before : Option Char) : Text → List Span
  | [] => []
  | c :: t =>
    let later := identifierSpansFrom name (offset + c.utf8Size) (some c) t
    match Text.dropPrefix? name (c :: t) with
    | none => later
    | some after =>
      if before.any Text.isIdentifierChar || after.head?.any Text.isIdentifierChar then later
      else ⟨offset, offset + name.byteLength, Nat.le_add_right _ _⟩ :: later

/-- The spans at which `name` stands by itself. -/
def identifierSpans (code name : Text) : List Span :=
  if name.isEmpty then [] else identifierSpansFrom name 0 none code

end Weave
