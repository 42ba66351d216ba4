import Weave.Text.Alphanumeric
import Weave.Text.Case
import Weave.Text.Space

/-!
# Anchor slugs

The anchor id of a heading is its text in lowercase with hyphens for spaces and without
punctuation.  Within a document ids do not repeat: a text whose slug is taken gets `-1`, `-2` and
so on.
-/

namespace Weave

/-- The text in lowercase, with hyphens for spaces and without punctuation. -/
def slugify (t : Text) : Text :=
  t.trim.lowercase.filterMap fun c =>
    if c = ' ' then some '-'
    else if c = '-' ∨ c = '_' ∨ Text.isAlphanumeric c then some c
    else none

/-- The slugs that are taken, each with the highest number that was tried after it. -/
structure Slugger where
  taken : List (Text × Nat)
  deriving DecidableEq, Repr, Inhabited

namespace Slugger

/-- No slug is taken. -/
def empty : Slugger := ⟨[]⟩

/-- Whether a slug is taken. -/
def isTaken (s : Slugger) (slug : Text) : Bool := s.taken.any (·.1 == slug)

/-- The highest number that was tried after a slug. -/
def count (s : Slugger) (slug : Text) : Nat :=
  match s.taken.find? (·.1 == slug) with
  | some (_, n) => n
  | none => 0

/-- Marks a slug as taken, unless it is. -/
def reserve (s : Slugger) (slug : Text) : Slugger :=
  if s.isTaken slug then s else ⟨(slug, 0) :: s.taken⟩

/-- Sets the number after a slug that is taken. -/
def setCount (s : Slugger) (slug : Text) (n : Nat) : Slugger :=
  ⟨s.taken.map fun (t, m) => if t = slug then (t, n) else (t, m)⟩

/-- A slug with a number after it. -/
def numbered (base : Text) (n : Nat) : Text := base ++ "-" ++ Text.ofNat n

/-- The first number after the one last tried that makes a free slug.  One of the numbers looked at
is free, as there are more of them than taken slugs. -/
def nextNumber (s : Slugger) (base : Text) : Nat :=
  let first := s.count base + 1
  ((List.range' first (s.taken.length + 1)).find? fun n => !s.isTaken (numbered base n)).getD first

/-- The slug of a text without regard to the others; `section` when nothing is left of the text. -/
def base (t : Text) : Text :=
  let slug := slugify t
  if slug.isEmpty then "section" else slug

/-- A free slug for a text; it is taken from then on. -/
def slug (s : Slugger) (t : Text) : Text × Slugger :=
  let b := base t
  if s.isTaken b then
    let n := s.nextNumber b
    (numbered b n, (s.setCount b n).reserve (numbered b n))
  else (b, s.reserve b)

end Slugger

end Weave
