import Weave.Text.Digit
import Weave.Text.Space

/-!
# Authored ordinals

The number that an author wrote for a list item is read back from the source line of its marker:
indentation and quote marks, possibly a bullet, then the number with a dot or a parenthesis after
it.  A dotted number such as `2.1` is kept as it is written, also when it stands as text right
after a plain marker (`1. 2.1. Details`).
-/

namespace Weave

/-- The number that an author wrote for a list item. -/
inductive Ordinal where
  /-- No number could be read. -/
  | missing
  | whole (n : Nat)
  /-- A dotted number, shown as it is written. -/
  | decimal (text : Text)
  deriving DecidableEq, Repr, Inhabited

namespace Ordinal

/-- Splits a text after its leading decimal digits. -/
def digits (t : Text) : Text × Text :=
  (t.takeWhile Text.isDecimalDigit, t.dropWhile Text.isDecimalDigit)

/-- The groups of digits, each after a dot, that a text begins with, and the rest.  At most `fuel`
groups are read. -/
def dottedGroups : Nat → Text → List Text × Text
  | 0, t => ([], t)
  | fuel + 1, t =>
    match t with
    | '.' :: after =>
      let (group, rest) := digits after
      if group.isEmpty then ([], t)
      else
        let (groups, rest) := dottedGroups fuel rest
        (group :: groups, rest)
    | _ => ([], t)

/-- The longest dotted number at the start of a text, as its groups of digits, and the rest; no
group when the text begins with no digit. -/
def dotted (t : Text) : List Text × Text :=
  let (group, rest) := digits t
  if group.isEmpty then ([], t)
  else
    let (groups, rest) := dottedGroups rest.length rest
    (group :: groups, rest)

/-- The groups of a dotted number with dots between them. -/
def joinGroups (groups : List Text) : Text := Text.join "." groups

/-- The text after a bullet and the blanks that must follow it, or the text itself when it begins
with no bullet. -/
def afterBullet (t : Text) : Text :=
  match t with
  | c :: rest =>
    if (c = '-' ∨ c = '*' ∨ c = '+') ∧ rest.head?.any Text.isBlank then
      rest.dropWhile Text.isBlank
    else t
  | [] => []

/-- The groups of the marker number at the start of a line, and what follows the marker.  A dotted
number without a delimiter after it gives its last group away, whose dot then is the delimiter. -/
def marker? (line : Text) : Option (List Text × Text) :=
  let (groups, rest) := dotted (afterBullet (line.dropWhile fun c => Text.isBlank c || c == '>'))
  if groups.isEmpty then none
  else if rest.head? = some '.' ∨ rest.head? = some ')' then some (groups, rest.drop 1)
  else
    match groups.getLast?, groups.dropLast with
    | some last, first :: shorter => some (first :: shorter, last ++ rest)
    | _, _ => none

/-- The dotted number that stands as text after a marker: blanks, two or more groups, a dot, and
then white space or nothing. -/
def subNumber? (t : Text) : Option Text :=
  if !t.head?.any Text.isBlank then none
  else
    let (groups, rest) := dotted (t.dropWhile Text.isBlank)
    match rest with
    | '.' :: after =>
      if 2 ≤ groups.length ∧ after.head?.all Text.isSpace then some (joinGroups groups) else none
    | _ => none

/-- The largest number of a list marker. -/
def maxWhole : Nat := 0xffffffffffffffff

/-- A single group of digits as an ordinal.  A number beyond 64 bits, or one in digits that are
not ASCII, cannot be read. -/
def ofGroup (group : Text) : Ordinal :=
  match group.toNat? with
  | some n => if n ≤ maxWhole then whole n else missing
  | none => missing

/-- The authored number of a source line. -/
def ofLine (line : Text) : Ordinal :=
  match marker? line with
  | none => missing
  | some (groups, rest) =>
    match groups with
    | [group] =>
      match subNumber? rest with
      | some number => decimal number
      | none => ofGroup group
    | _ => decimal (joinGroups groups)

end Ordinal

/-- The source line that holds a byte offset, or `none` when the offset lies inside a character.
An offset past the end counts as the end. -/
def lineAt? (source : Text) (offset : Nat) : Option Text :=
  (source.splitAtByte? (min offset source.byteLength)).map fun (before, after) =>
    (before.reverse.takeWhile (· != '\n')).reverse ++ after.takeWhile (· != '\n')

end Weave
