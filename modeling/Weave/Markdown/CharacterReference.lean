import Weave.Markdown.NamedCharacter
import Weave.Text.Punctuation
import Weave.Text.Space

/-!
# Character references

A reference stands for characters: `&name;` for those of a named one, `&#65;` and `&#x41;` for the
character with that code point.  A backslash before ASCII punctuation stands for the punctuation.
-/

namespace Weave.Markdown

/-- The value of a hexadecimal digit. -/
def hexDigit? (c : Char) : Option Nat :=
  if c.isDigit then some (c.toNat - '0'.toNat)
  else if 'a' ≤ c ∧ c ≤ 'f' then some (c.toNat - 'a'.toNat + 10)
  else if 'A' ≤ c ∧ c ≤ 'F' then some (c.toNat - 'A'.toNat + 10)
  else none

/-- The number in hexadecimal digits, read after `acc`. -/
def hexValue (acc : Nat) : Text → Nat
  | [] => acc
  | c :: t => hexValue (acc * 16 + (hexDigit? c).getD 0) t

/-- The character with a code point; the replacement character for zero. -/
def charOfCode? (code : Nat) : Option Char :=
  if code = 0 then some '\uFFFD'
  else if code.isValidChar then some (Char.ofNat code)
  else none

/-- The named references with the texts that they stand for. -/
def namedCharacters : List (Text × Text) :=
  namedCharacterRows.flatMap fun row =>
    (Text.splitOn ' ' row.toList).filterMap fun entry =>
      (Text.splitFirst? ":" entry).map fun (name, codes) =>
        (name, (Text.splitOn '+' codes).filterMap fun code => charOfCode? (hexValue 0 code))

/-- A reference by code point, behind its number sign: the text that it stands for, and the number
of characters that it takes.  Up to six hexadecimal or seven decimal digits make a code point. -/
def numericReference? (t : Text) : Option (Text × Nat) :=
  let isHex := t.head? = some 'x' ∨ t.head? = some 'X'
  let mark := if isHex then 1 else 0
  let body := t.drop mark
  let digits :=
    if isHex then (body.takeWhile fun c => (hexDigit? c).isSome).take 6
    else (body.takeWhile Char.isDigit).take 7
  if digits.isEmpty ∨ (body.drop digits.length).head? ≠ some ';' then none
  else
    (charOfCode? (if isHex then hexValue 0 digits else Text.digitsValue 0 digits)).map fun c =>
      ([c], mark + digits.length + 1)

/-- A character reference behind its ampersand: the text that it stands for, and the number of
characters that it takes. -/
def characterReference? (t : Text) : Option (Text × Nat) :=
  match t with
  | '#' :: t => (numericReference? t).map fun (value, length) => (value, length + 1)
  | t =>
    let name := t.takeWhile Char.isAlphanum
    if (t.drop name.length).head? ≠ some ';' then none
    else
      (namedCharacters.find? (·.1 == name)).map fun (_, value) => (value, name.length + 1)

/-- The text without backslashes before punctuation, with references replaced, and without carriage
returns.  In a table two backslashes go away in front of a bar.  The counter skips the characters of
a construct. -/
def unescapeFrom (inTable : Bool) : (skip : Nat) → Text → Text
  | _, [] => []
  | skip + 1, _ :: t => unescapeFrom inTable skip t
  | 0, c :: t =>
    if c = '\\' then
      match t with
      | [] => [c]
      | d :: more =>
        if inTable ∧ d = '\\' ∧ more.head? = some '|' then '|' :: unescapeFrom inTable 2 t
        else if Text.isAsciiPunctuation d then d :: unescapeFrom inTable 1 t
        else c :: unescapeFrom inTable 0 t
    else if c = '&' then
      match characterReference? t with
      | some (value, length) => value ++ unescapeFrom inTable length t
      | none => c :: unescapeFrom inTable 0 t
    else if c = '\r' then unescapeFrom inTable 0 t
    else c :: unescapeFrom inTable 0 t

/-- The text without backslashes before punctuation, with references replaced, and without carriage
returns. -/
def unescape (inTable : Bool) (t : Text) : Text := unescapeFrom inTable 0 t

end Weave.Markdown
