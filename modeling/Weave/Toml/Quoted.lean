import Weave.Text.Lines
import Weave.Toml.Scalar

/-!
# TOML strings

Strings stand between double quotes, where a backslash begins an escape, or between single quotes.
Three quotes instead of one open a string of several lines, whose first line ending, right behind
the quotes, does not count.
-/

namespace Weave.Toml

/-- Whether a character may stand unescaped in a string, a comment or a quoted key. -/
def isTextChar (c : Char) : Bool := c == '\t' || ' ' ≤ c && c != '\x7f'

/-- The character with a code point in hexadecimal digits, which must be `n` and not a surrogate. -/
def codePoint? (n : Nat) (t : Text) : Option (Char × Nat) :=
  let digits := t.take n
  let code := numberOf 16 digits
  if digits.length = n ∧ digits.all (isDigitOf 16) ∧ code.isValidChar then
    some (Char.ofNat code, n + 1)
  else none

/-- An escape behind its backslash: the character, and the number of characters that were read. -/
def escape? (t : Text) : Option (Char × Nat) :=
  match t with
  | 'b' :: _ => some ('\x08', 1)
  | 't' :: _ => some ('\t', 1)
  | 'n' :: _ => some ('\n', 1)
  | 'f' :: _ => some ('\x0c', 1)
  | 'r' :: _ => some ('\r', 1)
  | '"' :: _ => some ('"', 1)
  | '\\' :: _ => some ('\\', 1)
  | 'u' :: t => codePoint? 4 t
  | 'U' :: t => codePoint? 8 t
  | _ => none

/-- A character in front of what a reader has read. -/
def consRead (c : Char) (read : Text × Text) : Text × Text := (c :: read.1, read.2)

/-- The content of a string in double quotes, behind the opening one, and the rest.  The counter
skips the characters of an escape. -/
def basicBody? : Nat → Text → Option (Text × Text)
  | _, [] => none
  | skip + 1, _ :: t => basicBody? skip t
  | 0, c :: t =>
    if c = '"' then some ([], t)
    else if c = '\\' then
      (escape? t).bind fun (d, used) => (basicBody? used t).map (consRead d)
    else if isTextChar c then (basicBody? 0 t).map (consRead c)
    else none

/-- The content of a string in single quotes, behind the opening one, and the rest. -/
def literalBody? : Text → Option (Text × Text)
  | [] => none
  | c :: t =>
    if c = '\'' then some ([], t)
    else if isTextChar c then (literalBody? t).map (consRead c)
    else none

/-- The number of quotes at the start of a text that begins with one. -/
def quoteCount (quote : Char) (t : Text) : Nat := (t.takeWhile (· == quote)).length

/-- The number of characters up to the first that is neither blank nor part of a line ending.  A
carriage return alone ends no line. -/
def spaceCount : Text → Nat
  | [] => 0
  | '\r' :: '\n' :: t => spaceCount t + 2
  | c :: t => if c ∈ [' ', '\t', '\n'] then spaceCount t + 1 else 0

/-- The length of the white space at the start of a text, if nothing but blanks stands in it before
the first line ending. -/
def lineContinuation? (t : Text) : Option Nat :=
  let next := t.dropWhile fun c => c == ' ' || c == '\t'
  if next.head? = some '\n' ∨ next.take 2 = ['\r', '\n'] then some (spaceCount t) else none

/-- The content of a string of several lines, behind the opening quotes, and the rest.  Up to two
quotes may stand before the closing three. -/
def multilineBody? (quote : Char) : Nat → Text → Option (Text × Text)
  | _, [] => none
  | skip + 1, _ :: t => multilineBody? quote skip t
  | 0, c :: t =>
    if c = quote then
      let count := quoteCount quote (c :: t)
      if 3 ≤ count then
        let closing := min count 5
        some (List.replicate (closing - 3) quote, (c :: t).drop closing)
      else (multilineBody? quote 0 t).map (consRead c)
    else if c = '\\' ∧ quote = '"' then
      match lineContinuation? t with
      | some used => multilineBody? quote used t
      | none =>
        (escape? t).bind fun (d, used) => (multilineBody? quote used t).map (consRead d)
    else if c = '\r' then
      if t.head? = some '\n' then multilineBody? quote 0 t else none
    else if c = '\n' ∨ isTextChar c then (multilineBody? quote 0 t).map (consRead c)
    else none

/-- A string on one line, and the rest. -/
def lineString? (t : Text) : Option (Text × Text) :=
  match t with
  | '"' :: t => basicBody? 0 t
  | '\'' :: t => literalBody? t
  | _ => none

/-- A string, and the rest. -/
def string? (t : Text) : Option (Text × Text) :=
  match t with
  | '"' :: '"' :: '"' :: t => multilineBody? '"' 0 (Text.dropLineEnding t)
  | '\'' :: '\'' :: '\'' :: t => multilineBody? '\'' 0 (Text.dropLineEnding t)
  | t => lineString? t

end Weave.Toml
