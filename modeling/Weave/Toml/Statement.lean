import Weave.Toml.Quoted
import Weave.Toml.Table
import Weave.Text.Space

/-!
# TOML statements

A document is a run of statements, each of which ends with its line: headers of tables, double
headers of collected tables, and assignments to keys.  Blanks and comments stand between them.

Readers take the start of a text and answer what they read with the rest.
-/

namespace Weave.Toml

/-- The number of keys in a dotted key, and of arrays and tables around a value, stays below 80. -/
def depthLimit : Nat := 79

/-- The text behind its blanks. -/
def skipBlanks (t : Text) : Text := t.dropWhile Text.isBlank

/-- The text behind blanks, line endings and comments.  A comment lasts to the end of its line. -/
def skipLines? (inComment : Bool) : Text → Option Text
  | [] => some []
  | c :: t =>
    if c = '\n' then skipLines? false t
    else if c = '\r' then
      if t.head? = some '\n' then skipLines? inComment t else none
    else if inComment then
      if isTextChar c then skipLines? true t else none
    else if Text.isBlank c then skipLines? false t
    else if c = '#' then skipLines? true t
    else some (c :: t)

/-- The text behind the rest of a line, which holds nothing but blanks and a comment. -/
def endLine? (t : Text) : Option Text :=
  match skipBlanks t with
  | [] => some []
  | '#' :: t => lineEnding? (t.dropWhile isTextChar)
  | t => lineEnding? t
where
  /-- The text behind a line ending, or at the end of the document. -/
  lineEnding? : Text → Option Text
    | [] => some []
    | '\n' :: t => some t
    | '\r' :: '\n' :: t => some t
    | _ => none

/-! ## Keys -/

/-- A character of a key without quotes. -/
def isKeyChar (c : Char) : Bool := c.isAlphanum || c == '_' || c == '-'

/-- A key without dots. -/
def key? (t : Text) : Option (Text × Text) :=
  match t with
  | '"' :: _ => lineString? t
  | '\'' :: _ => lineString? t
  | t =>
    let word := t.takeWhile isKeyChar
    if word.isEmpty then none else some (word, t.drop word.length)

/-- A dotted key of at most so many parts. -/
def dottedKey? : Nat → Text → Option (List Text × Text)
  | 0, _ => none
  | limit + 1, t => do
    let (key, t) ← key? (skipBlanks t)
    match skipBlanks t with
    | '.' :: t =>
      let (keys, t) ← dottedKey? limit t
      some (key :: keys, t)
    | t => some ([key], t)

/-- An assignment to a dotted key, by a reader of values. -/
def assignment? (value : Text → Option (Value × Text)) (t : Text) :
    Option ((List Text × Value) × Text) := do
  match ← dottedKey? depthLimit t with
  | (path, '=' :: t) =>
    let (v, t) ← value (skipBlanks t)
    some ((path, v), t)
  | _ => none

/-! ## Values -/

/-- The items of an array behind its opening bracket, by a reader of values.  A comma may stand
behind the last one. -/
def arrayItems? (value : Text → Option (Value × Text)) :
    Nat → Text → Option (List Value × Text)
  | 0, _ => none
  | fuel + 1, t => do
    match ← skipLines? false t with
    | ']' :: t => some ([], t)
    | t =>
      let (v, t) ← value t
      match ← skipLines? false t with
      | ']' :: t => some ([v], t)
      | ',' :: t =>
        let (vs, t) ← arrayItems? value fuel t
        some (v :: vs, t)
      | _ => none

/-- The assignments of a table in braces that holds at least one more, by a reader of values. -/
def inlineEntries? (value : Text → Option (Value × Text)) :
    Nat → Entries → Text → Option (Entries × Text)
  | 0, _, _ => none
  | fuel + 1, entries, t => do
    let ((path, v), t) ← assignment? value t
    let entries ← assign? v path entries
    match skipBlanks t with
    | '\x7d' :: t => some (entries, t)
    | ',' :: t => inlineEntries? value fuel entries t
    | _ => none

/-- A value with at most so many arrays and tables one in another. -/
def value? : Nat → Text → Option (Value × Text)
  | depth + 1, '[' :: t =>
    (arrayItems? (fun t => value? depth t) (t.length + 1) t).map fun (items, t) => (.array items, t)
  | depth + 1, '\x7b' :: t =>
    match skipBlanks t with
    | '\x7d' :: t => some (.table .inline [], t)
    | t =>
      (inlineEntries? (fun t => value? depth t) (t.length + 1) [] t).map fun (entries, t) =>
        (.table .inline entries, t)
  | _, '"' :: t => (string? ('"' :: t)).map fun (s, t) => (.string s, t)
  | _, '\'' :: t => (string? ('\'' :: t)).map fun (s, t) => (.string s, t)
  | _, t => readScalar? t

/-! ## Statements -/

/-- A statement of a document. -/
inductive Statement where
  | header (path : List Text)
  | doubleHeader (path : List Text)
  | assignment (path : List Text) (value : Value)
  deriving Repr, Inhabited

/-- A statement without the end of its line. -/
def statement? (t : Text) : Option (Statement × Text) := do
  match t with
  | '[' :: '[' :: t =>
    match ← dottedKey? depthLimit t with
    | (path, ']' :: ']' :: t) => some (.doubleHeader path, t)
    | _ => none
  | '[' :: t =>
    match ← dottedKey? depthLimit t with
    | (path, ']' :: t) => some (.header path, t)
    | _ => none
  | t =>
    let ((path, v), t) ← assignment? (value? depthLimit) t
    some (.assignment path v, t)

/-- The statements of a text; every round reads at least one character. -/
def statementsFrom? : Nat → Text → Option (List Statement)
  | 0, _ => none
  | fuel + 1, t => do
    match ← skipLines? false t with
    | [] => some []
    | t =>
      let (s, t) ← statement? t
      let t ← endLine? t
      (statementsFrom? fuel t).map (s :: ·)

/-- The statements of a text. -/
def statements? (t : Text) : Option (List Statement) := statementsFrom? (t.length + 1) t

end Weave.Toml
