import Weave.Text.Basic

/-!
# JSON

JSON values and their written form, in which every item and every field stands on a line of its own
and is indented by two spaces a level.
-/

namespace Weave

/-- A JSON value.  The fields of an object have an order, in which they are written. -/
inductive Json where
  | null
  | boolean (b : Bool)
  | number (n : Int)
  | string (t : Text)
  | array (items : List Json)
  | object (fields : List (Text × Json))
  deriving Repr, Inhabited

namespace Json

/-- The characters with a short escape, and the letter that stands for each. -/
def shortEscapes : List (Char × Char) :=
  [('"', '"'), ('\\', '\\'), ('\x08', 'b'), ('\t', 't'), ('\n', 'n'), ('\x0c', 'f'), ('\r', 'r')]

/-- A hexadecimal digit. -/
def hexDigit (n : Nat) : Char := Nat.digitChar (n % 16)

/-- A character inside a string: quotes, backslashes and control characters below the space are
escaped. -/
def escape (c : Char) : Text :=
  match shortEscapes.lookup c with
  | some letter => ['\\', letter]
  | none => if c < ' ' then "\\u00" ++ [hexDigit (c.toNat / 16), hexDigit c.toNat] else [c]

/-- A string in its quotes. -/
def quote (t : Text) : Text := '"' :: t.flatMap escape ++ ['"']

/-- A line break and the spaces in front of a line at some level. -/
def newline (level : Nat) : Text := '\n' :: List.replicate (2 * level) ' '

mutual

/-- The written form of a value that stands at some level. -/
def renderAt (level : Nat) : Json → Text
  | null => "null"
  | boolean b => if b then "true" else "false"
  | number n => Text.ofInt n
  | string t => quote t
  | array [] => "[]"
  | array (item :: items) =>
    '[' :: newline (level + 1) ++ renderAt (level + 1) item ++ renderItems (level + 1) items
      ++ newline level ++ [']']
  | object [] => "\x7b\x7d"
  | object (field :: fields) =>
    '\x7b' :: newline (level + 1) ++ renderField (level + 1) field
      ++ renderFields (level + 1) fields ++ newline level ++ ['\x7d']

/-- The written form of the items behind another one. -/
def renderItems (level : Nat) : List Json → Text
  | [] => []
  | item :: items => ',' :: newline level ++ renderAt level item ++ renderItems level items

/-- The written form of a field. -/
def renderField (level : Nat) : Text × Json → Text
  | (name, value) => quote name ++ ": " ++ renderAt level value

/-- The written form of the fields behind another one. -/
def renderFields (level : Nat) : List (Text × Json) → Text
  | [] => []
  | field :: fields => ',' :: newline level ++ renderField level field ++ renderFields level fields

end

/-- The written form of a value. -/
def render (value : Json) : Text := value.renderAt 0

/-- A text, or null. -/
def ofText? : Option Text → Json
  | some t => string t
  | none => null

/-- A number. -/
def ofNat (n : Nat) : Json := number n

/-- A list of values. -/
def ofList {α : Type} (f : α → Json) (items : List α) : Json := array (items.map f)

/-- An object with named fields. -/
def record (fields : List (String × Json)) : Json :=
  object (fields.map fun (name, value) => (name.toList, value))

end Json

end Weave
