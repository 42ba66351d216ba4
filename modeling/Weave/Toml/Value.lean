import Weave.Text.Basic

/-!
# TOML values

The values of a TOML document.  Dates, times and floats are told apart from other values, but
nothing reads their content.  A table remembers how it came about, because that decides what may
still be added to it.
-/

namespace Weave.Toml

/-- How a table came about. -/
inductive TableOrigin where
  /-- By a header of its own. -/
  | header
  /-- By the header of a table in it. -/
  | implied
  /-- By a dotted key. -/
  | dotted
  /-- In braces; nothing can be added to it. -/
  | inline
  deriving DecidableEq, Repr, Inhabited

/-- A TOML value. -/
inductive Value where
  | string (text : Text)
  | integer (n : Int)
  | float
  | boolean (b : Bool)
  | moment
  | array (items : List Value)
  | table (origin : TableOrigin) (entries : List (Text × Value))
  /-- Tables that are collected by double headers. -/
  | tables (tables : List (List (Text × Value)))
  deriving Repr, Inhabited

/-- The entries of a table in the order of their keys' first appearance. -/
abbrev Entries := List (Text × Value)

namespace Entries

/-- The value of a key. -/
def get? (entries : Entries) (key : Text) : Option Value :=
  (entries.find? (·.1 == key)).map (·.2)

/-- Sets the value of a key to one made from its present value. -/
def alter? (key : Text) (f : Option Value → Option Value) : Entries → Option Entries
  | [] => (f none).map fun v => [(key, v)]
  | (k, v) :: entries =>
    if k = key then (f (some v)).map fun v => (k, v) :: entries
    else (alter? key f entries).map ((k, v) :: ·)

end Entries

namespace Value

/-- The text of a string. -/
def string? : Value → Option Text
  | string t => some t
  | _ => none

/-- The number of an integer. -/
def integer? : Value → Option Int
  | integer n => some n
  | _ => none

/-- The truth value of a boolean. -/
def boolean? : Value → Option Bool
  | boolean b => some b
  | _ => none

/-- The items of an array. -/
def items? : Value → Option (List Value)
  | array items => some items
  | tables ts => some (ts.map (table .header))
  | _ => none

/-- The values of an array of values of one kind. -/
def listOf? {α : Type} (read : Value → Option α) (v : Value) : Option (List α) :=
  v.items?.bind (List.mapM read)

/-- The fields of a record with the given names: the entries of a table by name, or the items of an
array by position.  A date has no field of any name. -/
def fields? (names : List Text) : Value → Option Entries
  | table _ entries => some entries
  | moment => some []
  | v => v.items?.map (names.zip ·)

end Value

namespace Entries

/-- The value of an optional field, if what stands there can be read as one. -/
def field? {α : Type} (entries : Entries) (key : Text) (read : Value → Option α) :
    Option (Option α) :=
  match entries.get? key with
  | none => some none
  | some v => (read v).map some

/-- The value of a field that has a standard value, if what stands there can be read as one. -/
def fieldOr? {α : Type} (entries : Entries) (key : Text) (standard : α)
    (read : Value → Option α) : Option α :=
  (entries.field? key read).map (Option.getD · standard)

end Entries

end Weave.Toml
