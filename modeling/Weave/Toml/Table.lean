import Weave.Toml.Value

/-!
# Building TOML tables

A key has at most one value, and a table is written in one place.  A header may open a table that
so far stands only for the tables inside it, and pass through every table that is not in braces.  A
dotted key may add to tables that dotted keys made, and pass through those that stand only for
others; it adds nothing to a table with a header of its own.
-/

namespace Weave.Toml

/-- Changes the last of some tables. -/
def changeLast? (f : Entries → Option Entries) : List Entries → Option (List Entries)
  | [] => none
  | [table] => (f table).map ([·])
  | table :: tables => (changeLast? f tables).map (table :: ·)

/-- Changes the table that the steps of a header lead to.  Missing tables on the way are implied by
it, and of collected tables the last one is meant. -/
def within? (f : Entries → Option Entries) : List Text → Entries → Option Entries
  | [], entries => f entries
  | key :: path, entries =>
    entries.alter? key fun
      | none => (within? f path []).map (Value.table .implied)
      | some (.table .inline _) => none
      | some (.table origin inner) => (within? f path inner).map (Value.table origin)
      | some (.tables tables) => (changeLast? (within? f path) tables).map Value.tables
      | some _ => none

/-- Opens the table of a header that ends in `key`. -/
def openTable? (key : Text) (entries : Entries) : Option Entries :=
  entries.alter? key fun
    | none => some (.table .header [])
    | some (.table .implied inner) => some (.table .header inner)
    | some _ => none

/-- Adds an empty table to those of a double header that ends in `key`. -/
def addTable? (key : Text) (entries : Entries) : Option Entries :=
  entries.alter? key fun
    | none => some (.tables [[]])
    | some (.tables tables) => some (.tables (tables ++ [[]]))
    | some _ => none

/-- Whether a dotted key may go on from a table to `path`. -/
def TableOrigin.admits (origin : TableOrigin) (path : List Text) : Bool :=
  match origin with
  | .dotted => true
  | .implied => 1 < path.length
  | _ => false

/-- Sets the value of a dotted key, which must have none. -/
def assign? (value : Value) : List Text → Entries → Option Entries
  | [], _ => none
  | [key], entries =>
    entries.alter? key fun
      | none => some value
      | some _ => none
  | key :: path, entries =>
    entries.alter? key fun
      | none => (assign? value path []).map (Value.table .dotted)
      | some (.table origin inner) =>
        if origin.admits path then (assign? value path inner).map (Value.table origin) else none
      | some (.tables tables) =>
        if 1 < path.length then (changeLast? (assign? value path) tables).map Value.tables else none
      | some _ => none

end Weave.Toml
