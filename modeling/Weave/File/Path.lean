import Weave.Text.Basic

/-!
# Paths

Paths are texts with slashes.  Two paths are the same when they have the same components: empty
parts and dots inside a path do not count.

A directory holds its entries under names (`Name`), and a name makes each path it is joined to
longer (`byteLength_lt_join`).
-/

namespace Weave.Path

/-- Whether a path starts at the root. -/
def isAbsolute (p : Text) : Bool := p.startsWith "/"

/-- A path seen from a base directory.  An absolute path replaces the base. -/
def join (base p : Text) : Text :=
  if isAbsolute p ∨ base.isEmpty then p
  else if base.endsWith "/" then base ++ p
  else base ++ "/" ++ p

/-- What the system takes as a name in a directory. -/
structure IsName (t : Text) : Prop where
  ne_nil : t ≠ []
  ne_dot : t ≠ "."
  ne_dots : t ≠ ".."
  slash_notMem : '/' ∉ t
  nul_notMem : '\x00' ∉ t
  short : t.byteLength ≤ 255

theorem isName_iff {t : Text} :
    IsName t ↔ t ≠ [] ∧ t ≠ "." ∧ t ≠ ".." ∧ '/' ∉ t ∧ '\x00' ∉ t ∧ t.byteLength ≤ 255 :=
  ⟨fun ⟨nil, dot, dots, slash, nul, short⟩ => ⟨nil, dot, dots, slash, nul, short⟩,
    fun ⟨nil, dot, dots, slash, nul, short⟩ => ⟨nil, dot, dots, slash, nul, short⟩⟩

instance (t : Text) : Decidable (IsName t) := decidable_of_iff' _ isName_iff

/-- A name in a directory. -/
@[ext]
structure Name where
  text : Text
  isName : IsName text
  deriving DecidableEq, Repr

/-- A text as a name. -/
def Name.of? (t : Text) : Option Name := if h : IsName t then some ⟨t, h⟩ else none

/-- The path to what some steps lead to from a base directory. -/
def below (base : Text) (steps : List Text) : Text := steps.foldl join base

@[simp] theorem below_nil (base : Text) : below base [] = base := rfl

@[simp] theorem below_cons (base step : Text) (steps : List Text) :
    below base (step :: steps) = below (join base step) steps := rfl

theorem Name.isAbsolute_eq (name : Name) : isAbsolute name.text = false := by
  have hslash := name.isName.slash_notMem
  cases h : name.text with
  | nil => exact absurd h name.isName.ne_nil
  | cons c t =>
    rw [h] at hslash
    have hc : '/' ≠ c := fun hc => hslash (hc ▸ List.mem_cons_self)
    simp [isAbsolute, Text.startsWith, Text.dropPrefix?, hc]

/-- A name makes a path longer. -/
theorem byteLength_lt_join (base : Text) (name : Name) :
    base.byteLength < (join base name.text).byteLength := by
  have hname : 0 < name.text.byteLength := by
    obtain ⟨c, t, h⟩ := List.exists_cons_of_ne_nil name.isName.ne_nil
    have hc := c.utf8Size_pos
    rw [h, Text.byteLength_cons]
    omega
  unfold join
  split
  · rename_i h
    have hbase : base = [] := by simpa [name.isAbsolute_eq] using h
    simpa [hbase] using hname
  · split <;> simp only [Text.byteLength_append] <;> omega

/-- The parts of a path that name a step: no empty part and no dot. -/
def steps (p : Text) : List Text :=
  (p.splitOn '/').filter fun part => !part.isEmpty && part != "."

/-- Where a path starts. -/
inductive Origin where
  | root
  /-- A leading dot. -/
  | here
  | none
  deriving DecidableEq, Repr, Inhabited

/-- The start of a path. -/
def origin (p : Text) : Origin :=
  if isAbsolute p then .root
  else if (p.splitOn '/').head? = some "." then .here
  else .none

/-- A path by its components. -/
structure Components where
  origin : Origin
  steps : List Text
  deriving DecidableEq, Repr, Inhabited

/-- The components of a path. -/
def components (p : Text) : Components := ⟨origin p, steps p⟩

/-- The components as a text, with a single dot for the empty path. -/
def Components.render (c : Components) : Text :=
  let body := Text.join "/" c.steps
  match c.origin with
  | .root => "/" ++ body
  | .here => if body.isEmpty then "." else "./" ++ body
  | .none => if body.isEmpty then "." else body

/-- The last part of a path, where it names a file: nothing for the root, a dot, or a path that
ends in two dots. -/
def fileName? (p : Text) : Option Text := do
  let name ← (steps p).getLast?
  if name = ".." then none else some name

/-- A path without empty parts and dots at its end. -/
def trimTail (p : Text) : Text :=
  let rec go : List Text → List Text
    | part :: parts => if part.isEmpty ∨ part = "." then go parts else part :: parts
    | [] => []
  match (p.splitOn '/').reverse with
  | parts =>
    let kept := (go parts).reverse
    if isAbsolute p then
      if kept.isEmpty then "/" else Text.join "/" kept
    else if kept.isEmpty then
      if (p.splitOn '/').head? = some "." then "." else []
    else Text.join "/" kept

/-- The directory that holds what a path names; the root and the empty path have none. -/
def parent? (p : Text) : Option Text :=
  match (components p).steps, origin p with
  | [], .here => some []
  | [], _ => none
  | _ :: _, _ =>
    let whole := trimTail p
    match Text.splitLast? "/" whole with
    | none => some []
    | some (before, _) =>
      if before.isEmpty ∧ isAbsolute p then some "/" else some (trimTail before)

/-- A file name as its stem and its extension.  The extension follows the last dot; a name whose
only dot stands first has none. -/
def splitExtension (name : Text) : Text × Option Text :=
  match Text.splitLast? "." name with
  | some (stem, extension) => if stem.isEmpty then (name, none) else (stem, some extension)
  | none => (name, none)

end Weave.Path
