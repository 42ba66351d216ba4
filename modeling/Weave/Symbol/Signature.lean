import Weave.Symbol.Definition

/-!
# Signatures

The header of a definition, up to its first colon outside brackets, strings and comments.  The
written form of a header has single spaces and none inside brackets; a function has parameters and
possibly a return type.
-/

namespace Weave

/-! ## Nesting -/

/-- Where a reader of code stands: the depth of open brackets, the open quote, whether the next
character is escaped, and whether a comment is open. -/
structure Nesting where
  depth : Int
  quote : Option Char
  escaped : Bool
  comment : Bool
  deriving DecidableEq, Repr

namespace Nesting

/-- Outside everything. -/
def outside : Nesting := ⟨0, none, false, false⟩

/-- Whether a separator here stands outside brackets, strings and comments. -/
def isTop (s : Nesting) : Bool := s.depth == 0 && s.quote.isNone && !s.comment

/-- The state after a character. -/
def step (s : Nesting) (c : Char) : Nesting :=
  if s.comment then { s with comment := c != '\n' }
  else
    match s.quote with
    | some q =>
      if s.escaped then { s with escaped := false }
      else if c = q then { s with quote := none }
      else { s with escaped := c == '\\' }
    | none =>
      if c = '\'' ∨ c = '"' then { s with quote := some c }
      else if c = '#' then { s with comment := true }
      else if c = '(' ∨ c = '[' ∨ c = '\x7b' then { s with depth := s.depth + 1 }
      else if c = ')' ∨ c = ']' ∨ c = '\x7d' then { s with depth := s.depth - 1 }
      else s

/-- The parts around the first separator at the top level. -/
def splitTop? (separator : Char) (s : Nesting) : Text → Option (Text × Text)
  | [] => none
  | c :: t =>
    if s.isTop ∧ c = separator then some ([], t)
    else (splitTop? separator (s.step c) t).map fun (before, after) => (c :: before, after)

/-- The pieces between the separators at the top level. -/
def pieces (separator : Char) (s : Nesting) : Text → List Text
  | [] => [[]]
  | c :: t =>
    if s.isTop ∧ c = separator then [] :: pieces separator s t
    else
      match pieces separator (s.step c) t with
      | [] => [[c]]
      | piece :: pieces => (c :: piece) :: pieces

end Nesting

/-- The text up to the bracket that brings the depth back to zero, and the text after it.  Quotes
hide brackets; backslashes and comments have no meaning here. -/
def closingBracket? (quote : Option Char) (depth : Int) : Text → Option (Text × Text)
  | [] => none
  | c :: t =>
    let next (quote : Option Char) (depth : Int) :=
      (closingBracket? quote depth t).map fun (before, after) => (c :: before, after)
    match quote with
    | some q => next (if c = q then none else quote) depth
    | none =>
      if c = '\'' ∨ c = '"' then next (some c) depth
      else if c = '(' ∨ c = '[' ∨ c = '\x7b' then next none (depth + 1)
      else if c = ')' ∨ c = ']' ∨ c = '\x7d' then
        if depth = 1 then some ([], t) else next none (depth - 1)
      else next none depth

/-! ## Headers -/

/-- A parameter of a function; the type is empty when there is no annotation. -/
structure Parameter where
  name : Text
  type : Text
  description : Text
  defaultValue : Option Text
  deriving DecidableEq, Repr, Inhabited

/-- The header of a definition.  A class has no parameters; the return type is empty when there is
none. -/
structure Signature where
  text : Text
  parameters : List Parameter
  returnType : Text
  deriving DecidableEq, Repr, Inhabited

namespace Signature

/-- Code with single spaces between words, and none before a closing bracket or after an opening
one; a comma before a closing parenthesis goes too. -/
def normalizeSpace (t : Text) : Text :=
  let spaced := Text.join " " t.words
  let opened := (spaced.replace "( " "(").replace ", )" ")"
  let closed := (opened.replace ",)" ")").replace " )" ")"
  (closed.replace "[ " "[").replace " ]" "]"

/-- A piece of a parameter list as its declaration and its default value. -/
def splitDefault (piece : Text) : Text × Option Text :=
  match Nesting.outside.splitTop? '=' piece with
  | some (declared, value) => (declared, some (normalizeSpace value))
  | none => (piece, none)

/-- A declaration as its name, without stars, and its type. -/
def splitType (declared : Text) : Text × Text :=
  let (name, type) :=
    match Nesting.outside.splitTop? ':' declared with
    | some (name, type) => (name, normalizeSpace type)
    | none => (declared, [])
  (name.trim.dropWhile (· == '*'), type)

/-- The parameter of a piece of a parameter list.  Empty pieces and the markers `*` and `/` are
none, nor is a receiver in the first place. -/
def parameter? (isFirst : Bool) (piece : Text) : Option Parameter :=
  let piece := piece.trim
  if piece.isEmpty ∨ piece = "*" ∨ piece = "/" then none
  else
    let (declared, defaultValue) := splitDefault piece
    let (name, type) := splitType declared
    if isFirst ∧ (name = "self" ∨ name = "cls") then none
    else some ⟨name, type, [], defaultValue⟩

/-- The parameters between the parentheses of a header. -/
def parseParameters (inner : Text) : List Parameter :=
  match Nesting.outside.pieces ',' inner with
  | [] => []
  | first :: rest => (parameter? true first).toList ++ rest.filterMap (parameter? false)

/-- The type after an arrow, or nothing. -/
def parseReturnType (afterParameters : Text) : Text :=
  match Text.dropPrefix? "->" afterParameters.trim with
  | some type => normalizeSpace type
  | none => []

/-- The kind of the first definition of some lines, and the code from its keyword on. -/
def firstDefinition? : List Text → Option (Keyword × Text)
  | [] => none
  | line :: lines =>
    match Definition.parse? line.trimStart with
    | some (keyword, _) => some (keyword, line.trimStart ++ lines.flatten)
    | none => firstDefinition? lines

/-- The signature of the first definition in some code. -/
def parse? (code : Text) : Option Signature := do
  let (keyword, rest) ← firstDefinition? code.chunks
  let (header, _) ← Nesting.outside.splitTop? ':' rest
  match keyword with
  | .«class» => return ⟨normalizeSpace header, [], []⟩
  | .function =>
    let (_, inside) ← Text.splitFirst? "(" header
    let (inner, after) ← closingBracket? none 1 inside
    return ⟨normalizeSpace header, parseParameters inner, parseReturnType after⟩

end Signature

end Weave
