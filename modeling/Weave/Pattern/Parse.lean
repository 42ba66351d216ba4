import Weave.Pattern.Basic
import Weave.Text.Alphanumeric

/-!
# Reading patterns

The written form of patterns: literals and `.`, sets in brackets with nested sets, named ASCII
classes and the operations `&&`, `--` and `~~`, the classes `\d`, `\s` and `\w`, anchors,
alternatives, groups with or without a name, and repetitions with `?`, `*`, `+` or counts in braces.
A text that is no pattern is refused as a whole, and so are flags, word boundaries and classes by
Unicode property.
-/

namespace Weave.Pattern

/-- The pattern of a single character. -/
def literal (c : Char) : Pattern := oneOf false [.range c c]

/-- The pattern of any character but a newline. -/
def anyChar : Pattern := oneOf true [.range '\n' '\n']

/-- The class that a letter stands for after a backslash. -/
def escapeClass? : Char → Option CharClass
  | 'd' => some .digit
  | 'D' => some .notDigit
  | 's' => some .space
  | 'S' => some .notSpace
  | 'w' => some .word
  | 'W' => some .notWord
  | _ => none

/-- The character that a letter or a sign stands for after a backslash. -/
def escapeChar? (c : Char) : Option Char :=
  match c with
  | 'n' => some '\n'
  | 't' => some '\t'
  | 'r' => some '\r'
  | 'f' => some '\x0c'
  | 'v' => some '\x0b'
  | 'a' => some '\x07'
  | '<' => none
  | '>' => none
  | c => if c.toNat < 128 ∧ !c.isAlphanum then some c else none

/-! ## Sets -/

/-- The classes of ASCII characters that have a name, as ranges. -/
def asciiClasses : List (Text × List (Char × Char)) :=
  [("alnum", [('0', '9'), ('A', 'Z'), ('a', 'z')]), ("alpha", [('A', 'Z'), ('a', 'z')]),
    ("ascii", [('\x00', '\x7f')]), ("blank", [('\t', '\t'), (' ', ' ')]),
    ("cntrl", [('\x00', '\x1f'), ('\x7f', '\x7f')]), ("digit", [('0', '9')]),
    ("graph", [('!', '~')]), ("lower", [('a', 'z')]), ("print", [(' ', '~')]),
    ("punct", [('!', '/'), (':', '@'), ('[', '\x60'), ('\x7b', '~')]),
    ("space", [('\t', '\r'), (' ', ' ')]), ("upper", [('A', 'Z')]),
    ("word", [('0', '9'), ('A', 'Z'), ('_', '_'), ('a', 'z')]),
    ("xdigit", [('0', '9'), ('A', 'F'), ('a', 'f')])]

/-- A named class after its opening bracket, and the rest.  A caret in front of the name stands for
all other characters. -/
def asciiClass? : Text → Option (CharClass × Text)
  | ':' :: t => do
    let (negated, t) := match t with
      | '^' :: t => (true, t)
      | t => (false, t)
    let ranges ← asciiClasses.lookup (t.takeWhile (· != ':'))
    let rest ← Text.dropPrefix? ":]" (t.dropWhile (· != ':'))
    let k := ranges.foldl (fun k (low, high) => .union k (.range low high)) .none
    return (if negated then .complement k else k, rest)
  | _ => none

/-- A class or a single character of a set, and the rest. -/
def setItem? : Text → Option (CharClass × Text)
  | '\\' :: c :: t =>
    match escapeClass? c with
    | some k => some (k, t)
    | none => (escapeChar? c).map fun c => (.range c c, t)
  | '\\' :: [] => none
  | c :: t => some (.range c c, t)
  | [] => none

/-- The range from one single character to another, if they are in order. -/
def rangeOf? : CharClass → CharClass → Option CharClass
  | .range low _, .range high _ => if low ≤ high then some (.range low high) else none
  | _, _ => none

/-- A member of a set, possibly a range, and the rest.  A hyphen in front of the closing bracket or
of another hyphen makes no range. -/
def setMember? (t : Text) : Option (CharClass × Text) := do
  let (low, rest) ← setItem? t
  match rest with
  | '-' :: ']' :: _ => return (low, rest)
  | '-' :: '-' :: _ => return (low, rest)
  | '-' :: after =>
    let (high, rest) ← setItem? after
    return (← rangeOf? low high, rest)
  | _ => return (low, rest)

/-- A set that is being read: the operation that waits for its second set, with the first one, and
the members behind it. -/
structure OpenSet where
  waiting : Option ((CharClass → CharClass → CharClass) × CharClass)
  members : CharClass

namespace OpenSet

/-- A set with one more member. -/
def add (set : OpenSet) (k : CharClass) : OpenSet :=
  { set with members := .union set.members k }

/-- The class that a set stands for at its end. -/
def close (set : OpenSet) : CharClass :=
  match set.waiting with
  | none => set.members
  | some (operation, first) => operation first set.members

/-- A set before the second one of an operation.  Operations are done from left to right. -/
def operate (set : OpenSet) (operation : CharClass → CharClass → CharClass) : OpenSet :=
  ⟨some (operation, set.close), .none⟩

end OpenSet

/-- What stands behind the opening bracket of a set: whether it is negated, its first members, and
the rest.  Hyphens in the first place are members, and so is a closing bracket. -/
def setOpening (t : Text) : Bool × CharClass × Text :=
  let (negated, t) := match t with
    | '^' :: t => (true, t)
    | t => (false, t)
  match t with
  | ']' :: t => (negated, .range ']' ']', t)
  | '-' :: t => (negated, .range '-' '-', t.dropWhile (· == '-'))
  | t => (negated, .none, t)

/-- The class of a set up to its closing bracket, and the rest.  Every turn takes a character. -/
def setRest? : Nat → OpenSet → Text → Option (CharClass × Text)
  | 0, _, _ => none
  | fuel + 1, set, t =>
    match t with
    | ']' :: rest => some (set.close, rest)
    | '&' :: '&' :: rest => setRest? fuel (set.operate .intersection) rest
    | '-' :: '-' :: rest => setRest? fuel (set.operate .difference) rest
    | '~' :: '~' :: rest => setRest? fuel (set.operate .symmetricDifference) rest
    | '[' :: rest =>
      match asciiClass? rest with
      | some (k, rest) => setRest? fuel (set.add k) rest
      | none => do
        let (negated, members, rest) := setOpening rest
        let (k, rest) ← setRest? fuel ⟨none, members⟩ rest
        setRest? fuel (set.add (if negated then .complement k else k)) rest
    | t => do
      let (k, rest) ← setMember? t
      setRest? fuel (set.add k) rest

/-- A set after its opening bracket. -/
def set? (t : Text) : Option (Pattern × Text) :=
  let (negated, members, rest) := setOpening t
  (setRest? (rest.length + 1) ⟨none, members⟩ rest).map fun (k, rest) => (oneOf negated [k], rest)

/-! ## Repetitions -/

/-- A count in digits, and the rest. -/
def count? (t : Text) : Option (Nat × Text) :=
  (Text.toNat? (t.takeWhile Char.isDigit)).map fun n => (n, t.dropWhile Char.isDigit)

/-- The bounds of a repetition at the start of a text, and the rest: `some none` when no repetition
starts there, `none` when one is malformed. -/
def bounds? : Text → Option (Option ((Nat × Option Nat) × Text))
  | '?' :: t => some (some ((0, some 1), t))
  | '*' :: t => some (some ((0, none), t))
  | '+' :: t => some (some ((1, none), t))
  | '\x7b' :: t => do
    let (least, t) ← count? t
    match t with
    | '\x7d' :: t => return some ((least, some least), t)
    | ',' :: '\x7d' :: t => return some ((least, none), t)
    | ',' :: t =>
      let (most, t) ← count? t
      match t with
      | '\x7d' :: t => if least ≤ most then return some ((least, some most), t) else none
      | _ => none
    | _ => none
  | _ => some none

/-- A pattern with the repetitions that follow it. -/
def withRepetitions? : Nat → Pattern → Text → Option (Pattern × Text)
  | 0, p, t => some (p, t)
  | fuel + 1, p, t => do
    match ← bounds? t with
    | none => return (p, t)
    | some ((least, most), '?' :: t) =>
      withRepetitions? fuel (repeated p least most false) t
    | some ((least, most), t) => withRepetitions? fuel (repeated p least most true) t

/-! ## Groups -/

/-- Whether the name of a group may begin with a character. -/
def isNameStart (c : Char) : Bool := c == '_' || Text.isAlphabetic c

/-- Whether the name of a group may go on with a character. -/
def isNameRest (c : Char) : Bool :=
  c ∈ ['_', '.', '[', ']'] || Text.isAlphanumeric c

/-- The opening of a group after its parenthesis: the name, if it has one, and the rest. -/
def groupOpening? (t : Text) : Option (Option Text × Text) :=
  let named (t : Text) : Option (Option Text × Text) := do
    let (name, rest) ← Text.splitFirst? ">" t
    match name with
    | c :: cs =>
      if isNameStart c && cs.all isNameRest then return (some name, rest)
      else none
    | [] => none
  match t with
  | '?' :: ':' :: t => some (none, t)
  | '?' :: 'P' :: '<' :: t => named t
  | '?' :: '<' :: t => named t
  | '?' :: _ => none
  | t => some (none, t)

/-! ## Whole patterns -/

mutual

/-- Alternatives up to the end or a closing parenthesis. -/
def alternatives? : Nat → Text → Option (Pattern × Text)
  | 0, _ => none
  | fuel + 1, t => do
    let (first, rest) ← sequence? fuel t
    match rest with
    | '|' :: rest =>
      let (second, rest) ← alternatives? fuel rest
      return (alt first second, rest)
    | _ => return (first, rest)

/-- Parts one after the other, up to a bar, a closing parenthesis or the end. -/
def sequence? : Nat → Text → Option (Pattern × Text)
  | 0, _ => none
  | fuel + 1, t =>
    if t.isEmpty ∨ t.head? = some '|' ∨ t.head? = some ')' then some (empty, t)
    else do
      let (first, rest) ← part? fuel t
      let (first, rest) ← withRepetitions? rest.length first rest
      let (second, rest) ← sequence? fuel rest
      return (seq first second, rest)

/-- A single part without repetitions. -/
def part? : Nat → Text → Option (Pattern × Text)
  | 0, _ => none
  | fuel + 1, t =>
    match t with
    | '(' :: t => do
      let (name, t) ← groupOpening? t
      let (p, rest) ← alternatives? fuel t
      match rest with
      | ')' :: rest => return (group name p, rest)
      | _ => none
    | '[' :: t => set? t
    | '.' :: t => some (anyChar, t)
    | '^' :: t => some (atStart, t)
    | '$' :: t => some (atStop, t)
    | '\\' :: c :: t =>
      match escapeClass? c with
      | some k => some (oneOf false [k], t)
      | none => (escapeChar? c).map fun c => (literal c, t)
    | '\\' :: [] => none
    | c :: t => if c ∈ ['?', '*', '+', '\x7b', ')'] then none else some (literal c, t)
    | [] => none

end

/-- Whether no text repeats. -/
def allDistinct : List Text → Bool
  | [] => true
  | t :: ts => !ts.contains t && allDistinct ts

/-- The pattern that a text writes.  Two groups may not have one name. -/
def parse? (t : Text) : Option Pattern := do
  let (p, rest) ← alternatives? (3 * t.length + 3) t
  if rest.isEmpty && allDistinct p.groupNames then some p else none

end Weave.Pattern
