import Weave.Text.Digit
import Weave.Text.Space
import Weave.Text.WordChar

/-!
# Text patterns

Regular expressions over characters with named groups.  What a pattern matches, and which of several
ways to match wins, is said in `Weave.Pattern.Search`.  Whoever only looks at a match needs no more
than `Pattern.Captures`.
-/

namespace Weave

/-- A class of characters inside a set. -/
inductive CharClass where
  | none
  | range (low high : Char)
  | digit
  | space
  | word
  | notDigit
  | notSpace
  | notWord
  | complement (k : CharClass)
  | union (first second : CharClass)
  | intersection (first second : CharClass)
  | difference (first second : CharClass)
  | symmetricDifference (first second : CharClass)
  deriving DecidableEq, Repr, Inhabited

/-- Whether a character belongs to a class. -/
def CharClass.mem (c : Char) : CharClass → Bool
  | none => false
  | range low high => low ≤ c && c ≤ high
  | digit => Text.isDecimalDigit c
  | space => Text.isSpace c
  | word => Text.isWordChar c
  | notDigit => !Text.isDecimalDigit c
  | notSpace => !Text.isSpace c
  | notWord => !Text.isWordChar c
  | complement k => !mem c k
  | union first second => mem c first || mem c second
  | intersection first second => mem c first && mem c second
  | difference first second => mem c first && !mem c second
  | symmetricDifference first second => mem c first != mem c second

/-- A pattern of text. -/
inductive Pattern where
  | empty
  /-- One character in one of the classes, or in none of them when negated. -/
  | oneOf (negated : Bool) (classes : List CharClass)
  /-- The start of the text. -/
  | atStart
  /-- The end of the text. -/
  | atStop
  | seq (first second : Pattern)
  | alt (first second : Pattern)
  /-- At least `least` and at most `most` repetitions, preferably many when greedy and preferably
  few when not. -/
  | repeated (p : Pattern) (least : Nat) (most : Option Nat) (greedy : Bool)
  /-- A group; what a named one matches is captured. -/
  | group (name : Option Text) (p : Pattern)
  deriving DecidableEq, Repr, Inhabited

namespace Pattern

/-- What named groups captured, the latest first. -/
abbrev Captures := List (Text × Text)

/-- What the group of a name captured, if it took part in the match. -/
def Captures.get? (captures : Captures) (name : Text) : Option Text := captures.lookup name

/-- The names of the groups, from left to right. -/
def groupNames : Pattern → List Text
  | group name p => name.toList ++ groupNames p
  | seq first second => groupNames first ++ groupNames second
  | alt first second => groupNames first ++ groupNames second
  | repeated p _ _ _ => groupNames p
  | _ => []

/-- Whether a pattern can match without consuming anything. -/
def isNullable : Pattern → Bool
  | empty | atStart | atStop => true
  | oneOf _ _ => false
  | seq first second => isNullable first && isNullable second
  | alt first second => isNullable first || isNullable second
  | repeated p least _ _ => least == 0 || isNullable p
  | group _ p => isNullable p

/-- A bound on the number of places inside a pattern, with every counted repetition written out. -/
def weight : Pattern → Nat
  | empty | oneOf _ _ | atStart | atStop => 1
  | seq first second => weight first + weight second + 1
  | alt first second => weight first + weight second + 1
  | repeated p least most _ => (max least (most.getD 0) + 2) * (weight p + 2)
  | group _ p => weight p + 2

end Pattern

end Weave
