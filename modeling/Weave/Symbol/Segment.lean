import Weave.Symbol.Annotate

/-!
# Segments

Code cut at every bound of its decorations.  The texts of the segments concatenate to the code, and
each segment carries the decorations that cover it, the longest first.
-/

namespace Weave

/-- A run of code and the decorations that cover all of it. -/
structure Segment where
  text : Text
  span : Span
  decorations : List Decoration
  deriving DecidableEq, Repr, Inhabited

/-- A number in its place of an ascending list without repetition. -/
def insertCut (n : Nat) : List Nat → List Nat
  | [] => [n]
  | m :: ms => if n < m then n :: m :: ms else if n = m then m :: ms else m :: insertCut n ms

/-- The offsets at which code is cut: its ends and the bounds of the decorations, ascending. -/
def cuts (code : Text) (fitting : List Decoration) : List Nat :=
  (fitting.flatMap fun d => [d.span.start, d.span.stop]).foldr insertCut
    (insertCut 0 [code.byteLength])

/-- The segment between two cuts. -/
def segment? (code : Text) (fitting : List Decoration) (start stop : Nat) : Option Segment := do
  let span ← Span.new? start stop
  let text ← span.slice? code
  let covering := fitting.filter (·.span.contains span)
  return ⟨text, span, covering.mergeSort fun a b => b.span.length ≤ a.span.length⟩

/-- The segments between the cuts of a list. -/
def segmentsBetween (code : Text) (fitting : List Decoration) : List Nat → List Segment
  | a :: b :: cuts => (segment? code fitting a b).toList ++ segmentsBetween code fitting (b :: cuts)
  | _ => []

/-- The segments of some code.  Decorations that do not fit it are ignored. -/
def segments (code : Text) (decorations : List Decoration) : List Segment :=
  let fitting := decorations.filter fun d => (d.span.slice? code).isSome
  segmentsBetween code fitting (cuts code fitting)

end Weave
