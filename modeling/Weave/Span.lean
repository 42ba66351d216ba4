import Weave.Text.Basic

/-!
# Spans

Positions in a text are byte offsets.  A `ByteRange` is a pair of offsets as an outside tool
reports it, in any order; a `Span` is a range whose bounds are in order.
-/

namespace Weave

/-- A half-open range of byte offsets, as reported. -/
structure ByteRange where
  start : Nat
  stop : Nat
  deriving DecidableEq, Repr, Inhabited

/-- A half-open range of byte offsets with ordered bounds. -/
structure Span where
  start : Nat
  stop : Nat
  start_le_stop : start ≤ stop
  deriving DecidableEq, Repr

namespace Span

instance : Inhabited Span := ⟨⟨0, 0, Nat.le_refl 0⟩⟩

/-- A span is known by its bounds. -/
theorem eq_iff {s t : Span} : s = t ↔ s.start = t.start ∧ s.stop = t.stop := by
  cases s
  cases t
  rw [mk.injEq]

/-- The span with these bounds, if they are in order. -/
def new? (start stop : Nat) : Option Span :=
  if h : start ≤ stop then some ⟨start, stop, h⟩ else none

/-- The span between two offsets given in either order. -/
def covering (a b : Nat) : Span :=
  ⟨min a b, max a b, Nat.le_trans (Nat.min_le_left a b) (Nat.le_max_left a b)⟩

/-- The span moved `offset` bytes to the right. -/
def shift (offset : Nat) (s : Span) : Span :=
  ⟨offset + s.start, offset + s.stop, Nat.add_le_add_left s.start_le_stop offset⟩

/-- The number of bytes. -/
def length (s : Span) : Nat := s.stop - s.start

/-- Whether the span holds no byte. -/
def isEmpty (s : Span) : Bool := s.start == s.stop

/-- The spanned text, or `none` when the span does not fit the text or cuts a character. -/
def slice? (s : Span) (t : Text) : Option Text := t.slice? s.start s.stop

/-- Whether the other span lies within this one. -/
def contains (s other : Span) : Bool := s.start ≤ other.start && other.stop ≤ s.stop

/-- Whether the two spans share a byte, or one lies strictly inside the other. -/
def overlaps (s other : Span) : Bool := s.start < other.stop && other.start < s.stop

end Span

end Weave
