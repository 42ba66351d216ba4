import Weave.Pattern.Basic

/-!
# Searching for a pattern

A text is read once, character by character, with the list of all ways in which the part behind can
have matched so far.  Such a way is a thread: what is still to be matched, and what the named groups
have captured.  The list is ordered: a thread stands before those that the pattern prefers less, so
that of two threads with the same goals at the same character the first wins, and a thread with no
goals left makes all behind it void.  This also bounds the work, since a pattern has only finitely
many lists of goals, and it is why a repetition never goes round without consuming anything.
-/

namespace Weave.Pattern

/-- Something that is still to be matched. -/
inductive Goal where
  /-- A pattern. -/
  | pattern (p : Pattern)
  /-- Any number of further repetitions. -/
  | again (p : Pattern) (greedy : Bool)
  /-- The end of a named group. -/
  | close (name : Text)
  deriving DecidableEq, Repr, Inhabited

/-- One way in which a pattern may match. -/
structure Thread where
  goals : List Goal
  /-- The named groups that have been opened, each with the text from there on. -/
  opened : Captures
  captured : Captures
  deriving Repr, Inhabited

namespace Thread

/-- The thread that has a whole pattern to match. -/
def start (p : Pattern) : Thread := ⟨[.pattern p], [], []⟩

/-- Whether a thread has no goals left. -/
def isDone (thread : Thread) : Bool := thread.goals.isEmpty

/-- Whether a thread cannot go on without the next character. -/
def isWaiting (thread : Thread) : Bool :=
  match thread.goals with
  | .pattern (.oneOf _ _) :: _ => true
  | _ => false

/-- A waiting thread behind a character that it accepts. -/
def read? (c : Char) (thread : Thread) : Option Thread :=
  match thread.goals with
  | .pattern (.oneOf negated classes) :: goals =>
    if classes.any (·.mem c) != negated then some { thread with goals } else none
  | _ => none

/-- A thread in which the group of a name ends where a text begins. -/
def closeGroup (name : Text) (t : Text) (thread : Thread) : Thread :=
  match thread.opened.lookup name with
  | none => thread
  | some opening =>
    { thread with
      captured := (name, opening.take (opening.length - t.length)) :: thread.captured }

end Thread

/-- To go on with some goals or without them; with them in the first place when greedy. -/
def choice (greedy : Bool) (goals : List Goal) : List (List Goal) :=
  if greedy then [goals, []] else [[], goals]

/-- The ways to match repetitions, the preferred one first. -/
def repetitions (p : Pattern) (least : Nat) (most : Option Nat) (greedy : Bool) :
    List (List Goal) :=
  match least, most with
  | 0, none =>
    if p.isNullable then choice greedy [.pattern (.repeated p 1 none greedy)]
    else [[.again p greedy]]
  | 1, none => [[.pattern p, .again p greedy]]
  | least + 2, none => [[.pattern p, .pattern (.repeated p (least + 1) none greedy)]]
  | 0, some 0 => [[]]
  | 0, some (most + 1) =>
    choice greedy [.pattern p, .pattern (.repeated p 0 (some most) greedy)]
  | least + 1, some most =>
    [[.pattern p, .pattern (.repeated p least (some (most - 1)) greedy)]]

/-- The ways to match a pattern by simpler goals at a text, which is the rest of one of a
length. -/
def alternatives (size : Nat) (t : Text) : Pattern → List (List Goal)
  | empty => [[]]
  | oneOf negated classes => [[.pattern (oneOf negated classes)]]
  | atStart => if t.length = size then [[]] else []
  | atStop => if t.isEmpty then [[]] else []
  | seq first second => [[.pattern first, .pattern second]]
  | alt first second => [[.pattern first], [.pattern second]]
  | repeated p least most greedy => repetitions p least most greedy
  | group name p => [.pattern p :: (name.map Goal.close).toList]

/-- The threads that a thread stands for at a text, which is the rest of one of a length. -/
def Thread.advance (size : Nat) (t : Text) (thread : Thread) : List Thread :=
  match thread.goals with
  | [] => [thread]
  | .close name :: goals => [{ thread.closeGroup name t with goals }]
  | .again p greedy :: goals =>
    (choice greedy [.pattern p, .again p greedy]).map fun first =>
      { thread with goals := first ++ goals }
  | .pattern p :: goals =>
    let opened := match p with
      | group (some name) _ => (name, t) :: thread.opened
      | _ => thread.opened
    (alternatives size t p).map fun first => { thread with goals := first ++ goals, opened }

/-- The threads that wait for a character or are done, out of the threads at a text.  A thread whose
goals have been met with before is dropped, and so are all behind one that is done. -/
def settle (size : Nat) (t : Text) : Nat → List (List Goal) → List Thread → List Thread
  | 0, _, _ => []
  | _, _, [] => []
  | fuel + 1, known, thread :: threads =>
    if known.contains thread.goals then settle size t fuel known threads
    else if thread.isDone then [thread]
    else if thread.isWaiting then
      thread :: settle size t fuel (thread.goals :: known) threads
    else settle size t fuel (thread.goals :: known) (thread.advance size t ++ threads)

/-- What the preferred thread captures that is done at a text or further on, or the best so far. -/
def follow (p : Pattern) (size : Nat) : Text → List Thread → Option Captures → Option Captures
  | t, threads, best =>
    let settled := settle size t (3 * p.weight + 3) [] threads
    let best := match settled.find? (·.isDone) with
      | some thread => some thread.captured
      | none => best
    match t with
    | [] => best
    | c :: t => follow p size t (settled.filterMap (·.read? c)) best

/-- Tries the pattern at a text and then at its shorter and shorter ends. -/
def searchFrom (p : Pattern) (size : Nat) (t : Text) : Option Captures :=
  match follow p size t [.start p] none with
  | some captures => some captures
  | none =>
    match t with
    | [] => none
    | _ :: t => searchFrom p size t

/-- What the named groups capture in the leftmost match. -/
def search (p : Pattern) (t : Text) : Option Captures := searchFrom p t.length t

end Weave.Pattern
