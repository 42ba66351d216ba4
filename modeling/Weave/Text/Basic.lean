/-!
# Text

A text is a list of characters, so that functions on it are recursions on its characters.  Offsets
and lengths that other tools see are counted in UTF-8 bytes: `byteLength` is that measure,
`splitAtByte?` and `slice?` cut at such offsets and fail inside a character.

The rest of the module holds the plain operations on texts: prefixes and suffixes, the first and
the last occurrence of a needle, pieces between separators, and decimal numerals.
-/

namespace Weave

/-- A text as the list of its characters. -/
abbrev Text := List Char

instance : Coe String Text := ⟨String.toList⟩

namespace Text

/-! ## UTF-8 measure -/

/-- The number of bytes of the UTF-8 encoding. -/
def byteLength : Text → Nat
  | [] => 0
  | c :: t => c.utf8Size + byteLength t

@[simp] theorem byteLength_nil : byteLength [] = 0 := rfl

@[simp] theorem byteLength_cons (c : Char) (t : Text) :
    byteLength (c :: t) = c.utf8Size + byteLength t := rfl

@[simp] theorem byteLength_append (s t : Text) :
    byteLength (s ++ t) = byteLength s + byteLength t := by
  induction s with
  | nil => simp
  | cons c s ih => simp [ih, Nat.add_assoc]

/-- The two parts around a byte offset, or `none` when the offset lies past the end or inside a
character. -/
def splitAtByte? : Text → Nat → Option (Text × Text)
  | t, 0 => some ([], t)
  | [], _ + 1 => none
  | c :: t, n + 1 =>
    if c.utf8Size ≤ n + 1 then
      (splitAtByte? t (n + 1 - c.utf8Size)).map fun (before, after) => (c :: before, after)
    else none

/-- The text between two byte offsets, or `none` when they are out of order, out of range, or
inside a character. -/
def slice? (t : Text) (start stop : Nat) : Option Text :=
  if start ≤ stop then do
    let (_, after) ← t.splitAtByte? start
    let (middle, _) ← splitAtByte? after (stop - start)
    return middle
  else none

/-! ## Prefixes, suffixes and occurrences -/

/-- What follows `start`, if the text begins with it. -/
def dropPrefix? : (start t : Text) → Option Text
  | [], t => some t
  | _ :: _, [] => none
  | p :: start, c :: t => if p = c then dropPrefix? start t else none

/-- Whether the text begins with `start`. -/
def startsWith (t start : Text) : Bool := (dropPrefix? start t).isSome

/-- What precedes `tail`, if the text ends with it. -/
def dropSuffix? (tail t : Text) : Option Text :=
  (dropPrefix? tail.reverse t.reverse).map List.reverse

/-- Whether the text ends with `tail`. -/
def endsWith (t tail : Text) : Bool := (dropSuffix? tail t).isSome

/-- The parts around the first occurrence of `needle`. -/
def splitFirst? (needle : Text) : Text → Option (Text × Text)
  | [] => if needle.isEmpty then some ([], []) else none
  | c :: t =>
    match dropPrefix? needle (c :: t) with
    | some after => some ([], after)
    | none => (splitFirst? needle t).map fun (before, after) => (c :: before, after)

/-- The parts around the last occurrence of `needle`. -/
def splitLast? (needle : Text) (t : Text) : Option (Text × Text) :=
  (splitFirst? needle.reverse t.reverse).map fun (after, before) =>
    (before.reverse, after.reverse)

/-- Whether `needle` occurs in the text. -/
def contains (t needle : Text) : Bool := (splitFirst? needle t).isSome

/-- The pieces between the occurrences of a separator; one piece when there is none. -/
def splitOn (separator : Char) : Text → List Text
  | [] => [[]]
  | c :: t =>
    if c = separator then [] :: splitOn separator t
    else
      match splitOn separator t with
      | [] => [[c]]
      | piece :: pieces => (c :: piece) :: pieces

/-- Every occurrence of `pattern` replaced, from left to right and without overlap.  The counter
skips the characters of an occurrence. -/
def replaceFrom (pattern replacement : Text) : Nat → Text → Text
  | _, [] => []
  | skip + 1, _ :: t => replaceFrom pattern replacement skip t
  | 0, c :: t =>
    if startsWith (c :: t) pattern then
      replacement ++ replaceFrom pattern replacement (pattern.length - 1) t
    else c :: replaceFrom pattern replacement 0 t

/-- Every occurrence of a non-empty `pattern` replaced, from left to right and without overlap. -/
def replace (t pattern replacement : Text) : Text := replaceFrom pattern replacement 0 t

/-- The texts with `separator` between each two of them. -/
def join (separator : Text) : List Text → Text
  | [] => []
  | [t] => t
  | t :: ts => t ++ separator ++ join separator ts

/-- The text without the longest ending run of characters in a class. -/
def trimEndWhile (p : Char → Bool) (t : Text) : Text := (t.reverse.dropWhile p).reverse

/-! ## Numerals -/

/-- A number in decimal digits. -/
def ofNat (n : Nat) : Text := Nat.toDigits 10 n

/-- A number in decimal digits, with a minus sign when it is negative. -/
def ofInt : Int → Text
  | .ofNat n => ofNat n
  | .negSucc n => '-' :: ofNat (n + 1)

/-- The value of a run of ASCII digits read after `acc`. -/
def digitsValue (acc : Nat) : Text → Nat
  | [] => acc
  | c :: t => digitsValue (acc * 10 + (c.toNat - '0'.toNat)) t

/-- The value of a non-empty text of ASCII digits. -/
def toNat? (t : Text) : Option Nat :=
  if t.isEmpty || !t.all Char.isDigit then none else some (digitsValue 0 t)

/-! ## Order -/

/-- The order by code points, which is also the order of the UTF-8 bytes. -/
def le : Text → Text → Bool
  | [], _ => true
  | _ :: _, [] => false
  | a :: s, b :: t => if a = b then le s t else a.val < b.val

end Text

end Weave
