import Weave.Toml.Value

/-!
# TOML scalars

Numbers, dates and times are written without white space, but for one space that may stand between
a date and a time.  Each reader here takes a whole word.
-/

namespace Weave.Toml

/-! ## Numbers -/

/-- The digits of a numeral without the underscores, each of which must stand between two digits;
`afterDigit` says whether a digit has just been read. -/
def digitsOf? (isDigit : Char → Bool) (afterDigit : Bool) : Text → Option Text
  | [] => if afterDigit then some [] else none
  | c :: t =>
    if isDigit c then (digitsOf? isDigit true t).map (c :: ·)
    else if c = '_' ∧ afterDigit then digitsOf? isDigit false t
    else none

/-- The value of a hexadecimal digit. -/
def digitValue (c : Char) : Nat :=
  if c.isDigit then c.toNat - '0'.toNat else c.toLower.toNat - 'a'.toNat + 10

/-- Whether a character is a digit in some base. -/
def isDigitOf (base : Nat) (c : Char) : Bool :=
  (c.isDigit || 'a' ≤ c.toLower && c.toLower ≤ 'f') && digitValue c < base

/-- The number in some digits. -/
def numberOf (base : Nat) (digits : Text) : Nat :=
  digits.foldl (fun n c => n * base + digitValue c) 0

/-- A word's sign and what follows it. -/
def splitSign (t : Text) : Bool × Text :=
  match t with
  | '-' :: t => (true, t)
  | '+' :: t => (false, t)
  | t => (false, t)

/-- The digits of a decimal numeral; the first of several is not zero. -/
def decimalDigits? (t : Text) : Option Text :=
  match digitsOf? Char.isDigit false t with
  | some ('0' :: _ :: _) => none
  | digits => digits

/-- The integers of a document have 64 bits. -/
def integerOf? (n : Int) : Option Value :=
  if -0x8000000000000000 ≤ n ∧ n < 0x8000000000000000 then some (.integer n) else none

/-- An integer in a base other than ten, behind its prefix. -/
def basedInteger? (base : Nat) (t : Text) : Option Value :=
  (digitsOf? (isDigitOf base) false t).bind fun digits => integerOf? (numberOf base digits)

/-- An integer. -/
def integer? (t : Text) : Option Value :=
  match t with
  | '0' :: 'x' :: t => basedInteger? 16 t
  | '0' :: 'o' :: t => basedInteger? 8 t
  | '0' :: 'b' :: t => basedInteger? 2 t
  | t =>
    let (negative, t) := splitSign t
    (decimalDigits? t).bind fun digits =>
      let n : Int := numberOf 10 digits
      integerOf? (if negative then -n else n)

/-- The least number, in units of the last place of the largest float, that has no float. -/
def floatBound : Nat := Nat.pow 2 1024 - Nat.pow 2 970

/-- Whether `m * 10 ^ e` is too large for a float. -/
def isTooLarge (m : Nat) (e : Int) : Bool :=
  let size : Int := (Nat.toDigits 10 m).length + e
  if m = 0 ∨ size < 309 then false
  else if 310 < size then true
  else floatBound * Nat.pow 10 (-e).toNat ≤ m * Nat.pow 10 e.toNat

/-- The exponent of a float, behind its mark, or zero when there is none. -/
def exponent? (t : Text) : Option Int :=
  match t with
  | [] => some 0
  | c :: t =>
    if c = 'e' ∨ c = 'E' then
      let (negative, t) := splitSign t
      (digitsOf? Char.isDigit false t).map fun digits =>
        let n : Int := numberOf 10 digits
        if negative then -n else n
    else none

/-- The decimals of a float, behind its whole part, and what follows them; none without a point. -/
def fraction? (t : Text) : Option (Text × Text) :=
  match t with
  | '.' :: t =>
    let decimals := t.takeWhile fun c => c != 'e' && c != 'E'
    (digitsOf? Char.isDigit false decimals).map fun digits => (digits, t.drop decimals.length)
  | t => some ([], t)

/-- A float: digits with a fraction or an exponent, infinity, or no number.  A positive one that is
too large is refused. -/
def float? (t : Text) : Option Value :=
  let (negative, body) := splitSign t
  if body = "inf" ∨ body = "nan" then some .float
  else
    let isMark := fun c => c == '.' || c == 'e' || c == 'E'
    let whole := body.takeWhile (!isMark ·)
    let rest := body.drop whole.length
    if rest.isEmpty then none
    else do
      let digits ← decimalDigits? whole
      let (decimals, rest) ← fraction? rest
      let e ← exponent? rest
      let m := numberOf 10 (digits ++ decimals)
      if !negative && isTooLarge m (e - decimals.length) then none else some .float

/-! ## Dates and times -/

/-- The number of a text of exactly `n` digits. -/
def fixed? (n : Nat) (t : Text) : Option Nat := if t.length = n then Text.toNat? t else none

/-- The days of a month. -/
def daysIn (year month : Nat) : Nat :=
  if month = 2 then
    if year % 4 = 0 ∧ (year % 100 ≠ 0 ∨ year % 400 = 0) then 29 else 28
  else if month ∈ [4, 6, 9, 11] then 30 else 31

/-- Whether a text is a date. -/
def isDate (t : Text) : Bool :=
  match Text.splitOn '-' t with
  | [y, m, d] =>
    match fixed? 4 y, fixed? 2 m, fixed? 2 d with
    | some y, some m, some d => 1 ≤ m && m ≤ 12 && 1 ≤ d && d ≤ daysIn y m
    | _, _, _ => false
  | _ => false

/-- Whether a text is a time of a day. -/
def isTime (t : Text) : Bool :=
  match Text.splitOn ':' t with
  | [h, m, s] =>
    let seconds := s.take 2
    let fraction : Text := s.drop 2
    match fixed? 2 h, fixed? 2 m, fixed? 2 seconds with
    | some h, some m, some s =>
      h ≤ 23 && m ≤ 59 && s ≤ 60
        && match fraction with
          | [] => true
          | '.' :: digits => !digits.isEmpty && digits.all Char.isDigit
          | _ => false
    | _, _, _ => false
  | _ => false

/-- Whether a text is an offset from universal time. -/
def isOffset (t : Text) : Bool :=
  match t with
  | ['Z'] => true
  | ['z'] => true
  | c :: t =>
    (c == '+' || c == '-')
      && match Text.splitOn ':' t with
        | [h, m] =>
          match fixed? 2 h, fixed? 2 m with
          | some h, some m => h ≤ 23 && m ≤ 59
          | _, _ => false
        | _ => false
  | [] => false

/-- Whether a text is a time, possibly with an offset. -/
def isOffsetTime (t : Text) : Bool :=
  let time := t.takeWhile fun c => c.isDigit || c == ':' || c == '.'
  isTime time && (time.length == t.length || isOffset (t.drop time.length))

/-- Whether a text is a date with a time. -/
def isDateTime (t : Text) : Bool :=
  let rest : Text := t.drop 10
  let isMarked := rest.head? == some 'T' || rest.head? == some 't'
  isDate (t.take 10) && isMarked && isOffsetTime (rest.drop 1)

/-- A number, date or time, or truth value. -/
def scalar? (t : Text) : Option Value :=
  if t = "true" then some (.boolean true)
  else if t = "false" then some (.boolean false)
  else if isDate t || isTime t || isDateTime t then some .moment
  else (integer? t).or (float? t)

/-- A character of a scalar. -/
def isScalarChar (c : Char) : Bool :=
  c.isAlphanum || c == '_' || c == '+' || c == '-' || c == '.' || c == ':'

/-- A scalar at the start of a text, and the rest.  A space and a digit behind a date begin its
time. -/
def readScalar? (t : Text) : Option (Value × Text) :=
  let word := t.takeWhile isScalarChar
  let rest := t.drop word.length
  match rest with
  | ' ' :: d :: after =>
    if isDate word ∧ d.isDigit then
      let time := (d :: after).takeWhile isScalarChar
      if isOffsetTime time then some (.moment, (d :: after).drop time.length) else none
    else (scalar? word).map fun v => (v, rest)
  | _ => (scalar? word).map fun v => (v, rest)

end Weave.Toml
