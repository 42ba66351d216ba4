import Mathlib.Data.Nat.Digits.Defs
import Weave.Text.Digit
import Weave.Text.Space

/-!
# Decimal numerals

A number is written in one way (`ofNat_injective`), and a run of ASCII digits has a value
(`toNat?_eq_some`), which its length bounds (`digitsValue_lt`).  White space stands in no number
(`isDecimalDigit_eq_false_of_isSpace`).
-/

namespace Weave.Text

theorem ofNat_injective : Function.Injective ofNat := by
  intro m n h
  have hvalue := congrArg (Nat.ofDigitChars 10 · 0) h
  simpa [ofNat, Nat.ofDigitChars_toDigits] using hvalue

/-- A non-empty run of ASCII digits is a numeral. -/
theorem toNat?_eq_some {t : Text} (ne : t ≠ []) (h : ∀ c ∈ t, c.isDigit = true) :
    toNat? t = some (digitsValue 0 t) := by
  have hempty : t.isEmpty = false := List.isEmpty_eq_false_iff.mpr ne
  have hall : t.all Char.isDigit = true := List.all_eq_true.mpr h
  rw [toNat?, hempty, hall]
  rfl

theorem digitValue_le {c : Char} (h : c.isDigit = true) : c.toNat - '0'.toNat ≤ 9 := by
  have hc := (Char.isDigit_iff_toNat.mp h).2
  have hnine : '9'.toNat = 57 := rfl
  have hzero : '0'.toNat = 48 := rfl
  omega

theorem digitsValue_lt {t : Text} (h : ∀ c ∈ t, c.isDigit = true) (acc : Nat) :
    digitsValue acc t < (acc + 1) * 10 ^ t.length := by
  induction t generalizing acc with
  | nil =>
      show acc < (acc + 1) * 1
      omega
  | cons c t ih =>
      rw [List.forall_mem_cons] at h
      have hc := digitValue_le h.1
      have hstep : acc * 10 + (c.toNat - '0'.toNat) + 1 ≤ (acc + 1) * 10 := by omega
      have hrest := ih h.2 (acc * 10 + (c.toNat - '0'.toNat))
      rw [List.length_cons, Nat.pow_succ', ← Nat.mul_assoc]
      exact hrest.trans_le (Nat.mul_le_mul_right _ hstep)

/-- No white space is a decimal digit. -/
theorem isDecimalDigit_eq_false_of_isSpace {c : Char} (h : isSpace c = true) :
    isDecimalDigit c = false := by
  simp only [isSpace, Bool.or_eq_true, Bool.and_eq_true, decide_eq_true_eq, beq_iff_eq] at h
  unfold isDecimalDigit
  split
  · rw [← Bool.not_eq_true, Char.isDigit_iff_toNat]
    have hzero : '0'.toNat = 48 := rfl
    have hnine : '9'.toNat = 57 := rfl
    omega
  · have hcode : c.toNat ∈ [0x85, 0xa0, 0x1680, 0x2000, 0x2001, 0x2002, 0x2003, 0x2004, 0x2005,
        0x2006, 0x2007, 0x2008, 0x2009, 0x200a, 0x2028, 0x2029, 0x202f, 0x205f, 0x3000] := by
      simp only [List.mem_cons, List.not_mem_nil, or_false]
      omega
    have hnone : ∀ n ∈ [0x85, 0xa0, 0x1680, 0x2000, 0x2001, 0x2002, 0x2003, 0x2004, 0x2005,
        0x2006, 0x2007, 0x2008, 0x2009, 0x200a, 0x2028, 0x2029, 0x202f, 0x205f, 0x3000],
        inRanges digitRanges n = false := by decide
    exact hnone _ hcode

end Weave.Text
