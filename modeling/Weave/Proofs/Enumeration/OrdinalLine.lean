import Weave.Proofs.Enumeration.NestedMarker

/-!
# Lines with an ordinal

An `OrdinalLine` is a line with the number of an item on it, given by its parts: the indentation, a
bullet or none, groups of digits with dots between them, a delimiter, and white space or nothing
behind it.

* `marker?_front`: the number is found, and what stands behind the delimiter is left.
* `subNumber?_eq_some_iff`: what is taken for a number in the text behind a marker is a dotted
  number with white space or nothing behind it, and every such number is taken.
* `OrdinalLine.Reads` lists what a line says, and `ofLine_text_eq_iff` that just this is read, for
  numbers of any length.
-/

namespace Weave.Ordinal

/-! ## The number of a marker -/

/-- A bullet and the blanks behind it. -/
structure Bullet where
  char : Char
  isBullet : IsBullet char
  gap : Gap

def Bullet.text (b : Bullet) : Text := b.char :: b.gap.text

section Marker

variable {groups : List Text} {rest : Text} {c : Char}

/-- A number behind the indentation and a bullet is the number of the line, with a delimiter behind
it that no digit follows. -/
theorem marker?_front {indent : Text} (hindent : ∀ c ∈ indent, isFree c = true)
    (bullet : Option Bullet) (hne : groups ≠ []) (hgroups : ∀ g ∈ groups, IsDigitGroup g)
    (hc : IsDelimiter c) (hrest : NoDigit rest) :
    marker? (indent ++ (bullet.elim [] Bullet.text ++ (joinGroups groups ++ c :: rest)))
      = some (groups, rest) := by
  have hclose : closeNumber? (dotted (joinGroups groups ++ c :: rest)).1
      (dotted (joinGroups groups ++ c :: rest)).2 = some (groups, rest) := by
    rw [dotted_joinGroups hne hgroups hc hrest]
    exact closeNumber?_delimiter hc hne rest
  obtain ⟨d, t, ht, hd⟩ := exists_joinGroups_eq_cons hne hgroups
  rw [marker?_of_forall_free hindent, ← hclose, ht]
  cases bullet with
  | none => exact marker?_of_isDecimalDigit hd _
  | some b =>
      refine marker?_bullet b.isBullet b.gap.ne_nil b.gap.isBlank fun b hb => ?_
      obtain rfl := Option.some.inj hb
      exact isBlank_eq_false_of_isDecimalDigit hd

end Marker

/-! ## The number behind a marker -/

theorem SubNumber.ascii {t number : Text} (h : SubNumber Char.isDigit t number) :
    SubNumber Text.isDecimalDigit t number := by
  obtain ⟨gap, groups, after, ht, htwo, hgroups, hafter, hnumber⟩ := h
  refine ⟨gap, groups, after, ht, htwo, ?_, hafter, hnumber⟩
  intro g hg
  obtain ⟨hne, hdigit⟩ := hgroups g hg
  exact ⟨hne, fun c hc => Text.isDecimalDigit_of_isDigit (hdigit c hc)⟩

/-- What is taken for the number behind a marker, when a number with a dot and white space stands
there. -/
theorem subNumber?_gap (gap : Gap) {groups : List Text} {after : Text} (hne : groups ≠ [])
    (hgroups : ∀ g ∈ groups, IsDigitGroup g) (hafter : ∀ c ∈ after.head?, Text.isSpace c = true) :
    subNumber? (gap.text ++ (joinGroups groups ++ '.' :: after))
      = if 2 ≤ groups.length then some (joinGroups groups) else none := by
  have hhead : (gap.text ++ (joinGroups groups ++ '.' :: after)).head?.any Text.isBlank
      = true := by
    obtain ⟨c, blanks, hblanks⟩ := List.exists_cons_of_ne_nil gap.ne_nil
    rw [hblanks]
    exact gap.isBlank c (hblanks ▸ List.mem_cons_self)
  have hspace : after.head?.all Text.isSpace = true := by
    cases hafter' : after.head? with
    | none => rfl
    | some c => exact hafter c hafter'
  rw [subNumber?, hhead, gap.dropWhile_joinGroups hne hgroups,
    dotted_joinGroups hne hgroups (.inl rfl) (noDigit_of_isSpace hafter)]
  simp [hspace]

theorem subNumber?_eq_some_iff {t number : Text} :
    subNumber? t = some number ↔ SubNumber Text.isDecimalDigit t number := by
  constructor
  · exact subNumber_of_subNumber?
  · rintro ⟨gap, groups, after, rfl, htwo, hgroups, hafter, rfl⟩
    have hpos : 0 < groups.length := by omega
    rw [subNumber?_gap gap (List.ne_nil_of_length_pos hpos) hgroups hafter, if_pos htwo]

/-! ## What a line says -/

/-- A line with the number of an item on it, in ASCII digits. -/
structure OrdinalLine where
  indent : Text
  bullet : Option Bullet
  groups : List Text
  delimiter : Char
  /-- What follows the delimiter. -/
  rest : Text
  isFree : ∀ c ∈ indent, isFree c = true
  ne_nil : groups ≠ []
  isNumber : ∀ g ∈ groups, g ≠ [] ∧ ∀ c ∈ g, c.isDigit = true
  isDelimiter : IsDelimiter delimiter
  begins_space : ∀ c ∈ rest.head?, Text.isSpace c = true

namespace OrdinalLine

def text (l : OrdinalLine) : Text :=
  l.indent ++ (l.bullet.elim [] Bullet.text ++ (joinGroups l.groups ++ l.delimiter :: l.rest))

/-- The ordinal that stands on a line. -/
inductive Reads (l : OrdinalLine) : Ordinal → Prop where
  | dotted (two : 2 ≤ l.groups.length) : Reads l (.decimal (joinGroups l.groups))
  | subNumbered {g number : Text} (single : l.groups = [g])
      (sub : SubNumber Text.isDecimalDigit l.rest number) : Reads l (.decimal number)
  | whole {g : Text} (single : l.groups = [g])
      (plain : ∀ number, ¬SubNumber Text.isDecimalDigit l.rest number)
      (small : Text.digitsValue 0 g < 2 ^ 64) : Reads l (.whole (Text.digitsValue 0 g))
  | tooLarge {g : Text} (single : l.groups = [g])
      (plain : ∀ number, ¬SubNumber Text.isDecimalDigit l.rest number)
      (large : 2 ^ 64 ≤ Text.digitsValue 0 g) : Reads l .missing

variable (l : OrdinalLine)

theorem marker?_text : marker? l.text = some (l.groups, l.rest) := by
  have hgroups : ∀ g ∈ l.groups, IsDigitGroup g := by
    intro g hg
    obtain ⟨hne, hdigit⟩ := l.isNumber g hg
    exact ⟨hne, fun c hc => Text.isDecimalDigit_of_isDigit (hdigit c hc)⟩
  exact marker?_front l.isFree l.bullet l.ne_nil hgroups l.isDelimiter
    (noDigit_of_isSpace l.begins_space)

theorem ofGroup_eq {g : Text} (hg : g ∈ l.groups) :
    ofGroup g
      = if Text.digitsValue 0 g < 2 ^ 64 then .whole (Text.digitsValue 0 g) else .missing := by
  have hlimit : Text.digitsValue 0 g ≤ maxWhole ↔ Text.digitsValue 0 g < 2 ^ 64 := by
    unfold maxWhole
    omega
  rw [ofGroup, Text.toNat?_eq_some (l.isNumber g hg).1 (l.isNumber g hg).2]
  simp only [hlimit]

/-- What a line says is read. -/
theorem Reads.ofLine_text {l : OrdinalLine} {o : Ordinal} (h : l.Reads o) :
    ofLine l.text = o := by
  have hnone : (∀ number, ¬SubNumber Text.isDecimalDigit l.rest number)
      → subNumber? l.rest = none := by
    intro hplain
    exact Option.eq_none_iff_forall_ne_some.mpr fun number hsub =>
      hplain number (subNumber?_eq_some_iff.mp hsub)
  cases h with
  | dotted two => exact ofLine_of_two_groups l.marker?_text two
  | @subNumbered g number single sub =>
      have hmarker := l.marker?_text
      rw [single] at hmarker
      rw [ofLine_of_group hmarker, subNumber?_eq_some_iff.mpr sub]
      rfl
  | @whole g single plain small =>
      have hmarker := l.marker?_text
      rw [single] at hmarker
      rw [ofLine_of_one_group hmarker (hnone plain),
        l.ofGroup_eq (single ▸ List.mem_singleton_self g), if_pos small]
  | @tooLarge g single plain large =>
      have hmarker := l.marker?_text
      rw [single] at hmarker
      rw [ofLine_of_one_group hmarker (hnone plain),
        l.ofGroup_eq (single ▸ List.mem_singleton_self g), if_neg (Nat.not_lt.mpr large)]

/-- Every line says something. -/
theorem exists_reads : ∃ o, l.Reads o := by
  obtain ⟨g, gs, hgroups⟩ := List.exists_cons_of_ne_nil l.ne_nil
  cases gs with
  | cons g' gs =>
      refine ⟨_, .dotted ?_⟩
      simp [hgroups]
  | nil =>
      by_cases hsub : ∃ number, SubNumber Text.isDecimalDigit l.rest number
      · obtain ⟨number, hnumber⟩ := hsub
        exact ⟨_, .subNumbered hgroups hnumber⟩
      · push Not at hsub
        rcases Nat.lt_or_ge (Text.digitsValue 0 g) (2 ^ 64) with hsmall | hlarge
        · exact ⟨_, .whole hgroups hsub hsmall⟩
        · exact ⟨_, .tooLarge hgroups hsub hlarge⟩

/-- The number of a line is what stands there: a dotted number, also behind a single one, as it is
written, and otherwise the value of the digits, if it fits into 64 bits. -/
theorem ofLine_text_eq_iff (l : OrdinalLine) (o : Ordinal) : ofLine l.text = o ↔ l.Reads o := by
  constructor
  · rintro rfl
    obtain ⟨o, h⟩ := l.exists_reads
    rwa [h.ofLine_text]
  · exact Reads.ofLine_text

/-- No dotted number in ASCII digits stands behind this marker, and one in other digits is read. -/
theorem ofLine_arabicIndicSubNumber :
    let l : OrdinalLine := ⟨[], none, [['1']], '.', " ٢.١. x".toList, by simp, by simp, by simp,
      .inl rfl, by simp [Text.isSpace]⟩
    l.text = "1. ٢.١. x".toList ∧ (∀ number, ¬SubNumber Char.isDigit l.rest number)
      ∧ ofLine l.text = .decimal "٢.١".toList := by
  refine ⟨rfl, fun number hsub => ?_, by decide⟩
  have hread := subNumber?_eq_some_iff.mpr hsub.ascii
  obtain ⟨gap, groups, after, -, htwo, hgroups, -, hnumber⟩ := hsub
  have hfirst : subNumber? " ٢.١. x".toList = some "٢.١".toList := by decide
  obtain rfl : "٢.١".toList = number := Option.some.inj (hfirst.symm.trans hread)
  have hpos : 0 < groups.length := by omega
  obtain ⟨g, gs, rfl⟩ := List.exists_cons_of_ne_nil (List.ne_nil_of_length_pos hpos)
  obtain ⟨hne, hdigit⟩ := hgroups g List.mem_cons_self
  obtain ⟨d, g, rfl⟩ := List.exists_cons_of_ne_nil hne
  rw [joinGroups_cons] at hnumber
  obtain rfl : '٢' = d := (List.cons.inj hnumber).1
  exact absurd (hdigit '٢' List.mem_cons_self) (by decide)

end OrdinalLine

end Weave.Ordinal
