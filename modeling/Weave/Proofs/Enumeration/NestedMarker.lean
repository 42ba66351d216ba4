import Weave.Proofs.Enumeration.LineNumber
import Weave.Proofs.Text.Numeral

/-!
# Markers that share a line

The number of an item is looked for at the start of its line, and other markers may stand there:
`1. 2. text` has the markers of two lists, and `> - 3. text` has a quote mark and a bullet.

`MarkerLine` is a line with a number marker on it, given by what stands before the marker and behind
it.  The number that is read is always the first one of the line (`firstMarker`), and it is read
only if it is not hidden: blanks and quote marks may stand before it, and then one bullet
(`isShallow`).  `ofLine_leads` is the induction over what stands before the marker, and
`ofLine_bullet` the one behind a bullet.
-/

namespace Weave.Ordinal

/-! ## Lines with markers -/

/-- A number marker: ASCII digits and a delimiter. -/
structure NumberMarker where
  digits : Text
  delimiter : Char
  ne_nil : digits ≠ []
  isDigit : ∀ c ∈ digits, c.isDigit = true
  isDelimiter : IsDelimiter delimiter

namespace NumberMarker

def text (m : NumberMarker) : Text := m.digits ++ [m.delimiter]

def value (m : NumberMarker) : Nat := Text.digitsValue 0 m.digits

/-- The number of a marker; one beyond 64 bits cannot be read. -/
def ordinal (m : NumberMarker) : Ordinal :=
  if m.value ≤ maxWhole then .whole m.value else .missing

end NumberMarker

/-- The blanks behind a marker. -/
structure Gap where
  text : Text
  ne_nil : text ≠ []
  isBlank : ∀ c ∈ text, Text.isBlank c = true

/-- What may stand before a marker on its line. -/
inductive Lead where
  /-- A blank or a quote mark. -/
  | free (c : Char) (h : isFree c = true)
  | bullet (c : Char) (h : IsBullet c) (gap : Gap)
  | number (marker : NumberMarker) (gap : Gap)

namespace Lead

def text : Lead → Text
  | free c _ => [c]
  | bullet c _ gap => c :: gap.text
  | number marker gap => marker.text ++ gap.text

def isBlank : Lead → Bool
  | free c _ => Text.isBlank c
  | _ => false

end Lead

/-- Whether a text is a dotted number with white space or nothing behind it: two or more groups of
digits behind the blanks, and a dot. -/
def BeginsSubNumber (t : Text) : Prop :=
  ∃ groups rest, t.dropWhile Text.isBlank = joinGroups groups ++ '.' :: rest
    ∧ 2 ≤ groups.length ∧ (∀ g ∈ groups, IsDigitGroup g) ∧ ∀ c ∈ rest.head?, Text.isSpace c = true

/-- A line of a source with the marker of an ordered item on it. -/
structure MarkerLine where
  /-- The lines above. -/
  above : Text
  leads : List Lead
  own : NumberMarker
  /-- What follows the marker and its space. -/
  text : Text
  /-- The end of the line and the lines below. -/
  below : Text
  above_ends : ∀ c ∈ above.getLast?, c = '\n'
  below_begins : ∀ c ∈ below.head?, c = '\n'
  length_le : own.digits.length ≤ 9
  newline_notMem : '\n' ∉ text
  not_beginsSubNumber : ¬BeginsSubNumber text

namespace MarkerLine

def before (l : MarkerLine) : Text := l.leads.flatMap Lead.text

def after (l : MarkerLine) : Text := l.own.text ++ ' ' :: l.text

def line (l : MarkerLine) : Text := l.before ++ l.after

def source (l : MarkerLine) : Text := l.above ++ l.before ++ (l.after ++ l.below)

/-- Where the marker stands in the source. -/
def offset (l : MarkerLine) : Nat := Text.byteLength (l.above ++ l.before)

end MarkerLine

/-- The first number marker of a line. -/
def firstMarker : List Lead → NumberMarker → NumberMarker
  | [], own => own
  | .free _ _ :: leads, own => firstMarker leads own
  | .bullet _ _ _ :: leads, own => firstMarker leads own
  | .number marker _ :: _, _ => marker

/-- What stands before the first number marker of a line. -/
def front : List Lead → List Lead
  | [] => []
  | .free c h :: leads => .free c h :: front leads
  | .bullet c h gap :: leads => .bullet c h gap :: front leads
  | .number _ _ :: _ => []

/-- Whether nothing stands there but blanks and quote marks, and then at most one bullet and blanks
behind it. -/
def isShallow : List Lead → Bool
  | [] => true
  | .free _ _ :: leads => isShallow leads
  | .bullet _ _ _ :: leads => leads.all Lead.isBlank
  | .number _ _ :: _ => false

/-! ## Numbers that are read -/

namespace NumberMarker

variable (m : NumberMarker)

theorem isDigitGroup : IsDigitGroup m.digits :=
  ⟨m.ne_nil, fun c hc => Text.isDecimalDigit_of_isDigit (m.isDigit c hc)⟩

theorem exists_text_eq (rest : Text) :
    ∃ c t, Text.isDecimalDigit c = true ∧ m.text ++ rest = c :: t := by
  obtain ⟨c, digits, hdigits⟩ := List.exists_cons_of_ne_nil m.ne_nil
  refine ⟨c, digits ++ [m.delimiter] ++ rest, ?_, ?_⟩
  · exact m.isDigitGroup.2 c (hdigits ▸ List.mem_cons_self)
  · rw [text, hdigits]
    rfl

theorem not_isBlank_head (rest : Text) :
    ∀ c ∈ (m.text ++ rest).head?, Text.isBlank c = false := by
  obtain ⟨d, t, hd, ht⟩ := m.exists_text_eq rest
  rw [ht]
  intro c hc
  obtain rfl := Option.some.inj hc
  exact isBlank_eq_false_of_isDecimalDigit hd

/-- In front of a character that is no digit a marker has one group. -/
theorem dotted_text {rest : Text} (h : NoDigit rest) :
    dotted (m.text ++ rest) = ([m.digits], m.delimiter :: rest) := by
  have hgroups : ∀ g ∈ [m.digits], IsDigitGroup g := by simpa using m.isDigitGroup
  have hdotted := dotted_joinGroups (List.cons_ne_nil _ _) hgroups m.isDelimiter h
  rw [joinGroups_singleton] at hdotted
  rw [text, List.append_assoc, List.singleton_append, hdotted]

theorem closeNumber?_text {rest : Text} (h : NoDigit rest) :
    closeNumber? (dotted (m.text ++ rest)).1 (dotted (m.text ++ rest)).2
      = some ([m.digits], rest) := by
  rw [m.dotted_text h]
  exact closeNumber?_delimiter m.isDelimiter (List.cons_ne_nil _ _) rest

theorem ofGroup_digits : ofGroup m.digits = m.ordinal := by
  rw [ofGroup, Text.toNat?_eq_some m.ne_nil m.isDigit]
  rfl

/-- A number of nine digits is far below the limit. -/
theorem value_le_maxWhole (h : m.digits.length ≤ 9) : m.value ≤ maxWhole := by
  have hvalue := Text.digitsValue_lt m.isDigit 0
  have hpow : 10 ^ m.digits.length ≤ 10 ^ 9 := Nat.pow_le_pow_right (by omega) h
  have hmax : 10 ^ 9 ≤ maxWhole := by decide
  rw [value]
  omega

theorem ordinal_eq_whole_iff {n : Nat} (hn : n ≤ maxWhole) :
    m.ordinal = .whole n ↔ m.value = n := by
  unfold ordinal
  split
  · exact Ordinal.whole.injEq _ _ ▸ Iff.rfl
  next hlarge =>
    refine iff_of_false (by simp) ?_
    rintro rfl
    exact hlarge hn

end NumberMarker

/-! ## Numbers behind a marker -/

variable {rest : Text}

theorem beginsSubNumber_cons_iff {c : Char} (hc : Text.isBlank c = true) (t : Text) :
    BeginsSubNumber (c :: t) ↔ BeginsSubNumber t := by
  unfold BeginsSubNumber
  rw [List.dropWhile_cons_of_pos hc]

theorem Gap.beginsSubNumber_iff (gap : Gap) (t : Text) :
    BeginsSubNumber (gap.text ++ t) ↔ BeginsSubNumber t := by
  unfold BeginsSubNumber
  rw [List.dropWhile_append_of_pos gap.isBlank]

theorem not_beginsSubNumber_of_noDigit {c : Char} (hblank : Text.isBlank c = false)
    (hdigit : Text.isDecimalDigit c = false) (t : Text) : ¬BeginsSubNumber (c :: t) := by
  rintro ⟨groups, rest, heq, htwo, hgroups, -⟩
  have hpos : 0 < groups.length := by omega
  obtain ⟨d, number, hnumber, hd⟩ :=
    exists_joinGroups_eq_cons (List.ne_nil_of_length_pos hpos) hgroups
  rw [List.dropWhile_cons_of_neg (by simp [hblank]), hnumber] at heq
  obtain rfl : c = d := (List.cons.inj heq).1
  rw [hd] at hdigit
  contradiction

/-- A marker with something other than a digit behind it has one group only. -/
theorem NumberMarker.not_beginsSubNumber (m : NumberMarker) (h : NoDigit rest) :
    ¬BeginsSubNumber (m.text ++ rest) := by
  rintro ⟨groups, more, heq, htwo, hgroups, hmore⟩
  have hkept : (m.text ++ rest).dropWhile Text.isBlank = m.text ++ rest := by
    have hhead := m.not_isBlank_head rest
    obtain ⟨c, t, -, ht⟩ := m.exists_text_eq rest
    rw [ht] at hhead ⊢
    exact List.dropWhile_cons_of_neg (by simp [hhead c rfl])
  have hpos : 0 < groups.length := by omega
  have hdotted := dotted_joinGroups (List.ne_nil_of_length_pos hpos) hgroups (.inl rfl)
    (noDigit_of_isSpace hmore)
  rw [← heq, hkept, m.dotted_text h] at hdotted
  obtain rfl := (Prod.mk.inj hdotted).1
  simp at htwo

/-- Whether a text begins with blanks and a dotted number, in digits of a class, with a dot and then
white space or nothing behind it. -/
def SubNumber (isDigit : Char → Bool) (t number : Text) : Prop :=
  ∃ (gap : Gap) (groups : List Text) (after : Text),
    t = gap.text ++ (joinGroups groups ++ '.' :: after) ∧ 2 ≤ groups.length
      ∧ (∀ g ∈ groups, g ≠ [] ∧ ∀ c ∈ g, isDigit c = true)
      ∧ (∀ c ∈ after.head?, Text.isSpace c = true) ∧ number = joinGroups groups

/-- The blanks in front of a dotted number are passed over. -/
theorem Gap.dropWhile_joinGroups (gap : Gap) {groups : List Text} (hne : groups ≠ [])
    (hgroups : ∀ g ∈ groups, IsDigitGroup g) (more : Text) :
    (gap.text ++ (joinGroups groups ++ more)).dropWhile Text.isBlank
      = joinGroups groups ++ more := by
  obtain ⟨d, t, ht, hd⟩ := exists_joinGroups_eq_cons hne hgroups
  rw [List.dropWhile_append_of_pos gap.isBlank, ht]
  exact List.dropWhile_cons_of_neg (by simp [isBlank_eq_false_of_isDecimalDigit hd])

/-- What is taken for a number in the text behind a marker stands there as one. -/
theorem subNumber_of_subNumber? {t number : Text} (h : subNumber? t = some number) :
    SubNumber Text.isDecimalDigit t number := by
  obtain ⟨hjoin, hgroups⟩ := joinGroups_dotted_append (t.dropWhile Text.isBlank)
  unfold subNumber? at h
  split at h
  · contradiction
  next hblank =>
    dsimp only at h
    split at h
    next after hrest =>
      split at h
      next hnumber =>
        have hgap : t.takeWhile Text.isBlank ≠ [] := by
          cases t with
          | nil => simp at hblank
          | cons c t =>
            have hc : Text.isBlank c = true := by simpa using hblank
            simp [hc]
        refine ⟨⟨t.takeWhile Text.isBlank, hgap, fun c hc => List.mem_takeWhile_imp hc⟩,
          (dotted (t.dropWhile Text.isBlank)).1, after, ?_, hnumber.1, hgroups, fun c hc => ?_,
          (Option.some.inj h).symm⟩
        · rw [← hrest, hjoin, List.takeWhile_append_dropWhile]
        · have hspace := hnumber.2
          rw [show after.head? = some c from hc] at hspace
          exact hspace
      next => contradiction
    next => contradiction

theorem subNumber?_eq_none {t : Text} (h : ¬BeginsSubNumber t) : subNumber? t = none := by
  rw [Option.eq_none_iff_forall_ne_some]
  intro number hsub
  obtain ⟨gap, groups, after, rfl, htwo, hgroups, hafter, -⟩ := subNumber_of_subNumber? hsub
  have hpos : 0 < groups.length := by omega
  exact h ⟨groups, after, gap.dropWhile_joinGroups (List.ne_nil_of_length_pos hpos) hgroups _,
    htwo, hgroups, hafter⟩

/-! ## What stands before a marker -/

theorem noDigit_of_isBlank {c : Char} (hc : Text.isBlank c = true) (t : Text) :
    NoDigit (c :: t) :=
  noDigit_cons_iff.mpr (Text.isDecimalDigit_eq_false_of_isSpace (Text.isSpace_of_isBlank hc))

theorem Gap.noDigit (gap : Gap) (t : Text) : NoDigit (gap.text ++ t) := by
  obtain ⟨c, gap', hgap⟩ := List.exists_cons_of_ne_nil gap.ne_nil
  rw [hgap]
  exact noDigit_of_isBlank (gap.isBlank c (hgap ▸ List.mem_cons_self)) _

theorem not_isBlank_of_isBullet {c : Char} (hc : IsBullet c) : Text.isBlank c = false := by
  rcases hc with rfl | rfl | rfl <;> decide

theorem not_isDecimalDigit_of_isBullet {c : Char} (hc : IsBullet c) :
    Text.isDecimalDigit c = false := by
  rcases hc with rfl | rfl | rfl <;> decide

theorem eq_quote_of_isFree {c : Char} (hc : isFree c = true) (hblank : Text.isBlank c = false) :
    c = '>' := by
  rw [isFree, hblank, Bool.false_or] at hc
  exact beq_iff_eq.mp hc

/-- What follows a marker on its line is no sub-number as long as markers follow. -/
theorem not_beginsSubNumber_leads (leads : List Lead) (own : NumberMarker) (h : NoDigit rest) :
    ¬BeginsSubNumber (leads.flatMap Lead.text ++ (own.text ++ rest)) := by
  induction leads with
  | nil => exact own.not_beginsSubNumber h
  | cons lead leads ih =>
    rw [List.flatMap_cons, List.append_assoc]
    cases lead with
    | free c hc =>
      cases hblank : Text.isBlank c with
      | true => exact (beginsSubNumber_cons_iff hblank _).not.mpr ih
      | false =>
        obtain rfl := eq_quote_of_isFree hc hblank
        exact not_beginsSubNumber_of_noDigit hblank (by decide) _
    | bullet c hc gap =>
      exact not_beginsSubNumber_of_noDigit (not_isBlank_of_isBullet hc)
        (not_isDecimalDigit_of_isBullet hc) _
    | number marker gap =>
      rw [Lead.text, List.append_assoc]
      exact marker.not_beginsSubNumber (gap.noDigit _)

/-! ## The number of the line -/

theorem ofLine_of_closed {line : Text} {m : NumberMarker}
    (hline : marker? line = closeNumber? (dotted (m.text ++ rest)).1 (dotted (m.text ++ rest)).2)
    (hrest : NoDigit rest) (hsub : ¬BeginsSubNumber rest) : ofLine line = m.ordinal := by
  rw [m.closeNumber?_text hrest] at hline
  rw [ofLine_of_one_group hline (subNumber?_eq_none hsub), m.ofGroup_digits]

/-- A marker at the start of a line is read. -/
theorem ofLine_number (m : NumberMarker) (hrest : NoDigit rest) (hsub : ¬BeginsSubNumber rest) :
    ofLine (m.text ++ rest) = m.ordinal := by
  refine ofLine_of_closed ?_ hrest hsub
  obtain ⟨c, t, hc, ht⟩ := m.exists_text_eq rest
  rw [ht, marker?_of_isDecimalDigit hc]

/-- A marker behind a bullet is read. -/
theorem ofLine_bullet_number {c : Char} (hc : IsBullet c) (gap : Gap) (m : NumberMarker)
    (hrest : NoDigit rest) (hsub : ¬BeginsSubNumber rest) :
    ofLine (c :: (gap.text ++ (m.text ++ rest))) = m.ordinal :=
  ofLine_of_closed (marker?_bullet hc gap.ne_nil gap.isBlank (m.not_isBlank_head rest)) hrest hsub

theorem ofLine_bullet_of_noDigit {c d : Char} (hc : IsBullet c) (gap : Gap)
    (hblank : Text.isBlank d = false) (hdigit : Text.isDecimalDigit d = false) (t : Text) :
    ofLine (c :: (gap.text ++ d :: t)) = missing := by
  have hhead : ∀ b ∈ (d :: t).head?, Text.isBlank b = false := by
    intro b hb
    exact Option.some.inj hb ▸ hblank
  exact ofLine_of_marker?_none (marker?_bullet_of_noDigit hc gap.ne_nil gap.isBlank hhead
    (noDigit_cons_iff.mpr hdigit))

/-- One more blank. -/
def Gap.concat (gap : Gap) (c : Char) (hc : Text.isBlank c = true) : Gap where
  text := gap.text ++ [c]
  ne_nil := by simp
  isBlank := List.forall_mem_append.mpr ⟨gap.isBlank, by simpa using hc⟩

/-- Behind a bullet the first number of the line is read if nothing but blanks stands before it. -/
theorem ofLine_bullet {c : Char} (hc : IsBullet c) (gap : Gap) (leads : List Lead)
    (own : NumberMarker) (hrest : NoDigit rest) (hsub : ¬BeginsSubNumber rest) :
    ofLine (c :: (gap.text ++ (leads.flatMap Lead.text ++ (own.text ++ rest))))
      = if (front leads).all Lead.isBlank then (firstMarker leads own).ordinal else missing := by
  induction leads generalizing gap with
  | nil => exact ofLine_bullet_number hc gap own hrest hsub
  | cons lead leads ih =>
    rw [List.flatMap_cons, List.append_assoc]
    cases lead with
    | free d hd =>
      rw [front, firstMarker, List.all_cons]
      cases hblank : Text.isBlank d with
      | true =>
        have hnext := ih (gap.concat d hblank)
        rw [Gap.concat, List.append_assoc] at hnext
        rw [Lead.isBlank, hblank, Bool.true_and, ← hnext]
        rfl
      | false =>
        obtain rfl := eq_quote_of_isFree hd hblank
        exact ofLine_bullet_of_noDigit hc gap hblank (by decide) _
    | bullet d hd gap' =>
      exact ofLine_bullet_of_noDigit hc gap (not_isBlank_of_isBullet hd)
        (not_isDecimalDigit_of_isBullet hd) _
    | number marker gap' =>
      rw [Lead.text, List.append_assoc]
      refine ofLine_bullet_number hc gap marker (gap'.noDigit _) ?_
      rw [gap'.beginsSubNumber_iff]
      exact not_beginsSubNumber_leads leads own hrest

/-- The first number of a line is read if it is not hidden. -/
theorem ofLine_leads (leads : List Lead) (own : NumberMarker) (hrest : NoDigit rest)
    (hsub : ¬BeginsSubNumber rest) :
    ofLine (leads.flatMap Lead.text ++ (own.text ++ rest))
      = if isShallow (front leads) then (firstMarker leads own).ordinal else missing := by
  induction leads with
  | nil => exact ofLine_number own hrest hsub
  | cons lead leads ih =>
    rw [List.flatMap_cons, List.append_assoc]
    cases lead with
    | free c hc =>
      rw [front, isShallow, firstMarker, ← ih, ofLine, ofLine]
      simp only [Lead.text, List.singleton_append, marker?_of_free hc]
    | bullet c hc gap => exact ofLine_bullet hc gap leads own hrest hsub
    | number marker gap =>
      rw [Lead.text, List.append_assoc]
      refine ofLine_number marker (gap.noDigit _) ?_
      rw [gap.beginsSubNumber_iff]
      exact not_beginsSubNumber_leads leads own hrest

/-! ## Lines of a source -/

theorem newline_notMem_of_isBlank {t : Text} (h : ∀ c ∈ t, Text.isBlank c = true) : '\n' ∉ t :=
  fun hmem => absurd (h '\n' hmem) (by decide)

theorem NumberMarker.newline_notMem (m : NumberMarker) : '\n' ∉ m.text := by
  intro hmem
  rcases List.mem_append.mp hmem with hdigit | hdelimiter
  · exact absurd (m.isDigit '\n' hdigit) (by decide)
  · rcases m.isDelimiter with h | h <;> rw [h] at hdelimiter <;> simp at hdelimiter

theorem Lead.newline_notMem (lead : Lead) : '\n' ∉ lead.text := by
  cases lead with
  | free c hc =>
    rintro hmem
    obtain rfl := List.mem_singleton.mp hmem
    exact absurd hc (by decide)
  | bullet c hc gap =>
    rintro hmem
    rcases List.mem_cons.mp hmem with rfl | hmem
    · rcases hc with h | h | h <;> contradiction
    · exact newline_notMem_of_isBlank gap.isBlank hmem
  | number marker gap =>
    intro hmem
    rcases List.mem_append.mp hmem with hmem | hmem
    · exact marker.newline_notMem hmem
    · exact newline_notMem_of_isBlank gap.isBlank hmem

theorem MarkerLine.lineAt?_offset (l : MarkerLine) : lineAt? l.source l.offset = some l.line := by
  have hbefore : '\n' ∉ l.before := by
    intro hmem
    obtain ⟨lead, -, hlead⟩ := List.mem_flatMap.mp hmem
    exact lead.newline_notMem hlead
  have hafter : '\n' ∉ l.after := by
    have hspace : '\n' ≠ ' ' := by decide
    simp [MarkerLine.after, l.own.newline_notMem, hspace, l.newline_notMem]
  exact lineAt?_append l.above_ends hbefore hafter l.below_begins

/-- The number of the line of a marker is the first number on that line, if it is not hidden, and
otherwise none.  So the marker gives the number exactly if the first number is not hidden and has
the same value. -/
theorem ofLine_markerLine (l : MarkerLine) :
    lineAt? l.source l.offset = some l.line
      ∧ ofLine l.line
        = (if isShallow (front l.leads) then (firstMarker l.leads l.own).ordinal else missing)
      ∧ (ofLine l.line = .whole l.own.value
        ↔ isShallow (front l.leads) = true ∧ (firstMarker l.leads l.own).value = l.own.value) := by
  have hblank : Text.isBlank ' ' = true := by decide
  have hread : ofLine l.line
      = if isShallow (front l.leads) then (firstMarker l.leads l.own).ordinal else missing :=
    ofLine_leads l.leads l.own (noDigit_of_isBlank hblank l.text)
      ((beginsSubNumber_cons_iff hblank l.text).not.mpr l.not_beginsSubNumber)
  refine ⟨l.lineAt?_offset, hread, ?_⟩
  rw [hread]
  split
  next hshallow =>
    rw [NumberMarker.ordinal_eq_whole_iff _ (l.own.value_le_maxWhole l.length_le)]
    simp [hshallow]
  next hhidden => simp [hhidden]

/-- Two bullets hide the number `3`. -/
theorem ofLine_behindTwoBullets :
    let gap : Gap := ⟨[' '], List.cons_ne_nil _ _, by simp [Text.isBlank]⟩
    let bullet : Lead := .bullet '-' (.inl rfl) gap
    let own : NumberMarker := ⟨['3'], '.', List.cons_ne_nil _ _, by simp, .inl rfl⟩
    let l : MarkerLine := ⟨[], [bullet, bullet], own, "three", ['\n'], by simp, by simp,
      by simp [own], by simp, not_beginsSubNumber_of_noDigit (by decide) (by decide) _⟩
    l.source = "- - 3. three\n".toList ∧ l.offset = 4 ∧ l.own.value = 3
      ∧ (lineAt? l.source l.offset).map ofLine = some missing := by
  decide

end Weave.Ordinal
