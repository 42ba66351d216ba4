import Weave.Proofs.Enumeration.ItemText
import Weave.Proofs.Text.Numeral
import Weave.Proofs.Text.Trim

/-!
# The number of a line

`ofLine` looks for a number behind the indentation of a line and one bullet.  The lemmas here say
what it reads of a line that is given by its parts.

* `dottedGroups_groups` and `dotted_groups`: groups of digits are read as they stand, up to a
  character that is no digit, and so is a number in front of a delimiter (`dotted_joinGroups`).
* `closeNumber?` is the end of a marker: a delimiter, or the dot in front of the last group.  A
  number with a dot behind it is read to its end unless it goes on there
  (`exists_closeNumber?_dotted`, `ofLine_dotted_iff`).
* `marker?_of_free`, `marker?_of_isDecimalDigit` and `marker?_bullet` lead to the number that a line
  begins with, and `marker?_eq_none` says where there is none.
* `lineAt?_append` and `lineAt?_behind_newline` are the line around an offset.
-/

namespace Weave

namespace Ordinal

/-! ## Groups of digits -/

/-- Whether a text does not go on with a decimal digit. -/
def NoDigit (t : Text) : Prop := ∀ c ∈ t.head?, Text.isDecimalDigit c = false

theorem noDigit_cons_iff {c : Char} {t : Text} :
    NoDigit (c :: t) ↔ Text.isDecimalDigit c = false := by
  simp [NoDigit]

theorem noDigit_of_isSpace {t : Text} (h : ∀ c ∈ t.head?, Text.isSpace c = true) : NoDigit t :=
  fun c hc => Text.isDecimalDigit_eq_false_of_isSpace (h c hc)

theorem noDigit_dot (t : Text) : NoDigit ('.' :: t) := noDigit_cons_iff.mpr (by decide)

theorem digits_of_noDigit {t : Text} (h : NoDigit t) : digits t = ([], t) := by
  cases t with
  | nil => rfl
  | cons c t =>
    simp [digits, noDigit_cons_iff.mp h]

theorem digits_group {g t : Text} (hg : IsDigitGroup g) (ht : NoDigit t) :
    digits (g ++ t) = (g, t) := by
  have hrest := digits_of_noDigit ht
  simp only [digits, Prod.mk.injEq] at hrest
  rw [digits, List.takeWhile_append_of_pos hg.2, List.dropWhile_append_of_pos hg.2, hrest.1,
    hrest.2, List.append_nil]

/-- A text that goes on with a digit goes on with a whole group. -/
theorem exists_group {t : Text} (h : ¬NoDigit t) :
    ∃ g rest, t = g ++ rest ∧ IsDigitGroup g ∧ NoDigit rest := by
  have happend := digits_append t
  refine ⟨(digits t).1, (digits t).2, happend.symm, isDigitGroup_digits ?_, ?_⟩
  · cases t with
    | nil => exact absurd (fun c hc => nomatch hc) h
    | cons c t =>
      have hc : Text.isDecimalDigit c = true := by simpa [noDigit_cons_iff] using h
      simp [digits, hc]
  · intro c hc
    have hnot := List.head?_dropWhile_not Text.isDecimalDigit t
    rw [show (t.dropWhile Text.isDecimalDigit).head? = some c from hc] at hnot
    simpa using hnot

theorem dottedGroups_of_not_dot {t : Text} (h : t.head? ≠ some '.') (fuel : Nat) :
    dottedGroups fuel t = ([], t) := by
  cases fuel with
  | zero => rfl
  | succ fuel =>
    unfold dottedGroups
    split
    · exact absurd rfl h
    · rfl

/-- A dot without a digit behind it is no part of a number. -/
theorem dottedGroups_of_noDigit {t : Text} (h : NoDigit t) (fuel : Nat) :
    dottedGroups fuel ('.' :: t) = ([], '.' :: t) := by
  cases fuel with
  | zero => rfl
  | succ fuel =>
    rw [dottedGroups, digits_of_noDigit h]
    rfl

theorem dottedGroups_group {g t : Text} (hg : IsDigitGroup g) (ht : NoDigit t) (fuel : Nat) :
    dottedGroups (fuel + 1) ('.' :: (g ++ t))
      = (g :: (dottedGroups fuel t).1, (dottedGroups fuel t).2) := by
  have hne : g.isEmpty = false := List.isEmpty_eq_false_iff.mpr hg.1
  rw [dottedGroups, digits_group hg ht]
  simp only [hne, Bool.false_eq_true, if_false]

theorem noDigit_flatMap {t : Text} (ht : NoDigit t) (gs : List Text) :
    NoDigit (gs.flatMap ('.' :: ·) ++ t) := by
  cases gs with
  | nil => exact ht
  | cons g gs => exact noDigit_dot _

theorem dottedGroups_groups {gs : List Text} {t : Text} (hgs : ∀ g ∈ gs, IsDigitGroup g)
    (ht : NoDigit t) (fuel : Nat) :
    dottedGroups (gs.length + fuel) (gs.flatMap ('.' :: ·) ++ t)
      = (gs ++ (dottedGroups fuel t).1, (dottedGroups fuel t).2) := by
  induction gs with
  | nil => simp
  | cons g gs ih =>
    rw [List.forall_mem_cons] at hgs
    have hfuel : (g :: gs).length + fuel = gs.length + fuel + 1 := by
      rw [List.length_cons]
      omega
    rw [hfuel, List.flatMap_cons, List.append_assoc, List.cons_append,
      dottedGroups_group hgs.1 (noDigit_flatMap ht gs), ih hgs.2]
    rfl

/-- A dotted number is read with all groups that stand behind it. -/
theorem dotted_groups {g : Text} {gs : List Text} {t : Text} (hg : IsDigitGroup g)
    (hgs : ∀ g ∈ gs, IsDigitGroup g) (ht : NoDigit t) :
    ∃ fuel, t.length ≤ fuel ∧ dotted (joinGroups (g :: gs) ++ t)
      = (g :: (gs ++ (dottedGroups fuel t).1), (dottedGroups fuel t).2) := by
  have hne : g.isEmpty = false := List.isEmpty_eq_false_iff.mpr hg.1
  have hlength : ∀ gs : List Text, gs.length ≤ (gs.flatMap ('.' :: ·)).length := by
    intro gs
    induction gs with
    | nil => exact Nat.le_refl 0
    | cons g gs ih =>
      rw [List.flatMap_cons, List.length_append, List.length_cons, List.length_cons]
      omega
  obtain ⟨fuel, hfuel⟩ := Nat.exists_eq_add_of_le (hlength gs)
  refine ⟨fuel + t.length, Nat.le_add_left _ _, ?_⟩
  have hread := dottedGroups_groups hgs ht (fuel + t.length)
  rw [← Nat.add_assoc, ← hfuel, ← List.length_append] at hread
  rw [dotted, joinGroups_cons, List.append_assoc, digits_group hg (noDigit_flatMap ht gs)]
  simp only [hne, Bool.false_eq_true, if_false, hread]

/-- A dotted number begins with a digit. -/
theorem exists_joinGroups_eq_cons {groups : List Text} (hne : groups ≠ [])
    (hgroups : ∀ g ∈ groups, IsDigitGroup g) :
    ∃ d t, joinGroups groups = d :: t ∧ Text.isDecimalDigit d = true := by
  obtain ⟨g, gs, rfl⟩ := List.exists_cons_of_ne_nil hne
  rw [List.forall_mem_cons] at hgroups
  obtain ⟨d, g, rfl⟩ := List.exists_cons_of_ne_nil hgroups.1.1
  rw [joinGroups_cons]
  exact ⟨d, _, rfl, hgroups.1.2 d List.mem_cons_self⟩

/-- Without a digit there is no number. -/
theorem dotted_of_noDigit {t : Text} (h : NoDigit t) : dotted t = ([], t) := by
  rw [dotted, digits_of_noDigit h]
  rfl

/-! ## The end of a marker -/

/-- Whether a character ends the number of a marker. -/
def IsDelimiter (c : Char) : Prop := c = '.' ∨ c = ')'

theorem IsDelimiter.not_isDecimalDigit {c : Char} (h : IsDelimiter c) :
    Text.isDecimalDigit c = false := by
  rcases h with rfl | rfl <;> decide

theorem IsDelimiter.noDigit {c : Char} (h : IsDelimiter c) (t : Text) : NoDigit (c :: t) :=
  noDigit_cons_iff.mpr h.not_isDecimalDigit

/-- In front of a delimiter a dotted number is read to its end, unless a digit follows. -/
theorem dotted_joinGroups {groups : List Text} (hne : groups ≠ [])
    (hgroups : ∀ g ∈ groups, IsDigitGroup g) {c : Char} (hc : IsDelimiter c) {rest : Text}
    (hrest : NoDigit rest) : dotted (joinGroups groups ++ c :: rest) = (groups, c :: rest) := by
  have hstop : ∀ fuel, dottedGroups fuel (c :: rest) = ([], c :: rest) := by
    intro fuel
    rcases hc with rfl | rfl
    · rw [dottedGroups_of_noDigit hrest]
    · exact dottedGroups_of_not_dot (by simp) fuel
  obtain ⟨g, gs, rfl⟩ := List.exists_cons_of_ne_nil hne
  rw [List.forall_mem_cons] at hgroups
  obtain ⟨fuel, -, hdotted⟩ := dotted_groups hgroups.1 hgroups.2 (hc.noDigit rest)
  rw [hdotted, hstop, List.append_nil]

/-- The groups of a marker and what follows it, when these groups have been read and this text is
left: a delimiter follows, or the dot in front of the last group is the delimiter. -/
def closeNumber? (groups : List Text) (rest : Text) : Option (List Text × Text) :=
  if groups.isEmpty then none
  else if rest.head? = some '.' ∨ rest.head? = some ')' then some (groups, rest.drop 1)
  else
    match groups.getLast?, groups.dropLast with
    | some last, first :: shorter => some (first :: shorter, last ++ rest)
    | _, _ => none

theorem closeNumber?_delimiter {c : Char} (hc : IsDelimiter c) {groups : List Text}
    (hgroups : groups ≠ []) (rest : Text) :
    closeNumber? groups (c :: rest) = some (groups, rest) := by
  have hne : groups.isEmpty = false := List.isEmpty_eq_false_iff.mpr hgroups
  have hhead : (c :: rest).head? = some '.' ∨ (c :: rest).head? = some ')' := by
    rcases hc with rfl | rfl
    · exact .inl rfl
    · exact .inr rfl
  rw [closeNumber?, hne, if_neg Bool.false_ne_true, if_pos hhead]
  rfl

theorem closeNumber?_concat {rest : Text} (hrest : ∀ c ∈ rest.head?, ¬IsDelimiter c)
    {groups : List Text} (hgroups : groups ≠ []) (last : Text) :
    closeNumber? (groups ++ [last]) rest = some (groups, last ++ rest) := by
  obtain ⟨first, shorter, rfl⟩ := List.exists_cons_of_ne_nil hgroups
  have hdelimiter : ¬(rest.head? = some '.' ∨ rest.head? = some ')') := by
    rintro (h | h)
    · exact hrest '.' h (.inl rfl)
    · exact hrest ')' h (.inr rfl)
  have hne : (first :: shorter ++ [last]).isEmpty = false := rfl
  rw [closeNumber?, hne, if_neg Bool.false_ne_true, if_neg hdelimiter, List.getLast?_concat,
    List.dropLast_concat]

/-- At most the last group does not belong to a marker. -/
theorem closeNumber?_concat_cases {groups : List Text} (hgroups : groups ≠ []) (last rest : Text) :
    (∃ after, closeNumber? (groups ++ [last]) rest = some (groups ++ [last], after))
      ∨ (closeNumber? (groups ++ [last]) rest = some (groups, last ++ rest)
        ∧ ∀ c ∈ rest.head?, ¬IsDelimiter c) := by
  by_cases h : ∀ c ∈ rest.head?, ¬IsDelimiter c
  · exact .inr ⟨closeNumber?_concat h hgroups last, h⟩
  · push Not at h
    obtain ⟨c, hhead, hc⟩ := h
    obtain ⟨rest, rfl⟩ := List.head?_eq_some_iff.mp hhead
    exact .inl ⟨rest, closeNumber?_delimiter hc (List.concat_ne_nil last groups) rest⟩

/-- Whether a number that ends at a dot goes on behind it, with a group and a delimiter. -/
def GoesOn (rest : Text) : Prop :=
  ∃ g c more, rest = g ++ c :: more ∧ IsDigitGroup g ∧ IsDelimiter c

theorem not_goesOn_of_noDigit {rest : Text} (h : NoDigit rest) : ¬GoesOn rest := by
  rintro ⟨g, c, more, rfl, ⟨hne, hdigit⟩, -⟩
  obtain ⟨d, g, rfl⟩ := List.exists_cons_of_ne_nil hne
  have hd := hdigit d List.mem_cons_self
  rw [h d rfl] at hd
  contradiction

theorem goesOn_append_iff {g t : Text} (hg : IsDigitGroup g) (ht : NoDigit t) :
    GoesOn (g ++ t) ↔ ∃ c ∈ t.head?, IsDelimiter c := by
  constructor
  · rintro ⟨g', c, more, heq, hg', hc⟩
    have hcut := digits_group hg ht
    rw [heq, digits_group hg' (hc.noDigit more)] at hcut
    obtain rfl := (Prod.mk.inj hcut).2
    exact ⟨c, rfl, hc⟩
  · rintro ⟨c, hhead, hc⟩
    obtain ⟨more, rfl⟩ := List.head?_eq_some_iff.mp hhead
    exact ⟨g, c, more, rfl, hg, hc⟩

/-- The groups in front of a delimiter belong to the marker, whatever is read behind it. -/
theorem exists_closeNumber?_groups {groups : List Text} (hgroups : groups ≠ []) {t : Text}
    (ht : ∃ c ∈ t.head?, IsDelimiter c) (fuel : Nat) :
    ∃ more after, closeNumber? (groups ++ (dottedGroups fuel t).1) (dottedGroups fuel t).2
      = some (groups ++ more, after) := by
  rcases List.eq_nil_or_concat (dottedGroups fuel t).1 with hlater | ⟨later, last, hlater⟩
  · have hleft := (dottedGroups_append fuel t).1
    rw [hlater, List.flatMap_nil, List.nil_append] at hleft
    obtain ⟨c, hhead, hc⟩ := ht
    obtain ⟨more, rfl⟩ := List.head?_eq_some_iff.mp hhead
    rw [hlater, hleft, List.append_nil]
    exact ⟨[], more, by rw [closeNumber?_delimiter hc hgroups, List.append_nil]⟩
  · have hne : groups ++ later ≠ [] := List.append_ne_nil_of_left_ne_nil hgroups later
    rw [hlater, List.concat_eq_append, ← List.append_assoc]
    rcases closeNumber?_concat_cases hne last (dottedGroups fuel t).2 with ⟨after, h⟩ | ⟨h, -⟩
    · exact ⟨later ++ [last], after, by rw [h, List.append_assoc]⟩
    · exact ⟨later, _, h⟩

/-- A number with a dot behind it is read to its end unless it goes on. -/
theorem exists_closeNumber?_dotted {g : Text} {gs : List Text} (hg : IsDigitGroup g)
    (hgs : ∀ g ∈ gs, IsDigitGroup g) (rest : Text) :
    ∃ more after, closeNumber? (dotted (joinGroups (g :: gs) ++ '.' :: rest)).1
        (dotted (joinGroups (g :: gs) ++ '.' :: rest)).2 = some (g :: (gs ++ more), after)
      ∧ (more = [] ↔ ¬GoesOn rest) := by
  obtain ⟨fuel, hfuel, hread⟩ := dotted_groups hg hgs (noDigit_dot rest)
  rw [hread]
  by_cases hrest : NoDigit rest
  · rw [dottedGroups_of_noDigit hrest]
    exact ⟨[], rest, closeNumber?_delimiter (.inl rfl) (List.cons_ne_nil _ _) rest,
      iff_of_true rfl (not_goesOn_of_noDigit hrest)⟩
  · obtain ⟨h, t, rfl, hh, ht⟩ := exists_group hrest
    rw [goesOn_append_iff hh ht]
    obtain ⟨fuel, rfl⟩ := Nat.exists_eq_add_of_le' (Nat.le_trans (Nat.succ_pos _) hfuel)
    rw [dottedGroups_group hh ht]
    by_cases hdelimiter : ∃ c ∈ t.head?, IsDelimiter c
    · have hne : g :: (gs ++ [h]) ≠ [] := List.cons_ne_nil _ _
      obtain ⟨more, after, hclose⟩ := exists_closeNumber?_groups hne hdelimiter fuel
      rw [List.cons_append, List.append_assoc, List.singleton_append, List.cons_append,
        List.append_assoc] at hclose
      exact ⟨h :: more, after, hclose,
        iff_of_false (List.cons_ne_nil h more) (not_not_intro hdelimiter)⟩
    · have hnot : ∀ c ∈ t.head?, ¬IsDelimiter c := fun c hc hdel => hdelimiter ⟨c, hc, hdel⟩
      rw [dottedGroups_of_not_dot fun hdot => hnot '.' hdot (.inl rfl)]
      exact ⟨[], h ++ t, by simpa using closeNumber?_concat hnot (List.cons_ne_nil g gs) h,
        iff_of_true rfl hdelimiter⟩

/-! ## The number that a line begins with -/

/-- Whether a character may stand anywhere in the indentation of a line. -/
def isFree (c : Char) : Bool := Text.isBlank c || c == '>'

/-- Whether a character is a bullet. -/
def IsBullet (c : Char) : Prop := c = '-' ∨ c = '*' ∨ c = '+'

theorem marker?_eq (line : Text) :
    marker? line = closeNumber?
      (dotted (afterBullet (line.dropWhile isFree))).1
      (dotted (afterBullet (line.dropWhile isFree))).2 := rfl

theorem marker?_of_free {c : Char} (hc : isFree c = true) (line : Text) :
    marker? (c :: line) = marker? line := by
  rw [marker?_eq, marker?_eq, List.dropWhile_cons_of_pos hc]

theorem marker?_of_forall_free {indent : Text} (h : ∀ c ∈ indent, isFree c = true) (line : Text) :
    marker? (indent ++ line) = marker? line := by
  induction indent with
  | nil => rfl
  | cons c indent ih =>
    rw [List.forall_mem_cons] at h
    rw [List.cons_append, marker?_of_free h.1, ih h.2]

theorem afterBullet_of_not_isBullet {c : Char} (hc : ¬IsBullet c) (t : Text) :
    afterBullet (c :: t) = c :: t :=
  if_neg fun h => hc h.1

theorem not_isFree_of_isDecimalDigit {c : Char} (h : Text.isDecimalDigit c = true) :
    ¬isFree c = true := by
  intro hfree
  simp only [isFree, Text.isBlank, Bool.or_eq_true, beq_iff_eq] at hfree
  rcases hfree with (rfl | rfl) | rfl <;> exact absurd h (by decide)

theorem isBlank_eq_false_of_isDecimalDigit {c : Char} (h : Text.isDecimalDigit c = true) :
    Text.isBlank c = false := by
  have hfree := not_isFree_of_isDecimalDigit h
  simp only [isFree, Bool.or_eq_true, not_or, Bool.not_eq_true] at hfree
  exact hfree.1

theorem not_isBullet_of_isDecimalDigit {c : Char} (h : Text.isDecimalDigit c = true) :
    ¬IsBullet c := by
  rintro (rfl | rfl | rfl) <;> exact absurd h (by decide)

/-- A number at the start of a line is its number. -/
theorem marker?_of_isDecimalDigit {c : Char} (h : Text.isDecimalDigit c = true) (t : Text) :
    marker? (c :: t) = closeNumber? (dotted (c :: t)).1 (dotted (c :: t)).2 := by
  rw [marker?_eq, List.dropWhile_cons_of_neg (not_isFree_of_isDecimalDigit h),
    afterBullet_of_not_isBullet (not_isBullet_of_isDecimalDigit h)]

/-- A bullet with blanks behind it is passed over. -/
theorem marker?_bullet {c : Char} (hc : IsBullet c) {gap t : Text} (hgap : gap ≠ [])
    (hblank : ∀ b ∈ gap, Text.isBlank b = true) (ht : ∀ b ∈ t.head?, Text.isBlank b = false) :
    marker? (c :: (gap ++ t)) = closeNumber? (dotted t).1 (dotted t).2 := by
  have hfree : ¬isFree c = true := by
    rcases hc with rfl | rfl | rfl <;> decide
  obtain ⟨b, gap, rfl⟩ := List.exists_cons_of_ne_nil hgap
  have hhead : (b :: gap ++ t).head?.any Text.isBlank = true := hblank b List.mem_cons_self
  have htail : t.dropWhile Text.isBlank = t := by
    cases t with
    | nil => rfl
    | cons d t => exact List.dropWhile_cons_of_neg (by simp [ht d rfl])
  have hafter : afterBullet (c :: (b :: gap ++ t)) = t := by
    rw [afterBullet, if_pos ⟨hc, hhead⟩, List.dropWhile_append_of_pos hblank, htail]
  rw [marker?_eq, List.dropWhile_cons_of_neg hfree, hafter]

/-- Behind a bullet nothing but a number is read. -/
theorem marker?_bullet_of_noDigit {c : Char} (hc : IsBullet c) {gap t : Text} (hgap : gap ≠ [])
    (hblank : ∀ b ∈ gap, Text.isBlank b = true) (ht : ∀ b ∈ t.head?, Text.isBlank b = false)
    (hdigit : NoDigit t) : marker? (c :: (gap ++ t)) = none := by
  rw [marker?_bullet hc hgap hblank ht, dotted_of_noDigit hdigit]
  rfl

/-- A line that begins with another character has no number. -/
theorem marker?_eq_none {c : Char} (hfree : ¬isFree c = true) (hbullet : ¬IsBullet c)
    (hdigit : Text.isDecimalDigit c = false) (t : Text) : marker? (c :: t) = none := by
  rw [marker?_eq, List.dropWhile_cons_of_neg hfree, afterBullet_of_not_isBullet hbullet,
    dotted_of_noDigit (noDigit_cons_iff.mpr hdigit)]
  rfl

/-- At white space that is no blank a line is left without a number. -/
theorem marker?_of_not_blank {indent : Text} (hindent : indent.isAllSpace = true)
    (h : ¬∀ c ∈ indent, Text.isBlank c = true) (line : Text) : marker? (indent ++ line) = none := by
  induction indent with
  | nil => exact absurd (fun c hc => nomatch hc) h
  | cons c indent ih =>
    have hspaces := Text.isAllSpace_eq_true_iff.mp hindent
    rw [List.forall_mem_cons] at hspaces h
    by_cases hc : Text.isBlank c = true
    · rw [List.cons_append, marker?_of_free (Bool.or_eq_true_iff.mpr (.inl hc))]
      exact ih (Text.isAllSpace_eq_true_iff.mpr hspaces.2) fun hblank => h ⟨hc, hblank⟩
    · have hfree : ¬isFree c = true := by
        intro hfree
        rcases Bool.or_eq_true_iff.mp hfree with hblank | hquote
        · exact hc hblank
        · obtain rfl := beq_iff_eq.mp hquote
          exact absurd hspaces.1 (by decide)
      have hbullet : ¬IsBullet c := by
        rintro (rfl | rfl | rfl) <;> exact absurd hspaces.1 (by decide)
      exact marker?_eq_none hfree hbullet (Text.isDecimalDigit_eq_false_of_isSpace hspaces.1) _

/-! ## The ordinal of a line -/

variable {line rest : Text} {groups : List Text}

theorem ofLine_of_marker?_none (h : marker? line = none) : ofLine line = missing := by
  rw [ofLine, h]

/-- A dotted number behind a marker of one group is preferred. -/
theorem ofLine_of_group {g : Text} (h : marker? line = some ([g], rest)) :
    ofLine line = ((subNumber? rest).map .decimal).getD (ofGroup g) := by
  rw [ofLine, h]
  dsimp only
  cases subNumber? rest <;> rfl

theorem ofLine_of_one_group {g : Text} (h : marker? line = some ([g], rest))
    (hsub : subNumber? rest = none) : ofLine line = ofGroup g := by
  rw [ofLine_of_group h, hsub]
  rfl

theorem ofLine_of_two_groups (h : marker? line = some (groups, rest)) (htwo : 2 ≤ groups.length) :
    ofLine line = decimal (joinGroups groups) := by
  rw [ofLine, h]
  dsimp only
  split
  · contradiction
  · rfl

/-- A line that begins, behind white space, with a dotted number and a dot has this number exactly
if the white space is blanks and the number does not go on. -/
theorem ofLine_dotted_iff {indent g : Text} {gs : List Text} (hindent : indent.isAllSpace = true)
    (hg : IsDigitGroup g) (hgs : ∀ g ∈ gs, IsDigitGroup g) (hne : gs ≠ []) (rest : Text) :
    ofLine (indent ++ (joinGroups (g :: gs) ++ '.' :: rest)) = decimal (joinGroups (g :: gs))
      ↔ (∀ c ∈ indent, Text.isBlank c = true) ∧ ¬GoesOn rest := by
  by_cases hblank : ∀ c ∈ indent, Text.isBlank c = true
  · obtain ⟨more, after, hclose, hmore⟩ := exists_closeNumber?_dotted hg hgs rest
    have hmarker : marker? (indent ++ (joinGroups (g :: gs) ++ '.' :: rest))
        = some (g :: (gs ++ more), after) := by
      rw [marker?_of_forall_free fun c hc => Bool.or_eq_true_iff.mpr (.inl (hblank c hc)), ← hclose]
      obtain ⟨d, g, rfl⟩ := List.exists_cons_of_ne_nil hg.1
      rw [joinGroups_cons]
      exact marker?_of_isDecimalDigit (hg.2 d List.mem_cons_self) _
    have htwo : 2 ≤ (g :: (gs ++ more)).length := by
      have hpos := List.length_pos_of_ne_nil hne
      rw [List.length_cons, List.length_append]
      omega
    rw [ofLine_of_two_groups hmarker htwo, ← hmore, iff_true_intro hblank, true_and,
      Ordinal.decimal.injEq, joinGroups_cons, joinGroups_cons, List.flatMap_append,
      ← List.append_assoc, List.append_right_eq_self, List.flatMap_eq_nil_iff]
    exact ⟨fun h => List.eq_nil_iff_forall_not_mem.mpr fun g hg => List.cons_ne_nil _ _ (h g hg),
      fun h => h ▸ nofun⟩
  · rw [ofLine_of_marker?_none (marker?_of_not_blank hindent hblank _)]
    exact iff_of_false nofun fun h => hblank h.1

end Ordinal

/-! ## Lines of a source -/

/-- The line around an offset reaches from a line end to the next one. -/
theorem lineAt?_append {above before after below : Text}
    (habove : ∀ c ∈ above.getLast?, c = '\n') (hbefore : '\n' ∉ before) (hafter : '\n' ∉ after)
    (hbelow : ∀ c ∈ below.head?, c = '\n') :
    lineAt? (above ++ before ++ (after ++ below)) (Text.byteLength (above ++ before))
      = some (before ++ after) := by
  have hle : Text.byteLength (above ++ before)
      ≤ Text.byteLength (above ++ before ++ (after ++ below)) := by
    rw [Text.byteLength_append (above ++ before)]
    omega
  have hnewline : ∀ {t : Text}, '\n' ∉ t → ∀ c ∈ t, (c != '\n') = true := by
    intro t ht c hc
    simpa using fun heq : c = '\n' => ht (heq ▸ hc)
  have hstop : ∀ {t : Text}, (∀ c ∈ t.head?, c = '\n') → t.takeWhile (· != '\n') = [] := by
    intro t ht
    cases t with
    | nil => rfl
    | cons c t => simp [ht c rfl]
  have hleft : ((above ++ before).reverse.takeWhile (· != '\n')).reverse = before := by
    rw [List.reverse_append, List.takeWhile_append_of_pos, hstop, List.append_nil,
      List.reverse_reverse]
    · simpa using habove
    · exact hnewline (by simpa using hbefore)
  have hright : (after ++ below).takeWhile (· != '\n') = after := by
    rw [List.takeWhile_append_of_pos (hnewline hafter), hstop hbelow, List.append_nil]
  rw [lineAt?, Nat.min_eq_left hle, Text.splitAtByte?_append, Option.map_some]
  dsimp only
  rw [hleft, hright]

/-- The line behind a newline reaches to the next one. -/
theorem lineAt?_behind_newline (body t : Text) :
    lineAt? (body ++ ['\n'] ++ t) (Text.byteLength (body ++ ['\n']))
      = some (t.takeWhile (· != '\n')) := by
  have hle : Text.byteLength (body ++ ['\n']) ≤ Text.byteLength (body ++ ['\n'] ++ t) := by
    rw [Text.byteLength_append (body ++ ['\n'])]
    omega
  rw [lineAt?, Nat.min_eq_left hle, Text.splitAtByte?_append, Option.map_some]
  simp

end Weave
