import Weave.Proofs.Symbol.FunctionHeader

/-!
# Parameters as they are written

A parameter is written with stars, a name, a type and a default value, and with white space around
each of these (`WrittenParameter`).  Its parts are read one by one: what stands in front of the
default value (`splitDefault_core`), the type in it (`splitType_declaration`), and the name with its
stars, which loses them but not the white space behind them (`dropWhile_starred`).  Taken together
they are the parameter under its recorded name (`parameter?_text`).
-/

namespace Weave

open Nesting

/-! ## Written form -/

/-- White space between two words, or nothing. -/
structure Padding where
  text : Text
  isAllSpace : text.isAllSpace = true

structure Identifier where
  text : Text
  isIdentifier : IsIdentifier text

/-- A type or a value with its white space in normal form.  The banned characters stand in strings
and brackets only. -/
structure Expression (banned : List Char) where
  text : Text
  normal : Signature.normalizeSpace text = text
  closed : Closed banned text

/-- What a mark announces, with the white space around the mark. -/
structure Clause (banned : List Char) where
  before : Padding
  after : Padding
  value : Expression banned

namespace Clause

variable {banned : List Char}

/-- A mark with what it announces, if it is there. -/
def written (mark : Text) : Option (Clause banned) → Text
  | none => []
  | some c => c.before.text ++ (mark ++ (c.after.text ++ c.value.text))

end Clause

/-- The stars in front of a name, with the white space behind them. -/
inductive Stars where
  | absent
  | single (gap : Padding)
  | double (gap : Padding)

namespace Stars

def gap : Stars → Text
  | absent => []
  | single gap => gap.text
  | double gap => gap.text

def text : Stars → Text
  | absent => []
  | single gap => '*' :: gap.text
  | double gap => '*' :: '*' :: gap.text

end Stars

/-- The names under which a method has its object in the first place. -/
def isReceiver (name : Text) : Bool := name = "self" ∨ name = "cls"

/-- A parameter between two commas. -/
structure WrittenParameter where
  before : Padding
  stars : Stars
  identifier : Identifier
  annotation : Option (Clause [',', '=', ':'])
  value : Option (Clause [','])
  after : Padding

namespace WrittenParameter

variable (p : WrittenParameter)

/-- The name with its stars. -/
def starred : Text := p.stars.text ++ p.identifier.text

/-- What stands in front of a default value. -/
def declaration : Text := p.starred ++ Clause.written ":" p.annotation

/-- A parameter without the white space around it. -/
def core : Text := p.declaration ++ Clause.written "=" p.value

def text : Text := p.before.text ++ (p.core ++ p.after.text)

def name : Text := p.identifier.text

/-- The name that is read back. -/
def recordedName : Text := p.stars.gap ++ p.identifier.text

def type : Text :=
  match p.annotation with
  | none => []
  | some annotation => annotation.value.text

def defaultValue : Option Text := p.value.map fun value => value.value.text

/-- The parameter under a name. -/
def toParameter (name : Text) : Parameter := ⟨name, p.type, [], p.defaultValue⟩

end WrittenParameter

/-! ## White space around types and values -/

namespace Signature

theorem normalizeSpace_of_words_eq {t u : Text} (h : t.words = u.words) :
    normalizeSpace t = normalizeSpace u := by
  unfold normalizeSpace
  rw [h]

theorem normalizeSpace_trimEnd (t : Text) : normalizeSpace t.trimEnd = normalizeSpace t :=
  normalizeSpace_of_words_eq (Text.words_trimEnd t)

/-- White space around an expression is not read. -/
theorem normalizeSpace_padded {banned : List Char} (before : Padding) (e : Expression banned)
    {w : Text} (hw : w.isAllSpace = true) :
    normalizeSpace (before.text ++ (e.text ++ w)) = e.text := by
  have hwords : (before.text ++ (e.text ++ w)).words = e.text.words := by
    rw [Text.words_append_of_isAllSpace before.isAllSpace, Text.words_append_isAllSpace hw]
  rw [normalizeSpace_of_words_eq hwords, e.normal]

theorem normalizeSpace_trimEnd_padded {banned : List Char} (before : Padding)
    (e : Expression banned) : normalizeSpace (Text.trimEnd (before.text ++ e.text)) = e.text := by
  have hpadded := normalizeSpace_padded before e (w := []) rfl
  rw [List.append_nil] at hpadded
  rw [normalizeSpace_trimEnd, hpadded]

theorem splitType_trimEnd (t : Text) : splitType t.trimEnd = splitType t := by
  unfold splitType
  rw [splitTop?_trimEnd (by decide)]
  cases Nesting.outside.splitTop? ':' t with
  | none =>
      dsimp only [Option.map_none]
      rw [Text.trim_trimEnd]
  | some parts =>
      dsimp only [Option.map_some]
      rw [normalizeSpace_trimEnd]

end Signature

/-! ## The text of a parameter -/

theorem Padding.closed {banned : List Char} (w : Padding) (hbanned : banned ⊆ separators) :
    Closed banned w.text :=
  .of_isAllSpace hbanned w.isAllSpace

/-- A clause is closed if its mark is. -/
theorem Clause.closed_written {banned fewer : List Char} {mark : Text}
    (clause : Option (Clause banned)) (hfewer : fewer ⊆ banned) (hseparators : fewer ⊆ separators)
    (hmark : Closed fewer mark) : Closed fewer (Clause.written mark clause) := by
  cases clause with
  | none => exact .nil
  | some c =>
      have hvalue : Closed fewer c.value.text := c.value.closed.mono hfewer
      exact (c.before.closed hseparators).append
        (hmark.append ((c.after.closed hseparators).append hvalue))

namespace Stars

/-- Stars leave the code closed. -/
theorem closed_text {banned : List Char} (stars : Stars) (hbanned : banned ⊆ separators) :
    Closed banned stars.text := by
  have hstar : '*' ∉ banned := fun hmem => absurd (hbanned hmem) (by decide)
  cases stars with
  | absent => exact .nil
  | single gap => exact .plain (by decide) hstar (gap.closed hbanned)
  | double gap => exact .plain (by decide) hstar (.plain (by decide) hstar (gap.closed hbanned))

theorem isAllSpace_gap (stars : Stars) : stars.gap.isAllSpace = true := by
  cases stars with
  | absent => rfl
  | single gap => exact gap.isAllSpace
  | double gap => exact gap.isAllSpace

end Stars

namespace WrittenParameter

variable {p : WrittenParameter} {banned : List Char}

/-- The white space behind the stars is not taken off with them. -/
theorem dropWhile_starred (p : WrittenParameter) :
    p.starred.dropWhile (· == '*') = p.recordedName := by
  have hstay : p.recordedName.dropWhile (· == '*') = p.recordedName := by
    have hfree : ∀ c ∈ p.recordedName, (c == '*') = false := by
      intro c hc
      have hmark : c ∉ headerMarks := by
        rcases List.mem_append.mp hc with hgap | hname
        · exact notMem_headerMarks_of_isSpace
            (Text.isAllSpace_eq_true_iff.mp p.stars.isAllSpace_gap c hgap)
        · exact p.identifier.isIdentifier.noMark c hname
      rw [beq_eq_false_iff_ne]
      exact fun h => hmark (h ▸ by decide)
    cases hname : p.recordedName with
    | nil => rfl
    | cons c t => rw [List.dropWhile_cons_of_neg (by simp [hfree c (hname ▸ List.mem_cons_self)])]
  have hstars : p.starred.dropWhile (· == '*') = p.recordedName.dropWhile (· == '*') := by
    unfold starred recordedName
    cases p.stars <;> rfl
  rw [hstars, hstay]

/-- A name with its stars has no white space at its start. -/
theorem exists_starred_cons (p : WrittenParameter) :
    ∃ c t, p.starred = c :: t ∧ Text.isSpace c = false := by
  unfold starred
  cases p.stars with
  | absent =>
      obtain ⟨c, t, hname⟩ := List.exists_cons_of_ne_nil p.identifier.isIdentifier.ne_nil
      have hspace := p.identifier.isIdentifier.noSpace c (hname ▸ List.mem_cons_self)
      exact ⟨c, t, hname, hspace⟩
  | single gap => exact ⟨'*', _, rfl, rfl⟩
  | double gap => exact ⟨'*', _, rfl, rfl⟩

/-- A name with its stars has no white space at its end. -/
theorem trimEnd_starred (p : WrittenParameter) : p.starred.trimEnd = p.starred := by
  have hname := p.identifier.isIdentifier
  have hlast := hname.noSpace _ (List.getLast_mem hname.ne_nil)
  have hsplit : p.starred
      = p.stars.text ++ p.identifier.text.dropLast ++ [p.identifier.text.getLast hname.ne_nil] := by
    rw [List.append_assoc, List.dropLast_concat_getLast]
    rfl
  unfold Text.trimEnd
  rw [hsplit, Text.trimEndWhile_append_cons _ hlast]
  rfl

theorem closed_starred (p : WrittenParameter) (hbanned : banned ⊆ separators) :
    Closed banned p.starred :=
  (p.stars.closed_text hbanned).append (.of_noMark hbanned p.identifier.isIdentifier.noMark)

/-- The name is read from its stars on up to the white space behind it. -/
theorem dropWhile_trim_starred (p : WrittenParameter) {w : Text} (hw : w.isAllSpace = true) :
    (p.starred ++ w).trim.dropWhile (· == '*') = p.recordedName := by
  obtain ⟨c, t, hstarred, hc⟩ := p.exists_starred_cons
  have htrim : (p.starred ++ w).trim = p.starred.trimEnd := by
    rw [hstarred]
    exact @Text.trim_padded [] w rfl hw c hc t
  rw [htrim, p.trimEnd_starred, p.dropWhile_starred]

/-- The name and the type of a parameter are read from what stands in front of its default value. -/
theorem splitType_declaration (p : WrittenParameter) {w : Text} (hw : w.isAllSpace = true) :
    Signature.splitType (p.declaration ++ w) = (p.recordedName, p.type) := by
  -- The name ends at the colon of a type, or else at the end, with white space behind it.
  have hclosed : ∀ v : Text, v.isAllSpace = true → Closed [':'] (p.starred ++ v) := fun v hv =>
    (p.closed_starred (by decide)).append (.of_isAllSpace (by decide) hv)
  unfold Signature.splitType declaration type
  cases p.annotation with
  | none =>
      have hcut : Nesting.outside.splitTop? ':' (p.starred ++ w) = none :=
        (hclosed w hw).splitTop?_eq_none (by decide) List.mem_cons_self
      rw [Clause.written, List.append_nil, hcut]
      dsimp only
      rw [p.dropWhile_trim_starred hw]
  | some a =>
      have hcut : Nesting.outside.splitTop? ':' (p.starred ++ Clause.written ":" (some a) ++ w)
          = some (p.starred ++ a.before.text, a.after.text ++ (a.value.text ++ w)) := by
        have hbefore := hclosed a.before.text a.before.isAllSpace
        rw [← hbefore.splitTop?_append (by decide) List.mem_cons_self]
        simp [Clause.written]
      rw [hcut]
      dsimp only
      rw [p.dropWhile_trim_starred a.before.isAllSpace, Signature.normalizeSpace_padded _ _ hw]

/-- The default value of a parameter is read behind the first mark of one. -/
theorem splitDefault_core (p : WrittenParameter) :
    ∃ declared, Signature.splitDefault p.core.trimEnd = (declared, p.defaultValue)
      ∧ Signature.splitType declared = (p.recordedName, p.type) := by
  have hclosed : Closed ['='] p.declaration :=
    (p.closed_starred (by decide)).append
      (Clause.closed_written _ (by simp) (by decide) (.plain (by decide) (by decide) .nil))
  unfold core defaultValue Signature.splitDefault
  -- What the trimming takes off is white space at the end of the value, or of the declaration.
  rw [splitTop?_trimEnd (by decide)]
  cases p.value with
  | none =>
      have hcut : Nesting.outside.splitTop? '=' p.declaration = none :=
        hclosed.splitTop?_eq_none (by decide) List.mem_cons_self
      rw [Clause.written, List.append_nil, hcut]
      refine ⟨_, rfl, ?_⟩
      rw [Signature.splitType_trimEnd, ← List.append_nil p.declaration]
      exact p.splitType_declaration rfl
  | some v =>
      have hcut : Nesting.outside.splitTop? '=' (p.declaration ++ Clause.written "=" (some v))
          = some (p.declaration ++ v.before.text, v.after.text ++ v.value.text) := by
        have hbefore : Closed ['='] (p.declaration ++ v.before.text) :=
          hclosed.append (v.before.closed (by decide))
        rw [← hbefore.splitTop?_append (by decide) List.mem_cons_self]
        simp [Clause.written]
      rw [hcut]
      dsimp only [Option.map_some]
      rw [Signature.normalizeSpace_trimEnd_padded]
      exact ⟨_, rfl, p.splitType_declaration v.before.isAllSpace⟩

/-- White space around a parameter is cut off. -/
theorem trim_text (p : WrittenParameter) : p.text.trim = p.core.trimEnd := by
  obtain ⟨c, t, hstarred, hc⟩ := p.exists_starred_cons
  have hcore : p.core
      = c :: (t ++ Clause.written ":" p.annotation ++ Clause.written "=" p.value) := by
    unfold core declaration
    rw [hstarred]
    rfl
  unfold text
  rw [hcore]
  exact Text.trim_padded p.before.isAllSpace p.after.isAllSpace hc _

/-- A parameter is not taken for a marker. -/
theorem exists_mem_core (p : WrittenParameter) : ∃ c ∈ p.core.trimEnd, c ∉ headerMarks := by
  have hname := p.identifier.isIdentifier
  obtain ⟨c, hc⟩ := List.exists_mem_of_ne_nil _ hname.ne_nil
  have hcore : c ∈ p.core := by
    unfold core declaration starred
    simp [hc]
  exact ⟨c, Text.mem_trimEndWhile hcore (hname.noSpace c hc), hname.noMark c hc⟩

theorem toParameter_inj {p : WrittenParameter} {name name' : Text} :
    p.toParameter name = p.toParameter name' ↔ name = name' := by
  simp [toParameter]

theorem recordedName_eq_name_iff (p : WrittenParameter) :
    p.recordedName = p.name ↔ p.stars.gap = [] :=
  List.append_left_eq_self

/-- A name with white space in front of it is not that of a receiver. -/
theorem isReceiver_recordedName (p : WrittenParameter) (hgap : p.stars.gap ≠ []) :
    isReceiver p.recordedName = false := by
  obtain ⟨c, hc⟩ := List.exists_mem_of_ne_nil _ hgap
  have hspace := Text.isAllSpace_eq_true_iff.mp p.stars.isAllSpace_gap c hc
  have hmem : c ∈ p.recordedName := List.mem_append_left _ hc
  have hne : ∀ receiver : Text, receiver.any Text.isSpace = false → p.recordedName ≠ receiver := by
    intro receiver hfree hname
    exact List.any_eq_false.mp hfree c (hname ▸ hmem) hspace
  unfold isReceiver
  rw [decide_eq_false_iff_not, not_or]
  exact ⟨hne "self" (by decide), hne "cls" (by decide)⟩

/-- What is read from a parameter. -/
theorem parameter?_text (p : WrittenParameter) (isFirst : Bool) :
    Signature.parameter? isFirst p.text
      = if isFirst && isReceiver p.recordedName then none
        else some (p.toParameter p.recordedName) := by
  obtain ⟨c, hmem, hmark⟩ := p.exists_mem_core
  have hne : ¬(p.core.trimEnd.isEmpty ∨ p.core.trimEnd = "*" ∨ p.core.trimEnd = "/") := by
    intro h
    have hmarks : p.core.trimEnd ⊆ headerMarks := by
      rcases h with h | h | h
      · rw [List.isEmpty_iff.mp h]
        simp
      · rw [h]
        decide
      · rw [h]
        decide
    exact hmark (hmarks hmem)
  obtain ⟨declared, hdefault, htype⟩ := p.splitDefault_core
  unfold Signature.parameter?
  rw [p.trim_text]
  dsimp only
  rw [if_neg hne, hdefault]
  dsimp only
  rw [htype]
  simp [isReceiver, toParameter]

theorem closed_text (p : WrittenParameter) : Closed [','] p.text :=
  have hcomma : [','] ⊆ separators := by decide
  have hdeclaration : Closed [','] p.declaration :=
    (p.closed_starred hcomma).append
      (Clause.closed_written _ (by simp) hcomma (.plain (by decide) (by decide) .nil))
  have hcore : Closed [','] p.core :=
    hdeclaration.append
      (Clause.closed_written _ (by simp) hcomma (.plain (by decide) (by decide) .nil))
  (p.before.closed hcomma).append (hcore.append (p.after.closed hcomma))

end WrittenParameter

end Weave
