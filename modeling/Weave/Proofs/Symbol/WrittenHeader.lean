import Weave.Proofs.Symbol.DefinitionLine
import Weave.Proofs.Symbol.ParameterList
import Weave.Proofs.Text.Chunks

/-!
# Headers as they are written

The header of a function is written as its keyword and its name, a parameter list in parentheses,
and possibly a return type behind an arrow (`WrittenHeader`).

* `FunctionHead.firstDefinition?_append` says that a code that begins with a header has it as its
  first definition.
* `splitTop?_text` says that the header goes up to the colon behind it, since it is closed code.
* `parse?_text` puts this together with what is read from the parameter list.
-/

namespace Weave

open Nesting

/-- A function header up to its colon.  The keyword and the name stand in one line. -/
structure WrittenHeader where
  head : Text
  isHead : FunctionHead head
  oneLine : '\n' ∉ head
  list : ParameterList
  returns : Option (Clause [':'])
  after : Padding

namespace WrittenHeader

variable (h : WrittenHeader)

/-- What stands behind the parameter list. -/
def ending : Text := Clause.written "->" h.returns ++ h.after.text

def text : Text := h.head ++ '(' :: (h.list.text ++ ')' :: h.ending)

def returnType : Text :=
  match h.returns with
  | none => []
  | some returns => returns.value.text

/-- The signature with the parameters under their names. -/
def signature (name : WrittenParameter → Text) : Signature :=
  ⟨Signature.normalizeSpace h.text, h.list.parameters name, h.returnType⟩

end WrittenHeader

/-! ## The definition line -/

theorem Definition.afterSpaces?_gap {gap t : Text} {c : Char} (hgap : IsGap gap)
    (hc : Text.isSpace c = false) : afterSpaces? (gap ++ c :: t) = some (c :: t) := by
  have htrim : Text.trimStart (gap ++ c :: t) = c :: t := by
    rw [Text.trimStart_append_of_isAllSpace hgap.isAllSpace, Text.trimStart_cons hc]
  obtain ⟨d, more, rfl⟩ := List.exists_cons_of_ne_nil hgap.ne_nil
  have hd : Text.isSpace d = true :=
    Text.isAllSpace_eq_true_iff.mp hgap.isAllSpace d List.mem_cons_self
  rw [List.cons_append] at htrim ⊢
  rw [afterSpaces?, if_pos hd, htrim]

/-- The keyword of a function is read in front of white space. -/
theorem Definition.keyword?_of_isDefKeyword {keyword : Text} (h : IsDefKeyword keyword) (t : Text) :
    keyword? (keyword ++ t) = some (.function, t) := by
  cases h with
  | plain =>
      have hasync : Text.dropPrefix? "async" ("def".toList ++ t) = none := rfl
      unfold keyword?
      rw [hasync, Text.dropPrefix?_append]
  | @async gap space =>
      have hafter : afterSpaces? (gap ++ ("def".toList ++ t)) = some ("def".toList ++ t) :=
        afterSpaces?_gap space rfl
      unfold keyword?
      rw [List.append_assoc, List.append_assoc, Text.dropPrefix?_append]
      simp only [hafter, Option.bind_eq_bind, Option.bind_some, Text.dropPrefix?_append]
      rfl

namespace FunctionHead

variable {head : Text}

/-- A function is defined behind each of its heads. -/
theorem exists_parse?_append (h : FunctionHead head) (t : Text) :
    ∃ name, Definition.parse? (head ++ t) = some (.function, name) := by
  cases h with
  | @mk keyword gap name isKeyword isGap isName =>
      obtain ⟨c, more, rfl⟩ := List.exists_cons_of_ne_nil isName.ne_nil
      have hspace : Text.isSpace c = false := isName.noSpace c List.mem_cons_self
      have hstart : Text.isNameStart c = true := isName.start c rfl
      refine ⟨(c :: (more ++ t)).takeWhile Text.isNameChar, ?_⟩
      refine Definition.parse?_eq_some_iff.mpr ⟨gap ++ (c :: (more ++ t)), ?_, ?_⟩
      · have hkeyword := Definition.keyword?_of_isDefKeyword isKeyword (gap ++ (c :: (more ++ t)))
        rw [← hkeyword]
        simp
      · rw [Definition.afterSpaces?_gap isGap hspace, Option.bind_some, Definition.name?,
          if_pos hstart]

theorem trimStart_append (h : FunctionHead head) (t : Text) :
    Text.trimStart (head ++ t) = head ++ t := by
  cases h with
  | mk isKeyword isGap isName =>
      cases isKeyword <;> rfl

/-- A header is the first definition of a code that begins with it. -/
theorem firstDefinition?_append (h : FunctionHead head) (hline : '\n' ∉ head) (t : Text) :
    Signature.firstDefinition? (Text.chunks (head ++ t)) = some (.function, head ++ t) := by
  have hne : head ≠ [] := by
    cases h with
    | mk isKeyword isGap isName => simp [isName.ne_nil]
  obtain ⟨u, lines, hlines⟩ := Text.exists_chunks_append hne hline t
  have hflat : head ++ u ++ lines.flatten = head ++ t := by
    rw [← List.flatten_cons, ← hlines, Text.flatten_chunks]
  obtain ⟨name, hname⟩ := h.exists_parse?_append u
  rw [hlines, Signature.firstDefinition?, h.trimStart_append, hname]
  dsimp only
  rw [hflat]

end FunctionHead

namespace WrittenHeader

variable (h : WrittenHeader)

theorem closed_ending : Closed [':'] h.ending := by
  have harrow : Closed [':'] "->" :=
    .plain (by decide) (by decide) (.plain (by decide) (by decide) .nil)
  exact (Clause.closed_written _ (by simp) (by decide) harrow).append (h.after.closed (by decide))

theorem closed_text : Closed [':'] h.text := by
  have hhead : Closed [':'] h.head := h.isHead.closed.mono (by decide)
  exact hhead.append (.group (.inl rfl) (.inl rfl) h.list.closed_text h.closed_ending)

/-- A header goes up to the colon behind it. -/
theorem splitTop?_text (body : Text) :
    Nesting.outside.splitTop? ':' (h.text ++ ':' :: body) = some (h.text, body) :=
  h.closed_text.splitTop?_append (by decide) List.mem_cons_self body

/-- The return type is read behind the arrow. -/
theorem parseReturnType_ending : Signature.parseReturnType h.ending = h.returnType := by
  unfold Signature.parseReturnType ending returnType
  cases h.returns with
  | none =>
      have htrim : Text.trim h.after.text = [] := Text.trim_of_isAllSpace h.after.isAllSpace
      rw [Clause.written, List.nil_append, htrim]
      rfl
  | some r =>
      have htrim : Text.trim (Clause.written "->" (some r) ++ h.after.text)
          = "->".toList ++ Text.trimEnd (r.after.text ++ r.value.text) := by
        have hpadded := Text.trim_padded r.before.isAllSpace h.after.isAllSpace (c := '-') rfl
          ('>' :: (r.after.text ++ r.value.text))
        rw [Clause.written, List.append_assoc]
        exact hpadded.trans (Text.trimEndWhile_append_cons ['-'] rfl _)
      rw [htrim, Text.dropPrefix?_append]
      exact Signature.normalizeSpace_trimEnd_padded r.after r.value

end WrittenHeader

namespace Signature

/-- What is read back from the text of a function header is the header, but for the white space
between stars and names, which stays with the names.  So the parameters are read back under their
names exactly if there is no such white space. -/
theorem parse?_text (h : WrittenHeader) (body : Text) :
    parse? (h.text ++ ':' :: body) = some (h.signature WrittenParameter.recordedName)
      ∧ (parse? (h.text ++ ':' :: body) = some (h.signature WrittenParameter.name)
        ↔ ∀ p, .parameter p ∈ h.list.items → p.stars.gap = []) := by
  have hfirst : firstDefinition? (h.text ++ ':' :: body).chunks
      = some (.function, h.text ++ ':' :: body) := by
    have htext : h.text ++ ':' :: body
        = h.head ++ ('(' :: (h.list.text ++ ')' :: h.ending) ++ ':' :: body) :=
      List.append_assoc _ _ _
    rw [htext]
    exact h.isHead.firstDefinition?_append h.oneLine _
  have hnone : '(' ∉ h.head := fun hmem => h.isHead.noMark '(' hmem (by decide)
  have hclosing : closingBracket? none 1 (h.list.text ++ ')' :: h.ending)
      = some (h.list.text, h.ending) :=
    h.list.closed_text.closingBracket?_append (.inl rfl) h.ending
  have hparse : parse? (h.text ++ ':' :: body)
      = some (h.signature WrittenParameter.recordedName) := by
    rw [parse?_of_head hfirst (h.splitTop?_text body) rfl hnone, hclosing, Option.map_some]
    dsimp only
    rw [h.list.parseParameters_text, h.parseReturnType_ending]
    rfl
  refine ⟨hparse, ?_⟩
  rw [hparse, ← h.list.parameters_recordedName_eq_iff, Option.some.injEq]
  simp [WrittenHeader.signature]

/-- A list with white space between the star and the name of its first parameter. -/
def starApart : WrittenHeader where
  head := "def f"
  isHead := @FunctionHead.mk "def".toList [' '] ['f'] .plain ⟨by decide, by decide⟩ (by decide)
  oneLine := by decide
  list :=
    let nothing : Padding := ⟨[], rfl⟩
    let space : Padding := ⟨[' '], rfl⟩
    let args : Identifier := ⟨"args", by decide⟩
    let b : Identifier := ⟨"b", by decide⟩
    let one : Expression [','] := ⟨"1", by decide, .plain (by decide) (by decide) .nil⟩
    { items :=
        [.parameter ⟨nothing, .single space, args, none, none, nothing⟩,
          .parameter ⟨space, .absent, b, none, some ⟨nothing, nothing, one⟩, nothing⟩]
      trailing := none }
  returns := none
  after := ⟨[], rfl⟩

/-- The parameter is recorded as ` args`. -/
theorem parse?_starApart :
    let source : Text := "def f(* args, b=1):\n    pass\n"
    starApart.text ++ ':' :: "\n    pass\n".toList = source
      ∧ (starApart.signature WrittenParameter.name).parameters
        = [⟨"args", [], [], none⟩, ⟨"b", [], [], some "1".toList⟩]
      ∧ parse? source = some ⟨"def f(* args, b=1)",
          [⟨" args", [], [], none⟩, ⟨"b", [], [], some "1".toList⟩], []⟩
      ∧ parse? source ≠ some (starApart.signature WrittenParameter.name) := by
  decide +kernel

end Signature

end Weave
