import Weave.Proofs.Code.Closed
import Weave.Proofs.Text.Cut

/-!
# The header of a function

A function header is `def` or `async def`, a name, and a parameter list in parentheses, up to the
first colon at the top level.  Two readers go over it: one that knows comments and escapes finds the
colon, and one that knows neither finds the parenthesis that closes the list.

* `parse?_of_head` says what the signature of a function is in terms of the two.
* `parse?_of_quiet` says where the list is closed for the first reader, and that the second one
  takes the same parenthesis if the list is quiet.  A list that is not loses its signature
  (`parse?_escapedQuote`).
-/

namespace Weave

open Nesting

/-- The characters that stand between the words of a header, other than white space. -/
def headerMarks : List Char :=
  ['\'', '"', '#', '(', ')', '[', ']', '\x7b', '\x7d', '\\', ',', '=', ':', '*', '/']

/-- A name holds neither white space nor what stands between names. -/
structure IsIdentifier (name : Text) : Prop where
  ne_nil : name ≠ []
  noSpace : ∀ c ∈ name, Text.isSpace c = false
  noMark : ∀ c ∈ name, c ∉ headerMarks

instance (name : Text) : Decidable (IsIdentifier name) :=
  decidable_of_iff (name ≠ [] ∧ (name.any Text.isSpace) = false ∧ name.all (· ∉ headerMarks) = true)
    (by simp only [List.any_eq_false, List.all_eq_true, Bool.not_eq_true, decide_eq_true_eq]
        exact ⟨fun h => ⟨h.1, h.2.1, h.2.2⟩, fun h => ⟨h.ne_nil, h.noSpace, h.noMark⟩⟩)

/-- White space that separates two words. -/
structure IsGap (gap : Text) : Prop where
  ne_nil : gap ≠ []
  isAllSpace : gap.isAllSpace = true

/-- The name of a function begins as the names of definition lines do. -/
structure IsFunctionName (name : Text) : Prop extends IsIdentifier name where
  start : ∀ c ∈ name.head?, Text.isNameStart c = true

instance (name : Text) : Decidable (IsFunctionName name) :=
  decidable_of_iff (IsIdentifier name ∧ name.head?.all Text.isNameStart = true)
    (by rw [Option.all_eq_true]
        exact ⟨fun h => ⟨h.1, h.2⟩, fun h => ⟨h.toIsIdentifier, h.start⟩⟩)

/-- The keyword of a function. -/
inductive IsDefKeyword : Text → Prop where
  | plain : IsDefKeyword "def".toList
  | async {gap : Text} (space : IsGap gap) : IsDefKeyword ("async".toList ++ (gap ++ "def".toList))

/-- The header of a function in front of its parameter list: the keyword, white space and a name. -/
inductive FunctionHead : Text → Prop where
  | mk {keyword gap name : Text} (isKeyword : IsDefKeyword keyword) (isGap : IsGap gap)
      (isName : IsFunctionName name) : FunctionHead (keyword ++ (gap ++ name))

/-! ## Words and white space -/

section Words

variable {t : Text} {banned : List Char}

theorem isPlain_of_notMem {c : Char} (h : c ∉ headerMarks) : IsPlain c := by
  simp only [headerMarks, List.mem_cons, List.not_mem_nil, or_false] at h
  grind

/-- White space is no mark. -/
theorem notMem_headerMarks_of_isSpace {c : Char} (h : Text.isSpace c = true) : c ∉ headerMarks := by
  have hmarks : headerMarks.any Text.isSpace = false := by decide
  exact fun hmem => List.any_eq_false.mp hmarks c hmem h

/-- A text without marks is closed. -/
theorem Closed.of_noMark (hbanned : banned ⊆ separators) (h : ∀ c ∈ t, c ∉ headerMarks) :
    Closed banned t := by
  have hmarks : separators ⊆ headerMarks := by decide
  exact .of_plain fun c hc =>
    ⟨isPlain_of_notMem (h c hc), fun hmem => h c hc (hmarks (hbanned hmem))⟩

theorem Closed.of_isAllSpace (hbanned : banned ⊆ separators) (h : t.isAllSpace = true) :
    Closed banned t :=
  .of_noMark hbanned fun c hc =>
    notMem_headerMarks_of_isSpace (List.all_eq_true.mp h c hc)

theorem IsGap.noMark {gap : Text} (h : IsGap gap) : ∀ c ∈ gap, c ∉ headerMarks :=
  fun c hc => notMem_headerMarks_of_isSpace (List.all_eq_true.mp h.isAllSpace c hc)

theorem IsDefKeyword.noMark {keyword : Text} (h : IsDefKeyword keyword) :
    ∀ c ∈ keyword, c ∉ headerMarks := by
  have hdef : ∀ c ∈ "def".toList, c ∉ headerMarks := by simp [headerMarks]
  cases h with
  | plain => exact hdef
  | async space =>
      have hasync : ∀ c ∈ "async".toList, c ∉ headerMarks := by simp [headerMarks]
      exact List.forall_mem_append.mpr ⟨hasync, List.forall_mem_append.mpr ⟨space.noMark, hdef⟩⟩

end Words

namespace FunctionHead

variable {head : Text}

/-- No mark stands in front of the parameter list. -/
theorem noMark (h : FunctionHead head) : ∀ c ∈ head, c ∉ headerMarks := by
  cases h with
  | mk isKeyword isGap isName =>
      exact List.forall_mem_append.mpr ⟨isKeyword.noMark,
        List.forall_mem_append.mpr ⟨isGap.noMark, isName.noMark⟩⟩

theorem closed (h : FunctionHead head) : Closed separators head :=
  .of_noMark (List.Subset.refl _) h.noMark

/-- The reader of a header comes to the list with one bracket open. -/
theorem run_append (h : FunctionHead head) (t : Text) :
    Nesting.outside.run (head ++ '(' :: t) = (code 1).run t := by
  have hclosed : Closed [] head := h.closed.mono (List.nil_subset _)
  rw [Nesting.run_append, outside_eq, hclosed.run, run_cons, step_code_opening (.inl rfl)]
  rfl

end FunctionHead

namespace Signature

variable {source header body head inside rest : Text}

/-- The signature of a function by the first parenthesis of its header. -/
theorem parse?_of_head (hfirst : firstDefinition? source.chunks = some (.function, rest))
    (hheader : Nesting.outside.splitTop? ':' rest = some (header, body))
    (hopen : header = head ++ '(' :: inside) (hhead : '(' ∉ head) :
    parse? source = (closingBracket? none 1 inside).map fun (inner, after) =>
      ⟨normalizeSpace header, parseParameters inner, parseReturnType after⟩ := by
  have hsplit : Text.splitFirst? "(" header = some (head, inside) :=
    Text.splitFirst?_singleton_eq_some_iff.mpr ⟨hopen, hhead⟩
  unfold parse?
  rw [hfirst]
  simp only [Option.bind_eq_bind, Option.bind_some, hheader, hsplit]
  cases closingBracket? none 1 inside <;> rfl

/-- The header of a function goes beyond the parenthesis that opens its list. -/
theorem exists_header_eq (hhead : FunctionHead head)
    (hheader : Nesting.outside.splitTop? ':' (head ++ '(' :: inside) = some (header, body)) :
    ∃ list, header = head ++ '(' :: list ∧ ((code 1).run list).depth = 0 := by
  obtain ⟨hsplit, -, htop⟩ := splitTop?_eq_some_iff.mp hheader
  obtain ⟨list, hlist⟩ : ∃ list, header = head ++ '(' :: list := by
    rcases List.append_eq_append_iff.mp hsplit with ⟨u, hu, hinside⟩ | ⟨u, hu, hbody⟩
    · cases u with
      | nil =>
          rw [List.nil_append, List.cons.injEq] at hinside
          exact absurd hinside.1 (by decide)
      | cons c u =>
          rw [List.cons_append, List.cons.injEq] at hinside
          exact ⟨u, by rw [hu, hinside.1]⟩
    · cases u with
      | nil =>
          rw [List.nil_append, List.cons.injEq] at hbody
          exact absurd hbody.1 (by decide)
      | cons c u =>
          rw [List.cons_append, List.cons.injEq] at hbody
          have hmem : c ∈ head := by
            rw [hu]
            simp
          rw [← hbody.1] at hmem
          exact absurd (by decide) (hhead.noMark ':' hmem)
  refine ⟨list, hlist, ?_⟩
  rw [hlist, hhead.run_append] at htop
  simp only [Nesting.isTop, Bool.and_eq_true, beq_iff_eq] at htop
  exact htop.1.1

/-- In the header of a function, up to its first colon at the top level, there is a first character
behind which no bracket is open.  If the list up to there is quiet, that is the parenthesis that the
signature takes as the end of the parameters, and the function has a signature. -/
theorem parse?_of_quiet (hhead : FunctionHead head)
    (hfirst : firstDefinition? source.chunks = some (.function, head ++ '(' :: inside))
    (hheader : Nesting.outside.splitTop? ':' (head ++ '(' :: inside) = some (header, body)) :
    ∃ inner closing after, header = head ++ '(' :: (inner ++ closing :: after)
      ∧ (∀ start, start <+: inner → (Nesting.outside.run (head ++ '(' :: start)).depth ≠ 0)
      ∧ (Nesting.outside.run (head ++ '(' :: (inner ++ [closing]))).depth = 0
      ∧ ((code 1).Quiet inner →
          closingBracket? none 1 (inner ++ closing :: after) = some (inner, after)
            ∧ parse? source = some
                ⟨normalizeSpace header, parseParameters inner, parseReturnType after⟩) := by
  obtain ⟨list, hlist, hzero⟩ := exists_header_eq hhead hheader
  obtain ⟨inner, closing, after, rfl, hopen, hlast⟩ := exists_first_zero Int.one_ne_zero hzero
  refine ⟨inner, closing, after, hlist, ?_, ?_, ?_⟩
  · intro start hstart
    obtain ⟨more, rfl⟩ := hstart
    obtain ⟨c, later, hlater⟩ : ∃ c later, more ++ [closing] = c :: later :=
      List.exists_cons_of_ne_nil (by simp)
    rw [List.append_assoc, hlater] at hopen
    rw [hhead.run_append]
    exact (along_append.mp hopen).2.1
  · rw [hhead.run_append]
    exact hlast
  · intro hquiet
    have hclosing : closingBracket? none 1 (inner ++ closing :: after) = some (inner, after) :=
      closingBracket?_of_quiet (sound_code 1) Int.one_pos hopen hlast hquiet
    have hnone : '(' ∉ head := fun hmem => hhead.noMark '(' hmem (by decide)
    refine ⟨hclosing, ?_⟩
    rw [parse?_of_head hfirst hheader hlist hnone, hclosing]
    rfl

/-- A function with a comment between its parameters, and with an escaped character in a string. -/
def quietList : Text := "@cache\ndef f(a,  # first\n      b=\"\\n\") -> int:\n    return b\n"

/-- Neither the comment nor the escape has to do with quotes and brackets. -/
theorem parse?_quietList :
    let inside : Text := "a,  # first\n      b=\"\\n\") -> int:\n    return b\n".toList
    let header : Text := "def f(a,  # first\n      b=\"\\n\") -> int".toList
    FunctionHead "def f".toList
      ∧ firstDefinition? quietList.chunks = some (.function, "def f".toList ++ '(' :: inside)
      ∧ Nesting.outside.splitTop? ':' ("def f".toList ++ '(' :: inside)
        = some (header, "\n    return b\n".toList)
      ∧ ∃ inner closing after, header = "def f".toList ++ '(' :: (inner ++ closing :: after)
        ∧ (∀ start, start <+: inner →
          (Nesting.outside.run ("def f".toList ++ '(' :: start)).depth ≠ 0)
        ∧ (Nesting.outside.run ("def f".toList ++ '(' :: (inner ++ [closing]))).depth = 0
        ∧ ((code 1).Quiet inner →
            closingBracket? none 1 (inner ++ closing :: after) = some (inner, after)
              ∧ parse? quietList = some
                  ⟨normalizeSpace header, parseParameters inner, parseReturnType after⟩) := by
  intro inside header
  have hhead : FunctionHead "def f".toList :=
    @FunctionHead.mk "def".toList [' '] ['f'] .plain ⟨by decide, by decide⟩ (by decide)
  have hfirst : firstDefinition? quietList.chunks
      = some (.function, "def f".toList ++ '(' :: inside) := by decide +kernel
  have hheader : Nesting.outside.splitTop? ':' ("def f".toList ++ '(' :: inside)
      = some (header, "\n    return b\n".toList) := by decide +kernel
  exact ⟨hhead, hfirst, hheader, parse?_of_quiet hhead hfirst hheader⟩

/-- A function with an escaped quote in a default value. -/
def escapedQuote : Text := "def f(a='it\\'s', b=1) -> int:\n    return b\n"

/-- The header ends at its colon, and its list is closed in front of the arrow, but the function has
no signature. -/
theorem parse?_escapedQuote :
    let inside : Text := "a='it\\'s', b=1) -> int:\n    return b\n".toList
    let inner : Text := "a='it\\'s', b=1".toList
    firstDefinition? escapedQuote.chunks = some (.function, "def f".toList ++ '(' :: inside)
      ∧ Nesting.outside.splitTop? ':' ("def f".toList ++ '(' :: inside)
        = some ("def f(a='it\\'s', b=1) -> int".toList, "\n    return b\n".toList)
      ∧ (code 1).StaysOpen (inner ++ [')']) ∧ ((code 1).run (inner ++ [')'])).depth = 0
      ∧ parse? escapedQuote = none := by
  decide +kernel

end Signature

end Weave
