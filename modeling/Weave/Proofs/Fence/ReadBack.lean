import Mathlib.Data.List.TakeWhile
import Weave.Document.CodeBlock
import Weave.Markdown.Place
import Weave.Proofs.Text.Cut

/-!
# Reading a rendered block

A rendered block stands between two lines of three backticks, whatever its content is.  The rule of
fenced code reads it line by line: the first line has the info string, and the content goes on to
the first line that closes the fence.

* `endedLines` are the lines of a text by the endings that the rule knows.  Their equations are
  about a finished line in front of a text and about a text of finished lines.
* `closesFence` is the test of a line, and `FencedCode.read?` is the rule.
* `read?_render` reads a rendered block with any text behind it.  The content ends too early exactly
  if one of its own lines closes the fence.
-/

namespace Weave

namespace Markdown

/-! ## Lines with their endings -/

/-- The lines of a text with their endings: a line feed, a carriage return, or both together.  The
last line may lack one. -/
def endedLines : Text → List Text
  | [] => []
  | c :: t =>
    if isEnding c ∧ ¬(c = '\r' ∧ t.head? = some '\n') then [c] :: endedLines t
    else
      match endedLines t with
      | [] => [[c]]
      | line :: lines => (c :: line) :: lines

/-- Nothing is lost by cutting a text into lines. -/
@[simp] theorem flatten_endedLines (t : Text) : (endedLines t).flatten = t := by
  induction t with
  | nil => rfl
  | cons c t ih =>
      unfold endedLines
      split
      · rw [List.flatten_cons, ih]
        rfl
      · cases hlines : endedLines t with
        | nil =>
            rw [hlines] at ih
            rw [← ih]
            rfl
        | cons line lines =>
            rw [hlines] at ih
            rw [← ih]
            rfl

/-- A line feed ends a line, whatever stands in front of it. -/
theorem endedLines_line {body : Text} (h : body.any isEnding = false) (t : Text) :
    endedLines (body ++ '\n' :: t) = (body ++ ['\n']) :: endedLines t := by
  induction body with
  | nil => rfl
  | cons c body ih =>
      rw [List.any_cons, Bool.or_eq_false_iff] at h
      have hc : ¬(isEnding c = true ∧ ¬(c = '\r' ∧ (body ++ '\n' :: t).head? = some '\n')) := by
        simp [h.1]
      have hbody := ih h.2
      show endedLines (c :: (body ++ '\n' :: t)) = _
      rw [endedLines, if_neg hc, hbody]
      rfl

/-- The lines behind a text that ends in a line feed do not depend on it.  A carriage return would
not do, since the next character may belong to its ending. -/
theorem endedLines_append {t : Text} (h : ∀ c ∈ t.getLast?, c = '\n') (more : Text) :
    endedLines (t ++ more) = endedLines t ++ endedLines more := by
  induction t with
  | nil => rfl
  | cons c t ih =>
      cases t with
      | nil =>
          obtain rfl : c = '\n' := h c rfl
          rfl
      | cons d t =>
          have hrest : endedLines (d :: t ++ more) = endedLines (d :: t) ++ endedLines more :=
            ih fun e he => h e (by rwa [List.getLast?_cons_cons])
          have hne : endedLines (d :: t) ≠ [] := fun hnil => by
            have hflat := flatten_endedLines (d :: t)
            rw [hnil] at hflat
            exact absurd hflat (by simp)
          obtain ⟨line, lines, hlines⟩ := List.exists_cons_of_ne_nil hne
          have hhead : (d :: t ++ more).head? = (d :: t).head? := rfl
          show endedLines (c :: (d :: t ++ more)) = endedLines (c :: d :: t) ++ endedLines more
          rw [endedLines, endedLines, hrest, hhead, hlines]
          split <;> rfl

/-! ## Fences of three backticks -/

/-- Whether a line closes a block that three backticks opened: at most three spaces, three or more
backticks, and then only blanks. -/
def closesFence (line : Text) : Bool :=
  let indent := (line.takeWhile (· == ' ')).length
  let marks := line.drop indent
  let length := (marks.takeWhile (· == '`')).length
  indent ≤ 3 && 3 ≤ length && (lineText (marks.drop length)).all Text.isBlank

/-- A fenced code block as it is read. -/
structure FencedCode where
  /-- What stands behind the backticks of the first line. -/
  info : Text
  content : Text
  /-- The line that closes the block, and the lines behind it.  The end of a text closes a block
  too. -/
  closing : List Text
  deriving DecidableEq, Repr

/-- The content is what stands in front of the first line that closes the fence. -/
def FencedCode.ofLines (info : Text) (lines : List Text) : FencedCode where
  info := info
  content := (lines.takeWhile fun line => !closesFence line).flatten
  closing := lines.dropWhile fun line => !closesFence line

/-- The block that a text begins with, if its first line is three backticks and an info string,
which has no backtick. -/
def FencedCode.read? (t : Text) : Option FencedCode :=
  match endedLines t with
  | [] => none
  | opening :: lines =>
    match Text.dropPrefix? "```" (lineText opening) with
    | none => none
    | some info => if '`' ∈ info then none else some (.ofLines info lines)

theorem lineText_line {body : Text} (h : body.any isEnding = false) :
    lineText (body ++ ['\n']) = body := by
  have hbody : ∀ c ∈ body, (!isEnding c) = true := by simpa using h
  rw [lineText, List.takeWhile_append_of_pos hbody]
  exact List.append_nil body

theorem FencedCode.read?_line {info : Text} (hticks : '`' ∉ info)
    (hline : info.any isEnding = false) (t : Text) :
    read? ("```" ++ info ++ '\n' :: t) = some (.ofLines info (endedLines t)) := by
  have hopening : ("```".toList ++ info).any isEnding = false := by
    rw [List.any_append, hline]
    rfl
  rw [read?, endedLines_line hopening t]
  dsimp only
  rw [lineText_line hopening, Text.dropPrefix?_append]
  exact if_neg hticks

section Closing

variable (info : Text) (lines : List Text) {closing : Text}

/-- A closing line ends the content of all lines in front of it, if none of them has ended it
before. -/
theorem FencedCode.ofLines_append (h : closesFence closing = true) (more : List Text) :
    ofLines info (lines ++ closing :: more)
      = ⟨info, (ofLines info lines).content, (ofLines info lines).closing ++ closing :: more⟩ := by
  suffices hcut : (lines ++ closing :: more).takeWhile (fun line => !closesFence line)
        = lines.takeWhile (fun line => !closesFence line)
      ∧ (lines ++ closing :: more).dropWhile (fun line => !closesFence line)
        = lines.dropWhile (fun line => !closesFence line) ++ closing :: more by
    show FencedCode.mk _ _ _ = _
    rw [hcut.1, hcut.2]
    rfl
  induction lines with
  | nil => simp [h]
  | cons line lines ih =>
      rw [List.cons_append, List.takeWhile_cons, List.takeWhile_cons, List.dropWhile_cons,
        List.dropWhile_cons, ih.1, ih.2]
      split <;> exact ⟨rfl, rfl⟩

theorem FencedCode.closing_ofLines_eq_nil_iff :
    (ofLines info lines).closing = [] ↔ ∀ line ∈ lines, closesFence line = false := by
  show lines.dropWhile (fun line => !closesFence line) = [] ↔ _
  rw [List.dropWhile_eq_nil_iff]
  simp only [Bool.not_eq_true']

/-- Content and closing lines together are all lines. -/
theorem FencedCode.content_append_closing :
    (ofLines info lines).content ++ (ofLines info lines).closing.flatten = lines.flatten := by
  show (lines.takeWhile _).flatten ++ (lines.dropWhile _).flatten = lines.flatten
  rw [← List.flatten_append, List.takeWhile_append_dropWhile]

end Closing

end Markdown

open Markdown

/-! ## Rendered blocks -/

namespace CodeBlock

/-- The line that a rendered block ends with. -/
def closingFence : Text := "```\n"

/-- The content as it is written: content that lacks a final newline gets one. -/
def endedContent (b : CodeBlock) : Text :=
  b.content ++ if b.content.isEmpty || b.content.endsWith "\n" then [] else ['\n']

theorem render_eq (b : CodeBlock) :
    b.render = "```" ++ b.infoString ++ '\n' :: (b.endedContent ++ closingFence) := by
  have hassoc : ∀ opening feed content ending closing : Text,
      opening ++ feed ++ content ++ ending ++ closing
        = opening ++ (feed ++ (content ++ ending ++ closing)) := by
    intros
    simp only [List.append_assoc]
  exact hassoc ("```" ++ b.infoString) ['\n'] b.content _ closingFence

theorem eq_newline_of_mem_getLast?_endedContent (b : CodeBlock) :
    ∀ c ∈ b.endedContent.getLast?, c = '\n' := by
  intro c hc
  unfold endedContent at hc
  by_cases hempty : b.content = []
  · rw [hempty] at hc
    exact nomatch hc
  · cases hends : Text.dropSuffix? "\n" b.content with
    | none =>
        have hopen : (b.content.isEmpty || b.content.endsWith "\n") = false := by
          rw [Text.endsWith, hends, List.isEmpty_eq_false_iff.mpr hempty]
          rfl
        rw [hopen] at hc
        simpa using hc.symm
    | some body =>
        have hclosed : (b.content.isEmpty || b.content.endsWith "\n") = true := by
          rw [Text.endsWith, hends]
          exact Bool.or_true _
        have hbody : b.content = body ++ ['\n'] := Text.dropSuffix?_eq_some_iff.mp hends
        rw [hclosed, if_pos rfl, List.append_nil, hbody] at hc
        simpa using hc.symm

/-- What is read from a rendered block, whatever text follows it: the info string, the lines of the
content in front of the first one that closes the fence, and all lines behind as the rest.  The
block reads back, with the last rendered line as the one that closes it, exactly if no line of the
content closes the fence. -/
theorem read?_render (b : CodeBlock) (rest : Text) (hticks : '`' ∉ b.infoString)
    (hline : b.infoString.any isEnding = false) :
    let lines := endedLines b.endedContent
    FencedCode.read? (b.render ++ rest)
        = some ⟨b.infoString, (lines.takeWhile fun line => !closesFence line).flatten,
          (lines.dropWhile fun line => !closesFence line) ++ closingFence :: endedLines rest⟩
      ∧ (FencedCode.read? (b.render ++ rest)
          = some ⟨b.infoString, b.endedContent, closingFence :: endedLines rest⟩
        ↔ ∀ line ∈ lines, closesFence line = false) := by
  intro lines
  have hclosing : closesFence closingFence = true := by decide +kernel
  have hfeed : ∀ c ∈ closingFence.getLast?, c = '\n' := fun _ hc => (Option.some.inj hc).symm
  have hlast : endedLines (closingFence ++ rest) = closingFence :: endedLines rest :=
    endedLines_append hfeed rest
  have hread : FencedCode.read? (b.render ++ rest)
      = some ⟨b.infoString, (FencedCode.ofLines b.infoString lines).content,
        (FencedCode.ofLines b.infoString lines).closing ++ closingFence :: endedLines rest⟩ := by
    have hcontent : endedLines (b.endedContent ++ (closingFence ++ rest))
        = lines ++ closingFence :: endedLines rest := by
      rw [endedLines_append b.eq_newline_of_mem_getLast?_endedContent, hlast]
    have hrender : b.render ++ rest
        = "```" ++ b.infoString ++ '\n' :: (b.endedContent ++ (closingFence ++ rest)) := by
      rw [b.render_eq, List.append_assoc, List.cons_append, List.append_assoc b.endedContent]
    rw [hrender, FencedCode.read?_line hticks hline, hcontent,
      FencedCode.ofLines_append _ _ hclosing]
  refine ⟨hread, ?_⟩
  rw [hread, Option.some.injEq, FencedCode.mk.injEq,
    ← FencedCode.closing_ofLines_eq_nil_iff b.infoString]
  constructor
  · intro h
    exact List.append_left_eq_self.mp h.2.2
  · intro h
    have hall := FencedCode.content_append_closing b.infoString lines
    rw [h, List.flatten_nil, List.append_nil, flatten_endedLines] at hall
    exact ⟨rfl, hall, by rw [h]; rfl⟩

/-- A block with a title, in front of more text. -/
theorem read?_render_titled :
    let b : CodeBlock := ⟨some "python", [⟨"title", some "Two lines"⟩], "x = 1\n  ``", ⟨0, 0⟩⟩
    '`' ∉ b.infoString ∧ b.infoString.any isEnding = false
      ∧ FencedCode.read? (b.render ++ "\nMore\n")
        = some ⟨"python title=\"Two lines\"", "x = 1\n  ``\n", [closingFence, "\n", "More\n"]⟩ := by
  intro b
  have hticks : '`' ∉ b.infoString := by decide +kernel
  have hline : b.infoString.any isEnding = false := by decide +kernel
  exact ⟨hticks, hline, (read?_render b "\nMore\n" hticks hline).2.mpr (by decide +kernel)⟩

/-- Markdown that shows a fence ends the block at its own first line. -/
theorem read?_render_shownFence :
    ¬∀ b : CodeBlock, '`' ∉ b.infoString → b.infoString.any isEnding = false →
      FencedCode.read? b.render = some ⟨b.infoString, b.endedContent, [closingFence]⟩ := by
  intro h
  let b : CodeBlock := ⟨some "markdown", [], "```\ncode\n```\n", ⟨0, 0⟩⟩
  have hread : FencedCode.read? b.render
      = some ⟨"markdown", [], ["```\n", "code\n", "```\n", closingFence]⟩ := by decide +kernel
  have hclaimed := h b (by decide +kernel) (by decide +kernel)
  exact absurd (hread.symm.trans hclaimed) (by decide +kernel)

end CodeBlock

end Weave
