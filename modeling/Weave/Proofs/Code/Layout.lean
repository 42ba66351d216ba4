import Weave.Code.Layout
import Weave.Proofs.Text.Cut
import Weave.Proofs.Symbol.DefinitionLine
import Weave.Proofs.Text.Chunks

/-!
# The lines of laid out code

What the two steps of the layout do to the lines of some code.

* `chunks_dedent`: each line loses the same indentation, which every line that is not blank has
  (`commonIndent_le_indentOf`), and a last line of nothing but indentation vanishes.
* `mem_collapseBlankRuns`: no line is new except for empty ones, and what stands before a line that
  is not blank stays (`collapseBlankRuns_append`).
* `chunks_normalize`: of these lines the last one with something to keep (`exists_last_kept`) ends
  the code.
-/

namespace Weave.Code

/-! ## Common indentation -/

/-- A line is what stays of it without its terminator, and white space. -/
theorem exists_dropNewline_append (line : Text) :
    ∃ w, line = line.dropNewline ++ w ∧ w.isAllSpace = true := by
  unfold Text.dropNewline
  split
  · exact ⟨[], (List.append_nil line).symm, rfl⟩
  · rename_i body hbody
    rw [Text.dropSuffix?_eq_some_iff] at hbody
    cases hreturn : Text.dropSuffix? ['\r'] body with
    | none => exact ⟨['\n'], hbody, rfl⟩
    | some start =>
        rw [Text.dropSuffix?_eq_some_iff] at hreturn
        refine ⟨['\r', '\n'], ?_, rfl⟩
        rw [hbody, hreturn, List.append_assoc]
        rfl

theorem commonIndent_le_indentOf {code line : Text} (hline : line ∈ code.chunks)
    (hblank : line.isAllSpace = false) : commonIndent code ≤ indentOf line := by
  obtain ⟨w, hw, hspace⟩ := exists_dropNewline_append line
  have hkept : line.dropNewline.isAllSpace = false := by
    rw [hw, Text.isAllSpace_append, hspace, Bool.and_true] at hblank
    exact hblank
  have hindent : indentOf line = indentOf line.dropNewline := by
    have hmoved : Moved 0 (line.dropNewline ++ w) (line.dropNewline ++ []) :=
      moved_append hkept hspace rfl
    rw [← hw, List.append_nil] at hmoved
    exact hmoved.indent_eq
  unfold commonIndent
  rw [hindent]
  refine List.min?_getD_le_of_mem (List.mem_map_of_mem (List.mem_filter.mpr ⟨?_, ?_⟩))
  · exact List.mem_map_of_mem hline
  · rw [hkept]
    rfl

theorem dedentLine_ne_nil {common : Nat} {line : Text} (hblank : line.isAllSpace = false)
    (h : common ≤ indentOf line) : dedentLine common line ≠ [] := by
  have hlt := Nat.lt_of_le_of_lt h (indentOf_lt_length hblank)
  unfold dedentLine
  rw [hblank, if_neg Bool.false_ne_true, ne_eq, List.drop_eq_nil_iff, Nat.not_le]
  exact hlt

theorem dedentLine_suffix (common : Nat) (line : Text) : dedentLine common line <:+ line := by
  unfold dedentLine
  split
  · exact List.dropWhile_suffix _
  · exact List.drop_suffix _ _

/-- Each line is dedented on its own, by an indentation that is not zero. -/
theorem chunks_dedent {code : Text} (h : commonIndent code ≠ 0) :
    (dedent code).chunks
      = (code.chunks.map (dedentLine (commonIndent code))).filter (!·.isEmpty) := by
  unfold dedent
  dsimp only
  rw [if_neg h]
  refine (Text.isLines_chunks code).chunks_flatMap (fun line _ => dedentLine_suffix _ line) ?_
  intro body hbody
  cases hblank : Text.isAllSpace (body ++ ['\n']) with
  | true =>
      unfold dedentLine
      rw [if_pos hblank, ne_eq, List.dropWhile_eq_nil_iff]
      intro hall
      have hnewline := hall '\n' (by simp)
      contradiction
  | false => exact dedentLine_ne_nil hblank (commonIndent_le_indentOf hbody hblank)

/-! ## Runs of blank lines -/

theorem mem_collapseBlankRuns {lines : List Text} {line : Text}
    (h : line ∈ collapseBlankRuns lines) : line = ['\n'] ∨ line ∈ lines := by
  induction lines using collapseBlankRuns.induct with
  | case1 =>
      unfold collapseBlankRuns at h
      contradiction
  | case2 first rest hrun ih =>
      unfold collapseBlankRuns at h
      rw [if_pos hrun, List.mem_cons, List.mem_cons] at h
      rcases h with rfl | rfl | h
      · exact .inr List.mem_cons_self
      · exact .inl rfl
      · refine (ih h).imp_right fun hmem => List.mem_cons_of_mem _ ?_
        exact (List.dropWhile_sublist _).subset hmem
  | case3 first rest hrun ih =>
      unfold collapseBlankRuns at h
      rw [if_neg hrun, List.mem_cons] at h
      rcases h with rfl | h
      · exact .inr List.mem_cons_self
      · exact (ih h).imp_right (List.mem_cons_of_mem _)

/-- The first line stays in front of what the other lines become. -/
theorem exists_collapseBlankRuns_cons (line : Text) (rest : List Text) :
    ∃ rest', collapseBlankRuns (line :: rest) = line :: rest'
      ∧ ∀ l ∈ rest', l = ['\n'] ∨ l ∈ rest := by
  unfold collapseBlankRuns
  split
  · refine ⟨_, rfl, fun l hl => ?_⟩
    rcases List.mem_cons.mp hl with rfl | hl
    · exact .inl rfl
    · exact (mem_collapseBlankRuns hl).imp_right fun h => (List.dropWhile_sublist _).subset h
  · exact ⟨_, rfl, fun l hl => mem_collapseBlankRuns hl⟩

theorem isBlankLine_eq_false {line : Text} (h : line.isAllSpace = false) :
    isBlankLine line = false := by
  rw [← Bool.not_eq_true]
  intro hblank
  unfold isBlankLine at hblank
  rw [beq_iff_eq] at hblank
  have hsplit : line = line.takeWhile Text.isBlank ++ ['\n'] := by
    rw [← hblank, List.takeWhile_append_dropWhile]
  have hspace : line.isAllSpace = true := by
    rw [hsplit, Text.isAllSpace_append, Bool.and_eq_true, Text.isAllSpace_eq_true_iff]
    exact ⟨fun c hc => Text.isSpace_of_isBlank (List.mem_takeWhile_imp hc), rfl⟩
  rw [h] at hspace
  contradiction

/-- Lines that are not blank stay in front of a line that is not blank. -/
theorem collapseBlankRuns_append {front rest : List Text} {line : Text}
    (hfront : ∀ l ∈ front, l.isAllSpace = false) (hline : line.isAllSpace = false) :
    collapseBlankRuns (front ++ line :: rest) = front ++ collapseBlankRuns (line :: rest) := by
  induction front with
  | nil => rfl
  | cons first front ih =>
      have hnext : (front ++ line :: rest).takeWhile isBlankLine = [] := by
        cases front with
        | nil => exact List.takeWhile_cons_of_neg (by simp [isBlankLine_eq_false hline])
        | cons next front =>
            have hblank := isBlankLine_eq_false (hfront next (by simp))
            exact List.takeWhile_cons_of_neg (by simp [hblank])
      rw [List.cons_append, collapseBlankRuns, hnext,
        ih fun l hl => hfront l (List.mem_cons_of_mem _ hl)]
      simp

theorem isLines_collapseBlankRuns {lines : List Text} (h : Text.IsLines lines) :
    Text.IsLines (collapseBlankRuns lines) := by
  induction lines using collapseBlankRuns.induct with
  | case1 =>
      unfold collapseBlankRuns
      exact .nil
  | case2 line rest hrun ih =>
      have hrest := ih (h.tail.sublist (List.dropWhile_sublist _))
      unfold collapseBlankRuns
      rw [if_pos hrun]
      cases rest with
      | nil => simp at hrun
      | cons next rest =>
          obtain ⟨body, rfl, hfree⟩ := h.exists_body
          have hempty : Text.IsLines (([] ++ ['\n']) :: collapseBlankRuns
              ((next :: rest).dropWhile isBlankLine)) := .cons List.not_mem_nil hrest
          exact .cons hfree hempty
  | case3 line rest hrun ih =>
      have hrest := ih h.tail
      unfold collapseBlankRuns
      rw [if_neg hrun]
      cases rest with
      | nil =>
          unfold collapseBlankRuns
          exact h
      | cons next rest =>
          obtain ⟨body, rfl, hfree⟩ := h.exists_body
          exact .cons hfree hrest

/-! ## The end of the code -/

/-- The characters that are cut off the end of code. -/
def isEndChar (c : Char) : Bool := c == '\n' || Text.isBlank c

theorem isSpace_of_isEndChar {c : Char} (h : isEndChar c = true) : Text.isSpace c = true := by
  unfold isEndChar at h
  rw [Bool.or_eq_true, beq_iff_eq] at h
  rcases h with rfl | h
  · rfl
  · exact Text.isSpace_of_isBlank h

theorem normalize_eq {code body : Text}
    (h : Text.trimEndWhile isEndChar (collapseBlankRuns code.chunks).flatten = body) :
    normalize code = if body.isEmpty then [] else body ++ ['\n'] := by
  rw [← h]
  rfl

/-- The last of some lines with something to keep. -/
theorem exists_last_kept {lines : List Text}
    (h : ∃ line ∈ lines, ∃ c ∈ line, isEndChar c = false) :
    ∃ front line tail, lines = front ++ line :: tail ∧ (∃ c ∈ line, isEndChar c = false)
      ∧ ∀ l ∈ tail, ∀ c ∈ l, isEndChar c = true := by
  induction lines with
  | nil => simp at h
  | cons first lines ih =>
      by_cases hlater : ∃ line ∈ lines, ∃ c ∈ line, isEndChar c = false
      · obtain ⟨front, line, tail, hlines, hline, htail⟩ := ih hlater
        exact ⟨first :: front, line, tail, by rw [hlines, List.cons_append], hline, htail⟩
      · obtain ⟨line, hmem, hline⟩ := h
        push Not at hlater
        rcases List.mem_cons.mp hmem with rfl | hmem
        · refine ⟨[], line, lines, rfl, hline, fun l hl c hc => ?_⟩
          simpa using hlater l hl c hc
        · obtain ⟨c, hc, hkept⟩ := hline
          exact absurd hkept (hlater line hmem c hc)

/-- Code ends behind the last line with something to keep. -/
theorem chunks_normalize {code : Text} {front tail : List Text} {line : Text}
    (hlines : collapseBlankRuns code.chunks = front ++ line :: tail)
    (hline : ∃ c ∈ line, isEndChar c = false) (htail : ∀ l ∈ tail, ∀ c ∈ l, isEndChar c = true) :
    (normalize code).chunks = front ++ [Text.trimEndWhile isEndChar line ++ ['\n']] := by
  have his := isLines_collapseBlankRuns (Text.isLines_chunks code)
  rw [hlines] at his
  have hcut := Text.chunks_trimEndWhile his rfl hline htail
  have hne : Text.trimEndWhile isEndChar (front ++ line :: tail).flatten ≠ [] := by
    intro hnil
    obtain ⟨c, hc, hkept⟩ := hline
    obtain ⟨w, hw, hall⟩ :=
      Text.exists_eq_trimEndWhile_append isEndChar (front ++ line :: tail).flatten
    rw [hnil, List.nil_append] at hw
    rw [hall c (hw ▸ List.mem_flatten.mpr ⟨line, by simp, hc⟩)] at hkept
    contradiction
  have hnormal : normalize code
      = Text.trimEndWhile isEndChar (front ++ line :: tail).flatten ++ ['\n'] := by
    rw [normalize_eq rfl, hlines]
    exact if_neg fun hempty => hne (List.isEmpty_iff.mp hempty)
  rw [hnormal, hcut]

end Weave.Code
