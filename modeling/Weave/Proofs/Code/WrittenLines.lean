import Weave.Proofs.Code.BlankLines
import Weave.Proofs.Fence.Run

/-!
# The layout keeps what is written

The layout of code is done once and for all: laid out code stays as it is, and its written lines,
those with more than white space, are the written lines of the code, moved to the left.

* `writtenLines_dedent`: each written line loses the common indentation, which is the smallest one
  of a written line (`isLeast_commonIndent`).
* `trimmedLast_normalize`: the normal form keeps the written lines, but for blanks at the end of the
  last one.
* `normalize_dedent_eq_self_iff`: the code that the layout leaves alone is the code with the three
  properties of `IsLaidOut`, and what the layout answers has them (`isLaidOut_normalize_dedent`).
-/

namespace Weave

namespace Code

variable {line : Text} {lines : List Text} {code : Text}

/-! ## Written lines -/

/-- The lines with more than white space. -/
def written (lines : List Text) : List Text := lines.filter (!·.isAllSpace)

/-- A line without its newline. -/
def withoutNewline (line : Text) : Text := Text.trimEndWhile (· == '\n') line

/-- The lines of some code with more than white space, without their newlines. -/
def writtenLines (code : Text) : List Text := (written code.chunks).map withoutNewline

theorem written_append (front back : List Text) :
    written (front ++ back) = written front ++ written back :=
  List.filter_append front back

theorem mem_written : line ∈ written lines ↔ line ∈ lines ∧ line.isAllSpace = false := by
  simp [written, List.mem_filter]

theorem written_eq_nil (h : ∀ line ∈ lines, line.isAllSpace = true) : written lines = [] := by
  simpa [written] using h

theorem written_cons_of_blank (h : line.isAllSpace = true) :
    written (line :: lines) = written lines := by
  simp [written, h]

theorem written_cons (h : line.isAllSpace = false) :
    written (line :: lines) = line :: written lines := by
  simp [written, h]

theorem isSpace_of_isNewline {c : Char} (h : (c == '\n') = true) : Text.isSpace c = true := by
  rw [beq_iff_eq] at h
  subst h
  rfl

theorem isAllSpace_withoutNewline (line : Text) :
    (withoutNewline line).isAllSpace = line.isAllSpace :=
  Text.isAllSpace_trimEndWhile fun _ => isSpace_of_isNewline

theorem indentOf_withoutNewline (h : line.isAllSpace = false) :
    indentOf (withoutNewline line) = indentOf line :=
  indentOf_trimEndWhile (fun _ => isSpace_of_isNewline) h

theorem isAllSpace_of_mem_writtenLines (h : line ∈ writtenLines code) :
    line.isAllSpace = false := by
  obtain ⟨chunk, hchunk, rfl⟩ := List.mem_map.mp h
  rw [isAllSpace_withoutNewline]
  exact (mem_written.mp hchunk).2

/-- Only the end of a line is a newline. -/
theorem newline_notMem_withoutNewline (h : Text.IsLines lines) (hline : line ∈ lines) :
    '\n' ∉ withoutNewline line := by
  have hsingle : Text.IsLines [line] := h.sublist (List.singleton_sublist.mpr hline)
  cases hsingle with
  | last ne free => exact fun hmem => free (Text.mem_of_mem_trimEndWhile hmem)
  | @cons body _ free later =>
      unfold withoutNewline
      rw [Text.trimEndWhile_append_of_forall body (by simp)]
      exact fun hmem => free (Text.mem_of_mem_trimEndWhile hmem)

theorem withoutNewline_concat {body : Text} (free : '\n' ∉ body) :
    withoutNewline (body ++ ['\n']) = body := by
  unfold withoutNewline
  rw [Text.trimEndWhile_append_of_forall body (by simp)]
  apply Text.trimEndWhile_eq_self
  intro c hc
  rw [beq_eq_false_iff_ne]
  rintro rfl
  exact free (List.mem_of_getLast? hc)

/-! ## The smallest indentation -/

theorem isAllSpace_dropNewline (line : Text) : line.dropNewline.isAllSpace = line.isAllSpace := by
  obtain ⟨w, hw, hspace⟩ := exists_dropNewline_append line
  have hsplit := congrArg Text.isAllSpace hw
  rw [Text.isAllSpace_append, hspace, Bool.and_true] at hsplit
  exact hsplit.symm

theorem indentOf_dropNewline (h : line.isAllSpace = false) :
    indentOf line.dropNewline = indentOf line := by
  obtain ⟨w, hw, -⟩ := exists_dropNewline_append line
  have hkept : line.dropNewline.isAllSpace = false := by rw [isAllSpace_dropNewline, h]
  have hindent := congrArg indentOf hw
  rw [indentOf_append hkept] at hindent
  exact hindent.symm

/-- The two notions of a line, with a carriage return at its end and without, agree on which lines
are written and on how far these are indented. -/
theorem commonIndent_eq (code : Text) :
    commonIndent code = ((writtenLines code).map indentOf).min?.getD 0 := by
  have hkept : code.lines.filter (!·.isAllSpace) = (written code.chunks).map Text.dropNewline := by
    unfold Text.lines written
    rw [List.filter_map]
    congr 1
    apply List.filter_congr
    intro line hline
    simp [isAllSpace_dropNewline]
  have hindent : (code.lines.filter (!·.isAllSpace)).map indentOf
      = (writtenLines code).map indentOf := by
    rw [hkept, writtenLines, List.map_map, List.map_map]
    apply List.map_congr_left
    intro line hline
    have hsaid := (mem_written.mp hline).2
    simp [indentOf_dropNewline hsaid, indentOf_withoutNewline hsaid]
  unfold commonIndent
  rw [hindent]

/-- The common indentation is that of a written line, and no written line has a smaller one. -/
theorem isLeast_commonIndent (h : writtenLines code ≠ []) :
    (∃ line ∈ writtenLines code, indentOf line = commonIndent code)
      ∧ ∀ line ∈ writtenLines code, commonIndent code ≤ indentOf line := by
  rw [commonIndent_eq]
  cases hmin : ((writtenLines code).map indentOf).min? with
  | none =>
      rw [List.min?_eq_none_iff, List.map_eq_nil_iff] at hmin
      contradiction
  | some least =>
      obtain ⟨hmem, hle⟩ := List.min?_eq_some_iff.mp hmin
      refine ⟨List.mem_map.mp hmem, ?_⟩
      intro line hline
      exact hle _ (List.mem_map_of_mem hline)

/-! ## Dedented lines -/

theorem isBlank_of_mem_take {columns : Nat} (h : columns ≤ indentOf line) {c : Char}
    (hc : c ∈ line.take columns) : Text.isBlank c = true := by
  have hindent : line.take columns <+: line.takeWhile Text.isBlank := by
    apply List.prefix_of_prefix_length_le (List.take_prefix _ _) (List.takeWhile_prefix _)
    exact Nat.le_trans (List.length_take_le _ _) h
  exact List.mem_takeWhile_imp (hindent.subset hc)

/-- A line that loses some of its indentation stays blank or written. -/
theorem isAllSpace_drop {columns : Nat} (h : columns ≤ indentOf line) :
    Text.isAllSpace (line.drop columns) = line.isAllSpace := by
  have hspace : Text.isAllSpace (line.take columns) = true := Text.isAllSpace_eq_true_iff.mpr
    fun c hc => Text.isSpace_of_isBlank (isBlank_of_mem_take h hc)
  have hsplit := Text.isAllSpace_append (line.take columns) (line.drop columns)
  rw [List.take_append_drop, hspace, Bool.true_and] at hsplit
  exact hsplit.symm

/-- Cutting a written line in front leaves its end alone. -/
theorem withoutNewline_drop {columns : Nat} (hsaid : line.isAllSpace = false)
    (h : columns ≤ indentOf line) :
    withoutNewline (line.drop columns) = (withoutNewline line).drop columns := by
  have hlength : (line.take columns).length = columns := by
    have hlt := indentOf_lt_length hsaid
    rw [List.length_take]
    omega
  have hkept : ∃ c ∈ line.drop columns, (c == '\n') = false := by
    by_contra hnone
    have hspace : Text.isAllSpace (line.drop columns) = true := by
      apply Text.isAllSpace_eq_true_iff.mpr
      intro c hc
      apply isSpace_of_isNewline
      by_contra hc'
      exact hnone ⟨c, hc, by simpa using hc'⟩
    rw [isAllSpace_drop h, hsaid] at hspace
    contradiction
  have hcut : withoutNewline line = line.take columns ++ withoutNewline (line.drop columns) := by
    have hend := Text.trimEndWhile_append_of_exists (line.take columns) hkept
    rwa [List.take_append_drop] at hend
  rw [hcut, List.drop_left' hlength]

theorem dedentLine_eq (common : Nat) (hsaid : line.isAllSpace = false) :
    dedentLine common line = line.drop common := by
  unfold dedentLine
  rw [hsaid]
  rfl

theorem isAllSpace_dedentLine {common : Nat}
    (h : line.isAllSpace = false → common ≤ indentOf line) :
    (dedentLine common line).isAllSpace = line.isAllSpace := by
  cases hsaid : line.isAllSpace with
  | false => rw [dedentLine_eq common hsaid, isAllSpace_drop (h hsaid), hsaid]
  | true =>
      rw [Text.isAllSpace_eq_true_iff] at hsaid ⊢
      intro c hc
      exact hsaid c ((dedentLine_suffix common line).subset hc)

/-- Dedenting cuts the written lines in front, and makes no line blank or written. -/
theorem written_map_dedentLine {common : Nat}
    (h : ∀ line ∈ lines, line.isAllSpace = false → common ≤ indentOf line) :
    written ((lines.map (dedentLine common)).filter (!·.isEmpty))
      = (written lines).map (List.drop common) := by
  induction lines with
  | nil => rfl
  | cons line lines ih =>
      have hline := h line List.mem_cons_self
      have hlater := ih fun l hl => h l (List.mem_cons_of_mem line hl)
      have hspace := isAllSpace_dedentLine hline
      rw [List.map_cons]
      cases hsaid : line.isAllSpace with
      | true =>
          rw [written_cons_of_blank hsaid]
          by_cases hempty : dedentLine common line = []
          · simpa [hempty] using hlater
          · rw [List.filter_cons_of_pos (by simpa using hempty),
              written_cons_of_blank (by rw [hspace, hsaid]), hlater]
      | false =>
          have hne : dedentLine common line ≠ [] := dedentLine_ne_nil hsaid (hline hsaid)
          rw [written_cons hsaid, List.filter_cons_of_pos (by simpa using hne),
            written_cons (by rw [hspace, hsaid]), hlater, dedentLine_eq common hsaid]
          rfl

theorem writtenLines_dedent (code : Text) :
    writtenLines (dedent code) = (writtenLines code).map (List.drop (commonIndent code)) := by
  by_cases hzero : commonIndent code = 0
  · have hcode : dedent code = code := if_pos hzero
    rw [hcode, hzero]
    exact (List.map_id'' (fun _ => rfl) _).symm
  · have hindent : ∀ line ∈ code.chunks, line.isAllSpace = false →
        commonIndent code ≤ indentOf line := fun line hline => commonIndent_le_indentOf hline
    unfold writtenLines
    rw [chunks_dedent hzero, written_map_dedentLine hindent, List.map_map, List.map_map]
    apply List.map_congr_left
    intro line hline
    obtain ⟨hmem, hsaid⟩ := mem_written.mp hline
    exact withoutNewline_drop hsaid (hindent line hmem hsaid)

/-! ## Normal lines -/

/-- The same lines, but for blanks at the end of the last one. -/
inductive TrimmedLast : List Text → List Text → Prop where
  | same (lines : List Text) : TrimmedLast lines lines
  | cut (front : List Text) (line : Text) :
      TrimmedLast (front ++ [line]) (front ++ [Text.trimEndWhile Text.isBlank line])

theorem TrimmedLast.map_indentOf {lines' : List Text} (h : TrimmedLast lines lines')
    (hsaid : ∀ line ∈ lines, line.isAllSpace = false) :
    lines'.map indentOf = lines.map indentOf := by
  cases h with
  | same => rfl
  | cut front line =>
      have hline : line.isAllSpace = false := hsaid line (by simp)
      simp [indentOf_trimEndWhile (fun _ => Text.isSpace_of_isBlank) hline]

theorem isAllSpace_of_isBlankLine (h : isBlankLine line = true) : line.isAllSpace = true := by
  by_contra hsaid
  rw [Bool.not_eq_true] at hsaid
  rw [isBlankLine_eq_false hsaid] at h
  contradiction

/-- Shrinking the runs of blank lines takes no written line out and puts none in. -/
theorem written_collapseBlankRuns (lines : List Text) :
    written (collapseBlankRuns lines) = written lines := by
  induction lines using collapseBlankRuns.induct with
  | case1 =>
      unfold collapseBlankRuns
      rfl
  | case2 line rest hrun ih =>
      have hblank : written (rest.takeWhile isBlankLine) = [] := by
        apply written_eq_nil
        intro l hl
        exact isAllSpace_of_isBlankLine (List.mem_takeWhile_imp hl)
      have hrest : written rest = written (rest.dropWhile isBlankLine) := by
        have hsplit := written_append (rest.takeWhile isBlankLine) (rest.dropWhile isBlankLine)
        rwa [List.takeWhile_append_dropWhile, hblank, List.nil_append] at hsplit
      have hempty : Text.isAllSpace ['\n'] = true := rfl
      unfold collapseBlankRuns
      rw [if_pos hrun, ← List.singleton_append, written_append, written_cons_of_blank hempty, ih,
        ← hrest, ← written_append, List.singleton_append]
  | case3 line rest hrun ih =>
      unfold collapseBlankRuns
      rw [if_neg hrun, ← List.singleton_append, written_append, ih, ← written_append,
        List.singleton_append]

/-- In a line the end of the code is its newline and the blanks in front of that. -/
theorem trimEndWhile_isEndChar (h : Text.IsLines lines) (hline : line ∈ lines) :
    Text.trimEndWhile isEndChar line = Text.trimEndWhile Text.isBlank (withoutNewline line) := by
  have hfree : '\n' ∉ withoutNewline line := newline_notMem_withoutNewline h hline
  obtain ⟨w, hw, hnewline⟩ := Text.exists_eq_trimEndWhile_append (· == '\n') line
  obtain ⟨v, hv, hblank⟩ := Text.exists_eq_trimEndWhile_append Text.isBlank (withoutNewline line)
  have hend : ∀ c ∈ v ++ w, isEndChar c = true := by
    intro c hc
    rcases List.mem_append.mp hc with hc | hc
    · simp [isEndChar, hblank c hc]
    · simp [isEndChar, hnewline c hc]
  have hline : line = Text.trimEndWhile Text.isBlank (withoutNewline line) ++ (v ++ w) := by
    rw [← List.append_assoc, ← hv]
    exact hw
  have hlast : ∀ c ∈ (Text.trimEndWhile Text.isBlank (withoutNewline line)).getLast?,
      isEndChar c = false := by
    intro c hc
    have hkept := Text.eq_false_of_mem_getLast?_trimEndWhile hc
    have hne : c ≠ '\n' := by
      rintro rfl
      exact hfree (Text.mem_of_mem_trimEndWhile (List.mem_of_getLast? hc))
    simp [isEndChar, hkept, hne]
  have hcut := Text.trimEndWhile_append_of_forall
    (Text.trimEndWhile Text.isBlank (withoutNewline line)) hend
  rw [← hline, Text.trimEndWhile_eq_self hlast] at hcut
  exact hcut

theorem forall_isEndChar (h : ¬∃ c ∈ code, isEndChar c = false) :
    ∀ c ∈ code, isEndChar c = true := by
  intro c hc
  by_contra hkept
  exact h ⟨c, hc, by simpa using hkept⟩

/-- The normal form keeps the written lines, but for blanks at the end of the last one. -/
theorem trimmedLast_normalize (code : Text) :
    TrimmedLast (writtenLines code) (writtenLines (normalize code)) := by
  by_cases hkept : ∃ c ∈ code, isEndChar c = false
  · have hlines := isLines_collapseBlankRuns (Text.isLines_chunks code)
    obtain ⟨front, line, tail, hcollapse, hline, htail⟩ :=
      exists_last_kept (exists_kept_collapseBlankRuns_iff.mpr hkept)
    have hmem : line ∈ collapseBlankRuns code.chunks := by simp [hcollapse]
    have htrim := trimEndWhile_isEndChar hlines hmem
    have hcode : written code.chunks = written front ++ written (line :: tail) := by
      rw [← written_collapseBlankRuns, hcollapse, written_append]
    have hnone : written tail = [] := by
      apply written_eq_nil
      intro l hl
      exact Text.isAllSpace_eq_true_iff.mpr fun c hc => isSpace_of_isEndChar (htail l hl c hc)
    have hspace : Text.isAllSpace (Text.trimEndWhile isEndChar line ++ ['\n'])
        = line.isAllSpace := by
      have hcut := Text.isAllSpace_trimEndWhile (t := line) fun c => isSpace_of_isEndChar
      rw [Text.isAllSpace_append, hcut]
      exact Bool.and_true _
    unfold writtenLines
    rw [chunks_normalize hcollapse hline htail, written_append, hcode]
    cases hsaid : line.isAllSpace with
    | true =>
        rw [written_cons_of_blank hsaid, written_cons_of_blank (hspace.trans hsaid), hnone]
        exact .same _
    | false =>
        have hfree : '\n' ∉ Text.trimEndWhile isEndChar line := by
          rw [htrim]
          intro hc
          exact newline_notMem_withoutNewline hlines hmem (Text.mem_of_mem_trimEndWhile hc)
        rw [written_cons hsaid, written_cons (hspace.trans hsaid), hnone, List.map_append,
          List.map_append, List.map_singleton]
        show TrimmedLast _ (_ ++ [withoutNewline (Text.trimEndWhile isEndChar line ++ ['\n'])])
        rw [withoutNewline_concat hfree, htrim]
        exact .cut _ _
  · have hend := forall_isEndChar hkept
    have hnone : writtenLines code = [] := by
      unfold writtenLines
      rw [written_eq_nil, List.map_nil]
      intro line hline
      apply Text.isAllSpace_eq_true_iff.mpr
      intro c hc
      apply isSpace_of_isEndChar
      apply hend
      rw [← Text.flatten_chunks code]
      exact List.mem_flatten_of_mem hline hc
    rw [normalize_eq_nil hend, hnone]
    exact .same []

theorem commonIndent_normalize (code : Text) :
    commonIndent (normalize code) = commonIndent code := by
  rw [commonIndent_eq, commonIndent_eq,
    (trimmedLast_normalize code).map_indentOf fun _ => isAllSpace_of_mem_writtenLines]

/-! ## Laid out code -/

/-- Code that nothing is left to do about. -/
structure IsLaidOut (code : Text) : Prop where
  flush : commonIndent code = 0
  noBlankPair : ∀ i, ¬ BlankPairAt code.chunks (i + 1)
  ending : code = [] ∨ ∃ body c, code = body ++ [c, '\n'] ∧ isEndChar c = false

theorem commonIndent_dedent (code : Text) : commonIndent (dedent code) = 0 := by
  by_cases hnone : writtenLines code = []
  · have hlines := writtenLines_dedent code
    rw [hnone, List.map_nil] at hlines
    simp [commonIndent_eq, hlines]
  · obtain ⟨⟨first, hfirst, hindent⟩, -⟩ := isLeast_commonIndent hnone
    have hmem : first.drop (commonIndent code) ∈ writtenLines (dedent code) := by
      rw [writtenLines_dedent]
      exact List.mem_map_of_mem hfirst
    have hle := (isLeast_commonIndent (List.ne_nil_of_mem hmem)).2 _ hmem
    have hzero : indentOf (first.drop (commonIndent code)) = 0 := by
      have hmoved := (moved_drop (Nat.le_of_eq hindent.symm)).indent_eq
      omega
    omega

/-- Lines without two blank lines in a row behind the first one have no run to shrink. -/
theorem collapseBlankRuns_eq_self (h : ∀ i, ¬ BlankPairAt lines (i + 1)) :
    collapseBlankRuns lines = lines := by
  induction lines using collapseBlankRuns.induct with
  | case1 =>
      unfold collapseBlankRuns
      rfl
  | case2 line rest hrun ih =>
      rw [Bool.and_eq_true, decide_eq_true_iff, two_le_length_takeWhile_iff] at hrun
      exact absurd hrun.2 (h 0)
  | case3 line rest hrun ih =>
      unfold collapseBlankRuns
      rw [if_neg hrun, ih fun i => h (i + 1)]

theorem not_blankPairAt_normalize (code : Text) (i : Nat) :
    ¬ BlankPairAt (normalize code).chunks (i + 1) := by
  by_cases hkept : ∃ c ∈ code, isEndChar c = false
  · obtain ⟨front, line, tail, hlines, hline, htail⟩ :=
      exists_last_kept (exists_kept_collapseBlankRuns_iff.mpr hkept)
    have hnext : isBlankLine line = false := isBlankLine_eq_false_of_kept hline
    have hend : isBlankLine (Text.trimEndWhile isEndChar line ++ ['\n']) = false := by
      obtain ⟨c, hc, hcend⟩ := hline
      have hmem := Text.mem_trimEndWhile hc hcend
      exact isBlankLine_eq_false_of_kept ⟨c, List.mem_append_left _ hmem, hcend⟩
    rw [chunks_normalize hlines hline htail, blankPairAt_concat hend,
      blankPairAt_front_iff (Text.isLines_chunks code) hlines hnext]
    omega
  · rw [normalize_eq_nil (forall_isEndChar hkept)]
    exact not_blankPairAt_nil

theorem isLaidOut_normalize_dedent (code : Text) : IsLaidOut (normalize (dedent code)) where
  flush := by rw [commonIndent_normalize, commonIndent_dedent]
  noBlankPair := not_blankPairAt_normalize (dedent code)
  ending := normalize_eq_nil_or (dedent code)

theorem IsLaidOut.normalize_eq (h : IsLaidOut code) : normalize code = code := by
  have hlines : (collapseBlankRuns code.chunks).flatten = code := by
    rw [collapseBlankRuns_eq_self h.noBlankPair, Text.flatten_chunks]
  rcases h.ending with rfl | ⟨body, c, hcode, hc⟩
  · exact normalize_eq_nil nofun
  · have hcut : Text.trimEndWhile isEndChar (collapseBlankRuns code.chunks).flatten
        = body ++ [c] := by
      rw [hlines, hcode, Text.trimEndWhile_append_cons body hc]
      rfl
    rw [Code.normalize_eq hcut, hcode]
    simp

/-- The layout leaves alone what is laid out, and nothing else. -/
theorem normalize_dedent_eq_self_iff : normalize (dedent code) = code ↔ IsLaidOut code := by
  constructor
  · intro h
    rw [← h]
    exact isLaidOut_normalize_dedent code
  · intro h
    have hcode : dedent code = code := if_pos h.flush
    rw [hcode, h.normalize_eq]

end Code

/-- Code that loses no docstring is laid out once and for all.  Its written lines stay, in order,
each without the columns that all of them are indented by, and the last one possibly without blanks
at its end. -/
theorem CodeSources.finish_finish {sources : CodeSources}
    (h : sources.options.stripDocstrings = false) (code : Text) :
    sources.finish (sources.finish code) = sources.finish code
      ∧ ∃ columns,
        (Code.writtenLines code ≠ [] → ∃ line ∈ Code.writtenLines code, indentOf line = columns)
          ∧ (∀ line ∈ Code.writtenLines code, columns ≤ indentOf line)
          ∧ Code.TrimmedLast ((Code.writtenLines code).map (List.drop columns))
            (Code.writtenLines (sources.finish code)) := by
  have hfinish : ∀ t, sources.finish t = Code.normalize (Code.dedent t) := by
    intro t
    unfold CodeSources.finish
    rw [h]
    rfl
  refine ⟨?_, Code.commonIndent code, ?_, ?_, ?_⟩
  · rw [hfinish, hfinish]
    exact Code.normalize_dedent_eq_self_iff.mpr (Code.isLaidOut_normalize_dedent code)
  · exact fun hne => (Code.isLeast_commonIndent hne).1
  · intro line hline
    exact (Code.isLeast_commonIndent (List.ne_nil_of_mem hline)).2 line hline
  · rw [hfinish, ← Code.writtenLines_dedent]
    exact Code.trimmedLast_normalize (Code.dedent code)

/-- The runs of blank lines shrink in front and in the middle and vanish at the end, and three
written lines stay, four columns further to the left. -/
theorem CodeSources.finish_finish_indentedBranch :
    let sources := CodeSources.ofFiles []
    let code : Text := "\n\n\n    if a:\n\n \t\n\n        b  \r\n  \n    c \t\n\n"
    sources.options.stripDocstrings = false
      ∧ sources.finish code = "\n\nif a:\n\n    b  \r\n\nc\n".toList
      ∧ sources.finish (sources.finish code) = sources.finish code
      ∧ ∃ columns,
        (Code.writtenLines code ≠ [] → ∃ line ∈ Code.writtenLines code, indentOf line = columns)
          ∧ (∀ line ∈ Code.writtenLines code, columns ≤ indentOf line)
          ∧ Code.TrimmedLast ((Code.writtenLines code).map (List.drop columns))
            (Code.writtenLines (sources.finish code)) := by
  intro sources code
  have hkeep : sources.options.stripDocstrings = false := rfl
  have hfinish : sources.finish code = "\n\nif a:\n\n    b  \r\n\nc\n".toList := by
    decide +kernel
  exact ⟨hkeep, hfinish, finish_finish hkeep code⟩

end Weave
