import Weave.Proofs.Code.Layout

/-!
# Blank lines in laid out code

Two blank lines in a row survive the layout only as the first two lines of the code.

* `not_blankPairAt_collapseBlankRuns`: no pair is left behind the first line, by induction on the
  runs that are shrunk.
* `blankPairAt_collapseBlankRuns_zero`: a pair at the start stays, because a run is shrunk behind a
  line only.
* `blankPairAt_normalize`: what is cut off the end takes no pair away.
-/

namespace Weave.Code

variable {line : Text} {lines front : List Text} {i : Nat}

/-- A blank line is a newline behind spaces and tabs. -/
theorem isBlankLine_eq_true_iff :
    isBlankLine line = true ↔ ∃ w, line = w ++ ['\n'] ∧ ∀ c ∈ w, c = ' ' ∨ c = '\t' := by
  have hclass : ∀ c, Text.isBlank c = true ↔ c = ' ' ∨ c = '\t' := by simp [Text.isBlank]
  unfold isBlankLine
  rw [beq_iff_eq]
  constructor
  · intro h
    refine ⟨line.takeWhile Text.isBlank, ?_, fun c hc => (hclass c).mp (List.mem_takeWhile_imp hc)⟩
    rw [← h, List.takeWhile_append_dropWhile]
  · rintro ⟨w, rfl, hw⟩
    rw [List.dropWhile_append_of_pos fun c hc => (hclass c).mpr (hw c hc)]
    rfl

/-- A line with something to keep is not blank. -/
theorem isBlankLine_eq_false_of_kept (h : ∃ c ∈ line, isEndChar c = false) :
    isBlankLine line = false := by
  obtain ⟨c, hc, hkept⟩ := h
  rw [← Bool.not_eq_true, isBlankLine_eq_true_iff]
  rintro ⟨w, rfl, hw⟩
  rcases List.mem_append.mp hc with hc | hc
  · rcases hw c hc with rfl | rfl <;> contradiction
  · rw [List.mem_singleton] at hc
    subst hc
    contradiction

/-! ## Two blank lines in a row -/

/-- Whether the lines number `i` and `i + 1` are both blank. -/
def BlankPairAt (lines : List Text) (i : Nat) : Prop :=
  lines[i]?.any isBlankLine = true ∧ lines[i + 1]?.any isBlankLine = true

instance : Decidable (BlankPairAt lines i) := inferInstanceAs (Decidable (_ ∧ _))

@[simp] theorem blankPairAt_cons_succ :
    BlankPairAt (line :: lines) (i + 1) ↔ BlankPairAt lines i := Iff.rfl

theorem blankPairAt_cons_zero :
    BlankPairAt (line :: lines) 0
      ↔ isBlankLine line = true ∧ lines.head?.any isBlankLine = true := by
  rw [List.head?_eq_getElem?]
  rfl

theorem not_blankPairAt_nil : ¬ BlankPairAt [] i := by
  simp [BlankPairAt]

theorem BlankPairAt.lt_length (h : BlankPairAt lines i) : i + 1 < lines.length := by
  by_contra hlength
  have hnone : lines[i + 1]? = none := List.getElem?_eq_none (Nat.le_of_not_lt hlength)
  have hnext := h.2
  rw [hnone] at hnext
  contradiction

/-- A run of blank lines has two if the first two lines are blank. -/
theorem two_le_length_takeWhile_iff :
    2 ≤ (lines.takeWhile isBlankLine).length ↔ BlankPairAt lines 0 := by
  cases lines with
  | nil => simp [not_blankPairAt_nil]
  | cons line lines =>
      rw [blankPairAt_cons_zero]
      cases hline : isBlankLine line with
      | false => simp [hline]
      | true =>
          cases lines with
          | nil => simp [hline]
          | cons next lines =>
              cases hnext : isBlankLine next <;> simp [hline, hnext]

/-- A line that is not blank ends the pairs in front of it. -/
theorem blankPairAt_append_cons (hline : isBlankLine line = false) (hi : i ≤ front.length) :
    BlankPairAt (front ++ line :: lines) i ↔ BlankPairAt front i := by
  induction front generalizing i with
  | nil =>
      obtain rfl : i = 0 := Nat.le_zero.mp hi
      simp [blankPairAt_cons_zero, not_blankPairAt_nil, hline]
  | cons first front ih =>
      cases i with
      | succ i => exact ih (Nat.le_of_succ_le_succ hi)
      | zero =>
          rw [List.cons_append, blankPairAt_cons_zero, blankPairAt_cons_zero]
          cases front with
          | nil => simp [hline]
          | cons next front => rfl

theorem blankPairAt_concat (hline : isBlankLine line = false) :
    BlankPairAt (front ++ [line]) i ↔ BlankPairAt front i := by
  by_cases hi : i ≤ front.length
  · exact blankPairAt_append_cons hline hi
  · constructor
    · intro h
      have hlt := h.lt_length
      rw [List.length_append, List.length_singleton] at hlt
      omega
    · intro h
      have hlt := h.lt_length
      omega

/-! ## Shrunk runs -/

theorem head?_collapseBlankRuns (lines : List Text) :
    (collapseBlankRuns lines).head? = lines.head? := by
  cases lines with
  | nil =>
      unfold collapseBlankRuns
      rfl
  | cons line rest =>
      obtain ⟨rest', hrest, -⟩ := exists_collapseBlankRuns_cons line rest
      rw [hrest]
      rfl

/-- The run that is shrunk is behind a line, so one that the code starts with keeps two lines. -/
theorem blankPairAt_collapseBlankRuns_zero :
    BlankPairAt (collapseBlankRuns lines) 0 ↔ BlankPairAt lines 0 := by
  cases lines with
  | nil =>
      unfold collapseBlankRuns
      rfl
  | cons line rest =>
      unfold collapseBlankRuns
      split
      · rename_i hrun
        rw [Bool.and_eq_true, decide_eq_true_iff, two_le_length_takeWhile_iff] at hrun
        have hnext : rest.head?.any isBlankLine = true := by
          rw [List.head?_eq_getElem?]
          exact hrun.2.1
        rw [blankPairAt_cons_zero, blankPairAt_cons_zero, hnext]
        rfl
      · rw [blankPairAt_cons_zero, blankPairAt_cons_zero, head?_collapseBlankRuns]

/-- Behind the first line no two blank lines are left in a row. -/
theorem not_blankPairAt_collapseBlankRuns (h : Text.IsLines lines) :
    ¬ BlankPairAt (collapseBlankRuns lines) (i + 1) := by
  induction lines using collapseBlankRuns.induct generalizing i with
  | case1 =>
      unfold collapseBlankRuns
      exact not_blankPairAt_nil
  | case2 line rest hrun ih =>
      have hlater : Text.IsLines (rest.dropWhile isBlankLine) :=
        h.tail.sublist (List.dropWhile_sublist _)
      -- The line behind a run is not blank.
      have hhead : (collapseBlankRuns (rest.dropWhile isBlankLine)).head?.any isBlankLine
          = false := by
        rw [head?_collapseBlankRuns]
        have hnot := List.head?_dropWhile_not isBlankLine rest
        cases hnext : (rest.dropWhile isBlankLine).head? with
        | none => rfl
        | some next =>
            rw [hnext] at hnot
            exact hnot
      unfold collapseBlankRuns
      rw [if_pos hrun, blankPairAt_cons_succ]
      cases i with
      | zero =>
          rw [blankPairAt_cons_zero, hhead]
          simp
      | succ i =>
          cases i with
          | zero =>
              intro hpair
              rw [List.head?_eq_getElem?] at hhead
              rw [blankPairAt_cons_succ, BlankPairAt, hhead] at hpair
              exact Bool.false_ne_true hpair.1
          | succ i => exact ih hlater
  | case3 line rest hrun ih =>
      unfold collapseBlankRuns
      rw [if_neg hrun, blankPairAt_cons_succ]
      cases i with
      | succ i => exact ih h.tail
      | zero =>
          rw [blankPairAt_collapseBlankRuns_zero]
          intro hpair
          refine hrun ?_
          cases rest with
          | nil => exact absurd hpair not_blankPairAt_nil
          | cons next rest =>
              obtain ⟨body, rfl, -⟩ := h.exists_body
              have hend : Text.endsWith (body ++ ['\n']) ['\n'] = true :=
                Option.isSome_iff_exists.mpr ⟨body, Text.dropSuffix?_eq_some_iff.mpr rfl⟩
              rw [Bool.and_eq_true, decide_eq_true_iff, two_le_length_takeWhile_iff]
              exact ⟨hend, hpair⟩

/-- In front of a line that is not blank a pair is left at the start only, where it stood before. -/
theorem blankPairAt_front_iff {tail : List Text} (h : Text.IsLines lines)
    (hlines : collapseBlankRuns lines = front ++ line :: tail) (hline : isBlankLine line = false) :
    BlankPairAt front i ↔ i = 0 ∧ BlankPairAt lines 0 := by
  constructor
  · intro hpair
    have hle : i ≤ front.length := Nat.le_of_succ_le (Nat.le_of_lt hpair.lt_length)
    rw [← blankPairAt_append_cons hline hle, ← hlines] at hpair
    cases i with
    | zero => exact ⟨rfl, blankPairAt_collapseBlankRuns_zero.mp hpair⟩
    | succ i => exact absurd hpair (not_blankPairAt_collapseBlankRuns h)
  · rintro ⟨rfl, hpair⟩
    rw [← blankPairAt_collapseBlankRuns_zero, hlines] at hpair
    exact (blankPairAt_append_cons hline (Nat.zero_le _)).mp hpair

/-- Only blank lines are taken out. -/
theorem mem_collapseBlankRuns_of_isBlankLine (hmem : line ∈ lines)
    (hline : isBlankLine line = false) : line ∈ collapseBlankRuns lines := by
  induction lines using collapseBlankRuns.induct with
  | case1 => contradiction
  | case2 first rest hrun ih =>
      unfold collapseBlankRuns
      rw [if_pos hrun]
      rcases List.mem_cons.mp hmem with rfl | hmem
      · exact List.mem_cons_self
      · rw [← List.takeWhile_append_dropWhile (p := isBlankLine) (l := rest)] at hmem
        rcases List.mem_append.mp hmem with hblank | hmem
        · rw [List.mem_takeWhile_imp hblank] at hline
          contradiction
        · exact List.mem_cons_of_mem _ (List.mem_cons_of_mem _ (ih hmem))
  | case3 first rest hrun ih =>
      unfold collapseBlankRuns
      rw [if_neg hrun]
      rcases List.mem_cons.mp hmem with rfl | hmem
      · exact List.mem_cons_self
      · exact List.mem_cons_of_mem _ (ih hmem)

/-! ## The end of the code -/

variable {code : Text}

/-- Shrinking runs takes out blank lines only, and none of their characters is one to keep. -/
theorem exists_kept_collapseBlankRuns_iff :
    (∃ line ∈ collapseBlankRuns code.chunks, ∃ c ∈ line, isEndChar c = false)
      ↔ ∃ c ∈ code, isEndChar c = false := by
  constructor
  · rintro ⟨line, hline, c, hc, hkept⟩
    rcases mem_collapseBlankRuns hline with rfl | hmem
    · rw [List.mem_singleton] at hc
      subst hc
      contradiction
    · refine ⟨c, ?_, hkept⟩
      rw [← Text.flatten_chunks code]
      exact List.mem_flatten_of_mem hmem hc
  · rintro ⟨c, hc, hkept⟩
    rw [← Text.flatten_chunks code] at hc
    obtain ⟨line, hline, hcline⟩ := List.mem_flatten.mp hc
    have hblank := isBlankLine_eq_false_of_kept ⟨c, hcline, hkept⟩
    exact ⟨line, mem_collapseBlankRuns_of_isBlankLine hline hblank, c, hcline, hkept⟩

/-- Nothing stays of code without a character to keep. -/
theorem normalize_eq_nil (h : ∀ c ∈ code, isEndChar c = true) : normalize code = [] := by
  have hbody : Text.trimEndWhile isEndChar (collapseBlankRuns code.chunks).flatten = [] := by
    rw [Text.trimEndWhile_eq_nil_iff]
    intro c hc
    obtain ⟨line, hline, hcline⟩ := List.mem_flatten.mp hc
    by_contra hkept
    rw [Bool.not_eq_true] at hkept
    obtain ⟨d, hd, hd'⟩ := exists_kept_collapseBlankRuns_iff.mp ⟨line, hline, c, hcline, hkept⟩
    rw [h d hd] at hd'
    contradiction
  rw [normalize_eq hbody]
  rfl

theorem normalize_eq_nil_or (code : Text) :
    normalize code = [] ∨ ∃ body c, normalize code = body ++ [c, '\n'] ∧ isEndChar c = false := by
  rw [normalize_eq rfl]
  rcases List.eq_nil_or_concat (Text.trimEndWhile isEndChar (collapseBlankRuns code.chunks).flatten)
    with hbody | ⟨start, c, hbody⟩
  · rw [hbody]
    exact .inl rfl
  · have hlast : c ∈ (Text.trimEndWhile isEndChar
        (collapseBlankRuns code.chunks).flatten).getLast? := by simp [hbody]
    refine .inr ⟨start, c, ?_, Text.eq_false_of_mem_getLast?_trimEndWhile hlast⟩
    simp [hbody]

/-- Two blank lines in a row are left at the start only, where they stood before, and what is left
of the code ends in one newline behind a character that is neither blank nor a newline. -/
theorem blankPairAt_normalize (code : Text) :
    (∀ i, BlankPairAt (normalize code).chunks i
        ↔ i = 0 ∧ BlankPairAt code.chunks 0 ∧ ∃ c ∈ code, isEndChar c = false)
      ∧ (normalize code = []
        ∨ ∃ body c, normalize code = body ++ [c, '\n'] ∧ isEndChar c = false) := by
  refine ⟨fun i => ?_, normalize_eq_nil_or code⟩
  by_cases hkept : ∃ c ∈ code, isEndChar c = false
  · obtain ⟨front, line, tail, hlines, hline, htail⟩ :=
      exists_last_kept (exists_kept_collapseBlankRuns_iff.mpr hkept)
    have hend : isBlankLine (Text.trimEndWhile isEndChar line ++ ['\n']) = false := by
      obtain ⟨c, hc, hcend⟩ := hline
      have hmem := Text.mem_trimEndWhile hc hcend
      exact isBlankLine_eq_false_of_kept ⟨c, List.mem_append_left _ hmem, hcend⟩
    rw [chunks_normalize hlines hline htail, blankPairAt_concat hend,
      blankPairAt_front_iff (Text.isLines_chunks code) hlines (isBlankLine_eq_false_of_kept hline),
      and_iff_left hkept]
  · have hnil : normalize code = [] := normalize_eq_nil fun c hc => by
      by_contra hend
      exact hkept ⟨c, hc, by simpa using hend⟩
    rw [hnil]
    constructor
    · intro hpair
      exact absurd hpair not_blankPairAt_nil
    · rintro ⟨-, -, hpair⟩
      exact absurd hpair hkept

/-- The two empty lines that this code starts with stay. -/
theorem blankPairAt_normalize_two_empty_lines :
    BlankPairAt (normalize "\n\na\n".toList).chunks 0 := by
  decide +kernel

end Weave.Code
