import Mathlib.Data.List.TakeWhile
import Weave.Text.Space

/-!
# White space at the ends of a text

Cutting white space off one end of a text leaves the other end alone, unless nothing else is left.
The words of a text do not depend on white space at its ends (`words_append_of_isAllSpace`,
`words_trimEnd`).
-/

namespace Weave.Text

/-! ## At the start -/

theorem isAllSpace_eq_true_iff {t : Text} : t.isAllSpace = true ↔ ∀ c ∈ t, isSpace c = true :=
  List.all_eq_true

theorem isAllSpace_append (s t : Text) :
    isAllSpace (s ++ t) = (s.isAllSpace && t.isAllSpace) := by
  unfold isAllSpace
  exact List.all_append

theorem trimStart_eq_nil_iff {t : Text} : t.trimStart = [] ↔ t.isAllSpace = true := by
  unfold trimStart
  rw [List.dropWhile_eq_nil_iff, isAllSpace_eq_true_iff]

theorem trimStart_cons {c : Char} (hc : isSpace c = false) (t : Text) :
    trimStart (c :: t) = c :: t := by
  rw [trimStart, List.dropWhile_cons_of_neg (by simp [hc])]

/-- Text that holds more than white space is trimmed before what follows it. -/
theorem trimStart_append {t : Text} (h : t.isAllSpace = false) (more : Text) :
    trimStart (t ++ more) = t.trimStart ++ more := by
  have hne : t.trimStart ≠ [] := by
    rw [ne_eq, trimStart_eq_nil_iff, h]
    exact Bool.false_ne_true
  have hempty : (t.dropWhile isSpace).isEmpty = false := List.isEmpty_eq_false_iff.mpr hne
  unfold trimStart
  rw [List.dropWhile_append, hempty]
  rfl

/-- White space in front of a text is trimmed. -/
theorem trimStart_append_of_isAllSpace {s : Text} (h : s.isAllSpace = true) (t : Text) :
    trimStart (s ++ t) = t.trimStart := by
  have hempty : (s.dropWhile isSpace).isEmpty = true :=
    List.isEmpty_iff.mpr (trimStart_eq_nil_iff.mpr h)
  unfold trimStart
  rw [List.dropWhile_append, hempty]
  rfl

/-- White space is what trimming takes off the start. -/
theorem exists_eq_append_trimStart (t : Text) :
    ∃ indent, t = indent ++ t.trimStart ∧ indent.isAllSpace = true := by
  refine ⟨t.takeWhile isSpace, (List.takeWhile_append_dropWhile).symm, ?_⟩
  exact isAllSpace_eq_true_iff.mpr fun c hc => List.mem_takeWhile_imp hc

theorem isSpace_of_trimStart_eq_cons {c : Char} {t rest : Text} (h : t.trimStart = c :: rest) :
    isSpace c = false := by
  have hhead := List.head?_dropWhile_not isSpace t
  rw [show t.dropWhile isSpace = c :: rest from h] at hhead
  exact hhead

theorem trimStart_trimStart (t : Text) : trimStart (trimStart t) = trimStart t := by
  cases h : t.trimStart with
  | nil => rfl
  | cons c rest => exact trimStart_cons (isSpace_of_trimStart_eq_cons h) rest

/-! ## At the end -/

variable {p : Char → Bool}

/-- What is cut off the end of a text is of the class. -/
theorem exists_eq_trimEndWhile_append (p : Char → Bool) (t : Text) :
    ∃ w, t = trimEndWhile p t ++ w ∧ ∀ c ∈ w, p c = true := by
  refine ⟨(t.reverse.takeWhile p).reverse, ?_, ?_⟩
  · unfold trimEndWhile
    rw [← List.reverse_append, List.takeWhile_append_dropWhile, List.reverse_reverse]
  · intro c hc
    rw [List.mem_reverse] at hc
    exact List.mem_takeWhile_imp hc

theorem mem_of_mem_trimEndWhile {t : Text} {c : Char} (h : c ∈ trimEndWhile p t) : c ∈ t := by
  unfold trimEndWhile at h
  exact List.mem_reverse.mp ((List.dropWhile_sublist _).subset (List.mem_reverse.mp h))

/-- A character outside the class stays. -/
theorem mem_trimEndWhile {t : Text} {c : Char} (h : c ∈ t) (hc : p c = false) :
    c ∈ trimEndWhile p t := by
  obtain ⟨w, ht, hw⟩ := exists_eq_trimEndWhile_append p t
  rw [ht] at h
  rcases List.mem_append.mp h with hkept | hcut
  · exact hkept
  · rw [hw c hcut] at hc
    contradiction

/-- An end of the class is cut off altogether. -/
theorem trimEndWhile_append_of_forall (t : Text) {w : Text} (h : ∀ c ∈ w, p c = true) :
    trimEndWhile p (t ++ w) = trimEndWhile p t := by
  have hall : ∀ c ∈ w.reverse, p c = true := by
    intro c hc
    exact h c (List.mem_reverse.mp hc)
  unfold trimEndWhile
  rw [List.reverse_append, List.dropWhile_append_of_pos hall]

/-- A text with a character outside the class is trimmed behind what stands before it. -/
theorem trimEndWhile_append_of_exists (s : Text) {t : Text} (h : ∃ c ∈ t, p c = false) :
    trimEndWhile p (s ++ t) = s ++ trimEndWhile p t := by
  obtain ⟨c, hc, hpc⟩ := h
  have hempty : (t.reverse.dropWhile p).isEmpty = false := by
    rw [List.isEmpty_eq_false_iff, ne_eq, List.dropWhile_eq_nil_iff]
    intro hall
    rw [hall c (List.mem_reverse.mpr hc)] at hpc
    contradiction
  unfold trimEndWhile
  rw [List.reverse_append, List.dropWhile_append, hempty]
  simp

/-- Cutting off white space leaves a blank text blank, and no other. -/
theorem isAllSpace_trimEndWhile (hp : ∀ c, p c = true → isSpace c = true) {t : Text} :
    (trimEndWhile p t).isAllSpace = t.isAllSpace := by
  obtain ⟨w, ht, hw⟩ := exists_eq_trimEndWhile_append p t
  have hspace : w.isAllSpace = true := isAllSpace_eq_true_iff.mpr fun c hc => hp c (hw c hc)
  have hsplit := congrArg isAllSpace ht
  rw [isAllSpace_append, hspace, Bool.and_true] at hsplit
  exact hsplit.symm

theorem trimEndWhile_eq_nil_iff {t : Text} : trimEndWhile p t = [] ↔ ∀ c ∈ t, p c = true := by
  unfold trimEndWhile
  rw [List.reverse_eq_nil_iff, List.dropWhile_eq_nil_iff]
  simp

/-- A trimmed text does not end in a character of the class. -/
theorem eq_false_of_mem_getLast?_trimEndWhile {t : Text} {c : Char}
    (h : c ∈ (trimEndWhile p t).getLast?) : p c = false := by
  have hhead := List.head?_dropWhile_not p t.reverse
  unfold trimEndWhile at h
  rw [List.getLast?_reverse] at h
  rw [Option.mem_def.mp h] at hhead
  exact hhead

/-- A text that does not end in a character of the class is left alone. -/
theorem trimEndWhile_eq_self {t : Text} (h : ∀ c ∈ t.getLast?, p c = false) :
    trimEndWhile p t = t := by
  unfold trimEndWhile
  cases hrev : t.reverse with
  | nil => rw [List.dropWhile_nil, ← hrev, List.reverse_reverse]
  | cons c rest =>
      have hlast : c ∈ t.getLast? := by simp [← List.head?_reverse, hrev]
      rw [List.dropWhile_cons_of_neg (by simp [h c hlast]), ← hrev, List.reverse_reverse]

/-- What is kept does not end in a character of the class, and what is cut off is of the class. -/
theorem trimEndWhile_eq_iff {t kept : Text} :
    trimEndWhile p t = kept ↔
      (∀ c ∈ kept.getLast?, p c = false) ∧ ∃ w, t = kept ++ w ∧ ∀ c ∈ w, p c = true := by
  constructor
  · rintro rfl
    exact ⟨fun c hc => eq_false_of_mem_getLast?_trimEndWhile hc, exists_eq_trimEndWhile_append p t⟩
  · rintro ⟨hkept, w, rfl, hw⟩
    rw [trimEndWhile_append_of_forall _ hw, trimEndWhile_eq_self hkept]

/-- A text is trimmed behind a character outside the class. -/
theorem trimEndWhile_append_cons (s : Text) {c : Char} (hc : p c = false) (t : Text) :
    trimEndWhile p (s ++ c :: t) = s ++ c :: trimEndWhile p t := by
  unfold trimEndWhile
  rw [List.reverse_append, List.reverse_cons, List.append_assoc, List.dropWhile_append]
  split
  · rename_i hempty
    rw [List.isEmpty_iff.mp hempty]
    simp [hc]
  · simp

/-- Nothing is left to be cut off twice. -/
theorem trim_trimEnd (t : Text) : trim (trimEnd t) = trim t := by
  obtain ⟨w, ht, hw⟩ := exists_eq_trimEndWhile_append isSpace t
  replace ht : t = trimEnd t ++ w := ht
  show trimEnd (trimStart (trimEnd t)) = trimEnd (trimStart t)
  cases hblank : isAllSpace (trimEnd t) with
  | true =>
      have hall : t.isAllSpace = true := by
        rw [ht, isAllSpace_append, hblank, isAllSpace_eq_true_iff.mpr hw]
        rfl
      rw [trimStart_eq_nil_iff.mpr hblank, trimStart_eq_nil_iff.mpr hall]
  | false =>
      have hstart : t.trimStart = (trimEnd t).trimStart ++ w := by
        rw [← trimStart_append hblank, ← ht]
      rw [hstart]
      exact (trimEndWhile_append_of_forall _ hw).symm

theorem trim_trim (t : Text) : trim (trim t) = trim t := by
  show trim (trimEnd (trimStart t)) = trim t
  rw [trim_trimEnd, trim, trimStart_trimStart]
  rfl

/-- A trimmed text does not begin with white space. -/
theorem isSpace_of_trim_eq_cons {c : Char} {t rest : Text} (h : t.trim = c :: rest) :
    isSpace c = false := by
  obtain ⟨w, hw, -⟩ := exists_eq_trimEndWhile_append isSpace t.trimStart
  rw [show trimEndWhile isSpace t.trimStart = c :: rest from h] at hw
  exact isSpace_of_trimStart_eq_cons hw

theorem trim_of_isAllSpace {t : Text} (h : t.isAllSpace = true) : trim t = [] := by
  rw [trim, trimStart_eq_nil_iff.mpr h]
  rfl

/-- White space around a text is cut off. -/
theorem trim_padded {before after : Text} (hbefore : before.isAllSpace = true)
    (hafter : after.isAllSpace = true) {c : Char} (hc : isSpace c = false) (t : Text) :
    trim (before ++ (c :: t ++ after)) = trimEnd (c :: t) := by
  have hstart : trimStart (c :: t ++ after) = c :: t ++ after := trimStart_cons hc (t ++ after)
  rw [trim, trimStart_append_of_isAllSpace hbefore, hstart]
  exact trimEndWhile_append_of_forall _ (isAllSpace_eq_true_iff.mp hafter)

theorem trim_isInfix (t : Text) : t.trim <:+: t := by
  obtain ⟨w, hw, -⟩ := exists_eq_trimEndWhile_append isSpace t.trimStart
  have hstart : t.trimStart <:+ t := List.dropWhile_suffix isSpace
  have hend : t.trim <+: t.trimStart := ⟨w, hw.symm⟩
  exact hend.isInfix.trans hstart.isInfix

/-! ## Words -/

section Words

variable {separates : Char → Bool} {w : Text}

theorem wordsBetween_append_left (h : ∀ c ∈ w, separates c = true) (t : Text) :
    wordsBetween separates (w ++ t) = wordsBetween separates t := by
  induction w with
  | nil => rfl
  | cons c w ih =>
      have hc := h c List.mem_cons_self
      rw [List.cons_append, wordsBetween, if_pos hc, ih fun d hd => h d (List.mem_cons_of_mem c hd)]

theorem wordsBetween_append_right (h : ∀ c ∈ w, separates c = true) (t : Text) :
    wordsBetween separates (t ++ w) = wordsBetween separates t := by
  induction t with
  | nil =>
      have hnone := wordsBetween_append_left h []
      rw [List.append_nil] at hnone
      exact hnone
  | cons c t ih =>
      -- A word ends in front of a separator as it ends at the end of the text.
      have hnext : ((t ++ w).head?.any fun d => !separates d)
          = t.head?.any fun d => !separates d := by
        cases t with
        | nil =>
            cases w with
            | nil => rfl
            | cons d w => simp [h d List.mem_cons_self]
        | cons d t => rfl
      rw [List.cons_append, wordsBetween, wordsBetween, ih, hnext]

theorem words_append_of_isAllSpace (h : w.isAllSpace = true) (t : Text) :
    words (w ++ t) = words t :=
  wordsBetween_append_left (isAllSpace_eq_true_iff.mp h) t

theorem words_append_isAllSpace (h : w.isAllSpace = true) (t : Text) :
    words (t ++ w) = words t :=
  wordsBetween_append_right (isAllSpace_eq_true_iff.mp h) t

theorem words_trimEnd (t : Text) : words (trimEnd t) = words t := by
  obtain ⟨w, ht, hw⟩ := exists_eq_trimEndWhile_append isSpace t
  have hwords := words_append_isAllSpace (isAllSpace_eq_true_iff.mpr hw) (trimEnd t)
  rw [show trimEnd t ++ w = t from ht.symm] at hwords
  exact hwords.symm

theorem words_trimStart (t : Text) : words (trimStart t) = words t := by
  obtain ⟨w, ht, hw⟩ := exists_eq_append_trimStart t
  have hwords := words_append_of_isAllSpace hw (trimStart t)
  rw [← ht] at hwords
  exact hwords.symm

end Words

end Weave.Text
