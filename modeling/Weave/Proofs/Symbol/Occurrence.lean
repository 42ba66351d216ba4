import Weave.Proofs.Text.Cut
import Weave.Symbol.Occurrence

/-!
# What the scans for a name find

A text occurs in another one where the other one can be cut into a part before it, the text itself
and a part after it.  `StandsAlone` adds what keeps a name apart: no identifier character ends the
part before or begins the part after.  It says nothing about a scan, and overlapping occurrences are
different cuts.

The two scans walk over the text with an offset in bytes.  Their invariant is that the offset
measures the part they have passed, and `exists_cut_cons_iff` is the step: a cut of a text has its
occurrence at the first character or is a cut of the rest.  `mem_occurrences` and
`mem_identifierSpans` say that the scans find every cut and nothing else.
-/

namespace Weave

/-- Between `before` and `after`, `name` fills the span and has no identifier character beside
it. -/
structure StandsBetween (before name after : Text) (span : Span) : Prop where
  start_eq : span.start = before.byteLength
  stop_eq : span.stop = (before ++ name).byteLength
  free_before : ∀ c ∈ before.getLast?, Text.isIdentifierChar c = false
  free_after : ∀ c ∈ after.head?, Text.isIdentifierChar c = false

/-- At a span of a text stands `name` by itself.  The empty name stands nowhere. -/
def StandsAlone (text name : Text) (span : Span) : Prop :=
  name ≠ [] ∧ ∃ before after, text = before ++ name ++ after ∧ StandsBetween before name after span

/-- A cut of a text around a name is one at its first character, or one of the rest. -/
theorem exists_cut_cons_iff {name t : Text} {c : Char} {P : Text → Text → Prop} :
    (∃ before after, c :: t = before ++ name ++ after ∧ P before after)
      ↔ (∃ after, c :: t = name ++ after ∧ P [] after)
        ∨ ∃ before after, t = before ++ name ++ after ∧ P (c :: before) after := by
  constructor
  · rintro ⟨before, after, hcut, hP⟩
    cases before with
    | nil => exact .inl ⟨after, hcut, hP⟩
    | cons b before =>
        rw [List.cons_append, List.cons_append, List.cons.injEq] at hcut
        obtain ⟨rfl, hrest⟩ := hcut
        exact .inr ⟨before, after, hrest, hP⟩
  · rintro (⟨after, hcut, hP⟩ | ⟨before, after, hcut, hP⟩)
    · exact ⟨[], after, hcut, hP⟩
    · exact ⟨c :: before, after, by rw [hcut, List.cons_append, List.cons_append], hP⟩

/-- No cut of the empty text has room for a name. -/
theorem not_exists_cut_nil {name : Text} (hname : name ≠ []) {P : Text → Text → Prop} :
    ¬∃ before after, [] = before ++ name ++ after ∧ P before after := by
  rintro ⟨before, after, hcut, _⟩
  have hnil := hcut.symm
  rw [List.append_eq_nil_iff, List.append_eq_nil_iff] at hnil
  exact hname hnil.1.2

/-! ## All occurrences -/

theorem mem_occurrencesFrom {needle : Text} (hneedle : needle ≠ []) (offset n : Nat) (t : Text) :
    n ∈ occurrencesFrom needle offset t
      ↔ ∃ before after, t = before ++ needle ++ after ∧ n = offset + before.byteLength := by
  induction t generalizing offset with
  | nil =>
      unfold occurrencesFrom
      refine iff_of_false List.not_mem_nil ?_
      exact not_exists_cut_nil hneedle
  | cons c t ih =>
      have hlater : n ∈ occurrencesFrom needle (offset + c.utf8Size) t
          ↔ ∃ before after, t = before ++ needle ++ after
              ∧ n = offset + Text.byteLength (c :: before) := by
        rw [ih]
        simp only [Text.byteLength_cons, Nat.add_assoc]
      unfold occurrencesFrom Text.startsWith
      rw [exists_cut_cons_iff, ← hlater]
      cases hhead : Text.dropPrefix? needle (c :: t) with
      | none =>
          refine (or_iff_right ?_).symm
          rintro ⟨after, hcut, _⟩
          exact Text.ne_append_of_dropPrefix?_eq_none hhead after hcut
      | some after =>
          have hcut := Text.dropPrefix?_eq_some_iff.mp hhead
          dsimp only [Option.isSome_some]
          rw [if_pos rfl, List.mem_cons]
          refine or_congr_left ?_
          constructor
          · intro hn
            exact ⟨after, hcut, hn⟩
          · rintro ⟨_, _, hn⟩
            exact hn

/-- The search finds the offset of every occurrence of a needle that is not empty, overlapping ones
included, and no other offset. -/
theorem mem_occurrences {haystack needle : Text} {n : Nat} :
    n ∈ occurrences haystack needle
      ↔ needle ≠ [] ∧ ∃ before after, haystack = before ++ needle ++ after
          ∧ n = before.byteLength := by
  unfold occurrences
  cases needle with
  | nil => simp
  | cons c needle =>
      have hneedle : c :: needle ≠ [] := List.cons_ne_nil c needle
      rw [if_neg (by simp), mem_occurrencesFrom hneedle]
      simp only [Nat.zero_add, ne_eq, hneedle, not_false_eq_true, true_and]

/-! ## Names that stand by themselves -/

/-- The test of the scan at one occurrence. -/
theorem standsBetween_iff {before name after : Text} {span : Span} :
    StandsBetween before name after span
      ↔ (before.getLast?.any Text.isIdentifierChar
            || after.head?.any Text.isIdentifierChar) = false
        ∧ span = ⟨before.byteLength, before.byteLength + name.byteLength,
            Nat.le_add_right _ _⟩ := by
  have hspan : span = ⟨before.byteLength, before.byteLength + name.byteLength,
      Nat.le_add_right _ _⟩
      ↔ span.start = before.byteLength ∧ span.stop = (before ++ name).byteLength := by
    rw [Span.eq_iff, Text.byteLength_append]
  have hfree : ∀ neighbour : Option Char, neighbour.any Text.isIdentifierChar = false
      ↔ ∀ c ∈ neighbour, Text.isIdentifierChar c = false := by
    intro neighbour
    exact Option.any_eq_false Text.isIdentifierChar neighbour
  rw [hspan, Bool.or_eq_false_iff, hfree, hfree]
  constructor
  · intro h
    exact ⟨⟨h.free_before, h.free_after⟩, h.start_eq, h.stop_eq⟩
  · rintro ⟨⟨hbefore, hafter⟩, hstart, hstop⟩
    exact ⟨hstart, hstop, hbefore, hafter⟩

/-- The scan behind a part that it has passed. -/
theorem mem_identifierSpansFrom {name : Text} (hname : name ≠ []) (passed t : Text) (span : Span) :
    span ∈ identifierSpansFrom name passed.byteLength passed.getLast? t
      ↔ ∃ before after, t = before ++ name ++ after
          ∧ StandsBetween (passed ++ before) name after span := by
  induction t generalizing passed with
  | nil =>
      unfold identifierSpansFrom
      refine iff_of_false List.not_mem_nil ?_
      exact not_exists_cut_nil hname
  | cons c t ih =>
      have hlater : span ∈ identifierSpansFrom name (passed.byteLength + c.utf8Size) (some c) t
          ↔ ∃ before after, t = before ++ name ++ after
              ∧ StandsBetween (passed ++ c :: before) name after span := by
        have hpassed := ih (passed ++ [c])
        rw [Text.byteLength_append, Text.byteLength_cons, Text.byteLength_nil, Nat.add_zero,
          List.getLast?_concat] at hpassed
        simp only [List.append_assoc passed [c], List.singleton_append] at hpassed
        exact hpassed
      unfold identifierSpansFrom
      rw [exists_cut_cons_iff, ← hlater, List.append_nil]
      cases hhead : Text.dropPrefix? name (c :: t) with
      | none =>
          refine (or_iff_right ?_).symm
          rintro ⟨after, hcut, _⟩
          exact Text.ne_append_of_dropPrefix?_eq_none hhead after hcut
      | some after =>
          have hcut := Text.dropPrefix?_eq_some_iff.mp hhead
          have hunique : (∃ after', c :: t = name ++ after'
                ∧ StandsBetween passed name after' span)
              ↔ StandsBetween passed name after span := by
            constructor
            · rintro ⟨after', hcut', hstands⟩
              rw [hcut, List.append_cancel_left_eq] at hcut'
              exact hcut' ▸ hstands
            · intro hstands
              exact ⟨after, hcut, hstands⟩
          rw [hunique, standsBetween_iff]
          dsimp only
          cases passed.getLast?.any Text.isIdentifierChar
              || after.head?.any Text.isIdentifierChar with
          | true => simp
          | false => simp

/-- The scan finds the spans where a name stands by itself, and no other spans. -/
theorem mem_identifierSpans {code name : Text} {span : Span} :
    span ∈ identifierSpans code name ↔ StandsAlone code name span := by
  unfold identifierSpans StandsAlone
  cases name with
  | nil => simp
  | cons c name =>
      have hname : c :: name ≠ [] := List.cons_ne_nil c name
      have hscan := mem_identifierSpansFrom hname [] code span
      rw [Text.byteLength_nil, List.getLast?_nil] at hscan
      simp only [List.nil_append] at hscan
      rw [if_neg (by simp), hscan, and_iff_right hname]

/-! ## Text behind a line -/

/-- A name in one line begins a text that ends in a newline as it begins the longer text, and ends
in front of that newline. -/
theorem exists_dropPrefix?_append {name t : Text} (hname : '\n' ∉ name)
    (ht : t.getLast? = some '\n') (more : Text) :
    ∃ found : Option Text, Text.dropPrefix? name t = found.map (· ++ ['\n'])
      ∧ Text.dropPrefix? name (t ++ more) = found.map (· ++ '\n' :: more) := by
  obtain ⟨body, rfl⟩ := List.getLast?_eq_some_iff.mp ht
  have hprefix : ∀ rest, Text.dropPrefix? name (body ++ '\n' :: rest)
      = (Text.dropPrefix? name body).map (· ++ '\n' :: rest) :=
    fun rest => Text.dropPrefix?_append_right (by simpa using hname)
  refine ⟨Text.dropPrefix? name body, hprefix [], ?_⟩
  rw [List.append_assoc, List.singleton_append, hprefix]

/-- At a seam behind a newline the scan goes on as it began. -/
theorem identifierSpansFrom_append {name : Text} (hname : '\n' ∉ name) {t : Text}
    (ht : ∀ c ∈ t.getLast?, c = '\n') (more : Text) (offset : Nat) (before : Option Char) :
    identifierSpansFrom name offset before (t ++ more)
      = identifierSpansFrom name offset before t
        ++ identifierSpansFrom name (offset + t.byteLength) (t.getLast?.or before) more := by
  induction t generalizing offset before with
  | nil => rfl
  | cons c t ih =>
      have hrest : ∀ d ∈ t.getLast?, d = '\n' := by
        intro d hd
        refine ht d ?_
        rw [List.getLast?_cons, hd]
        rfl
      have hlast : (c :: t).getLast?.or before = t.getLast?.or (some c) := by
        rw [List.getLast?_cons]
        cases t.getLast? <;> rfl
      have hnewline : (c :: t).getLast? = some '\n' := by
        rw [List.getLast?_cons] at ht ⊢
        rw [ht _ rfl]
      obtain ⟨found, hhere, hlong⟩ := exists_dropPrefix?_append hname hnewline more
      have hlater := ih hrest (offset + c.utf8Size) (some c)
      rw [Nat.add_assoc, ← Text.byteLength_cons, ← hlast] at hlater
      rw [List.cons_append, identifierSpansFrom, identifierSpansFrom, hhere, ← List.cons_append,
        hlong, hlater]
      cases found with
      | none => rfl
      | some after =>
          have hhead : (after ++ '\n' :: more).head? = (after ++ ['\n']).head? := by
            cases after <;> rfl
          simp only [Option.map_some, hhead]
          split
          · rfl
          · rfl

theorem le_start_of_mem_identifierSpansFrom {name t : Text} {offset : Nat} {before : Option Char}
    {span : Span} (h : span ∈ identifierSpansFrom name offset before t) : offset ≤ span.start := by
  induction t generalizing offset before with
  | nil => contradiction
  | cons c t ih =>
      have hlater : span ∈ identifierSpansFrom name (offset + c.utf8Size) (some c) t →
          offset ≤ span.start := fun h => Nat.le_trans (Nat.le_add_right _ _) (ih h)
      unfold identifierSpansFrom at h
      dsimp only at h
      split at h
      · exact hlater h
      · split at h
        · exact hlater h
        · rcases List.mem_cons.mp h with rfl | h
          · exact Nat.le_refl _
          · exact hlater h

/-- Text behind a line adds spans behind it and leaves the others as they are. -/
theorem identifierSpans_append {name code : Text} (hname : '\n' ∉ name)
    (hcode : ∀ c ∈ code.getLast?, c = '\n') (more : Text) :
    ∃ later, identifierSpans (code ++ more) name = identifierSpans code name ++ later
      ∧ ∀ span ∈ later, code.byteLength ≤ span.start := by
  unfold identifierSpans
  split
  · exact ⟨[], rfl, fun _ h => nomatch h⟩
  · refine ⟨_, identifierSpansFrom_append hname hcode more 0 none, fun span hspan => ?_⟩
    rw [Nat.zero_add] at hspan
    exact le_start_of_mem_identifierSpansFrom hspan

/-- A name stands inside the text. -/
theorem start_lt_of_mem_identifierSpans {code name : Text} {span : Span}
    (h : span ∈ identifierSpans code name) : span.start < code.byteLength := by
  obtain ⟨hname, before, after, rfl, hstands⟩ := mem_identifierSpans.mp h
  obtain ⟨c, rest, rfl⟩ := List.exists_cons_of_ne_nil hname
  have hpos : 0 < Text.byteLength (c :: rest) := Text.byteLength_pos
  rw [hstands.start_eq, Text.byteLength_append, Text.byteLength_append]
  omega

end Weave
