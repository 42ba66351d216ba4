import Weave.Proofs.Text.Chunks
import Weave.Proofs.Text.Cut
import Weave.Symbol.Docstring

/-!
# What is lost with a docstring

A docstring is found by the columns of its literal and removed by its lines.  `Parts` cuts code up
around it: the lines above, the literal with its indentation, the rest of its last line, and the
lines below.

* `exists_opening_of_find?` and `exists_of_closing?` say where the literal begins and ends: on the
  first written line below the header, and at the first closing quotes, on whatever line they stand.
* `exists_parts_of_find?` is the cut of code with a docstring.
* `strip_keeps_written_iff` says for all code what stays of it.  The rest of the last line goes with
  the literal, so a statement behind a docstring is lost (`strip_statementBehind`).
-/

namespace Weave

namespace Docstring

/-! ## The literal -/

/-- The quotes that open and close a docstring. -/
def IsTripleQuote (quotes : Text) : Prop :=
  quotes = "\"\"\"".toList ∨ quotes = "\x27\x27\x27".toList

theorem IsTripleQuote.newline_notMem {quotes : Text} (h : IsTripleQuote quotes) :
    '\n' ∉ quotes := by
  rcases h with rfl | rfl <;> decide

theorem IsTripleQuote.ne_nil {quotes : Text} (h : IsTripleQuote quotes) : quotes ≠ [] := by
  rcases h with rfl | rfl <;> decide

/-- What ends in quotes does not end in a newline. -/
theorem IsTripleQuote.getLast?_append_ne {quotes : Text} (h : IsTripleQuote quotes) (t : Text) :
    (t ++ quotes).getLast? ≠ some '\n' := by
  intro hlast
  rw [List.getLast?_append_of_ne_nil t h.ne_nil] at hlast
  exact h.newline_notMem (List.mem_of_getLast? hlast)

theorem tripleQuote?_eq_some {t quotes rest : Text} (h : tripleQuote? t = some (quotes, rest)) :
    IsTripleQuote quotes ∧ t = quotes ++ rest := by
  unfold tripleQuote? at h
  split at h
  · rename_i hdrop
    obtain ⟨rfl, rfl⟩ := Prod.mk.inj (Option.some.inj h)
    exact ⟨.inl rfl, Text.dropPrefix?_eq_some_iff.mp hdrop⟩
  · obtain ⟨after, hdrop, heq⟩ := Option.map_eq_some_iff.mp h
    obtain ⟨rfl, rfl⟩ := Prod.mk.inj heq
    exact ⟨.inr rfl, Text.dropPrefix?_eq_some_iff.mp hdrop⟩

/-- A docstring opens with up to two letters and three quotes. -/
theorem opening?_eq_some {t quotes rest : Text} (h : opening? t = some (quotes, rest)) :
    ∃ letters, t = letters ++ (quotes ++ rest) ∧ letters.length ≤ 2
      ∧ (∀ c ∈ letters, isStringPrefix c = true) ∧ IsTripleQuote quotes := by
  obtain ⟨hquotes, hdrop⟩ := tripleQuote?_eq_some h
  refine ⟨t.take (min 2 (t.takeWhile isStringPrefix).length), ?_, ?_, ?_, hquotes⟩
  · rw [← hdrop, List.take_append_drop]
  · exact Nat.le_trans (List.length_take_le _ _) (Nat.min_le_left _ _)
  · have hletters : t.take (min 2 (t.takeWhile isStringPrefix).length)
        <+: t.takeWhile isStringPrefix := by
      refine List.prefix_of_prefix_length_le (List.take_prefix _ _) (List.takeWhile_prefix _) ?_
      exact Nat.le_trans (List.length_take_le _ _) (Nat.min_le_right _ _)
    intro c hc
    exact List.mem_takeWhile_imp (hletters.subset hc)

theorem closing?_nil {quotes text : Text} {first n : Nat} (hquotes : quotes ≠ []) :
    closing? quotes first text n [[]] = none := by
  cases quotes with
  | nil => contradiction
  | cons c quotes => rfl

/-- The text of a docstring goes on over the ends of lines, up to the first closing quotes. -/
theorem exists_of_closing? {quotes text : Text} {first n : Nat} {lines : List Text} {doc : Found}
    (hquotes : '\n' ∉ quotes) (hlines : Text.IsLines lines)
    (h : closing? quotes first text n lines = some doc) :
    ∃ passed line later inner tail, lines = passed ++ line :: later
      ∧ doc = ⟨first, n + passed.length, text ++ inner⟩ ∧ tail <:+ line
      ∧ Text.splitFirst? quotes (passed.flatten ++ line) = some (inner, tail) := by
  induction lines generalizing text n with
  | nil => contradiction
  | cons line lines ih =>
      unfold closing? at h
      split at h
      · rename_i inner tail hsplit
        obtain ⟨hline, -⟩ := Text.splitFirst?_eq_some_iff.mp hsplit
        refine ⟨[], line, lines, inner, tail, rfl, (Option.some.inj h).symm, ?_, hsplit⟩
        rw [hline, ← List.append_assoc]
        exact List.suffix_append _ _
      · rename_i hsplit
        cases lines with
        | nil => contradiction
        | cons next lines =>
            obtain ⟨body, rfl, -⟩ := hlines.exists_body
            obtain ⟨passed, last, later, inner, tail, hpassed, rfl, htail, hinner⟩ :=
              ih hlines.tail h
            refine ⟨(body ++ ['\n']) :: passed, last, later, body ++ '\n' :: inner, tail, ?_, ?_,
              htail, ?_⟩
            · rw [hpassed, List.cons_append]
            · rw [List.length_cons]
              simp [Nat.add_assoc, Nat.add_comm 1]
            · rw [List.flatten_cons, List.append_assoc, List.append_assoc, List.singleton_append,
                Text.splitFirst?_concat_append hquotes hsplit, hinner]
              rfl

/-! ## The parts of code -/

/-- The characters that are not white space. -/
def written (t : Text) : Text := t.filter (!Text.isSpace ·)

theorem written_append (t u : Text) : written (t ++ u) = written t ++ written u :=
  List.filter_append t u

theorem written_eq_nil_iff {t : Text} : written t = [] ↔ t.isAllSpace = true := by
  unfold written
  rw [List.filter_eq_nil_iff, Text.isAllSpace_eq_true_iff]
  simp

theorem written_flatten_eq_nil {lines : List Text}
    (h : ∀ line ∈ lines, line.isAllSpace = true) : written lines.flatten = [] := by
  rw [written_eq_nil_iff, Text.isAllSpace_eq_true_iff]
  intro c hc
  obtain ⟨line, hline, hmem⟩ := List.mem_flatten.mp hc
  exact Text.isAllSpace_eq_true_iff.mp (h line hline) c hmem

/-- Code that is cut up around a docstring.  The lines down to the end of the header are `above`,
and those of `gap` behind them are blank.  The docstring is indented, and `text` stands between its
quotes, with up to two letters in front of them.  The rest of its last line is `tail`, and the lines
of `blanks` stand between that and the lines of `after`. -/
structure Parts where
  above : List Text
  gap : List Text
  indent : Text
  letters : Text
  quotes : Text
  text : Text
  tail : Text
  blanks : List Text
  after : List Text
  gap_blank : ∀ line ∈ gap, line.isAllSpace = true
  indent_blank : indent.isAllSpace = true
  letters_length : letters.length ≤ 2
  letters_stringPrefix : ∀ c ∈ letters, isStringPrefix c = true
  quotes_triple : IsTripleQuote quotes
  closes : ∀ start, start ++ quotes <+: text ++ (quotes ++ tail) → text.length ≤ start.length
  tail_line : ∀ rest, '\n' :: rest <:+ tail → rest = []
  blanks_blank : ∀ line ∈ blanks, line.isAllSpace = true
  after_written : ∀ line ∈ after.head?, line.isAllSpace = false

namespace Parts

/-- The docstring as it is written. -/
def literal (p : Parts) : Text := p.indent ++ p.letters ++ p.quotes ++ p.text ++ p.quotes

/-- The code with the docstring. -/
def code (p : Parts) : Text :=
  (p.above ++ p.gap).flatten ++ p.literal ++ p.tail ++ (p.blanks ++ p.after).flatten

/-- The code without the lines of the docstring.  Of the blank lines below it the first one stays,
if something follows them. -/
def stripped (p : Parts) : Text :=
  (p.above ++ p.gap).flatten ++ (if p.after.isEmpty then [] else p.blanks.take 1).flatten
    ++ p.after.flatten

theorem written_stripped (p : Parts) :
    written p.stripped = written p.above.flatten ++ written p.after.flatten := by
  have hgap : written p.gap.flatten = [] := written_flatten_eq_nil p.gap_blank
  have hkept : written (if p.after.isEmpty then [] else p.blanks.take 1).flatten = [] := by
    apply written_flatten_eq_nil
    split
    · nofun
    · exact fun line hline => p.blanks_blank line (List.mem_of_mem_take hline)
  unfold stripped
  rw [List.flatten_append, written_append, written_append, written_append, hgap, hkept,
    List.append_nil, List.append_nil]

/-- What is written outside of the docstring stays, but for what stands behind it on its line. -/
theorem written_stripped_eq_iff (p : Parts) :
    written p.stripped = written (p.above.flatten ++ p.tail ++ p.after.flatten)
      ↔ p.tail.isAllSpace = true := by
  rw [written_stripped, written_append, written_append, ← written_eq_nil_iff]
  constructor
  · intro h
    have hlength := congrArg List.length h
    simp only [List.length_append] at hlength
    exact List.length_eq_zero_iff.mp (by omega)
  · intro h
    rw [h, List.append_nil]

end Parts

/-- Lines with the opening of a docstring on the first written line below the header. -/
structure Opening (lines : List Text) where
  header : Nat
  above : List Text
  gap : List Text
  indent : Text
  letters : Text
  quotes : Text
  rest : Text
  later : List Text
  headerEnd_eq : headerEnd? lines = some header
  above_length : above.length = header + 1
  lines_eq : lines = above ++ gap ++ (indent ++ letters ++ quotes ++ rest) :: later
  gap_blank : ∀ line ∈ gap, line.isAllSpace = true
  indent_blank : indent.isAllSpace = true
  letters_length : letters.length ≤ 2
  letters_stringPrefix : ∀ c ∈ letters, isStringPrefix c = true
  quotes_triple : IsTripleQuote quotes

namespace Opening

variable {lines : List Text} (o : Opening lines)

/-- The number of the line with the opening. -/
def first : Nat := (o.above ++ o.gap).length

theorem above_eq : o.above = lines.take (o.header + 1) := by
  have htake : (o.above ++ (o.gap ++ (o.indent ++ o.letters ++ o.quotes ++ o.rest) :: o.later)).take
      (o.header + 1) = o.above := List.take_left' o.above_length
  rw [← List.append_assoc, ← o.lines_eq] at htake
  exact htake.symm

theorem take_first : lines.take o.first = o.above ++ o.gap := by
  have htake : (o.above ++ o.gap ++ (o.indent ++ o.letters ++ o.quotes ++ o.rest) :: o.later).take
      o.first = o.above ++ o.gap := List.take_left
  rw [← o.lines_eq] at htake
  exact htake

theorem drop_first : lines.drop o.first
    = (o.indent ++ o.letters ++ o.quotes ++ o.rest) :: o.later := by
  have hdrop : (o.above ++ o.gap ++ (o.indent ++ o.letters ++ o.quotes ++ o.rest) :: o.later).drop
      o.first = (o.indent ++ o.letters ++ o.quotes ++ o.rest) :: o.later := List.drop_left
  rw [← o.lines_eq] at hdrop
  exact hdrop

end Opening

/-- A docstring is what is read behind its opening. -/
theorem exists_opening_of_find? {lines : List Text} {doc : Found} (h : find? lines = some doc) :
    ∃ o : Opening lines, closing? o.quotes o.first [] o.first (o.rest :: o.later) = some doc := by
  unfold find? at h
  simp only [Option.bind_eq_bind, Option.bind_eq_some_iff] at h
  obtain ⟨header, hheader, h⟩ := h
  split at h
  · contradiction
  rename_i line later hbody
  rw [Option.bind_eq_some_iff] at h
  obtain ⟨⟨quotes, rest⟩, hopening, hclosing⟩ := h
  obtain ⟨letters, hstart, hlength, hletters, hquotes⟩ := opening?_eq_some hopening
  obtain ⟨indent, hindent, hblank⟩ := Text.exists_eq_append_trimStart line
  have hline : line = indent ++ letters ++ quotes ++ rest := by
    rw [List.append_assoc, List.append_assoc, ← hstart]
    exact hindent
  have habove : (lines.take (header + 1)).length = header + 1 := by
    rcases Nat.lt_or_ge (header + 1) lines.length with hlt | hge
    · exact List.length_take_of_le (Nat.le_of_lt hlt)
    · rw [List.drop_of_length_le hge] at hbody
      contradiction
  let o : Opening lines :=
    { header := header
      above := lines.take (header + 1)
      gap := (lines.drop (header + 1)).takeWhile Text.isAllSpace
      indent := indent
      letters := letters
      quotes := quotes
      rest := rest
      later := later
      headerEnd_eq := hheader
      above_length := habove
      lines_eq := by
        rw [← hline, List.append_assoc, ← hbody, List.takeWhile_append_dropWhile,
          List.take_append_drop]
      gap_blank := fun line hline => List.mem_takeWhile_imp hline
      indent_blank := hblank
      letters_length := hlength
      letters_stringPrefix := hletters
      quotes_triple := hquotes }
  have hfirst : o.first
      = header + 1 + ((lines.drop (header + 1)).takeWhile Text.isAllSpace).length := by
    rw [Opening.first, List.length_append, o.above_length]
  refine ⟨o, ?_⟩
  rw [hfirst]
  exact hclosing

/-- What stands behind an opening are lines, if the docstring is closed there. -/
theorem Opening.isLines {source : Text} (o : Opening source.chunks) {doc : Found}
    (h : closing? o.quotes o.first [] o.first (o.rest :: o.later) = some doc) :
    Text.IsLines (o.rest :: o.later) := by
  have hlines : Text.IsLines ((o.indent ++ o.letters ++ o.quotes ++ o.rest) :: o.later) :=
    (Text.isLines_chunks source).sublist (o.drop_first ▸ List.drop_sublist _ _)
  rcases hlines.cut (o.quotes_triple.getLast?_append_ne _) with ⟨hrest, hlater⟩ | hlines
  · rw [hrest, hlater, closing?_nil o.quotes_triple.ne_nil] at h
    contradiction
  · exact hlines

/-- Code with a docstring is cut up around it, and all of its last line goes with it. -/
theorem exists_parts_of_find? {source : Text} {doc : Found} (h : find? source.chunks = some doc) :
    ∃ (p : Parts) (header : Nat), source = p.code ∧ doc.text = p.text
      ∧ headerEnd? source.chunks = some header ∧ p.above = source.chunks.take (header + 1)
      ∧ strip source = p.stripped := by
  obtain ⟨o, hclosing⟩ := exists_opening_of_find? h
  have hlines := o.isLines hclosing
  obtain ⟨passed, last, below, inner, tail, hpassed, rfl, htail, hinner⟩ :=
    exists_of_closing? o.quotes_triple.newline_notMem hlines hclosing
  obtain ⟨hliteral, hcloses⟩ := Text.splitFirst?_eq_some_iff.mp hinner
  have hlast : last ∈ o.rest :: o.later := hpassed ▸ List.mem_append_right _ List.mem_cons_self
  let p : Parts :=
    { above := o.above
      gap := o.gap
      indent := o.indent
      letters := o.letters
      quotes := o.quotes
      text := inner
      tail := tail
      blanks := below.takeWhile Text.isAllSpace
      after := below.dropWhile Text.isAllSpace
      gap_blank := o.gap_blank
      indent_blank := o.indent_blank
      letters_length := o.letters_length
      letters_stringPrefix := o.letters_stringPrefix
      quotes_triple := o.quotes_triple
      closes := fun start hstart => hcloses start (hliteral ▸ hstart)
      tail_line := fun r hr => hlines.eq_nil_of_suffix hlast (hr.trans htail)
      blanks_blank := fun line hline => List.mem_takeWhile_imp hline
      after_written := by
        intro line hline
        have hhead := List.head?_dropWhile_not Text.isAllSpace below
        rw [hline] at hhead
        exact hhead }
  have hsource : source = p.code := by
    have hrest : o.rest ++ o.later.flatten = inner ++ (o.quotes ++ tail) ++ below.flatten := by
      rw [← hliteral, ← List.flatten_cons, hpassed]
      simp
    rw [← Text.flatten_chunks source, o.lines_eq, List.flatten_append, List.flatten_cons,
      List.append_assoc _ o.rest, hrest]
    show _ = (o.above ++ o.gap).flatten
      ++ (o.indent ++ o.letters ++ o.quotes ++ inner ++ o.quotes) ++ tail
      ++ (below.takeWhile Text.isAllSpace ++ below.dropWhile Text.isAllSpace).flatten
    rw [List.takeWhile_append_dropWhile]
    simp only [List.append_assoc]
  have hstrip : strip source = p.stripped := by
    have hdrop : source.chunks.drop (o.first + passed.length + 1) = below := by
      rw [Nat.add_assoc, ← List.drop_drop, o.drop_first, List.drop_succ_cons,
        ← List.drop_succ_cons (a := o.rest), hpassed, List.drop_length_add_append]
      rfl
    unfold strip
    dsimp only
    rw [h]
    dsimp only
    rw [o.take_first, hdrop]
    rfl
  exact ⟨p, o.header, hsource, rfl, o.headerEnd_eq, o.above_eq, hstrip⟩

/-- Without a docstring code stays as it is.  Code with a docstring is cut up around it, and what is
written above the docstring and on the lines below it stays, in order.  What is written behind the
closing quotes on their own line is lost with it. -/
theorem strip_keeps_written_iff (source : Text) :
    match find? source.chunks with
    | none => strip source = source
    | some doc => ∃ (p : Parts) (header : Nat), source = p.code ∧ doc.text = p.text
        ∧ headerEnd? source.chunks = some header ∧ p.above = source.chunks.take (header + 1)
        ∧ strip source = p.stripped
        ∧ written (strip source) = written p.above.flatten ++ written p.after.flatten
        ∧ (written (strip source) = written (p.above.flatten ++ p.tail ++ p.after.flatten)
          ↔ p.tail.isAllSpace = true) := by
  cases hfind : find? source.chunks with
  | none =>
      dsimp only
      unfold strip
      dsimp only
      rw [hfind]
  | some doc =>
      dsimp only
      obtain ⟨p, header, hcode, htext, hheader, habove, hstrip⟩ := exists_parts_of_find? hfind
      refine ⟨p, header, hcode, htext, hheader, habove, hstrip, ?_, ?_⟩
      · rw [hstrip]
        exact p.written_stripped
      · rw [hstrip]
        exact p.written_stripped_eq_iff

/-- A function with a statement behind its docstring. -/
def statementBehind : Text := "def f():\n    \"\"\"Doc.\"\"\"; x = 1\n    return x\n"

/-- The docstring is the literal on the second line, and the statement is lost with it. -/
theorem strip_statementBehind :
    let above : Text := "def f():\n".toList
    let literal : Text := "    \"\"\"Doc.\"\"\"".toList
    let tail : Text := "; x = 1\n".toList
    let after : Text := "    return x\n".toList
    statementBehind = above ++ literal ++ tail ++ after
      ∧ find? statementBehind.chunks = some ⟨1, 1, "Doc.".toList⟩
      ∧ strip statementBehind = above ++ after
      ∧ written (strip statementBehind) ≠ written (above ++ tail ++ after) := by
  decide +kernel

end Docstring

end Weave
