import Mathlib.Data.List.GetD
import Weave.Proofs.Symbol.DefinitionLine
import Weave.Proofs.Text.Chunks
import Weave.Symbol.Extract

/-!
# The lines of a definition

`DefinitionLines` says what the lines of a definition look like: decorators, the line of the keyword
at the same indentation, and lines below it of which none ends the definition.  A search finds a
block whose lines look like that (`HoldsDefinition`), and code that looks like that from its first
line to its last is found as a whole.

* `holdsDefinition_blockAt` is all that is said about the block of a keyword line: where it lies and
  what its lines are.
* `holdsDefinition_locateBlock?` carries that to the two searches of a qualified name.
* `isDefinitionOf_extractSymbol` and `locateSymbol?_of_isDefinitionOf` are the two halves of finding
  a definition again in its own text.
-/

namespace Weave

/-! ## Ranges of line numbers -/

namespace LineRange

variable {r : LineRange} {p : Nat → Bool}

theorem mem_toList {n : Nat} : n ∈ r.toList ↔ r.start ≤ n ∧ n < r.stop := by
  unfold toList
  rw [List.mem_range'_1]
  omega

/-- The first line of a range that passes a test. -/
theorem find?_toList_eq_some_iff {n : Nat} :
    r.toList.find? p = some n
      ↔ p n = true ∧ r.start ≤ n ∧ n < r.stop ∧ ∀ m, r.start ≤ m → m < n → p m = false := by
  have hfind : r.toList.find? p = some n
      ↔ p n = true ∧ n ∈ r.toList ∧ ∀ m, r.start ≤ m → m < n → (!p m) = true :=
    List.find?_range'_eq_some
  rw [hfind, mem_toList, and_assoc]
  simp only [Bool.not_eq_true']

theorem find?_toList_eq_none_iff :
    r.toList.find? p = none ↔ ∀ m, r.start ≤ m → m < r.stop → p m = false := by
  simp [List.find?_eq_none, mem_toList]

end LineRange

/-- The span of a whole text. -/
def Span.whole (t : Text) : Span := ⟨0, t.byteLength, Nat.zero_le _⟩

theorem Span.slice?_whole (t : Text) : (Span.whole t).slice? t = some t :=
  Text.slice?_eq_some_iff.mpr ⟨[], [], by simp, rfl, rfl⟩

/-! ## Lines by number -/

namespace LineTable

variable {table : LineTable}

/-- The lines of a range. -/
def slice (table : LineTable) (start stop : Nat) : List Text :=
  (table.lines.take stop).drop start

theorem exists_of_mem_slice {start stop : Nat} {line : Text} (h : line ∈ table.slice start stop) :
    ∃ n, start ≤ n ∧ n < stop ∧ n < table.size ∧ table.line n = line := by
  unfold slice at h
  obtain ⟨i, hi, rfl⟩ := List.mem_iff_getElem.mp h
  have hlength := hi
  rw [List.length_drop, List.length_take] at hlength
  have hsize : start + i < table.lines.length := by omega
  refine ⟨start + i, by omega, by omega, hsize, ?_⟩
  unfold line
  rw [List.getD_eq_getElem _ _ hsize, List.getElem_drop, List.getElem_take]

theorem slice_append {start middle stop : Nat} (hstart : start ≤ middle) (hstop : middle ≤ stop)
    (hsize : middle ≤ table.size) :
    table.slice start stop = table.slice start middle ++ table.slice middle stop := by
  have htake : (table.lines.take stop).take middle = table.lines.take middle := by
    rw [List.take_take, Nat.min_eq_left hstop]
  have hlength : start ≤ (table.lines.take middle).length := by
    rw [List.length_take]
    exact Nat.le_min.mpr ⟨hstart, Nat.le_trans hstart hsize⟩
  unfold slice
  rw [← htake] at hlength ⊢
  rw [← List.drop_append_of_le_length hlength, List.take_append_drop]

theorem slice_cons {n stop : Nat} (hstop : n < stop) (hsize : n < table.size) :
    table.slice n stop = table.line n :: table.slice (n + 1) stop := by
  have hlines : n < table.lines.length := hsize
  have hlength : n < (table.lines.take stop).length := by
    rw [List.length_take]
    exact Nat.lt_min.mpr ⟨hstop, hlines⟩
  unfold slice line
  rw [List.drop_eq_getElem_cons hlength, List.getElem_take, List.getD_eq_getElem _ _ hlines]

section Around

variable {front tail : List Text} {line : Text} (h : table.lines = front ++ line :: tail)
include h

theorem size_eq : table.size = front.length + (tail.length + 1) := by
  unfold size
  rw [h, List.length_append, List.length_cons]

theorem line_length : table.line front.length = line := by
  unfold LineTable.line
  rw [h, List.getD_append_right _ _ _ _ (Nat.le_refl _), Nat.sub_self]
  rfl

theorem line_mem_of_lt {n : Nat} (hn : n < front.length) : table.line n ∈ front := by
  unfold LineTable.line
  rw [h, List.getD_append _ _ _ _ hn, List.getD_eq_getElem _ _ hn]
  exact List.getElem_mem hn

theorem line_mem_of_gt {n : Nat} (hn : front.length < n) (hsize : n < table.size) :
    table.line n ∈ tail := by
  obtain ⟨i, rfl⟩ := Nat.exists_eq_add_of_lt hn
  have hi : i < tail.length := by
    rw [size_eq h] at hsize
    omega
  unfold LineTable.line
  rw [h, Nat.add_assoc, List.getD_append_right _ _ _ _ (Nat.le_add_right _ _),
    Nat.add_sub_cancel_left, List.getD_cons_succ, List.getD_eq_getElem _ _ hi]
  exact List.getElem_mem hi

end Around

theorem offset_mono {m n : Nat} (h : m ≤ n) : table.offset m ≤ table.offset n := by
  have htake : (table.lines.take n).take m = table.lines.take m := by
    rw [List.take_take, Nat.min_eq_left h]
  have hsplit := List.take_append_drop m (table.lines.take n)
  unfold offset
  rw [← hsplit, htake, List.flatten_append, Text.byteLength_append]
  omega

theorem span_eq {start stop : Nat} (h : start ≤ stop) :
    table.span ⟨start, stop⟩ = ⟨table.offset start, table.offset stop, offset_mono h⟩ := by
  unfold span Span.covering
  rw [Span.eq_iff]
  exact ⟨Nat.min_eq_left (offset_mono h), Nat.max_eq_right (offset_mono h)⟩

theorem offset_size (source : Text) :
    (ofSource source).offset (ofSource source).size = source.byteLength := by
  unfold offset size ofSource
  rw [List.take_length, Text.flatten_chunks]

/-- The second line does not start where the first one starts. -/
theorem offset_one_pos {source : Text} (h : 0 < (ofSource source).size) :
    0 < (ofSource source).offset 1 := by
  unfold size at h
  unfold offset
  cases hlines : (ofSource source).lines with
  | nil => simp [hlines] at h
  | cons line lines =>
      have hne := (Text.isLines_chunks source).ne_nil_of_mem (hlines ▸ List.mem_cons_self)
      obtain ⟨c, rest, rfl⟩ := List.exists_cons_of_ne_nil hne
      rw [List.take_succ_cons, List.take_zero, List.flatten_singleton]
      exact Text.byteLength_pos

/-- The lines of a range go on from the lines in front of it. -/
theorem take_append_slice (table : LineTable) {start stop : Nat} (h : start ≤ stop) :
    table.lines.take start ++ table.slice start stop = table.lines.take stop := by
  have htake : (table.lines.take stop).take start = table.lines.take start := by
    rw [List.take_take, Nat.min_eq_left h]
  unfold slice
  rw [← htake, List.take_append_drop]

/-- A source is the text of some of its lines between the text of those in front of them and the
text of those behind them. -/
theorem source_eq (source : Text) {start stop : Nat} (h : start ≤ stop) :
    source = ((ofSource source).lines.take start).flatten
      ++ ((ofSource source).slice start stop).flatten
      ++ ((ofSource source).lines.drop stop).flatten := by
  rw [← List.flatten_append, ← List.flatten_append, take_append_slice _ h, List.take_append_drop]
  exact (Text.flatten_chunks source).symm

/-- The span of some lines of a source holds their text. -/
theorem slice?_span (source : Text) {start stop : Nat} (h : start ≤ stop) :
    ((ofSource source).span ⟨start, stop⟩).slice? source
      = some ((ofSource source).slice start stop).flatten := by
  have hstop : ((ofSource source).lines.take start).flatten
      ++ ((ofSource source).slice start stop).flatten
        = ((ofSource source).lines.take stop).flatten := by
    rw [← List.flatten_append, take_append_slice _ h]
  rw [span_eq h]
  exact Text.slice?_eq_some_iff.mpr ⟨_, _, source_eq source h, rfl, congrArg _ hstop⟩

end LineTable

/-! ## Blocks -/

/-- A line starts a decorator at this indentation. -/
def IsDecorator (indent : Nat) (line : Text) : Prop :=
  line.trimStart.startsWith "@" = true ∧ indentOf line = indent

/-- The lines of a definition of `name`: decorators at the indentation of the keyword, the line of
the keyword, and lines below it that do not end the definition. -/
structure DefinitionLines (name : Text) (decorators : List Text) (keyword : Text)
    (body : List Text) : Prop where
  decorated : ∀ line ∈ decorators, IsDecorator (indentOf keyword) line
  defines : defines name false keyword = true
  unended : ∀ line ∈ body, endsBlock (indentOf keyword) line = false

/-- The run of decorators that ends above line `n`. -/
theorem firstDecorator_run (table : LineTable) (indent : Nat) {limit n : Nat} (h : limit ≤ n) :
    limit ≤ firstDecorator table indent limit n ∧ firstDecorator table indent limit n ≤ n
      ∧ ∀ m, firstDecorator table indent limit n ≤ m → m < n
          → IsDecorator indent (table.line m) := by
  induction n with
  | zero =>
      refine ⟨h, Nat.le_refl 0, fun m _ hm => ?_⟩
      omega
  | succ n ih =>
      unfold firstDecorator
      dsimp only
      split
      · rename_i hline
        obtain ⟨hlow, hhigh, hall⟩ := ih (by omega)
        refine ⟨hlow, by omega, fun m hm hlt => ?_⟩
        by_cases hmn : m = n
        · rw [hmn]
          exact hline.2
        · exact hall m hm (by omega)
      · refine ⟨h, Nat.le_refl _, fun m hm hlt => ?_⟩
        omega

/-- The run goes up to the limit if all lines down from there are decorators. -/
theorem firstDecorator_eq_limit {table : LineTable} {indent limit n : Nat} (h : limit ≤ n)
    (hall : ∀ m, limit ≤ m → m < n → IsDecorator indent (table.line m)) :
    firstDecorator table indent limit n = limit := by
  induction n with
  | zero =>
      unfold firstDecorator
      omega
  | succ n ih =>
      unfold firstDecorator
      dsimp only
      by_cases hlimit : limit = n + 1
      · rw [if_neg (by omega), hlimit]
      · have hline := hall n (by omega) (Nat.lt_succ_self n)
        rw [if_pos ⟨by omega, hline⟩]
        exact ih (by omega) fun m hm hlt => hall m hm (by omega)

theorem stop_blockAt (table : LineTable) {keyword : Nat} {within : LineRange}
    (h : keyword < within.stop) :
    keyword < (blockAt table keyword within).stop
      ∧ (blockAt table keyword within).stop ≤ within.stop
      ∧ ∀ m, keyword < m → m < (blockAt table keyword within).stop
          → endsBlock (indentOf (table.line keyword)) (table.line m) = false := by
  unfold blockAt
  dsimp only
  cases hfind : (LineRange.mk (keyword + 1) within.stop).toList.find?
      fun n => endsBlock (indentOf (table.line keyword)) (table.line n) with
  | none =>
      rw [LineRange.find?_toList_eq_none_iff] at hfind
      exact ⟨h, Nat.le_refl _, fun m hm hlt => hfind m hm hlt⟩
  | some n =>
      rw [LineRange.find?_toList_eq_some_iff] at hfind
      obtain ⟨-, hlow, hhigh, hbefore⟩ := hfind
      exact ⟨hlow, Nat.le_of_lt hhigh, fun m hm hlt => hbefore m hm hlt⟩

/-- A block whose lines below the keyword end nothing goes on to the end of the range. -/
theorem stop_blockAt_eq {table : LineTable} {keyword : Nat} {within : LineRange}
    (h : ∀ m, keyword < m → m < within.stop
      → endsBlock (indentOf (table.line keyword)) (table.line m) = false) :
    (blockAt table keyword within).stop = within.stop := by
  have hnone : ((LineRange.mk (keyword + 1) within.stop).toList.find?
      fun n => endsBlock (indentOf (table.line keyword)) (table.line n)) = none :=
    LineRange.find?_toList_eq_none_iff.mpr h
  unfold blockAt
  dsimp only
  rw [hnone]
  rfl

/-- The lines of a block in a table are those of a definition of `name`. -/
structure LineTable.HoldsDefinition (table : LineTable) (name : Text) (b : Block) : Prop where
  first_le : b.first ≤ b.keyword
  keyword_lt : b.keyword < b.stop
  stop_le : b.stop ≤ table.size
  lines : DefinitionLines name (table.slice b.first b.keyword) (table.line b.keyword)
    (table.slice (b.keyword + 1) b.stop)

namespace LineTable.HoldsDefinition

variable {table : LineTable} {name : Text} {b : Block}

theorem slice_eq (h : table.HoldsDefinition name b) :
    table.slice b.first b.stop
      = table.slice b.first b.keyword
        ++ table.line b.keyword :: table.slice (b.keyword + 1) b.stop := by
  have hsize := Nat.lt_of_lt_of_le h.keyword_lt h.stop_le
  rw [slice_append h.first_le (Nat.le_of_lt h.keyword_lt) (Nat.le_of_lt hsize),
    slice_cons h.keyword_lt hsize]

end LineTable.HoldsDefinition

section Search

variable {table : LineTable} {within : LineRange} {name : Text}

/-- The block of a keyword line holds a definition, within the range that was searched. -/
theorem holdsDefinition_blockAt {keyword : Nat} (hstart : within.start ≤ keyword)
    (hstop : keyword < within.stop) (hsize : within.stop ≤ table.size)
    (hdefines : defines name false (table.line keyword) = true) :
    table.HoldsDefinition name (blockAt table keyword within)
      ∧ within.start ≤ (blockAt table keyword within).first
      ∧ (blockAt table keyword within).stop ≤ within.stop := by
  obtain ⟨hlow, hhigh, hdecorators⟩ :=
    firstDecorator_run table (indentOf (table.line keyword)) hstart
  obtain ⟨hlt, hle, hbody⟩ := stop_blockAt table hstop
  refine ⟨⟨hhigh, hlt, Nat.le_trans hle hsize, ?_, hdefines, ?_⟩, hlow, hle⟩
  · intro line hline
    obtain ⟨m, hm, hmk, -, rfl⟩ := LineTable.exists_of_mem_slice hline
    exact hdecorators m hm hmk
  · intro line hline
    obtain ⟨m, hm, hmk, -, rfl⟩ := LineTable.exists_of_mem_slice hline
    exact hbody m hm hmk

theorem findBlock?_eq_some_iff {classesOnly : Bool} {b : Block} :
    findBlock? table within name classesOnly = some b
      ↔ ∃ keyword, blockAt table keyword within = b
          ∧ defines name classesOnly (table.line keyword) = true
          ∧ within.start ≤ keyword ∧ keyword < within.stop
          ∧ ∀ m, within.start ≤ m → m < keyword
              → defines name classesOnly (table.line m) = false := by
  unfold findBlock?
  rw [Option.map_eq_some_iff]
  simp only [LineRange.find?_toList_eq_some_iff]
  constructor
  · rintro ⟨keyword, hfind, hb⟩
    exact ⟨keyword, hb, hfind⟩
  · rintro ⟨keyword, hb, hfind⟩
    exact ⟨keyword, hfind, hb⟩

theorem holdsDefinition_findBlock? {classesOnly : Bool} {b : Block}
    (h : findBlock? table within name classesOnly = some b) (hsize : within.stop ≤ table.size) :
    table.HoldsDefinition name b ∧ within.start ≤ b.first ∧ b.stop ≤ within.stop := by
  obtain ⟨keyword, rfl, hdefines, hstart, hstop, -⟩ := findBlock?_eq_some_iff.mp h
  refine holdsDefinition_blockAt hstart hstop hsize ?_
  obtain ⟨kind, hparse, -⟩ := defines_eq_true_iff.mp hdefines
  exact defines_eq_true_iff.mpr ⟨kind, hparse, Bool.noConfusion⟩

end Search

/-! ## Qualified names -/

theorem dot_not_mem_of_defines {name line : Text} {classesOnly : Bool}
    (h : defines name classesOnly line = true) : '.' ∉ name := by
  obtain ⟨kind, hparse, -⟩ := defines_eq_true_iff.mp h
  exact Definition.dot_not_mem_of_parse? hparse

theorem splitFirst?_dot_eq_some_iff {q owner name : Text} :
    Text.splitFirst? "." q = some (owner, name) ↔ q = owner ++ '.' :: name ∧ '.' ∉ owner :=
  Text.splitFirst?_singleton_eq_some_iff

/-- The two searches for a qualified name: for the class, and in its body for the method. -/
theorem locateBlock?_eq_some_iff {table : LineTable} {q : Text} {b : Block} :
    locateBlock? table q = some b
      ↔ ('.' ∉ q ∧ findBlock? table table.all q false = some b)
        ∨ ∃ owner method outer, q = owner ++ '.' :: method ∧ '.' ∉ owner
            ∧ findBlock? table table.all owner true = some outer
            ∧ findBlock? table outer.body method false = some b := by
  unfold locateBlock?
  cases hsplit : Text.splitFirst? "." q with
  | none =>
      have hdot : '.' ∉ q := Text.splitFirst?_singleton_eq_none_iff.mp hsplit
      constructor
      · exact fun h => .inl ⟨hdot, h⟩
      · rintro (⟨-, h⟩ | ⟨owner, method, outer, rfl, -⟩)
        · exact h
        · simp at hdot
  | some parts =>
      obtain ⟨owner, method⟩ := parts
      obtain ⟨hq, howner⟩ := splitFirst?_dot_eq_some_iff.mp hsplit
      dsimp only
      rw [Option.bind_eq_bind, Option.bind_eq_some_iff]
      constructor
      · rintro ⟨outer, houter, hmethod⟩
        exact .inr ⟨owner, method, outer, hq, howner, houter, hmethod⟩
      · rintro (⟨hdot, -⟩ | ⟨owner', method', outer, hq', howner', houter, hmethod⟩)
        · rw [hq] at hdot
          simp at hdot
        · have hsame := splitFirst?_dot_eq_some_iff.mpr ⟨hq', howner'⟩
          rw [hsplit, Option.some.injEq, Prod.mk.injEq] at hsame
          obtain ⟨rfl, rfl⟩ := hsame
          exact ⟨outer, houter, hmethod⟩

/-- What is found under a qualified name is a definition of the local name. -/
theorem holdsDefinition_locateBlock? {table : LineTable} {q : Text} {b : Block}
    (h : locateBlock? table q = some b) : table.HoldsDefinition (localName q) b := by
  rcases locateBlock?_eq_some_iff.mp h with
    ⟨hdot, hfind⟩ | ⟨owner, method, outer, rfl, -, houter, hmethod⟩
  · rw [localName_of_dot_not_mem hdot]
    exact (holdsDefinition_findBlock? hfind (Nat.le_refl _)).1
  · have hbody := (holdsDefinition_findBlock? houter (Nat.le_refl _)).1
    have hmethod := (holdsDefinition_findBlock? hmethod hbody.stop_le).1
    rw [localName_append (dot_not_mem_of_defines hmethod.lines.defines)]
    exact hmethod

/-! ## Extracted code -/

theorem extractSymbol_of_locateBlock? {source q : Text} {b : Block}
    (h : locateBlock? (.ofSource source) q = some b) (hle : b.first ≤ b.stop) :
    extractSymbol source q false = ((LineTable.ofSource source).slice b.first b.stop).flatten := by
  unfold extractSymbol locateSymbol?
  dsimp only
  rw [h, Option.map_some, Option.bind_some, Block.lines, LineTable.slice?_span source hle]
  rfl

/-- Extracted code is the text of a block that holds a definition of the local name. -/
theorem exists_block_of_extractSymbol_ne_nil {source q : Text}
    (h : extractSymbol source q false ≠ []) :
    ∃ b, locateBlock? (.ofSource source) q = some b
      ∧ (LineTable.ofSource source).HoldsDefinition (localName q) b
      ∧ extractSymbol source q false
        = ((LineTable.ofSource source).slice b.first b.stop).flatten := by
  cases hlocate : locateBlock? (.ofSource source) q with
  | none =>
      refine absurd ?_ h
      unfold extractSymbol locateSymbol?
      dsimp only
      rw [hlocate]
      rfl
  | some b =>
      have hholds := holdsDefinition_locateBlock? hlocate
      have hle := Nat.le_of_lt (Nat.lt_of_le_of_lt hholds.first_le hholds.keyword_lt)
      exact ⟨b, rfl, hholds, extractSymbol_of_locateBlock? hlocate hle⟩

/-- Some code is a definition of `name` and nothing else. -/
def IsDefinitionOf (name code : Text) : Prop :=
  ∃ decorators keyword body, code.chunks = decorators ++ keyword :: body
    ∧ DefinitionLines name decorators keyword body

/-- The text of a block is a definition from its first line to its last. -/
theorem isDefinitionOf_slice {source name : Text} {b : Block}
    (h : (LineTable.ofSource source).HoldsDefinition name b) :
    IsDefinitionOf name ((LineTable.ofSource source).slice b.first b.stop).flatten := by
  have hlines : Text.IsLines ((LineTable.ofSource source).slice b.first b.stop) := by
    refine (Text.isLines_chunks source).sublist ?_
    exact (List.drop_sublist _ _).trans (List.take_sublist _ _)
  exact ⟨_, _, _, hlines.chunks_flatten.trans h.slice_eq, h.lines⟩

theorem isDefinitionOf_extractSymbol {source q : Text} (h : extractSymbol source q false ≠ []) :
    IsDefinitionOf (localName q) (extractSymbol source q false) := by
  obtain ⟨b, -, hholds, hcode⟩ := exists_block_of_extractSymbol_ne_nil h
  rw [hcode]
  exact isDefinitionOf_slice hholds

/-- A table that holds the lines of a definition and nothing else is found as a whole. -/
theorem findBlock?_of_definitionLines {table : LineTable} {name keyword : Text}
    {decorators body : List Text} (htable : table.lines = decorators ++ keyword :: body)
    (h : DefinitionLines name decorators keyword body) :
    findBlock? table table.all name false = some ⟨0, decorators.length, table.size⟩ := by
  have hkeyword : table.line decorators.length = keyword := LineTable.line_length htable
  have hsize : decorators.length < table.size := by
    rw [LineTable.size_eq htable]
    omega
  have hfirst : (blockAt table decorators.length table.all).first = 0 := by
    refine firstDecorator_eq_limit (Nat.zero_le _) fun m _ hm => ?_
    rw [hkeyword]
    exact h.decorated _ (LineTable.line_mem_of_lt htable hm)
  have hstop : (blockAt table decorators.length table.all).stop = table.size := by
    refine stop_blockAt_eq fun m hm hlt => ?_
    rw [hkeyword]
    exact h.unended _ (LineTable.line_mem_of_gt htable hm hlt)
  refine findBlock?_eq_some_iff.mpr ⟨decorators.length, ?_, ?_, Nat.zero_le _, hsize, ?_⟩
  · rw [← hfirst, ← hstop]
    rfl
  · rw [hkeyword]
    exact h.defines
  · intro m _ hm
    have hat := (h.decorated _ (LineTable.line_mem_of_lt htable hm)).1
    unfold defines
    rw [Definition.parse?_of_startsWith_at hat]

/-- A method that is found in its class does not start at the first line. -/
theorem start_pos_of_locateSymbol? {code q : Text} {span : Span} (hdot : '.' ∈ q)
    (h : locateSymbol? code q = some span) : 0 < span.start := by
  unfold locateSymbol? at h
  obtain ⟨b, hlocate, rfl⟩ := Option.map_eq_some_iff.mp h
  obtain ⟨hfree, -⟩ | ⟨owner, method, outer, -, -, houter, hmethod⟩ :=
    locateBlock?_eq_some_iff.mp hlocate
  · contradiction
  have hclass := (holdsDefinition_findBlock? houter (Nat.le_refl _)).1
  obtain ⟨hholds, hfirst, -⟩ := holdsDefinition_findBlock? hmethod hclass.stop_le
  have hle := Nat.le_of_lt (Nat.lt_of_le_of_lt hholds.first_le hholds.keyword_lt)
  have hbelow : 1 ≤ b.first := Nat.le_trans (Nat.le_add_left 1 outer.keyword) hfirst
  have hsize : 0 < (LineTable.ofSource code).size :=
    Nat.lt_of_le_of_lt (Nat.zero_le _) (Nat.lt_of_lt_of_le hholds.keyword_lt hholds.stop_le)
  rw [Block.lines, LineTable.span_eq hle]
  exact Nat.lt_of_lt_of_le (LineTable.offset_one_pos hsize) (LineTable.offset_mono hbelow)

/-- A definition is found in its own text as the whole of it. -/
theorem locateSymbol?_of_isDefinitionOf {name code : Text} (h : IsDefinitionOf name code) :
    locateSymbol? code name = some (.whole code) := by
  obtain ⟨decorators, keyword, body, hchunks, hlines⟩ := h
  have hdot := dot_not_mem_of_defines hlines.defines
  have htable : (LineTable.ofSource code).lines = decorators ++ keyword :: body := hchunks
  have hfind := findBlock?_of_definitionLines htable hlines
  have hlocate := locateBlock?_eq_some_iff.mpr (.inl ⟨hdot, hfind⟩)
  unfold locateSymbol?
  dsimp only
  rw [hlocate, Option.map_some, Block.lines, LineTable.span_eq (Nat.zero_le _), Option.some.injEq,
    Span.eq_iff]
  exact ⟨rfl, LineTable.offset_size code⟩

/-- A definition is extracted from its own text as the whole of it. -/
theorem extractSymbol_of_isDefinitionOf {name code : Text} (h : IsDefinitionOf name code) :
    extractSymbol code name false = code := by
  unfold extractSymbol
  rw [locateSymbol?_of_isDefinitionOf h, Option.bind_some, Span.slice?_whole]
  rfl

end Weave
