import Weave.Proofs.Code.Nesting
import Weave.Proofs.Symbol.Siblings

/-!
# Class headers and methods

The methods of a class are its function definitions at the indentation of the first written line
below the line of the keyword.  A header may take several lines, and then that line belongs to the
header and not to the body.

* `exists_line_of_colon` says in which line a header ends.
* `isRegistered_iff_indent` says which functions at the indentation of the body are registered: all
  of them if the first written line below the keyword has that indentation too, as it does when the
  header takes one line, and otherwise none.
-/

namespace Weave

/-! ## The line of a character -/

/-- A character that is no line break stands in the line behind as many lines as there are line
breaks before it. -/
theorem Text.IsLines.exists_line_of_flatten {ls : List Text} (h : IsLines ls)
    {before after : Text} {c : Char} (hc : c ≠ '\n') (hflat : ls.flatten = before ++ c :: after) :
    ∃ front u v tail, ls = front ++ (u ++ c :: v) :: tail
      ∧ front.length = before.count '\n' ∧ before = front.flatten ++ u := by
  induction h generalizing before with
  | nil => simp at hflat
  | @last line ne free =>
      rw [List.flatten_singleton] at hflat
      have hbefore : '\n' ∉ before := fun hmem => free (hflat ▸ List.mem_append_left _ hmem)
      exact ⟨[], before, after, [], by rw [hflat]; rfl, (List.count_eq_zero.mpr hbefore).symm, rfl⟩
  | @cons body lines free later ih =>
      rw [List.flatten_cons] at hflat
      have hlater : ∀ rest, before = (body ++ ['\n']) ++ rest →
          lines.flatten = rest ++ c :: after →
          ∃ front u v tail, (body ++ ['\n']) :: lines = front ++ (u ++ c :: v) :: tail
            ∧ front.length = before.count '\n' ∧ before = front.flatten ++ u := by
        intro rest hbefore hrest
        obtain ⟨front, u, v, tail, hlines, hlength, hu⟩ := ih hrest
        refine ⟨(body ++ ['\n']) :: front, u, v, tail, by rw [hlines]; rfl, ?_, ?_⟩
        · rw [hbefore, List.count_append, List.count_append, List.count_eq_zero.mpr free,
            List.length_cons, hlength]
          simp
          omega
        · rw [hbefore, hu]
          simp
      rcases List.append_eq_append_iff.mp hflat with ⟨rest, hbefore, hrest⟩ | ⟨rest, hline, hrest⟩
      · exact hlater rest hbefore hrest
      · cases rest with
        | nil => exact hlater [] (by simpa using hline.symm) (by simpa using hrest.symm)
        | cons d rest =>
            obtain ⟨rfl, hafter⟩ := List.cons.inj hrest
            -- The character stands in the first line, in front of its line break.
            rcases List.append_eq_append_iff.mp hline with ⟨u, hbefore, hend⟩ | ⟨u, hbody, hend⟩
            · cases u with
              | nil => exact absurd (List.cons.inj hend).1.symm hc
              | cons e u => simp at hend
            · have hfree : '\n' ∉ before := fun hmem =>
                free (hbody ▸ List.mem_append_left _ hmem)
              exact ⟨[], before, rest, lines, by rw [hline]; rfl,
                (List.count_eq_zero.mpr hfree).symm, rfl⟩

namespace LineTable

variable {table : LineTable}

/-- The first line of a range that is not blank. -/
def firstWritten? (table : LineTable) (r : LineRange) : Option Nat :=
  r.toList.find? fun n => !(table.line n).isAllSpace

/-- A range that begins further up has a written line as well. -/
theorem exists_firstWritten?_of_le {table : LineTable} {r : LineRange} {n : Nat}
    (h : table.firstWritten? r = some n) {start : Nat} (hstart : start ≤ r.start) :
    ∃ m, table.firstWritten? ⟨start, r.stop⟩ = some m := by
  obtain ⟨hwritten, hlow, hhigh, -⟩ := LineRange.find?_toList_eq_some_iff.mp h
  rw [← Option.isSome_iff_exists]
  apply List.find?_isSome.mpr
  exact ⟨n, LineRange.mem_toList.mpr ⟨Nat.le_trans hstart hlow, hhigh⟩, hwritten⟩

/-- A line of some lines in a row, and those in front of it. -/
theorem line_of_slice_eq {start stop : Nat} {front tail : List Text} {line : Text}
    (h : table.slice start stop = front ++ line :: tail) :
    table.line (start + front.length) = line
      ∧ table.slice start (start + front.length) = front := by
  have hget : (table.slice start stop)[front.length]? = some line := by
    rw [h]
    simp
  have htake : (table.slice start stop).take front.length = front := by
    rw [h]
    simp
  unfold slice at hget htake
  rw [List.getElem?_drop, List.getElem?_take] at hget
  split at hget
  · rename_i hlt
    refine ⟨?_, ?_⟩
    · unfold LineTable.line
      rw [List.getD_eq_getElem?_getD, hget]
      rfl
    · unfold slice
      rw [List.take_drop, List.take_take, Nat.min_eq_left (Nat.le_of_lt hlt)] at htake
      exact htake
  · contradiction

end LineTable

/-! ## Headers -/

/-- The number of the last line of the header of a block. -/
def Block.headerEnd (b : Block) (header : Text) : Nat := b.keyword + header.count '\n'

namespace Signature

/-- The header of the first definition in some code, up to its first colon at the top level. -/
def header? (code : Text) : Option (Keyword × Text) := do
  let (keyword, rest) ← firstDefinition? code.chunks
  let (header, _) ← Nesting.outside.splitTop? ':' rest
  return (keyword, header)

theorem header?_eq_some_iff {code header : Text} {keyword : Keyword} :
    header? code = some (keyword, header)
      ↔ ∃ rest body, firstDefinition? code.chunks = some (keyword, rest)
          ∧ Nesting.outside.splitTop? ':' rest = some (header, body) := by
  unfold header?
  simp only [Option.bind_eq_bind, Option.bind_eq_some_iff, Option.pure_def, Option.some.injEq,
    Prod.exists, Prod.mk.injEq]
  grind

/-- The signature of a class is its header. -/
theorem parse?_of_header? {code header : Text} (h : header? code = some (.«class», header)) :
    parse? code = some ⟨normalizeSpace header, [], []⟩ := by
  obtain ⟨rest, body, hfirst, hheader⟩ := header?_eq_some_iff.mp h
  unfold parse?
  rw [hfirst]
  simp only [Option.bind_eq_bind, Option.bind_some, hheader]
  rfl

/-- Decorators are passed over. -/
theorem firstDefinition?_append {name keyword : Text} {kind : Keyword} {decorators body : List Text}
    (h : DefinitionLines name decorators keyword body)
    (hparse : Definition.parse? keyword.trimStart = some (kind, name)) :
    firstDefinition? (decorators ++ keyword :: body)
      = some (kind, keyword.trimStart ++ body.flatten) := by
  have hskip : ∀ line ∈ decorators, Definition.parse? line.trimStart = none :=
    fun line hline => Definition.parse?_of_startsWith_at (h.decorated line hline).1
  induction decorators with
  | nil =>
      rw [List.nil_append, firstDefinition?, hparse]
  | cons line decorators ih =>
      have hlater : DefinitionLines name decorators keyword body :=
        ⟨fun l hl => h.decorated l (List.mem_cons_of_mem line hl), h.defines, h.unended⟩
      rw [List.cons_append, firstDefinition?, hskip line List.mem_cons_self]
      exact ih hlater fun l hl => hskip l (List.mem_cons_of_mem line hl)

end Signature

section ClassHeader

variable {source name header : Text} {n : Nat}

/-- The colon that ends the header of a class stands in the last line of the header. -/
theorem exists_line_of_colon
    (hclass : (n, name) ∈ SymbolIndex.topLevel (.ofSource source) .«class») :
    let table := LineTable.ofSource source
    let block := blockAt table n table.all
    Signature.header? (table.text block.lines) = some (.«class», header) →
      ∃ u v, table.line (block.headerEnd header) = u ++ ':' :: v
        ∧ header = (table.slice n (block.headerEnd header)).flatten ++ u := by
  intro table block hheader
  have hholds : table.HoldsDefinition name block := holdsDefinition_of_mem_topLevel hclass
  have hparse := (SymbolIndex.mem_topLevel.mp hclass).2
  have htrim := Definition.trimStart_of_parse? hparse
  have hlines : ∀ start stop, Text.IsLines (table.slice start stop) := fun start stop =>
    (Text.isLines_chunks source).sublist ((List.drop_sublist _ _).trans (List.take_sublist _ _))
  have hfirst : Signature.firstDefinition? (table.text block.lines).chunks
      = some (.«class», (table.slice n block.stop).flatten) := by
    have hchunks : (table.text block.lines).chunks = table.slice block.first block.stop :=
      (hlines _ _).chunks_flatten
    have hkeyword : n < block.stop := hholds.keyword_lt
    have hsize : n < table.size := Nat.lt_of_lt_of_le hkeyword hholds.stop_le
    rw [hchunks, hholds.slice_eq,
      Signature.firstDefinition?_append hholds.lines (htrim.symm ▸ hparse),
      LineTable.slice_cons hkeyword hsize, List.flatten_cons]
    show some (_, (table.line n).trimStart ++ _) = some (_, table.line n ++ _)
    rw [htrim]
    rfl
  obtain ⟨rest, body, hrest, hsplit⟩ := Signature.header?_eq_some_iff.mp hheader
  obtain ⟨-, rfl⟩ := Prod.mk.inj (Option.some.inj (hfirst.symm.trans hrest))
  obtain ⟨hflat, -, -⟩ := Nesting.splitTop?_eq_some_iff.mp hsplit
  obtain ⟨front, u, v, tail, hslice, hlength, hu⟩ :=
    (hlines n block.stop).exists_line_of_flatten (by decide) hflat
  obtain ⟨hline, hfront⟩ := LineTable.line_of_slice_eq hslice
  have hend : block.headerEnd header = n + front.length := by
    rw [hlength]
    rfl
  exact ⟨u, v, by rw [hend, hline], by rw [hend, hfront, hu]⟩

end ClassHeader

/-! ## Methods -/

section Methods

variable {table : LineTable} {n m : Nat} {name method : Text}

/-- A keyword line is a line of its definition. -/
theorem keyword_mem_lines {within : LineRange} (hstart : within.start ≤ n)
    (hstop : n < within.stop) : n ∈ (blockAt table n within).lines.toList := by
  rw [LineRange.mem_toList]
  exact ⟨(first_blockAt table _ hstart).2.1, (stop_blockAt table hstop).1⟩

/-- A function among the lines of a class stands below the keyword. -/
theorem mem_body_of_mem_lines (hclass : (n, name) ∈ SymbolIndex.topLevel table .«class»)
    (hm : m ∈ (blockAt table n table.all).lines.toList)
    (hmethod : Definition.parse? (table.line m).trimStart = some (.function, method)) :
    m ∈ (blockAt table n table.all).body.toList := by
  rw [LineRange.mem_toList] at hm ⊢
  obtain ⟨-, -, hdecorators⟩ := first_blockAt table table.all (Nat.zero_le n)
  have hbelow : n < m := by
    rcases Nat.lt_trichotomy m n with hlt | heq | hgt
    · have hat := (hdecorators m hm.1 hlt).1
      rw [Definition.parse?_of_startsWith_at hat] at hmethod
      contradiction
    · have hparse := (SymbolIndex.mem_topLevel.mp hclass).2
      rw [heq, Definition.trimStart_of_parse? hparse, hparse] at hmethod
      simp at hmethod
    · exact hgt
  exact ⟨hbelow, hm.2⟩

/-- Of the definitions of a file only the methods of a class stand among its lines, below it. -/
theorem mem_methodLines_of_mem_fileSites {s : DefinitionSite}
    (hclass : (n, name) ∈ SymbolIndex.topLevel table .«class»)
    (hm : s.block.keyword ∈ (blockAt table n table.all).body.toList) (hs : s ∈ fileSites table) :
    ∃ method, (s.block.keyword, method)
      ∈ SymbolIndex.methodLines table (blockAt table n table.all).body := by
  have hlines : s.block.keyword ∈ (blockAt table n table.all).lines.toList := by
    rw [LineRange.mem_toList] at hm ⊢
    have hfirst := (first_blockAt table table.all (Nat.zero_le n)).2.1
    exact ⟨Nat.le_trans hfirst (Nat.le_of_succ_le hm.1), hm.2⟩
  rcases mem_fileSites.mp hs with ⟨k, owner, howner, hsite⟩ | ⟨k, function, hfunction, rfl⟩
  · by_cases hkn : k = n
    · subst hkn
      rcases mem_classSites.mp hsite with rfl | ⟨m, method, hmethod, rfl⟩
      · rw [LineRange.mem_toList] at hm
        exact absurd hm.1 (Nat.not_succ_le_self k)
      · exact ⟨method, hmethod⟩
    · -- Another class has no line in common with this one.
      have hsize := (SymbolIndex.mem_topLevel.mp howner).1
      have hkeyword : s.block.keyword ∈ s.lines := by
        obtain ⟨within, hstart, hstop, hblock, -⟩ := exists_within_of_mem_fileSites hs
        rw [DefinitionSite.lines, hblock]
        exact keyword_mem_lines hstart hstop
      exact absurd hlines
        (disjoint_lines_of_mem_topLevel howner hclass hkn
          (lines_subset_of_mem_classSites hsite hkeyword))
  · have hsize := (SymbolIndex.mem_topLevel.mp hfunction).1
    have hkn : k ≠ n := by
      rintro rfl
      rw [LineRange.mem_toList] at hm
      exact absurd hm.1 (Nat.not_succ_le_self k)
    exact absurd hlines (disjoint_lines_of_mem_topLevel hfunction hclass hkn
      (keyword_mem_lines (Nat.zero_le k) hsize))

/-- A method of a class has a record. -/
theorem exists_record_of_mem_methodLines (file : Text) {source : Text} :
    let table := LineTable.ofSource source
    (n, name) ∈ SymbolIndex.topLevel table .«class» →
    (m, method) ∈ SymbolIndex.methodLines table (blockAt table n table.all).body →
      ∃ r ∈ SymbolIndex.fileRecords file source, r.line = m + 1
        ∧ r.qualifiedName = name ++ "." ++ method ∧ r.kind = .method ∧ r.parent = some name := by
  intro table hclass hline
  have hsite : ⟨name ++ "." ++ method, .method, some (name, blockAt table n table.all),
      blockAt table m (blockAt table n table.all).body⟩ ∈ fileSites table := by
    refine mem_fileSites.mpr (.inl ⟨n, name, hclass, ?_⟩)
    exact mem_classSites.mpr (.inr ⟨m, method, hline, rfl⟩)
  rw [fileRecords_eq_map]
  exact ⟨_, List.mem_map_of_mem hsite, rfl, rfl, rfl, rfl⟩

/-- What is recorded below the keyword of a class is a method of it. -/
theorem mem_methodLines_of_mem_fileRecords {file source : Text} {r : SymbolRecord} :
    let table := LineTable.ofSource source
    (n, name) ∈ SymbolIndex.topLevel table .«class» →
    m ∈ (blockAt table n table.all).body.toList →
    r ∈ SymbolIndex.fileRecords file source → r.line = m + 1 →
      ∃ method, (m, method) ∈ SymbolIndex.methodLines table (blockAt table n table.all).body := by
  intro table hclass hbody hr hline
  rw [fileRecords_eq_map] at hr
  obtain ⟨s, hs, rfl⟩ := List.mem_map.mp hr
  have hkeyword : s.block.keyword = m := Nat.succ.inj hline
  subst hkeyword
  exact mem_methodLines_of_mem_fileSites hclass hbody hs

end Methods

/-- In the block of a class at column zero the first written line below the header stands at the
indentation of the body.  A function at that indentation is registered, as a method of the class,
exactly if the first written line below the keyword stands there too; when the header takes one line
this is the same line. -/
theorem isRegistered_iff_indent (file source : Text) {n m first : Nat} {name method header : Text} :
    let table := LineTable.ofSource source
    let block := blockAt table n table.all
    (n, name) ∈ SymbolIndex.topLevel table .«class» →
    Signature.header? (table.text block.lines) = some (.«class», header) →
    table.firstWritten? ⟨block.headerEnd header + 1, block.stop⟩ = some first →
    m ∈ block.lines.toList →
    indentOf (table.line m) = indentOf (table.line first) →
    Definition.parse? (table.line m).trimStart = some (.function, method) →
      Signature.parse? (table.text block.lines) = some ⟨Signature.normalizeSpace header, [], []⟩
        ∧ (∃ u v, table.line (block.headerEnd header) = u ++ ':' :: v
          ∧ header = (table.slice n (block.headerEnd header)).flatten ++ u)
        ∧ ∃ below, table.firstWritten? block.body = some below
          ∧ ('\n' ∉ header → below = first)
          ∧ ((∃ r ∈ SymbolIndex.fileRecords file source, r.line = m + 1)
            ↔ indentOf (table.line first) = indentOf (table.line below))
          ∧ (indentOf (table.line first) = indentOf (table.line below) →
            ∃ r ∈ SymbolIndex.fileRecords file source, r.line = m + 1
              ∧ r.qualifiedName = name ++ "." ++ method ∧ r.kind = .method
              ∧ r.parent = some name) := by
  intro table block hclass hheader hfirst hm hindent hmethod
  have hbody : m ∈ block.body.toList := mem_body_of_mem_lines hclass hm hmethod
  have hstart : block.keyword + 1 ≤ block.headerEnd header + 1 := by
    unfold Block.headerEnd
    omega
  obtain ⟨below, hbelow⟩ := LineTable.exists_firstWritten?_of_le hfirst hstart
  have hregistered : indentOf (table.line first) = indentOf (table.line below) →
      ∃ r ∈ SymbolIndex.fileRecords file source, r.line = m + 1
        ∧ r.qualifiedName = name ++ "." ++ method ∧ r.kind = .method ∧ r.parent = some name := by
    intro hsame
    apply exists_record_of_mem_methodLines file hclass
    exact SymbolIndex.mem_methodLines.mpr ⟨below, hbelow, hbody, hindent.trans hsame, hmethod⟩
  refine ⟨Signature.parse?_of_header? hheader, exists_line_of_colon hclass hheader, below, hbelow,
    ?_, ⟨?_, ?_⟩, hregistered⟩
  · intro hfree
    have hend : block.headerEnd header = block.keyword := by
      rw [Block.headerEnd, List.count_eq_zero.mpr hfree, Nat.add_zero]
    rw [hend] at hfirst
    exact Option.some.inj (hbelow.symm.trans hfirst)
  · intro h
    obtain ⟨r, hr, hline⟩ := h
    obtain ⟨found, hfound⟩ := mem_methodLines_of_mem_fileRecords hclass hbody hr hline
    obtain ⟨below', hbelow', -, hsame, -⟩ := SymbolIndex.mem_methodLines.mp hfound
    obtain rfl : below = below' := Option.some.inj (hbelow.symm.trans hbelow')
    rw [← hindent, hsame]
  · intro hsame
    obtain ⟨r, hr, hline, -⟩ := hregistered hsame
    exact ⟨r, hr, hline⟩

/-- A class with its base in a line of its own, at the indentation of the body. -/
def baseAtBody : Text :=
  "class A(\n    Base,\n):\n    x = 1\n\n    def m(self):\n        return 1\n"

/-- The line of the base stands for the body. -/
theorem isRegistered_baseAtBody :
    let table := LineTable.ofSource baseAtBody
    let block := blockAt table 0 table.all
    let header : Text := "class A(\n    Base,\n)".toList
    (0, "A".toList) ∈ SymbolIndex.topLevel table .«class»
      ∧ Signature.header? (table.text block.lines) = some (.«class», header)
      ∧ table.firstWritten? ⟨block.headerEnd header + 1, block.stop⟩ = some 3
      ∧ 5 ∈ block.lines.toList ∧ indentOf (table.line 5) = indentOf (table.line 3)
      ∧ Definition.parse? (table.line 5).trimStart = some (.function, "m".toList)
      ∧ ∃ r ∈ SymbolIndex.fileRecords "a.py" baseAtBody, r.line = 6
        ∧ r.qualifiedName = "A.m".toList ∧ r.kind = .method ∧ r.parent = some "A".toList := by
  intro table block header
  have hclass : (0, "A".toList) ∈ SymbolIndex.topLevel table .«class» := by decide +kernel
  have hheader : Signature.header? (table.text block.lines) = some (.«class», header) := by
    decide +kernel
  have hfirst : table.firstWritten? ⟨block.headerEnd header + 1, block.stop⟩ = some 3 := by
    decide +kernel
  have hm : 5 ∈ block.lines.toList := by decide +kernel
  have hindent : indentOf (table.line 5) = indentOf (table.line 3) := by decide +kernel
  have hmethod : Definition.parse? (table.line 5).trimStart = some (.function, "m".toList) := by
    decide +kernel
  obtain ⟨-, -, below, hbelow, -, -, hregistered⟩ :=
    isRegistered_iff_indent "a.py" baseAtBody hclass hheader hfirst hm hindent hmethod
  have hbase : table.firstWritten? block.body = some 1 := by decide +kernel
  obtain rfl : below = 1 := Option.some.inj (hbelow.symm.trans hbase)
  exact ⟨hclass, hheader, hfirst, hm, hindent, hmethod, hregistered (by decide +kernel)⟩

/-- A class with its base further to the right than its body. -/
def baseBeyondBody : Text := "class A(\n        Base,\n):\n    def m(self):\n        return 1\n"

/-- The method stands at the indentation of the body, below a header that ends at its colon, and is
not registered. -/
theorem isRegistered_baseBeyondBody :
    let table := LineTable.ofSource baseBeyondBody
    let block := blockAt table 0 table.all
    let header : Text := "class A(\n        Base,\n)".toList
    (0, "A".toList) ∈ SymbolIndex.topLevel table .«class»
      ∧ Signature.header? (table.text block.lines) = some (.«class», header)
      ∧ table.firstWritten? ⟨block.headerEnd header + 1, block.stop⟩ = some 3
      ∧ 3 ∈ block.lines.toList
      ∧ Definition.parse? (table.line 3).trimStart = some (.function, "m".toList)
      ∧ ∀ r ∈ SymbolIndex.fileRecords "a.py" baseBeyondBody, r.line ≠ 4 := by
  decide +kernel

end Weave
