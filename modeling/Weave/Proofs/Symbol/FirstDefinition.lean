import Weave.Proofs.Fence.Origin
import Weave.Proofs.Symbol.Registration

/-!
# Indexed and extracted definitions

There are two ways to the code of a class or a function.  The index takes the definitions at column
zero, and extraction takes the first definition of the name, however deep it stands.  They agree
exactly if nothing above the indexed definition defines the name.

* `exists_keyword_of_mem_records` says which definition a record stands for: the first one of its
  name and its kind at column zero.
* `line_keyword_eq_of_text_eq` is why a definition above is never the same text: the texts would
  have the same keyword line, and then the upper one would have been indexed.
* `extractSymbol_eq_code_iff` puts this together, for extraction, for the parameters that the
  annotator looks for, and for fences.
-/

namespace Weave

/-! ## The definition of a record -/

/-- The kind of symbol that a keyword defines at column zero. -/
def Keyword.symbolKind : Keyword → SymbolKind
  | .function => .function
  | .«class» => .«class»

namespace SymbolIndex

theorem get?_of_mem {index : SymbolIndex} {r : SymbolRecord} (h : r ∈ index.records) :
    index.get? r.qualifiedName = some r :=
  index.get?_eq_some_iff.mpr ⟨h, rfl⟩

/-- The first line at column zero that defines a name with a keyword. -/
theorem find?_topLevel_eq_some {table : LineTable} {keyword : Keyword} {q : Text}
    {line : Nat × Text} (h : (topLevel table keyword).find? (·.2 == q) = some line) :
    line.1 < table.size ∧ line.2 = q ∧ Definition.parse? (table.line line.1) = some (keyword, q)
      ∧ ∀ m < line.1, Definition.parse? (table.line m) ≠ some (keyword, q) := by
  unfold topLevel at h
  rw [List.find?_filterMap, Option.bind_eq_some_iff] at h
  obtain ⟨n, hn, hline⟩ := h
  obtain ⟨hdefines, -, hsize, hbefore⟩ := LineRange.find?_toList_eq_some_iff.mp hn
  rw [hline, Option.any_some, beq_iff_eq] at hdefines
  split at hline
  · rename_i keyword' found hparse
    split at hline
    · rename_i hkeyword
      obtain rfl := Option.some.inj hline
      obtain rfl : found = q := hdefines
      subst hkeyword
      refine ⟨hsize, rfl, hparse, fun m hm hparse' => ?_⟩
      have hfalse := hbefore m (Nat.zero_le m) hm
      rw [hparse'] at hfalse
      simp at hfalse
    · contradiction
  · contradiction

/-- The records of methods have a dot in their names. -/
theorem find?_classRecords {q : Text} (hdot : '.' ∉ q) (table : LineTable) (file : Text) (n : Nat)
    (name : Text) :
    (classRecords table file n name).find? (·.qualifiedName == q)
      = if name == q then
          some (SymbolRecord.ofBlock table file (blockAt table n table.all) name .«class» none)
        else none := by
  have hmethods : ∀ (record : Nat × Text → SymbolRecord) (lines : List (Nat × Text)),
      (∀ line, '.' ∈ (record line).qualifiedName) →
        (lines.map record).find? (·.qualifiedName == q) = none := by
    intro record lines hrecord
    rw [List.find?_eq_none]
    intro r hr
    obtain ⟨line, -, rfl⟩ := List.mem_map.mp hr
    rw [beq_iff_eq]
    rintro rfl
    exact hdot (hrecord line)
  unfold classRecords
  dsimp only
  rw [List.find?_cons, hmethods _ _ fun line => by simp [SymbolRecord.ofBlock]]
  cases hname : name == q <;> simp [SymbolRecord.ofBlock, hname]

/-- A name without a dot is looked for among the classes and then among the functions. -/
theorem find?_fileRecords {q : Text} (hdot : '.' ∉ q) (file source : Text) :
    let table := LineTable.ofSource source
    let record (keyword : Keyword) (line : Nat × Text) :=
      SymbolRecord.ofBlock table file (blockAt table line.1 table.all) line.2 keyword.symbolKind
        none
    (fileRecords file source).find? (·.qualifiedName == q)
      = (((topLevel table .«class»).find? (·.2 == q)).map (record .«class»)).or
          (((topLevel table .function).find? (·.2 == q)).map (record .function)) := by
  intro table record
  have hclasses : ∀ (records : Nat × Text → List SymbolRecord) (lines : List (Nat × Text)),
      (∀ line, (records line).find? (·.qualifiedName == q)
        = if line.2 == q then some (record .«class» line) else none) →
        (lines.flatMap records).find? (·.qualifiedName == q)
          = (lines.find? (·.2 == q)).map (record .«class») := by
    intro records lines hrecords
    induction lines with
    | nil => rfl
    | cons line lines ih =>
        rw [List.flatMap_cons, List.find?_append, ih, hrecords, List.find?_cons]
        cases hname : line.2 == q <;> rfl
  unfold fileRecords
  dsimp only
  rw [List.find?_append, hclasses _ _ fun line => find?_classRecords hdot table file line.1 line.2,
    List.find?_map]
  rfl

/-- A record of a class or a function stands for the first definition of its name and its kind at
column zero. -/
theorem exists_keyword_of_mem_records {file source : Text} {r : SymbolRecord}
    (h : r ∈ (ofSource file source).records) (hkind : r.kind ≠ .method) :
    let table := LineTable.ofSource source
    ∃ keyword n, n < table.size
      ∧ Definition.parse? (table.line n) = some (keyword, r.qualifiedName)
      ∧ (∀ m < n, Definition.parse? (table.line m) ≠ some (keyword, r.qualifiedName))
      ∧ r = SymbolRecord.ofBlock table file (blockAt table n table.all) r.qualifiedName
          keyword.symbolKind none := by
  intro table
  have hbuilt : Built (ofSource file source) (fileRecords file source) :=
    Built.empty.foldl_insert _
  have hfind : (fileRecords file source).find? (·.qualifiedName == r.qualifiedName) = some r := by
    rw [← hbuilt.get?_eq]
    exact get?_of_mem h
  have hdot : '.' ∉ r.qualifiedName := by
    have hmem := List.mem_of_find?_eq_some hfind
    unfold fileRecords at hmem
    rcases List.mem_append.mp hmem with hmem | hmem
    · obtain ⟨⟨n, name⟩, hclass, hr⟩ := List.mem_flatMap.mp hmem
      rcases List.mem_cons.mp hr with rfl | hr
      · exact dot_not_mem_of_defines (defines_of_mem_topLevel hclass).2
      · obtain ⟨method, -, rfl⟩ := List.mem_map.mp hr
        exact absurd rfl hkind
    · obtain ⟨⟨n, name⟩, hfunction, rfl⟩ := List.mem_map.mp hmem
      exact dot_not_mem_of_defines (defines_of_mem_topLevel hfunction).2
  rw [find?_fileRecords hdot, Option.or_eq_some_iff] at hfind
  obtain ⟨keyword, hfound⟩ : ∃ keyword, ((topLevel table keyword).find?
      (·.2 == r.qualifiedName)).map (fun line => SymbolRecord.ofBlock table file
        (blockAt table line.1 table.all) line.2 keyword.symbolKind none) = some r := by
    rcases hfind with hclass | ⟨-, hfunction⟩
    · exact ⟨.«class», hclass⟩
    · exact ⟨.function, hfunction⟩
  obtain ⟨line, hline, hr⟩ := Option.map_eq_some_iff.mp hfound
  obtain ⟨hsize, hname, hparse, hfirst⟩ := find?_topLevel_eq_some hline
  refine ⟨keyword, line.1, hsize, hparse, hfirst, ?_⟩
  rw [← hname]
  exact hr.symm

end SymbolIndex

/-! ## The texts of definitions -/

namespace LineTable

variable {source name name' : Text} {b b' : Block}

/-- Definitions with the same text have the same keyword line. -/
theorem line_keyword_eq_of_text_eq (h : (ofSource source).HoldsDefinition name b)
    (h' : (ofSource source).HoldsDefinition name' b')
    (htext : (ofSource source).text b.lines = (ofSource source).text b'.lines) :
    (ofSource source).line b.keyword = (ofSource source).line b'.keyword := by
  have hlines : ∀ b : Block, ((ofSource source).text b.lines).chunks
      = (ofSource source).slice b.first b.stop := by
    intro b
    have hsublist : ((ofSource source).slice b.first b.stop).Sublist source.chunks :=
      (List.drop_sublist _ _).trans (List.take_sublist _ _)
    exact ((Text.isLines_chunks source).sublist hsublist).chunks_flatten
  have hslice :
      (ofSource source).slice b.first b.stop = (ofSource source).slice b'.first b'.stop := by
    rw [← hlines, ← hlines, htext]
  have hkeyword := h.lines.find?_parse
  have hkeyword' := h'.lines.find?_parse
  rw [← h.slice_eq, hslice] at hkeyword
  rw [← h'.slice_eq, hkeyword] at hkeyword'
  exact Option.some.inj hkeyword'

/-- The text of a definition is not empty. -/
theorem text_ne_nil (h : (ofSource source).HoldsDefinition name b) :
    (ofSource source).text b.lines ≠ [] := by
  have hsize := Nat.lt_of_lt_of_le h.keyword_lt h.stop_le
  have hmem : (ofSource source).line b.keyword ∈ (ofSource source).slice b.first b.stop := by
    rw [h.slice_eq]
    exact List.mem_append_right _ List.mem_cons_self
  have hline : (ofSource source).line b.keyword ∈ source.chunks :=
    List.mem_of_mem_take (List.mem_of_mem_drop hmem)
  intro hnil
  exact (Text.isLines_chunks source).ne_nil_of_mem hline (List.flatten_eq_nil_iff.mp hnil _ hmem)

/-- Definitions with the same span have the same text. -/
theorem text_eq_of_span_eq (h : (ofSource source).HoldsDefinition name b)
    (h' : (ofSource source).HoldsDefinition name' b')
    (hspan : (ofSource source).span b.lines = (ofSource source).span b'.lines) :
    (ofSource source).text b.lines = (ofSource source).text b'.lines := by
  have hle := Nat.le_of_lt (Nat.lt_of_le_of_lt h.first_le h.keyword_lt)
  have hle' := Nat.le_of_lt (Nat.lt_of_le_of_lt h'.first_le h'.keyword_lt)
  have hslice := slice?_span source hle
  have hslice' := slice?_span source hle'
  rw [Block.lines, Block.lines] at hspan
  rw [hspan, hslice'] at hslice
  exact (Option.some.inj hslice).symm

end LineTable

/-- The first line of a source that defines a name, where some line does. -/
theorem exists_first_defines {table : LineTable} {name : Text} {n : Nat} (hn : n < table.size)
    (h : defines name false (table.line n) = true) :
    ∃ m ≤ n, defines name false (table.line m) = true
      ∧ (∀ k < m, defines name false (table.line k) = false)
      ∧ locateBlock? table name = some (blockAt table m table.all) := by
  cases hfind : table.all.toList.find? fun m => defines name false (table.line m) with
  | none =>
      have hnone := LineRange.find?_toList_eq_none_iff.mp hfind n (Nat.zero_le n) hn
      rw [h] at hnone
      contradiction
  | some m =>
      obtain ⟨hm, -, hsize, hbefore⟩ := LineRange.find?_toList_eq_some_iff.mp hfind
      have hle : m ≤ n := by
        by_contra hlt
        rw [hbefore n (Nat.zero_le n) (Nat.lt_of_not_le hlt)] at h
        contradiction
      have hfirst : ∀ k < m, defines name false (table.line k) = false :=
        fun k hk => hbefore k (Nat.zero_le k) hk
      have hblock : findBlock? table table.all name false = some (blockAt table m table.all) := by
        rw [findBlock?, hfind]
        rfl
      have hlocate := locateBlock?_eq_some_iff.mpr (.inl ⟨dot_not_mem_of_defines h, hblock⟩)
      exact ⟨m, hle, hm, hfirst, hlocate⟩

/-! ## Fences -/

/-- A fence names a symbol of the file with an indexed path. -/
def NamesSymbol (sources : CodeSources) (b : CodeBlock) (file q : Text) : Prop :=
  ∃ locator, Locator.of? (Locator.normalize b) = some locator ∧ locator.symbol = some q
    ∧ IndexedAs sources locator.path file

section Fence

variable {sources : CodeSources} {b : CodeBlock} {file q : Text}

/-- A fence whose symbol is indexed for its file holds the code of the record. -/
theorem content_resolveBlock_of_record {r : SymbolRecord} (state : ResolverState)
    (hnames : NamesSymbol sources b file q) (hget : sources.symbols.get? q = some r)
    (hfile : r.file = file) :
    (resolveBlock sources state b).1.content = sources.finish r.code := by
  obtain ⟨locator, hlocator, hsymbol, hindexed⟩ := hnames
  have hcode : sources.lookupIndexed file locator = .ok (r.code, .symbolIndex) := by
    have hrecord : (sources.symbols.get? q).filter (·.file == file) = some r := by
      rw [hget, Option.filter_eq_some_iff]
      exact ⟨rfl, by simpa using hfile⟩
    unfold CodeSources.lookupIndexed
    rw [hsymbol]
    dsimp only
    rw [hrecord]
  have hlookup :
      sources.lookup state.cache locator = (.ok (r.code, .symbolIndex), state.cache) := by
    rw [CodeSources.lookup, indexedKey?_eq_some_iff.mpr hindexed]
    dsimp only
    rw [hcode]
  rw [resolveBlock_of_ok hlocator hlookup]
  rfl

/-- A fence whose symbol is not indexed for its file holds what is extracted from the text of the
file. -/
theorem content_resolveBlock_of_extraction {source : Text} (state : ResolverState)
    (hnames : NamesSymbol sources b file q)
    (hmiss : ∀ r, sources.symbols.get? q = some r → r.file ≠ file)
    (htext : sources.solutions.get? file = some source)
    (hcode : extractSymbol source q false ≠ []) :
    (resolveBlock sources state b).1.content = sources.finish (extractSymbol source q false) := by
  obtain ⟨locator, hlocator, hsymbol, hindexed⟩ := hnames
  have hextract : sources.lookupIndexed file locator
      = .ok (extractSymbol source q false, .solutionsIndex) := by
    have hnone : (sources.symbols.get? q).filter (·.file == file) = none := by
      rw [Option.filter_eq_none_iff]
      intro r hr hfile
      exact hmiss r hr (by simpa using hfile)
    unfold CodeSources.lookupIndexed
    rw [hsymbol]
    dsimp only
    rw [hnone, htext, Option.map_some, Option.getD_some]
    dsimp only
    rw [List.isEmpty_eq_false_iff.mpr hcode]
    rfl
  have hlookup : sources.lookup state.cache locator
      = (.ok (extractSymbol source q false, .solutionsIndex), state.cache) := by
    rw [CodeSources.lookup, indexedKey?_eq_some_iff.mpr hindexed]
    dsimp only
    rw [hextract]
  rw [resolveBlock_of_ok hlocator hlookup]
  rfl

end Fence

/-! ## Where the two ways agree -/

/-- A record of a class or a function has its own block, at its line, and extraction finds a block
for its name.  The one found is the record's own if no line above defines the name, and if it has
the same text: were it another one with the same text, its keyword line would define the same at
column zero, and the record would stand for it. -/
theorem exists_found_of_mem_records {file source : Text} {r : SymbolRecord}
    (hr : r ∈ (SymbolIndex.ofSource file source).records) (hkind : r.kind ≠ .method) :
    let table := LineTable.ofSource source
    let own := blockAt table (r.line - 1) table.all
    r.code = table.text own.lines ∧ r.file = file ∧ table.HoldsDefinition r.qualifiedName own
      ∧ ∃ found, locateBlock? table r.qualifiedName = some found
        ∧ table.HoldsDefinition r.qualifiedName found
        ∧ ((∀ n < r.line - 1, defines r.qualifiedName false (table.line n) = false) ↔ found = own)
        ∧ (table.text found.lines = table.text own.lines → found = own) := by
  intro table own
  obtain ⟨keyword, n, hsize, hparse, hfirst, hrecord⟩ :=
    SymbolIndex.exists_keyword_of_mem_records hr hkind
  have hline : r.line - 1 = n := by rw [hrecord]; rfl
  have hown : own = blockAt table n table.all := by rw [← hline]
  have hdefines : defines r.qualifiedName false (table.line n) = true := by
    refine defines_eq_true_iff.mpr ⟨keyword, ?_, Bool.noConfusion⟩
    rw [Definition.trimStart_of_parse? hparse]
    exact hparse
  obtain ⟨m, hmn, hm, hbefore, hlocate⟩ := exists_first_defines hsize hdefines
  have hholds : table.HoldsDefinition r.qualifiedName (blockAt table m table.all) :=
    (holdsDefinition_blockAt (Nat.zero_le m) (Nat.lt_of_le_of_lt hmn hsize) (Nat.le_refl _) hm).1
  have hownHolds : table.HoldsDefinition r.qualifiedName own := by
    rw [hown]
    exact (holdsDefinition_blockAt (Nat.zero_le n) hsize (Nat.le_refl _) hdefines).1
  refine ⟨by rw [hown, hrecord]; rfl, by rw [hrecord]; rfl, hownHolds, _, hlocate, hholds, ?_, ?_⟩
  · rw [hline, hown]
    constructor
    · intro hnone
      have hge : n ≤ m := by
        by_contra hlt
        rw [hnone m (Nat.lt_of_not_le hlt)] at hm
        contradiction
      rw [Nat.le_antisymm hmn hge]
    · intro hsame k hk
      have hkeyword : m = n := congrArg Block.keyword hsame
      exact hbefore k (hkeyword ▸ hk)
  · intro htext
    have hlines := LineTable.line_keyword_eq_of_text_eq hholds hownHolds htext
    rw [hown] at hlines ⊢
    have hlines : table.line m = table.line n := hlines
    have hge : n ≤ m := by
      by_contra hlt
      exact hfirst m (Nat.lt_of_not_le hlt) (hlines ▸ hparse)
    rw [Nat.le_antisymm hmn hge]

/-- For a class or a function of the index of a file, extraction from the file gives the record's
code exactly if no line above the record's own one defines its name, at any depth.  In the file of
the record, its parameters are looked for in its own definition under the same condition, and then
a fence shows the same code whether it was resolved by the symbol index or by extraction. -/
theorem extractSymbol_eq_code_iff (file source : Text) {r : SymbolRecord}
    (hr : r ∈ (SymbolIndex.ofSource file source).records) (hkind : r.kind ≠ .method) :
    let table := LineTable.ofSource source
    let own := blockAt table (r.line - 1) table.all
    let first := ∀ n < r.line - 1, defines r.qualifiedName false (table.line n) = false
    r.code = table.text own.lines
      ∧ (extractSymbol source r.qualifiedName false = r.code ↔ first)
      ∧ (r.ownerSpan? source = some (table.span own.lines) ↔ first)
      ∧ (first → ∀ (sources : CodeSources) (others : SymbolIndex) (state state' : ResolverState)
          (b : CodeBlock), NamesSymbol sources b file r.qualifiedName →
          sources.symbols.get? r.qualifiedName = some r →
          sources.solutions.get? file = some source →
          (∀ s, others.get? r.qualifiedName = some s → s.file ≠ file) →
          (resolveBlock sources state b).1.content
            = (resolveBlock { sources with symbols := others } state' b).1.content) := by
  intro table own first
  obtain ⟨hcode, hfile, hown, found, hlocate, hfound, hiff, hsame⟩ :=
    exists_found_of_mem_records hr hkind
  have hle := Nat.le_of_lt (Nat.lt_of_le_of_lt hfound.first_le hfound.keyword_lt)
  have hextract : extractSymbol source r.qualifiedName false = table.text found.lines :=
    extractSymbol_of_locateBlock? hlocate hle
  have hspan : r.ownerSpan? source = some (table.span found.lines) := by
    unfold SymbolRecord.ownerSpan? locateSymbol?
    dsimp only
    rw [hlocate]
    rfl
  have hagree : extractSymbol source r.qualifiedName false = r.code ↔ first := by
    rw [hextract, hcode]
    exact ⟨fun h => hiff.mpr (hsame h), fun h => by rw [hiff.mp h]⟩
  refine ⟨hcode, hagree, ?_, ?_⟩
  · rw [hspan, Option.some.injEq]
    constructor
    · exact fun h => hiff.mpr (hsame (LineTable.text_eq_of_span_eq hfound hown h))
    · exact fun h => by rw [hiff.mp h]
  · intro h sources others state state' b hnames hget htext hmiss
    have hne : extractSymbol source r.qualifiedName false ≠ [] := by
      rw [hextract]
      exact LineTable.text_ne_nil hfound
    have hindexed := content_resolveBlock_of_record state hnames hget hfile
    have hothers : NamesSymbol { sources with symbols := others } b file r.qualifiedName := hnames
    have hextracted := content_resolveBlock_of_extraction state' hothers hmiss htext hne
    rw [hindexed, hextracted, hagree.mpr h]
    rfl

/-- A function with a decorator, and below it a method of its name. -/
def methodBelow : Text :=
  "import os\n\n@cache\ndef f(x):\n    return x\n\nclass A:\n    def f(self):\n        return 2\n"

/-- Nothing above the function defines its name. -/
theorem extractSymbol_eq_code_methodBelow :
    let r := SymbolRecord.ofBlock (.ofSource methodBelow) "a/b/c" ⟨2, 3, 6⟩ "f" .function none
    let sources : CodeSources := ⟨.ofSource "a/b/c" methodBelow,
      SolutionsIndex.empty.insert "a/b/c" methodBelow, .standard, threeLetters.search, .empty []⟩
    let fence := fenceFor "a/b/c:f"
    r ∈ (SymbolIndex.ofSource "a/b/c" methodBelow).records ∧ r.kind ≠ .method
      ∧ (∀ n < r.line - 1,
        defines r.qualifiedName false ((LineTable.ofSource methodBelow).line n) = false)
      ∧ extractSymbol methodBelow r.qualifiedName false = r.code
      ∧ (resolveBlock sources .initial fence).1.content
        = (resolveBlock { sources with symbols := .empty } .initial fence).1.content := by
  intro r sources fence
  have hr : r ∈ (SymbolIndex.ofSource "a/b/c" methodBelow).records := by decide +kernel
  have hkind : r.kind ≠ .method := by decide +kernel
  have hfirst : ∀ n < r.line - 1,
      defines r.qualifiedName false ((LineTable.ofSource methodBelow).line n) = false := by
    decide +kernel
  have hsearch : threeLetters.search "a/b/c"
      = some [("file".toList, "c".toList), ("item".toList, "b".toList),
          ("group".toList, "a".toList)] := by decide +kernel
  have hlocator : Locator.of? (Locator.normalize fence) = some ⟨"a/b/c", some "f"⟩ := by
    decide +kernel
  have hindexed : IndexedAs sources "a/b/c" "a/b/c" :=
    ⟨_, "a", "b", "c", hsearch, by decide, by decide, by decide, rfl⟩
  have hnames : NamesSymbol sources fence "a/b/c" r.qualifiedName :=
    ⟨_, hlocator, rfl, hindexed⟩
  have hget : sources.symbols.get? r.qualifiedName = some r := by decide +kernel
  have htext : sources.solutions.get? "a/b/c" = some methodBelow := by decide +kernel
  obtain ⟨-, hcode, -, hfence⟩ := extractSymbol_eq_code_iff "a/b/c" methodBelow hr hkind
  exact ⟨hr, hkind, hfirst, hcode.mpr hfirst,
    hfence hfirst sources .empty .initial .initial fence hnames hget htext nofun⟩

/-- A method of a class, and below it a function of its name. -/
def methodAbove : Text := "class A:\n    def f(self):\n        return 1\n\ndef f():\n    return 2\n"

/-- Extraction gives the method, and the record stands for the function. -/
theorem extractSymbol_ne_code_methodAbove :
    ∃ r ∈ (SymbolIndex.ofSource "a.py" methodAbove).records,
      r.kind = .function ∧ extractSymbol methodAbove r.qualifiedName false ≠ r.code := by
  decide +kernel

end Weave
