import Weave.Proofs.Symbol.IndexedCode

/-!
# The lines of siblings

A file registers its classes, their methods and its functions, each with the lines of its block.
`DefinitionSite` is such a definition with its block, before it becomes a record
(`fileRecords_eq_map`), and `IsLaminar` says how the blocks of a file lie: two of them share no line
unless one is a method of the other, which then lies in its body.

* `stop_le_first_blockAt` is the one fact about two neighbours: a decorator ends the definition
  above it, and it starts the one below it.
* `indentOf_lt_of_mem_lines` says that what else is defined among the lines of a definition stands
  deeper.
* `fileSites_isLaminar` puts the neighbours of a file together.
-/

namespace Weave

/-- A definition that a file registers.  The owner of a method is its class, by its name and its
block. -/
structure DefinitionSite where
  qualifiedName : Text
  kind : SymbolKind
  owner : Option (Text × Block)
  block : Block
  deriving DecidableEq

namespace DefinitionSite

/-- The record of the definition. -/
def record (table : LineTable) (file : Text) (s : DefinitionSite) : SymbolRecord :=
  SymbolRecord.ofBlock table file s.block s.qualifiedName s.kind (s.owner.map Prod.fst)

/-- The numbers of the lines that the definition takes. -/
def lines (s : DefinitionSite) : List Nat := s.block.lines.toList

/-- The second definition is a method of the first one, and lies in its body. -/
def Owns (c s : DefinitionSite) : Prop :=
  c.owner = none ∧ c.kind = .«class» ∧ s.owner = some (c.qualifiedName, c.block)
    ∧ s.lines ⊆ c.block.body.toList

end DefinitionSite

/-- A class at column zero with the methods of its body. -/
def classSites (table : LineTable) (n : Nat) (name : Text) : List DefinitionSite :=
  let block := blockAt table n table.all
  ⟨name, .«class», none, block⟩
    :: (SymbolIndex.methodLines table block.body).map fun (m, method) =>
      ⟨name ++ "." ++ method, .method, some (name, block), blockAt table m block.body⟩

/-- A function at column zero. -/
def functionSite (table : LineTable) (n : Nat) (name : Text) : DefinitionSite :=
  ⟨name, .function, none, blockAt table n table.all⟩

/-- The definitions that a file registers, in order. -/
def fileSites (table : LineTable) : List DefinitionSite :=
  (SymbolIndex.topLevel table .«class»).flatMap (fun (n, name) => classSites table n name)
    ++ (SymbolIndex.topLevel table .function).map fun (n, name) => functionSite table n name

/-- The records of a file are those of its definitions. -/
theorem fileRecords_eq_map (file source : Text) :
    SymbolIndex.fileRecords file source
      = (fileSites (.ofSource source)).map (·.record (.ofSource source) file) := by
  have hclass : ∀ n name, SymbolIndex.classRecords (.ofSource source) file n name
      = (classSites (.ofSource source) n name).map (·.record (.ofSource source) file) := by
    intro n name
    unfold SymbolIndex.classRecords classSites
    dsimp only
    rw [List.map_cons, List.map_map]
    rfl
  unfold SymbolIndex.fileRecords fileSites
  dsimp only
  rw [List.map_append, List.map_flatMap, List.map_map]
  simp only [hclass]
  rfl

/-! ## Neighbours -/

section Neighbours

variable {table : LineTable} {within : LineRange} {m n : Nat}

/-- A definition line is no decorator. -/
theorem not_isDecorator_of_defines {name line : Text} {indent : Nat}
    (h : defines name false line = true) : ¬IsDecorator indent line := by
  obtain ⟨kind, hparse, -⟩ := defines_eq_true_iff.mp h
  intro hdecorator
  rw [Definition.parse?_of_startsWith_at hdecorator.1] at hparse
  contradiction

/-- The lines of a block above its keyword are decorators, within the range that was searched. -/
theorem first_blockAt (table : LineTable) (within : LineRange) (h : within.start ≤ n) :
    within.start ≤ (blockAt table n within).first ∧ (blockAt table n within).first ≤ n
      ∧ ∀ m, (blockAt table n within).first ≤ m → m < n
          → IsDecorator (indentOf (table.line n)) (table.line m) :=
  firstDecorator_run table (indentOf (table.line n)) h

/-- Of two definitions at one indentation the upper one ends where the lower one starts, or before
that. -/
theorem stop_le_first_blockAt {name name' : Text} (hstart : within.start ≤ m) (hmn : m < n)
    (hstop : n < within.stop) (hindent : indentOf (table.line m) = indentOf (table.line n))
    (hm : defines name false (table.line m) = true)
    (hn : defines name' false (table.line n) = true) :
    (blockAt table m within).stop ≤ (blockAt table n within).first := by
  obtain ⟨-, hle, hdecorators⟩ := first_blockAt table within (show within.start ≤ n by omega)
  have hbelow : m < (blockAt table n within).first := by
    by_contra hnot
    exact not_isDecorator_of_defines hm (hdecorators m (Nat.le_of_not_lt hnot) hmn)
  -- The first line of the lower definition, a decorator or the keyword line, ends the upper one.
  have hends : endsBlock (indentOf (table.line m)) (table.line (blockAt table n within).first)
      = true := by
    rw [endsBlock_eq, hindent, Bool.and_eq_true, decide_eq_true_iff]
    rcases Nat.lt_or_ge (blockAt table n within).first n with hlt | hge
    · obtain ⟨hat, hsame⟩ := hdecorators _ (Nat.le_refl _) hlt
      refine ⟨Nat.le_of_eq hsame, ?_⟩
      rw [startsBlock, hat, Bool.true_or]
    · have hkeyword : (blockAt table n within).first = n := Nat.le_antisymm hle hge
      obtain ⟨kind, hparse, -⟩ := defines_eq_true_iff.mp hn
      rw [hkeyword, startsBlock, hparse]
      exact ⟨Nat.le_refl _, Bool.or_true _⟩
  obtain ⟨-, -, hbody⟩ := stop_blockAt table (show m < within.stop by omega)
  by_contra hnot
  have hunended := hbody _ hbelow (Nat.lt_of_not_le hnot)
  rw [hends] at hunended
  contradiction

/-- Two definitions at one indentation share no line. -/
theorem disjoint_lines_blockAt {name name' : Text} (hmn : m ≠ n)
    (hm : within.start ≤ m ∧ m < within.stop) (hn : within.start ≤ n ∧ n < within.stop)
    (hindent : indentOf (table.line m) = indentOf (table.line n))
    (hdefines : defines name false (table.line m) = true)
    (hdefines' : defines name' false (table.line n) = true) :
    (blockAt table m within).lines.toList.Disjoint (blockAt table n within).lines.toList := by
  intro k hk hk'
  rw [LineRange.mem_toList] at hk hk'
  simp only [Block.lines] at hk hk'
  rcases Nat.lt_or_gt_of_ne hmn with hlt | hgt
  · have := stop_le_first_blockAt hm.1 hlt hn.2 hindent hdefines hdefines'
    omega
  · have := stop_le_first_blockAt hn.1 hgt hm.2 hindent.symm hdefines' hdefines
    omega

/-- What else is defined among the lines of a definition stands deeper than its keyword. -/
theorem indentOf_lt_of_mem_lines (hstart : within.start ≤ n) (hstop : n < within.stop)
    (hm : m ∈ (blockAt table n within).lines.toList) (hmn : m ≠ n)
    (hdefines : (Definition.parse? (table.line m).trimStart).isSome = true) :
    indentOf (table.line n) < indentOf (table.line m) := by
  rw [LineRange.mem_toList] at hm
  obtain ⟨-, -, hdecorators⟩ := first_blockAt table _ hstart
  obtain ⟨-, -, hbody⟩ := stop_blockAt table hstop
  rcases Nat.lt_or_gt_of_ne hmn with hlt | hgt
  · have hat := (hdecorators m hm.1 hlt).1
    rw [Definition.parse?_of_startsWith_at hat] at hdefines
    contradiction
  · have hunended := hbody m hgt hm.2
    rw [endsBlock_eq, startsBlock, hdefines, Bool.or_true, Bool.and_true,
      decide_eq_false_iff_not] at hunended
    omega

end Neighbours

/-! ## The lines that are listed -/

namespace SymbolIndex

variable {table : LineTable}

theorem mem_topLevel {kind : Keyword} {n : Nat} {name : Text} :
    (n, name) ∈ topLevel table kind
      ↔ n < table.size ∧ Definition.parse? (table.line n) = some (kind, name) := by
  unfold topLevel
  rw [List.mem_filterMap]
  constructor
  · intro h
    obtain ⟨m, hm, hline⟩ := h
    rw [LineRange.mem_toList] at hm
    split at hline
    · rename_i keyword found hparse
      split at hline
      · rename_i hkind
        obtain ⟨rfl, rfl⟩ := Prod.mk.inj (Option.some.inj hline)
        exact ⟨hm.2, hkind ▸ hparse⟩
      · contradiction
    · contradiction
  · intro h
    refine ⟨n, LineRange.mem_toList.mpr ⟨Nat.zero_le n, h.1⟩, ?_⟩
    simp [h.2]

/-- A definition that is read without cutting white space off stands at column zero. -/
theorem indentOf_of_mem_topLevel {kind : Keyword} {n : Nat} {name : Text}
    (h : (n, name) ∈ topLevel table kind) : indentOf (table.line n) = 0 := by
  obtain ⟨c, rest, hline, hc⟩ := Definition.head_of_parse? (mem_topLevel.mp h).2
  have hblank : Text.isBlank c = false := by
    simp only [List.mem_cons, List.not_mem_nil, or_false] at hc
    rcases hc with rfl | rfl | rfl <;> rfl
  rw [hline, indentOf, List.takeWhile_cons_of_neg (by simp [hblank])]
  rfl

theorem mem_methodLines {body : LineRange} {m : Nat} {name : Text} :
    (m, name) ∈ methodLines table body
      ↔ ∃ below, body.toList.find? (fun n => !(table.line n).isAllSpace) = some below
          ∧ m ∈ body.toList ∧ indentOf (table.line m) = indentOf (table.line below)
          ∧ Definition.parse? (table.line m).trimStart = some (.function, name) := by
  unfold methodLines
  split
  · rename_i hnone
    simp [hnone]
  · rename_i below hbelow
    rw [List.mem_filterMap]
    simp only [hbelow, Option.some.injEq, exists_eq_left']
    constructor
    · intro h
      obtain ⟨n, hn, hline⟩ := h
      split at hline
      · contradiction
      · rename_i hindent
        split at hline
        · rename_i found hparse
          obtain ⟨rfl, rfl⟩ := Prod.mk.inj (Option.some.inj hline)
          exact ⟨hn, not_not.mp hindent, hparse⟩
        · contradiction
    · intro h
      refine ⟨m, h.1, ?_⟩
      rw [if_neg (not_not.mpr h.2.1), h.2.2]

/-- The lines that are listed come in order. -/
theorem pairwise_filterMap_toList {α : Type} (r : LineRange) {f : Nat → Option (Nat × α)}
    (hf : ∀ n a, f n = some a → a.1 = n) :
    (r.toList.filterMap f).Pairwise fun a b => a.1 < b.1 := by
  have hlines : r.toList.Pairwise (· < ·) := List.pairwise_lt_range'
  rw [List.pairwise_filterMap]
  apply hlines.imp
  intro m n hmn a ha b hb
  rw [hf m a ha, hf n b hb]
  exact hmn

theorem pairwise_topLevel (table : LineTable) (kind : Keyword) :
    (topLevel table kind).Pairwise fun a b => a.1 < b.1 := by
  apply pairwise_filterMap_toList
  intro n a ha
  split at ha
  · split at ha
    · exact (Option.some.inj ha) ▸ rfl
    · contradiction
  · contradiction

theorem pairwise_methodLines (table : LineTable) (body : LineRange) :
    (methodLines table body).Pairwise fun a b => a.1 < b.1 := by
  unfold methodLines
  split
  · exact .nil
  · apply pairwise_filterMap_toList
    intro n a ha
    split at ha
    · contradiction
    · split at ha
      · exact (Option.some.inj ha) ▸ rfl
      · contradiction

end SymbolIndex

/-! ## The definitions of a file -/

section Sites

variable {table : LineTable} {n : Nat} {name : Text}

/-- A definition at column zero, with its block in the whole file. -/
theorem holdsDefinition_of_mem_topLevel {kind : Keyword}
    (h : (n, name) ∈ SymbolIndex.topLevel table kind) :
    table.HoldsDefinition name (blockAt table n table.all) := by
  obtain ⟨hsize, hdefines⟩ := SymbolIndex.defines_of_mem_topLevel h
  exact (holdsDefinition_blockAt (Nat.zero_le n) hsize (Nat.le_refl _) hdefines).1

/-- Definitions at column zero share no line. -/
theorem disjoint_lines_of_mem_topLevel {m : Nat} {name' : Text} {kind kind' : Keyword}
    (h : (m, name) ∈ SymbolIndex.topLevel table kind)
    (h' : (n, name') ∈ SymbolIndex.topLevel table kind') (hmn : m ≠ n) :
    (blockAt table m table.all).lines.toList.Disjoint
      (blockAt table n table.all).lines.toList := by
  obtain ⟨hm, hdefines⟩ := SymbolIndex.defines_of_mem_topLevel h
  obtain ⟨hn, hdefines'⟩ := SymbolIndex.defines_of_mem_topLevel h'
  refine disjoint_lines_blockAt hmn ⟨Nat.zero_le m, hm⟩ ⟨Nat.zero_le n, hn⟩ ?_ hdefines hdefines'
  rw [SymbolIndex.indentOf_of_mem_topLevel h, SymbolIndex.indentOf_of_mem_topLevel h']

/-- A block lies in the range that was searched. -/
theorem lines_blockAt_subset {within : LineRange} (hstart : within.start ≤ n)
    (hstop : n < within.stop) : (blockAt table n within).lines.toList ⊆ within.toList := by
  intro k hk
  rw [LineRange.mem_toList] at hk ⊢
  obtain ⟨hlow, -, -⟩ := first_blockAt table _ hstart
  obtain ⟨-, hle, -⟩ := stop_blockAt table hstop
  exact ⟨Nat.le_trans hlow hk.1, Nat.lt_of_lt_of_le hk.2 hle⟩

/-- The class comes first, and owns what follows. -/
theorem mem_classSites {s : DefinitionSite} :
    s ∈ classSites table n name
      ↔ s = ⟨name, .«class», none, blockAt table n table.all⟩
        ∨ ∃ m method, (m, method) ∈ SymbolIndex.methodLines table (blockAt table n table.all).body
            ∧ s = ⟨name ++ "." ++ method, .method, some (name, blockAt table n table.all),
                blockAt table m (blockAt table n table.all).body⟩ := by
  unfold classSites
  simp [eq_comm]

/-- The methods of a class lie in its body. -/
theorem owns_of_mem_methodLines (name : Text) {m : Nat} {method : Text}
    (h : (m, method) ∈ SymbolIndex.methodLines table (blockAt table n table.all).body) :
    DefinitionSite.Owns ⟨name, .«class», none, blockAt table n table.all⟩
      ⟨name ++ "." ++ method, .method, some (name, blockAt table n table.all),
        blockAt table m (blockAt table n table.all).body⟩ := by
  obtain ⟨hstart, hstop, -⟩ := SymbolIndex.defines_of_mem_methodLines h
  exact ⟨rfl, rfl, rfl, lines_blockAt_subset hstart hstop⟩

/-- A class and its methods take lines of the class. -/
theorem lines_subset_of_mem_classSites {s : DefinitionSite} (h : s ∈ classSites table n name) :
    s.lines ⊆ (blockAt table n table.all).lines.toList := by
  rcases mem_classSites.mp h with rfl | ⟨m, method, hmethod, rfl⟩
  · exact List.Subset.refl _
  · intro k hk
    have hbody := (owns_of_mem_methodLines name hmethod).2.2.2 hk
    rw [LineRange.mem_toList] at hbody ⊢
    have hfirst := (first_blockAt table table.all (Nat.zero_le n)).2.1
    simp only [Block.body, Block.lines] at hbody ⊢
    have hkeyword : (blockAt table n table.all).keyword = n := rfl
    omega

end Sites

/-- How the definitions of a file lie among its lines. -/
structure IsLaminar (table : LineTable) (sites : List DefinitionSite) : Prop where
  /-- Two definitions share no line, or the second one is a method of the first one. -/
  nested : sites.Pairwise fun s t => s.lines.Disjoint t.lines ∨ s.Owns t
  /-- Definitions at column zero share no line, nor do the methods of one class. -/
  siblings : sites.Pairwise fun s t => s.owner = t.owner → s.lines.Disjoint t.lines
  /-- A definition that is no method stands at column zero; a method, in the body of its class. -/
  owned : ∀ s ∈ sites, (s.owner = none ∧ indentOf (table.line s.block.keyword) = 0)
    ∨ ∃ c ∈ sites, c.Owns s
  /-- What else is defined among the lines of a definition stands deeper than its keyword. -/
  deeper : ∀ s ∈ sites, ∀ m ∈ s.lines, m ≠ s.block.keyword →
    (Definition.parse? (table.line m).trimStart).isSome = true →
      indentOf (table.line s.block.keyword) < indentOf (table.line m)

section Sites

variable {table : LineTable} {n : Nat} {name : Text}

theorem pairwise_classSites (h : (n, name) ∈ SymbolIndex.topLevel table .«class») :
    (classSites table n name).Pairwise fun s t => s.lines.Disjoint t.lines ∨ s.Owns t := by
  have hholds := holdsDefinition_of_mem_topLevel h
  unfold classSites
  refine List.pairwise_cons.mpr ⟨?_, ?_⟩
  · intro s hs
    obtain ⟨⟨m, method⟩, hmethod, rfl⟩ := List.mem_map.mp hs
    exact .inr (owns_of_mem_methodLines _ hmethod)
  · refine List.pairwise_map.mpr ((SymbolIndex.pairwise_methodLines _ _).imp_of_mem ?_)
    intro a b ha hb hab
    -- Methods stand at the indentation of the body.
    obtain ⟨below, hbelow, -, hindent, -⟩ := SymbolIndex.mem_methodLines.mp ha
    obtain ⟨below', hbelow', -, hindent', -⟩ := SymbolIndex.mem_methodLines.mp hb
    obtain rfl : below = below' := Option.some.inj (hbelow.symm.trans hbelow')
    obtain ⟨hstart, hstop, hdefines⟩ := SymbolIndex.defines_of_mem_methodLines ha
    obtain ⟨hstart', hstop', hdefines'⟩ := SymbolIndex.defines_of_mem_methodLines hb
    exact .inl (disjoint_lines_blockAt (Nat.ne_of_lt hab) ⟨hstart, hstop⟩ ⟨hstart', hstop'⟩
      (hindent.trans hindent'.symm) hdefines hdefines')

theorem pairwise_fileSites (table : LineTable) :
    (fileSites table).Pairwise fun s t => s.lines.Disjoint t.lines ∨ s.Owns t := by
  unfold fileSites
  refine List.pairwise_append.mpr ⟨?_, ?_, ?_⟩
  · refine List.pairwise_flatMap.mpr ⟨fun a ha => pairwise_classSites ha, ?_⟩
    refine (SymbolIndex.pairwise_topLevel table .«class»).imp_of_mem ?_
    intro a b ha hb hab s hs t ht
    have hclasses := disjoint_lines_of_mem_topLevel ha hb (Nat.ne_of_lt hab)
    exact .inl (List.disjoint_of_subset_left (lines_subset_of_mem_classSites hs)
      (List.disjoint_of_subset_right (lines_subset_of_mem_classSites ht) hclasses))
  · refine List.pairwise_map.mpr
      ((SymbolIndex.pairwise_topLevel table .function).imp_of_mem ?_)
    intro a b ha hb hab
    exact .inl (disjoint_lines_of_mem_topLevel ha hb (Nat.ne_of_lt hab))
  · intro s hs t ht
    obtain ⟨a, ha, hs⟩ := List.mem_flatMap.mp hs
    obtain ⟨b, hb, rfl⟩ := List.mem_map.mp ht
    have hne : a.1 ≠ b.1 := by
      intro heq
      have hclass := (SymbolIndex.mem_topLevel.mp ha).2
      have hfunction := (SymbolIndex.mem_topLevel.mp hb).2
      rw [heq, hfunction] at hclass
      simp at hclass
    have hlines := disjoint_lines_of_mem_topLevel ha hb hne
    exact .inl (List.disjoint_of_subset_left (lines_subset_of_mem_classSites hs) hlines)

theorem mem_fileSites {s : DefinitionSite} :
    s ∈ fileSites table
      ↔ (∃ n name, (n, name) ∈ SymbolIndex.topLevel table .«class» ∧ s ∈ classSites table n name)
        ∨ ∃ n name, (n, name) ∈ SymbolIndex.topLevel table .function
            ∧ s = functionSite table n name := by
  unfold fileSites
  simp [eq_comm]

/-- A definition of a file has its block within the file or within the body of its class. -/
theorem exists_within_of_mem_fileSites {s : DefinitionSite} (h : s ∈ fileSites table) :
    ∃ within : LineRange, within.start ≤ s.block.keyword ∧ s.block.keyword < within.stop
      ∧ s.block = blockAt table s.block.keyword within
      ∧ ((s.owner = none ∧ indentOf (table.line s.block.keyword) = 0)
        ∨ ∃ c ∈ fileSites table, c.Owns s) := by
  rcases mem_fileSites.mp h with ⟨n, name, hclass, hs⟩ | ⟨n, name, hfunction, rfl⟩
  · rcases mem_classSites.mp hs with rfl | ⟨m, method, hmethod, rfl⟩
    · have hsize := (SymbolIndex.mem_topLevel.mp hclass).1
      exact ⟨table.all, Nat.zero_le n, hsize, rfl,
        .inl ⟨rfl, SymbolIndex.indentOf_of_mem_topLevel hclass⟩⟩
    · obtain ⟨hstart, hstop, -⟩ := SymbolIndex.defines_of_mem_methodLines hmethod
      have howner := mem_fileSites.mpr (.inl ⟨n, name, hclass, mem_classSites.mpr (.inl rfl)⟩)
      exact ⟨(blockAt table n table.all).body, hstart, hstop, rfl,
        .inr ⟨_, howner, owns_of_mem_methodLines _ hmethod⟩⟩
  · have hsize := (SymbolIndex.mem_topLevel.mp hfunction).1
    exact ⟨table.all, Nat.zero_le n, hsize, rfl,
      .inl ⟨rfl, SymbolIndex.indentOf_of_mem_topLevel hfunction⟩⟩

end Sites

namespace SymbolIndex

/-- A record that is put in is held or counted. -/
theorem total_insert (index : SymbolIndex) (record : SymbolRecord) :
    (index.insert record).size + (index.insert record).duplicates
      = index.size + index.duplicates + 1 := by
  rcases index.register_cases record with ⟨-, hregister⟩ | ⟨-, -, hrecords, hduplicates⟩
  · rw [insert, hregister, size, size]
    dsimp only
    omega
  · rw [size, hrecords, hduplicates, size, List.length_append, List.length_singleton]
    omega

theorem total_foldl_insert (index : SymbolIndex) (records : List SymbolRecord) :
    (records.foldl insert index).size + (records.foldl insert index).duplicates
      = index.size + index.duplicates + records.length := by
  induction records generalizing index with
  | nil => rfl
  | cons record records ih =>
      rw [List.foldl_cons, ih, total_insert, List.length_cons]
      omega

end SymbolIndex

/-- The definitions that a file puts into an index, each of which is held or counted, have laminar
lines: those at column zero share no line, nor do the methods of one class, a method lies in the
body of its class, and no definition holds another definition line at its own indentation. -/
theorem fileSites_isLaminar (index : SymbolIndex) (file source : Text) :
    let table := LineTable.ofSource source
    let sites := fileSites table
    let added := index.addSource file source
    added = (sites.map (·.record table file)).foldl SymbolIndex.insert index
      ∧ added.size + added.duplicates = index.size + index.duplicates + sites.length
      ∧ IsLaminar table sites := by
  intro table sites added
  have hadded : added = (sites.map (·.record table file)).foldl SymbolIndex.insert index := by
    show (SymbolIndex.fileRecords file source).foldl SymbolIndex.insert index = _
    rw [fileRecords_eq_map]
  have hnested := pairwise_fileSites table
  refine ⟨hadded, ?_, hnested, hnested.imp ?_, ?_, ?_⟩
  · rw [hadded, SymbolIndex.total_foldl_insert, List.length_map]
  · intro s t hor howner
    rcases hor with hdisjoint | ⟨hnone, -, hsome, -⟩
    · exact hdisjoint
    · rw [hnone, hsome] at howner
      contradiction
  · intro s hs
    obtain ⟨-, -, -, -, howned⟩ := exists_within_of_mem_fileSites hs
    exact howned
  · intro s hs m hm hne hdefines
    obtain ⟨within, hstart, hstop, hblock, -⟩ := exists_within_of_mem_fileSites hs
    rw [DefinitionSite.lines, hblock] at hm
    exact indentOf_lt_of_mem_lines hstart hstop hm hne hdefines

end Weave
