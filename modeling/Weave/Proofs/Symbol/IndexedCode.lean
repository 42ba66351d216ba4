import Weave.Proofs.Symbol.DefinitionBlock
import Weave.Symbol.Index
import Weave.Symbol.Solutions

/-!
# Where indexed code comes from

`IsCodeOf` says what code that is named by a symbol has to do with the text of its file: it is a run
of whole lines of it, and the first of them that defines something defines the symbol's local name.

* The code that is extracted from a text is code of that text (`isCodeOf_extractSymbol`).
* A record of the index holds code of the file that it is registered for
  (`exists_file_of_mem_records`), whichever of several records of its name came first.
* A text of the solutions index is that of a file with its path (`mem_files_of_get?`), whichever of
  several files came last.
-/

namespace Weave

/-! ## Code of a text -/

/-- The first of some lines that defines something defines `name`. -/
def FirstDefines (name : Text) (run : List Text) : Prop :=
  ∃ line kind,
    run.find? (fun line => (Definition.parse? line.trimStart).isSome) = some line
      ∧ Definition.parse? line.trimStart = some (kind, name)

/-- Some lines of a source are what a symbol in it names, or all of them if there is no symbol. -/
structure IsCodeOf (source : Text) (symbol : Option Text) (run : List Text) : Prop where
  infix_chunks : run <:+: source.chunks
  whole : symbol = none → run = source.chunks
  named : ∀ q ∈ symbol, FirstDefines (localName q) run

/-- The first line of a definition that defines something is the keyword line. -/
theorem DefinitionLines.find?_parse {name keyword : Text} {decorators body : List Text}
    (h : DefinitionLines name decorators keyword body) :
    (decorators ++ keyword :: body).find? (fun line => (Definition.parse? line.trimStart).isSome)
      = some keyword := by
  obtain ⟨kind, hparse, -⟩ := defines_eq_true_iff.mp h.defines
  have hnone : decorators.find? (fun line => (Definition.parse? line.trimStart).isSome) = none := by
    rw [List.find?_eq_none]
    intro line hline
    rw [Definition.parse?_of_startsWith_at (h.decorated line hline).1]
    exact Bool.noConfusion
  rw [List.find?_append, hnone, Option.none_or, List.find?_cons, hparse]
  rfl

theorem DefinitionLines.firstDefines {name keyword : Text} {decorators body : List Text}
    (h : DefinitionLines name decorators keyword body) :
    FirstDefines name (decorators ++ keyword :: body) := by
  obtain ⟨kind, hparse, -⟩ := defines_eq_true_iff.mp h.defines
  exact ⟨keyword, kind, h.find?_parse, hparse⟩

theorem isCodeOf_chunks (source : Text) : IsCodeOf source none source.chunks :=
  ⟨List.infix_rfl, fun _ => rfl, fun _ h => nomatch h⟩

/-- The lines of a block that holds a definition are code of its source. -/
theorem isCodeOf_slice {source q : Text} {b : Block}
    (h : (LineTable.ofSource source).HoldsDefinition (localName q) b) :
    IsCodeOf source (some q) ((LineTable.ofSource source).slice b.first b.stop) where
  infix_chunks := (List.drop_suffix _ _).isInfix.trans (List.take_prefix _ _).isInfix
  whole := nofun
  named q' hq' := by
    rw [Option.mem_some_iff] at hq'
    rw [← hq', h.slice_eq]
    exact h.lines.firstDefines

theorem isCodeOf_extractSymbol {source q : Text} (h : extractSymbol source q false ≠ []) :
    ∃ run, IsCodeOf source (some q) run ∧ extractSymbol source q false = run.flatten := by
  obtain ⟨b, -, hholds, hcode⟩ := exists_block_of_extractSymbol_ne_nil h
  exact ⟨_, isCodeOf_slice hholds, hcode⟩

/-! ## Records -/

namespace SymbolIndex

/-- The lines at column zero that are listed with a name define it. -/
theorem defines_of_mem_topLevel {table : LineTable} {kind : Keyword} {n : Nat} {name : Text}
    (h : (n, name) ∈ topLevel table kind) :
    n < table.size ∧ defines name false (table.line n) = true := by
  obtain ⟨m, hm, hline⟩ := List.mem_filterMap.mp h
  rw [LineRange.mem_toList] at hm
  split at hline
  · rename_i keyword found hparse
    split at hline
    · obtain ⟨rfl, rfl⟩ := Prod.mk.inj (Option.some.inj hline)
      refine ⟨hm.2, defines_eq_true_iff.mpr ⟨keyword, ?_, Bool.noConfusion⟩⟩
      rw [Definition.trimStart_of_parse? hparse]
      exact hparse
    · contradiction
  · contradiction

theorem defines_of_mem_methodLines {table : LineTable} {body : LineRange} {n : Nat} {name : Text}
    (h : (n, name) ∈ methodLines table body) :
    body.start ≤ n ∧ n < body.stop ∧ defines name false (table.line n) = true := by
  unfold methodLines at h
  split at h
  · contradiction
  · obtain ⟨m, hm, hline⟩ := List.mem_filterMap.mp h
    rw [LineRange.mem_toList] at hm
    split at hline
    · contradiction
    · split at hline
      · rename_i found hparse
        obtain ⟨rfl, rfl⟩ := Prod.mk.inj (Option.some.inj hline)
        exact ⟨hm.1, hm.2, defines_eq_true_iff.mpr ⟨.function, hparse, Bool.noConfusion⟩⟩
      · contradiction

/-- A record that is made of a block has its file and its code. -/
theorem isCodeOf_ofBlock {source file q : Text} {b : Block} {kind : SymbolKind}
    {parent : Option Text} (h : (LineTable.ofSource source).HoldsDefinition (localName q) b) :
    let r := SymbolRecord.ofBlock (.ofSource source) file b q kind parent
    r.file = file ∧ ∃ run, IsCodeOf source (some r.qualifiedName) run ∧ r.code = run.flatten :=
  ⟨rfl, _, isCodeOf_slice h, rfl⟩

/-- The records of a file hold its code. -/
theorem isCodeOf_of_mem_fileRecords {file source : Text} {r : SymbolRecord}
    (h : r ∈ fileRecords file source) :
    r.file = file ∧ ∃ run, IsCodeOf source (some r.qualifiedName) run ∧ r.code = run.flatten := by
  have hblock : ∀ n name, n < (LineTable.ofSource source).size →
      defines name false ((LineTable.ofSource source).line n) = true →
      (LineTable.ofSource source).HoldsDefinition name
        (blockAt (.ofSource source) n (LineTable.ofSource source).all) :=
    fun n name hn hdefines =>
      (holdsDefinition_blockAt (Nat.zero_le n) hn (Nat.le_refl _) hdefines).1
  have htop : ∀ n name, n < (LineTable.ofSource source).size →
      defines name false ((LineTable.ofSource source).line n) = true →
      (LineTable.ofSource source).HoldsDefinition (localName name)
        (blockAt (.ofSource source) n (LineTable.ofSource source).all) := by
    intro n name hn hdefines
    rw [localName_of_dot_not_mem (dot_not_mem_of_defines hdefines)]
    exact hblock n name hn hdefines
  unfold fileRecords at h
  rcases List.mem_append.mp h with h | h
  · obtain ⟨⟨n, name⟩, hclass, hr⟩ := List.mem_flatMap.mp h
    obtain ⟨hn, hdefines⟩ := defines_of_mem_topLevel hclass
    rcases List.mem_cons.mp hr with rfl | hr
    · exact isCodeOf_ofBlock (htop n name hn hdefines)
    · obtain ⟨⟨m, method⟩, hmethod, rfl⟩ := List.mem_map.mp hr
      obtain ⟨hstart, hstop, hmethodDefines⟩ := defines_of_mem_methodLines hmethod
      have hholds := (holdsDefinition_blockAt hstart hstop (hblock n name hn hdefines).stop_le
        hmethodDefines).1
      refine isCodeOf_ofBlock ?_
      have hlocal : localName (name ++ "." ++ method) = method := by
        rw [List.append_assoc]
        exact localName_append (dot_not_mem_of_defines hmethodDefines) name
      rw [hlocal]
      exact hholds
  · obtain ⟨⟨n, name⟩, hfunction, rfl⟩ := List.mem_map.mp h
    obtain ⟨hn, hdefines⟩ := defines_of_mem_topLevel hfunction
    exact isCodeOf_ofBlock (htop n name hn hdefines)

theorem mem_records_insert {index : SymbolIndex} {record r : SymbolRecord}
    (h : r ∈ (index.insert record).records) : r ∈ index.records ∨ r = record := by
  rcases index.register_cases record with ⟨-, hregister⟩ | ⟨-, -, hrecords, -⟩
  · rw [insert, hregister] at h
    exact .inl h
  · rw [hrecords, List.mem_append, List.mem_singleton] at h
    exact h

theorem mem_records_addSource {index : SymbolIndex} {file source : Text} {r : SymbolRecord}
    (h : r ∈ (index.addSource file source).records) :
    r ∈ index.records ∨ r ∈ fileRecords file source := by
  unfold addSource at h
  generalize fileRecords file source = records at h ⊢
  induction records generalizing index with
  | nil => exact .inl h
  | cons record records ih =>
      rcases ih h with h | h
      · rcases mem_records_insert h with h | rfl
        · exact .inl h
        · exact .inr List.mem_cons_self
      · exact .inr (List.mem_cons_of_mem _ h)

/-- Files that are added one after another add their records only. -/
theorem mem_records_addSources {files : List SourceFile} {index : SymbolIndex} {r : SymbolRecord}
    (h : r ∈ (files.foldl (fun index file => index.addSource file.path file.text) index).records) :
    r ∈ index.records ∨ ∃ file ∈ files, r ∈ fileRecords file.path file.text := by
  induction files generalizing index with
  | nil => exact .inl h
  | cons file files ih =>
      rcases ih h with h | ⟨later, hlater, hr⟩
      · exact (mem_records_addSource h).imp_right fun hr => ⟨file, List.mem_cons_self, hr⟩
      · exact .inr ⟨later, List.mem_cons_of_mem _ hlater, hr⟩

/-- Every record is registered for a file of the corpus. -/
theorem exists_file_of_mem_records {corpus : Corpus} {r : SymbolRecord}
    (h : r ∈ (ofCorpus corpus).records) :
    ∃ file ∈ corpus.files, r ∈ fileRecords file.path file.text :=
  (mem_records_addSources h).resolve_left List.not_mem_nil

end SymbolIndex

/-! ## Solutions -/

namespace SolutionsIndex

theorem mem_insertEntry {key text : Text} {entries : List (Text × Text)} {e : Text × Text}
    (h : e ∈ insertEntry key text entries) : e ∈ entries ∨ e = (key, text) := by
  induction entries with
  | nil => exact .inr (List.mem_singleton.mp h)
  | cons first entries ih =>
      unfold insertEntry at h
      split at h
      · rcases List.mem_cons.mp h with rfl | h
        · exact .inr rfl
        · exact .inl (List.mem_cons_of_mem _ h)
      · split at h
        · rcases List.mem_cons.mp h with rfl | h
          · exact .inr rfl
          · exact .inl h
        · rcases List.mem_cons.mp h with rfl | h
          · exact .inl List.mem_cons_self
          · exact (ih h).imp_left (List.mem_cons_of_mem _)

/-- Every entry is a file of the corpus. -/
theorem mem_files_of_get? {corpus : Corpus} {key text : Text}
    (h : (ofCorpus corpus).get? key = some text) : ⟨key, text⟩ ∈ corpus.files := by
  have hrun : ∀ (files : List SourceFile) (index : SolutionsIndex) (e : Text × Text),
      e ∈ (files.foldl (fun index file => index.insert file.path file.text) index).entries →
        e ∈ index.entries ∨ ⟨e.1, e.2⟩ ∈ files := by
    intro files
    induction files with
    | nil => exact fun index e h => .inl h
    | cons file files ih =>
        intro index e h
        rcases ih _ e h with h | h
        · rcases mem_insertEntry h with h | rfl
          · exact .inl h
          · exact .inr List.mem_cons_self
        · exact .inr (List.mem_cons_of_mem _ h)
  obtain ⟨⟨k, t⟩, hfind, rfl⟩ := Option.map_eq_some_iff.mp h
  obtain rfl : k = key := by simpa using List.find?_some hfind
  have hentry := hrun _ _ _ (List.mem_of_find?_eq_some hfind)
  exact (List.mem_filter.mp (hentry.resolve_left List.not_mem_nil)).1

end SolutionsIndex

end Weave
