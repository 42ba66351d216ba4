import Mathlib.Data.List.Nodup
import Weave.Pattern.Search
import Weave.Proofs.Fence.Cache
import Weave.Proofs.Symbol.IndexedCode

/-!
# Where resolved code comes from

A locator names one file (`NamedFile`): the file of the corpus at the captured key when the indexed
pattern captures all of it, and otherwise the project file at the path.  The symbol index answers by
name first, and several files may define that name; it is the comparison of the record's file with
the key that keeps other files out.

`isCodeOf_lookupIndexed` and `isCodeOf_codeIn` say for an indexed path and for a project file that
the code is code of the named file, and `content_resolveBlock` says it of the content of a resolved
fence.
-/

namespace Weave

/-! ## The named file -/

/-- The indexed pattern matches a path with all three captures, and these are the parts of `key`. -/
def IndexedAs (sources : CodeSources) (path key : Text) : Prop :=
  ∃ captures group item file, sources.search path = some captures
    ∧ captures.get? "group" = some group ∧ captures.get? "item" = some item
    ∧ captures.get? "file" = some file ∧ key = group ++ "/" ++ item ++ "/" ++ file

/-- The text of the file that the path of a locator names. -/
inductive NamedFile (sources : CodeSources) (corpus : Corpus) (path : Text) : Text → Prop where
  /-- The corpus file with the captured path. -/
  | indexed {key : Text} {file : SourceFile} (captured : IndexedAs sources path key)
      (found : corpus.get? key = some file) : NamedFile sources corpus path file.text
  /-- The project file, under any spelling of its path. -/
  | project {spelling text : Text} (uncaptured : ∀ key, ¬ IndexedAs sources path key)
      (same : Path.components spelling
        = Path.components (Path.join sources.options.projectRoot path))
      (read : sources.tree.readText spelling = .ok text) : NamedFile sources corpus path text

theorem indexedKey?_eq_some_iff {sources : CodeSources} {path key : Text} :
    sources.indexedKey? path = some key ↔ IndexedAs sources path key := by
  unfold CodeSources.indexedKey? keyGroups IndexedAs
  simp only [Option.bind_eq_bind, Option.bind_eq_some_iff, List.mapM_cons, List.mapM_nil,
    Option.pure_def, Option.some.injEq]
  constructor
  · rintro ⟨captures, hsearch, parts, ⟨group, hgroup, parts', ⟨item, hitem, parts'',
      ⟨file, hfile, _, rfl, rfl⟩, rfl⟩, rfl⟩, rfl⟩
    refine ⟨captures, group, item, file, hsearch, hgroup, hitem, hfile, ?_⟩
    simp [Text.join]
  · rintro ⟨captures, group, item, file, hsearch, hgroup, hitem, hfile, rfl⟩
    refine ⟨captures, hsearch, [group, item, file],
      ⟨group, hgroup, _, ⟨item, hitem, _, ⟨file, hfile, _, rfl, rfl⟩, rfl⟩, rfl⟩, ?_⟩
    simp [Text.join]

theorem indexedKey?_eq_none_iff {sources : CodeSources} {path : Text} :
    sources.indexedKey? path = none ↔ ∀ key, ¬ IndexedAs sources path key := by
  rw [Option.eq_none_iff_forall_ne_some]
  exact forall_congr' fun key => not_congr indexedKey?_eq_some_iff

/-- A path names one file. -/
theorem NamedFile.unique {sources : CodeSources} {corpus : Corpus} {path text text' : Text}
    (h : NamedFile sources corpus path text) (h' : NamedFile sources corpus path text') :
    text' = text := by
  cases h with
  | @indexed key file captured found =>
      have hkey := indexedKey?_eq_some_iff.mpr captured
      cases h' with
      | @indexed key' file' captured' found' =>
          have hkey' := indexedKey?_eq_some_iff.mpr captured'
          obtain rfl := Option.some.inj (hkey.symm.trans hkey')
          obtain rfl := Option.some.inj (found.symm.trans found')
          rfl
      | project uncaptured => exact absurd captured (uncaptured key)
  | project uncaptured same read =>
      cases h' with
      | @indexed key _ captured => exact absurd captured (uncaptured key)
      | project _ same' read' =>
          exact FileTree.readText_eq_of_components_eq (same'.trans same.symm) read' read

/-! ## Answers -/

theorem Corpus.get?_of_mem {corpus : Corpus} {file : SourceFile}
    (hpaths : (corpus.files.map (·.path)).Nodup) (h : file ∈ corpus.files) :
    corpus.get? file.path = some file := by
  have hfound : (corpus.get? file.path).isSome = true := by
    unfold get?
    rw [List.find?_isSome]
    exact ⟨file, h, beq_self_eq_true _⟩
  obtain ⟨other, hother⟩ := Option.isSome_iff_exists.mp hfound
  have hpath : other.path = file.path := by simpa using List.find?_some hother
  have hmem := List.mem_of_find?_eq_some hother
  rw [hother, List.inj_on_of_nodup_map hpaths hmem h hpath]

namespace CodeSources

variable {sources : CodeSources} {corpus : Corpus} {locator : Locator} {code : Text}
  {provenance : Provenance}

/-- The record of a name is that of the first file with the name, and its file says which one that
is. -/
theorem isCodeOf_record {symbol key : Text} {record : SymbolRecord}
    (hpaths : (corpus.files.map (·.path)).Nodup) (hsymbols : sources.symbols = .ofCorpus corpus)
    (hget : sources.symbols.get? symbol = some record) (hkey : record.file = key) :
    ∃ file run, corpus.get? key = some file ∧ IsCodeOf file.text (some symbol) run
      ∧ record.code = run.flatten := by
  rw [hsymbols] at hget
  obtain ⟨hrecord, rfl⟩ := (SymbolIndex.get?_eq_some_iff _).mp hget
  obtain ⟨file, hfile, hmem⟩ := SymbolIndex.exists_file_of_mem_records hrecord
  obtain ⟨hpath, run, hrun, hcode⟩ := SymbolIndex.isCodeOf_of_mem_fileRecords hmem
  obtain rfl : file.path = key := hpath.symm.trans hkey
  exact ⟨file, run, Corpus.get?_of_mem hpaths hfile, hrun, hcode⟩

/-- The code of an indexed path is code of the corpus file at the key. -/
theorem isCodeOf_lookupIndexed {key : Text} (hpaths : (corpus.files.map (·.path)).Nodup)
    (hsymbols : sources.symbols = .ofCorpus corpus)
    (hsolutions : sources.solutions = .ofCorpus corpus)
    (h : sources.lookupIndexed key locator = .ok (code, provenance)) :
    ∃ file run, corpus.get? key = some file ∧ IsCodeOf file.text locator.symbol run
      ∧ code = run.flatten := by
  have hsolution : ∀ text, sources.solutions.get? key = some text →
      corpus.get? key = some ⟨key, text⟩ := by
    intro text htext
    rw [hsolutions] at htext
    exact Corpus.get?_of_mem hpaths (SolutionsIndex.mem_files_of_get? htext)
  unfold lookupIndexed at h
  split at h
  · rename_i hsymbol
    rw [hsymbol]
    cases htext : sources.solutions.get? key with
    | none =>
        rw [htext] at h
        contradiction
    | some text =>
        rw [htext] at h
        obtain ⟨rfl, -⟩ := Prod.mk.inj (Except.ok.inj h)
        exact ⟨_, _, hsolution _ htext, isCodeOf_chunks _, (Text.flatten_chunks _).symm⟩
  · rename_i symbol hsymbol
    rw [hsymbol]
    split at h
    · rename_i record hrecord
      obtain ⟨rfl, -⟩ := Prod.mk.inj (Except.ok.inj h)
      obtain ⟨hget, hkey⟩ := Option.filter_eq_some_iff.mp hrecord
      exact isCodeOf_record hpaths hsymbols hget (by simpa using hkey)
    · dsimp only at h
      split at h
      · contradiction
      · rename_i hne
        obtain ⟨rfl, -⟩ := Prod.mk.inj (Except.ok.inj h)
        cases htext : sources.solutions.get? key with
        | none => simp [htext] at hne
        | some text =>
            rw [htext] at hne
            obtain ⟨run, hrun, hcode⟩ :=
              isCodeOf_extractSymbol fun hnil => hne (List.isEmpty_iff.mpr hnil)
            exact ⟨_, run, hsolution _ htext, hrun, hcode⟩

theorem isCodeOf_codeIn {text : Text} (h : codeIn locator text = .ok (code, provenance)) :
    ∃ run, IsCodeOf text locator.symbol run ∧ code = run.flatten := by
  unfold codeIn at h
  split at h
  · rename_i hsymbol
    obtain ⟨rfl, -⟩ := Prod.mk.inj (Except.ok.inj h)
    rw [hsymbol]
    exact ⟨_, isCodeOf_chunks _, (Text.flatten_chunks _).symm⟩
  · rename_i symbol hsymbol
    dsimp only at h
    split at h
    · contradiction
    · rename_i hne
      obtain ⟨rfl, -⟩ := Prod.mk.inj (Except.ok.inj h)
      rw [hsymbol]
      exact isCodeOf_extractSymbol fun hnil => hne (List.isEmpty_iff.mpr hnil)

/-- What a resolver reads for a path is what the system reads for some spelling of it. -/
theorem exists_spelling_read (sources : CodeSources) (earlier : List CodeBlock) (path : Text) :
    ∃ spelling, Path.components spelling = Path.components path
      ∧ ((resolveBlocks sources .initial earlier).2.cache.read sources.tree path).1
        = sources.tree.readText spelling := by
  rw [FileCache.fst_read, get?_resolveBlocks_initial]
  cases hfirst : Path.firstSpelling? path (earlier.filterMap sources.readPath?) with
  | none => exact ⟨path, rfl, rfl⟩
  | some first => exact ⟨first, Path.components_of_firstSpelling? hfirst, rfl⟩

/-- The code that a locator is answered with is code of the file that it names. -/
theorem isCodeOf_lookup (hpaths : (corpus.files.map (·.path)).Nodup)
    (hsymbols : sources.symbols = .ofCorpus corpus)
    (hsolutions : sources.solutions = .ofCorpus corpus) (earlier : List CodeBlock)
    (h : (sources.lookup (resolveBlocks sources .initial earlier).2.cache locator).1
      = .ok (code, provenance)) :
    ∃ text run, NamedFile sources corpus locator.path text ∧ IsCodeOf text locator.symbol run
      ∧ code = run.flatten := by
  cases hkey : sources.indexedKey? locator.path with
  | some key =>
      rw [lookup, hkey] at h
      obtain ⟨file, run, hfile, hrun, hcode⟩ :=
        isCodeOf_lookupIndexed hpaths hsymbols hsolutions h
      exact ⟨_, run, .indexed (indexedKey?_eq_some_iff.mp hkey) hfile, hrun, hcode⟩
  | none =>
      have hpath : sources.projectPath? locator
          = some (Path.join sources.options.projectRoot locator.path) := by
        rw [projectPath?, hkey]
      obtain ⟨spelling, hsame, hread⟩ := exists_spelling_read sources earlier
        (Path.join sources.options.projectRoot locator.path)
      rw [lookup_of_projectPath hpath, hread] at h
      dsimp only at h
      cases htext : sources.tree.readText spelling with
      | error e =>
          rw [htext] at h
          contradiction
      | ok text =>
          rw [htext] at h
          obtain ⟨run, hrun, hcode⟩ := isCodeOf_codeIn h
          exact ⟨text, run, .project (indexedKey?_eq_none_iff.mp hkey) hsame htext, hrun, hcode⟩

end CodeSources

/-! ## Content -/

/-- A resolved fence holds code of the one file that its locator names, and of no other file.  A
fence is resolved if it has a locator and gives no warning; `earlier` are the fences in front of it,
whose files are kept. -/
theorem content_resolveBlock {sources : CodeSources} {corpus : Corpus}
    (hpaths : (corpus.files.map (·.path)).Nodup) (hsymbols : sources.symbols = .ofCorpus corpus)
    (hsolutions : sources.solutions = .ofCorpus corpus) (earlier : List CodeBlock) {b : CodeBlock}
    {locator : Locator} (hlocator : Locator.of? (Locator.normalize b) = some locator)
    (hresolved : (resolveBlock sources (resolveBlocks sources .initial earlier).2 b).2.warnings
      = (resolveBlocks sources .initial earlier).2.warnings) :
    ∃ text run, NamedFile sources corpus locator.path text
      ∧ (∀ other, NamedFile sources corpus locator.path other → other = text)
      ∧ IsCodeOf text locator.symbol run
      ∧ (resolveBlock sources (resolveBlocks sources .initial earlier).2 b).1.content
        = sources.finish run.flatten := by
  rw [CodeSources.resolveBlock_of_some hlocator] at hresolved ⊢
  dsimp only at hresolved ⊢
  cases hanswer : (sources.lookup (resolveBlocks sources .initial earlier).2.cache locator).1 with
  | error kind =>
      rw [hanswer] at hresolved
      simp [CodeSources.settled] at hresolved
  | ok answer =>
      obtain ⟨code, provenance⟩ := answer
      obtain ⟨text, run, hnamed, hrun, rfl⟩ :=
        CodeSources.isCodeOf_lookup hpaths hsymbols hsolutions earlier hanswer
      exact ⟨text, run, hnamed, fun other => hnamed.unique, hrun, rfl⟩

/-- Two files that define one name.  The symbol index keeps the record of the first one. -/
def oneNameTwice : Corpus :=
  ⟨[⟨"a/b/c", "def get():\n    return 1\n"⟩, ⟨"x/y/z", "def get():\n    return 2\n"⟩]⟩

/-- The pattern of three letters with slashes between them, each of them captured. -/
def threeLetters : Pattern :=
  let letter (name : Text) : Pattern := .group (some name) (.oneOf true [.range '/' '/'])
  let slash : Pattern := .oneOf false [.range '/' '/']
  .seq (letter "group") (.seq slash (.seq (letter "item") (.seq slash (letter "file"))))

/-- The fence for the second one holds the code of the second one. -/
theorem content_resolveBlock_oneNameTwice :
    let sources : CodeSources :=
      ⟨.ofCorpus oneNameTwice, .ofCorpus oneNameTwice, .standard, threeLetters.search, .empty []⟩
    let fence := fenceFor "x/y/z:get"
    let block := (resolveBlock sources (resolveBlocks sources .initial []).2 fence).1
    (resolveBlock sources (resolveBlocks sources .initial []).2 fence).2.warnings
        = (resolveBlocks sources .initial []).2.warnings
      ∧ block.content = "def get():\n    return 2\n".toList
      ∧ ∃ text run, NamedFile sources oneNameTwice "x/y/z" text
        ∧ (∀ other, NamedFile sources oneNameTwice "x/y/z" other → other = text)
        ∧ IsCodeOf text (some "get".toList) run
        ∧ block.content = sources.finish run.flatten := by
  intro sources fence block
  have hpaths : (oneNameTwice.files.map (·.path)).Nodup := by decide
  have hlocator : Locator.of? (Locator.normalize fence) = some ⟨"x/y/z", some "get"⟩ := by
    decide +kernel
  -- The search is evaluated on its own, and the rest of the look-up from what it captures.
  have hsearch : threeLetters.search "x/y/z"
      = some [("file".toList, "z".toList), ("item".toList, "y".toList),
          ("group".toList, "x".toList)] := by decide +kernel
  have hkey : sources.indexedKey? "x/y/z" = some "x/y/z".toList :=
    indexedKey?_eq_some_iff.mpr ⟨_, "x", "y", "z", hsearch, by decide, by decide, by decide, rfl⟩
  have hindexed : sources.lookupIndexed "x/y/z" ⟨"x/y/z", some "get"⟩
      = .ok ("def get():\n    return 2\n", .solutionsIndex) := by decide +kernel
  have hlookup : ∀ cache, sources.lookup cache ⟨"x/y/z", some "get"⟩
      = (.ok ("def get():\n    return 2\n", .solutionsIndex), cache) := by
    intro cache
    rw [CodeSources.lookup, hkey]
    dsimp only
    rw [hindexed]
  have hblock := resolveBlock_of_ok hlocator (hlookup (resolveBlocks sources .initial []).2.cache)
  have hresolved : (resolveBlock sources (resolveBlocks sources .initial []).2 fence).2.warnings
      = (resolveBlocks sources .initial []).2.warnings := by rw [hblock]
  have hcontent : (resolveBlock sources (resolveBlocks sources .initial []).2 fence).1.content
      = "def get():\n    return 2\n".toList := by
    rw [hblock]
    decide +kernel
  have hsymbols : sources.symbols = .ofCorpus oneNameTwice := rfl
  have hsolutions : sources.solutions = .ofCorpus oneNameTwice := rfl
  exact ⟨hresolved, hcontent, content_resolveBlock hpaths hsymbols hsolutions [] hlocator hresolved⟩

end Weave
