import Mathlib.Data.List.Induction
import Weave.Proofs.Fence.Run
import Weave.Proofs.File.Spelling

/-!
# The cache of a run

A run reads a file once and keeps what reading gave, also when it failed.  The cache compares paths
by their components, which is coarser than what the system does with a path: behind a slash at the
end, or a dot, a file is an error.

* `get?_resolveBlocks` says what a run keeps for a path: what the first path gave that was read and
  is a spelling of it.
* `resolveBlock_eq_alone_iff` says when the fences in front of a fence make no difference to it.
* `resolveBlocks_eq_map` is the run over fences with plain paths: each of them is resolved as it is
  alone.
-/

namespace Weave

/-- The first of some paths that is a spelling of a path. -/
def Path.firstSpelling? (path : Text) (paths : List Text) : Option Text :=
  paths.find? fun p => components p == components path

theorem Path.components_of_firstSpelling? {path first : Text} {paths : List Text}
    (h : firstSpelling? path paths = some first) : components first = components path := by
  simpa using List.find?_some h

/-! ## Reading through a cache -/

namespace FileCache

theorem get?_congr (cache : FileCache) {p q : Text}
    (h : Path.components p = Path.components q) : cache.get? p = cache.get? q := by
  rw [get?, get?, h]

@[simp] theorem get?_empty (p : Text) : empty.get? p = none := rfl

theorem read_of_some {cache : FileCache} {p : Text} {r : Except ReadError Text}
    (h : cache.get? p = some r) (tree : FileTree) : cache.read tree p = (r, cache) := by
  rw [read, h]

theorem read_of_none {cache : FileCache} {p : Text} (h : cache.get? p = none) (tree : FileTree) :
    cache.read tree p
      = (tree.readText p, ⟨(Path.components p, tree.readText p) :: cache.entries⟩) := by
  rw [read, h]

/-- What reading a path gives is what is kept for it, or what the system reads. -/
theorem fst_read (cache : FileCache) (tree : FileTree) (p : Text) :
    (cache.read tree p).1 = (cache.get? p).getD (tree.readText p) := by
  rw [read]
  cases cache.get? p <;> rfl

/-- Reading keeps what the path gave for all its spellings, unless something was kept before. -/
theorem get?_read (cache : FileCache) (tree : FileTree) (p q : Text) :
    (cache.read tree p).2.get? q
      = (cache.get? q).or
          (if Path.components p = Path.components q then some (tree.readText p) else none) := by
  by_cases h : Path.components p = Path.components q
  · rw [if_pos h, ← cache.get?_congr h]
    cases hp : cache.get? p with
    | some r => rw [read_of_some hp, ← cache.get?_congr h, hp, Option.some_or]
    | none =>
      rw [read_of_none hp, Option.none_or]
      simp [get?, h]
  · rw [if_neg h, Option.or_none]
    cases hp : cache.get? p with
    | some r => rw [read_of_some hp]
    | none =>
      rw [read_of_none hp]
      simp [get?, h]

end FileCache

/-! ## The answer to a locator -/

/-- The messages of the system differ in their lengths. -/
theorem ReadError.length_message (e : ReadError) :
    e.message.length = match e with
      | .notFound => 38
      | .notADirectory => 29
      | .isADirectory => 28
      | .nameTooLong => 32
      | .nulInName => 42
      | .permissionDenied => 31
      | .notText => 34 := by
  cases e <;> rfl

theorem ReadError.eq_of_message_eq {e e' : ReadError} (h : e.message = e'.message) : e = e' := by
  have hlength := congrArg List.length h
  rw [length_message, length_message] at hlength
  clear h
  cases e <;> cases e' <;> first | rfl | contradiction

namespace CodeSources

/-- The code that a locator names once its file has been read. -/
def codeRead (locator : Locator) : Except ReadError Text → Except WarningKind (Text × Provenance)
  | .ok text => codeIn locator text
  | .error e => .error (.unreadableFile locator.path e.message)

/-- The path that a locator is read from, unless it is indexed. -/
def projectPath? (sources : CodeSources) (locator : Locator) : Option Text :=
  match sources.indexedKey? locator.path with
  | some _ => none
  | none => some (Path.join sources.options.projectRoot locator.path)

/-- The path that a block is read from, if it has a locator that is not indexed. -/
def readPath? (sources : CodeSources) (b : CodeBlock) : Option Text :=
  (Locator.of? (Locator.normalize b)).bind sources.projectPath?

variable {sources : CodeSources} {locator : Locator}

/-- A locator that is read from no path has the same answer whatever has been read. -/
theorem lookup_of_indexed (h : sources.projectPath? locator = none) :
    ∃ answer, ∀ cache, sources.lookup cache locator = (answer, cache) := by
  rw [projectPath?] at h
  split at h
  · rename_i key hkey
    exact ⟨sources.lookupIndexed key locator, fun cache => by rw [lookup, hkey]⟩
  · contradiction

theorem lookup_of_projectPath {path : Text} (h : sources.projectPath? locator = some path)
    (cache : FileCache) :
    sources.lookup cache locator
      = (codeRead locator (cache.read sources.tree path).1, (cache.read sources.tree path).2) := by
  rw [projectPath?] at h
  split at h
  · contradiction
  · rename_i hkey
    obtain rfl := Option.some.inj h
    rw [lookup, hkey]
    dsimp only
    generalize cache.read sources.tree (Path.join sources.options.projectRoot locator.path) = r
    obtain ⟨result, cache⟩ := r
    cases result <;> rfl

/-- What is missing in a text is a symbol. -/
theorem codeIn_ne_unreadable (locator : Locator) (text path reason : Text) :
    codeIn locator text ≠ .error (.unreadableFile path reason) := by
  intro h
  unfold codeIn at h
  split at h
  · contradiction
  · dsimp only at h
    split at h <;> simp at h

/-- A block once its locator has been looked up, with the warnings about it. -/
def settled (sources : CodeSources) (b : CodeBlock) (locator : Locator) :
    Except WarningKind (Text × Provenance) → CodeBlock × List Warning
  | .ok (code, provenance) => (sources.resolved (Locator.normalize b) locator code provenance, [])
  | .error kind => (b, [⟨kind, b.span⟩])

theorem resolveBlock_of_some {b : CodeBlock} (h : Locator.of? (Locator.normalize b) = some locator)
    (state : ResolverState) :
    resolveBlock sources state b
      = let answer := sources.lookup state.cache locator
        let (block, warnings) := sources.settled b locator answer.1
        (block, ⟨answer.2, state.warnings ++ warnings⟩) := by
  rcases hlookup : sources.lookup state.cache locator with ⟨answer, cache⟩
  cases answer with
  | error kind => rw [resolveBlock_of_error h hlookup]; rfl
  | ok found =>
    rw [resolveBlock_of_ok h hlookup]
    simp [settled]

/-- A text and an error of the system never make the same of a block: what is missing in a text is
a symbol, and the warning says so. -/
theorem settled_ok_ne_settled_error {b : CodeBlock} (text : Text) (e : ReadError) :
    sources.settled b locator (codeRead locator (.ok text))
      ≠ sources.settled b locator (codeRead locator (.error e)) := by
  intro h
  cases hcode : codeIn locator text with
  | ok found => simp [codeRead, hcode, settled] at h
  | error kind =>
    have hkind : kind = .unreadableFile locator.path e.message := by
      simpa [codeRead, hcode, settled] using h
    exact codeIn_ne_unreadable _ _ _ _ (hkind ▸ hcode)

/-- Readings that agree where both are texts make the same of a block only if they are the
same. -/
theorem settled_codeRead_eq_iff {b : CodeBlock} {r r' : Except ReadError Text}
    (htexts : ∀ s t, r = .ok s → r' = .ok t → s = t) :
    sources.settled b locator (codeRead locator r) = sources.settled b locator (codeRead locator r')
      ↔ r = r' := by
  refine ⟨fun h => ?_, fun h => by rw [h]⟩
  cases r with
  | ok s =>
    cases r' with
    | ok t => rw [htexts s t rfl rfl]
    | error e => exact absurd h (settled_ok_ne_settled_error s e)
  | error e =>
    cases r' with
    | ok t => exact absurd h.symm (settled_ok_ne_settled_error t e)
    | error e' =>
      have hmessage : e.message = e'.message := by simpa [codeRead, settled] using h
      rw [ReadError.eq_of_message_eq hmessage]

end CodeSources

/-! ## What a run has read -/

section Run

variable {sources : CodeSources}

/-- A block that is read from no path is resolved the same whatever has been read. -/
theorem resolveBlock_of_readPath_none {b : CodeBlock} (h : sources.readPath? b = none) :
    ∃ block warnings, ∀ state, resolveBlock sources state b
      = (block, ⟨state.cache, state.warnings ++ warnings⟩) := by
  cases hlocator : Locator.of? (Locator.normalize b) with
  | none => exact ⟨b, [], fun state => by rw [resolveBlock_of_none hlocator, List.append_nil]⟩
  | some locator =>
    rw [CodeSources.readPath?, hlocator, Option.bind_some] at h
    obtain ⟨answer, hanswer⟩ := CodeSources.lookup_of_indexed h
    exact ⟨(sources.settled b locator answer).1, (sources.settled b locator answer).2,
      fun state => by rw [CodeSources.resolveBlock_of_some hlocator, hanswer]⟩

/-- A block that is read from a path is resolved by what is kept for the path, or else by what
reading it gives. -/
theorem resolveBlock_of_readPath {b : CodeBlock} {path : Text}
    (h : sources.readPath? b = some path) :
    ∃ locator, ∀ state, resolveBlock sources state b
      = let r := (state.cache.get? path).getD (sources.tree.readText path)
        let (block, warnings) := sources.settled b locator (CodeSources.codeRead locator r)
        (block, ⟨(state.cache.read sources.tree path).2, state.warnings ++ warnings⟩) := by
  obtain ⟨locator, hlocator, hpath⟩ := Option.bind_eq_some_iff.mp h
  refine ⟨locator, fun state => ?_⟩
  rw [CodeSources.resolveBlock_of_some hlocator, CodeSources.lookup_of_projectPath hpath,
    FileCache.fst_read]

/-- A block adds what its path reads to the cache. -/
theorem cache_resolveBlock (state : ResolverState) (b : CodeBlock) :
    (resolveBlock sources state b).2.cache
      = match sources.readPath? b with
        | none => state.cache
        | some path => (state.cache.read sources.tree path).2 := by
  cases hpath : sources.readPath? b with
  | none =>
    obtain ⟨block, warnings, hblock⟩ := resolveBlock_of_readPath_none hpath
    rw [hblock]
  | some path =>
    obtain ⟨locator, hblock⟩ := resolveBlock_of_readPath hpath
    rw [hblock]

/-- After a run a path has what was kept for it before, or else what the first path gave that the
run read and that is a spelling of it. -/
theorem get?_resolveBlocks (state : ResolverState) (bs : List CodeBlock) (path : Text) :
    (resolveBlocks sources state bs).2.cache.get? path
      = (state.cache.get? path).or
          ((Path.firstSpelling? path (bs.filterMap sources.readPath?)).map
            sources.tree.readText) := by
  induction bs generalizing state with
  | nil => simp [resolveBlocks, Path.firstSpelling?]
  | cons b bs ih =>
    rw [resolveBlocks]
    dsimp only
    rw [ih, cache_resolveBlock]
    cases hpath : sources.readPath? b with
    | none => rw [List.filterMap_cons_none hpath]
    | some p =>
      rw [List.filterMap_cons_some hpath, FileCache.get?_read, Option.or_assoc,
        Path.firstSpelling?, Path.firstSpelling?]
      by_cases h : Path.components p = Path.components path
      · rw [if_pos h, Option.some_or, List.find?_cons_of_pos (by simpa using h), Option.map_some]
      · rw [if_neg h, Option.none_or, List.find?_cons_of_neg (by simpa using h)]

/-- What a run keeps for a path is what the first spelling of it gave. -/
theorem get?_resolveBlocks_initial (bs : List CodeBlock) (path : Text) :
    (resolveBlocks sources .initial bs).2.cache.get? path
      = (Path.firstSpelling? path (bs.filterMap sources.readPath?)).map sources.tree.readText := by
  rw [get?_resolveBlocks, ResolverState.initial, FileCache.get?_empty, Option.none_or]

/-- A fence behind others has the block and the warning that it has alone, if the first path that
was read and is a spelling of its path gave what its path gives. -/
theorem resolveBlock_eq_alone {earlier : List CodeBlock} {b : CodeBlock}
    (h : ∀ path ∈ sources.readPath? b,
      ∀ first ∈ Path.firstSpelling? path (earlier.filterMap sources.readPath?),
        sources.tree.readText first = sources.tree.readText path) :
    (resolveBlock sources (resolveBlocks sources .initial earlier).2 b).1
        = (resolveBlock sources .initial b).1 ∧
      (resolveBlock sources (resolveBlocks sources .initial earlier).2 b).2.warnings
        = (resolveBlocks sources .initial earlier).2.warnings
          ++ (resolveBlock sources .initial b).2.warnings := by
  cases hpath : sources.readPath? b with
  | none =>
    obtain ⟨block, warnings, hblock⟩ := resolveBlock_of_readPath_none hpath
    simp [hblock, ResolverState.initial]
  | some path =>
    obtain ⟨locator, hblock⟩ := resolveBlock_of_readPath hpath
    have hread : ((resolveBlocks sources .initial earlier).2.cache.get? path).getD
        (sources.tree.readText path) = sources.tree.readText path := by
      rw [get?_resolveBlocks_initial]
      cases hfirst : Path.firstSpelling? path (earlier.filterMap sources.readPath?) with
      | none => rfl
      | some first => exact h path hpath first hfirst
    rw [hblock, hblock, hread]
    exact ⟨rfl, rfl⟩

/-- A fence behind others has the block and the warning that it has alone, exactly if the first
path that was read and is a spelling of its path gave what its path gives. -/
theorem resolveBlock_eq_alone_iff (sources : CodeSources) (earlier : List CodeBlock)
    (b : CodeBlock) :
    ((resolveBlock sources (resolveBlocks sources .initial earlier).2 b).1
          = (resolveBlock sources .initial b).1 ∧
      (resolveBlock sources (resolveBlocks sources .initial earlier).2 b).2.warnings
          = (resolveBlocks sources .initial earlier).2.warnings
            ++ (resolveBlock sources .initial b).2.warnings)
      ↔ ∀ path ∈ sources.readPath? b,
          ∀ first ∈ Path.firstSpelling? path (earlier.filterMap sources.readPath?),
            sources.tree.readText first = sources.tree.readText path := by
  constructor
  · rintro ⟨hsame, hwarnings⟩ path hpath first hfirst
    obtain ⟨locator, hblock⟩ := resolveBlock_of_readPath hpath
    have hkept : (resolveBlocks sources .initial earlier).2.cache.get? path
        = some (sources.tree.readText first) := by
      rw [get?_resolveBlocks_initial, hfirst, Option.map_some]
    rw [hblock, hblock, hkept] at hsame hwarnings
    have hsettled :
        sources.settled b locator (CodeSources.codeRead locator (sources.tree.readText first))
          = sources.settled b locator
              (CodeSources.codeRead locator (sources.tree.readText path)) :=
      Prod.ext hsame (List.append_cancel_left hwarnings)
    have htexts : ∀ s t, sources.tree.readText first = .ok s → sources.tree.readText path = .ok t →
        s = t := fun s t =>
      FileTree.readText_eq_of_components_eq (Path.components_of_firstSpelling? hfirst)
    exact (CodeSources.settled_codeRead_eq_iff htexts).mp hsettled
  · exact resolveBlock_eq_alone

/-- One file for fences to name. -/
def oneFile : CodeSources := .ofFiles [("util.py", "x = 1\n")]

/-- A fence for a path. -/
def fenceFor (path : Text) : CodeBlock := ⟨some "python", [⟨"file", some path⟩], [], ⟨0, 0⟩⟩

/-- A file that is named as a directory first: the fence behind gets what reading a directory
gave. -/
theorem resolveBlock_behind_directory :
    (resolveBlock oneFile (resolveBlocks oneFile .initial [fenceFor "util.py/"]).2
        (fenceFor "util.py")).1
      ≠ (resolveBlock oneFile .initial (fenceFor "util.py")).1 := by
  decide +kernel

/-- Fences with plain paths are resolved one after the other as each of them is alone. -/
theorem resolveBlocks_eq_map {bs : List CodeBlock}
    (h : ∀ b ∈ bs, ∀ path ∈ sources.readPath? b, Path.IsPlain path) :
    (resolveBlocks sources .initial bs).1
        = bs.map (fun b => (resolveBlock sources .initial b).1) ∧
      (resolveBlocks sources .initial bs).2.warnings
        = bs.flatMap fun b => (resolveBlock sources .initial b).2.warnings := by
  -- What is kept for the path of a fence comes from the fences in front of it, so the last fence is
  -- taken off.
  induction bs using List.reverseRecOn with
  | nil => exact ⟨rfl, rfl⟩
  | append_singleton earlier b ih =>
    obtain ⟨hblocks, hwarnings⟩ :=
      ih fun b' hb' => h b' (List.mem_append_left [b] hb')
    have hsame : ∀ path ∈ sources.readPath? b,
        ∀ first ∈ Path.firstSpelling? path (earlier.filterMap sources.readPath?),
          sources.tree.readText first = sources.tree.readText path := by
      intro path hpath first hfirst
      obtain ⟨b', hb', hread⟩ := List.mem_filterMap.mp (List.mem_of_find?_eq_some hfirst)
      exact FileTree.readText_congr sources.tree (Path.components_of_firstSpelling? hfirst)
        (h b' (List.mem_append_left [b] hb') first hread)
        (h b (List.mem_append_right earlier List.mem_cons_self) path hpath)
    obtain ⟨hblock, hwarning⟩ := resolveBlock_eq_alone hsame
    rw [resolveBlocks_append]
    simp only [resolveBlocks, List.map_append, List.flatMap_append, List.map_cons, List.map_nil,
      List.flatMap_cons, List.flatMap_nil, List.append_nil]
    exact ⟨by rw [hblocks, hblock], by rw [hwarning, hwarnings]⟩

end Run

end Weave
