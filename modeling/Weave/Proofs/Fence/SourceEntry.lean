import Weave.Proofs.Fence.Cache
import Weave.Proofs.Fence.Fate
import Weave.Proofs.Text.Trim

/-!
# The locator of resolved code, read again

A resolved block names its locator in its `source` entry.  This module asks what becomes of a fence
that has this text for its `file` entry.

* `Locator.parse?_render_iff`: the text is read as the locator again if that names a symbol.  A path
  alone may have lost a colon at its end, and with it go the white space and the colons in front of
  it that were part of the path (`Locator.ReadsBack`).
* `resolvedAlike_iff`: the fence is resolved to the same code if its locator has the same answer,
  and it is resolved at all only if the locator has an answer.
* `resolveBlock_source` puts the two together, behind any other fences.
-/

namespace Weave

/-! ## Locators that are read again -/

namespace Locator

/-- Whether the written form of a locator is read as the locator again, when it is read from some
text.  A path alone must not end in white space, and a last colon in it must not separate a
symbol. -/
def ReadsBack (l : Locator) : Prop :=
  l.symbol = none → l.path.trimEnd = l.path
    ∧ ∀ p s, l.path = p ++ ':' :: s → ':' ∉ s → p = [] ∨ '/' ∈ s

theorem parse?_trim (raw : Text) : parse? raw.trim = parse? raw := by
  rw [parse?, Text.trim_trim]
  rfl

/-- A text is a path if no colon in it separates a symbol. -/
theorem parse?_whole {t : Text} (htrim : t.trim = t) (hne : t ≠ [])
    (h : ∀ p s, t = p ++ ':' :: s → ':' ∉ s → p = [] ∨ '/' ∈ s) : parse? t = some ⟨t, none⟩ := by
  have hempty : t.isEmpty = false := List.isEmpty_eq_false_iff.mpr hne
  rw [parse?, htrim, hempty, if_neg Bool.false_ne_true]
  split
  next p s hsplit =>
    obtain ⟨ht, hs⟩ := (Text.splitLast?_singleton_eq_some_iff (c := ':')).mp hsplit
    exact if_pos ((h p s ht hs).imp_left List.isEmpty_iff.mpr)
  next => rfl

/-- A colon with a path in front of it and no slash behind it ends the path. -/
theorem parse?_colon {t p s : Text} (ht : t.trim = p ++ ':' :: s) (hs : ':' ∉ s) (hp : p ≠ [])
    (hslash : '/' ∉ s) : ∃ symbol, parse? t = some ⟨p, symbol⟩ := by
  have hsplit := (Text.splitLast?_singleton_eq_some_iff (c := ':')).mpr ⟨ht, hs⟩
  have hempty : (p ++ ':' :: s).isEmpty = false := by simp
  have hpath : ¬(p.isEmpty = true ∨ '/' ∈ s) := by simp [hp, hslash]
  rw [ht] at hsplit
  rw [parse?, ht, hempty, if_neg Bool.false_ne_true, show (":" : Text) = [':'] from rfl, hsplit]
  dsimp only
  rw [if_neg hpath]
  split
  · exact ⟨none, rfl⟩
  · exact ⟨some s, rfl⟩

/-- A path is read as itself, if it is trimmed at its start. -/
theorem parse?_path_iff {t : Text} (hne : t ≠ []) (hstart : t.trimStart = t) :
    parse? t = some ⟨t, none⟩ ↔ ReadsBack ⟨t, none⟩ := by
  have htrim : t.trim = t.trimEnd := by rw [Text.trim, hstart]
  constructor
  · intro h _
    have hend : t.trim = t := by
      rcases (trim_of_parse? h).2 with hraw | ⟨-, hraw⟩
      · exact hraw
      · -- Trimming makes no text longer.
        obtain ⟨w, hw, -⟩ := Text.exists_eq_trimEndWhile_append Text.isSpace t
        rw [show t.trimEndWhile Text.isSpace = t.trim from htrim.symm, hraw] at hw
        have hlength := congrArg List.length hw
        simp only [List.length_append, List.length_singleton] at hlength
        omega
    refine ⟨htrim ▸ hend, fun p s hps hs => ?_⟩
    by_contra hpath
    rw [not_or] at hpath
    obtain ⟨symbol, hread⟩ := parse?_colon (hend.trans hps) hs hpath.1 hpath.2
    rw [h, Option.some.injEq, Locator.mk.injEq] at hread
    have hlength := congrArg List.length (hread.1.symm.trans hps)
    simp only [List.length_append, List.length_cons] at hlength
    omega
  · intro h
    obtain ⟨hend, hcolon⟩ := h rfl
    exact parse?_whole (htrim.trans hend) hne hcolon

/-- What a locator is written with is read as the locator again, unless it ends in white space or
its last colon separates a symbol. -/
theorem parse?_render_iff {raw : Text} {l : Locator} (h : parse? raw = some l) :
    parse? l.render = some l ↔ l.ReadsBack := by
  obtain ⟨path, symbol⟩ := l
  cases symbol with
  | some symbol =>
    have hraw : raw.trim = render ⟨path, some symbol⟩ := by
      rcases (trim_of_parse? h).2 with hraw | ⟨hnone, -⟩
      · exact hraw
      · contradiction
    rw [← hraw, parse?_trim]
    exact iff_of_true h nofun
  | none =>
    obtain ⟨c, rest, hpath, hc⟩ : ∃ c rest, path = c :: rest ∧ Text.isSpace c = false := by
      obtain ⟨hne, hraw⟩ := trim_of_parse? h
      obtain ⟨c, rest, hpath⟩ := List.exists_cons_of_ne_nil hne
      obtain ⟨more, hmore⟩ : ∃ more, raw.trim = c :: more := by
        rcases hraw with hraw | ⟨-, hraw⟩
        · exact ⟨rest, hraw.trans hpath⟩
        · exact ⟨rest ++ [':'], by rw [hraw, hpath, List.cons_append]⟩
      exact ⟨c, rest, hpath, Text.isSpace_of_trim_eq_cons hmore⟩
    refine parse?_path_iff (hpath ▸ List.cons_ne_nil c rest) ?_
    rw [hpath]
    exact Text.trimStart_cons hc rest

end Locator

/-! ## Fences with the same locator -/

/-- Whether a fence is resolved, with nothing read before, to the content of a resolved block and
with its provenance. -/
structure ResolvedAlike (sources : CodeSources) (block again : CodeBlock) : Prop where
  resolved : (resolveBlock sources .initial again).2.warnings = []
  content_eq : (resolveBlock sources .initial again).1.content = block.content
  provenance_eq :
    (resolveBlock sources .initial again).1.metaValue? resolvedKey = block.metaValue? resolvedKey

section Again

variable {sources : CodeSources} {state : ResolverState} {b again : CodeBlock} {locator : Locator}
  {code : Text} {provenance : Provenance}

/-- A block without a new warning has an answer to its locator. -/
theorem exists_answer_of_warnings (h : Locator.of? (Locator.normalize b) = some locator)
    (hresolved : (resolveBlock sources state b).2.warnings = state.warnings) :
    ∃ code provenance, (sources.lookup state.cache locator).1 = .ok (code, provenance)
      ∧ (resolveBlock sources state b).1
        = sources.resolved (Locator.normalize b) locator code provenance := by
  rw [CodeSources.resolveBlock_of_some h] at hresolved ⊢
  dsimp only at hresolved ⊢
  cases hanswer : (sources.lookup state.cache locator).1 with
  | error kind =>
    rw [hanswer] at hresolved
    simp [CodeSources.settled] at hresolved
  | ok answer => exact ⟨answer.1, answer.2, rfl, rfl⟩

/-- An error of the system is an answer to no locator. -/
theorem exists_text_of_codeRead {found : Text × Provenance} {r : Except ReadError Text}
    (h : CodeSources.codeRead locator r = .ok found) : ∃ t, r = .ok t := by
  cases r with
  | ok t => exact ⟨t, rfl⟩
  | error e => contradiction

/-- A fence whose only entry is a locator has this locator. -/
theorem of?_normalize_of_metadata {raw : Text}
    (h : again.metadata = [⟨Locator.fileKey, some raw⟩]) :
    Locator.of? (Locator.normalize again) = Locator.parse? raw := by
  have hfile : again.hasMeta Locator.fileKey = true := by simp [CodeBlock.hasMeta, h]
  rw [Locator.normalize_of_hasMeta hfile, Locator.of?, CodeBlock.metaValue?, h]
  simp

/-- The same answer makes fences alike. -/
theorem resolvedAlike_of_answer (h : Locator.of? (Locator.normalize again) = some locator)
    (hanswer : (sources.lookup .empty locator).1 = .ok (code, provenance)) (b : CodeBlock) :
    ResolvedAlike sources (sources.resolved (Locator.normalize b) locator code provenance)
      again := by
  have hblock : resolveBlock sources .initial again
      = (sources.resolved (Locator.normalize again) locator code provenance,
          ⟨(sources.lookup .empty locator).2, []⟩) := by
    rw [CodeSources.resolveBlock_of_some h, ResolverState.initial]
    dsimp only
    rw [hanswer]
    rfl
  have hagain := resolveBlock_resolution sources locator code provenance again
  have hwritten := resolveBlock_resolution sources locator code provenance b
  refine ⟨by rw [hblock], ?_, ?_⟩
  · rw [hblock, hagain.content_eq, hwritten.content_eq]
  · rw [hblock, hagain.resolved_eq, hwritten.resolved_eq]

/-- A resolved fence is resolved alike by a fence with its locator and nothing read before, exactly
if the first path that was read and is a spelling of its path gave what its path gives. -/
theorem resolvedAlike_iff {earlier : List CodeBlock}
    (h : Locator.of? (Locator.normalize b) = some locator)
    (hresolved : (resolveBlock sources (resolveBlocks sources .initial earlier).2 b).2.warnings
      = (resolveBlocks sources .initial earlier).2.warnings)
    (hagain : Locator.of? (Locator.normalize again) = some locator) :
    ResolvedAlike sources (resolveBlock sources (resolveBlocks sources .initial earlier).2 b).1
        again
      ↔ ∀ path ∈ sources.readPath? b,
          ∀ first ∈ Path.firstSpelling? path (earlier.filterMap sources.readPath?),
            sources.tree.readText first = sources.tree.readText path := by
  obtain ⟨code, provenance, hanswer, hblock⟩ := exists_answer_of_warnings h hresolved
  have hread : sources.readPath? b = sources.projectPath? locator := by
    rw [CodeSources.readPath?, h, Option.bind_some]
  rw [hblock, hread]
  cases hpath : sources.projectPath? locator with
  | none =>
    obtain ⟨answer, hlookup⟩ := CodeSources.lookup_of_indexed hpath
    have hfresh : (sources.lookup .empty locator).1 = .ok (code, provenance) := by
      rw [← hanswer, hlookup, hlookup]
    exact iff_of_true (resolvedAlike_of_answer hagain hfresh b) (by simp)
  | some path =>
    have hfresh : (sources.lookup .empty locator).1
        = CodeSources.codeRead locator (sources.tree.readText path) := by
      rw [CodeSources.lookup_of_projectPath hpath, FileCache.fst_read, FileCache.get?_empty]
      rfl
    rw [CodeSources.lookup_of_projectPath hpath, FileCache.fst_read, get?_resolveBlocks_initial]
      at hanswer
    constructor
    · intro halike p hp first hfirst
      obtain rfl := Option.some.inj hp
      rw [hfirst, Option.map_some, Option.getD_some] at hanswer
      obtain ⟨_, _, hagainAnswer, -⟩ := exists_answer_of_warnings hagain halike.resolved
      obtain ⟨s, hs⟩ := exists_text_of_codeRead hanswer
      obtain ⟨t, ht⟩ := exists_text_of_codeRead (hfresh.symm.trans hagainAnswer)
      rw [hs, ht, FileTree.readText_eq_of_components_eq
        (Path.components_of_firstSpelling? hfirst) hs ht]
    · intro hsame
      refine resolvedAlike_of_answer hagain (hfresh.trans ?_) b
      rw [← hanswer]
      cases hfirst : Path.firstSpelling? path (earlier.filterMap sources.readPath?) with
      | none => rfl
      | some first =>
        rw [Option.map_some, Option.getD_some, hsame path rfl first hfirst]

end Again

/-- A resolved block records what its locator is written with.  This is read as the locator again
exactly if that reads back, and then a fence with it is resolved alike, with nothing read before,
unless the path was read under another spelling that gave something else. -/
theorem resolveBlock_source {sources : CodeSources} (earlier : List CodeBlock) {b : CodeBlock}
    {locator : Locator} (hlocator : Locator.of? (Locator.normalize b) = some locator)
    (hresolved : (resolveBlock sources (resolveBlocks sources .initial earlier).2 b).2.warnings
      = (resolveBlocks sources .initial earlier).2.warnings) :
    let block := (resolveBlock sources (resolveBlocks sources .initial earlier).2 b).1
    block.metaValue? sourceKey = some locator.render
      ∧ (Locator.parse? locator.render = some locator ↔ locator.ReadsBack)
      ∧ (locator.ReadsBack → ∀ again : CodeBlock,
        again.metadata = [⟨Locator.fileKey, some locator.render⟩] →
          (ResolvedAlike sources block again
            ↔ ∀ path ∈ sources.readPath? b,
                ∀ first ∈ Path.firstSpelling? path (earlier.filterMap sources.readPath?),
                  sources.tree.readText first = sources.tree.readText path)) := by
  obtain ⟨raw, -, hraw⟩ := Option.bind_eq_some_iff.mp hlocator
  obtain ⟨code, provenance, -, hblock⟩ := exists_answer_of_warnings hlocator hresolved
  refine ⟨?_, Locator.parse?_render_iff hraw, fun hback again hagain => ?_⟩
  · rw [hblock]
    exact (resolveBlock_resolution sources locator code provenance b).source_eq
  · refine resolvedAlike_iff hlocator hresolved ?_
    rw [of?_normalize_of_metadata hagain]
    exact (Locator.parse?_render_iff hraw).mpr hback

/-- A colon without a symbol is not recorded, and the fence without it is resolved alike. -/
theorem resolveBlock_source_colonBehindPath :
    let earlier := [fenceFor "util.py"]
    let b := fenceFor "util.py:"
    let block := (resolveBlock oneFile (resolveBlocks oneFile .initial earlier).2 b).1
    Locator.of? (Locator.normalize b) = some ⟨"util.py", none⟩
      ∧ (resolveBlock oneFile (resolveBlocks oneFile .initial earlier).2 b).2.warnings
        = (resolveBlocks oneFile .initial earlier).2.warnings
      ∧ block.metaValue? sourceKey = some "util.py".toList
      ∧ ResolvedAlike oneFile block (fenceFor "util.py") := by
  intro earlier b block
  have hlocator : Locator.of? (Locator.normalize b) = some ⟨"util.py", none⟩ := by decide +kernel
  have hresolved : (resolveBlock oneFile (resolveBlocks oneFile .initial earlier).2 b).2.warnings
      = (resolveBlocks oneFile .initial earlier).2.warnings := by decide +kernel
  obtain ⟨hsource, hread, halike⟩ := resolveBlock_source earlier hlocator hresolved
  refine ⟨hlocator, hresolved, hsource, ?_⟩
  refine (halike (hread.mp (by decide +kernel)) (fenceFor "util.py") rfl).mpr ?_
  intro path hpath first hfirst
  have hsame : earlier.filterMap oneFile.readPath? = (oneFile.readPath? b).toList := by
    decide +kernel
  rw [hsame, Option.mem_def.mp hpath] at hfirst
  obtain rfl := List.mem_singleton.mp (List.mem_of_find?_eq_some hfirst)
  rfl

/-- The path `a:b` is named with a colon behind it and recorded without, and then `b` is read as a
symbol. -/
theorem resolveBlock_source_colonInPath :
    let sources := CodeSources.ofFiles [("a:b", "x = 1\n")]
    (resolveBlock sources .initial (fenceFor "a:b:")).2.warnings = []
      ∧ (resolveBlock sources .initial (fenceFor "a:b:")).1.content = "x = 1\n".toList
      ∧ (resolveBlock sources .initial (fenceFor "a:b:")).1.metaValue? sourceKey
        = some "a:b".toList
      ∧ (resolveBlock sources .initial (fenceFor "a:b")).1 = fenceFor "a:b"
      ∧ (resolveBlock sources .initial (fenceFor "a:b")).2.warnings.length = 1 := by
  decide +kernel

end Weave
