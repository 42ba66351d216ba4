import Weave.Proofs.Document.Metadata
import Weave.Proofs.Fence.Run
import Weave.Proofs.Text.Cut

/-!
# What becomes of a fence

Resolution meets the code blocks of a document in order, and each meets one of three fates.
`Resolves` has one constructor for each: a block without a locator stays, a block whose look-up
fails stays and leaves a warning about itself, and a block whose look-up succeeds takes the code
that was found.  The three exclude each other, as they ask for different answers of the same
look-up.

`Locator.trim_of_parse?` says what a locator was read from: the text that it is written with, or
that and a colon.  `Resolution` says what a resolved block keeps of the written one.
`resolveBlock_resolution` proves it, and `resolves_resolveBlocks` follows the run.
`resolveAll_resolves` is the statement about documents: within an unchanged frame the code blocks
meet their fates in document order, and the new warnings are those of the blocks left unresolved, in
the same order.
-/

namespace Weave

/-- An entry that resolution does not write. -/
def MetaEntry.isAuthored (e : MetaEntry) : Bool :=
  e.key != Locator.fileKey && e.key != sourceKey && e.key != resolvedKey

/-- What resolution makes of a block whose locator leads to some code. -/
structure Resolution (sources : CodeSources) (locator : Locator) (code : Text)
    (provenance : Provenance) (written block : CodeBlock) : Prop where
  span_eq : block.span = written.span
  language_eq : block.language = (Locator.normalize written).language
  content_eq : block.content = sources.finish code
  authored_eq :
    block.metadata.filter MetaEntry.isAuthored = written.metadata.filter MetaEntry.isAuthored
  no_file : ∀ e ∈ block.metadata, e.key ≠ Locator.fileKey
  source_eq : block.metaValue? sourceKey = some locator.render
  resolved_eq : block.metaValue? resolvedKey = some provenance.name

/-- `Resolves sources cache written blocks warnings`: with the files in `cache` read, the written
blocks become `blocks` one after the other and leave `warnings`. -/
inductive Resolves (sources : CodeSources) :
    FileCache → List CodeBlock → List CodeBlock → List Warning → Prop where
  | nil {cache : FileCache} : Resolves sources cache [] [] []
  /-- A block without a locator is untouched. -/
  | untouched {cache : FileCache} {b : CodeBlock} {written blocks : List CodeBlock}
      {warnings : List Warning} (hnone : Locator.of? (Locator.normalize b) = none)
      (later : Resolves sources cache written blocks warnings) :
      Resolves sources cache (b :: written) (b :: blocks) warnings
  /-- A block whose look-up fails is untouched, and one warning carries its span. -/
  | unresolved {cache cache' : FileCache} {b : CodeBlock} {locator : Locator} {kind : WarningKind}
      {written blocks : List CodeBlock} {warnings : List Warning}
      (hsome : Locator.of? (Locator.normalize b) = some locator)
      (hlookup : sources.lookup cache locator = (.error kind, cache'))
      (later : Resolves sources cache' written blocks warnings) :
      Resolves sources cache (b :: written) (b :: blocks) (⟨kind, b.span⟩ :: warnings)
  /-- A block whose look-up succeeds is resolved without a warning. -/
  | resolved {cache cache' : FileCache} {b b' : CodeBlock} {locator : Locator} {code : Text}
      {provenance : Provenance} {written blocks : List CodeBlock} {warnings : List Warning}
      (hsome : Locator.of? (Locator.normalize b) = some locator)
      (hlookup : sources.lookup cache locator = (.ok (code, provenance), cache'))
      (resolution : Resolution sources locator code provenance b b')
      (later : Resolves sources cache' written blocks warnings) :
      Resolves sources cache (b :: written) (b' :: blocks) warnings

/-! ## Locators -/

/-- A locator has a path, and it is read from the text that it is written with, unless this text
ended in a colon without a symbol, which is not written. -/
theorem Locator.trim_of_parse? {raw : Text} {locator : Locator} (h : parse? raw = some locator) :
    locator.path ≠ []
      ∧ (raw.trim = locator.render
        ∨ locator.symbol = none ∧ raw.trim = locator.path ++ [':']) := by
  unfold parse? at h
  dsimp only at h
  split at h
  · contradiction
  rename_i hne
  rw [List.isEmpty_iff] at hne
  split at h
  next path symbol hsplit =>
    obtain ⟨hraw, -⟩ := (Text.splitLast?_singleton_eq_some_iff (c := ':')).mp hsplit
    split at h
    next =>
      obtain rfl := Option.some.inj h
      exact ⟨hne, .inl rfl⟩
    next hpath =>
      rw [List.isEmpty_iff, not_or] at hpath
      split at h
      next hsymbol =>
        rw [List.isEmpty_iff] at hsymbol
        subst hsymbol
        obtain rfl := Option.some.inj h
        exact ⟨hpath.1, .inr ⟨rfl, hraw⟩⟩
      next =>
        obtain rfl := Option.some.inj h
        refine ⟨hpath.1, .inl ?_⟩
        rw [hraw, render]
        simp
  next =>
    obtain rfl := Option.some.inj h
    exact ⟨hne, .inl rfl⟩

theorem Locator.normalize_of_hasMeta {b : CodeBlock} (h : b.hasMeta fileKey = true) :
    normalize b = b := by
  rw [normalize, if_pos h]

/-! ## One block -/

/-- Normalization leaves a block alone, or splits its language word at the first colon. -/
theorem Locator.normalize_cases (b : CodeBlock) :
    normalize b = b
      ∨ ∃ language rest, b.language = some (language ++ ':' :: rest) ∧ ':' ∉ language
          ∧ language ≠ []
          ∧ normalize b = { b with language := some language }.setMeta fileKey rest := by
  unfold normalize
  split
  · exact .inl rfl
  · split
    · rename_i language rest hsplit
      split
      · exact .inl rfl
      · rename_i hparts
        obtain ⟨word, hword, hsplit⟩ := Option.bind_eq_some_iff.mp hsplit
        obtain ⟨rfl, hcolon⟩ := Text.splitFirst?_singleton_eq_some_iff.mp hsplit
        rw [Bool.or_eq_true, not_or] at hparts
        exact .inr ⟨language, rest, hword, hcolon, by simpa using hparts.1, rfl⟩
    · exact .inl rfl

theorem span_normalize (b : CodeBlock) : (Locator.normalize b).span = b.span := by
  rcases Locator.normalize_cases b with h | ⟨language, rest, -, -, -, h⟩
  · rw [h]
  · rw [h]
    rfl

/-- Normalization keeps the authored entries. -/
theorem filter_isAuthored_normalize (b : CodeBlock) :
    (Locator.normalize b).metadata.filter MetaEntry.isAuthored
      = b.metadata.filter MetaEntry.isAuthored := by
  rcases Locator.normalize_cases b with h | ⟨language, rest, -, -, -, h⟩
  · rw [h]
  · rw [h]
    exact CodeBlock.filter_setEntry (fun _ => rfl) _ _

/-- The entries that are removed are not authored. -/
theorem filter_isAuthored_removeMeta (b : CodeBlock) :
    (b.removeMeta Locator.fileKey).metadata.filter MetaEntry.isAuthored
      = b.metadata.filter MetaEntry.isAuthored := by
  rw [CodeBlock.removeMeta, List.filter_filter]
  congr 1
  funext e
  simp only [MetaEntry.isAuthored]
  cases e.key != Locator.fileKey <;> simp

/-- A resolved block keeps its span and its authored entries, has no `file` entry, and names its
locator and where its code comes from. -/
theorem resolveBlock_resolution (sources : CodeSources) (locator : Locator) (code : Text)
    (provenance : Provenance) (b : CodeBlock) :
    Resolution sources locator code provenance b
      (sources.resolved (Locator.normalize b) locator code provenance) where
  span_eq := span_normalize b
  language_eq := rfl
  content_eq := rfl
  authored_eq := by
    have hremoved := filter_isAuthored_removeMeta
      { Locator.normalize b with content := sources.finish code }
    simp only [CodeSources.resolved, CodeBlock.setMeta]
    rw [CodeBlock.filter_setEntry fun _ => rfl, CodeBlock.filter_setEntry fun _ => rfl, hremoved]
    exact filter_isAuthored_normalize b
  no_file := by
    intro e he hkey
    rcases CodeBlock.mem_setEntry he with rfl | he
    · exact absurd hkey (show resolvedKey ≠ Locator.fileKey by decide)
    · rcases CodeBlock.mem_setEntry he with rfl | he
      · exact absurd hkey (show sourceKey ≠ Locator.fileKey by decide)
      · rw [CodeBlock.removeMeta, List.mem_filter] at he
        simp [hkey] at he
  source_eq := by
    rw [CodeSources.resolved, CodeBlock.metaValue?_setMeta_of_ne _ (by decide),
      CodeBlock.metaValue?_setMeta_self]
  resolved_eq := by
    rw [CodeSources.resolved, CodeBlock.metaValue?_setMeta_self]

/-! ## The run -/

/-- A run over code blocks leads each of them to its fate.  The induction follows the run; the
state in front of a block is what its look-up sees. -/
theorem resolves_resolveBlocks (sources : CodeSources) (state : ResolverState)
    (written : List CodeBlock) :
    ∃ warnings, (resolveBlocks sources state written).2.warnings = state.warnings ++ warnings ∧
      Resolves sources state.cache written (resolveBlocks sources state written).1 warnings := by
  induction written generalizing state with
  | nil => exact ⟨[], (List.append_nil _).symm, .nil⟩
  | cons b written ih =>
    simp only [resolveBlocks]
    cases hlocator : Locator.of? (Locator.normalize b) with
    | none =>
      obtain ⟨warnings, hw, later⟩ := ih state
      simp only [resolveBlock, hlocator]
      exact ⟨warnings, hw, .untouched hlocator later⟩
    | some locator =>
      rcases hlookup : sources.lookup state.cache locator with ⟨answer, cache'⟩
      cases answer with
      | error kind =>
        obtain ⟨warnings, hw, later⟩ := ih ⟨cache', state.warnings ++ [⟨kind, b.span⟩]⟩
        simp only [resolveBlock, hlocator, hlookup]
        exact ⟨⟨kind, b.span⟩ :: warnings, by simpa using hw,
          .unresolved hlocator hlookup later⟩
      | ok found =>
        obtain ⟨code, provenance⟩ := found
        obtain ⟨warnings, hw, later⟩ := ih { state with cache := cache' }
        simp only [resolveBlock, hlocator, hlookup]
        exact ⟨warnings, hw, .resolved hlocator hlookup
          (resolveBlock_resolution sources locator code provenance b) later⟩

/-- Resolving a document changes its code blocks only, and each of them, in document order, meets
its fate.  The new warnings are those of the blocks that were left unresolved, in the same
order. -/
theorem resolveAll_resolves (sources : CodeSources) (state : ResolverState) (nodes : List Node) :
    frameAll (resolveAll sources state nodes).1 = frameAll nodes ∧
      ∃ warnings, (resolveAll sources state nodes).2.warnings = state.warnings ++ warnings ∧
        Resolves sources state.cache (allCodeBlocks nodes)
          (allCodeBlocks (resolveAll sources state nodes).1) warnings := by
  rw [allCodeBlocks_resolveAll, state_resolveAll]
  exact ⟨frameAll_resolveAll sources state nodes, resolves_resolveBlocks sources state _⟩

end Weave
