import Weave.Proofs.Fence.Cache
import Weave.Proofs.Fence.Fate
import Weave.Proofs.Pipeline.Commutation
import Weave.Proofs.Text.Cut

/-!
# Running again

A transformed document is transformed again.  Lists and sections are components by then and stay
as they are.  A fence that was resolved has no locator left, so it stays too, unless its locator
stood in a `file` entry beside a compact language word: the entry goes, and the word is a locator
in the second run.

A fence that was left unresolved is looked up again, with fewer files read in front of it.  The
system may find another error for it but never a text with its symbol: `Rereads` says how what the
second run has read compares to what the first one has.

`transform_transform` is the statement about documents in which no fence with both forms of a
locator was resolved, and `bothForms` a document with one that was.
-/

namespace Weave

/-! ## Blocks without a locator -/

namespace Locator

/-- Whether a language word is a compact form: behind its first colon stands a locator. -/
def isCompact (word : Option Text) : Bool :=
  match word.bind (Text.splitFirst? ":") with
  | some (language, rest) => !(language.isEmpty || rest.isEmpty)
  | none => false

/-- Whether a block has both forms of a locator. -/
def isDouble (b : CodeBlock) : Bool := b.hasMeta fileKey && isCompact b.language

theorem splitFirst?_colon_eq_some_iff {t before after : Text} :
    Text.splitFirst? ":" t = some (before, after) ↔ t = before ++ ':' :: after ∧ ':' ∉ before :=
  Text.splitFirst?_singleton_eq_some_iff (c := ':')

theorem normalize_of_not_isCompact {b : CodeBlock} (h : isCompact b.language = false) :
    normalize b = b := by
  unfold normalize
  split
  · rfl
  · unfold isCompact at h
    split
    · rename_i language rest hsplit
      rw [hsplit, Bool.not_eq_eq_eq_not, Bool.not_false] at h
      rw [if_pos h]
    · rfl

/-- The language word in front of the colon is no compact form. -/
theorem isCompact_language_normalize {b : CodeBlock} (h : b.hasMeta fileKey = false) :
    isCompact (normalize b).language = false := by
  cases hcompact : isCompact b.language with
  | false => rwa [normalize_of_not_isCompact hcompact]
  | true =>
    unfold isCompact at hcompact
    split at hcompact
    · rename_i language rest hsplit
      have hparts : (language.isEmpty || rest.isEmpty) = false := by simpa using hcompact
      have hnormalize : (normalize b).language = some language := by
        unfold normalize
        rw [if_neg (by simp [h]), hsplit]
        dsimp only
        rw [if_neg (by simp [hparts])]
        rfl
      obtain ⟨word, -, hword⟩ := Option.bind_eq_some_iff.mp hsplit
      have hcolon : ':' ∉ language := (splitFirst?_colon_eq_some_iff.mp hword).2
      rw [hnormalize, isCompact, Option.bind_some]
      split
      · rename_i language' rest' hsplit'
        have hlanguage := (splitFirst?_colon_eq_some_iff.mp hsplit').1
        simp [hlanguage] at hcolon
      · rfl
    · contradiction

end Locator

/-- A resolved block has no locator, unless the written one had both forms. -/
theorem of?_normalize_resolved {sources : CodeSources} {b : CodeBlock} {locator : Locator}
    (h : Locator.isDouble b = false) (code : Text) (provenance : Provenance) :
    Locator.of? (Locator.normalize
      (sources.resolved (Locator.normalize b) locator code provenance)) = none := by
  have hresolution := resolveBlock_resolution sources locator code provenance b
  have hcompact : Locator.isCompact (Locator.normalize b).language = false := by
    cases hfile : b.hasMeta Locator.fileKey with
    | false => exact Locator.isCompact_language_normalize hfile
    | true =>
      rw [Locator.normalize_of_hasMeta hfile]
      simpa [Locator.isDouble, hfile] using h
  have hnone : (sources.resolved (Locator.normalize b) locator code provenance).metadata.find?
      (·.key == Locator.fileKey) = none :=
    List.find?_eq_none.mpr fun e he => by simpa using hresolution.no_file e he
  rw [Locator.normalize_of_not_isCompact (hresolution.language_eq ▸ hcompact), Locator.of?,
    CodeBlock.metaValue?, hnone]
  rfl

/-! ## What the second run has read -/

/-- Everything that is kept for a path is what a spelling of it gives. -/
def FileCache.IsSound (cache : FileCache) (tree : FileTree) : Prop :=
  ∀ p, ∀ r ∈ cache.get? p, ∃ q, Path.components q = Path.components p ∧ tree.readText q = r

theorem FileCache.isSound_read {cache : FileCache} {tree : FileTree} (h : cache.IsSound tree)
    (path : Text) : (cache.read tree path).2.IsSound tree := by
  intro p r hr
  rw [get?_read] at hr
  cases hp : cache.get? p with
  | some r' =>
    rw [hp, Option.some_or] at hr
    exact h p r (hp.trans hr)
  | none =>
    rw [hp, Option.none_or] at hr
    split at hr
    · rename_i hspelling
      exact ⟨path, hspelling, Option.some.inj hr⟩
    · contradiction

/-- What the second run has read, `again`, at the fence in front of which the first one had read
`first`: nothing but what the first one had, and all the failures. -/
structure Rereads (tree : FileTree) (first again : FileCache) : Prop where
  sound_first : first.IsSound tree
  sound_again : again.IsSound tree
  unread : ∀ p, first.get? p = none → again.get? p = none
  failed : ∀ p e, first.get? p = some (.error e) → again.get? p = some (.error e)

namespace Rereads

variable {tree : FileTree} {first again : FileCache}

theorem empty (tree : FileTree) : Rereads tree .empty .empty where
  sound_first := fun _ _ h => nomatch h
  sound_again := fun _ _ h => nomatch h
  unread := fun _ h => h
  failed := fun _ _ h => nomatch h

/-- What the first run reads from a path and the second one, where both read it. -/
theorem readings (h : Rereads tree first again) (path : Text) :
    (∀ s t, (first.get? path).getD (tree.readText path) = .ok s →
        (again.get? path).getD (tree.readText path) = .ok t → s = t)
      ∧ ∀ e, (first.get? path).getD (tree.readText path) = .error e →
          (again.get? path).getD (tree.readText path) = .error e := by
  have hsource : ∀ cache : FileCache, cache.IsSound tree →
      ∃ q, Path.components q = Path.components path ∧
        tree.readText q = (cache.get? path).getD (tree.readText path) := by
    intro cache hsound
    cases hkept : cache.get? path with
    | none => exact ⟨path, rfl, rfl⟩
    | some r => exact hsound path r hkept
  constructor
  · intro s t hs ht
    obtain ⟨p, hp, hread⟩ := hsource first h.sound_first
    obtain ⟨q, hq, hread'⟩ := hsource again h.sound_again
    exact FileTree.readText_eq_of_components_eq (hp.trans hq.symm) (hread.trans hs)
      (hread'.trans ht)
  · intro e he
    cases hkept : first.get? path with
    | none =>
      rw [hkept] at he
      rw [h.unread path hkept]
      exact he
    | some r =>
      obtain rfl : r = .error e := by rwa [hkept] at he
      rw [h.failed path e hkept]
      rfl

/-- A path that only the first run reads: its fence was resolved, so it was not a failure. -/
theorem read_first (h : Rereads tree first again) {path text : Text}
    (htext : (first.get? path).getD (tree.readText path) = .ok text) :
    Rereads tree (first.read tree path).2 again where
  sound_first := FileCache.isSound_read h.sound_first path
  sound_again := h.sound_again
  unread p hp := by
    rw [FileCache.get?_read, Option.or_eq_none_iff] at hp
    exact h.unread p hp.1
  failed p e hp := by
    rw [FileCache.get?_read] at hp
    cases hkept : first.get? p with
    | some r =>
      rw [hkept, Option.some_or] at hp
      exact h.failed p e (hkept.trans hp)
    | none =>
      rw [hkept, Option.none_or] at hp
      split at hp
      · rename_i hspelling
        rw [first.get?_congr hspelling, hkept] at htext
        rw [Option.some.inj hp] at htext
        contradiction
      · contradiction

/-- A path that both runs read. -/
theorem read_both (h : Rereads tree first again) (path : Text) :
    Rereads tree (first.read tree path).2 (again.read tree path).2 where
  sound_first := FileCache.isSound_read h.sound_first path
  sound_again := FileCache.isSound_read h.sound_again path
  unread p hp := by
    rw [FileCache.get?_read, Option.or_eq_none_iff] at hp ⊢
    exact ⟨h.unread p hp.1, hp.2⟩
  failed p e hp := by
    rw [FileCache.get?_read] at hp ⊢
    cases hkept : first.get? p with
    | some r =>
      rw [hkept, Option.some_or] at hp
      rw [h.failed p e (hkept.trans hp), Option.some_or]
    | none =>
      rw [hkept, Option.none_or] at hp
      rw [h.unread p hkept, Option.none_or, hp]

end Rereads

/-! ## Fences again -/

section Fences

variable {sources : CodeSources}

/-- A locator that leads to no code in the first run leads to none in the second one. -/
theorem codeRead_again {locator : Locator} {r r' : Except ReadError Text} {kind : WarningKind}
    (htexts : ∀ s t, r = .ok s → r' = .ok t → s = t) (hfailed : ∀ e, r = .error e → r' = .error e)
    (h : CodeSources.codeRead locator r = .error kind) :
    ∃ kind', CodeSources.codeRead locator r' = .error kind' := by
  cases r with
  | error e => exact ⟨kind, by rw [hfailed e rfl, h]⟩
  | ok s =>
    cases r' with
    | error e => exact ⟨_, rfl⟩
    | ok t => exact ⟨kind, by rw [← htexts s t rfl rfl, h]⟩

/-- A look-up that led to code is not repeated, and what it read was a text. -/
theorem lookup_again_of_ok {first again cache : FileCache} {locator : Locator}
    {found : Text × Provenance} (h : Rereads sources.tree first again)
    (hlookup : sources.lookup first locator = (.ok found, cache)) :
    Rereads sources.tree cache again := by
  cases hpath : sources.projectPath? locator with
  | none =>
    obtain ⟨answer, hanswer⟩ := CodeSources.lookup_of_indexed hpath
    rw [hanswer, Prod.mk.injEq] at hlookup
    exact hlookup.2 ▸ h
  | some path =>
    rw [CodeSources.lookup_of_projectPath hpath, Prod.mk.injEq, FileCache.fst_read] at hlookup
    obtain ⟨hcode, rfl⟩ := hlookup
    cases hread : (first.get? path).getD (sources.tree.readText path) with
    | ok text => exact h.read_first hread
    | error e =>
      rw [hread, CodeSources.codeRead] at hcode
      contradiction

/-- A look-up that led to no code leads to none when it is repeated. -/
theorem lookup_again_of_error {first again cache : FileCache} {locator : Locator}
    {kind : WarningKind} (h : Rereads sources.tree first again)
    (hlookup : sources.lookup first locator = (.error kind, cache)) :
    ∃ kind' cache', sources.lookup again locator = (.error kind', cache') ∧
      Rereads sources.tree cache cache' := by
  cases hpath : sources.projectPath? locator with
  | none =>
    obtain ⟨answer, hanswer⟩ := CodeSources.lookup_of_indexed hpath
    rw [hanswer, Prod.mk.injEq] at hlookup
    obtain ⟨rfl, rfl⟩ := hlookup
    exact ⟨kind, again, hanswer again, h⟩
  | some path =>
    rw [CodeSources.lookup_of_projectPath hpath, Prod.mk.injEq, FileCache.fst_read] at hlookup
    obtain ⟨hcode, rfl⟩ := hlookup
    obtain ⟨htexts, hfailed⟩ := h.readings path
    obtain ⟨kind', hcode'⟩ := codeRead_again htexts hfailed hcode
    refine ⟨kind', _, ?_, h.read_both path⟩
    rw [CodeSources.lookup_of_projectPath hpath, FileCache.fst_read, hcode']

/-- A block that was resolved from its `file` entry is another one: it has no such entry. -/
theorem resolved_ne {b : CodeBlock} (h : b.hasMeta Locator.fileKey = true) (locator : Locator)
    (code : Text) (provenance : Provenance) :
    sources.resolved (Locator.normalize b) locator code provenance ≠ b := by
  intro heq
  obtain ⟨e, he, hkey⟩ := List.any_eq_true.mp h
  have hresolution := resolveBlock_resolution sources locator code provenance b
  rw [heq] at hresolution
  exact hresolution.no_file e he (by simpa using hkey)

/-- A block is the same after both runs: resolved in the first one, or looked up in vain in both. -/
theorem resolveBlock_again {state state' : ResolverState} {b : CodeBlock}
    (h : Rereads sources.tree state.cache state'.cache)
    (hdouble : (resolveBlock sources state b).1 ≠ b → Locator.isDouble b = false) :
    (resolveBlock sources state' (resolveBlock sources state b).1).1
        = (resolveBlock sources state b).1 ∧
      Rereads sources.tree (resolveBlock sources state b).2.cache
        (resolveBlock sources state' (resolveBlock sources state b).1).2.cache := by
  cases hlocator : Locator.of? (Locator.normalize b) with
  | none =>
    rw [resolveBlock_of_none hlocator, resolveBlock_of_none hlocator]
    exact ⟨rfl, h⟩
  | some locator =>
    rcases hlookup : sources.lookup state.cache locator with ⟨answer, cache⟩
    cases answer with
    | error kind =>
      obtain ⟨kind', cache', hlookup', hrereads⟩ := lookup_again_of_error h hlookup
      rw [resolveBlock_of_error hlocator hlookup, resolveBlock_of_error hlocator hlookup']
      exact ⟨rfl, hrereads⟩
    | ok found =>
      obtain ⟨code, provenance⟩ := found
      rw [resolveBlock_of_ok hlocator hlookup] at hdouble ⊢
      have hsingle : Locator.isDouble b = false := by
        cases hfile : b.hasMeta Locator.fileKey with
        | false => rw [Locator.isDouble, hfile, Bool.false_and]
        | true => exact hdouble (resolved_ne hfile locator code provenance)
      rw [resolveBlock_of_none (of?_normalize_resolved hsingle code provenance)]
      exact ⟨rfl, lookup_again_of_ok h hlookup⟩

/-- Blocks are the same after both runs, if none with both forms of a locator was resolved.  The
induction follows the first run; what both have read is related in front of every block. -/
theorem resolveBlocks_again {state state' : ResolverState} {bs : List CodeBlock}
    (h : Rereads sources.tree state.cache state'.cache)
    (hdouble : ∀ p ∈ bs.zip (resolveBlocks sources state bs).1, p.2 ≠ p.1 →
      Locator.isDouble p.1 = false) :
    (resolveBlocks sources state' (resolveBlocks sources state bs).1).1
      = (resolveBlocks sources state bs).1 := by
  induction bs generalizing state state' with
  | nil => rfl
  | cons b bs ih =>
    simp only [resolveBlocks, List.zip_cons_cons, List.forall_mem_cons] at hdouble ⊢
    obtain ⟨hblock, hrereads⟩ := resolveBlock_again h hdouble.1
    rw [hblock, ih hrereads hdouble.2]

end Fences

/-! ## The document again -/

/-- Resolving fences again changes nothing, if none with both forms of a locator was resolved. -/
theorem resolveAll_again {sources : CodeSources} {document : Document}
    (h : ∀ p ∈ (allCodeBlocks document).zip
        (allCodeBlocks (resolveAll sources .initial document).1),
      p.2 ≠ p.1 → Locator.isDouble p.1 = false) :
    (resolveAll sources .initial (resolveAll sources .initial document).1).1
      = (resolveAll sources .initial document).1 := by
  refine eq_of_frameAll_eq (frameAll_resolveAll ..) ?_
  rw [allCodeBlocks_resolveAll] at h
  rw [allCodeBlocks_resolveAll, allCodeBlocks_resolveAll]
  exact resolveBlocks_again (Rereads.empty sources.tree) h

/-- A transformed document stays as it is when it is transformed again, if no fence with both forms
of a locator was resolved. -/
theorem transform_transform {sources : CodeSources} {source : Text} {document : Document}
    (h : ∀ p ∈ (allCodeBlocks document).zip
        (allCodeBlocks (transform sources source document).document),
      p.2 ≠ p.1 → Locator.isDouble p.1 = false) :
    (transform sources source (transform sources source document).document).document
      = (transform sources source document).document := by
  have hblocks : allCodeBlocks (transform sources source document).document
      = allCodeBlocks (resolveAll sources .initial document).1 := by
    rw [transform]
    exact (allCodeBlocks_wrapSections ..).trans (allCodeBlocks_restructureAll ..)
  rw [hblocks] at h
  -- The second resolution moves in front of the lists and the sections, next to the first one; then
  -- each pass stands beside its own repetition.
  simp only [transform]
  rw [resolveAll_pass (keepsFences_wrapSections ..),
    resolveAll_pass (keepsFences_restructureLists source), resolveAll_again h,
    ← wrapSections_restructureLists, restructureLists_restructureLists,
    wrapSections_wrapSections]

/-- Two files for fences to name. -/
def twoFiles : CodeSources := .ofFiles [("a.py", "a = 1\n"), ("b.py", "b = 2\n")]

/-- A compact fence that is resolved, and one with both forms of a locator that is not. -/
def missingFile : Document :=
  [.codeBlock ⟨some "python:a.py", [], [], ⟨0, 19⟩⟩,
    .codeBlock ⟨some "python:b.py", [⟨"file", some "missing.py"⟩], [], ⟨19, 54⟩⟩]

theorem transform_transform_missingFile :
    (∀ p ∈ (allCodeBlocks missingFile).zip
        (allCodeBlocks (transform twoFiles [] missingFile).document),
      p.2 ≠ p.1 → Locator.isDouble p.1 = false) ∧
      (transform twoFiles [] (transform twoFiles [] missingFile).document).document
        = (transform twoFiles [] missingFile).document := by
  have hdouble : ∀ p ∈ (allCodeBlocks missingFile).zip
      (allCodeBlocks (transform twoFiles [] missingFile).document),
      p.2 ≠ p.1 → Locator.isDouble p.1 = false := by
    decide +kernel
  exact ⟨hdouble, transform_transform hdouble⟩

/-- A fence with both forms of a locator. -/
def bothForms : Document :=
  [.codeBlock ⟨some "python:b.py", [⟨"file", some "a.py"⟩], [], ⟨0, 28⟩⟩]

/-- The fence is resolved from its `file` entry first, and from its language word when it is
transformed again. -/
theorem transform_transform_bothForms :
    (transform twoFiles [] (transform twoFiles [] bothForms).document).document
      ≠ (transform twoFiles [] bothForms).document := by
  intro h
  have hblocks : allCodeBlocks
        (transform twoFiles [] (transform twoFiles [] bothForms).document).document
      ≠ allCodeBlocks (transform twoFiles [] bothForms).document := by
    decide +kernel
  exact hblocks (congrArg allCodeBlocks h)

end Weave
