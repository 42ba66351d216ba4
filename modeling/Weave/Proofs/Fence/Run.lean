import Weave.Pipeline

/-!
# Resolution as a run over the fences

`resolveAll` walks a document and carries the cache and the warnings from node to node.  All that
happens on the way happens at the code blocks, in document order: `resolveBlocks` is the same run
over the list of them.

* `allCodeBlocks_resolveAll` and `state_resolveAll` say that the code blocks of the result, the
  cache and the warnings are those of the run over the list.
* `frameAll_resolveAll` says that nothing else of the document changes, where the frame of a
  document is the document with its code blocks emptied.
-/

namespace Weave

mutual

/-- A node with every code block in it emptied. -/
def Node.frame : Node → Node
  | .codeBlock _ => .codeBlock default
  | .list ⟨ordered, start, items, span⟩ => .list ⟨ordered, start, frameItems items, span⟩
  | .blockquote children => .blockquote (frameAll children)
  | .component ⟨name, attributes, children⟩ => .component ⟨name, attributes, frameAll children⟩
  | .paragraph content => .paragraph content
  | .heading h => .heading h
  | .table alignments headers rows => .table alignments headers rows
  | .html html => .html html
  | .horizontalRule => .horizontalRule

/-- Some nodes with every code block in them emptied. -/
def frameAll : List Node → List Node
  | [] => []
  | n :: ns => n.frame :: frameAll ns

/-- List items with every code block in them emptied. -/
def frameItems : List ListItem → List ListItem
  | [] => []
  | ⟨children, variant, span⟩ :: items => ⟨frameAll children, variant, span⟩ :: frameItems items

end

/-- Resolves code blocks one after the other. -/
def resolveBlocks (sources : CodeSources) (state : ResolverState) :
    List CodeBlock → List CodeBlock × ResolverState
  | [] => ([], state)
  | b :: bs =>
    let (b, state) := resolveBlock sources state b
    let (bs, state) := resolveBlocks sources state bs
    (b :: bs, state)

theorem resolveBlocks_append (sources : CodeSources) (state : ResolverState)
    (bs bs' : List CodeBlock) :
    resolveBlocks sources state (bs ++ bs')
      = ((resolveBlocks sources state bs).1
            ++ (resolveBlocks sources (resolveBlocks sources state bs).2 bs').1,
          (resolveBlocks sources (resolveBlocks sources state bs).2 bs').2) := by
  induction bs generalizing state with
  | nil => rfl
  | cons b bs ih => simp only [List.cons_append, resolveBlocks, ih]

/-- Sources with these files in the working directory and nothing indexed. -/
def CodeSources.ofFiles (files : List (Text × Text)) : CodeSources :=
  { symbols := .empty
    solutions := .empty
    options := .standard
    search := fun _ => none
    tree := ⟨.directory none (files.map fun (name, text) => (name, .file (.ok text))), []⟩ }

/-! ## One block -/

section Block

variable {sources : CodeSources} {state : ResolverState} {b : CodeBlock}

theorem resolveBlock_of_none (h : Locator.of? (Locator.normalize b) = none) :
    resolveBlock sources state b = (b, state) := by
  simp only [resolveBlock, h]

theorem resolveBlock_of_error {locator : Locator} {kind : WarningKind} {cache : FileCache}
    (h : Locator.of? (Locator.normalize b) = some locator)
    (hlookup : sources.lookup state.cache locator = (.error kind, cache)) :
    resolveBlock sources state b = (b, ⟨cache, state.warnings ++ [⟨kind, b.span⟩]⟩) := by
  simp only [resolveBlock, h, hlookup]

theorem resolveBlock_of_ok {locator : Locator} {code : Text} {provenance : Provenance}
    {cache : FileCache} (h : Locator.of? (Locator.normalize b) = some locator)
    (hlookup : sources.lookup state.cache locator = (.ok (code, provenance), cache)) :
    resolveBlock sources state b
      = (sources.resolved (Locator.normalize b) locator code provenance,
          ⟨cache, state.warnings⟩) := by
  simp only [resolveBlock, h, hlookup]

end Block

/-! ## The walk is the run -/

mutual

/-- Resolving a node is running over its code blocks, within an unchanged frame. -/
theorem resolveNode_eq_run (sources : CodeSources) (state : ResolverState) (n : Node) :
    (resolveNode sources state n).1.codeBlocks
        = (resolveBlocks sources state n.codeBlocks).1 ∧
      (resolveNode sources state n).2 = (resolveBlocks sources state n.codeBlocks).2 ∧
      (resolveNode sources state n).1.frame = n.frame := by
  cases n with
  | codeBlock b => exact ⟨rfl, rfl, rfl⟩
  | list l =>
    obtain ⟨ordered, start, items, span⟩ := l
    obtain ⟨hb, hs, hf⟩ := resolveItems_eq_run sources state items
    exact ⟨hb, hs, by simp only [resolveNode, Node.frame, hf]⟩
  | blockquote children =>
    obtain ⟨hb, hs, hf⟩ := resolveAll_eq_run sources state children
    exact ⟨hb, hs, by simp only [resolveNode, Node.frame, hf]⟩
  | component c =>
    obtain ⟨name, attributes, children⟩ := c
    obtain ⟨hb, hs, hf⟩ := resolveAll_eq_run sources state children
    exact ⟨hb, hs, by simp only [resolveNode, Node.frame, hf]⟩
  | _ => exact ⟨rfl, rfl, rfl⟩

theorem resolveAll_eq_run (sources : CodeSources) (state : ResolverState) (ns : List Node) :
    allCodeBlocks (resolveAll sources state ns).1
        = (resolveBlocks sources state (allCodeBlocks ns)).1 ∧
      (resolveAll sources state ns).2 = (resolveBlocks sources state (allCodeBlocks ns)).2 ∧
      frameAll (resolveAll sources state ns).1 = frameAll ns := by
  cases ns with
  | nil => exact ⟨rfl, rfl, rfl⟩
  | cons n ns =>
    obtain ⟨hb, hs, hf⟩ := resolveNode_eq_run sources state n
    obtain ⟨hb', hs', hf'⟩ := resolveAll_eq_run sources (resolveNode sources state n).2 ns
    simp only [resolveAll, allCodeBlocks, frameAll, resolveBlocks_append]
    rw [hb, hb', hs', hf, hf', hs]
    exact ⟨rfl, rfl, rfl⟩

theorem resolveItems_eq_run (sources : CodeSources) (state : ResolverState)
    (items : List ListItem) :
    itemCodeBlocks (resolveItems sources state items).1
        = (resolveBlocks sources state (itemCodeBlocks items)).1 ∧
      (resolveItems sources state items).2
        = (resolveBlocks sources state (itemCodeBlocks items)).2 ∧
      frameItems (resolveItems sources state items).1 = frameItems items := by
  cases items with
  | nil => exact ⟨rfl, rfl, rfl⟩
  | cons item items =>
    obtain ⟨children, variant, span⟩ := item
    obtain ⟨hb, hs, hf⟩ := resolveAll_eq_run sources state children
    obtain ⟨hb', hs', hf'⟩ :=
      resolveItems_eq_run sources (resolveAll sources state children).2 items
    simp only [resolveItems, itemCodeBlocks, frameItems, resolveBlocks_append]
    rw [hb, hb', hs', hf, hf', hs]
    exact ⟨rfl, rfl, rfl⟩

end

/-- The code blocks of a resolved document are the resolved code blocks of the document. -/
theorem allCodeBlocks_resolveAll (sources : CodeSources) (state : ResolverState)
    (ns : List Node) :
    allCodeBlocks (resolveAll sources state ns).1
      = (resolveBlocks sources state (allCodeBlocks ns)).1 :=
  (resolveAll_eq_run sources state ns).1

/-- The cache and the warnings after a document are those after its code blocks. -/
theorem state_resolveAll (sources : CodeSources) (state : ResolverState) (ns : List Node) :
    (resolveAll sources state ns).2 = (resolveBlocks sources state (allCodeBlocks ns)).2 :=
  (resolveAll_eq_run sources state ns).2.1

/-- Resolution changes nothing but code blocks. -/
theorem frameAll_resolveAll (sources : CodeSources) (state : ResolverState) (ns : List Node) :
    frameAll (resolveAll sources state ns).1 = frameAll ns :=
  (resolveAll_eq_run sources state ns).2.2

end Weave
