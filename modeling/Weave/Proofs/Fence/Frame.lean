import Weave.Proofs.Fence.Run

/-!
# Documents as frames and code blocks

Resolution sees the code blocks of a document and nothing of its frame, and a document is its frame
together with its code blocks.  `refillAll` puts the two together again, so documents with the same
frame and the same code blocks are the same (`eq_of_frameAll_eq`).

A pass that keeps the code blocks in their order, and does with a frame what it does with a document
(`KeepsFences`), may come before resolution or after it: `resolveAll_pass`.
-/

namespace Weave

/-! ## Filling a frame -/

mutual

/-- The node with its code blocks replaced by the first ones of a list, and the rest of the list. -/
def Node.refill (blocks : List CodeBlock) : Node → Node × List CodeBlock
  | .codeBlock b => (.codeBlock (blocks.head?.getD b), blocks.tail)
  | .list ⟨ordered, start, items, span⟩ =>
    let (items, blocks) := refillItems blocks items
    (.list ⟨ordered, start, items, span⟩, blocks)
  | .blockquote children =>
    let (children, blocks) := refillAll blocks children
    (.blockquote children, blocks)
  | .component ⟨name, attributes, children⟩ =>
    let (children, blocks) := refillAll blocks children
    (.component ⟨name, attributes, children⟩, blocks)
  | .paragraph content => (.paragraph content, blocks)
  | .heading h => (.heading h, blocks)
  | .table alignments headers rows => (.table alignments headers rows, blocks)
  | .html html => (.html html, blocks)
  | .horizontalRule => (.horizontalRule, blocks)

/-- Some nodes with their code blocks replaced by the first ones of a list, and the rest of the
list. -/
def refillAll (blocks : List CodeBlock) : List Node → List Node × List CodeBlock
  | [] => ([], blocks)
  | n :: ns =>
    let (n, blocks) := n.refill blocks
    let (ns, blocks) := refillAll blocks ns
    (n :: ns, blocks)

/-- List items with their code blocks replaced by the first ones of a list, and the rest of the
list. -/
def refillItems (blocks : List CodeBlock) : List ListItem → List ListItem × List CodeBlock
  | [] => ([], blocks)
  | ⟨children, variant, span⟩ :: items =>
    let (children, blocks) := refillAll blocks children
    let (items, blocks) := refillItems blocks items
    (⟨children, variant, span⟩ :: items, blocks)

end

mutual

/-- The frame of a node filled with its code blocks is the node. -/
theorem refill_frame (n : Node) (rest : List CodeBlock) :
    n.frame.refill (n.codeBlocks ++ rest) = (n, rest) := by
  cases n with
  | list l =>
    obtain ⟨ordered, start, items, span⟩ := l
    simp only [Node.frame, Node.refill, Node.codeBlocks, refillItems_frameItems items rest]
  | blockquote children =>
    simp only [Node.frame, Node.refill, Node.codeBlocks, refillAll_frameAll children rest]
  | component c =>
    obtain ⟨name, attributes, children⟩ := c
    simp only [Node.frame, Node.refill, Node.codeBlocks, refillAll_frameAll children rest]
  | _ => rfl

theorem refillAll_frameAll (ns : List Node) (rest : List CodeBlock) :
    refillAll (allCodeBlocks ns ++ rest) (frameAll ns) = (ns, rest) := by
  cases ns with
  | nil => rfl
  | cons n ns =>
    simp only [allCodeBlocks, frameAll, refillAll, List.append_assoc, refill_frame n,
      refillAll_frameAll ns rest]

theorem refillItems_frameItems (items : List ListItem) (rest : List CodeBlock) :
    refillItems (itemCodeBlocks items ++ rest) (frameItems items) = (items, rest) := by
  cases items with
  | nil => rfl
  | cons item items =>
    obtain ⟨children, variant, span⟩ := item
    simp only [itemCodeBlocks, frameItems, refillItems, List.append_assoc,
      refillAll_frameAll children, refillItems_frameItems items rest]

end

/-- Nodes are the same if they have the same frame and the same code blocks. -/
theorem eq_of_frameAll_eq {ns ms : List Node} (hframe : frameAll ns = frameAll ms)
    (hblocks : allCodeBlocks ns = allCodeBlocks ms) : ns = ms := by
  have hns := refillAll_frameAll ns []
  have hms := refillAll_frameAll ms []
  rw [hframe, hblocks, hms] at hns
  exact (congrArg Prod.fst hns).symm

/-! ## Passes beside resolution -/

/-- A pass that keeps the code blocks in their order, and does with a frame what it does with the
document. -/
structure KeepsFences (pass : List Node → List Node) : Prop where
  allCodeBlocks_eq : ∀ ns, allCodeBlocks (pass ns) = allCodeBlocks ns
  frameAll_eq : ∀ ns, frameAll (pass ns) = pass (frameAll ns)

/-- Resolution may come before such a pass or after it. -/
theorem resolveAll_pass {pass : List Node → List Node} (h : KeepsFences pass)
    (sources : CodeSources) (state : ResolverState) (ns : List Node) :
    resolveAll sources state (pass ns)
      = (pass (resolveAll sources state ns).1, (resolveAll sources state ns).2) := by
  refine Prod.ext (eq_of_frameAll_eq ?_ ?_) ?_
  · rw [frameAll_resolveAll, h.frameAll_eq, h.frameAll_eq, frameAll_resolveAll]
  · rw [allCodeBlocks_resolveAll, h.allCodeBlocks_eq, h.allCodeBlocks_eq, allCodeBlocks_resolveAll]
  · rw [state_resolveAll, h.allCodeBlocks_eq, state_resolveAll]

end Weave
