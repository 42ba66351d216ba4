import Mathlib.Data.List.Forall2
import Weave.Pipeline

/-!
# Leaves of a document

The leaves of a document are its paragraphs, headings, code blocks, tables, HTML blocks and rules,
in document order.  Lists, quotes and components only group them: `allLeaves` looks into all three,
and `allLeavesAt` says of each leaf where it stands, as far as a pass can tell.

`allLeaves_append` carries the sequence over the grouping of siblings, and
`allCodeBlocks_eq_filterMap` reads the code blocks off the leaves.
-/

namespace Weave

mutual

/-- The leaves in a node, in document order. -/
def Node.leaves : Node → List Node
  | .list ⟨_, _, items, _⟩ => itemLeaves items
  | .blockquote children => allLeaves children
  | .component ⟨_, _, children⟩ => allLeaves children
  | .paragraph content => [.paragraph content]
  | .heading h => [.heading h]
  | .codeBlock b => [.codeBlock b]
  | .table alignments headers rows => [.table alignments headers rows]
  | .html html => [.html html]
  | .horizontalRule => [.horizontalRule]

/-- The leaves in some nodes, in document order. -/
def allLeaves : List Node → List Node
  | [] => []
  | n :: ns => n.leaves ++ allLeaves ns

/-- The leaves in list items, in document order. -/
def itemLeaves : List ListItem → List Node
  | [] => []
  | ⟨children, _, _⟩ :: items => allLeaves children ++ itemLeaves items

end

/-- Where a leaf stands. -/
inductive LeafPlace where
  /-- At the top of the document. -/
  | top
  /-- First among the children of a list item. -/
  | lead
  | inner
  deriving DecidableEq, Repr

/-- A leaf with its place. -/
structure PlacedLeaf where
  place : LeafPlace
  node : Node

mutual

/-- The leaves in a node that stands at a place. -/
def Node.leavesAt (place : LeafPlace) : Node → List PlacedLeaf
  | .list ⟨_, _, items, _⟩ => itemLeavesAt items
  | .blockquote children => allLeavesAt .inner .inner children
  | .component ⟨_, _, children⟩ => allLeavesAt .inner .inner children
  | .paragraph content => [⟨place, .paragraph content⟩]
  | .heading h => [⟨place, .heading h⟩]
  | .codeBlock b => [⟨place, .codeBlock b⟩]
  | .table alignments headers rows => [⟨place, .table alignments headers rows⟩]
  | .html html => [⟨place, .html html⟩]
  | .horizontalRule => [⟨place, .horizontalRule⟩]

/-- The leaves in some nodes, of which the first stands at one place and the others at another. -/
def allLeavesAt (first later : LeafPlace) : List Node → List PlacedLeaf
  | [] => []
  | n :: ns => n.leavesAt first ++ allLeavesAt later later ns

/-- The leaves in list items. -/
def itemLeavesAt : List ListItem → List PlacedLeaf
  | [] => []
  | ⟨children, _, _⟩ :: items => allLeavesAt .lead .inner children ++ itemLeavesAt items

end

/-- The leaves of a document with their places. -/
def placedLeaves (document : Document) : List PlacedLeaf := allLeavesAt .top .top document

/-- The code block that a leaf is. -/
def Node.codeBlock? : Node → Option CodeBlock
  | .codeBlock b => some b
  | _ => none

/-! ## Siblings -/

theorem allLeaves_eq_flatMap (ns : List Node) : allLeaves ns = ns.flatMap Node.leaves := by
  induction ns with
  | nil => rfl
  | cons n ns ih => rw [allLeaves, ih, List.flatMap_cons]

theorem allLeaves_append (ns ms : List Node) :
    allLeaves (ns ++ ms) = allLeaves ns ++ allLeaves ms := by
  rw [allLeaves_eq_flatMap, List.flatMap_append, ← allLeaves_eq_flatMap, ← allLeaves_eq_flatMap]

theorem allLeavesAt_eq_flatMap (place : LeafPlace) (ns : List Node) :
    allLeavesAt place place ns = ns.flatMap (Node.leavesAt place) := by
  induction ns with
  | nil => rfl
  | cons n ns ih => rw [allLeavesAt, ih, List.flatMap_cons]

/-! ## Places and code blocks -/

mutual

/-- The placed leaves of a node are its leaves. -/
theorem map_node_leavesAt (place : LeafPlace) (n : Node) :
    (n.leavesAt place).map (·.node) = n.leaves := by
  cases n with
  | list l =>
    obtain ⟨ordered, start, items, span⟩ := l
    exact map_node_itemLeavesAt items
  | blockquote children => exact map_node_allLeavesAt .inner .inner children
  | component c =>
    obtain ⟨name, attributes, children⟩ := c
    exact map_node_allLeavesAt .inner .inner children
  | _ => rfl

theorem map_node_allLeavesAt (first later : LeafPlace) (ns : List Node) :
    (allLeavesAt first later ns).map (·.node) = allLeaves ns := by
  cases ns with
  | nil => rfl
  | cons n ns =>
    rw [allLeavesAt, List.map_append, map_node_leavesAt first n,
      map_node_allLeavesAt later later ns, allLeaves]

theorem map_node_itemLeavesAt (items : List ListItem) :
    (itemLeavesAt items).map (·.node) = itemLeaves items := by
  cases items with
  | nil => rfl
  | cons item items =>
    obtain ⟨children, variant, span⟩ := item
    rw [itemLeavesAt, List.map_append, map_node_allLeavesAt .lead .inner children,
      map_node_itemLeavesAt items, itemLeaves]

end

mutual

/-- A leaf stands at the top only if the node does in which it is found. -/
theorem place_ne_top_of_mem_leavesAt {place : LeafPlace} (hplace : place ≠ .top) {n : Node}
    {leaf : PlacedLeaf} (h : leaf ∈ n.leavesAt place) : leaf.place ≠ .top := by
  cases n with
  | list l =>
    obtain ⟨ordered, start, items, span⟩ := l
    exact place_ne_top_of_mem_itemLeavesAt h
  | blockquote children =>
    exact place_ne_top_of_mem_allLeavesAt (by decide) (by decide) h
  | component c =>
    obtain ⟨name, attributes, children⟩ := c
    exact place_ne_top_of_mem_allLeavesAt (by decide) (by decide) h
  | _ =>
    rw [List.mem_singleton.mp h]
    exact hplace

theorem place_ne_top_of_mem_allLeavesAt {first later : LeafPlace} (hfirst : first ≠ .top)
    (hlater : later ≠ .top) {ns : List Node} {leaf : PlacedLeaf}
    (h : leaf ∈ allLeavesAt first later ns) : leaf.place ≠ .top := by
  cases ns with
  | nil => contradiction
  | cons n ns =>
    rcases List.mem_append.mp h with h | h
    · exact place_ne_top_of_mem_leavesAt hfirst h
    · exact place_ne_top_of_mem_allLeavesAt hlater hlater h

theorem place_ne_top_of_mem_itemLeavesAt {items : List ListItem} {leaf : PlacedLeaf}
    (h : leaf ∈ itemLeavesAt items) : leaf.place ≠ .top := by
  cases items with
  | nil => contradiction
  | cons item items =>
    obtain ⟨children, variant, span⟩ := item
    rcases List.mem_append.mp h with h | h
    · exact place_ne_top_of_mem_allLeavesAt (by decide) (by decide) h
    · exact place_ne_top_of_mem_itemLeavesAt h

end

/-- Within a top node, only the node itself stands at the top. -/
theorem eq_of_mem_leavesAt_top {n : Node} {leaf : PlacedLeaf} (h : leaf ∈ n.leavesAt .top)
    (htop : leaf.place = .top) : leaf.node = n := by
  cases n with
  | list l =>
    obtain ⟨ordered, start, items, span⟩ := l
    exact absurd htop (place_ne_top_of_mem_itemLeavesAt h)
  | blockquote children =>
    exact absurd htop (place_ne_top_of_mem_allLeavesAt (by decide) (by decide) h)
  | component c =>
    obtain ⟨name, attributes, children⟩ := c
    exact absurd htop (place_ne_top_of_mem_allLeavesAt (by decide) (by decide) h)
  | _ => rw [List.mem_singleton.mp h]

mutual

/-- The code blocks of a node are those among its leaves. -/
theorem codeBlocks_eq_filterMap (n : Node) : n.codeBlocks = n.leaves.filterMap Node.codeBlock? := by
  cases n with
  | list l =>
    obtain ⟨ordered, start, items, span⟩ := l
    exact itemCodeBlocks_eq_filterMap items
  | blockquote children => exact allCodeBlocks_eq_filterMap children
  | component c =>
    obtain ⟨name, attributes, children⟩ := c
    exact allCodeBlocks_eq_filterMap children
  | _ => rfl

theorem allCodeBlocks_eq_filterMap (ns : List Node) :
    allCodeBlocks ns = (allLeaves ns).filterMap Node.codeBlock? := by
  cases ns with
  | nil => rfl
  | cons n ns =>
    rw [allCodeBlocks, allLeaves, List.filterMap_append, codeBlocks_eq_filterMap n,
      allCodeBlocks_eq_filterMap ns]

theorem itemCodeBlocks_eq_filterMap (items : List ListItem) :
    itemCodeBlocks items = (itemLeaves items).filterMap Node.codeBlock? := by
  cases items with
  | nil => rfl
  | cons item items =>
    obtain ⟨children, variant, span⟩ := item
    rw [itemCodeBlocks, itemLeaves, List.filterMap_append, allCodeBlocks_eq_filterMap children,
      itemCodeBlocks_eq_filterMap items]

end

/-- Leaves that are related one by one, where related leaves are the same code block or none, hold
the same code blocks. -/
theorem filterMap_codeBlock?_of_forall₂ {R : PlacedLeaf → Node → Prop}
    (hR : ∀ leaf n, R leaf n → n.codeBlock? = leaf.node.codeBlock?)
    {leaves : List PlacedLeaf} {ns : List Node} (h : List.Forall₂ R leaves ns) :
    ns.filterMap Node.codeBlock? = (leaves.map (·.node)).filterMap Node.codeBlock? := by
  induction h with
  | nil => rfl
  | cons hleaf _ ih =>
    rw [List.map_cons, List.filterMap_cons, List.filterMap_cons, hR _ _ hleaf, ih]

end Weave
