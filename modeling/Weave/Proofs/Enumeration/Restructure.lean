import Weave.Enumeration.Components
import Weave.Proofs.Document.Leaves
import Weave.Proofs.Enumeration.ItemText
import Weave.Proofs.Enumeration.Numbers

/-!
# Lists as components: what stays

`restructureLists` makes a component of every list and of every item.  This module says what it
leaves alone.

* Every item has a number or the lack of one (`length_numbers`), so the walk over items and numbers
  reaches all items.
* `enumerated_restructureAll` follows the leaves: a paragraph that stands first in an item is
  tidied, and every other leaf stays as it is, where it is.
* `restructureLists_restructureLists`: no list is left, and where there is none nothing happens.
-/

namespace Weave

/-- Every item has a number or the lack of one. -/
theorem length_numbers (source : Text) (list : ItemList) :
    (list.numbers source).length = list.items.length := by
  unfold ItemList.numbers
  split
  · rw [List.length_map, Ordinal.length_displayNumbers, ordinalsOf, List.length_map]
  · rw [List.length_map]

theorem restructureAll_eq_map (source : Text) (depth : Nat) (ns : List Node) :
    restructureAll source depth ns = ns.map (Node.restructure source depth) := by
  induction ns with
  | nil => rfl
  | cons n ns ih => rw [restructureAll, ih, List.map_cons]

theorem heading?_restructure (source : Text) (depth : Nat) (n : Node) :
    (n.restructure source depth).heading? = n.heading? := by
  cases n with
  | list l => obtain ⟨ordered, start, items, span⟩ := l; rfl
  | component c => obtain ⟨name, attributes, children⟩ := c; rfl
  | _ => rfl

/-! ## The leaves -/

/-- What a leaf becomes: a paragraph that stands first in an item is tidied, and every other leaf
stays. -/
inductive Enumerated : PlacedLeaf → Node → Prop where
  | lead {content content' : List Inline} (h : ItemText.Tidied content content') :
      Enumerated ⟨.lead, .paragraph content⟩ (.paragraph content')
  | other {place : LeafPlace} {n : Node} (h : place = .lead → ∀ content, n ≠ .paragraph content) :
      Enumerated ⟨place, n⟩ n

theorem cleanItem_of_not_paragraph {n : Node} (h : ∀ content, n ≠ .paragraph content)
    (ns : List Node) : cleanItem (n :: ns) = (false, n :: ns) := by
  cases n with
  | paragraph content => exact absurd rfl (h content)
  | _ => rfl

theorem restructure_ne_paragraph {n : Node} (h : ∀ content, n ≠ .paragraph content)
    (source : Text) (depth : Nat) (content : List Inline) :
    n.restructure source depth ≠ .paragraph content := by
  cases n with
  | paragraph content => exact absurd rfl (h content)
  | list l => obtain ⟨ordered, start, items, span⟩ := l; simp [Node.restructure]
  | component c => obtain ⟨name, attributes, children⟩ := c; simp [Node.restructure]
  | _ => simp [Node.restructure]

mutual

/-- The leaves of a node that is no paragraph in front of an item stay. -/
theorem enumerated_restructure (source : Text) (depth : Nat) {place : LeafPlace} {n : Node}
    (h : place = .lead → ∀ content, n ≠ .paragraph content) :
    List.Forall₂ Enumerated (n.leavesAt place) (n.restructure source depth).leaves := by
  cases n with
  | list l =>
    obtain ⟨ordered, start, items, span⟩ := l
    exact enumerated_restructureItems source (depth + 1) (length_numbers source _)
  | blockquote children =>
    exact enumerated_restructureAll source depth (by decide) (by decide) children
  | component c =>
    obtain ⟨name, attributes, children⟩ := c
    exact enumerated_restructureAll source depth (by decide) (by decide) children
  | _ => exact .cons (.other h) .nil

theorem enumerated_restructureAll (source : Text) (depth : Nat) {first later : LeafPlace}
    (hfirst : first ≠ .lead) (hlater : later ≠ .lead) (ns : List Node) :
    List.Forall₂ Enumerated (allLeavesAt first later ns)
      (allLeaves (restructureAll source depth ns)) := by
  cases ns with
  | nil => exact .nil
  | cons n ns =>
    have hhere := enumerated_restructure source depth (n := n) fun h => absurd h hfirst
    exact List.rel_append hhere (enumerated_restructureAll source depth hlater hlater ns)

theorem enumerated_restructureItems (source : Text) (level : Nat) {numbers : List (Option Text)}
    {items : List ListItem} (hlength : numbers.length = items.length) :
    List.Forall₂ Enumerated (itemLeavesAt items)
      (allLeaves (restructureItems source level numbers items)) := by
  cases items with
  | nil =>
    rw [restructureItems.eq_def]
    cases numbers <;> exact .nil
  | cons item items =>
    obtain ⟨children, variant, span⟩ := item
    cases numbers with
    | nil => contradiction
    | cons number numbers =>
      have hrest : numbers.length = items.length := Nat.succ.inj hlength
      refine List.rel_append ?_ (enumerated_restructureItems source level hrest)
      cases children with
      | nil => exact .nil
      | cons n ns =>
        have hlater := enumerated_restructureAll source level
          (show LeafPlace.inner ≠ .lead by decide) (show LeafPlace.inner ≠ .lead by decide) ns
        by_cases hn : ∀ content, n ≠ .paragraph content
        · have hhere : List.Forall₂ Enumerated (n.leavesAt .lead)
              (n.restructure source level).leaves := enumerated_restructure source level fun _ => hn
          simp only [Node.leaves, itemComponent, restructureAll,
            cleanItem_of_not_paragraph (restructure_ne_paragraph hn source level)]
          exact List.rel_append hhere hlater
        · obtain ⟨content, rfl⟩ : ∃ content, n = .paragraph content := by
            simpa only [not_forall, not_not] using hn
          exact .cons (.lead (ItemText.tidied_takeColons content)) hlater

end

theorem codeBlock?_of_enumerated {leaf : PlacedLeaf} {n : Node} (h : Enumerated leaf n) :
    n.codeBlock? = leaf.node.codeBlock? := by
  cases h <;> rfl

theorem allCodeBlocks_restructureAll (source : Text) (depth : Nat) (ns : List Node) :
    allCodeBlocks (restructureAll source depth ns) = allCodeBlocks ns := by
  have hleaves : List.Forall₂ Enumerated (allLeavesAt .inner .inner ns)
      (allLeaves (restructureAll source depth ns)) :=
    enumerated_restructureAll source depth (by decide) (by decide) ns
  rw [allCodeBlocks_eq_filterMap, allCodeBlocks_eq_filterMap,
    filterMap_codeBlock?_of_forall₂ (fun _ _ => codeBlock?_of_enumerated) hleaves,
    map_node_allLeavesAt]

/-! ## No list is left -/

mutual

/-- Whether no list stands in a node. -/
def Node.listFree : Node → Bool
  | .list _ => false
  | .blockquote children => allListFree children
  | .component ⟨_, _, children⟩ => allListFree children
  | _ => true

/-- Whether no list stands in some nodes. -/
def allListFree : List Node → Bool
  | [] => true
  | n :: ns => n.listFree && allListFree ns

end

theorem allListFree_cleanItem {ns : List Node} (h : allListFree ns = true) :
    allListFree (cleanItem ns).2 = true := by
  unfold cleanItem
  split
  · exact h
  · exact h

mutual

theorem listFree_restructure (source : Text) (depth : Nat) (n : Node) :
    (n.restructure source depth).listFree = true := by
  cases n with
  | list l =>
    obtain ⟨ordered, start, items, span⟩ := l
    exact listFree_restructureItems source (depth + 1) _ items
  | blockquote children => exact listFree_restructureAll source depth children
  | component c =>
    obtain ⟨name, attributes, children⟩ := c
    exact listFree_restructureAll source depth children
  | _ => rfl

theorem listFree_restructureAll (source : Text) (depth : Nat) (ns : List Node) :
    allListFree (restructureAll source depth ns) = true := by
  cases ns with
  | nil => rfl
  | cons n ns =>
    rw [restructureAll, allListFree, listFree_restructure source depth n,
      listFree_restructureAll source depth ns]
    rfl

theorem listFree_restructureItems (source : Text) (level : Nat) (numbers : List (Option Text))
    (items : List ListItem) :
    allListFree (restructureItems source level numbers items) = true := by
  cases items with
  | nil =>
    rw [restructureItems.eq_def]
    cases numbers <;> rfl
  | cons item items =>
    obtain ⟨children, variant, span⟩ := item
    cases numbers with
    | nil => rfl
    | cons number numbers =>
      have hchildren : allListFree (cleanItem (restructureAll source level children)).2 = true :=
        allListFree_cleanItem (listFree_restructureAll source level children)
      have hitems := listFree_restructureItems source level numbers items
      simp only [restructureItems, itemComponent, allListFree, Node.listFree, hchildren, hitems,
        Bool.and_self]

end

mutual

theorem restructure_of_listFree (source : Text) (depth : Nat) {n : Node}
    (h : n.listFree = true) : n.restructure source depth = n := by
  cases n with
  | list l => contradiction
  | blockquote children =>
    rw [Node.restructure, restructureAll_of_listFree source depth h]
  | component c =>
    obtain ⟨name, attributes, children⟩ := c
    rw [Node.restructure, restructureAll_of_listFree source depth h]
  | _ => rfl

/-- Nodes without a list stay as they are. -/
theorem restructureAll_of_listFree (source : Text) (depth : Nat) {ns : List Node}
    (h : allListFree ns = true) : restructureAll source depth ns = ns := by
  cases ns with
  | nil => rfl
  | cons n ns =>
    rw [allListFree, Bool.and_eq_true] at h
    rw [restructureAll, restructure_of_listFree source depth h.1,
      restructureAll_of_listFree source depth h.2]

end

/-- Lists that have become components stay. -/
theorem restructureLists_restructureLists (source : Text) (nodes : List Node) :
    restructureLists source (restructureLists source nodes) = restructureLists source nodes :=
  restructureAll_of_listFree source 0 (listFree_restructureAll source 0 nodes)

end Weave
