import Weave.Proofs.Enumeration.Restructure

/-!
# Lists as components, place by place

`restructureLists` puts a component in the place of every list and of every item, and leaves all
else where it is.  A place is given by a path from the top of the document down, and `partAt?`
answers what stands there.

* `Becomes` says what a part of a document becomes from the number of lists around it.  That number
  is `listsAround`, which counts the lists on the path to the part.
* `Restructured` is the same with the whole subtree: it is what one step down a path keeps
  (`forall₂_inner`), and `rel_partAt?` carries it to the end of the path.
* `partAt?_induction` carries a property of parts down a path in the same way.
* `restructureLists_parts` is the result.
-/

namespace Weave

/-! ## Parts and paths -/

/-- What stands in a document. -/
inductive Part where
  | node (n : Node)
  /-- An item with its list and its place in the list. -/
  | item (list : ItemList) (index : Nat) (item : ListItem)
  /-- A paragraph that stands first in an item. -/
  | lead (content : List Inline)

namespace Part

/-- The parts in an item. -/
def ofItem : List Node → List Part
  | .paragraph content :: ns => .lead content :: ns.map .node
  | ns => ns.map .node

/-- The parts right inside a part. -/
def inner : Part → List Part
  | .node (.list l) => l.items.mapIdx (.item l)
  | .node (.blockquote children) => children.map .node
  | .node (.component c) => c.children.map .node
  | .node _ => []
  | .item _ _ i => ofItem i.children
  | .lead _ => []

def isList : Part → Bool
  | .node (.list _) => true
  | _ => false

end Part

/-- The part at a path, which says which part to take at the top, which one inside of that, and so
on. -/
def partAt? : List Part → List Nat → Option Part
  | _, [] => none
  | parts, [k] => parts[k]?
  | parts, k :: j :: path => parts[k]?.bind fun part => partAt? part.inner (j :: path)

/-- What holds of the parts at the top and is passed on to the parts inside a part holds at the end
of each path. -/
theorem partAt?_induction {P : Part → Prop} (inner : ∀ part, P part → ∀ p ∈ part.inner, P p)
    {parts : List Part} (top : ∀ p ∈ parts, P p) {path : List Nat} {part : Part}
    (h : partAt? parts path = some part) : P part := by
  induction path generalizing parts with
  | nil => contradiction
  | cons k path ih =>
    cases path with
    | nil => exact top part (List.mem_of_getElem? h)
    | cons j path =>
      obtain ⟨first, hfirst, hlater⟩ := Option.bind_eq_some_iff.mp h
      exact ih (inner first (top first (List.mem_of_getElem? hfirst))) hlater

/-- The number of lists that enclose the place of a path: those that stand at a part of the path. -/
def listsAround (parts : List Part) (path : List Nat) : Nat :=
  (List.range path.length).countP fun k => (partAt? parts (path.take k)).any Part.isList

/-- A path that goes on inside a list has one list more around its end. -/
theorem listsAround_cons_cons {parts : List Part} {part : Part} {k : Nat}
    (h : parts[k]? = some part) (j : Nat) (path : List Nat) :
    listsAround parts (k :: j :: path)
      = (if part.isList then 1 else 0) + listsAround part.inner (j :: path) := by
  have hdeeper : ∀ m, partAt? parts ((k :: j :: path).take (m + 1 + 1))
      = partAt? part.inner ((j :: path).take (m + 1)) := by
    intro m
    rw [List.take_succ_cons, List.take_succ_cons, partAt?, h, Option.bind_some]
  have hhere : partAt? parts ((k :: j :: path).take (0 + 1)) = some part := h
  have hnone : ∀ parts path, partAt? parts (List.take 0 path) = none := fun _ _ => rfl
  unfold listsAround
  simp only [List.length_cons, List.range_succ_eq_map, List.map_cons, List.map_map,
    List.countP_cons, List.countP_map, Function.comp_def, Nat.succ_eq_add_one, hdeeper, hhere,
    hnone, Option.any_some, Option.any_none]
  simp [Nat.add_comm]

/-! ## What becomes of a part -/

/-- The number attribute of an item.  In an ordered list it is the number shown for the item, where
the ordinals are read from the lines on which the items start. -/
inductive NumberAttribute (source : Text) (l : ItemList) (index : Nat) : List Attribute → Prop where
  | unordered (h : l.ordered = false) : NumberAttribute source l index []
  | ordered {lines : List Text} {text : Text} (h : l.ordered = true)
      (hlines : List.Forall₂ (fun item line => lineAt? source item.span.start = some line)
        l.items lines)
      (htext : (Ordinal.displayNumbers (lines.map Ordinal.ofLine))[index]? = some text) :
      NumberAttribute source l index [⟨Names.numberAttribute, .string text⟩]

/-- The node at the place of a part, where `lists` lists stand around the part. -/
inductive Becomes (source : Text) (lists : Nat) : Part → Part → Prop where
  | list (l : ItemList) (items : List Node) :
      Becomes source lists (.node (.list l))
        (.node (.component ⟨if l.ordered then Names.orderedList else Names.unorderedList,
          [⟨Names.levelAttribute, .integer (lists + 1)⟩], items⟩))
  | item {l : ItemList} {index : Nat} {number header : List Attribute} (item : ListItem)
      (children : List Node) (hnumber : NumberAttribute source l index number)
      (hheader : header = [] ∨ header = [⟨Names.headerItemAttribute, .boolean true⟩]) :
      Becomes source lists (.item l index item)
        (.node (.component ⟨Names.itemComponent item.variant,
          ⟨Names.levelAttribute, .integer lists⟩ :: (number ++ header), children⟩))
  | blockquote (children children' : List Node) :
      Becomes source lists (.node (.blockquote children)) (.node (.blockquote children'))
  | component (name : Text) (attributes : List Attribute) (children children' : List Node) :
      Becomes source lists (.node (.component ⟨name, attributes, children⟩))
        (.node (.component ⟨name, attributes, children'⟩))
  | lead {content content' : List Inline} (h : ItemText.Tidied content content') :
      Becomes source lists (.lead content) (.node (.paragraph content'))
  | leaf {n : Node} (h : n.leaves = [n]) : Becomes source lists (.node n) (.node n)

/-! ## One step down -/

/-- A part and what restructuring makes of it with all that is in it, where `depth` lists stand
around it. -/
inductive Restructured (source : Text) (depth : Nat) : Part → Part → Prop where
  | node (n : Node) : Restructured source depth (.node n) (.node (n.restructure source depth))
  | lead {content content' : List Inline} (h : ItemText.Tidied content content') :
      Restructured source depth (.lead content) (.node (.paragraph content'))
  | item {l : ItemList} {index : Nat} {number : Option Text} (item : ListItem)
      (hnumber : (l.numbers source)[index]? = some number) :
      Restructured source depth (.item l index item)
        (.node (.component (itemComponent item.variant number depth
          (restructureAll source depth item.children))))

theorem forall₂_restructureAll (source : Text) (depth : Nat) (ns : List Node) :
    List.Forall₂ (Restructured source depth) (ns.map .node)
      ((restructureAll source depth ns).map .node) := by
  rw [restructureAll_eq_map, List.map_map, List.forall₂_map_left_iff, List.forall₂_map_right_iff,
    List.forall₂_same]
  exact fun n _ => .node n

/-- The walk over the items of a list from an index on. -/
theorem forall₂_restructureItems (source : Text) (level : Nat) (l : ItemList) (index : Nat)
    {numbers : List (Option Text)} {items : List ListItem}
    (hnumbers : (l.numbers source).drop index = numbers) (hitems : l.items.drop index = items) :
    List.Forall₂ (Restructured source level) (items.mapIdx fun i => .item l (index + i))
      ((restructureItems source level numbers items).map .node) := by
  induction items generalizing index numbers with
  | nil =>
    rw [restructureItems.eq_def]
    cases numbers <;> exact .nil
  | cons item items ih =>
    have hlength : numbers.length = (item :: items).length := by
      rw [← hnumbers, ← hitems, List.length_drop, List.length_drop, length_numbers]
    cases numbers with
    | nil => contradiction
    | cons number numbers =>
      obtain ⟨children, variant, span⟩ := item
      obtain ⟨hnumber, hnumbers'⟩ := of_drop_eq_cons hnumbers
      have hlater := ih (index + 1) hnumbers' (of_drop_eq_cons hitems).2
      simp only [Nat.add_right_comm index 1, Nat.add_assoc index] at hlater
      rw [List.mapIdx_cons, restructureItems, List.map_cons]
      exact .cons (.item ⟨children, variant, span⟩ hnumber) hlater

/-- Cleaning an item changes the paragraph in front of it, if there is one, and nothing else. -/
theorem forall₂_cleanItem (source : Text) (depth : Nat) (children : List Node) :
    List.Forall₂ (Restructured source depth) (Part.ofItem children)
      ((cleanItem (restructureAll source depth children)).2.map .node) := by
  unfold Part.ofItem
  split
  next content ns =>
    have hlead := ItemText.tidied_takeColons content
    exact .cons (.lead hlead) (forall₂_restructureAll source depth ns)
  next hlead =>
    cases children with
    | nil => exact .nil
    | cons n ns =>
      have hn : ∀ content, n ≠ .paragraph content := by
        rintro content rfl
        exact hlead content ns rfl
      rw [restructureAll, cleanItem_of_not_paragraph (restructure_ne_paragraph hn source depth)]
      exact forall₂_restructureAll source depth (n :: ns)

/-- The parts inside a part are restructured with it; inside a list there is one list more around
them. -/
theorem forall₂_inner {source : Text} {depth : Nat} {part part' : Part}
    (h : Restructured source depth part part') :
    List.Forall₂ (Restructured source (depth + if part.isList then 1 else 0)) part.inner
      part'.inner := by
  cases h with
  | lead h => exact .nil
  | item item hnumber => exact forall₂_cleanItem source depth item.children
  | node n =>
    cases n with
    | list l =>
      obtain ⟨ordered, start, items, span⟩ := l
      have h := forall₂_restructureItems source (depth + 1) ⟨ordered, start, items, span⟩ 0 rfl rfl
      simpa [Part.inner, Node.restructure, listComponent, Part.isList] using h
    | blockquote children => exact forall₂_restructureAll source depth children
    | component c =>
      obtain ⟨name, attributes, children⟩ := c
      exact forall₂_restructureAll source depth children
    | _ => exact .nil

/-! ## Down a path -/

theorem rel_getElem? {α β : Type} {R : α → β → Prop} {l : List α} {l' : List β}
    (h : List.Forall₂ R l l') (k : Nat) : Option.Rel R l[k]? l'[k]? := by
  induction h generalizing k with
  | nil => exact .none
  | cons hfirst _ ih =>
    cases k with
    | zero => exact .some hfirst
    | succ k => exact ih k

/-- At the end of a path stands what restructuring makes of the part that stood there, with the
lists on the path around it. -/
theorem rel_partAt? {source : Text} {depth : Nat} {parts parts' : List Part}
    (h : List.Forall₂ (Restructured source depth) parts parts') (path : List Nat) :
    Option.Rel (Restructured source (depth + listsAround parts path)) (partAt? parts path)
      (partAt? parts' path) := by
  induction path generalizing depth parts parts' with
  | nil => exact .none
  | cons k path ih =>
    have hhere := rel_getElem? h k
    cases path with
    | nil => exact hhere
    | cons j path =>
      rw [partAt?, partAt?]
      generalize hpart : parts[k]? = part at hhere ⊢
      generalize parts'[k]? = part' at hhere ⊢
      cases hhere with
      | none => exact .none
      | some hhere =>
        -- The depth inside of `part` and the lists behind it on the path make up the same number.
        rw [listsAround_cons_cons hpart, ← Nat.add_assoc]
        exact ih (forall₂_inner hhere)

/-! ## Lines of the source -/

theorem allFitSource_iff {source : Text} {ns : List Node} :
    allFitSource source ns = true ↔ ∀ n ∈ ns, n.fitsSource source = true := by
  induction ns with
  | nil => simp [allFitSource]
  | cons n ns ih => rw [allFitSource, Bool.and_eq_true, ih, List.forall_mem_cons]

theorem itemsFitSource_iff {source : Text} {ordered : Bool} {items : List ListItem} :
    itemsFitSource source ordered items = true ↔ ∀ item ∈ items,
      (ordered = true → (lineAt? source item.span.start).isSome = true)
        ∧ allFitSource source item.children = true := by
  induction items with
  | nil => simp [itemsFitSource]
  | cons item items ih =>
    obtain ⟨children, variant, span⟩ := item
    rw [itemsFitSource, Bool.and_eq_true, Bool.and_eq_true, ih, List.forall_mem_cons]
    cases ordered <;> simp

/-- Whether the ordered items at a part and in it start at whole characters of the source. -/
def Part.FitsSource (source : Text) : Part → Prop
  | .node n => n.fitsSource source = true
  | .item l _ i => itemsFitSource source l.ordered l.items = true ∧ i ∈ l.items
  | .lead _ => True

theorem Part.fitsSource_of_mem_map {source : Text} {children : List Node}
    (h : allFitSource source children = true) :
    ∀ p ∈ children.map Part.node, p.FitsSource source := by
  intro p hp
  obtain ⟨n, hn, rfl⟩ := List.mem_map.mp hp
  exact allFitSource_iff.mp h n hn

theorem Part.fitsSource_of_mem_ofItem {source : Text} {children : List Node}
    (h : allFitSource source children = true) : ∀ p ∈ ofItem children, p.FitsSource source := by
  have hnodes := fitsSource_of_mem_map h
  unfold ofItem
  split
  next content ns =>
    rw [List.map_cons, List.forall_mem_cons] at hnodes
    exact List.forall_mem_cons.mpr ⟨trivial, hnodes.2⟩
  · exact hnodes

theorem Part.FitsSource.inner {source : Text} {part : Part} (h : part.FitsSource source) :
    ∀ p ∈ part.inner, p.FitsSource source := by
  cases part with
  | lead content => exact fun p hp => absurd hp List.not_mem_nil
  | item l index item => exact fitsSource_of_mem_ofItem (itemsFitSource_iff.mp h.1 item h.2).2
  | node n =>
    cases n with
    | list l =>
      obtain ⟨ordered, start, items, span⟩ := l
      intro p hp
      obtain ⟨index, hindex, rfl⟩ := List.mem_mapIdx.mp hp
      exact ⟨h, List.getElem_mem hindex⟩
    | blockquote children => exact fitsSource_of_mem_map h
    | component c =>
      obtain ⟨name, attributes, children⟩ := c
      exact fitsSource_of_mem_map h
    | _ => exact fun p hp => absurd hp List.not_mem_nil

theorem Part.FitsSource.partAt? {source : Text} {parts : List Part} {part : Part} {path : List Nat}
    (h : ∀ p ∈ parts, p.FitsSource source) (hpart : partAt? parts path = some part) :
    part.FitsSource source :=
  partAt?_induction (fun _ => Part.FitsSource.inner) h hpart

/-- An item that has a number carries it as its attribute. -/
theorem numberAttribute_numbers {source : Text} {l : ItemList} {index : Nat}
    {number : Option Text} (hfits : itemsFitSource source l.ordered l.items = true)
    (hnumber : (l.numbers source)[index]? = some number) :
    NumberAttribute source l index
      (number.toList.map fun n => ⟨Names.numberAttribute, .string n⟩) := by
  unfold ItemList.numbers at hnumber
  split at hnumber
  next hordered =>
    have hlines : List.Forall₂ (fun item line => lineAt? source item.span.start = some line)
        l.items (l.items.map (ListItem.markerLine source)) := by
      rw [List.forall₂_map_right_iff, List.forall₂_same]
      intro item hitem
      have hsome := (itemsFitSource_iff.mp hfits item hitem).1 hordered
      obtain ⟨line, hline⟩ := Option.isSome_iff_exists.mp hsome
      rw [ListItem.markerLine, hline, Option.getD_some]
    rw [List.getElem?_map, Option.map_eq_some_iff] at hnumber
    obtain ⟨text, htext, rfl⟩ := hnumber
    refine .ordered hordered hlines ?_
    rw [List.map_map]
    exact htext
  next hordered =>
    rw [List.getElem?_map, Option.map_eq_some_iff] at hnumber
    obtain ⟨item, -, rfl⟩ := hnumber
    exact .unordered (Bool.not_eq_true _ ▸ hordered)

theorem becomes_of_restructured {source : Text} {depth : Nat} {part part' : Part}
    (hfits : part.FitsSource source) (h : Restructured source depth part part') :
    Becomes source depth part part' := by
  cases h with
  | lead h => exact .lead h
  | item item hnumber =>
    obtain ⟨isHeader, children, hclean⟩ : ∃ isHeader children,
        cleanItem (restructureAll source depth item.children) = (isHeader, children) :=
      ⟨_, _, rfl⟩
    rw [itemComponent, hclean]
    refine .item item children (numberAttribute_numbers hfits.1 hnumber) ?_
    cases isHeader with
    | false => exact .inl rfl
    | true => exact .inr rfl
  | node n =>
    cases n with
    | list l =>
      obtain ⟨ordered, start, items, span⟩ := l
      exact .list ⟨ordered, start, items, span⟩ _
    | blockquote children => exact .blockquote children _
    | component c =>
      obtain ⟨name, attributes, children⟩ := c
      exact .component name attributes children _
    | _ => exact .leaf rfl

/-! ## Documents -/

/-- Behind the restructuring no list is left, and a document without lists stays as it is.  The same
paths lead to parts as before, so the items stand in their lists one by one and in order, and at the
end of each path stands what the part has become: a list is a component on the level that counts the
lists around it and itself, and an item is a component with the level of its list and, in an ordered
list, with its number. -/
theorem restructureLists_parts (source : Text) (nodes : List Node)
    (h : allFitSource source nodes = true) :
    allListFree (restructureLists source nodes) = true
      ∧ (allListFree nodes = true → restructureLists source nodes = nodes)
      ∧ ∀ path, Option.Rel (Becomes source (listsAround (nodes.map .node) path))
          (partAt? (nodes.map .node) path)
          (partAt? ((restructureLists source nodes).map .node) path) := by
  refine ⟨listFree_restructureAll source 0 nodes, restructureAll_of_listFree source 0, ?_⟩
  intro path
  have hfits := Part.fitsSource_of_mem_map h
  have hrel := rel_partAt? (forall₂_restructureAll source 0 nodes) path
  rw [Nat.zero_add] at hrel
  rw [restructureLists]
  generalize hpart : partAt? (nodes.map Part.node) path = part at hrel ⊢
  generalize partAt? ((restructureAll source 0 nodes).map Part.node) path = part' at hrel ⊢
  cases hrel with
  | none => exact .none
  | some hrestructured =>
    exact .some (becomes_of_restructured (.partAt? hfits hpart) hrestructured)

/-- An item with a text. -/
def textItem (text : Text) (start stop : Nat) : ListItem :=
  ⟨[.paragraph [.text text]], none, ⟨start, stop⟩⟩

/-- The ordered list in the quote of `"- a\n\n  > 2. x\n  > 1. y\n  > 9. z\n"`. -/
def quotedList : ItemList :=
  ⟨true, some 2, [textItem "x" 9 14, textItem "y" 18 23, textItem "z" 27 32], ⟨9, 32⟩⟩

/-- The last item of a list in a quote in an item of a list: two lists stand around it, and the
quote does not count. -/
theorem restructureLists_parts_quotedList :
    let source : Text := "- a\n\n  > 2. x\n  > 1. y\n  > 9. z\n"
    let outer : ItemList :=
      ⟨false, none, [⟨[.paragraph [.text "a"], .blockquote [.list quotedList]], none, ⟨0, 32⟩⟩],
        ⟨0, 32⟩⟩
    allFitSource source [.list outer] = true
      ∧ Option.Rel (Becomes source 2) (some (.item quotedList 2 (textItem "z" 27 32)))
          (partAt? ((restructureLists source [.list outer]).map .node) [0, 0, 1, 0, 2]) := by
  intro source outer
  have hfits : allFitSource source [.list outer] = true := by decide +kernel
  exact ⟨hfits, (restructureLists_parts source [.list outer] hfits).2.2 [0, 0, 1, 0, 2]⟩

end Weave
