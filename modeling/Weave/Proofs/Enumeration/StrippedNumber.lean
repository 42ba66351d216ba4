import Weave.Proofs.Enumeration.Nesting
import Weave.Proofs.Enumeration.OrdinalLine

/-!
# Numbers taken out of an item

A number in front of the text of an item is taken out, and the number that the item shows is read
from the line of its marker.  Two readers look at the same characters, and the question is what
becomes of a number that one of them takes out.

* `WrittenItem` is an item whose line goes on with its text behind the marker.
* `Marker.ofLine_text`: of two or more groups of digits in front of the text the line says the same,
  and of one group it says so only behind a bullet.
* `attribute?_itemComponent` and `numbers_getElem?` lead from the numbers of a list to the attribute
  of an item.
* `NumberShown` is what the item shows in the end, and `numberShown_of_dropNumber?` says so of every
  item of a document.
-/

namespace Weave

/-! ## Markers and what they say -/

namespace Ordinal

/-- The marker of an item. -/
inductive Marker where
  | bullet (c : Char) (h : IsBullet c)
  | number (m : NumberMarker)

namespace Marker

def text : Marker → Text
  | bullet c _ => [c]
  | number m => m.text

/-- The ordinal of a line with one group of digits and a dot behind its marker.  The number of a
marker is preferred to the digits, and behind a bullet a dotted number that follows them is. -/
def ordinal (group after : Text) : Marker → Ordinal
  | bullet _ _ => ((subNumber? after).map .decimal).getD (ofGroup group)
  | number m => m.ordinal

theorem ofLine_text (marker : Marker) {indent : Text} (hindent : ∀ c ∈ indent, isFree c = true)
    (gap : Gap) {groups : List Text} (hne : groups ≠ []) (hgroups : ∀ g ∈ groups, IsDigitGroup g)
    {after : Text} (hafter : ∀ c ∈ after.head?, Text.isSpace c = true) :
    ofLine (indent ++ (marker.text ++ (gap.text ++ (joinGroups groups ++ '.' :: after))))
      = if 2 ≤ groups.length then .decimal (joinGroups groups)
        else marker.ordinal (joinGroups groups) after := by
  cases marker with
  | bullet c h =>
    have hmarker := marker?_front hindent (some ⟨c, h, gap⟩) hne hgroups (.inl rfl)
      (noDigit_of_isSpace hafter)
    replace hmarker : marker? (indent ++ ([c] ++ (gap.text ++ (joinGroups groups ++ '.' :: after))))
        = some (groups, after) := hmarker
    split
    next htwo => exact ofLine_of_two_groups hmarker htwo
    next hone =>
      obtain ⟨g, rfl⟩ : ∃ g, groups = [g] := by
        have hpos := List.length_pos_of_ne_nil hne
        exact List.length_eq_one_iff.mp (by omega)
      exact ofLine_of_group hmarker
  | number m =>
    have hdigits : ∀ g ∈ [m.digits], IsDigitGroup g := by simpa using m.isDigitGroup
    have hmarker := marker?_front hindent none (List.cons_ne_nil _ _) hdigits m.isDelimiter
      (gap.noDigit (joinGroups groups ++ '.' :: after))
    have hline : marker? (indent ++ (m.text ++ (gap.text ++ (joinGroups groups ++ '.' :: after))))
        = some ([m.digits], gap.text ++ (joinGroups groups ++ '.' :: after)) := by
      rw [NumberMarker.text, List.append_assoc]
      exact hmarker
    rw [text, ofLine_of_group hline, subNumber?_gap gap hne hgroups hafter]
    split
    next htwo => rfl
    next hone => exact m.ofGroup_digits

end Marker

end Ordinal

/-! ## Items and their numbers -/

/-- Whether an item of a list stands at its place in the list. -/
def Part.InPlace : Part → Prop
  | .item l index i => l.items[index]? = some i
  | _ => True

theorem Part.InPlace.inner (part : Part) : ∀ p ∈ part.inner, p.InPlace := by
  have hnodes : ∀ ns : List Node, ∀ p ∈ ns.map Part.node, p.InPlace := by
    intro ns p hp
    obtain ⟨n, -, rfl⟩ := List.mem_map.mp hp
    trivial
  cases part with
  | lead content => exact fun p hp => absurd hp List.not_mem_nil
  | item l index i =>
    rw [Part.inner, ofItem.eq_def]
    split
    · exact List.forall_mem_cons.mpr ⟨trivial, hnodes _⟩
    · exact hnodes _
  | node n =>
    cases n with
    | list l =>
      intro p hp
      obtain ⟨index, hindex, rfl⟩ := List.mem_mapIdx.mp hp
      exact List.getElem?_eq_getElem hindex
    | blockquote children => exact hnodes children
    | component c => exact hnodes c.children
    | _ => exact fun p hp => absurd hp List.not_mem_nil

/-- The item at a path stands at its place in its list. -/
theorem getElem?_items_of_partAt? {nodes : List Node} {path : List Nat} {l : ItemList}
    {index : Nat} {item : ListItem}
    (h : partAt? (nodes.map .node) path = some (.item l index item)) :
    l.items[index]? = some item := by
  refine partAt?_induction (P := Part.InPlace) (fun part _ => Part.InPlace.inner part) ?_ h
  intro p hp
  obtain ⟨n, -, rfl⟩ := List.mem_map.mp hp
  trivial

/-- The number of an item is the value of its attribute. -/
theorem attribute?_itemComponent (variant number : Option Text) (level : Nat)
    (children : List Node) :
    (itemComponent variant number level children).attribute? Names.numberAttribute
      = number.map .string := by
  have hlevel : (Names.levelAttribute == Names.numberAttribute) = false := by decide
  have hheader : ¬Names.headerItemAttribute = Names.numberAttribute := by decide
  unfold itemComponent Component.attribute?
  cases number with
  | some n => simp [hlevel]
  | none => simp [hlevel, hheader]

/-- The numbers of an ordered list are those shown for the ordinals of its items. -/
theorem numbers_getElem? {source : Text} {l : ItemList} {index : Nat} {number : Option Text}
    (h : (l.numbers source)[index]? = some number) :
    l.ordered = false ∧ number = none
      ∨ ∃ text, l.ordered = true ∧ number = some text
        ∧ (Ordinal.displayNumbers (ordinalsOf source l.items))[index]? = some text := by
  unfold ItemList.numbers at h
  split at h
  next hordered =>
    rw [List.getElem?_map, Option.map_eq_some_iff] at h
    obtain ⟨text, htext, rfl⟩ := h
    exact .inr ⟨text, hordered, rfl, htext⟩
  next hordered =>
    rw [List.getElem?_map, Option.map_eq_some_iff] at h
    obtain ⟨item, -, rfl⟩ := h
    exact .inl ⟨Bool.not_eq_true _ ▸ hordered, rfl⟩

/-- An item that begins with a paragraph, in whose line the text of this paragraph goes on behind
the marker. -/
structure WrittenItem (source : Text) (item : ListItem) where
  indent : Text
  marker : Ordinal.Marker
  gap : Ordinal.Gap
  /-- The text that the paragraph begins with. -/
  text : Text
  inlines : List Inline
  others : List Node
  /-- What follows on the line. -/
  more : Text
  isFree : ∀ c ∈ indent, Ordinal.isFree c = true
  children_eq : item.children = .paragraph (.text text :: inlines) :: others
  line_eq : lineAt? source item.span.start
    = some (indent ++ (marker.text ++ (gap.text ++ (text ++ more))))

/-- The number that an item shows, with these groups of digits taken out of its text: none in an
unordered list, the groups if there are two or more of them, and otherwise the number that its list
shows for the ordinal of its line. -/
inductive NumberShown (source : Text) (l : ItemList) (index : Nat) (groups : List Text)
    (ordinal : Ordinal) : Option AttrValue → Prop where
  | unordered (h : l.ordered = false) : NumberShown source l index groups ordinal none
  | dotted (h : l.ordered = true) (two : 2 ≤ groups.length) :
      NumberShown source l index groups ordinal (some (.string (Ordinal.joinGroups groups)))
  | single {text : Text} (h : l.ordered = true) (one : groups.length = 1)
      (hordinal : (ordinalsOf source l.items)[index]? = some ordinal)
      (htext : (Ordinal.displayNumbers (ordinalsOf source l.items))[index]? = some text) :
      NumberShown source l index groups ordinal (some (.string text))

variable {source : Text} {item : ListItem}

/-- A text that begins with a number, a dot and white space. -/
structure Numbered (t : Text) (groups : List Text) (space kept : Text) : Prop where
  ne_nil : groups ≠ []
  isDigitGroup : ∀ g ∈ groups, Ordinal.IsDigitGroup g
  space_ne_nil : space ≠ []
  isSpace : ∀ c ∈ space, Text.isSpace c = true
  eq : t = Ordinal.joinGroups groups ++ '.' :: (space ++ kept)

theorem exists_numbered_of_dropNumber? {t kept : Text} (h : ItemText.dropNumber? t = some kept) :
    ∃ groups space, Numbered t groups space kept := by
  obtain ⟨_, ⟨groups, space, hne, hgroups, hspace, hall, rfl⟩, ht⟩ :=
    ItemText.isNumberPrefix_of_dropNumber? h
  refine ⟨groups, space, hne, hgroups, hspace, hall, ?_⟩
  rw [ht, List.append_assoc, List.cons_append]

theorem stripNumber_of_dropNumber? {t kept : Text} (h : ItemText.dropNumber? t = some kept)
    (inlines : List Inline) :
    (ItemText.stripNumber (.text t :: inlines)).2
      = if kept = [] then inlines else .text kept :: inlines := by
  rw [ItemText.stripNumber, h]
  cases kept <;> rfl

/-- The ordinal of the line, where the text begins with a number. -/
theorem WrittenItem.ordinalsOf_getElem? (w : WrittenItem source item) {groups : List Text}
    {space kept : Text} (h : Numbered w.text groups space kept) {items : List ListItem}
    {index : Nat} (hitem : items[index]? = some item) :
    (ordinalsOf source items)[index]?
      = some (if 2 ≤ groups.length then .decimal (Ordinal.joinGroups groups)
          else w.marker.ordinal (Ordinal.joinGroups groups) (space ++ kept ++ w.more)) := by
  have hafter : ∀ c ∈ (space ++ kept ++ w.more).head?, Text.isSpace c = true := by
    obtain ⟨d, space, rfl⟩ := List.exists_cons_of_ne_nil h.space_ne_nil
    intro c hc
    obtain rfl := Option.some.inj hc
    exact h.isSpace d List.mem_cons_self
  have htext : w.text ++ w.more
      = Ordinal.joinGroups groups ++ '.' :: (space ++ kept ++ w.more) := by
    rw [h.eq, List.append_assoc, List.cons_append]
  rw [ordinalsOf, List.getElem?_map, hitem, Option.map_some, ListItem.markerLine, w.line_eq,
    Option.getD_some, htext, w.marker.ofLine_text w.isFree w.gap h.ne_nil h.isDigitGroup hafter]

/-- The number of an item out of whose text a number was taken. -/
theorem WrittenItem.numberShown (w : WrittenItem source item) {groups : List Text}
    {space kept : Text} (h : Numbered w.text groups space kept) {l : ItemList} {index : Nat}
    (hitem : l.items[index]? = some item) {number : Option Text}
    (hnumber : (l.numbers source)[index]? = some number) :
    NumberShown source l index groups
      (w.marker.ordinal (Ordinal.joinGroups groups) (space ++ kept ++ w.more))
      (number.map .string) := by
  have hordinal := w.ordinalsOf_getElem? h hitem
  rcases numbers_getElem? hnumber with ⟨hordered, rfl⟩ | ⟨text, hordered, rfl, htext⟩
  · exact .unordered hordered
  · split at hordinal
    next htwo =>
      have hdecimal := (Ordinal.displayNumbers_getElem? _ _ _).mpr (.decimal hordinal)
      rw [hdecimal, Option.some.injEq] at htext
      exact htext ▸ .dotted hordered htwo
    next hone =>
      have hpos := List.length_pos_of_ne_nil h.ne_nil
      exact .single hordered (by omega) hordinal htext

/-- When a number is taken out of the text of an item, the item shows it if it is dotted, unless its
list is unordered.  A single group of digits is taken out as well, and then the item shows what its
list makes of the marker. -/
theorem numberShown_of_dropNumber? {nodes : List Node} {path : List Nat} {l : ItemList}
    {index : Nat} {kept : Text}
    (hitem : partAt? (nodes.map .node) path = some (.item l index item))
    (w : WrittenItem source item) (hdrop : ItemText.dropNumber? w.text = some kept) :
    ∃ (c : Component) (groups : List Text) (space : Text),
      partAt? ((restructureLists source nodes).map .node) path = some (.node (.component c))
        ∧ Numbered w.text groups space kept
        ∧ c.children.head? = some (.paragraph (ItemText.takeColons
            (if kept = [] then w.inlines else .text kept :: w.inlines)).2)
        ∧ NumberShown source l index groups
            (w.marker.ordinal (Ordinal.joinGroups groups) (space ++ kept ++ w.more))
            (c.attribute? Names.numberAttribute) := by
  obtain ⟨groups, space, hnumbered⟩ := exists_numbered_of_dropNumber? hdrop
  have hrel := rel_partAt? (forall₂_restructureAll source 0 nodes) path
  rw [hitem] at hrel
  generalize hpart : partAt? ((restructureAll source 0 nodes).map Part.node) path = part at hrel
  cases hrel with
  | some hrestructured =>
    cases hrestructured with
    | item _ hnumber =>
      refine ⟨_, groups, space, hpart, hnumbered, ?_, ?_⟩
      · rw [w.children_eq, restructureAll, Node.restructure, itemComponent, cleanItem,
          stripNumber_of_dropNumber? hdrop]
        rfl
      · rw [attribute?_itemComponent]
        exact w.numberShown hnumbered (getElem?_items_of_partAt? hitem) hnumber

/-- The number `2.1` behind the marker of an ordered item. -/
theorem numberShown_of_dropNumber?_subNumber :
    let source : Text := "1. 2.1. Use a map\n"
    let item := textItem "2.1. Use a map" 0 18
    let list : ItemList := ⟨true, some 1, [item], ⟨0, 18⟩⟩
    let w : WrittenItem source item :=
      ⟨[], .number ⟨['1'], '.', List.cons_ne_nil _ _, by simp, .inl rfl⟩,
        ⟨[' '], List.cons_ne_nil _ _, by simp [Text.isBlank]⟩, "2.1. Use a map", [], [], [],
        by simp, rfl, by decide +kernel⟩
    partAt? ([Node.list list].map .node) [0, 0] = some (.item list 0 item)
      ∧ ItemText.dropNumber? w.text = some "Use a map".toList
      ∧ ∃ (c : Component) (groups : List Text) (space : Text),
        partAt? ((restructureLists source [.list list]).map .node) [0, 0]
            = some (.node (.component c))
          ∧ Numbered w.text groups space "Use a map".toList
          ∧ c.children.head? = some (.paragraph (ItemText.takeColons
              (if "Use a map".toList = [] then w.inlines
                else .text "Use a map".toList :: w.inlines)).2)
          ∧ NumberShown source list 0 groups
              (w.marker.ordinal (Ordinal.joinGroups groups)
                (space ++ "Use a map".toList ++ w.more))
              (c.attribute? Names.numberAttribute) := by
  intro source item list w
  have hdrop : ItemText.dropNumber? w.text = some "Use a map".toList := by decide
  exact ⟨rfl, hdrop, numberShown_of_dropNumber? rfl w hdrop⟩

/-- A list of one item with one text, which begins with a number and does not end in a colon. -/
theorem restructureLists_textItem {source t kept : Text} {ordered : Bool} {start : Option Nat}
    {first last : Nat} {span : ByteRange} {number : Option Text}
    (hnumbers : ItemList.numbers source ⟨ordered, start, [textItem t first last], span⟩ = [number])
    (hdrop : ItemText.dropNumber? t = some kept) (hkept : kept ≠ [])
    (hcolon : Text.dropSuffix? ":" kept = none) :
    restructureLists source [.list ⟨ordered, start, [textItem t first last], span⟩]
      = [.component (listComponent ordered 1 [.component ⟨Names.listItem,
          ⟨Names.levelAttribute, .integer 1⟩
            :: number.toList.map fun n => ⟨Names.numberAttribute, .string n⟩,
          [.paragraph [.text kept]]⟩])] := by
  have hclean : cleanItem [.paragraph [.text t]] = (false, [.paragraph [.text kept]]) := by
    rw [cleanItem, stripNumber_of_dropNumber? hdrop, if_neg hkept, ItemText.takeColons,
      ItemText.takeColons, ItemText.takeColon, hcolon]
    rfl
  rw [restructureLists, restructureAll, Node.restructure, hnumbers, textItem, restructureItems,
    restructureAll, restructureAll, restructureAll, Node.restructure, itemComponent, hclean,
    restructureItems]
  · simp [Names.itemComponent]
  · simp

/-- An item of an unordered list loses the number `2.1`, and an ordered item shows the number of its
marker instead of the one in its text. -/
theorem restructureLists_lostNumbers :
    restructureLists "- 2.1. Foo\n" [.list ⟨false, none, [textItem "2.1. Foo" 0 11], ⟨0, 11⟩⟩]
        = [.component (listComponent false 1 [.component ⟨Names.listItem,
            [⟨Names.levelAttribute, .integer 1⟩], [.paragraph [.text "Foo"]]⟩])]
      ∧ restructureLists "1. 1234567890. x\n"
          [.list ⟨true, some 1, [textItem "1234567890. x" 0 17], ⟨0, 17⟩⟩]
        = [.component (listComponent true 1 [.component ⟨Names.listItem,
            [⟨Names.levelAttribute, .integer 1⟩, ⟨Names.numberAttribute, .string "1"⟩],
            [.paragraph [.text "x"]]⟩])] := by
  have hfoo : ItemText.dropNumber? "2.1. Foo" = some "Foo".toList := by decide +kernel
  have hx : ItemText.dropNumber? "1234567890. x" = some "x".toList := by decide +kernel
  have hnone : ItemList.numbers "- 2.1. Foo\n"
      ⟨false, none, [textItem "2.1. Foo" 0 11], ⟨0, 11⟩⟩ = [none] := rfl
  have hone : ItemList.numbers "1. 1234567890. x\n"
      ⟨true, some 1, [textItem "1234567890. x" 0 17], ⟨0, 17⟩⟩ = [some "1".toList] := by
    decide +kernel
  exact ⟨restructureLists_textItem hnone hfoo (by decide) (by decide),
    restructureLists_textItem hone hx (by decide) (by decide)⟩

end Weave
