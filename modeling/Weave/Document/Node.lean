import Weave.Document.CodeBlock
import Weave.Document.Inline

/-!
# Documents

A document is a sequence of block nodes.  Components are the nodes that passes over the document
make; a renderer knows them by name.
-/

namespace Weave

/-- The value of a component attribute. -/
inductive AttrValue where
  | string (value : Text)
  | integer (value : Int)
  | boolean (value : Bool)
  deriving DecidableEq, Repr, Inhabited

namespace AttrValue

/-- The value, if it is an integer. -/
def integer? : AttrValue → Option Int
  | integer n => some n
  | _ => none

/-- The value, if it is a string. -/
def string? : AttrValue → Option Text
  | string s => some s
  | _ => none

/-- The value, if it is a boolean. -/
def boolean? : AttrValue → Option Bool
  | boolean b => some b
  | _ => none

/-- The written form; a string stands in double quotes, with a backslash before a quote. -/
def render : AttrValue → Text
  | string s => "\"" ++ s.replace "\"" "\\\"" ++ "\""
  | integer n => Text.ofInt n
  | boolean b => if b then "true" else "false"

end AttrValue

/-- A named attribute of a component. -/
structure Attribute where
  name : Text
  value : AttrValue
  deriving DecidableEq, Repr, Inhabited

/-- The alignment of a table column. -/
inductive Alignment where
  | none
  | left
  | center
  | right
  deriving DecidableEq, Repr, Inhabited

/-- A heading of rank 1 to 6 with its anchor id, authored or assigned. -/
structure Heading where
  level : Nat
  id : Option Text
  content : List Inline
  span : ByteRange
  deriving Repr, BEq, Inhabited

/-- The visible text of a heading. -/
def Heading.text (h : Heading) : Text := Inline.plainTextOf h.content

mutual

/-- A node made by a pass, handed to the renderer by name. -/
structure Component where
  name : Text
  attributes : List Attribute
  children : List Node

/-- A list item.  Its span starts on the line of its marker; the variant is the tag that selects
its component. -/
structure ListItem where
  children : List Node
  variant : Option Text
  span : ByteRange

/-- A list; ordered lists carry the number of their first marker. -/
structure ItemList where
  ordered : Bool
  start : Option Nat
  items : List ListItem
  span : ByteRange

/-- A block-level node. -/
inductive Node where
  | paragraph (content : List Inline)
  | heading (heading : Heading)
  | codeBlock (block : CodeBlock)
  | list (list : ItemList)
  | blockquote (children : List Node)
  | table (alignments : List Alignment) (headers : List (List Inline))
      (rows : List (List (List Inline)))
  | html (html : Text)
  | horizontalRule
  | component (component : Component)

end

deriving instance Repr, BEq, Inhabited for Component, ListItem, ItemList, Node

/-- A sequence of block nodes. -/
abbrev Document := List Node

namespace Component

/-- A component without attributes and children. -/
def named (name : Text) : Component := ⟨name, [], []⟩

/-- The component with one more attribute at the end. -/
def addAttribute (c : Component) (name : Text) (value : AttrValue) : Component :=
  { c with attributes := c.attributes ++ [⟨name, value⟩] }

/-- The component with these children. -/
def withChildren (c : Component) (children : List Node) : Component :=
  { c with children := children }

/-- The value of the first attribute with this name. -/
def attribute? (c : Component) (name : Text) : Option AttrValue :=
  (c.attributes.find? (·.name == name)).map (·.value)

/-- Whether the component has this name. -/
def is (c : Component) (name : Text) : Bool := c.name == name

end Component

/-- The component of a component node. -/
def Node.component? : Node → Option Component
  | .component c => some c
  | _ => none

/-- The heading of a heading node. -/
def Node.heading? : Node → Option Heading
  | .heading h => some h
  | _ => none

end Weave
