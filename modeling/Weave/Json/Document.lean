import Weave.Document.Node
import Weave.Json.Symbol

/-!
# JSON of documents

A node or an inline element is an object with its type and, unless the type says it all, its value.
-/

namespace Weave

/-- A value under its type. -/
def Json.typed (type : String) (value : Json) : Json :=
  .record [("type", .string type.toList), ("value", value)]

/-- A type without a value. -/
def Json.bare (type : String) : Json := .record [("type", .string type.toList)]

mutual

/-- An inline element as JSON. -/
def Inline.toJson : Inline → Json
  | .text value => .typed "text" (.string value)
  | .strong content => .typed "strong" (.array (inlinesToJson content))
  | .emphasis content => .typed "emphasis" (.array (inlinesToJson content))
  | .strikethrough content => .typed "strikethrough" (.array (inlinesToJson content))
  | .codeSpan code => .typed "codeSpan" (.string code)
  | .link dest title content =>
    .typed "link" (.record [("dest", .string dest), ("title", .string title),
      ("content", .array (inlinesToJson content))])
  | .image dest title alt =>
    .typed "image" (.record [("dest", .string dest), ("title", .string title),
      ("alt", .array (inlinesToJson alt))])
  | .softBreak => .bare "softBreak"
  | .hardBreak => .bare "hardBreak"

/-- The elements of a run as JSON. -/
def inlinesToJson : List Inline → List Json
  | [] => []
  | x :: xs => x.toJson :: inlinesToJson xs

end

/-- A run of inline elements as JSON. -/
def runToJson (content : List Inline) : Json := .array (inlinesToJson content)

/-- A heading as JSON. -/
def Heading.toJson (h : Heading) : Json :=
  .record [("level", .ofNat h.level), ("id", .ofText? h.id), ("content", runToJson h.content),
    ("span", h.span.toJson)]

/-- A metadata entry as JSON. -/
def MetaEntry.toJson (e : MetaEntry) : Json :=
  .record [("key", .string e.key), ("value", .ofText? e.value)]

/-- A code block as JSON. -/
def CodeBlock.toJson (b : CodeBlock) : Json :=
  .record [("language", .ofText? b.language), ("meta", .ofList MetaEntry.toJson b.metadata),
    ("content", .string b.content), ("span", b.span.toJson)]

/-- The alignment of a column as JSON. -/
def Alignment.toJson : Alignment → Json
  | .none => .string "None"
  | .left => .string "Left"
  | .center => .string "Center"
  | .right => .string "Right"

/-- The value of an attribute as JSON. -/
def AttrValue.toJson : AttrValue → Json
  | .string t => .string t
  | .integer n => .number n
  | .boolean b => .boolean b

/-- An attribute as JSON. -/
def Attribute.toJson (a : Attribute) : Json :=
  .record [("name", .string a.name), ("value", a.value.toJson)]

mutual

/-- A node as JSON. -/
def Node.toJson : Node → Json
  | .paragraph content => .typed "paragraph" (runToJson content)
  | .heading h => .typed "heading" h.toJson
  | .codeBlock b => .typed "codeBlock" b.toJson
  | .list ⟨ordered, start, items, span⟩ =>
    .typed "list" (.record [("ordered", .boolean ordered),
      ("start", (start.map Json.ofNat).getD .null), ("items", .array (itemsToJson items)),
      ("span", span.toJson)])
  | .blockquote children => .typed "blockquote" (.array (nodesToJson children))
  | .table alignments headers rows =>
    .typed "table" (.record [("alignments", .ofList Alignment.toJson alignments),
      ("headers", .ofList runToJson headers), ("rows", .ofList (Json.ofList runToJson) rows)])
  | .html html => .typed "html" (.string html)
  | .horizontalRule => .bare "horizontalRule"
  | .component ⟨name, attributes, children⟩ =>
    .typed "component" (.record [("name", .string name),
      ("attributes", .ofList Attribute.toJson attributes),
      ("children", .array (nodesToJson children))])

/-- Some nodes as JSON. -/
def nodesToJson : List Node → List Json
  | [] => []
  | n :: ns => n.toJson :: nodesToJson ns

/-- Some list items as JSON. -/
def itemsToJson : List ListItem → List Json
  | [] => []
  | ⟨children, variant, span⟩ :: items =>
    .record [("children", .array (nodesToJson children)), ("variant", .ofText? variant),
      ("span", span.toJson)] :: itemsToJson items

end

/-- A document as JSON. -/
def Document.toJson (document : Document) : Json :=
  .record [("nodes", .array (nodesToJson document))]

end Weave
