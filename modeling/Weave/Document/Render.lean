import Weave.Document.Node
import Weave.Text.Lines

/-!
# Markdown of a document

`Node.render` writes a node as markdown; components appear as tags.  A document is its nodes with
an empty line between each two.
-/

namespace Weave

/-- The lines of a text with a marker before each. -/
def prefixLines (marker : Text) (t : Text) : Text :=
  t.lines.flatMap fun line => marker ++ line ++ ['\n']

/-- A list item: the marker before the first line, and the further lines indented under it.  Empty
lines stay empty. -/
def renderItem (marker body : Text) : Text :=
  match body.lines with
  | [] => marker.trimEnd ++ ['\n']
  | first :: rest =>
    marker ++ first ++ ['\n'] ++ rest.flatMap fun line =>
      if line.isEmpty then ['\n'] else List.replicate marker.length ' ' ++ line ++ ['\n']

/-- The marker of an item, by its number. -/
def itemMarker (ordered : Bool) (number : Nat) : Text :=
  if ordered then Text.ofNat number ++ ". " else "- "

/-- A table row with one cell per run. -/
def renderRow (cells : List (List Inline)) : Text :=
  "|".toList ++ cells.flatMap (fun cell => " ".toList ++ Inline.renderAll cell ++ " |".toList)
    ++ ['\n']

/-- A table; every column is ruled alike. -/
def renderTable (headers : List (List Inline)) (rows : List (List (List Inline))) : Text :=
  renderRow headers ++ "|" ++ headers.flatMap (fun _ => "---|".toList) ++ ['\n']
    ++ rows.flatMap renderRow

/-- A heading with its id in braces. -/
def Heading.render (h : Heading) : Text :=
  List.replicate h.level '#' ++ " " ++ Inline.renderAll h.content
    ++ (match h.id with
        | none => []
        | some id => " \x7b#" ++ id ++ "\x7d")
    ++ ['\n']

/-- A component as a tag around the markdown of its children. -/
def renderComponent (name : Text) (attributes : List Attribute) (isEmpty : Bool) (body : Text) :
    Text :=
  let written (a : Attribute) : Text := " " ++ a.name ++ "=" ++ a.value.render
  let opening : Text := "<" ++ name ++ attributes.flatMap written
  if isEmpty then opening ++ " />\n" else opening ++ ">\n" ++ body ++ "</" ++ name ++ ">\n"

mutual

/-- The markdown of a node. -/
def Node.render : Node → Text
  | .paragraph content => Inline.renderAll content ++ ['\n']
  | .heading h => h.render
  | .codeBlock b => b.render
  | .list ⟨ordered, start, items, _⟩ => renderItems ordered (start.getD 1) items
  | .blockquote children => prefixLines "> " (Node.renderAll children)
  | .table _ headers rows => renderTable headers rows
  | .html html => html ++ (if html.endsWith "\n" then [] else ['\n'])
  | .horizontalRule => "---\n"
  | .component ⟨name, attributes, children⟩ =>
    renderComponent name attributes children.isEmpty (Node.renderAll children)

/-- The markdown of nodes, one after the other. -/
def Node.renderAll : List Node → Text
  | [] => []
  | n :: ns => Node.render n ++ Node.renderAll ns

/-- The markdown of list items, numbered upwards. -/
def renderItems (ordered : Bool) (number : Nat) : List ListItem → Text
  | [] => []
  | ⟨children, _, _⟩ :: items =>
    renderItem (itemMarker ordered number) (Node.renderAll children)
      ++ renderItems ordered (number + 1) items

end

/-- The markdown of a document. -/
def Document.render (d : Document) : Text := Text.join "\n" (d.map Node.render)

end Weave
