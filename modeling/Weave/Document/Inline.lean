import Weave.Text.Basic

/-!
# Inline content

What stands inside a line of text: runs of text, emphasis, code, links, images and line breaks.
`plainText` is the visible text of a run.
-/

namespace Weave

/-- An element inside a line of text. -/
inductive Inline where
  | text (value : Text)
  | strong (content : List Inline)
  | emphasis (content : List Inline)
  | strikethrough (content : List Inline)
  | codeSpan (code : Text)
  | link (dest title : Text) (content : List Inline)
  | image (dest title : Text) (alt : List Inline)
  | softBreak
  | hardBreak
  deriving Repr, BEq, Inhabited

namespace Inline

mutual

/-- The visible text of an element; a line break counts as a space. -/
def plainText : Inline → Text
  | text value => value
  | strong content => plainTextOf content
  | emphasis content => plainTextOf content
  | strikethrough content => plainTextOf content
  | codeSpan code => code
  | link _ _ content => plainTextOf content
  | image _ _ alt => plainTextOf alt
  | softBreak => [' ']
  | hardBreak => [' ']

/-- The visible text of a run. -/
def plainTextOf : List Inline → Text
  | [] => []
  | x :: xs => plainText x ++ plainTextOf xs

end

mutual

/-- The markdown of an element. -/
def render : Inline → Text
  | text value => value
  | strong content => "**" ++ renderAll content ++ "**"
  | emphasis content => "*" ++ renderAll content ++ "*"
  | strikethrough content => "~~" ++ renderAll content ++ "~~"
  | codeSpan code => "`" ++ code ++ "`"
  | link dest _ content => "[" ++ renderAll content ++ "](" ++ dest ++ ")"
  | image dest _ alt => "![" ++ renderAll alt ++ "](" ++ dest ++ ")"
  | softBreak => ['\n']
  | hardBreak => ['\n']

/-- The markdown of a run. -/
def renderAll : List Inline → Text
  | [] => []
  | x :: xs => render x ++ renderAll xs

end

/-- Whether the element breaks the line. -/
def isBreak : Inline → Bool
  | softBreak => true
  | hardBreak => true
  | _ => false

end Inline

end Weave
