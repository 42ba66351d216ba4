import Weave.Markdown.Place

/-!
# HTML in markdown

What counts as HTML: open and closing tags, comments, processing instructions, declarations and
character data.  Each scanner takes a text and returns what is left behind the construct.

A block of HTML begins on a line with one of the openings of `HtmlBlockStart`, which also says how
the block ends.
-/

namespace Weave.Markdown

/-- A character that may begin the name of an attribute. -/
def isAttributeStart (c : Char) : Bool := c.isAlpha || c == '_' || c == ':'

/-- A character of the name of an attribute. -/
def isAttributeChar (c : Char) : Bool :=
  c.isAlphanum || c == '_' || c == '.' || c == ':' || c == '-'

/-- A character of an attribute value without quotes. -/
def isBareValueChar (c : Char) : Bool :=
  !(c ∈ ['"', '\'', ' ', '=', '>', '<', '`', '\n', '\r'])

/-- What is left behind the value of an attribute. -/
def afterValue? (t : Text) : Option Text :=
  match t with
  | [] => none
  | c :: rest =>
    if c = '"' ∨ c = '\'' then
      match rest.dropWhile (· != c) with
      | _ :: after => some after
      | [] => none
    else if c ∈ [' ', '=', '>', '<', '`', '\n', '\r'] then none
    else some (t.dropWhile isBareValueChar)

/-- What is left behind an attribute.  White space around the equals sign belongs to it. -/
def afterAttribute? (t : Text) : Option Text :=
  match t with
  | [] => none
  | c :: rest =>
    if !isAttributeStart c then none
    else
      let name := rest.dropWhile isAttributeChar
      match name.dropWhile isAnySpace with
      | '=' :: value => afterValue? (value.dropWhile isAnySpace)
      | _ => some name

/-- What is left behind the attributes of a tag, which stands before the end of the tag.  At most
`fuel` attributes are read; each must follow white space. -/
def afterAttributes? : (fuel : Nat) → Text → Option Text
  | 0, _ => none
  | fuel + 1, t =>
    let next := t.dropWhile isAnySpace
    match next with
    | '/' :: _ => some next
    | '>' :: _ => some next
    | _ =>
      if next.length = t.length then none
      else (afterAttribute? next).bind (afterAttributes? fuel)

/-- What is left behind an open or a closing tag. -/
def afterTag? (t : Text) : Option Text :=
  match t with
  | '<' :: '/' :: c :: rest =>
    if !c.isAlpha then none
    else
      match (rest.dropWhile fun d => d.isAlphanum || d == '-').dropWhile isInnerSpace with
      | '>' :: after => some after
      | _ => none
  | '<' :: c :: rest =>
    if !c.isAlpha then none
    else
      match afterAttributes? (t.length + 1) (rest.dropWhile fun d => d.isAlphanum || d == '-') with
      | some ('/' :: '>' :: after) => some after
      | some ('>' :: after) => some after
      | _ => none
  | _ => none

/-- What is left behind the first occurrence of `closing`. -/
def afterClosing? (closing t : Text) : Option Text := (Text.splitFirst? closing t).map (·.2)

/-- What is left behind character data, which ends with the first run of closing brackets in it; an
angle bracket must follow the run. -/
def afterCharacterData? (t : Text) : Option Text :=
  match t.dropWhile (· != ']') with
  | ']' :: behind =>
    match behind.dropWhile (· == ']') with
    | '>' :: after => some after
    | _ => none
  | _ => none

/-- What is left behind a comment, processing instruction, declaration or character data. -/
def afterDeclaration? (t : Text) : Option Text :=
  match t with
  | '<' :: '!' :: '-' :: '-' :: '>' :: rest => some rest
  | '<' :: '!' :: '-' :: '-' :: '-' :: '>' :: rest => some rest
  | '<' :: '!' :: '-' :: '-' :: rest => afterClosing? "-->" rest
  | '<' :: '!' :: '[' :: rest => (Text.dropPrefix? "CDATA[" rest).bind afterCharacterData?
  | '<' :: '!' :: c :: rest => if c.isAlpha then afterClosing? ">" rest else none
  | '<' :: '?' :: rest => afterClosing? "?>" rest
  | _ => none

/-! ## Blocks -/

/-- The elements that begin a block of HTML by their mere name. -/
def blockElements : List String := [
  "address", "article", "aside", "base", "basefont", "blockquote", "body", "caption", "center",
  "col", "colgroup", "dd", "details", "dialog", "dir", "div", "dl", "dt", "fieldset", "figcaption",
  "figure", "footer", "form", "frame", "frameset", "h1", "h2", "h3", "h4", "h5", "h6", "head",
  "header", "hr", "html", "iframe", "legend", "li", "link", "main", "menu", "menuitem", "nav",
  "noframes", "ol", "optgroup", "option", "p", "param", "search", "section", "summary", "table",
  "tbody", "td", "tfoot", "th", "thead", "title", "tr", "track", "ul"]

/-- The elements whose content is raw text. -/
def rawElements : List String := ["pre", "style", "script", "textarea"]

/-- How a block of HTML begins, and so where it ends. -/
inductive HtmlBlockStart where
  /-- The block ends with the line that holds a text. -/
  | upTo (closing : Text)
  /-- The block ends before a blank line. -/
  | element
  /-- A tag alone on its line; the block ends before a blank line.  It does not end a paragraph. -/
  | tag
  deriving DecidableEq, Repr, Inhabited

namespace HtmlBlockStart

/-- The text in ASCII lowercase. -/
def lower (t : Text) : Text := t.map Char.toLower

/-- The closing text of a block that must be closed, by the text behind its `<`. -/
def closing? (t : Text) : Option Text :=
  match rawElements.find? fun name =>
      lower (t.take name.length) == name.toList
        && (t.drop name.length).head?.all fun c => isAnySpace c || c == '>' with
  | some name => some ("</".toList ++ name.toList ++ ['>'])
  | none =>
    if t.startsWith "!--" then some "-->"
    else if t.startsWith "?" then some "?>"
    else if t.startsWith "![CDATA[" then some "]]>"
    else
      match t with
      | '!' :: c :: _ => if c.isAlpha then some ">" else none
      | _ => none

/-- Whether the text behind a `<` begins with the name of a block element. -/
def isElement (t : Text) : Bool :=
  let t := if t.startsWith "/" then t.drop 1 else t
  let name := t.takeWhile Char.isAlphanum
  let after : Text := t.drop name.length
  blockElements.any (·.toList == lower name)
    && match after with
      | [] => true
      | '/' :: '>' :: _ => true
      | c :: _ => c == ' ' || c == '\t' || c == '>' || isEnding c

/-- The beginning of a block of HTML on a line.  A tag that begins a block ends on its line. -/
def parse? (t : Text) : Option HtmlBlockStart :=
  match t with
  | '<' :: rest =>
    match closing? rest with
    | some closing => some (.upTo closing)
    | none =>
      if isElement rest then some .element
      else if (afterTag? (lineText t)).any isBlankLine then some .tag
      else none
  | _ => none

/-- Whether a block of HTML that begins like this ends a paragraph. -/
def endsParagraph : HtmlBlockStart → Bool
  | tag => false
  | _ => true

end HtmlBlockStart

end Weave.Markdown
