import Weave.Markdown.Emphasis
import Weave.Markdown.HtmlTag
import Weave.Markdown.LinkPart
import Weave.Markdown.Token

/-!
# Inline content

The tokens of a block are read from the first to the last one into pieces.  Code, HTML and bracketed
addresses are settled where they begin; a closing bracket makes a link of what follows the innermost
opening one, if a target stands behind it or its label is defined.  Emphasis is settled last, and
separately in the content of every link.

Labels stand for their targets only as long as the targets that have been put in take up less than
an allowance, so that a text can grow only so much.

A construct is scanned in the source itself, so that it may end inside a token; the tokens that it
covers are then passed over.
-/

namespace Weave.Markdown

/-! ## Tokens in their source -/

/-- A token with the source from its start on, and from its end on. -/
structure PlacedToken extends Token where
  here : Text
  behind : Text
  deriving Inhabited

namespace PlacedToken

/-- The source of the token. -/
def source (k : PlacedToken) : Text := takeBytes (k.stop - k.start) k.here

/-- Some tokens in a text that begins at an offset.  Where the text begins with a line ending, the
white space in front of it belongs to the first token. -/
def place (offset : Nat) (t : Text) : List Token → List PlacedToken
  | [] => []
  | k :: ks =>
    let start := max k.start offset
    let here := dropBytes (start - offset) t
    ⟨k, here, dropBytes (k.stop - start) here⟩ :: place start here ks

/-- The tokens that end behind an offset, at which the source `rest` begins. -/
def dropTo (offset : Nat) (rest : Text) (ks : List PlacedToken) : List PlacedToken :=
  match ks.dropWhile (·.stop ≤ offset) with
  | k :: ks => if k.start < offset then { k with start := offset, here := rest } :: ks else k :: ks
  | [] => []

/-- The tokens with the first one that ends behind an offset as a closing bracket which is no
reference by itself. -/
def spend (offset : Nat) : List PlacedToken → List PlacedToken
  | [] => []
  | k :: ks =>
    if k.stop ≤ offset then k :: spend offset ks else { k with kind := .closing false } :: ks

end PlacedToken

/-- What the constructs of some inline content depend on. -/
structure InlineScope where
  targets : LinkTargets
  /-- The range of the block. -/
  range : ByteRange
  chain : List Container
  inTable : Bool
  /-- The offset at which the content ends. -/
  stop : Nat
  deriving Inhabited

namespace InlineScope

/-- The offset at which the rest of the content begins. -/
def offsetOf (s : InlineScope) (rest : Text) : Nat := s.stop - rest.byteLength

/-- The length of the marks of containers that a line begins with. -/
def lineStart (s : InlineScope) (line : Text) : Nat := marksLength s.chain line

end InlineScope

/-! ## Addresses -/

/-- The address in front of a closing angle bracket, if it has a scheme of 2 to 32 characters. -/
def uriAddress? (t : Text) : Option Text :=
  let address := t.takeWhile fun c => ' ' < c && c != '<' && c != '>'
  let scheme := address.takeWhile fun c => c.isAlphanum || c == '.' || c == '-' || c == '+'
  if (t.drop address.length).head? = some '>' ∧ (t.drop scheme.length).head? = some ':'
      ∧ scheme.head?.any Char.isAlpha ∧ 2 ≤ scheme.length ∧ scheme.length ≤ 32 then some address
  else none

/-- A character of the local part of a mail address. -/
def isMailChar (c : Char) : Bool :=
  c.isAlphanum || c ∈ ['.', '!', '#', '$', '%', '&', '\'', '*', '+', '/', '=', '?', '^', '_', '`',
    '\x7b', '|', '\x7d', '~', '-']

/-- A label of a domain: letters, digits and inner hyphens, at most 63. -/
def isDomainLabel (t : Text) : Bool :=
  1 ≤ t.length && t.length ≤ 63 && t.all (fun c => c.isAlphanum || c == '-')
    && t.head? != some '-' && t.getLast? != some '-'

/-- The mail address in front of a closing angle bracket. -/
def mailAddress? (t : Text) : Option Text :=
  let user := t.takeWhile isMailChar
  match t.drop user.length with
  | '@' :: rest =>
    let domain := rest.takeWhile (· != '>')
    if (rest.drop domain.length).isEmpty ∨ !(Text.splitOn '.' domain).all isDomainLabel then none
    else some (user ++ '@' :: domain)
  | _ => none

/-! ## HTML -/

/-- A text without the marks that its lines begin with behind each line ending.  The counter skips
the characters of a mark. -/
def withoutMarks (s : InlineScope) : (skip : Nat) → Text → Text
  | _, [] => []
  | skip + 1, _ :: t => withoutMarks s skip t
  | 0, c :: t =>
    if isEnding c ∧ ¬(c = '\r' ∧ t.head? = some '\n') then c :: withoutMarks s (s.lineStart t) t
    else c :: withoutMarks s 0 t

/-- What is left of a text when its first `kept` characters besides the marks are passed over. -/
def dropKept (s : InlineScope) : (kept skip : Nat) → Text → Text
  | _, _, [] => []
  | kept, skip + 1, _ :: t => dropKept s kept skip t
  | 0, 0, c :: t => c :: t
  | kept + 1, 0, c :: t =>
    if isEnding c ∧ ¬(c = '\r' ∧ t.head? = some '\n') then dropKept s kept (s.lineStart t) t
    else dropKept s kept 0 t

/-- A piece of HTML in front of which a `<` stands, and the rest.  The marks of containers do not
belong to a tag; elsewhere they do. -/
def inlineHtml? (s : InlineScope) (t : Text) : Option (Text × Text) :=
  let whole := '<' :: t
  match t with
  | c :: _ =>
    if c = '!' ∨ c = '?' then
      (afterDeclaration? whole).map fun rest => (whole.take (whole.length - rest.length), rest)
    else
      let unmarked := withoutMarks s 0 whole
      (afterTag? unmarked).map fun rest =>
        let length := unmarked.length - rest.length
        (unmarked.take length, dropKept s length 0 whole)
  | [] => none

/-! ## Code spans -/

/-- The content of a code span, whose line endings become spaces.  In a table a backslash does not
show in front of a bar.  The counter skips the characters of a mark. -/
def codeText (s : InlineScope) : (skip : Nat) → Text → Text
  | _, [] => []
  | skip + 1, _ :: t => codeText s skip t
  | 0, c :: t =>
    if isEnding c then ' ' :: codeText s (s.lineStart t) t
    else if s.inTable ∧ c = '\\' ∧ t.head? = some '|' then codeText s 0 t
    else c :: codeText s 0 t

/-- The text of a code span: one space goes at either end if both are there and something else
is. -/
def codeContent (s : InlineScope) (source : Text) : Text :=
  let t := codeText s 0 source
  if t.head? = some ' ' ∧ t.getLast? = some ' ' ∧ t.any (· != ' ') then (t.drop 1).dropLast else t

/-- The closing backticks of a code span among the tokens behind its opening ones, and the tokens
behind them. -/
def closingBackticks? (length : Nat) : List PlacedToken → Option (PlacedToken × List PlacedToken)
  | [] => none
  | k :: ks =>
    match k.kind with
    | .backticks n _ => if n = length then some (k, ks) else closingBackticks? length ks
    | _ => closingBackticks? length ks

/-! ## Targets of links -/

/-- White space with at most one line ending, and the rest. -/
def skipSeparator (s : InlineScope) (t : Text) : Text :=
  let t := t.dropWhile isInnerSpace
  match endingLength? t with
  | some ending =>
    let line : Text := t.drop ending
    (line.drop (s.lineStart line)).dropWhile isInnerSpace
  | none => t

/-- The number of characters from a line ending to the token with which the next line begins, if
there is one. -/
def nextLineLength? (s : InlineScope) (ks : List PlacedToken) (t : Text) : Option Nat :=
  let offset := s.offsetOf t
  (ks.find? fun k => offset + 1 < k.stop).bind fun k =>
    if offset < k.start then some (k.start - offset) else none

/-- The title up to the character that closes it.  The counter skips the characters of a
construct. -/
def inlineTitleBody? (inTable : Bool) (nextLine? : Text → Option Nat) (opening closing : Char) :
    (skip : Nat) → Text → Option (Text × Text)
  | _, [] => none
  | skip + 1, _ :: t => inlineTitleBody? inTable nextLine? opening closing skip t
  | 0, c :: t =>
    let readOn := fun (read : Text) (skip : Nat) =>
      (inlineTitleBody? inTable nextLine? opening closing skip t).map fun (body, rest) =>
        (read ++ body, rest)
    if c = closing then some ([], t)
    else if c = opening then none
    else
      match if isEnding c then nextLine? (c :: t) else none with
      | some length => readOn ['\n'] (length - 1)
      | none =>
        if c = '&' then
          match characterReference? t with
          | some (value, length) => readOn value length
          | none => readOn [c] 0
        else if c = '\\' then
          match t with
          | [] => none
          | d :: more =>
            if inTable ∧ d = '\\' ∧ more.head? = some '|' then
              match more.drop 1 with
              | e :: _ => if Text.isAsciiPunctuation e then readOn [e] 3 else readOn ['|'] 2
              | [] => none
            else if Text.isAsciiPunctuation d then readOn [d] 1
            else readOn [c] 0
        else readOn [c] 0

/-- A title in quotes or parentheses, and the rest. -/
def inlineTitle? (s : InlineScope) (ks : List PlacedToken) (t : Text) : Option (Text × Text) :=
  match t with
  | [] => none
  | c :: t =>
    let closing? :=
      if c = '"' ∨ c = '\'' then some c else if c = '(' then some ')' else none
    closing?.bind fun closing =>
      inlineTitleBody? s.inTable (nextLineLength? s ks) c closing 0 t

/-- A target in parentheses in front of some tokens, behind the opening one, and the rest. -/
def inlineTarget? (s : InlineScope) (ks : List PlacedToken) (t : Text) :
    Option (LinkTarget × Text) := do
  let start := skipSeparator s t
  let raw ← destination? start
  let behind := skipSeparator s (start.drop raw.length)
  let (title, behind) :=
    match inlineTitle? s ks behind with
    | some (title, rest) => (title, skipSeparator s rest)
    | none => ([], behind)
  match behind with
  | ')' :: rest => some (⟨unescape s.inTable raw.text, title⟩, rest)
  | _ => none

/-- What stands behind the closing bracket of a link or an image. -/
inductive Reference where
  /-- A target in parentheses, and the tokens behind. -/
  | inline (target : LinkTarget) (behind : List PlacedToken)
  /-- A label in brackets, and the tokens behind; the offset is that of its closing bracket. -/
  | full (key : Text) (bracket : Nat) (behind : List PlacedToken)
  /-- A label whose closing bracket does not belong to the content. -/
  | unclosed
  /-- Empty brackets or nothing, and the tokens behind: the text of the link is its label. -/
  | own (behind : List PlacedToken)
  deriving Inhabited

/-- A label behind its opening bracket. -/
def inlineLabel? (s : InlineScope) (t : Text) : Option Scanned :=
  label? s.inTable (fun line => some (s.lineStart line)) t

/-- Reads what stands behind a closing bracket, in front of which `t` and some tokens stand. -/
def Reference.read (s : InlineScope) (t : Text) (ks : List PlacedToken) : Reference :=
  match Text.dropPrefix? "(" t >>= inlineTarget? s ks with
  | some (target, rest) => .inline target (PlacedToken.dropTo (s.offsetOf rest) rest ks)
  | none =>
    match (ks.head?.map (·.here)).getD [] with
    | '[' :: ']' :: _ => .own (ks.drop 2)
    | '[' :: inner =>
      match inlineLabel? s inner with
      | some label =>
        let bracket := s.offsetOf (inner.drop label.length) - 1
        match ks.dropWhile (·.stop ≤ bracket) with
        | _ :: behind => .full label.text bracket behind
        | [] => .unclosed
      | none => .own ks
    | _ => .own ks

/-! ## Reading -/

/-- An open bracket. -/
structure Bracket where
  image : Bool
  /-- Whether the bracket can become a link; none can around a link. -/
  active : Bool
  /-- The pieces before the bracket, the latest first. -/
  before : List Piece
  /-- The bracket as text. -/
  text : Text
  /-- The source behind the bracket. -/
  behind : Text
  deriving Inhabited

/-- What has been read of some inline content. -/
structure InlineReader where
  /-- The pieces behind the innermost open bracket, the latest first. -/
  pieces : List Piece
  /-- The open brackets, the innermost first. -/
  brackets : List Bracket
  /-- The tokens that have not been read. -/
  tokens : List PlacedToken
  /-- The number of bytes that the targets of labels may still take up. -/
  allowance : Nat
  deriving Inhabited

namespace InlineReader

/-- Adds events, and goes on with some tokens. -/
def add (r : InlineReader) (events : List Event) (ks : List PlacedToken) : InlineReader :=
  { r with pieces := .settled events :: r.pieces, tokens := ks }

/-- Reads a token as plain text. -/
def addSource (r : InlineReader) (k : PlacedToken) (ks : List PlacedToken) : InlineReader :=
  r.add [.text k.source] ks

/-- The pieces with an open bracket as text. -/
def plainBracket (b : Bracket) (pieces : List Piece) : List Piece :=
  pieces ++ .settled [.text b.text] :: b.before

/-- An open bracket around a link. -/
def deactivate (b : Bracket) : Bracket := if b.image then b else { b with active := false }

/-- Backticks, which are text unless as many close them.  A guarded first one is text in any
case. -/
def readBackticks (s : InlineScope) (r : InlineReader) (length : Nat) (guarded : Bool)
    (k : PlacedToken) (ks : List PlacedToken) : InlineReader :=
  let opening := if guarded then length - 1 else length
  match if opening = 0 then none else closingBackticks? opening ks with
  | none => r.addSource k ks
  | some (closing, ks) =>
    let code := Event.code (codeContent s (takeBytes (closing.start - k.stop) k.behind))
    r.add (if guarded then [.text ['`'], code] else [code]) ks

/-- An angle bracket: an address or HTML, if one begins with the next token. -/
def readAngle (s : InlineScope) (r : InlineReader) (k : PlacedToken) (ks : List PlacedToken) :
    InlineReader :=
  let t := (ks.head?.map (·.here)).getD []
  match (uriAddress? t).or (mailAddress? t) with
  | some address =>
    let rest : Text := t.drop (address.length + 1)
    r.add (Nesting.wrap (.link address []) s.range [.text address])
      (PlacedToken.dropTo (s.offsetOf rest) rest ks)
  | none =>
    match inlineHtml? s t with
    | some (html, rest) => r.add [.inlineHtml html] (PlacedToken.dropTo (s.offsetOf rest) rest ks)
    | none => r.addSource k ks

/-- Opens a bracket. -/
def openBracket (r : InlineReader) (image : Bool) (k : PlacedToken) (ks : List PlacedToken) :
    InlineReader :=
  { r with
    pieces := []
    brackets := ⟨image, true, r.pieces, k.source, k.behind⟩ :: r.brackets
    tokens := ks }

/-- Makes a link of what follows an open bracket. -/
def closeLink (s : InlineScope) (r : InlineReader) (b : Bracket) (outer : List Bracket)
    (target : LinkTarget) (ks : List PlacedToken) : InlineReader :=
  let tag : Tag :=
    if b.image then .image target.dest target.title else .link target.dest target.title
  let content := settle s.range (r.pieces.any Piece.isRun) r.pieces.reverse
  { r with
    pieces := .settled (Nesting.wrap tag s.range content) :: b.before
    brackets := if b.image then outer else outer.map deactivate
    tokens := ks }

/-- The label that stands between an open bracket and a closing one, and ends with it. -/
def ownLabel? (s : InlineScope) (b : Bracket) (k : PlacedToken) : Option Text :=
  let source := takeBytes (k.stop - s.offsetOf b.behind) b.behind
  match inlineLabel? s source with
  | some label => if label.length = source.length then some label.text else none
  | none => none

/-- Makes a link to the target of a label of what follows an open bracket, if the label is defined
and something is left of the allowance. -/
def closeReference? (s : InlineScope) (r : InlineReader) (b : Bracket) (outer : List Bracket)
    (key : Text) (ks : List PlacedToken) : Option InlineReader :=
  if r.allowance = 0 then none
  else
    (s.targets.find? key).map fun target =>
      { r.closeLink s b outer target ks with allowance := r.allowance - target.byteLength }

/-- Closes the innermost bracket.  A label that is not defined is spent: its bracket is no reference
by itself any more. -/
def closeBracket (s : InlineScope) (r : InlineReader) (alone : Bool) (k : PlacedToken)
    (ks : List PlacedToken) : InlineReader :=
  match r.brackets with
  | [] => r.addSource k ks
  | b :: outer =>
    let plain := fun ks =>
      { r with pieces := plainBracket b r.pieces, brackets := outer }.addSource k ks
    if !b.active then plain ks
    else
      match Reference.read s k.behind ks with
      | .inline target behind => r.closeLink s b outer target behind
      | .full key bracket behind =>
        (r.closeReference? s b outer key behind).getD (plain (PlacedToken.spend bracket ks))
      | .unclosed => plain ks
      | .own behind =>
        let key? := if alone then ownLabel? s b k else none
        (key?.bind fun key => r.closeReference? s b outer key behind).getD (plain ks)

/-- Reads a token. -/
def readToken (s : InlineScope) (r : InlineReader) (k : PlacedToken) (ks : List PlacedToken) :
    InlineReader :=
  match k.kind with
  | .text _ => r.addSource k ks
  | .fixed t => r.add [.text t] ks
  | .marks run => { r with pieces := .run run k.source :: r.pieces, tokens := ks }
  | .backticks length guarded => r.readBackticks s length guarded k ks
  | .angle => r.readAngle s k ks
  | .opening image => r.openBracket image k ks
  | .closing alone => r.closeBracket s alone k ks
  | .softBreak => r.add [.softBreak] ks
  | .hardBreak backslash =>
    if backslash then { r with pieces := .backslashBreak :: r.pieces, tokens := ks }
    else r.add [.hardBreak] ks

/-- Reads at most `fuel` tokens. -/
def readTokens (s : InlineScope) : (fuel : Nat) → InlineReader → InlineReader
  | 0, r => r
  | fuel + 1, r =>
    match r.tokens with
    | [] => r
    | k :: ks => readTokens s fuel (r.readToken s k ks)

/-- All pieces, with the open brackets as text. -/
def finish (r : InlineReader) : List Piece :=
  (r.brackets.foldl (fun pieces b => plainBracket b pieces) r.pieces).reverse

end InlineReader

/-- The events of the inline content of a block; the allowance goes down by the targets of its
labels. -/
def inlineEvents (targets : LinkTargets) (range : ByteRange) (content : Content) :
    StateM Nat (List Event) := fun allowance =>
  let scope : InlineScope :=
    ⟨targets, range, content.chain, content.inTable, content.start + content.text.byteLength⟩
  let tokens := PlacedToken.place content.start content.text content.tokens
  let reader := InlineReader.readTokens scope tokens.length ⟨[], [], tokens, allowance⟩
  (settle range (content.tokens.any (·.kind.isActive)) reader.finish, reader.allowance)

end Weave.Markdown
