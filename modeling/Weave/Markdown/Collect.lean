import Weave.Document.DecimalItem
import Weave.Document.ItemTag
import Weave.Fence.InfoString
import Weave.Markdown.Event

/-!
# Nodes of an event stream

The collectors turn an event stream into nodes.  They accept every stream: an end event closes the
innermost collector that waits for its kind, an inline run stops in front of a block, and events
without meaning in a place are passed over.

Each collector returns what it has read and the events that it leaves.  The type `Reading` holds
the bound that makes the recursion well-founded: what is left is never longer than what was there.
-/

namespace Weave.Markdown

/-- What has been read off the front of `events`, and the events that are left. -/
structure Reading (α : Type) (events : List Event) where
  value : α
  rest : List Event
  rest_le : rest.length ≤ events.length

namespace Reading

variable {α β γ : Type} {events : List Event}

/-- Nothing is read. -/
def stay (value : α) : Reading α events := ⟨value, events, Nat.le_refl _⟩

/-- The first event is passed over. -/
def skip {e : Event} (r : Reading α events) : Reading α (e :: events) :=
  ⟨r.value, r.rest, Nat.le_succ_of_le r.rest_le⟩

/-- A reading that passes over an event leaves less than there was. -/
theorem rest_skip_lt (e : Event) (r : Reading α events) :
    (r.skip (e := e)).rest.length < (e :: events).length :=
  Nat.lt_succ_of_le r.rest_le

/-- The value is changed. -/
def map (f : α → β) (r : Reading α events) : Reading β events := ⟨f r.value, r.rest, r.rest_le⟩

/-- A reading followed by a reading of what it left. -/
def andThen (first : Reading α events)
    (next : (rest : List Event) → rest.length ≤ events.length → Reading β rest)
    (f : α → β → γ) : Reading γ events :=
  let second := next first.rest first.rest_le
  ⟨f first.value second.value, second.rest, Nat.le_trans second.rest_le first.rest_le⟩

end Reading

/-! ## Inline runs -/

/-- A text in front of a run; it joins a text that the run begins with. -/
def pushText (s : Text) : List Inline → List Inline
  | .text t :: run => .text (s ++ t) :: run
  | run => .text s :: run

/-- The element of an inline tag around its content. -/
def inlineElement? (tag : Tag) (content : List Inline) : Option Inline :=
  match tag with
  | .emphasis => some (.emphasis content)
  | .strong => some (.strong content)
  | .strikethrough => some (.strikethrough content)
  | .link dest title => some (.link dest title content)
  | .image dest title => some (.image dest title content)
  | _ => none

/-- Reads an inline run up to the end event of the kind `close`, which is consumed.  Another end
event or the start of a block stops the run and stays. -/
def collectInlines (close : Option TagKind) (events : List Event) :
    Reading (List Inline) events :=
  match events with
  | [] => .stay []
  | .stop kind :: events =>
    if close = some kind then (Reading.stay []).skip else .stay []
  | .start tag range :: events =>
    if tag.isInline then
      ((collectInlines (some tag.kind) events).andThen (fun rest _ => collectInlines close rest)
        fun content run => (inlineElement? tag content).toList ++ run).skip
    else .stay []
  | .text s :: events => ((collectInlines close events).map (pushText s)).skip
  | .inlineHtml s :: events => ((collectInlines close events).map (pushText s)).skip
  | .code s :: events => ((collectInlines close events).map (.codeSpan s :: ·)).skip
  | .softBreak :: events => ((collectInlines close events).map (.softBreak :: ·)).skip
  | .hardBreak :: events => ((collectInlines close events).map (.hardBreak :: ·)).skip
  | .html _ :: events => (collectInlines close events).skip
  | .rule :: events => (collectInlines close events).skip
  | .inlineMath _ :: events => (collectInlines close events).skip
  | .displayMath _ :: events => (collectInlines close events).skip
  | .footnoteReference _ :: events => (collectInlines close events).skip
  | .taskMarker :: events => (collectInlines close events).skip
termination_by events.length

/-- A run that begins with an inline event consumes it. -/
theorem collectInlines_rest_lt {e : Event} (h : e.startsInline) (events : List Event) :
    (collectInlines none (e :: events)).rest.length < (e :: events).length := by
  cases e with
  | start tag range =>
    have ht : tag.isInline = true := h
    rw [collectInlines]
    simp only [ht, if_true]
    exact Reading.rest_skip_lt _ _
  | text s => rw [collectInlines]; exact Reading.rest_skip_lt _ _
  | code s => rw [collectInlines]; exact Reading.rest_skip_lt _ _
  | inlineHtml s => rw [collectInlines]; exact Reading.rest_skip_lt _ _
  | softBreak => rw [collectInlines]; exact Reading.rest_skip_lt _ _
  | hardBreak => rw [collectInlines]; exact Reading.rest_skip_lt _ _
  | stop kind => simp [Event.startsInline] at h
  | html s => simp [Event.startsInline] at h
  | rule => simp [Event.startsInline] at h
  | inlineMath s => simp [Event.startsInline] at h
  | displayMath s => simp [Event.startsInline] at h
  | footnoteReference label => simp [Event.startsInline] at h
  | taskMarker => simp [Event.startsInline] at h

/-- Reads an inline run that begins with the event `e`. -/
def collectRun {e : Event} (h : e.startsInline) (events : List Event) :
    Reading (List Inline) events :=
  ⟨(collectInlines none (e :: events)).value, (collectInlines none (e :: events)).rest,
    Nat.le_of_lt_succ (collectInlines_rest_lt h events)⟩

/-! ## Text and tables -/

/-- Reads the text of a code or HTML block up to its end event, which is consumed. -/
def collectText (close : TagKind) : (events : List Event) → Reading Text events
  | [] => .stay []
  | .stop kind :: events =>
    if kind = close then (Reading.stay []).skip else (collectText close events).skip
  | .text s :: events => ((collectText close events).map (s ++ ·)).skip
  | .html s :: events => ((collectText close events).map (s ++ ·)).skip
  | _ :: events => (collectText close events).skip

/-- What has been read of a table. -/
structure TableState where
  inHead : Bool
  row : List (List Inline)
  headers : List (List Inline)
  rows : List (List (List Inline))
  deriving Inhabited

/-- Reads a table up to its end event, which is consumed.  The cells before the end of the head
become the header, the cells before the end of a row a row. -/
def collectTable (state : TableState) (events : List Event) : Reading TableState events :=
  match events with
  | [] => .stay state
  | .stop .table :: events => (Reading.stay state).skip
  | .start .tableHead _ :: events => (collectTable { state with inHead := true } events).skip
  | .stop .tableHead :: events =>
    (collectTable { state with inHead := false, headers := state.row, row := [] } events).skip
  | .start .tableRow _ :: events => (collectTable { state with row := [] } events).skip
  | .stop .tableRow :: events =>
    if state.inHead then (collectTable state events).skip
    else
      (collectTable { state with rows := state.rows ++ [state.row], row := [] } events).skip
  | .start .tableCell _ :: events =>
    let cell := (collectInlines (some .tableCell) events).value
    ((collectInlines (some .tableCell) events).andThen
      (fun rest _ => collectTable { state with row := state.row ++ [cell] } rest)
      fun _ table => table).skip
  | _ :: events => (collectTable state events).skip
termination_by events.length

/-! ## Blocks and lists -/

/-- A value with the warnings that arose while it was read. -/
structure Warned (α : Type) where
  value : α
  warnings : List UnknownVariant
  deriving Inhabited

/-- The value is changed, and the warnings stay. -/
def Warned.map {α β : Type} (f : α → β) (w : Warned α) : Warned β := ⟨f w.value, w.warnings⟩

/-- A node in front of the nodes read after it. -/
def Warned.consNode (node : Node) (later : Warned (List Node)) : Warned (List Node) :=
  later.map (node :: ·)

/-- A node with its warnings in front of the nodes read after it. -/
def Warned.consWarned (node : Warned Node) (later : Warned (List Node)) : Warned (List Node) :=
  ⟨node.value :: later.value, node.warnings ++ later.warnings⟩

/-- The items of one item event, with their variants, in front of the items read after them. -/
def Warned.addItems (source : Text) (ordered : Bool) (span : ByteRange)
    (children : Warned (List Node)) (later : Warned (List ListItem)) : Warned (List ListItem) :=
  let item : ListItem := ⟨children.value, none, span⟩
  let pieces := if ordered then splitDecimalItems source item else [item]
  let taken := pieces.map ItemTag.takeVariant
  ⟨taken.map (·.1) ++ later.value,
    children.warnings ++ taken.flatMap (·.2) ++ later.warnings⟩

/-- The code block of a start event with its text. -/
def codeBlockNode (info : Option Text) (content : Text) (span : ByteRange) : Node :=
  match info with
  | some info =>
    let (language, metadata) := InfoString.parse info
    .codeBlock ⟨language, metadata, content, span⟩
  | none => .codeBlock ⟨none, [], content, span⟩

mutual

/-- Reads nodes up to the end event of the kind `close`, which is consumed, or to the end of the
stream.  Inline events directly in a container become a paragraph. -/
def collectBlocks (source : Text) (close : Option TagKind) (events : List Event) :
    Reading (Warned (List Node)) events :=
  match events with
  | [] => .stay ⟨[], []⟩
  | .stop kind :: events =>
    if close = some kind then (Reading.stay ⟨[], []⟩).skip
    else (collectBlocks source close events).skip
  | .start (.heading level id) span :: events =>
    ((collectInlines (some .heading) events).andThen
      (fun rest _ => collectBlocks source close rest) fun content later =>
        later.consNode (.heading ⟨level, id, content, span⟩)).skip
  | .start .paragraph _ :: events =>
    ((collectInlines (some .paragraph) events).andThen
      (fun rest _ => collectBlocks source close rest) fun content later =>
        later.consNode (.paragraph content)).skip
  | .start (.codeBlock info) span :: events =>
    ((collectText .codeBlock events).andThen
      (fun rest _ => collectBlocks source close rest) fun content later =>
        later.consNode (codeBlockNode info content span)).skip
  | .start (.list number) span :: events =>
    ((collectItems source number.isSome events).andThen
      (fun rest _ => collectBlocks source close rest) fun items later =>
        Warned.consWarned (items.map fun items => .list ⟨number.isSome, number, items, span⟩)
          later).skip
  | .start .blockquote _ :: events =>
    ((collectBlocks source (some .blockquote) events).andThen
      (fun rest _ => collectBlocks source close rest) fun children later =>
        Warned.consWarned (children.map .blockquote) later).skip
  | .start (.table alignments) _ :: events =>
    ((collectTable default events).andThen
      (fun rest _ => collectBlocks source close rest) fun table later =>
        later.consNode (.table alignments table.headers table.rows)).skip
  | .start .htmlBlock _ :: events =>
    ((collectText .htmlBlock events).andThen
      (fun rest _ => collectBlocks source close rest) fun html later =>
        later.consNode (.html html)).skip
  | .html html :: events =>
    ((collectBlocks source close events).map (Warned.consNode (.html html))).skip
  | .rule :: events =>
    ((collectBlocks source close events).map (Warned.consNode .horizontalRule)).skip
  | e :: events =>
    if h : e.startsInline then
      ((collectRun h events).andThen
        (fun rest _ => collectBlocks source close rest) fun content later =>
          if content.isEmpty then later else later.consNode (.paragraph content)).skip
    else (collectBlocks source close events).skip
termination_by events.length

/-- Reads the items of a list up to its end event, which is consumed. -/
def collectItems (source : Text) (ordered : Bool) (events : List Event) :
    Reading (Warned (List ListItem)) events :=
  match events with
  | [] => .stay ⟨[], []⟩
  | .stop .list :: events => (Reading.stay ⟨[], []⟩).skip
  | .start .item span :: events =>
    ((collectBlocks source (some .item) events).andThen
      (fun rest _ => collectItems source ordered rest)
      (Warned.addItems source ordered span)).skip
  | _ :: events => (collectItems source ordered events).skip
termination_by events.length

end

/-- The document of an event stream and the warnings about its item tags. -/
def documentOf (source : Text) (events : List Event) : Document × List UnknownVariant :=
  let read := (collectBlocks source none events).value
  (read.value, read.warnings)

end Weave.Markdown
