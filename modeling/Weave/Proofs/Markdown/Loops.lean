import Weave.Proofs.Markdown.StreamReading

/-!
# The collectors as loops

The collectors share one index into the event stream.  Each is a loop that looks at the event at the
index, and moves the index on, runs another loop, or returns.

* `turn` is what each loop does with one event, and carries what has been collected along.
* `Loop.read` is what the collector reads, behind what has been collected.
* `follows_turn` compares the two, with one lemma for each loop: what the collector reads of an
  event and the events behind it is what the turn leaves to read.  `Follows` also says why the loops
  come to an end.  A call that does not move the index is made by the loop of the blocks alone
  (`Loop.rank`), and the loop that is called does not return before it has moved the index.
-/

namespace Weave.Markdown

/-! ## Loops -/

/-- Two runs as one; texts at the seam are joined. -/
def joinRuns : List Inline → List Inline → List Inline
  | [], later => later
  | [x], later =>
    match x with
    | .text s => pushText s later
    | x => x :: later
  | x :: y :: run, later => x :: joinRuns (y :: run) later

/-- A node with its warnings behind the nodes read before it. -/
def Warned.push (nodes : Warned (List Node)) (node : Warned Node) : Warned (List Node) :=
  ⟨nodes.value ++ [node.value], nodes.warnings ++ node.warnings⟩

/-- A collector with what it has collected so far. -/
inductive Loop where
  | blocks (close : Option TagKind) (nodes : Warned (List Node))
  | items (ordered : Bool) (items : Warned (List ListItem))
  | inlines (close : Option TagKind) (run : List Inline)
  | table (state : TableState)
  | text (close : TagKind) (text : Text)

namespace Loop

def nodes : Loop → Warned (List Node)
  | .blocks _ nodes => nodes
  | _ => ⟨[], []⟩

def listItems : Loop → Warned (List ListItem)
  | .items _ read => read
  | _ => ⟨[], []⟩

def run : Loop → List Inline
  | .inlines _ run => run
  | _ => []

def tableState : Loop → TableState
  | .table state => state
  | _ => default

def content : Loop → Text
  | .text _ t => t
  | _ => []

end Loop

/-- What a loop does with the event at the index. -/
inductive Turn where
  /-- It moves the index on. -/
  | next (loop : Loop)
  /-- It moves the index on and returns. -/
  | close
  /-- It returns and leaves the index where it is. -/
  | stop
  /-- It runs another loop, possibly behind the event, and goes on with what that one returns. -/
  | call (moves : Bool) (inner : Loop) (resume : Loop → Loop)

def blocksTurn (close : Option TagKind) (nodes : Warned (List Node)) : Event → Turn
  | .stop kind => if close = some kind then .close else .next (.blocks close nodes)
  | .start (.heading level id) span =>
    .call true (.inlines (some .heading) []) fun inner =>
      .blocks close (nodes.push ⟨.heading ⟨level, id, inner.run, span⟩, []⟩)
  | .start .paragraph _ =>
    .call true (.inlines (some .paragraph) []) fun inner =>
      .blocks close (nodes.push ⟨.paragraph inner.run, []⟩)
  | .start (.codeBlock info) span =>
    .call true (.text .codeBlock []) fun inner =>
      .blocks close (nodes.push ⟨codeBlockNode info inner.content span, []⟩)
  | .start (.list number) span =>
    .call true (.items number.isSome ⟨[], []⟩) fun inner =>
      .blocks close (nodes.push
        (inner.listItems.map fun items => .list ⟨number.isSome, number, items, span⟩))
  | .start .blockquote _ =>
    .call true (.blocks (some .blockquote) ⟨[], []⟩) fun inner =>
      .blocks close (nodes.push (inner.nodes.map .blockquote))
  | .start (.table alignments) _ =>
    .call true (.table default) fun inner =>
      .blocks close (nodes.push
        ⟨.table alignments inner.tableState.headers inner.tableState.rows, []⟩)
  | .start .htmlBlock _ =>
    .call true (.text .htmlBlock []) fun inner =>
      .blocks close (nodes.push ⟨.html inner.content, []⟩)
  | .html html => .next (.blocks close (nodes.push ⟨.html html, []⟩))
  | .rule => .next (.blocks close (nodes.push ⟨.horizontalRule, []⟩))
  | e =>
    if e.startsInline then
      .call false (.inlines none []) fun inner =>
        .blocks close (if inner.run.isEmpty then nodes else nodes.push ⟨.paragraph inner.run, []⟩)
    else .next (.blocks close nodes)

def itemsTurn (source : Text) (ordered : Bool) (items : Warned (List ListItem)) : Event → Turn
  | .stop .list => .close
  | .start .item span =>
    .call true (.blocks (some .item) ⟨[], []⟩) fun inner =>
      .items ordered (items.append (Warned.addItems source ordered span inner.nodes ⟨[], []⟩))
  | _ => .next (.items ordered items)

def inlinesTurn (close : Option TagKind) (run : List Inline) : Event → Turn
  | .stop kind => if close = some kind then .close else .stop
  | .start tag _ =>
    if tag.isInline then
      .call true (.inlines (some tag.kind) []) fun inner =>
        .inlines close (joinRuns run (inlineElement? tag inner.run).toList)
    else .stop
  | .text s => .next (.inlines close (joinRuns run [.text s]))
  | .inlineHtml s => .next (.inlines close (joinRuns run [.text s]))
  | .code s => .next (.inlines close (joinRuns run [.codeSpan s]))
  | .softBreak => .next (.inlines close (joinRuns run [.softBreak]))
  | .hardBreak => .next (.inlines close (joinRuns run [.hardBreak]))
  | .html _ => .next (.inlines close run)
  | .rule => .next (.inlines close run)
  | .inlineMath _ => .next (.inlines close run)
  | .displayMath _ => .next (.inlines close run)
  | .footnoteReference _ => .next (.inlines close run)
  | .taskMarker => .next (.inlines close run)

def tableTurn (state : TableState) : Event → Turn
  | .stop .table => .close
  | .start .tableHead _ => .next (.table { state with inHead := true })
  | .stop .tableHead =>
    .next (.table { state with inHead := false, headers := state.row, row := [] })
  | .start .tableRow _ => .next (.table { state with row := [] })
  | .stop .tableRow =>
    if state.inHead then .next (.table state)
    else .next (.table { state with rows := state.rows ++ [state.row], row := [] })
  | .start .tableCell _ =>
    .call true (.inlines (some .tableCell) []) fun inner =>
      .table { state with row := state.row ++ [inner.run] }
  | _ => .next (.table state)

def textTurn (close : TagKind) (t : Text) : Event → Turn
  | .stop kind => if kind = close then .close else .next (.text close t)
  | .text s => .next (.text close (t ++ s))
  | .html s => .next (.text close (t ++ s))
  | _ => .next (.text close t)

/-- One turn of a loop. -/
def turn (source : Text) : Loop → Event → Turn
  | .blocks close nodes => blocksTurn close nodes
  | .items ordered items => itemsTurn source ordered items
  | .inlines close run => inlinesTurn close run
  | .table state => tableTurn state
  | .text close t => textTurn close t

/-! ## What the collectors read -/

/-- A loop with what its collector reads behind what has been collected, and the events that the
collector leaves. -/
def Loop.read (source : Text) : Loop → List Event → Loop × List Event
  | .blocks close nodes, events =>
    (.blocks close (nodes.append (collectBlocks source close events).value),
      (collectBlocks source close events).rest)
  | .items ordered found, events =>
    (.items ordered (found.append (collectItems source ordered events).value),
      (collectItems source ordered events).rest)
  | .inlines close run, events =>
    (.inlines close (joinRuns run (collectInlines close events).value),
      (collectInlines close events).rest)
  | .table state, events =>
    (.table (collectTable state events).value, (collectTable state events).rest)
  | .text close t, events =>
    (.text close (t ++ (collectText close events).value), (collectText close events).rest)

/-- The loop of the blocks is above the others: it may call one of them without moving the index. -/
def Loop.rank : Loop → Nat
  | .blocks _ _ => 1
  | _ => 0

/-- What a turn leaves to read is what the loop reads of an event and the events behind it. -/
inductive Follows (source : Text) (loop : Loop) (e : Event) (events : List Event) :
    Turn → Prop where
  | next {later : Loop} (h : loop.read source (e :: events) = later.read source events) :
      Follows source loop e events (.next later)
  | close (h : loop.read source (e :: events) = (loop, events)) :
      Follows source loop e events .close
  | stop (h : loop.read source (e :: events) = (loop, e :: events)) :
      Follows source loop e events .stop
  | call {moves : Bool} {inner result : Loop} {resume : Loop → Loop} {rest : List Event}
      (hrank : moves = false → inner.rank < loop.rank)
      (hinner : inner.read source ((e :: events).drop moves.toNat) = (result, rest))
      (hrest : rest.length ≤ events.length)
      (h : loop.read source (e :: events) = (resume result).read source rest) :
      Follows source loop e events (.call moves inner resume)

/-! ## Runs that are joined -/

theorem joinRuns_ne_nil {run : List Inline} (h : run ≠ []) (later : List Inline) :
    joinRuns run later ≠ [] := by
  obtain ⟨x, run, rfl⟩ := List.exists_cons_of_ne_nil h
  cases run with
  | nil =>
    cases x with
    | text s => exact pushText_ne_nil s later
    | _ => exact List.cons_ne_nil _ _
  | cons y run => exact List.cons_ne_nil _ _

theorem joinRuns_cons {x : Inline} {run : List Inline} (h : x.isText = false ∨ run ≠ [])
    (later : List Inline) : joinRuns (x :: run) later = x :: joinRuns run later := by
  cases run with
  | nil =>
    cases x with
    | text s => simp [Inline.isText] at h
    | _ => rfl
  | cons y run => rfl

theorem joinRuns_nil (run : List Inline) : joinRuns run [] = run := by
  induction run with
  | nil => rfl
  | cons x run ih =>
    by_cases h : x.isText = false ∨ run ≠ []
    · rw [joinRuns_cons h, ih]
    · obtain ⟨hx, rfl⟩ : ¬x.isText = false ∧ run = [] := by simpa using h
      cases x with
      | text s => rfl
      | _ => exact absurd rfl hx

theorem joinRuns_pushText (s : Text) (run later : List Inline) :
    joinRuns (pushText s run) later = pushText s (joinRuns run later) := by
  cases run with
  | nil => rfl
  | cons x run =>
    cases x with
    | text t =>
      cases run with
      | nil => exact (pushText_pushText s t later).symm
      | cons y run => rfl
    | _ => cases run <;> rfl

theorem joinRuns_joinRuns (run more later : List Inline) :
    joinRuns (joinRuns run more) later = joinRuns run (joinRuns more later) := by
  induction run with
  | nil => rfl
  | cons x run ih =>
    by_cases h : x.isText = false ∨ run ≠ []
    · have hmore : x.isText = false ∨ joinRuns run more ≠ [] := h.imp_right (joinRuns_ne_nil · more)
      rw [joinRuns_cons h, joinRuns_cons h, joinRuns_cons hmore, ih]
    · obtain ⟨hx, rfl⟩ : ¬x.isText = false ∧ run = [] := by simpa using h
      cases x with
      | text s => exact joinRuns_pushText s more later
      | _ => exact absurd rfl hx

/-! ## Turns and collectors -/

variable {source : Text}

theorem Warned.push_append (nodes : Warned (List Node)) (node : Warned Node)
    (later : Warned (List Node)) :
    (nodes.push node).append later = nodes.append (Warned.consWarned node later) := by
  simp [Warned.push, Warned.append, Warned.consWarned]

theorem Warned.append_addItems (items : Warned (List ListItem)) (ordered : Bool) (span : ByteRange)
    (children : Warned (List Node)) (later : Warned (List ListItem)) :
    (items.append (Warned.addItems source ordered span children ⟨[], []⟩)).append later
      = items.append (Warned.addItems source ordered span children later) := by
  simp [Warned.append, Warned.addItems]

theorem read_blocks_push {close : Option TagKind} {nodes : Warned (List Node)}
    {es rest : List Event} (node : Warned Node)
    (h : (collectBlocks source close es).Gives
      (Warned.consWarned node (collectBlocks source close rest).value)
      (collectBlocks source close rest).rest) :
    (Loop.blocks close nodes).read source es
      = (Loop.blocks close (nodes.push node)).read source rest := by
  obtain ⟨hvalue, hrest⟩ := h
  rw [Loop.read, Loop.read, hvalue, hrest, Warned.push_append]

theorem read_blocks_pass {close : Option TagKind} {nodes : Warned (List Node)} {e : Event}
    {es : List Event}
    (h : collectBlocks source close (e :: es) = (collectBlocks source close es).skip) :
    (Loop.blocks close nodes).read source (e :: es) = (Loop.blocks close nodes).read source es := by
  rw [Loop.read, Loop.read, h]
  rfl

theorem blocksTurn_startsInline (close : Option TagKind) (nodes : Warned (List Node)) {e : Event}
    (he : e.startsInline = true) :
    blocksTurn close nodes e = .call false (.inlines none []) fun inner =>
      .blocks close
        (if inner.run.isEmpty then nodes else nodes.push ⟨.paragraph inner.run, []⟩) := by
  cases e with
  | start tag range => cases tag <;> first | rfl | contradiction
  | text _ => rfl
  | code _ => rfl
  | inlineHtml _ => rfl
  | softBreak => rfl
  | hardBreak => rfl
  | _ => contradiction

theorem read_blocks_startsInline (close : Option TagKind) (nodes : Warned (List Node)) {e : Event}
    (he : e.startsInline = true) (es : List Event) :
    (Loop.blocks close nodes).read source (e :: es)
      = (Loop.blocks close (if (collectInlines none (e :: es)).value.isEmpty then nodes
          else nodes.push ⟨.paragraph (collectInlines none (e :: es)).value, []⟩)).read source
        (collectInlines none (e :: es)).rest := by
  let run := collectInlines none (e :: es)
  let later := collectBlocks source close run.rest
  have hread : (collectBlocks source close (e :: es)).Gives
      (if run.value.isEmpty then later.value else later.value.consNode (.paragraph run.value))
      later.rest := by
    rw [collectBlocks_startsInline source close he]
    exact ⟨rfl, rfl⟩
  by_cases hempty : run.value.isEmpty = true
  · rw [if_pos hempty] at hread ⊢
    rw [Loop.read, Loop.read, hread.1, hread.2]
  · rw [if_neg hempty] at hread ⊢
    exact read_blocks_push _ hread

/-- A call behind the event may be of any loop. -/
theorem Follows.behind {loop inner result : Loop} {e : Event} {es rest : List Event}
    {resume : Loop → Loop} (hinner : inner.read source es = (result, rest))
    (hrest : rest.length ≤ es.length)
    (h : loop.read source (e :: es) = (resume result).read source rest) :
    Follows source loop e es (.call true inner resume) :=
  .call (by simp) hinner hrest h

theorem follows_blocksTurn (close : Option TagKind) (nodes : Warned (List Node)) (e : Event)
    (es : List Event) :
    Follows source (.blocks close nodes) e es (blocksTurn close nodes e) := by
  by_cases he : e.startsInline = true
  · rw [blocksTurn_startsInline close nodes he]
    exact .call (fun _ => Nat.zero_lt_one) rfl (Nat.le_of_lt_succ (collectInlines_rest_lt he es))
      (read_blocks_startsInline close nodes he es)
  cases e with
  | stop kind =>
    rw [blocksTurn]
    split
    next hclose =>
      refine .close ?_
      have hread : (collectBlocks source close (.stop kind :: es)).Gives ⟨[], []⟩ es :=
        hclose ▸ collectBlocks_stop source kind es
      rw [Loop.read, hread.1, hread.2]
      simp [Warned.append]
    next hclose =>
      exact .next (read_blocks_pass (by rw [collectBlocks, if_neg hclose]))
  | start tag span =>
    cases tag with
    | heading level id =>
      exact .behind rfl (collectInlines _ _).rest_le
        (read_blocks_push _ (by rw [collectBlocks]; exact ⟨rfl, rfl⟩))
    | paragraph =>
      exact .behind rfl (collectInlines _ _).rest_le
        (read_blocks_push _ (by rw [collectBlocks]; exact ⟨rfl, rfl⟩))
    | codeBlock info =>
      exact .behind rfl (collectText _ _).rest_le
        (read_blocks_push _ (by rw [collectBlocks]; exact ⟨rfl, rfl⟩))
    | list number =>
      exact .behind rfl (collectItems _ _ _).rest_le
        (read_blocks_push _ (by rw [collectBlocks]; exact ⟨rfl, rfl⟩))
    | blockquote =>
      exact .behind rfl (collectBlocks _ _ _).rest_le
        (read_blocks_push _ (by rw [collectBlocks]; exact ⟨rfl, rfl⟩))
    | table alignments =>
      exact .behind rfl (collectTable _ _).rest_le
        (read_blocks_push _ (by rw [collectBlocks]; exact ⟨rfl, rfl⟩))
    | htmlBlock =>
      exact .behind rfl (collectText _ _).rest_le
        (read_blocks_push _ (by rw [collectBlocks]; exact ⟨rfl, rfl⟩))
    | emphasis | strong | strikethrough | link | image => exact absurd rfl he
    | _ =>
      refine .next (read_blocks_pass ?_)
      rw [collectBlocks, dif_neg he] <;> simp
  | html html =>
    exact .next (read_blocks_push _ (by rw [collectBlocks]; exact ⟨rfl, rfl⟩))
  | rule =>
    exact .next (read_blocks_push _ (by rw [collectBlocks]; exact ⟨rfl, rfl⟩))
  | inlineMath | displayMath | footnoteReference | taskMarker =>
    refine .next (read_blocks_pass ?_)
    rw [collectBlocks, dif_neg he] <;> simp
  | _ => exact absurd rfl he

theorem follows_itemsTurn (ordered : Bool) (items : Warned (List ListItem)) (e : Event)
    (es : List Event) :
    Follows source (.items ordered items) e es (itemsTurn source ordered items e) := by
  have hpass : collectItems source ordered (e :: es) = (collectItems source ordered es).skip →
      Follows source (.items ordered items) e es (.next (.items ordered items)) := by
    intro h
    refine .next ?_
    rw [Loop.read, Loop.read, h]
    rfl
  cases e with
  | stop kind =>
    cases kind with
    | list =>
      refine .close ?_
      rw [Loop.read, collectItems]
      simp [Warned.append, Reading.skip, Reading.stay]
    | _ => exact hpass (by rw [collectItems] <;> simp)
  | start tag span =>
    cases tag with
    | item =>
      refine .behind rfl (collectBlocks source (some .item) es).rest_le ?_
      rw [Loop.read, Loop.read, Warned.append_addItems, collectItems]
      rfl
    | _ => exact hpass (by rw [collectItems] <;> simp)
  | _ => exact hpass (by rw [collectItems] <;> simp)

theorem follows_inlinesTurn (close : Option TagKind) (run : List Inline) (e : Event)
    (es : List Event) :
    Follows source (.inlines close run) e es (inlinesTurn close run e) := by
  have hjoin : ∀ (x : Inline) (f : List Inline → List Inline),
      (∀ later, joinRuns [x] later = f later) →
      collectInlines close (e :: es) = ((collectInlines close es).map f).skip →
      Follows source (.inlines close run) e es (.next (.inlines close (joinRuns run [x]))) := by
    intro x f hf h
    refine .next ?_
    rw [Loop.read, Loop.read, h, joinRuns_joinRuns, hf]
    rfl
  have hpass : collectInlines close (e :: es) = (collectInlines close es).skip →
      Follows source (.inlines close run) e es (.next (.inlines close run)) := by
    intro h
    refine .next ?_
    rw [Loop.read, Loop.read, h]
    rfl
  cases e with
  | stop kind =>
    rw [inlinesTurn]
    split
    next hclose =>
      refine .close ?_
      rw [Loop.read, collectInlines, if_pos hclose]
      exact congrArg (fun run => (Loop.inlines close run, es)) (joinRuns_nil run)
    next hclose =>
      refine .stop ?_
      rw [Loop.read, collectInlines, if_neg hclose]
      exact congrArg (fun run => (Loop.inlines close run, .stop kind :: es)) (joinRuns_nil run)
  | start tag range =>
    rw [inlinesTurn]
    split
    next htag =>
      refine .behind rfl (collectInlines _ es).rest_le ?_
      have helement : ∀ content later, joinRuns (inlineElement? tag content).toList later
          = (inlineElement? tag content).toList ++ later := by
        intro content later
        cases tag <;> rfl
      rw [Loop.read, Loop.read, collectInlines, if_pos htag, joinRuns_joinRuns, helement]
      rfl
    next htag =>
      refine .stop ?_
      rw [Loop.read, collectInlines, if_neg htag]
      exact congrArg (fun run => (Loop.inlines close run, .start tag range :: es))
        (joinRuns_nil run)
  | text s => exact hjoin (.text s) (pushText s) (fun _ => rfl) (by rw [collectInlines])
  | inlineHtml s => exact hjoin (.text s) (pushText s) (fun _ => rfl) (by rw [collectInlines])
  | code s => exact hjoin (.codeSpan s) (.codeSpan s :: ·) (fun _ => rfl) (by rw [collectInlines])
  | softBreak => exact hjoin .softBreak (.softBreak :: ·) (fun _ => rfl) (by rw [collectInlines])
  | hardBreak => exact hjoin .hardBreak (.hardBreak :: ·) (fun _ => rfl) (by rw [collectInlines])
  | html s => exact hpass (by rw [collectInlines])
  | rule => exact hpass (by rw [collectInlines])
  | inlineMath s => exact hpass (by rw [collectInlines])
  | displayMath s => exact hpass (by rw [collectInlines])
  | footnoteReference label => exact hpass (by rw [collectInlines])
  | taskMarker => exact hpass (by rw [collectInlines])

theorem follows_tableTurn (state : TableState) (e : Event) (es : List Event) :
    Follows source (.table state) e es (tableTurn state e) := by
  have hnext : ∀ state', collectTable state (e :: es) = (collectTable state' es).skip →
      Follows source (.table state) e es (.next (.table state')) := by
    intro state' h
    refine .next ?_
    rw [Loop.read, Loop.read, h]
    rfl
  cases e with
  | stop kind =>
    cases kind with
    | table =>
      refine .close ?_
      rw [Loop.read, collectTable]
      rfl
    | tableHead => exact hnext _ (by rw [collectTable])
    | tableRow =>
      rw [tableTurn]
      split
      next hhead => exact hnext _ (by rw [collectTable, if_pos hhead])
      next hhead => exact hnext _ (by rw [collectTable, if_neg hhead])
    | _ => exact hnext _ (by rw [collectTable] <;> simp)
  | start tag range =>
    cases tag with
    | tableHead => exact hnext _ (by rw [collectTable])
    | tableRow => exact hnext _ (by rw [collectTable])
    | tableCell =>
      refine .behind rfl (collectInlines (some .tableCell) es).rest_le ?_
      rw [Loop.read, Loop.read, collectTable]
      rfl
    | _ => exact hnext _ (by rw [collectTable] <;> simp)
  | _ => exact hnext _ (by rw [collectTable] <;> simp)

theorem follows_textTurn (close : TagKind) (t : Text) (e : Event) (es : List Event) :
    Follows source (.text close t) e es (textTurn close t e) := by
  have hpass : collectText close (e :: es) = (collectText close es).skip →
      Follows source (.text close t) e es (.next (.text close t)) := by
    intro h
    refine .next ?_
    rw [Loop.read, Loop.read, h]
    rfl
  have hpiece : ∀ s, collectText close (e :: es) = ((collectText close es).map (s ++ ·)).skip →
      Follows source (.text close t) e es (.next (.text close (t ++ s))) := by
    intro s h
    refine .next ?_
    rw [Loop.read, Loop.read, h, List.append_assoc]
    rfl
  cases e with
  | stop kind =>
    rw [textTurn]
    split
    next hclose =>
      refine .close ?_
      rw [Loop.read, collectText, if_pos hclose]
      exact congrArg (fun t => (Loop.text close t, es)) (List.append_nil t)
    next hclose => exact hpass (by rw [collectText, if_neg hclose])
  | text s => exact hpiece s (by rw [collectText])
  | html s => exact hpiece s (by rw [collectText])
  | _ => exact hpass (by rw [collectText] <;> simp)

theorem follows_turn (source : Text) (loop : Loop) (e : Event) (es : List Event) :
    Follows source loop e es (turn source loop e) := by
  cases loop with
  | blocks close nodes => exact follows_blocksTurn close nodes e es
  | items ordered items => exact follows_itemsTurn ordered items e es
  | inlines close run => exact follows_inlinesTurn close run e es
  | table state => exact follows_tableTurn state e es
  | text close t => exact follows_textTurn close t e es

end Weave.Markdown
