import Weave.Proofs.Markdown.EventStream

/-!
# Documents and their event streams

Reading an event stream of a document gives the document back.  `collectBlocks_of_blockEvents` is
the statement; it also says where a reading stops that ends at an end event.

The collectors hand the unread events on to each other, so every lemma is about a stream that is
followed by other events: `Reading.Gives` says what a collector has read and what it leaves.

* Runs: `collectInlines_cut` joins the pieces of a text, and `collectInlines_runEvents` reads a run
  up to its own end event.
* Blocks of text and tables: `collectText_cut`, `collectTable_cellEvents` and
  `collectTable_rowEvents`.
* Items: `addItems_of_isPlainItem` says that a plain item stays one item without a variant.
* Blocks: `collectBlocks_append` and `collectItems_append` follow the structure of a stream, with
  one case for each form of a node.
-/

namespace Weave.Markdown

/-- What a collector has read, and the events that it leaves. -/
def Reading.Gives {α : Type} {events : List Event} (r : Reading α events) (value : α)
    (rest : List Event) : Prop :=
  r.value = value ∧ r.rest = rest

/-- The collector behind another one reads what the first one leaves. -/
theorem Reading.Gives.andThen {α β γ : Type} {e : Event} {events middle rest : List Event}
    {first : Reading α events} {next : (rest : List Event) → Reading β rest} {f : α → β → γ}
    {a : α} {b : β} (hfirst : first.Gives a middle) (hnext : (next middle).Gives b rest) :
    ((first.andThen (fun rest _ => next rest) f).skip (e := e)).Gives (f a b) rest := by
  obtain ⟨rfl, rfl⟩ := hfirst
  obtain ⟨rfl, rfl⟩ := hnext
  exact ⟨rfl, rfl⟩

theorem Reading.Gives.map {α β : Type} {e : Event} {events rest : List Event}
    {r : Reading α events} {a : α} (h : r.Gives a rest) (f : α → β) :
    ((r.map f).skip (e := e)).Gives (f a) rest := by
  obtain ⟨rfl, rfl⟩ := h
  exact ⟨rfl, rfl⟩

theorem Reading.Gives.skip {α : Type} {e : Event} {events rest : List Event}
    {r : Reading α events} {a : α} (h : r.Gives a rest) : (r.skip (e := e)).Gives a rest := h

theorem enclosed_append (first last : Event) (es fs rest : List Event) :
    first :: (es ++ last :: fs) ++ rest = first :: (es ++ last :: (fs ++ rest)) := by
  rw [List.cons_append, List.append_assoc, List.cons_append]

/-! ## Inline runs -/

theorem pushText_pushText (s t : Text) (run : List Inline) :
    pushText s (pushText t run) = pushText (s ++ t) run := by
  cases run with
  | nil => rfl
  | cons x xs => cases x <;> simp [pushText]

theorem pushText_of_not_text {run : List Inline} (h : run.head?.any Inline.isText = false)
    (s : Text) : pushText s run = .text s :: run := by
  cases run with
  | nil => rfl
  | cons x xs =>
    cases x with
    | text t => simp [Inline.isText] at h
    | _ => rfl

/-- A piece of text joins the run that is read behind it. -/
theorem collectInlines_piece {close : Option TagKind} {e : Event} {s : Text}
    {events rest : List Event} {run : List Inline} (piece : e.inlinePiece? = some s)
    (h : (collectInlines close events).Gives run rest) :
    (collectInlines close (e :: events)).Gives (pushText s run) rest := by
  cases e with
  | text s' =>
    obtain rfl : s' = s := Option.some.inj piece
    rw [collectInlines]
    exact h.map (pushText s')
  | inlineHtml s' =>
    obtain rfl : s' = s := Option.some.inj piece
    rw [collectInlines]
    exact h.map (pushText s')
  | _ => contradiction

/-- The pieces of a text are joined, however it was cut. -/
theorem collectInlines_cut {close : Option TagKind} {t : Text} {es events rest : List Event}
    {run : List Inline} (ne : es ≠ []) (cut : Cut Event.inlinePiece? t es)
    (h : (collectInlines close events).Gives run rest) :
    (collectInlines close (es ++ events)).Gives (pushText t run) rest := by
  induction cut with
  | nil => exact absurd rfl ne
  | @cons e s t es piece later ih =>
    cases es with
    | nil =>
      cases later
      rw [List.append_nil]
      exact collectInlines_piece piece h
    | cons e' es =>
      rw [← pushText_pushText]
      exact collectInlines_piece piece (ih (List.cons_ne_nil e' es))

theorem isInline_of_spanned? {x : Inline} {tag : Tag} {content : List Inline}
    (h : spanned? x = some (tag, content)) : tag.isInline = true := by
  cases x with
  | text _ | codeSpan _ | softBreak | hardBreak => contradiction
  | _ =>
    obtain ⟨rfl, -⟩ := Prod.mk.inj (Option.some.inj h)
    rfl

/-- The collector builds the element that the tag and the content were taken from. -/
theorem inlineElement?_of_spanned? {x : Inline} {tag : Tag} {content : List Inline}
    (h : spanned? x = some (tag, content)) : inlineElement? tag content = some x := by
  cases x with
  | text _ | codeSpan _ | softBreak | hardBreak => contradiction
  | _ =>
    obtain ⟨rfl, rfl⟩ := Prod.mk.inj (Option.some.inj h)
    rfl

/-- A span is read up to its own end event, and the run goes on behind it. -/
theorem collectInlines_span {close : Option TagKind} {x : Inline} {tag : Tag}
    {content run : List Inline} {range : ByteRange} {events middle rest : List Event}
    (spanned : spanned? x = some (tag, content))
    (hinside : (collectInlines (some tag.kind) events).Gives content middle)
    (hlater : (collectInlines close middle).Gives run rest) :
    (collectInlines close (.start tag range :: events)).Gives (x :: run) rest := by
  rw [collectInlines, if_pos (isInline_of_spanned? spanned)]
  obtain ⟨hvalue, hrest⟩ := hinside.andThen (e := .start tag range)
    (f := fun content run => (inlineElement? tag content).toList ++ run) hlater
  rw [inlineElement?_of_spanned? spanned] at hvalue
  exact ⟨hvalue, hrest⟩

theorem isSeparated_of_spanned? {x : Inline} {tag : Tag} {content : List Inline}
    (h : spanned? x = some (tag, content)) : x.isSeparated = separated content := by
  cases x with
  | text _ | codeSpan _ | softBreak | hardBreak => contradiction
  | _ =>
    obtain ⟨-, rfl⟩ := Prod.mk.inj (Option.some.inj h)
    rw [Inline.isSeparated]

theorem separated_cons {x : Inline} {xs : List Inline} (h : separated (x :: xs) = true) :
    x.isSeparated = true ∧ (x.isText = true → xs.head?.any Inline.isText = false) ∧
      separated xs = true := by
  simp only [separated, Bool.and_eq_true, Bool.not_eq_true', Bool.and_eq_false_iff] at h
  obtain ⟨⟨hx, htexts⟩, hxs⟩ := h
  refine ⟨hx, fun htext => htexts.resolve_left ?_, hxs⟩
  rw [htext]
  exact Bool.noConfusion

/-- A run is read up to its own end event, whatever follows.  The induction is on the events of the
run; inside a span it is used once more, for the end event of the span. -/
theorem collectInlines_runEvents {run : List Inline} {es : List Event} (h : RunEvents run es)
    (hs : separated run = true) (kind : TagKind) (after : List Event) :
    (collectInlines (some kind) (es ++ .stop kind :: after)).Gives run after := by
  induction h generalizing kind after with
  | nil =>
    rw [List.nil_append, collectInlines, if_pos rfl]
    exact ⟨rfl, rfl⟩
  | @text t es fs run ne cut later ih =>
    obtain ⟨-, htexts, hrun⟩ := separated_cons hs
    rw [List.append_assoc, ← pushText_of_not_text (htexts rfl) t]
    exact collectInlines_cut ne cut (ih hrun kind after)
  | codeSpan later ih =>
    rw [List.cons_append, collectInlines]
    exact (ih (separated_cons hs).2.2 kind after).map _
  | softBreak later ih =>
    rw [List.cons_append, collectInlines]
    exact (ih (separated_cons hs).2.2 kind after).map _
  | hardBreak later ih =>
    rw [List.cons_append, collectInlines]
    exact (ih (separated_cons hs).2.2 kind after).map _
  | @span x tag range content run es fs spanned inside later ihInside ihLater =>
    obtain ⟨hx, -, hrun⟩ := separated_cons hs
    have hcontent : separated content = true := isSeparated_of_spanned? spanned ▸ hx
    rw [enclosed_append]
    exact collectInlines_span spanned (ihInside hcontent tag.kind _) (ihLater hrun kind after)

/-! ## Text and tables -/

theorem collectText_piece {close : TagKind} {e : Event} {s t : Text} {events rest : List Event}
    (piece : e.blockPiece? = some s) (h : (collectText close events).Gives t rest) :
    (collectText close (e :: events)).Gives (s ++ t) rest := by
  cases e with
  | text s' =>
    obtain rfl : s' = s := Option.some.inj piece
    rw [collectText]
    exact h.map (s' ++ ·)
  | html s' =>
    obtain rfl : s' = s := Option.some.inj piece
    rw [collectText]
    exact h.map (s' ++ ·)
  | _ => contradiction

/-- The text of a block is read up to the end event of the block. -/
theorem collectText_cut {t : Text} {es : List Event} (cut : Cut Event.blockPiece? t es)
    (close : TagKind) (after : List Event) :
    (collectText close (es ++ .stop close :: after)).Gives t after := by
  induction cut with
  | nil =>
    rw [List.nil_append, collectText, if_pos rfl]
    exact ⟨rfl, rfl⟩
  | cons piece later ih => exact collectText_piece piece ih

/-- The cells of a row are added to the row that is read. -/
theorem collectTable_cellEvents {cells : List (List Inline)} {es : List Event}
    (h : CellEvents cells es) (hs : cells.all separated = true) (state : TableState)
    {events rest : List Event} {table : TableState}
    (hlater : (collectTable { state with row := state.row ++ cells } events).Gives table rest) :
    (collectTable state (es ++ events)).Gives table rest := by
  induction h generalizing state with
  | nil =>
    rw [List.append_nil] at hlater
    exact hlater
  | @cons cell cells range es fs inside later ih =>
    rw [List.all_cons, Bool.and_eq_true] at hs
    have hcell := collectInlines_runEvents inside hs.1 .tableCell (fs ++ events)
    rw [List.append_cons state.row cell cells] at hlater
    have hrow := ih hs.2 { state with row := state.row ++ [cell] } hlater
    rw [← hcell.1] at hrow
    rw [enclosed_append, collectTable]
    exact hcell.andThen hrow

/-- The rows below the head are added to the rows of the table. -/
theorem collectTable_rowEvents {rows : List (List (List Inline))} {es : List Event}
    (h : RowEvents rows es) (hs : rows.all (·.all separated) = true)
    (headers : List (List Inline)) (above : List (List (List Inline))) (after : List Event) :
    (collectTable ⟨false, [], headers, above⟩ (es ++ .stop .table :: after)).Gives
      ⟨false, [], headers, above ++ rows⟩ after := by
  induction h generalizing above with
  | nil =>
    rw [List.nil_append, List.append_nil, collectTable]
    exact ⟨rfl, rfl⟩
  | @cons row rows range es fs inside later ih =>
    rw [List.all_cons, Bool.and_eq_true] at hs
    have hlater := ih hs.2 (above ++ [row])
    rw [← List.append_cons above row rows] at hlater
    rw [enclosed_append, collectTable]
    refine (collectTable_cellEvents inside hs.1 _ ?_).skip
    rw [collectTable]
    exact hlater.skip

/-- A table is read up to its own end event. -/
theorem collectTable_events {headers : List (List Inline)} {rows : List (List (List Inline))}
    {hs rs : List Event} (head : CellEvents headers hs) (body : RowEvents rows rs)
    (hheaders : headers.all separated = true) (hrows : rows.all (·.all separated) = true)
    (range : ByteRange) (after : List Event) :
    (collectTable default
        (.start .tableHead range :: (hs ++ .stop .tableHead :: (rs ++ .stop .table :: after)))).Gives
      ⟨false, [], headers, rows⟩ after := by
  rw [collectTable]
  refine (collectTable_cellEvents head hheaders _ ?_).skip
  rw [collectTable]
  exact (collectTable_rowEvents body hrows headers [] after).skip

/-! ## Items -/

/-- A run without a decimal break is one piece. -/
theorem decimalPieces_of_no_break (source : Text) (stop start : Nat) (read : List Inline)
    {run : List Inline} (h : hasDecimalBreak run = false) :
    decimalPieces source stop start read run = [(start, read ++ run)] := by
  induction run generalizing read with
  | nil => rw [decimalPieces, List.append_nil]
  | cons x run ih =>
    rw [List.append_cons]
    cases x with
    | softBreak =>
      rw [hasDecimalBreak, Bool.or_eq_false_iff, Option.isSome_eq_false_iff,
        Option.isNone_iff_eq_none] at h
      rw [decimalPieces, h.1]
      exact ih _ h.2
    | _ => exact ih _ h

/-- A plain item of an ordered list is not split. -/
theorem splitDecimalItems_of_isPlainItem (source : Text) {children : List Node}
    (h : isPlainItem true children = true) (span : ByteRange) :
    splitDecimalItems source ⟨children, none, span⟩ = [⟨children, none, span⟩] := by
  unfold splitDecimalItems
  split
  · rename_i content others hchildren
    obtain rfl : children = .paragraph content :: others := hchildren
    simp only [isPlainItem, Bool.and_eq_true, Bool.true_and, Bool.not_eq_true'] at h
    rw [decimalPieces_of_no_break _ _ _ _ h.2]
    rfl
  · rfl

/-- A plain item has no tag. -/
theorem takeVariant_of_isPlainItem {ordered : Bool} {children : List Node}
    (h : isPlainItem ordered children = true) (span : ByteRange) :
    ItemTag.takeVariant ⟨children, none, span⟩ = (⟨children, none, span⟩, []) := by
  unfold ItemTag.takeVariant
  split
  · rename_i content others hchildren
    obtain rfl : children = .paragraph content :: others := hchildren
    simp only [isPlainItem, Bool.and_eq_true, Option.isNone_iff_eq_none] at h
    rcases htake : ItemTag.take content with ⟨tag, kept⟩
    obtain rfl : tag = none := by
      rw [← h.1, htake]
    rfl
  · rfl

/-- A plain item stays one item, takes no variant and leaves no warning. -/
theorem addItems_of_isPlainItem (source : Text) {ordered : Bool} {children : List Node}
    (h : isPlainItem ordered children = true) (span : ByteRange)
    (later : Warned (List ListItem)) :
    Warned.addItems source ordered span ⟨children, []⟩ later
      = ⟨⟨children, none, span⟩ :: later.value, later.warnings⟩ := by
  have hpieces : (if ordered then splitDecimalItems source ⟨children, none, span⟩
      else [⟨children, none, span⟩]) = [⟨children, none, span⟩] := by
    cases ordered with
    | false => rfl
    | true => exact splitDecimalItems_of_isPlainItem source h span
  simp only [Warned.addItems, hpieces, List.map_cons, List.map_nil, List.flatMap_cons,
    List.flatMap_nil, takeVariant_of_isPlainItem h span]
  rfl

/-! ## Blocks -/

/-- The end event that a reading waits for ends it. -/
theorem collectBlocks_stop (source : Text) (kind : TagKind) (after : List Event) :
    (collectBlocks source (some kind) (.stop kind :: after)).Gives ⟨[], []⟩ after := by
  rw [collectBlocks, if_pos rfl]
  exact ⟨rfl, rfl⟩

mutual

/-- The nodes of a stream are read in front of what is read behind them. -/
theorem collectBlocks_append (source : Text) {nodes : List Node} {es : List Event}
    (h : BlockEvents nodes es) (hw : writableAll nodes = true) {close : Option TagKind}
    {events rest : List Event} {later : Warned (List Node)}
    (hlater : (collectBlocks source close events).Gives later rest) :
    (collectBlocks source close (es ++ events)).Gives ⟨nodes ++ later.value, later.warnings⟩
      rest := by
  cases h with
  | nil => exact hlater
  | paragraph inside behind =>
    rw [writableAll, Bool.and_eq_true] at hw
    rw [enclosed_append, collectBlocks]
    exact (collectInlines_runEvents inside hw.1 .paragraph _).andThen
      (collectBlocks_append source behind hw.2 hlater)
  | heading inside behind =>
    rw [writableAll, Bool.and_eq_true] at hw
    rw [enclosed_append, collectBlocks]
    exact (collectInlines_runEvents inside hw.1 .heading _).andThen
      (collectBlocks_append source behind hw.2 hlater)
  | fencedCode inside behind =>
    rw [writableAll, Bool.and_eq_true] at hw
    rw [enclosed_append, collectBlocks]
    exact (collectText_cut inside .codeBlock _).andThen
      (collectBlocks_append source behind hw.2 hlater)
  | indentedCode inside behind =>
    rw [writableAll, Bool.and_eq_true] at hw
    rw [enclosed_append, collectBlocks]
    exact (collectText_cut inside .codeBlock _).andThen
      (collectBlocks_append source behind hw.2 hlater)
  | list inside behind =>
    rw [writableAll, Bool.and_eq_true] at hw
    rw [enclosed_append, collectBlocks]
    exact (collectItems_append source inside hw.1 _).andThen
      (collectBlocks_append source behind hw.2 hlater)
  | @blockquote children range ns es fs inside behind =>
    rw [writableAll, Bool.and_eq_true] at hw
    have hinside := collectBlocks_append source inside hw.1
      (collectBlocks_stop source .blockquote (fs ++ events))
    rw [List.append_nil] at hinside
    rw [enclosed_append, collectBlocks]
    exact hinside.andThen (collectBlocks_append source behind hw.2 hlater)
  | table head body behind =>
    rw [writableAll, Bool.and_eq_true] at hw
    have hcells := Bool.and_eq_true_iff.mp hw.1
    rw [List.cons_append, enclosed_append, List.append_assoc, List.cons_append, collectBlocks]
    exact (collectTable_events head body hcells.1 hcells.2 _ _).andThen
      (collectBlocks_append source behind hw.2 hlater)
  | html inside behind =>
    rw [writableAll, Bool.and_eq_true] at hw
    rw [enclosed_append, collectBlocks]
    exact (collectText_cut inside .htmlBlock _).andThen
      (collectBlocks_append source behind hw.2 hlater)
  | rule behind =>
    rw [writableAll, Bool.and_eq_true] at hw
    rw [List.cons_append, collectBlocks]
    exact (collectBlocks_append source behind hw.2 hlater).map _

/-- The items of a list are read up to the end event of the list. -/
theorem collectItems_append (source : Text) {ordered : Bool} {items : List ListItem}
    {es : List Event} (h : ItemEvents items es) (hw : writableItems ordered items = true)
    (after : List Event) :
    (collectItems source ordered (es ++ .stop .list :: after)).Gives ⟨items, []⟩ after := by
  cases h with
  | nil =>
    rw [List.nil_append, collectItems]
    exact ⟨rfl, rfl⟩
  | @cons children span items es fs inside behind =>
    rw [writableItems, Bool.and_eq_true, Bool.and_eq_true] at hw
    obtain ⟨⟨hchildren, hplain⟩, hitems⟩ := hw
    have hinside := collectBlocks_append source inside hchildren
      (collectBlocks_stop source .item (fs ++ .stop .list :: after))
    rw [List.append_nil] at hinside
    have hread := hinside.andThen (e := .start .item span) (f := Warned.addItems source ordered span)
      (collectItems_append source behind hitems after)
    rw [addItems_of_isPlainItem source hplain] at hread
    rw [enclosed_append, collectItems]
    exact hread

end

/-- Every event stream of a writable document is read back as the document, with the spans of its
events, without a warning and to the end of the stream, whatever end event the reading waits for.
Behind the end event that encloses the stream, the reading stops and leaves the rest unread. -/
theorem collectBlocks_of_blockEvents (source : Text) {nodes : List Node} {events : List Event}
    (h : BlockEvents nodes events) (hw : writableAll nodes = true) :
    (∀ close, (collectBlocks source close events).Gives ⟨nodes, []⟩ []) ∧
      ∀ kind after,
        (collectBlocks source (some kind) (events ++ .stop kind :: after)).Gives ⟨nodes, []⟩
          after := by
  constructor
  · intro close
    have hnil : (collectBlocks source close []).Gives ⟨[], []⟩ [] := by
      rw [collectBlocks]
      exact ⟨rfl, rfl⟩
    have hread := collectBlocks_append source h hw hnil
    rwa [List.append_nil, List.append_nil] at hread
  · intro kind after
    have hread := collectBlocks_append source h hw (collectBlocks_stop source kind after)
    rwa [List.append_nil] at hread

/-- A list within an item of a list of the same kind, with a text that is cut in two: the stream is
read to its end, and before an end event and a rule it is read up to the rule. -/
theorem collectBlocks_of_nested_lists :
    let nodes : List Node :=
      [.list ⟨true, some 1,
        [⟨[.paragraph [.text "ab"],
            .list ⟨true, some 7, [⟨[.blockquote [.horizontalRule]], none, ⟨4, 9⟩⟩], ⟨4, 9⟩⟩],
          none, ⟨0, 9⟩⟩], ⟨0, 9⟩⟩]
    let events : List Event :=
      [.start (.list (some 1)) ⟨0, 9⟩, .start .item ⟨0, 9⟩, .start .paragraph ⟨0, 3⟩, .text "a",
        .inlineHtml "b", .stop .paragraph, .start (.list (some 7)) ⟨4, 9⟩, .start .item ⟨4, 9⟩,
        .start .blockquote ⟨5, 8⟩, .rule, .stop .blockquote, .stop .item, .stop .list, .stop .item,
        .stop .list]
    (collectBlocks [] none events).Gives ⟨nodes, []⟩ [] ∧
      (collectBlocks [] (some .item) (events ++ [.stop .item, .rule])).Gives ⟨nodes, []⟩
        [.rule] := by
  intro nodes events
  have text : Cut Event.inlinePiece? "ab" [.text "a", .inlineHtml "b"] :=
    @Cut.cons _ _ "a" "b" _ rfl (@Cut.cons _ _ "b" [] _ rfl .nil)
  have quote := @BlockEvents.blockquote _ ⟨5, 8⟩ _ _ _ (.rule .nil) .nil
  have inner := @BlockEvents.list (some 7) _ ⟨4, 9⟩ _ _ _ (@ItemEvents.cons _ ⟨4, 9⟩ _ _ _ quote .nil)
    .nil
  have item := @BlockEvents.paragraph _ ⟨0, 3⟩ _ _ _ (.text (List.cons_ne_nil _ _) text .nil) inner
  have outer : BlockEvents nodes events :=
    @BlockEvents.list (some 1) _ ⟨0, 9⟩ _ _ _ (@ItemEvents.cons _ ⟨0, 9⟩ _ _ _ item .nil) .nil
  have hread := collectBlocks_of_blockEvents [] outer (by decide +kernel)
  exact ⟨hread.1 none, hread.2 .item [.rule]⟩

end Weave.Markdown
