import Weave.Proofs.Markdown.RoundTrip

/-!
# Readings of streams

What is read of an event stream depends on the stream alone, and not on what follows it or on the
end event that the reading waits for.  A document that cannot be read back has such a reading, too:
its texts may be joined and its items split, but each of its nodes is still read as one node.

The lemmas say for each kind of stream that there is a reading of it (`exists_run`, `exists_cells`,
`exists_rows`, `exists_items`), and `readsNodes_of_blockEvents` counts the nodes.
-/

namespace Weave.Markdown

/-- What was read, in front of what is read after it. -/
def Warned.append {α : Type} (first later : Warned (List α)) : Warned (List α) :=
  ⟨first.value ++ later.value, first.warnings ++ later.warnings⟩

/-! ## Inline runs -/

theorem pushText_ne_nil (s : Text) (run : List Inline) : pushText s run ≠ [] := by
  cases run with
  | nil => exact List.cons_ne_nil _ _
  | cons x xs => cases x <;> exact List.cons_ne_nil _ _

/-- Some events are read in front of what is read behind them.  Texts at the seam are joined, so the
reading is a function of what stands behind. -/
def ReadsRun (extend : List Inline → List Inline) (es : List Event) : Prop :=
  ∀ close events later rest, (collectInlines close events).Gives later rest →
    (collectInlines close (es ++ events)).Gives (extend later) rest

/-- One more event that is an element by itself. -/
theorem ReadsRun.cons {e : Event} {extend : List Inline → List Inline} {es : List Event}
    (h : ReadsRun extend es) (x : Inline)
    (he : ∀ close events later rest, (collectInlines close events).Gives later rest →
      (collectInlines close (e :: events)).Gives (x :: later) rest) :
    ReadsRun (fun later => x :: extend later) (e :: es) := by
  intro close events later rest hlater
  rw [List.cons_append]
  exact he _ _ _ _ (h close events later rest hlater)

/-- A run is read, and one that is not empty is read as something. -/
theorem exists_run {run : List Inline} {es : List Event} (h : RunEvents run es) :
    ∃ extend, (run ≠ [] → ∀ later, extend later ≠ []) ∧ ReadsRun extend es := by
  induction h with
  | nil => exact ⟨id, fun h => absurd rfl h, fun _ _ _ _ h => h⟩
  | @text t es fs run ne cut later ih =>
      obtain ⟨extend, -, hextend⟩ := ih
      refine ⟨fun later => pushText t (extend later), fun _ _ => pushText_ne_nil _ _, ?_⟩
      intro close events later rest h
      rw [List.append_assoc]
      exact collectInlines_cut ne cut (hextend close events later rest h)
  | @codeSpan code fs run later ih =>
      obtain ⟨extend, -, hextend⟩ := ih
      refine ⟨_, fun _ _ => List.cons_ne_nil _ _, hextend.cons (.codeSpan code) ?_⟩
      intro close events later rest h
      rw [collectInlines]
      exact h.map _
  | softBreak later ih =>
      obtain ⟨extend, -, hextend⟩ := ih
      refine ⟨_, fun _ _ => List.cons_ne_nil _ _, hextend.cons .softBreak ?_⟩
      intro close events later rest h
      rw [collectInlines]
      exact h.map _
  | hardBreak later ih =>
      obtain ⟨extend, -, hextend⟩ := ih
      refine ⟨_, fun _ _ => List.cons_ne_nil _ _, hextend.cons .hardBreak ?_⟩
      intro close events later rest h
      rw [collectInlines]
      exact h.map _
  | @span x tag range content run es fs spanned inside later ihInside ihLater =>
      obtain ⟨extendInside, -, hinside⟩ := ihInside
      obtain ⟨extend, -, hextend⟩ := ihLater
      have htag := isInline_of_spanned? spanned
      refine ⟨fun later => (inlineElement? tag (extendInside [])).toList ++ extend later, ?_, ?_⟩
      · intro _ later
        cases tag <;> first | contradiction | exact List.cons_ne_nil _ _
      · intro close events later rest h
        have hstop : (collectInlines (some tag.kind) (.stop tag.kind :: (fs ++ events))).Gives []
            (fs ++ events) := by
          rw [collectInlines, if_pos rfl]
          exact ⟨rfl, rfl⟩
        rw [enclosed_append, collectInlines, if_pos htag]
        exact (hinside _ _ _ _ hstop).andThen (hextend close events later rest h)

/-- A run that ends in an end event of its own is read up to it. -/
theorem exists_enclosed_run {run : List Inline} {es : List Event} (h : RunEvents run es)
    (kind : TagKind) :
    ∃ content, ∀ after, (collectInlines (some kind) (es ++ .stop kind :: after)).Gives content
      after := by
  obtain ⟨extend, -, hextend⟩ := exists_run h
  refine ⟨extend [], fun after => hextend _ _ _ _ ?_⟩
  rw [collectInlines, if_pos rfl]
  exact ⟨rfl, rfl⟩

/-! ## Tables -/

theorem exists_cells {cells : List (List Inline)} {es : List Event} (h : CellEvents cells es) :
    ∃ row, ∀ state events table rest,
      (collectTable { state with row := state.row ++ row } events).Gives table rest →
        (collectTable state (es ++ events)).Gives table rest := by
  induction h with
  | nil =>
      refine ⟨[], fun state events table rest h => ?_⟩
      rw [List.append_nil] at h
      exact h
  | @cons cell cells range es fs inside later ih =>
      obtain ⟨row, hrow⟩ := ih
      obtain ⟨content, hcontent⟩ := exists_enclosed_run inside .tableCell
      refine ⟨content :: row, fun state events table rest h => ?_⟩
      have hcell := hcontent (fs ++ events)
      rw [List.append_cons state.row content row] at h
      have hlater := hrow { state with row := state.row ++ [content] } events table rest h
      rw [← hcell.1] at hlater
      rw [enclosed_append, collectTable]
      exact hcell.andThen hlater

theorem exists_rows {rows : List (List (List Inline))} {es : List Event} (h : RowEvents rows es) :
    ∃ below, ∀ headers above after,
      (collectTable ⟨false, [], headers, above⟩ (es ++ .stop .table :: after)).Gives
        ⟨false, [], headers, above ++ below⟩ after := by
  induction h with
  | nil =>
      refine ⟨[], fun headers above after => ?_⟩
      rw [List.nil_append, List.append_nil, collectTable]
      exact ⟨rfl, rfl⟩
  | @cons row rows range es fs inside later ih =>
      obtain ⟨below, hbelow⟩ := ih
      obtain ⟨cells, hcells⟩ := exists_cells inside
      refine ⟨cells :: below, fun headers above after => ?_⟩
      have hlater := hbelow headers (above ++ [cells]) after
      rw [← List.append_cons above cells below] at hlater
      rw [enclosed_append, collectTable]
      refine (hcells _ _ _ _ ?_).skip
      rw [collectTable]
      exact hlater.skip

theorem exists_table {headers : List (List Inline)} {rows : List (List (List Inline))}
    {hs rs : List Event} (head : CellEvents headers hs) (body : RowEvents rows rs)
    (range : ByteRange) :
    ∃ table, ∀ after, (collectTable default (.start .tableHead range ::
      (hs ++ .stop .tableHead :: (rs ++ .stop .table :: after)))).Gives table after := by
  obtain ⟨cells, hcells⟩ := exists_cells head
  obtain ⟨below, hbelow⟩ := exists_rows body
  refine ⟨⟨false, [], cells, below⟩, fun after => ?_⟩
  rw [collectTable]
  refine (hcells _ _ _ _ ?_).skip
  rw [collectTable]
  exact (hbelow cells [] after).skip

/-! ## Blocks -/

/-- At an inline event a run is read. -/
theorem collectBlocks_startsInline (source : Text) (close : Option TagKind) {e : Event}
    (he : e.startsInline = true) (events : List Event) :
    collectBlocks source close (e :: events)
      = ((collectRun he events).andThen (fun rest _ => collectBlocks source close rest)
          fun content later =>
            if content.isEmpty then later else later.consNode (.paragraph content)).skip := by
  rw [collectBlocks, dif_pos he]
  -- The other events start no run.
  all_goals
    intros
    subst_vars
    contradiction

/-- Some events are read as so many nodes, in front of what is read behind them. -/
def ReadsNodes (source : Text) (count : Nat) (es : List Event) : Prop :=
  ∃ read : Warned (List Node), read.value.length = count
    ∧ ∀ close events later rest, (collectBlocks source close events).Gives later rest →
        (collectBlocks source close (es ++ events)).Gives (read.append later) rest

/-- One more node between a start and an end event. -/
theorem ReadsNodes.cons {source : Text} {count : Nat} {first last : Event} {es fs : List Event}
    (node : Warned Node)
    (hnode : ∀ close after later rest, (collectBlocks source close after).Gives later rest →
      (collectBlocks source close (first :: (es ++ last :: after))).Gives
        (Warned.consWarned node later) rest)
    (h : ReadsNodes source count fs) :
    ReadsNodes source (count + 1) (first :: (es ++ last :: fs)) := by
  obtain ⟨read, hlength, hread⟩ := h
  refine ⟨Warned.consWarned node read, congrArg Nat.succ hlength, ?_⟩
  intro close events later rest hlater
  have happend : (Warned.consWarned node read).append later
      = Warned.consWarned node (read.append later) := by
    unfold Warned.append Warned.consWarned
    rw [List.cons_append, List.append_assoc]
  rw [happend, enclosed_append]
  exact hnode close _ _ rest (hread close events later rest hlater)

mutual

/-- Each node of a stream is read as one node. -/
theorem readsNodes_of_blockEvents (source : Text) {nodes : List Node} {es : List Event}
    (h : BlockEvents nodes es) : ReadsNodes source nodes.length es := by
  cases h with
  | nil => exact ⟨⟨[], []⟩, rfl, fun _ _ _ _ h => h⟩
  | paragraph inside behind =>
      obtain ⟨content, hcontent⟩ := exists_enclosed_run inside .paragraph
      refine .cons ⟨.paragraph content, []⟩ ?_ (readsNodes_of_blockEvents source behind)
      intro close after later rest h
      rw [collectBlocks]
      exact (hcontent after).andThen h
  | @heading heading ns es fs inside behind =>
      obtain ⟨content, hcontent⟩ := exists_enclosed_run inside .heading
      refine .cons ⟨.heading ⟨heading.level, heading.id, content, heading.span⟩, []⟩ ?_
        (readsNodes_of_blockEvents source behind)
      intro close after later rest h
      rw [collectBlocks]
      exact (hcontent after).andThen h
  | @fencedCode info content span ns es fs inside behind =>
      refine .cons ⟨codeBlockNode (some info) content span, []⟩ ?_
        (readsNodes_of_blockEvents source behind)
      intro close after later rest h
      rw [collectBlocks]
      exact (collectText_cut inside .codeBlock after).andThen h
  | @indentedCode content span ns es fs inside behind =>
      refine .cons ⟨codeBlockNode none content span, []⟩ ?_
        (readsNodes_of_blockEvents source behind)
      intro close after later rest h
      rw [collectBlocks]
      exact (collectText_cut inside .codeBlock after).andThen h
  | @list number items span ns es fs inside behind =>
      obtain ⟨list, hlist⟩ := exists_items source number.isSome inside
      refine .cons (list.map fun items => .list ⟨number.isSome, number, items, span⟩) ?_
        (readsNodes_of_blockEvents source behind)
      intro close after later rest h
      rw [collectBlocks]
      exact (hlist after).andThen h
  | blockquote inside behind =>
      obtain ⟨children, -, hchildren⟩ := readsNodes_of_blockEvents source inside
      refine .cons ((children.append ⟨[], []⟩).map .blockquote) ?_
        (readsNodes_of_blockEvents source behind)
      intro close after later rest h
      rw [collectBlocks]
      exact (hchildren _ _ _ _ (collectBlocks_stop source .blockquote after)).andThen h
  | @table alignments headers rows range headRange ns hs rs fs head body behind =>
      obtain ⟨table, htable⟩ := exists_table head body headRange
      have hassoc : ∀ after,
          .start .tableHead headRange :: (hs ++ .stop .tableHead :: rs) ++ .stop .table :: after
            = .start .tableHead headRange ::
              (hs ++ .stop .tableHead :: (rs ++ .stop .table :: after)) :=
        fun after => enclosed_append _ _ _ _ _
      rw [← hassoc]
      refine .cons ⟨.table alignments table.headers table.rows, []⟩ ?_
        (readsNodes_of_blockEvents source behind)
      intro close after later rest h
      rw [hassoc, collectBlocks]
      exact (htable after).andThen h
  | @html html range ns es fs inside behind =>
      refine .cons ⟨.html html, []⟩ ?_ (readsNodes_of_blockEvents source behind)
      intro close after later rest h
      rw [collectBlocks]
      exact (collectText_cut inside .htmlBlock after).andThen h
  | rule behind =>
      obtain ⟨read, hlength, hread⟩ := readsNodes_of_blockEvents source behind
      refine ⟨read.consNode .horizontalRule, congrArg Nat.succ hlength, ?_⟩
      intro close events later rest h
      rw [List.cons_append, collectBlocks]
      exact (hread close events later rest h).map _

/-- The items of a list are read up to the end event of the list. -/
theorem exists_items (source : Text) (ordered : Bool) {items : List ListItem} {es : List Event}
    (h : ItemEvents items es) :
    ∃ read, ∀ after,
      (collectItems source ordered (es ++ .stop .list :: after)).Gives read after := by
  cases h with
  | nil =>
      refine ⟨⟨[], []⟩, fun after => ?_⟩
      rw [List.nil_append, collectItems]
      exact ⟨rfl, rfl⟩
  | @cons children span items es fs inside behind =>
      obtain ⟨read, -, hread⟩ := readsNodes_of_blockEvents source inside
      obtain ⟨later, hlater⟩ := exists_items source ordered behind
      refine ⟨Warned.addItems source ordered span (read.append ⟨[], []⟩) later, fun after => ?_⟩
      rw [enclosed_append, collectItems]
      exact (hread _ _ _ _ (collectBlocks_stop source .item _)).andThen (hlater after)

end

end Weave.Markdown
