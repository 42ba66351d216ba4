import Weave.Proofs.Markdown.StreamReading

/-!
# Tight and loose items

The paragraphs of a loose list item stand between start and end events of their own, and those of a
tight item are bare runs.  The end of a bare run is only implied: a start of a block and the end of
the item stop it, but the event of a rule is passed over, and so is its node.

`ItemStreams` gives the two streams of an item.  Each node of the loose one is read as one node
(`nodeCount_loose`).  A bare run is read like its paragraph when something that stops it follows
(`exists_paragraph`, `collectInlines_stays`), so without a rule directly behind a paragraph the two
streams are read alike (`exists_reading`); with one, a node is lost (`nodeCount_tight_le`).
-/

namespace Weave

/-- Whether a node is a paragraph. -/
def Node.isParagraph : Node → Bool
  | .paragraph _ => true
  | _ => false

/-- Whether a node is a rule. -/
def Node.isRule : Node → Bool
  | .horizontalRule => true
  | _ => false

/-- Whether some nodes have a rule directly behind a paragraph. -/
def ruleBehindParagraph : List Node → Bool
  | [] => false
  | n :: ns => (n.isParagraph && ns.head?.any Node.isRule) || ruleBehindParagraph ns

namespace Markdown

/-- `ItemStreams children tight loose`: the event streams of the children of an item, without and
with the start and end events of its own paragraphs.  No paragraph is empty, and no two of them
stand beside each other. -/
inductive ItemStreams : List Node → List Event → List Event → Prop where
  | nil : ItemStreams [] [] []
  | paragraph {content : List Inline} {range : ByteRange} {ns : List Node}
      {es tight loose : List Event} (ne : content ≠ []) (inside : RunEvents content es)
      (apart : ns.head?.any Node.isParagraph = false) (later : ItemStreams ns tight loose) :
      ItemStreams (.paragraph content :: ns) (es ++ tight)
        (.start .paragraph range :: (es ++ .stop .paragraph :: loose))
  | block {n : Node} {ns : List Node} {es tight loose : List Event}
      (other : n.isParagraph = false) (inside : BlockEvents [n] es)
      (later : ItemStreams ns tight loose) :
      ItemStreams (n :: ns) (es ++ tight) (es ++ loose)

/-! ## Bare runs -/

/-- A block other than a paragraph is a rule, or starts with an event that stops a run. -/
theorem rule_or_start_of_blockEvents {n : Node} {es : List Event} (h : BlockEvents [n] es) :
    n = .horizontalRule ∧ es = [.rule]
      ∨ n.isRule = false
        ∧ ∃ tag range rest, es = .start tag range :: rest ∧ tag.isInline = false := by
  cases h with
  | rule behind =>
      cases behind
      exact .inl ⟨rfl, rfl⟩
  | _ => exact .inr ⟨rfl, _, _, _, rfl, rfl⟩

theorem exists_startsInline {run : List Inline} {es : List Event} (h : RunEvents run es)
    (ne : run ≠ []) : ∃ e rest, es = e :: rest ∧ e.startsInline = true := by
  cases h with
  | nil => exact absurd rfl ne
  | text nonempty cut later =>
      cases cut with
      | nil => exact absurd rfl nonempty
      | @cons e s t es piece cut =>
          refine ⟨e, _, rfl, ?_⟩
          cases e <;> first | rfl | contradiction
  | codeSpan later => exact ⟨_, _, rfl, rfl⟩
  | softBreak later => exact ⟨_, _, rfl, rfl⟩
  | hardBreak later => exact ⟨_, _, rfl, rfl⟩
  | span spanned inside later => exact ⟨_, _, rfl, isInline_of_spanned? spanned⟩

/-- A paragraph between its events, and the bare run of it with whatever the run goes on with. -/
theorem exists_paragraph (source : Text) {run : List Inline} {es : List Event}
    (h : RunEvents run es) (ne : run ≠ []) (range : ByteRange) :
    ∃ extend : List Inline → List Inline,
      (∀ close events later rest, (collectBlocks source close events).Gives later rest →
        (collectBlocks source close
            (.start .paragraph range :: (es ++ .stop .paragraph :: events))).Gives
          (later.consNode (.paragraph (extend []))) rest)
      ∧ ∀ close events tail middle later rest,
          (collectInlines none events).Gives tail middle →
          (collectBlocks source close middle).Gives later rest →
            (collectBlocks source close (es ++ events)).Gives
              (later.consNode (.paragraph (extend tail))) rest := by
  obtain ⟨extend, hne, hextend⟩ := exists_run h
  refine ⟨extend, ?_, ?_⟩
  · intro close events later rest hlater
    have hstop : (collectInlines (some .paragraph) (.stop .paragraph :: events)).Gives []
        events := by
      rw [collectInlines, if_pos rfl]
      exact ⟨rfl, rfl⟩
    rw [collectBlocks]
    exact (hextend _ _ _ _ hstop).andThen hlater
  · intro close events tail middle later rest htail hlater
    have hrun := hextend none events tail middle htail
    obtain ⟨e, es, rfl, he⟩ := exists_startsInline h ne
    have hread : (collectRun he (es ++ events)).Gives (extend tail) middle := hrun
    have hcontent : (extend tail).isEmpty = false := List.isEmpty_eq_false_iff.mpr (hne ne tail)
    have hwhole := hread.andThen (e := e) (f := fun content later =>
      if content.isEmpty then later else Warned.consNode (.paragraph content) later) hlater
    rw [hcontent, if_neg Bool.false_ne_true] at hwhole
    rw [List.cons_append, collectBlocks_startsInline source close he]
    exact hwhole

/-- The start of a block stops a bare run. -/
theorem collectInlines_start {tag : Tag} (htag : tag.isInline = false) (range : ByteRange)
    (events : List Event) :
    (collectInlines none (.start tag range :: events)).Gives [] (.start tag range :: events) := by
  rw [collectInlines, if_neg (by simp [htag])]
  exact ⟨rfl, rfl⟩

/-- What follows a paragraph stops a bare run, if it is neither a paragraph nor a rule. -/
theorem collectInlines_stays {ns : List Node} {tight loose : List Event}
    (h : ItemStreams ns tight loose) (hparagraph : ns.head?.any Node.isParagraph = false)
    (hrule : ns.head?.any Node.isRule = false) (after : List Event) :
    (collectInlines none (tight ++ .stop .item :: after)).Gives [] (tight ++ .stop .item :: after)
    := by
  cases h with
  | nil =>
      rw [List.nil_append, collectInlines, if_neg (by simp)]
      exact ⟨rfl, rfl⟩
  | paragraph ne inside apart later => contradiction
  | block other inside later =>
      obtain ⟨rfl, -⟩ | ⟨-, tag, range, rest, rfl, htag⟩ := rule_or_start_of_blockEvents inside
      · contradiction
      · exact collectInlines_start htag range _

/-! ## Without a rule behind a paragraph -/

/-- The two streams are read alike, up to the end of the item. -/
theorem exists_reading (source : Text) {ns : List Node} {tight loose : List Event}
    (h : ItemStreams ns tight loose) (hrule : ruleBehindParagraph ns = false)
    (after : List Event) :
    ∃ children, (collectBlocks source (some .item) (tight ++ .stop .item :: after)).Gives children
        after
      ∧ (collectBlocks source (some .item) (loose ++ .stop .item :: after)).Gives children
        after := by
  induction h with
  | nil =>
      have hstop := collectBlocks_stop source .item after
      exact ⟨⟨[], []⟩, hstop, hstop⟩
  | @paragraph content range ns es tight loose ne inside apart later ih =>
      rw [ruleBehindParagraph, Bool.or_eq_false_iff] at hrule
      obtain ⟨children, htight, hloose⟩ := ih hrule.2
      obtain ⟨extend, henclosed, hbare⟩ := exists_paragraph source inside ne range
      have hstays := collectInlines_stays later apart hrule.1 after
      refine ⟨children.consNode (.paragraph (extend [])), ?_, ?_⟩
      · rw [List.append_assoc]
        exact hbare _ _ _ _ _ _ hstays htight
      · rw [enclosed_append]
        exact henclosed _ _ _ _ hloose
  | @block n ns es tight loose other inside later ih =>
      rw [ruleBehindParagraph, Bool.or_eq_false_iff] at hrule
      obtain ⟨children, htight, hloose⟩ := ih hrule.2
      obtain ⟨read, -, hread⟩ := readsNodes_of_blockEvents source inside
      refine ⟨read.append children, ?_, ?_⟩
      · rw [List.append_assoc]
        exact hread _ _ _ _ htight
      · rw [List.append_assoc]
        exact hread _ _ _ _ hloose

/-! ## With a rule behind a paragraph -/

/-- The number of nodes that are read to the end of an item. -/
def nodeCount (source : Text) (events : List Event) : Nat :=
  (collectBlocks source (some .item) events).value.value.length

/-- The number of nodes that are read behind a bare run. -/
def nodeCountBehindRun (source : Text) (events : List Event) : Nat :=
  nodeCount source (collectInlines none events).rest

theorem nodeCount_append {source : Text} {count : Nat} {es : List Event}
    (h : ReadsNodes source count es) (events : List Event) :
    nodeCount source (es ++ events) = count + nodeCount source events := by
  obtain ⟨read, hlength, hread⟩ := h
  unfold nodeCount
  rw [(hread _ _ _ _ ⟨rfl, rfl⟩).1, Warned.append, List.length_append, hlength]

theorem nodeCount_run {source : Text} {run : List Inline} {es : List Event} (h : RunEvents run es)
    (ne : run ≠ []) (events : List Event) :
    nodeCount source (es ++ events) = nodeCountBehindRun source events + 1 := by
  obtain ⟨extend, -, hbare⟩ := exists_paragraph source h ne ⟨0, 0⟩
  unfold nodeCount
  rw [(hbare _ _ _ _ _ _ ⟨rfl, rfl⟩ ⟨rfl, rfl⟩).1]
  rfl

theorem nodeCountBehindRun_run {source : Text} {run : List Inline} {es : List Event}
    (h : RunEvents run es) (events : List Event) :
    nodeCountBehindRun source (es ++ events) = nodeCountBehindRun source events := by
  obtain ⟨extend, -, hextend⟩ := exists_run h
  unfold nodeCountBehindRun
  rw [(hextend none _ _ _ ⟨rfl, rfl⟩).2]

/-- A bare run goes on over a rule. -/
theorem nodeCountBehindRun_rule (source : Text) (events : List Event) :
    nodeCountBehindRun source (.rule :: events) = nodeCountBehindRun source events := by
  unfold nodeCountBehindRun
  rw [collectInlines]
  rfl

/-- Events that stop a bare run are all left for the blocks. -/
theorem nodeCountBehindRun_stop {source : Text} {events : List Event}
    (h : (collectInlines none events).Gives [] events) :
    nodeCountBehindRun source events = nodeCount source events := by
  unfold nodeCountBehindRun
  rw [h.2]

/-- Each node of the loose stream is read. -/
theorem nodeCount_loose (source : Text) {ns : List Node} {tight loose : List Event}
    (h : ItemStreams ns tight loose) (after : List Event) :
    nodeCount source (loose ++ .stop .item :: after) = ns.length := by
  induction h with
  | nil =>
      unfold nodeCount
      rw [List.nil_append, (collectBlocks_stop source .item after).1]
  | @paragraph content range ns es tight loose ne inside apart later ih =>
      obtain ⟨extend, henclosed, -⟩ := exists_paragraph source inside ne range
      unfold nodeCount at ih ⊢
      rw [enclosed_append, (henclosed _ _ _ _ ⟨rfl, rfl⟩).1]
      exact congrArg Nat.succ ih
  | @block n ns es tight loose other inside later ih =>
      rw [List.append_assoc, nodeCount_append (readsNodes_of_blockEvents source inside), ih]
      exact Nat.add_comm _ _

/-- Of the tight stream no more nodes are read than there are, and one less when a rule stands
directly behind a paragraph.  The same holds behind a bare run in front of the stream, which goes on
over a rule that the stream begins with. -/
theorem nodeCount_tight_le (source : Text) {ns : List Node} {tight loose : List Event}
    (h : ItemStreams ns tight loose) (after : List Event) :
    nodeCount source (tight ++ .stop .item :: after) + (ruleBehindParagraph ns).toNat ≤ ns.length
      ∧ nodeCountBehindRun source (tight ++ .stop .item :: after)
          + (ns.head?.any Node.isRule || ruleBehindParagraph ns).toNat ≤ ns.length := by
  induction h with
  | nil =>
      have hcount : nodeCount source (.stop .item :: after) = 0 := by
        unfold nodeCount
        rw [(collectBlocks_stop source .item after).1, List.length_nil]
      have hstays := collectInlines_stays .nil rfl rfl after
      rw [nodeCountBehindRun_stop hstays, List.nil_append, hcount]
      exact ⟨Nat.le_refl 0, Nat.le_refl 0⟩
  | @paragraph content range ns es tight loose ne inside apart later ih =>
      obtain ⟨-, hbehind⟩ := ih
      have hlost : ruleBehindParagraph (.paragraph content :: ns)
          = (ns.head?.any Node.isRule || ruleBehindParagraph ns) := rfl
      have hhead : Node.isRule (.paragraph content) = false := rfl
      rw [List.append_assoc, nodeCount_run inside ne, nodeCountBehindRun_run inside, hlost,
        List.length_cons, List.head?_cons, Option.any_some, hhead, Bool.false_or]
      omega
  | @block n ns es tight loose other inside later ih =>
      obtain ⟨hblocks, hbehind⟩ := ih
      have hcount := nodeCount_append (readsNodes_of_blockEvents source inside)
        (tight ++ .stop .item :: after)
      have hlost : ruleBehindParagraph (n :: ns) = ruleBehindParagraph ns := by
        rw [ruleBehindParagraph, other, Bool.false_and, Bool.false_or]
      rw [List.length_singleton] at hcount
      rw [List.append_assoc, hcount, hlost, List.length_cons]
      refine ⟨by omega, ?_⟩
      obtain ⟨rfl, rfl⟩ | ⟨hrule, tag, range, rest, rfl, htag⟩ :=
        rule_or_start_of_blockEvents inside
      · have hle := Bool.toNat_le (Node.isRule .horizontalRule || ruleBehindParagraph ns)
        rw [List.singleton_append, nodeCountBehindRun_rule, List.head?_cons, Option.any_some]
        omega
      · have hstop := collectInlines_start htag range (rest ++ (tight ++ .stop .item :: after))
        rw [← List.cons_append] at hstop
        rw [nodeCountBehindRun_stop hstop, hcount, List.head?_cons, Option.any_some, hrule,
          Bool.false_or]
        omega

/-! ## Both streams -/

/-- The tight and the loose stream of an item are read alike, exactly if no rule stands directly
behind a paragraph.  With such a rule the tight stream has fewer nodes: the bare run swallows it. -/
theorem collectBlocks_tight_eq_loose_iff (source : Text) {children : List Node}
    {tight loose : List Event} (h : ItemStreams children tight loose) (after : List Event) :
    let readTight := collectBlocks source (some .item) (tight ++ .stop .item :: after)
    let readLoose := collectBlocks source (some .item) (loose ++ .stop .item :: after)
    (readTight.value = readLoose.value ∧ readTight.rest = readLoose.rest
        ↔ ruleBehindParagraph children = false)
      ∧ (ruleBehindParagraph children = true →
          readTight.value.value.length < readLoose.value.value.length) := by
  intro readTight readLoose
  have hfewer : ruleBehindParagraph children = true →
      readTight.value.value.length < readLoose.value.value.length := by
    intro hrule
    have hle := (nodeCount_tight_le source h after).1
    have hall := nodeCount_loose source h after
    rw [hrule] at hle
    unfold nodeCount at hle hall
    rw [← hall] at hle
    exact hle
  refine ⟨⟨fun hsame => ?_, fun hrule => ?_⟩, hfewer⟩
  · rw [← Bool.not_eq_true]
    intro hrule
    have hlt := hfewer hrule
    rw [hsame.1] at hlt
    exact Nat.lt_irrefl _ hlt
  · obtain ⟨read, htight, hloose⟩ := exists_reading source h hrule after
    exact ⟨htight.1.trans hloose.1.symm, htight.2.trans hloose.2.symm⟩

/-- A quote between two paragraphs: the tight stream is read like the loose one. -/
theorem collectBlocks_tight_quote :
    let tight : List Event :=
      [.text "a", .start .blockquote ⟨2, 5⟩, .start .paragraph ⟨4, 5⟩, .text "b", .stop .paragraph,
        .stop .blockquote, .code "c", .stop .item, .rule]
    let loose : List Event :=
      [.start .paragraph ⟨0, 1⟩, .text "a", .stop .paragraph, .start .blockquote ⟨2, 5⟩,
        .start .paragraph ⟨4, 5⟩, .text "b", .stop .paragraph, .stop .blockquote,
        .start .paragraph ⟨6, 9⟩, .code "c", .stop .paragraph, .stop .item, .rule]
    (collectBlocks [] (some .item) tight).value = (collectBlocks [] (some .item) loose).value
      ∧ (collectBlocks [] (some .item) tight).rest
        = (collectBlocks [] (some .item) loose).rest := by
  intro tight loose
  have text : ∀ t : Text, RunEvents [.text t] [.text t] := fun t => by
    have cut : Cut Event.inlinePiece? (t ++ []) [.text t] := .cons rfl .nil
    rw [List.append_nil] at cut
    exact .text (List.cons_ne_nil _ _) cut .nil
  have quote : BlockEvents [.blockquote [.paragraph [.text "b"]]]
      [.start .blockquote ⟨2, 5⟩, .start .paragraph ⟨4, 5⟩, .text "b", .stop .paragraph,
        .stop .blockquote] := .blockquote (.paragraph (text "b") .nil) .nil
  have last : ItemStreams [.paragraph [.codeSpan "c"]] [.code "c"]
      [.start .paragraph ⟨6, 9⟩, .code "c", .stop .paragraph] :=
    .paragraph (List.cons_ne_nil _ _) (.codeSpan .nil) rfl .nil
  have children := @ItemStreams.paragraph _ ⟨0, 1⟩ _ _ _ _ (List.cons_ne_nil _ _) (text "a") rfl
    (.block rfl quote last)
  exact (collectBlocks_tight_eq_loose_iff [] children [.rule]).1.mpr rfl

/-- A rule behind a paragraph: the item `a` over `***` has both in its loose form, and the paragraph
alone in its tight form. -/
theorem collectBlocks_tight_rule :
    let tight : List Event := [.text "a", .rule]
    let loose : List Event := [.start .paragraph ⟨0, 1⟩, .text "a", .stop .paragraph, .rule]
    ItemStreams [.paragraph [.text "a"], .horizontalRule] tight loose
      ∧ (collectBlocks [] (some .item) (tight ++ [.stop .item])).value.value.length = 1
      ∧ (collectBlocks [] (some .item) (loose ++ [.stop .item])).value.value.length = 2 := by
  intro tight loose
  have cut : Cut Event.inlinePiece? "a" [.text "a"] := @Cut.cons _ _ "a" [] _ rfl .nil
  have text : RunEvents [.text "a"] [.text "a"] := .text (List.cons_ne_nil _ _) cut .nil
  have rule : ItemStreams [.horizontalRule] [.rule] [.rule] := .block rfl (.rule .nil) .nil
  exact ⟨.paragraph (List.cons_ne_nil _ _) text rfl rule, by decide +kernel, by decide +kernel⟩

end Markdown

end Weave
