import Weave.Section.Wrap

/-!
# Sections as a forward reading

`wrapSections` notes where its targets stand and then wraps them from the last to the first.  The
test that ends a section therefore looks at components that are already made, and the nodes behind
a target have moved by the time it is wrapped.  This module reads a document from left to right and
looks at its nodes as they were written; `wrapSections_eq_forwardReading` says that both give the
same document.

There are three groups.

* The reading.  `target?` tells which headings open a section, `stopsSection` which written nodes
  end one, and `nextStop` where the next such node stands.  `forwardReading` copies the other nodes
  and makes one component of a target and the nodes before its stop.
* What the end test sees of a reading.  A section of a deeper rank hides no node that ends a
  section around it, because a node that stops the outer section stops the inner one before it.
  `takeWhile_forwardReading` and `dropWhile_forwardReading` say where the test stops.
* The assembly.  `sectionTargets_drop` follows the ids that are handed out from left to right, and
  `wrapTargets_drop` is the invariant of the wrapping: in front of an index no node has moved yet,
  and from there on stands the reading.
-/

namespace Weave

section Reading

variable (levels : List Nat) (tocTitle : Text)

/-! ## The reading -/

/-- The heading of a node that opens a section: its rank is selected, and its text behind the
directive is not the title of the table of contents. -/
def target? : Node → Option Heading
  | .heading h =>
    if h.level ∈ levels
        ∧ (Inline.plainTextOf (Directive.take h.content).2).trim.lowercase ≠ tocTitle.trim.lowercase
    then some h
    else none
  | _ => none

/-- The rank that a component is stamped with: the integer in its first attribute of that name. -/
def depthStamp? (c : Component) : Option Int :=
  match c.attributes.find? (·.name == Names.depthAttribute) with
  | some ⟨_, .integer depth⟩ => some depth
  | _ => none

/-- Whether a node as such ends a section of the given rank: a heading of that rank or a higher one,
a table of contents, or a component stamped with such a rank. -/
def endsByItself (rank : Nat) : Node → Bool
  | .heading h => decide (h.level ≤ rank)
  | .component c =>
    c.name == Names.tableOfContents || (depthStamp? c).any fun d => decide (d ≤ (rank : Int))
  | _ => false

/-- Whether a written node ends a section of the given rank, by itself or as a target that is to
become a table of contents. -/
def stopsSection (rank : Nat) (n : Node) : Bool :=
  endsByItself rank n
    || (target? levels tocTitle n).any fun h =>
      (Directive.take h.content).1.base == Names.tableOfContents

/-- The least index from `start` on of a node that ends a section of the given rank; the number of
nodes if there is none. -/
def nextStop (nodes : List Node) (rank start : Nat) : Nat :=
  start + (nodes.drop start).findIdx (stopsSection levels tocTitle rank)

theorem le_nextStop (nodes : List Node) (rank start : Nat) :
    start ≤ nextStop levels tocTitle nodes rank start := by
  unfold nextStop
  omega

/-- The slugs in use after a node: a target without an id of its author takes one. -/
def slugsAfter (slugs : Slugger) (n : Node) : Slugger :=
  match target? levels tocTitle n with
  | some h =>
    if h.id.isSome then slugs
    else (slugs.slug (Inline.plainTextOf (Directive.take h.content).2)).2
  | none => slugs

/-- The slugs in use before the node at an index. -/
def slugsBefore (nodes : List Node) (i : Nat) : Slugger :=
  (nodes.take i).foldl (slugsAfter levels tocTitle)
    ((authoredIds nodes).foldl Slugger.reserve Slugger.empty)

/-- The id of the target at an index: the author's, or the next free slug of its text. -/
def anchorId (nodes : List Node) (i : Nat) (h : Heading) : Text :=
  h.id.getD
    ((slugsBefore levels tocTitle nodes i).slug
      (Inline.plainTextOf (Directive.take h.content).2)).1

/-- The attributes that a directive adds behind the rank. -/
def Directive.flags (d : Directive) : List Attribute :=
  (if d.name.isSome && d.collapsible then [⟨Names.collapsibleAttribute, .boolean true⟩] else [])
    ++ if d.collapsible && d.expanded then [⟨Names.defaultExpandedAttribute, .boolean true⟩] else []

/-- The section of the target at an index around its content. -/
def sectionAt (nodes : List Node) (i : Nat) (h : Heading) (content : List Node) : Node :=
  let directive := (Directive.take h.content).1
  let titled : Heading :=
    { h with
      content := (Directive.take h.content).2
      id := some (anchorId levels tocTitle nodes i h) }
  .component
    ⟨directive.base, ⟨Names.depthAttribute, .integer h.level⟩ :: directive.flags,
      [.component ⟨Names.headerOf directive.base, [], [.heading titled]⟩,
        .component ⟨Names.contentOf directive.base, [], content⟩]⟩

/-- The nodes from index `i` up to `stop`, read from left to right.  A target at `i` becomes one
component around the reading up to its next stop, where the reading goes on. -/
def forwardReading (nodes : List Node) (i stop : Nat) : List Node :=
  if h : i < stop ∧ i < nodes.length then
    match target? levels tocTitle nodes[i] with
    | some heading =>
      let next := nextStop levels tocTitle nodes heading.level (i + 1)
      sectionAt levels tocTitle nodes i heading (forwardReading nodes (i + 1) next)
        :: forwardReading nodes next stop
    | none => nodes[i] :: forwardReading nodes (i + 1) stop
  else []
termination_by nodes.length - i
decreasing_by
  · omega
  · have := le_nextStop levels tocTitle nodes heading.level (i + 1)
    omega
  · omega

end Reading

variable {levels : List Nat} {tocTitle : Text}

theorem forwardReading_of_le (nodes : List Node) {i stop : Nat} (h : stop ≤ i) :
    forwardReading levels tocTitle nodes i stop = [] := by
  rw [forwardReading, dif_neg (by omega)]

theorem forwardReading_of_not_target {nodes : List Node} {i stop : Nat} (hi : i < nodes.length)
    (hstop : i < stop) (ht : target? levels tocTitle nodes[i] = none) :
    forwardReading levels tocTitle nodes i stop
      = nodes[i] :: forwardReading levels tocTitle nodes (i + 1) stop := by
  rw [forwardReading, dif_pos ⟨hstop, hi⟩]
  simp only [ht]

theorem forwardReading_of_target {nodes : List Node} {i stop : Nat} {h : Heading}
    (hi : i < nodes.length) (hstop : i < stop) (ht : target? levels tocTitle nodes[i] = some h) :
    forwardReading levels tocTitle nodes i stop
      = sectionAt levels tocTitle nodes i h
          (forwardReading levels tocTitle nodes (i + 1)
            (nextStop levels tocTitle nodes h.level (i + 1)))
        :: forwardReading levels tocTitle nodes (nextStop levels tocTitle nodes h.level (i + 1))
            stop := by
  rw [forwardReading, dif_pos ⟨hstop, hi⟩]
  simp only [ht]

/-! ## Where a section ends -/

theorem eq_heading_of_target? {n : Node} {h : Heading} (ht : target? levels tocTitle n = some h) :
    n = .heading h := by
  cases n with
  | heading h' =>
    simp only [target?] at ht
    split at ht
    · rw [Option.some.inj ht]
    · contradiction
  | _ => simp [target?] at ht

theorem nextStop_of_stops {nodes : List Node} {rank k : Nat} (hk : k < nodes.length)
    (h : stopsSection levels tocTitle rank nodes[k] = true) :
    nextStop levels tocTitle nodes rank k = k := by
  rw [nextStop, List.drop_eq_getElem_cons hk, List.findIdx_cons, h]
  rfl

theorem nextStop_of_not_stops {nodes : List Node} {rank k : Nat} (hk : k < nodes.length)
    (h : stopsSection levels tocTitle rank nodes[k] = false) :
    nextStop levels tocTitle nodes rank k = nextStop levels tocTitle nodes rank (k + 1) := by
  rw [nextStop, nextStop, List.drop_eq_getElem_cons hk, List.findIdx_cons, h]
  simp only [cond_false]
  omega

theorem nextStop_of_ge {nodes : List Node} {rank k : Nat} (hk : nodes.length ≤ k) :
    nextStop levels tocTitle nodes rank k = k := by
  rw [nextStop, List.drop_eq_nil_of_le hk]
  rfl

theorem nextStop_le {nodes : List Node} {rank k : Nat} (hk : k ≤ nodes.length) :
    nextStop levels tocTitle nodes rank k ≤ nodes.length := by
  have hle : (nodes.drop k).findIdx (stopsSection levels tocTitle rank) ≤ (nodes.drop k).length :=
    List.findIdx_le_length
  rw [List.length_drop] at hle
  unfold nextStop
  omega

/-- A node that ends a section by itself ends every section of a deeper rank. -/
theorem endsByItself_mono {rank rank' : Nat} (hr : rank ≤ rank') {n : Node}
    (h : endsByItself rank n = true) : endsByItself rank' n = true := by
  cases n with
  | heading h' =>
    have hle : h'.level ≤ rank := of_decide_eq_true h
    exact decide_eq_true (Nat.le_trans hle hr)
  | component c =>
    simp only [endsByItself, Bool.or_eq_true, Option.any_eq_true, decide_eq_true_eq] at h ⊢
    refine h.imp_right fun ⟨depth, hd, hle⟩ => ⟨depth, hd, ?_⟩
    omega
  | _ => contradiction

/-- A node that stops a section stops every section of a deeper rank. -/
theorem stopsSection_mono {rank rank' : Nat} (hr : rank ≤ rank') {n : Node}
    (h : stopsSection levels tocTitle rank n = true) :
    stopsSection levels tocTitle rank' n = true := by
  rw [stopsSection, Bool.or_eq_true] at h ⊢
  exact h.imp_left (endsByItself_mono hr)

/-- The next stop of a deeper rank comes no later. -/
theorem nextStop_anti (nodes : List Node) {rank rank' : Nat} (hr : rank ≤ rank') (k : Nat) :
    nextStop levels tocTitle nodes rank' k ≤ nextStop levels tocTitle nodes rank k := by
  unfold nextStop
  apply Nat.add_le_add_left
  exact List.findIdx_le_findIdx fun n _ h => stopsSection_mono hr h

/-- A search that starts before the stop finds it, from wherever in between it starts. -/
theorem nextStop_of_le_of_le {nodes : List Node} {rank k m : Nat} (hkm : k ≤ m)
    (hm : m ≤ nextStop levels tocTitle nodes rank k) :
    nextStop levels tocTitle nodes rank m = nextStop levels tocTitle nodes rank k := by
  induction hkm with
  | refl => rfl
  | @step m hkm ih =>
    have heq := ih (by omega)
    rw [← heq] at hm ⊢
    rcases Nat.lt_or_ge m nodes.length with hlen | hlen
    · cases hs : stopsSection levels tocTitle rank nodes[m] with
      | true =>
        rw [nextStop_of_stops hlen hs] at hm
        exact absurd hm (Nat.not_succ_le_self m)
      | false => rw [nextStop_of_not_stops hlen hs]
    · rw [nextStop_of_ge hlen] at hm
      exact absurd hm (Nat.not_succ_le_self m)

/-- The end test on a node as it stands. -/
theorem endsSection_eq_endsByItself (rank : Nat) (n : Node) :
    endsSection rank n = endsByItself rank n := by
  cases n with
  | component c =>
    have hd : (c.attribute? Names.depthAttribute).bind AttrValue.integer? = depthStamp? c := by
      unfold Component.attribute? depthStamp?
      cases c.attributes.find? (·.name == Names.depthAttribute) with
      | none => rfl
      | some a =>
        obtain ⟨name, value⟩ := a
        cases value <;> rfl
    simp only [endsSection, endsByItself, Component.is, hd]
  | _ => rfl

/-- A node that opens no section stops one exactly if it ends one. -/
theorem endsSection_of_not_target {n : Node} (ht : target? levels tocTitle n = none) (rank : Nat) :
    endsSection rank n = stopsSection levels tocTitle rank n := by
  rw [endsSection_eq_endsByItself, stopsSection, ht, Option.any_none, Bool.or_false]

/-- The section of a target ends another one exactly if the heading of the target stops it. -/
theorem endsSection_sectionAt {n : Node} {h : Heading} (ht : target? levels tocTitle n = some h)
    (rank : Nat) (nodes : List Node) (i : Nat) (content : List Node) :
    endsSection rank (sectionAt levels tocTitle nodes i h content)
      = stopsSection levels tocTitle rank n := by
  have hlevel : decide ((h.level : Int) ≤ (rank : Int)) = decide (h.level ≤ rank) := by simp
  rw [endsSection_eq_endsByItself, stopsSection, ht, eq_heading_of_target? ht]
  simp only [endsByItself, sectionAt, depthStamp?, List.find?_cons, beq_self_eq_true,
    Option.any_some, hlevel]
  exact Bool.or_comm _ _

/-- A target that does not stop a section is of a deeper rank. -/
theorem le_level_of_not_stops {n : Node} {h : Heading} {rank : Nat}
    (ht : target? levels tocTitle n = some h)
    (hs : stopsSection levels tocTitle rank n = false) : rank ≤ h.level := by
  rw [stopsSection, Bool.or_eq_false_iff, eq_heading_of_target? ht] at hs
  have hlt : ¬h.level ≤ rank := of_decide_eq_false hs.1
  omega

/-- The end test, run over a reading, stops where the next stop of the written nodes stands.  The
induction is on the number of nodes that are left.  A target that does not stop the section is of a
deeper rank, so its own section ends no later. -/
theorem span_forwardReading (nodes : List Node) (rank : Nat) {k : Nat} (hk : k ≤ nodes.length) :
    (forwardReading levels tocTitle nodes k nodes.length).takeWhile (!endsSection rank ·)
        = forwardReading levels tocTitle nodes k (nextStop levels tocTitle nodes rank k) ∧
      (forwardReading levels tocTitle nodes k nodes.length).dropWhile (!endsSection rank ·)
        = forwardReading levels tocTitle nodes (nextStop levels tocTitle nodes rank k)
            nodes.length := by
  induction hd : nodes.length - k using Nat.strongRecOn generalizing k with
  | ind d ih =>
    rcases Nat.lt_or_ge k nodes.length with hlen | hlen
    · cases ht : target? levels tocTitle nodes[k] with
      | none =>
        rw [forwardReading_of_not_target hlen hlen ht, List.takeWhile_cons, List.dropWhile_cons,
          endsSection_of_not_target ht]
        cases hs : stopsSection levels tocTitle rank nodes[k] with
        | true =>
          rw [nextStop_of_stops hlen hs, forwardReading_of_le nodes (Nat.le_refl k)]
          simp [forwardReading_of_not_target hlen hlen ht]
        | false =>
          obtain ⟨htake, hdrop⟩ := ih (nodes.length - (k + 1)) (by omega) hlen rfl
          have hnext := le_nextStop levels tocTitle nodes rank (k + 1)
          rw [nextStop_of_not_stops hlen hs, forwardReading_of_not_target hlen hnext ht]
          exact ⟨congrArg (nodes[k] :: ·) htake, hdrop⟩
      | some h =>
        rw [forwardReading_of_target hlen hlen ht, List.takeWhile_cons, List.dropWhile_cons,
          endsSection_sectionAt ht]
        cases hs : stopsSection levels tocTitle rank nodes[k] with
        | true =>
          rw [nextStop_of_stops hlen hs, forwardReading_of_le nodes (Nat.le_refl k)]
          simp [forwardReading_of_target hlen hlen ht]
        | false =>
          have hrank := le_level_of_not_stops ht hs
          have hnext := le_nextStop levels tocTitle nodes h.level (k + 1)
          have hle : nextStop levels tocTitle nodes h.level (k + 1) ≤ nodes.length := nextStop_le hlen
          have hanti : nextStop levels tocTitle nodes h.level (k + 1)
              ≤ nextStop levels tocTitle nodes rank (k + 1) := nextStop_anti nodes hrank (k + 1)
          obtain ⟨htake, hdrop⟩ := ih _ (by omega) hle rfl
          rw [nextStop_of_le_of_le hnext hanti] at htake hdrop
          rw [nextStop_of_not_stops hlen hs, forwardReading_of_target hlen (by omega) ht]
          exact ⟨congrArg (_ :: ·) htake, hdrop⟩
    · rw [nextStop_of_ge hlen, forwardReading_of_le nodes hlen]
      exact ⟨(forwardReading_of_le nodes (Nat.le_refl k)).symm, rfl⟩

/-! ## The wrapping is the reading -/

theorem slugsBefore_succ {nodes : List Node} {i : Nat} (hi : i < nodes.length) :
    slugsBefore levels tocTitle nodes (i + 1)
      = slugsAfter levels tocTitle (slugsBefore levels tocTitle nodes i) nodes[i] := by
  rw [slugsBefore, List.take_succ_eq_append_getElem hi, List.foldl_append]
  rfl

/-- The target at an index has its heading without the directive and with an id. -/
def targetAt (levels : List Nat) (tocTitle : Text) (nodes : List Node) (i : Nat) (h : Heading) :
    SectionTarget :=
  ⟨i, (Directive.take h.content).1,
    { h with
      content := (Directive.take h.content).2
      id := some (anchorId levels tocTitle nodes i h) }⟩

theorem component_targetAt (nodes : List Node) (i : Nat) (h : Heading) (content : List Node) :
    Node.component ((targetAt levels tocTitle nodes i h).component content)
      = sectionAt levels tocTitle nodes i h content := rfl

theorem target?_eq_none_of_isTocTitle {h : Heading}
    (htitle : isTocTitle tocTitle (Inline.plainTextOf (Directive.take h.content).2) = true) :
    target? levels tocTitle (.heading h) = none := by
  rw [isTocTitle, beq_iff_eq] at htitle
  rw [target?, if_neg fun h' => h'.2 htitle]

theorem target?_eq_some {h : Heading} (hlevel : h.level ∈ levels)
    (htitle : isTocTitle tocTitle (Inline.plainTextOf (Directive.take h.content).2) = false) :
    target? levels tocTitle (.heading h) = some h := by
  rw [isTocTitle, beq_eq_false_iff_ne] at htitle
  rw [target?, if_pos ⟨hlevel, htitle⟩]

/-- The targets are found from left to right: the node at an index is one with the heading that
the reading sees, and leaves the slugs that the next node finds. -/
theorem sectionTarget?_getElem {nodes : List Node} {i : Nat} (hi : i < nodes.length) :
    sectionTarget? levels tocTitle (slugsBefore levels tocTitle nodes i) i nodes[i]
      = ((target? levels tocTitle nodes[i]).map (targetAt levels tocTitle nodes i),
          slugsBefore levels tocTitle nodes (i + 1)) := by
  rw [slugsBefore_succ hi]
  cases hn : nodes[i] with
  | heading h =>
    by_cases hlevel : h.level ∈ levels
    · cases htitle : isTocTitle tocTitle (Inline.plainTextOf (Directive.take h.content).2) with
      | true =>
        have ht : target? levels tocTitle (.heading h) = none :=
          target?_eq_none_of_isTocTitle htitle
        simp [sectionTarget?, slugsAfter, ht, htitle]
      | false =>
        have ht := target?_eq_some hlevel htitle
        cases hid : h.id <;>
          simp [sectionTarget?, slugsAfter, ht, hlevel, htitle, hid, targetAt, anchorId]
    · simp [sectionTarget?, slugsAfter, target?, hlevel]
  | _ => rfl

theorem sectionTargets_drop {nodes : List Node} {i : Nat} (hi : i < nodes.length) :
    sectionTargets levels tocTitle (slugsBefore levels tocTitle nodes i) i (nodes.drop i)
      = ((target? levels tocTitle nodes[i]).map (targetAt levels tocTitle nodes i)).toList
        ++ sectionTargets levels tocTitle (slugsBefore levels tocTitle nodes (i + 1)) (i + 1)
            (nodes.drop (i + 1)) := by
  rw [List.drop_eq_getElem_cons hi, sectionTargets, sectionTarget?_getElem hi]

/-- Wrapping a target leaves the nodes in front of it and captures those behind it up to the first
that ends its section. -/
theorem wrapTarget_append {target : SectionTarget} {passed : List Node}
    (hindex : target.index = passed.length) (n : Node) (later : List Node) :
    wrapTarget target (passed ++ n :: later)
      = passed ++ .component
            (target.component (later.takeWhile (!endsSection target.heading.level ·)))
          :: later.dropWhile (!endsSection target.heading.level ·) := by
  have hlater : (passed ++ n :: later).drop (passed.length + 1) = later := by
    rw [← List.drop_drop, List.drop_left]
    rfl
  have hpassed : (passed ++ n :: later).take passed.length = passed := List.take_left
  have hstop : captureEnd (passed ++ n :: later) target.heading.level (passed.length + 1)
      = passed.length + 1 + later.findIdx (endsSection target.heading.level) := by
    rw [captureEnd, hlater]
  unfold wrapTarget
  rw [hindex, hstop, hpassed]
  dsimp only
  rw [List.drop_take, hlater, ← List.drop_drop, hlater, Nat.add_sub_cancel_left,
    List.takeWhile_eq_take_findIdx_not, List.dropWhile_eq_drop_findIdx_not]
  simp only [Bool.not_not]

/-- With the targets from an index on wrapped, the nodes in front of the index are as they were
written, and behind them stands the reading from that index on. -/
theorem wrapTargets_drop (nodes : List Node) {i : Nat} (hi : i ≤ nodes.length) :
    (sectionTargets levels tocTitle (slugsBefore levels tocTitle nodes i) i (nodes.drop i)).foldr
        wrapTarget nodes
      = nodes.take i ++ forwardReading levels tocTitle nodes i nodes.length := by
  induction hd : nodes.length - i generalizing i with
  | zero =>
    have hlen : nodes.length ≤ i := by omega
    rw [List.drop_eq_nil_of_le hlen, forwardReading_of_le nodes hlen, List.take_of_length_le hlen,
      List.append_nil]
    rfl
  | succ d ih =>
    have hlen : i < nodes.length := by omega
    have hlength : i = (nodes.take i).length := by
      rw [List.length_take]
      omega
    rw [sectionTargets_drop hlen, List.foldr_append, ih hlen (by omega),
      List.take_succ_eq_append_getElem hlen, List.append_assoc, List.singleton_append]
    cases ht : target? levels tocTitle nodes[i] with
    | none =>
      rw [forwardReading_of_not_target hlen hlen ht]
      rfl
    | some h =>
      obtain ⟨htake, hdrop⟩ := span_forwardReading nodes h.level hlen
      rw [forwardReading_of_target hlen hlen ht, ← htake, ← hdrop, ← component_targetAt]
      exact wrapTarget_append hlength nodes[i] _

/-- Wrapping the sections of a document is reading it from left to right, whatever its nodes are:
every target becomes one component that reaches to the next written node that stops it. -/
theorem wrapSections_eq_forwardReading (levels : List Nat) (tocTitle : Text) (nodes : List Node) :
    wrapSections levels tocTitle nodes
      = forwardReading levels tocTitle nodes 0 nodes.length :=
  wrapTargets_drop nodes (Nat.zero_le _)

end Weave
