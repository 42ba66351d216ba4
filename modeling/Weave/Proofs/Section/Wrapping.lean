import Weave.Proofs.Document.Leaves
import Weave.Proofs.Section.ForwardReading

/-!
# What wrapping keeps

Wrapping groups the top nodes of a document into sections.  Three things follow from the forward
reading and from how a section is found.

* `allLeaves_wrapSections` and `titled_wrapSections`: the leaves stay in their order, and only the
  headings of the sections change, which lose their directive and have an id.
* `wrapSections_map`: wrapping commutes with a change of the nodes that neither the search for the
  headings nor the test for the end of a section can see (`KeepsSections`).
* `wrapSections_wrapSections`: a wrapped document has nothing left to wrap.
-/

namespace Weave

variable {levels : List Nat} {tocTitle : Text}

/-! ## The leaves -/

/-- What a top node becomes, apart from being grouped: a heading that opens a section loses its
directive and has an id, its author's if there is one, and every other node stays. -/
inductive Titled (levels : List Nat) (tocTitle : Text) : Node → Node → Prop where
  | target {h : Heading} {id : Text} (ht : target? levels tocTitle (.heading h) = some h)
      (hid : ∀ authored, h.id = some authored → id = authored) :
      Titled levels tocTitle (.heading h)
        (.heading { h with content := (Directive.take h.content).2, id := some id })
  | other {n : Node} (ht : target? levels tocTitle n = none) : Titled levels tocTitle n n

/-- A top node with the title that its section shows, where `slugs` are in use before it. -/
def titleOf (levels : List Nat) (tocTitle : Text) (slugs : Slugger) (n : Node) : Node :=
  match target? levels tocTitle n with
  | some h =>
    let content := (Directive.take h.content).2
    .heading { h with content, id := some (h.id.getD (slugs.slug (Inline.plainTextOf content)).1) }
  | none => n

/-- Some top nodes with the titles that their sections show. -/
def titles (levels : List Nat) (tocTitle : Text) : Slugger → List Node → List Node
  | _, [] => []
  | slugs, n :: ns =>
    titleOf levels tocTitle slugs n
      :: titles levels tocTitle (slugsAfter levels tocTitle slugs n) ns

theorem titled_titleOf (slugs : Slugger) (n : Node) :
    Titled levels tocTitle n (titleOf levels tocTitle slugs n) := by
  unfold titleOf
  cases ht : target? levels tocTitle n with
  | none => exact .other ht
  | some h =>
    have hn := eq_heading_of_target? ht
    subst hn
    refine .target ht fun authored hauthored => ?_
    rw [hauthored, Option.getD_some]

theorem titled_titles (slugs : Slugger) (ns : List Node) :
    List.Forall₂ (Titled levels tocTitle) ns (titles levels tocTitle slugs ns) := by
  induction ns generalizing slugs with
  | nil => exact .nil
  | cons n ns ih => exact .cons (titled_titleOf slugs n) (ih _)

theorem leaves_sectionAt {nodes : List Node} {i : Nat} (hi : i < nodes.length) {h : Heading}
    (ht : target? levels tocTitle nodes[i] = some h) (content : List Node) :
    (sectionAt levels tocTitle nodes i h content).leaves
      = titleOf levels tocTitle (slugsBefore levels tocTitle nodes i) nodes[i]
        :: allLeaves content := by
  simp [sectionAt, Node.leaves, allLeaves, titleOf, ht, anchorId]

theorem leaves_titleOf_of_target {slugs : Slugger} {n : Node} {h : Heading}
    (ht : target? levels tocTitle n = some h) :
    (titleOf levels tocTitle slugs n).leaves = [titleOf levels tocTitle slugs n] := by
  unfold titleOf
  rw [ht]
  rfl

/-- The leaves of a reading are those of the nodes that are read, each with its title.  A target
hides nothing: the leaves of its section and of what follows are those of the reading behind it. -/
theorem allLeaves_forwardReading (nodes : List Node) {i : Nat} (hi : i ≤ nodes.length) :
    allLeaves (forwardReading levels tocTitle nodes i nodes.length)
      = allLeaves
          (titles levels tocTitle (slugsBefore levels tocTitle nodes i) (nodes.drop i)) := by
  induction hd : nodes.length - i generalizing i with
  | zero =>
    have hlen : nodes.length ≤ i := by omega
    rw [List.drop_eq_nil_of_le hlen, forwardReading_of_le nodes hlen, titles]
  | succ d ih =>
    have hlen : i < nodes.length := by omega
    have hleaves := ih hlen (by omega)
    rw [List.drop_eq_getElem_cons hlen, titles, allLeaves, ← slugsBefore_succ hlen, ← hleaves]
    cases ht : target? levels tocTitle nodes[i] with
    | none =>
      rw [forwardReading_of_not_target hlen hlen ht, allLeaves, titleOf, ht]
    | some h =>
      obtain ⟨htake, hdrop⟩ := span_forwardReading nodes h.level hlen
      rw [forwardReading_of_target hlen hlen ht, allLeaves, leaves_sectionAt hlen ht,
        leaves_titleOf_of_target ht, ← htake, ← hdrop, List.cons_append, ← allLeaves_append,
        List.takeWhile_append_dropWhile]
      rfl

/-- The leaves of a wrapped document are those of its top nodes with their titles. -/
theorem allLeaves_wrapSections (levels : List Nat) (tocTitle : Text) (nodes : List Node) :
    allLeaves (wrapSections levels tocTitle nodes)
      = allLeaves (titles levels tocTitle
          ((authoredIds nodes).foldl Slugger.reserve Slugger.empty) nodes) := by
  have hread : wrapSections levels tocTitle nodes
      = forwardReading levels tocTitle nodes 0 nodes.length :=
    wrapTargets_drop nodes (Nat.zero_le _)
  rw [hread, allLeaves_forwardReading nodes (Nat.zero_le _)]
  rfl

/-- Wrapping keeps the leaves in their order, and changes the titles of sections only. -/
theorem titled_wrapSections (levels : List Nat) (tocTitle : Text) (nodes : List Node) :
    ∃ titled, List.Forall₂ (Titled levels tocTitle) nodes titled
      ∧ allLeaves (wrapSections levels tocTitle nodes) = allLeaves titled :=
  ⟨_, titled_titles _ nodes, allLeaves_wrapSections levels tocTitle nodes⟩

theorem codeBlocks_of_titled {n n' : Node} (h : Titled levels tocTitle n n') :
    n'.codeBlocks = n.codeBlocks := by
  cases h <;> rfl

theorem allCodeBlocks_wrapSections (levels : List Nat) (tocTitle : Text) (nodes : List Node) :
    allCodeBlocks (wrapSections levels tocTitle nodes) = allCodeBlocks nodes := by
  obtain ⟨titled, htitled, hleaves⟩ := titled_wrapSections levels tocTitle nodes
  rw [allCodeBlocks_eq_filterMap, hleaves, ← allCodeBlocks_eq_filterMap]
  clear hleaves
  induction htitled with
  | nil => rfl
  | cons h _ ih => rw [allCodeBlocks, allCodeBlocks, codeBlocks_of_titled h, ih]

/-! ## Changes that wrapping does not see -/

/-- A change of nodes that keeps headings and the ends of sections, and goes through a section to
its content. -/
structure KeepsSections (f : Node → Node) : Prop where
  heading?_eq : ∀ n, (f n).heading? = n.heading?
  endsSection_eq : ∀ rank n, endsSection rank (f n) = endsSection rank n
  component_eq : ∀ (target : SectionTarget) content,
    f (.component (target.component content)) = .component (target.component (content.map f))

theorem eq_heading_of_heading? {n : Node} {h : Heading} (hn : n.heading? = some h) :
    n = .heading h := by
  cases n with
  | heading h' => rw [Option.some.inj hn]
  | _ => contradiction

/-- Whether a node is a target depends on its heading. -/
theorem sectionTarget?_congr {n n' : Node} (h : n'.heading? = n.heading?) (slugs : Slugger)
    (i : Nat) :
    sectionTarget? levels tocTitle slugs i n' = sectionTarget? levels tocTitle slugs i n := by
  cases hn : n.heading? with
  | some heading =>
    rw [eq_heading_of_heading? hn, eq_heading_of_heading? (h.trans hn)]
  | none =>
    have hnone : ∀ m : Node, m.heading? = none →
        sectionTarget? levels tocTitle slugs i m = (none, slugs) := by
      intro m hm
      cases m with
      | heading _ => contradiction
      | _ => rfl
    rw [hnone n hn, hnone n' (h.trans hn)]

section Map

variable {f : Node → Node} (hf : KeepsSections f)
include hf

theorem sectionTargets_map (slugs : Slugger) (i : Nat) (nodes : List Node) :
    sectionTargets levels tocTitle slugs i (nodes.map f)
      = sectionTargets levels tocTitle slugs i nodes := by
  induction nodes generalizing slugs i with
  | nil => rfl
  | cons n nodes ih =>
    rw [List.map_cons, sectionTargets, sectionTargets, sectionTarget?_congr (hf.heading?_eq n)]
    simp only [ih]

theorem authoredIds_map (nodes : List Node) : authoredIds (nodes.map f) = authoredIds nodes := by
  rw [authoredIds, authoredIds, List.filterMap_map]
  congr 1
  funext n
  rw [Function.comp_apply, hf.heading?_eq]

theorem captureEnd_map (nodes : List Node) (rank start : Nat) :
    captureEnd (nodes.map f) rank start = captureEnd nodes rank start := by
  have hends : endsSection rank ∘ f = endsSection rank := funext (hf.endsSection_eq rank)
  rw [captureEnd, captureEnd, ← List.map_drop, List.findIdx_map, hends]

theorem wrapTarget_map (target : SectionTarget) (nodes : List Node) :
    wrapTarget target (nodes.map f) = (wrapTarget target nodes).map f := by
  simp only [wrapTarget, captureEnd_map hf, List.map_append, List.map_cons, List.map_take,
    List.map_drop, hf.component_eq]

/-- Wrapping commutes with a change that keeps the sections. -/
theorem wrapSections_map (levels : List Nat) (tocTitle : Text) (nodes : List Node) :
    wrapSections levels tocTitle (nodes.map f) = (wrapSections levels tocTitle nodes).map f := by
  rw [wrapSections, wrapSections, authoredIds_map hf, sectionTargets_map hf]
  generalize sectionTargets levels tocTitle _ 0 nodes = targets
  induction targets with
  | nil => rfl
  | cons target targets ih => rw [List.foldr_cons, List.foldr_cons, ih, wrapTarget_map hf]

end Map

/-! ## Nothing is left to wrap -/

/-- No target is left among the nodes of a reading. -/
theorem target?_of_mem_forwardReading {nodes : List Node} {i stop : Nat} {n : Node}
    (hn : n ∈ forwardReading levels tocTitle nodes i stop) : target? levels tocTitle n = none := by
  induction hd : nodes.length - i using Nat.strongRecOn generalizing i with
  | ind d ih =>
    rcases Nat.lt_or_ge i stop with hstop | hstop
    · rcases Nat.lt_or_ge i nodes.length with hlen | hlen
      · cases ht : target? levels tocTitle nodes[i] with
        | none =>
          rw [forwardReading_of_not_target hlen hstop ht, List.mem_cons] at hn
          rcases hn with rfl | hn
          · exact ht
          · exact ih _ (by omega) hn rfl
        | some h =>
          have hnext := le_nextStop levels tocTitle nodes h.level (i + 1)
          rw [forwardReading_of_target hlen hstop ht, List.mem_cons] at hn
          rcases hn with rfl | hn
          · rfl
          · exact ih _ (by omega) hn rfl
      · rw [forwardReading, dif_neg (by omega)] at hn
        contradiction
    · rw [forwardReading_of_le nodes hstop] at hn
      contradiction

/-- Nodes without a target are read as they are. -/
theorem forwardReading_of_no_target {nodes : List Node}
    (h : ∀ n ∈ nodes, target? levels tocTitle n = none) {i : Nat} (hi : i ≤ nodes.length) :
    forwardReading levels tocTitle nodes i nodes.length = nodes.drop i := by
  induction hd : nodes.length - i generalizing i with
  | zero =>
    have hlen : nodes.length ≤ i := by omega
    rw [List.drop_eq_nil_of_le hlen, forwardReading_of_le nodes hlen]
  | succ d ih =>
    have hlen : i < nodes.length := by omega
    have ht := h nodes[i] (List.getElem_mem hlen)
    rw [forwardReading_of_not_target hlen hlen ht, ih hlen (by omega),
      List.drop_eq_getElem_cons hlen]

/-- A wrapped document has nothing left to wrap. -/
theorem wrapSections_wrapSections (levels : List Nat) (tocTitle : Text) (nodes : List Node) :
    wrapSections levels tocTitle (wrapSections levels tocTitle nodes)
      = wrapSections levels tocTitle nodes := by
  have hread : ∀ ns, wrapSections levels tocTitle ns
      = forwardReading levels tocTitle ns 0 ns.length :=
    fun ns => wrapTargets_drop ns (Nat.zero_le _)
  have hnone : ∀ n ∈ wrapSections levels tocTitle nodes, target? levels tocTitle n = none := by
    intro n hn
    rw [hread] at hn
    exact target?_of_mem_forwardReading hn
  rw [hread (wrapSections levels tocTitle nodes), forwardReading_of_no_target hnone (Nat.zero_le _),
    List.drop_zero]

end Weave
