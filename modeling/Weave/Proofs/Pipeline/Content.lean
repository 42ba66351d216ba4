import Weave.Proofs.Enumeration.Restructure
import Weave.Proofs.Fence.Fate
import Weave.Proofs.Section.Wrapping

/-!
# No content is lost

The passes that give a document its structure put components around its leaves.  `Retained` says
what a leaf may lose on the way: a paragraph that stands first in a list item its number and its
final colons, and the heading of a section its directive, where it has an id then.
`retained_leaves` says that the leaves of the result are those of the document in this sense, one by
one and in order.  Code blocks lose nothing, so a transformed document is annotated once for each
code block that was written.
-/

namespace Weave

/-- What a leaf becomes on its way through the lists and the sections. -/
inductive Retained (levels : List Nat) (tocTitle : Text) : PlacedLeaf → Node → Prop where
  /-- A paragraph that stands first in a list item may lose its number and its final colons. -/
  | lead {content content' : List Inline} (h : ItemText.Tidied content content') :
      Retained levels tocTitle ⟨.lead, .paragraph content⟩ (.paragraph content')
  /-- The heading of a section loses its directive and has an id. -/
  | title {h : Heading} {id : Text} (ht : target? levels tocTitle (.heading h) = some h)
      (hid : ∀ authored, h.id = some authored → id = authored) :
      Retained levels tocTitle ⟨.top, .heading h⟩
        (.heading { h with content := (Directive.take h.content).2, id := some id })
  /-- Every other leaf stays as it is. -/
  | same {place : LeafPlace} {n : Node} (hlead : place = .lead → ∀ content, n ≠ .paragraph content)
      (htop : place = .top → target? levels tocTitle n = none) :
      Retained levels tocTitle ⟨place, n⟩ n

variable {levels : List Nat} {tocTitle : Text}

/-- The leaves of a top node are retained, where its lists become components and then it is
grouped. -/
theorem retained_of_titled (source : Text) {n n' : Node}
    (h : Titled levels tocTitle (n.restructure source 0) n') :
    List.Forall₂ (Retained levels tocTitle) (n.leavesAt .top) n'.leaves := by
  generalize hm : n.restructure source 0 = m at h
  cases h with
  | @target h id ht hid =>
    have hheading : n.heading? = some h := by
      rw [← heading?_restructure source 0 n, hm]
      rfl
    obtain rfl := eq_heading_of_heading? hheading
    exact .cons (.title ht hid) .nil
  | other ht =>
    subst hm
    have hleaves := enumerated_restructure source 0 (n := n) fun h : LeafPlace.top = .lead =>
      absurd h (by decide)
    have htop : ∀ leaf ∈ n.leavesAt .top,
        leaf.place = .top → target? levels tocTitle leaf.node = none := by
      intro leaf hleaf hplace
      rw [eq_of_mem_leavesAt_top hleaf hplace]
      cases n with
      | heading h => exact ht
      | _ => rfl
    refine ((List.forall₂_and_left _ _).mpr ⟨htop, hleaves⟩).imp ?_
    rintro leaf n' ⟨hleaf, henumerated⟩
    cases henumerated with
    | lead h => exact .lead h
    | other h => exact .same h hleaf

theorem span_resolveBlock (sources : CodeSources) (state : ResolverState) (b : CodeBlock) :
    (resolveBlock sources state b).1.span = b.span := by
  cases h : Locator.of? (Locator.normalize b) with
  | none => rw [resolveBlock_of_none h]
  | some locator =>
    rcases hlookup : sources.lookup state.cache locator with ⟨answer, cache⟩
    cases answer with
    | error kind => rw [resolveBlock_of_error h hlookup]
    | ok found =>
      rw [resolveBlock_of_ok h hlookup]
      exact span_normalize b

theorem map_span_resolveBlocks (sources : CodeSources) (state : ResolverState)
    (bs : List CodeBlock) :
    (resolveBlocks sources state bs).1.map (·.span) = bs.map (·.span) := by
  induction bs generalizing state with
  | nil => rfl
  | cons b bs ih => simp only [resolveBlocks, List.map_cons, ih, span_resolveBlock]

/-- The passes that structure a document keep its leaves, one by one and in order, and its code
blocks as they are.  A transformed document is annotated once for each code block of the
document, in order. -/
theorem retained_leaves (levels : List Nat) (tocTitle source : Text) (document : Document)
    (sources : CodeSources) (index : SymbolIndex) :
    List.Forall₂ (Retained levels tocTitle) (placedLeaves document)
        (allLeaves (wrapSections levels tocTitle (restructureLists source document)))
      ∧ allCodeBlocks (wrapSections levels tocTitle (restructureLists source document))
          = allCodeBlocks document
      ∧ annotateCodeBlocks index (transform sources source document).document
          = (resolveBlocks sources .initial (allCodeBlocks document)).1.map
              (fun b => ⟨b.span, b.language, annotate b.content index⟩)
      ∧ (annotateCodeBlocks index (transform sources source document).document).map (·.span)
          = (allCodeBlocks document).map (·.span) := by
  have hannotated : annotateCodeBlocks index (transform sources source document).document
      = (resolveBlocks sources .initial (allCodeBlocks document)).1.map
          (fun b => ⟨b.span, b.language, annotate b.content index⟩) := by
    simp only [annotateCodeBlocks, transform, allCodeBlocks_wrapSections, restructureLists,
      allCodeBlocks_restructureAll, allCodeBlocks_resolveAll]
  refine ⟨?_, ?_, hannotated, ?_⟩
  · obtain ⟨titled, htitled, hleaves⟩ :=
      titled_wrapSections levels tocTitle (restructureLists source document)
    rw [hleaves, placedLeaves, allLeavesAt_eq_flatMap, allLeaves_eq_flatMap]
    have hnodes : List.Forall₂ (fun n n' => Titled levels tocTitle (n.restructure source 0) n')
        document titled := by
      rw [restructureLists, restructureAll_eq_map, List.forall₂_map_left_iff] at htitled
      exact htitled
    exact List.rel_flatMap hnodes fun _ _ => retained_of_titled source
  · rw [allCodeBlocks_wrapSections, restructureLists, allCodeBlocks_restructureAll]
  · rw [hannotated, List.map_map]
    exact map_span_resolveBlocks sources .initial (allCodeBlocks document)

end Weave
