import Mathlib.Data.List.Perm.Basic
import Weave.Proofs.Enumeration.Restructure
import Weave.Proofs.Fence.Frame
import Weave.Proofs.Section.Wrapping

/-!
# The order of the passes

Each pass changes what the others walk through: lists and sections become components, and the
resolver carries its cache and its warnings from fence to fence.  The passes commute all the same.

* Neither lists nor sections touch the code blocks or their order, and neither looks into one, so
  resolution may come before or after them (`keepsFences_restructureLists`,
  `keepsFences_wrapSections`).
* A list component ends no section, and the components of a section are no lists, so lists may
  become components inside of sections or before them (`wrapSections_restructureLists`).

`foldl_run_of_perm` is the statement about the passes of a run in any order.
-/

namespace Weave

/-! ## Lists and frames -/

/-- The numbers of a list are read at the places of its items. -/
theorem numbers_congr (source : Text) (ordered : Bool) (start : Option Nat) (span : ByteRange)
    {items items' : List ListItem} (h : items.map (·.span) = items'.map (·.span)) :
    ItemList.numbers source ⟨ordered, start, items, span⟩
      = ItemList.numbers source ⟨ordered, start, items', span⟩ := by
  have hlines : ∀ is : List ListItem, ordinalsOf source is
      = (is.map (·.span)).map fun span => Ordinal.ofLine ((lineAt? source span.start).getD []) :=
    fun is => by rw [ordinalsOf, List.map_map]; rfl
  have hnone : ∀ is : List ListItem, is.map (fun _ => (none : Option Text))
      = (is.map (·.span)).map fun _ => none := fun is => by rw [List.map_map]; rfl
  simp only [ItemList.numbers, hlines, hnone, h]

theorem map_span_frameItems (items : List ListItem) :
    (frameItems items).map (·.span) = items.map (·.span) := by
  induction items with
  | nil => rfl
  | cons item items ih =>
    obtain ⟨children, variant, span⟩ := item
    simp only [frameItems, List.map_cons, ih]

theorem cleanItem_frameAll (ns : List Node) :
    cleanItem (frameAll ns) = ((cleanItem ns).1, frameAll (cleanItem ns).2) := by
  cases ns with
  | nil => rfl
  | cons n ns =>
    cases n with
    | list l => obtain ⟨ordered, start, items, span⟩ := l; rfl
    | component c => obtain ⟨name, attributes, children⟩ := c; rfl
    | _ => rfl

mutual

/-- A list is made a component no matter what its code blocks are. -/
theorem frame_restructure (source : Text) (depth : Nat) (n : Node) :
    (n.restructure source depth).frame = n.frame.restructure source depth := by
  cases n with
  | list l =>
    obtain ⟨ordered, start, items, span⟩ := l
    have hnumbers := numbers_congr source ordered start span (map_span_frameItems items).symm
    simp only [Node.restructure, Node.frame, listComponent, hnumbers,
      frameAll_restructureItems source (depth + 1) _ items]
  | blockquote children =>
    simp only [Node.restructure, Node.frame, frameAll_restructureAll source depth children]
  | component c =>
    obtain ⟨name, attributes, children⟩ := c
    simp only [Node.restructure, Node.frame, frameAll_restructureAll source depth children]
  | _ => rfl

theorem frameAll_restructureAll (source : Text) (depth : Nat) (ns : List Node) :
    frameAll (restructureAll source depth ns) = restructureAll source depth (frameAll ns) := by
  cases ns with
  | nil => rfl
  | cons n ns =>
    rw [restructureAll, frameAll, frame_restructure source depth n,
      frameAll_restructureAll source depth ns, frameAll, restructureAll]

theorem frameAll_restructureItems (source : Text) (level : Nat) (numbers : List (Option Text))
    (items : List ListItem) :
    frameAll (restructureItems source level numbers items)
      = restructureItems source level numbers (frameItems items) := by
  cases items with
  | nil => cases numbers <;> rfl
  | cons item items =>
    obtain ⟨children, variant, span⟩ := item
    cases numbers with
    | nil => rfl
    | cons number numbers =>
      simp only [restructureItems, frameAll, frameItems, Node.frame, itemComponent,
        ← frameAll_restructureAll source level children, cleanItem_frameAll,
        frameAll_restructureItems source level numbers items]

end

theorem keepsFences_restructureLists (source : Text) : KeepsFences (restructureLists source) where
  allCodeBlocks_eq := allCodeBlocks_restructureAll source 0
  frameAll_eq := frameAll_restructureAll source 0

/-! ## Sections, frames and lists -/

theorem frameAll_eq_map (ns : List Node) : frameAll ns = ns.map Node.frame := by
  induction ns with
  | nil => rfl
  | cons n ns ih => rw [frameAll, ih, List.map_cons]

/-- The end of a section shows in the frame. -/
theorem keepsSections_frame : KeepsSections Node.frame where
  heading?_eq n := by
    cases n with
    | list l => obtain ⟨ordered, start, items, span⟩ := l; rfl
    | component c => obtain ⟨name, attributes, children⟩ := c; rfl
    | _ => rfl
  endsSection_eq rank n := by
    cases n with
    | list l => obtain ⟨ordered, start, items, span⟩ := l; rfl
    | component c => obtain ⟨name, attributes, children⟩ := c; rfl
    | _ => rfl
  component_eq target content := by
    simp [SectionTarget.component, Component.named, Component.withChildren, Node.frame, frameAll,
      frameAll_eq_map]

theorem keepsFences_wrapSections (levels : List Nat) (tocTitle : Text) :
    KeepsFences (wrapSections levels tocTitle) where
  allCodeBlocks_eq := allCodeBlocks_wrapSections levels tocTitle
  frameAll_eq ns := by
    rw [frameAll_eq_map, frameAll_eq_map, wrapSections_map keepsSections_frame]

/-- The component of a list ends no section. -/
theorem endsSection_listComponent (rank : Nat) (ordered : Bool) (level : Nat) (items : List Node) :
    endsSection rank (.component (listComponent ordered level items)) = false := by
  cases ordered <;> rfl

/-- Making lists components keeps the sections. -/
theorem keepsSections_restructure (source : Text) : KeepsSections (Node.restructure source 0) where
  heading?_eq := heading?_restructure source 0
  endsSection_eq rank n := by
    cases n with
    | list l =>
      obtain ⟨ordered, start, items, span⟩ := l
      exact endsSection_listComponent rank ordered 1 _
    | component c => obtain ⟨name, attributes, children⟩ := c; rfl
    | _ => rfl
  component_eq target content := by
    simp [SectionTarget.component, Component.named, Component.withChildren, Node.restructure,
      restructureAll, restructureAll_eq_map]

/-- Lists become components before sections are wrapped or in the sections. -/
theorem wrapSections_restructureLists (levels : List Nat) (tocTitle source : Text)
    (nodes : List Node) :
    wrapSections levels tocTitle (restructureLists source nodes)
      = restructureLists source (wrapSections levels tocTitle nodes) := by
  rw [restructureLists, restructureLists, restructureAll_eq_map, restructureAll_eq_map,
    wrapSections_map (keepsSections_restructure source)]

/-! ## The passes of a run -/

/-- The passes over a document. -/
inductive Pass where
  | fences
  | lists
  | sections
  deriving DecidableEq, Repr

/-- A pass over a document with the warnings so far.  The fences are resolved with a resolver of
their own. -/
def Pass.run (sources : CodeSources) (source : Text) (t : Transformed) : Pass → Transformed
  | fences =>
    let (nodes, state) := resolveAll sources .initial t.document
    ⟨nodes, t.warnings ++ state.warnings⟩
  | lists => { t with document := restructureLists source t.document }
  | sections =>
    let options := sources.options
    { t with document := wrapSections options.sectionLevels options.tocTitle t.document }

/-- Two passes may be exchanged. -/
theorem run_run_comm (sources : CodeSources) (source : Text) (t : Transformed) (p q : Pass) :
    Pass.run sources source (Pass.run sources source t p) q
      = Pass.run sources source (Pass.run sources source t q) p := by
  have hlists : Pass.run sources source (Pass.run sources source t .lists) .fences
      = Pass.run sources source (Pass.run sources source t .fences) .lists := by
    simp only [Pass.run, resolveAll_pass (keepsFences_restructureLists source)]
  have hsections : Pass.run sources source (Pass.run sources source t .sections) .fences
      = Pass.run sources source (Pass.run sources source t .fences) .sections := by
    simp only [Pass.run, resolveAll_pass (keepsFences_wrapSections _ _)]
  have hstructure : Pass.run sources source (Pass.run sources source t .lists) .sections
      = Pass.run sources source (Pass.run sources source t .sections) .lists := by
    simp only [Pass.run, wrapSections_restructureLists]
  cases p <;> cases q
  case fences.lists => exact hlists.symm
  case fences.sections => exact hsections.symm
  case lists.fences => exact hlists
  case lists.sections => exact hstructure
  case sections.fences => exact hsections
  case sections.lists => exact hstructure.symm
  all_goals rfl

instance (sources : CodeSources) (source : Text) :
    RightCommutative (Pass.run sources source) :=
  ⟨run_run_comm sources source⟩

/-- The passes in any order give the document and the warnings of a run. -/
theorem foldl_run_of_perm (sources : CodeSources) (source : Text) (document : Document)
    {order : List Pass} (h : order.Perm [.fences, .lists, .sections]) :
    order.foldl (Pass.run sources source) ⟨document, []⟩ = transform sources source document := by
  rw [h.foldl_eq]
  rfl

/-- A heading, and a numbered list with a fence in its item. -/
def headingAndList : Document :=
  [.heading ⟨2, none, [.text "Use"], ⟨0, 7⟩⟩,
    .list ⟨true, some 1,
      [⟨[.paragraph [.text "Run"],
        .codeBlock ⟨some "python", [⟨"file", some "a.py"⟩], [], ⟨15, 40⟩⟩], none, ⟨8, 40⟩⟩],
      ⟨8, 40⟩⟩]

/-- The passes in the opposite order. -/
theorem foldl_run_of_reverse :
    [Pass.sections, .lists, .fences].Perm [.fences, .lists, .sections] ∧
      [Pass.sections, .lists, .fences].foldl
          (Pass.run (.ofFiles [("a.py", "a = 1\n")]) "## Use\n1. Run\n") ⟨headingAndList, []⟩
        = transform (.ofFiles [("a.py", "a = 1\n")]) "## Use\n1. Run\n" headingAndList :=
  ⟨by decide, foldl_run_of_perm _ _ _ (by decide)⟩

end Weave
