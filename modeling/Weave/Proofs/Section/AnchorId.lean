import Mathlib.Data.List.Nodup
import Mathlib.Data.List.Perm.Subperm
import Mathlib.Order.Bounds.Defs
import Weave.Proofs.Section.Wrapping
import Weave.Proofs.Text.Numeral

/-!
# Anchor ids

Wrapping gives an id to every heading that opens a section and has none of its author's.

* `Slugger.slug_notMem` and `Slugger.mem_names_slug` are the contract of the slugs: a slug is new
  when it is handed out, and in use from then on.  That a number is found for a slug that is in use
  is a matter of counting (`Slugger.exists_numbered_notMem`).
* `assignedIds` reads the ids off a document and what became of it, by comparing their headings.
* `freshIds_titles` follows the slugs from title to title, and `assignedIds_wrapSections` says
  which ids a document has been given.
-/

namespace Weave

/-! ## Slugs in use -/

namespace Slugger

/-- The slugs that are in use. -/
def names (s : Slugger) : List Text := s.taken.map Prod.fst

/-- The slug of a text, or that slug with a number behind it. -/
def IsSlugOf (t id : Text) : Prop := id = base t ∨ ∃ n, 0 < n ∧ id = numbered (base t) n

variable {s : Slugger} {id : Text}

theorem isTaken_iff {slug : Text} : s.isTaken slug = true ↔ slug ∈ s.names := by
  simp [isTaken, names]

theorem mem_names_reserve {slug : Text} :
    id ∈ (s.reserve slug).names ↔ id = slug ∨ id ∈ s.names := by
  unfold reserve
  split
  next h =>
    have hslug := isTaken_iff.mp h
    exact ⟨.inr, fun hid => hid.elim (fun heq => heq ▸ hslug) fun hid => hid⟩
  next => exact List.mem_cons

theorem mem_names_foldl_reserve {ids : List Text} :
    id ∈ (ids.foldl reserve s).names ↔ id ∈ ids ∨ id ∈ s.names := by
  induction ids generalizing s with
  | nil => simp
  | cons first ids ih =>
    rw [List.foldl_cons, ih, mem_names_reserve, List.mem_cons, or_left_comm, or_assoc]

theorem names_setCount (slug : Text) (n : Nat) : (s.setCount slug n).names = s.names := by
  unfold setCount names
  rw [List.map_map]
  refine List.map_congr_left fun entry _ => ?_
  dsimp only [Function.comp_apply]
  split <;> rfl

theorem numbered_injective (b : Text) : Function.Injective (numbered b) := by
  intro m n h
  exact Text.ofNat_injective (List.append_cancel_left h)

/-- Among more numbers than there are slugs in use, one makes a slug that is not. -/
theorem exists_numbered_notMem (s : Slugger) (b : Text) (first : Nat) :
    ∃ n ∈ List.range' first (s.taken.length + 1), numbered b n ∉ s.names := by
  by_contra hnone
  push Not at hnone
  have hsubset : (List.range' first (s.taken.length + 1)).map (numbered b) ⊆ s.names := by
    intro id hid
    obtain ⟨n, hn, rfl⟩ := List.mem_map.mp hid
    exact hnone n hn
  have hnodup : ((List.range' first (s.taken.length + 1)).map (numbered b)).Nodup :=
    List.Nodup.map (numbered_injective b) List.nodup_range'
  have hlength := (List.subperm_of_subset hnodup hsubset).length_le
  simp only [names, List.length_map, List.length_range'] at hlength
  omega

/-- The next number of a slug is the first one behind its count that makes a slug not in use. -/
theorem isLeast_nextNumber (s : Slugger) (b : Text) :
    IsLeast {n | s.count b < n ∧ numbered b n ∉ s.names} (s.nextNumber b) := by
  have hfree : ∀ n, (!s.isTaken (numbered b n)) = true ↔ numbered b n ∉ s.names := by
    intro n
    rw [Bool.not_eq_true', ← Bool.not_eq_true, isTaken_iff]
  unfold nextNumber
  dsimp only
  cases hfind : (List.range' (s.count b + 1) (s.taken.length + 1)).find?
      fun n => !s.isTaken (numbered b n) with
  | none =>
    obtain ⟨n, hn, hnew⟩ := exists_numbered_notMem s b (s.count b + 1)
    exact absurd ((hfree n).mpr hnew) (List.find?_eq_none.mp hfind n hn)
  | some n =>
    obtain ⟨hn, hmem, hbefore⟩ := List.find?_range'_eq_some.mp hfind
    rw [List.mem_range'_1] at hmem
    rw [Option.getD_some]
    refine ⟨⟨by omega, (hfree n).mp hn⟩, fun k hk => ?_⟩
    by_contra hlt
    have htaken := hbefore k hk.1 (by omega)
    rw [Bool.not_eq_true', ← Bool.not_eq_true] at htaken
    exact htaken ((hfree k).mpr hk.2)

/-- The next number of a slug makes one that is not in use. -/
theorem numbered_nextNumber (s : Slugger) (b : Text) :
    0 < s.nextNumber b ∧ numbered b (s.nextNumber b) ∉ s.names := by
  obtain ⟨hcount, hnew⟩ := (isLeast_nextNumber s b).1
  exact ⟨by omega, hnew⟩

/-- A slug is not in use when it is handed out. -/
theorem slug_notMem (s : Slugger) (t : Text) : (s.slug t).1 ∉ s.names := by
  unfold slug
  dsimp only
  split
  next => exact (numbered_nextNumber s (base t)).2
  next h => exact fun hmem => h (isTaken_iff.mpr hmem)

/-- A slug is in use when it has been handed out. -/
theorem mem_names_slug {t : Text} :
    id ∈ (s.slug t).2.names ↔ id = (s.slug t).1 ∨ id ∈ s.names := by
  unfold slug
  dsimp only
  split
  next => rw [mem_names_reserve, names_setCount]
  next => exact mem_names_reserve

theorem isSlugOf_slug (s : Slugger) (t : Text) : IsSlugOf t (s.slug t).1 := by
  unfold slug
  dsimp only
  split
  next => exact .inr ⟨_, (numbered_nextNumber s (base t)).1, rfl⟩
  next => exact .inl rfl

end Slugger

/-! ## The ids that headings are given -/

/-- The id that a heading without one has been given. -/
def assignedId? : Node → Node → Option Text
  | .heading before, .heading after => if before.id.isNone then after.id else none
  | _, _ => none

/-- The ids that the headings of a document have been given, where the leaves of the document have
become those of another one. -/
def assignedIds (before after : List Node) : List Text :=
  (List.zipWith assignedId? (allLeaves before) (allLeaves after)).filterMap id

theorem assignedId?_self (n : Node) : assignedId? n n = none := by
  cases n with
  | heading h =>
    cases hid : h.id with
    | none => simp [assignedId?, hid]
    | some id => simp [assignedId?, hid]
  | _ => rfl

/-- The first nodes and the others are given their ids on their own. -/
theorem assignedIds_cons {n n' : Node} (h : n.leaves.length = n'.leaves.length)
    (ns ns' : List Node) :
    assignedIds (n :: ns) (n' :: ns') = assignedIds [n] [n'] ++ assignedIds ns ns' := by
  unfold assignedIds
  simp only [allLeaves, List.append_nil]
  rw [List.zipWith_append h, List.filterMap_append]

theorem assignedIds_singleton_self (n : Node) : assignedIds [n] [n] = [] := by
  unfold assignedIds
  rw [List.zipWith_self, List.filterMap_map, List.filterMap_eq_nil_iff]
  exact fun m _ => assignedId?_self m

section Sections

variable (levels : List Nat) (tocTitle : Text)

/-- The text of a heading behind its directive. -/
def Heading.sectionText (h : Heading) : Text := Inline.plainTextOf (Directive.take h.content).2

/-- The heading of a node that opens a section, if it has no id of its author's. -/
def unnamedTarget? (n : Node) : Option Heading :=
  match target? levels tocTitle n with
  | some h => if h.id.isNone then some h else none
  | none => none

end Sections

variable {levels : List Nat} {tocTitle : Text}

theorem slugsAfter_eq (slugs : Slugger) (n : Node) :
    slugsAfter levels tocTitle slugs n
      = match unnamedTarget? levels tocTitle n with
        | some h => (slugs.slug h.sectionText).2
        | none => slugs := by
  unfold slugsAfter unnamedTarget? Heading.sectionText
  cases target? levels tocTitle n with
  | none => rfl
  | some h =>
    dsimp only
    cases h.id <;> rfl

/-- The id that a top node is given, where `slugs` are in use before it. -/
theorem assignedIds_titleOf (slugs : Slugger) (n : Node) :
    assignedIds [n] [titleOf levels tocTitle slugs n]
      = match unnamedTarget? levels tocTitle n with
        | some h => [(slugs.slug h.sectionText).1]
        | none => [] := by
  unfold unnamedTarget?
  cases ht : target? levels tocTitle n with
  | none =>
    have hsame : titleOf levels tocTitle slugs n = n := by rw [titleOf, ht]
    rw [hsame, assignedIds_singleton_self]
  | some h =>
    have hn := eq_heading_of_target? ht
    subst hn
    unfold titleOf
    rw [ht]
    cases hid : h.id with
    | none => simp [assignedIds, allLeaves, Node.leaves, assignedId?, hid, Heading.sectionText]
    | some id => simp [assignedIds, allLeaves, Node.leaves, assignedId?, hid]

theorem length_leaves_titleOf (slugs : Slugger) (n : Node) :
    n.leaves.length = (titleOf levels tocTitle slugs n).leaves.length := by
  cases ht : target? levels tocTitle n with
  | none => rw [titleOf, ht]
  | some h =>
    rw [leaves_titleOf_of_target ht, eq_heading_of_target? ht]
    rfl

/-- The ids that some top nodes are given, where `slugs` are in use before them: they do not repeat,
none of them was in use, and each is a slug of its heading's text. -/
structure FreshIds (levels : List Nat) (tocTitle : Text) (slugs : Slugger) (ns : List Node)
    (ids : List Text) : Prop where
  nodup : ids.Nodup
  notMem : ∀ id ∈ ids, id ∉ slugs.names
  slug : List.Forall₂ (fun h id => Slugger.IsSlugOf (Heading.sectionText h) id)
    (ns.filterMap (unnamedTarget? levels tocTitle)) ids

theorem freshIds_titles (slugs : Slugger) (ns : List Node) :
    FreshIds levels tocTitle slugs ns (assignedIds ns (titles levels tocTitle slugs ns)) := by
  induction ns generalizing slugs with
  | nil => exact ⟨List.nodup_nil, fun _ hid => absurd hid List.not_mem_nil, List.Forall₂.nil⟩
  | cons n ns ih =>
    have hlater := ih (slugsAfter levels tocTitle slugs n)
    rw [titles, assignedIds_cons (length_leaves_titleOf slugs n), assignedIds_titleOf]
    rw [slugsAfter_eq] at hlater ⊢
    cases hn : unnamedTarget? levels tocTitle n with
    | none =>
      rw [hn] at hlater
      refine ⟨hlater.nodup, hlater.notMem, ?_⟩
      rw [List.filterMap_cons_none hn]
      exact hlater.slug
    | some h =>
      rw [hn] at hlater
      -- The slug that was handed out for `h` is in use behind it.
      have hbehind : ∀ id ∈ assignedIds ns (titles levels tocTitle (slugs.slug h.sectionText).2 ns),
          id ≠ (slugs.slug h.sectionText).1 ∧ id ∉ slugs.names := by
        intro id hid
        have hnew := hlater.notMem id hid
        rw [Slugger.mem_names_slug, not_or] at hnew
        exact hnew
      refine ⟨?_, ?_, ?_⟩
      · exact List.nodup_cons.mpr ⟨fun hid => (hbehind _ hid).1 rfl, hlater.nodup⟩
      · intro id hid
        rcases List.mem_cons.mp hid with rfl | hid
        · exact Slugger.slug_notMem slugs h.sectionText
        · exact (hbehind id hid).2
      · rw [List.filterMap_cons_some hn]
        exact .cons (Slugger.isSlugOf_slug slugs h.sectionText) hlater.slug

/-- The id of a heading that stands at the top of a document is one of its authored ids. -/
theorem mem_authoredIds {nodes : List Node} {leaf : PlacedLeaf} (hleaf : leaf ∈ placedLeaves nodes)
    (htop : leaf.place = .top) {h : Heading} (hh : leaf.node = .heading h) {id : Text}
    (hid : h.id = some id) : id ∈ authoredIds nodes := by
  rw [placedLeaves, allLeavesAt_eq_flatMap] at hleaf
  obtain ⟨n, hn, hleaf⟩ := List.mem_flatMap.mp hleaf
  rw [eq_of_mem_leavesAt_top hleaf htop] at hh
  subst hh
  exact List.mem_filterMap.mpr ⟨_, hn, hid⟩

/-- Each heading that opens a section and has no id is given one, the slug of its text or that slug
with a number.  The ids that are given do not repeat, and where one of them is the id that an author
gave to a heading, before it or behind it, that heading does not stand at the top of the
document. -/
theorem assignedIds_wrapSections (levels : List Nat) (tocTitle : Text) (nodes : List Node) :
    let ids := assignedIds nodes (wrapSections levels tocTitle nodes)
    ids.Nodup
      ∧ (∀ leaf ∈ placedLeaves nodes, ∀ h, leaf.node = .heading h → ∀ id, h.id = some id →
          id ∈ ids → leaf.place ≠ .top)
      ∧ List.Forall₂ (fun h id => Slugger.IsSlugOf (Heading.sectionText h) id)
          (nodes.filterMap (unnamedTarget? levels tocTitle)) ids := by
  intro ids
  have hids : ids = assignedIds nodes (titles levels tocTitle
      ((authoredIds nodes).foldl Slugger.reserve Slugger.empty) nodes) := by
    unfold ids assignedIds
    rw [allLeaves_wrapSections]
  have hfresh : FreshIds levels tocTitle ((authoredIds nodes).foldl Slugger.reserve Slugger.empty)
      nodes ids := hids ▸ freshIds_titles _ nodes
  refine ⟨hfresh.nodup, ?_, hfresh.slug⟩
  intro leaf hleaf h hh id hid hmem htop
  have hauthored := mem_authoredIds hleaf htop hh hid
  exact hfresh.notMem id hmem (Slugger.mem_names_foldl_reserve.mpr (.inl hauthored))

/-- A heading of rank two. -/
def headingOf (text : Text) (id : Option Text) : Heading := ⟨2, id, [.text text], ⟨0, 0⟩⟩

example :
    let approach := headingOf "Approach" none
    let document := [.heading approach, .heading approach,
      .heading (headingOf "Custom" (some "approach-2".toList)), .heading approach]
    assignedIds document (wrapSections [2] "Contents" document)
      = ["approach".toList, "approach-1".toList, "approach-3".toList] := by
  decide +kernel

/-- A heading in a quote may have the id that is given to a heading at the top. -/
theorem assignedIds_headingInQuote :
    ¬∀ (levels : List Nat) (tocTitle : Text) (nodes : List Node),
      let ids := assignedIds nodes (wrapSections levels tocTitle nodes)
      ids.Nodup ∧ ∀ h, .heading h ∈ allLeaves nodes → ∀ id, h.id = some id → id ∉ ids := by
  intro hall
  let quoted := headingOf "Intro" (some "intro".toList)
  obtain ⟨-, hnew⟩ := hall [2] "Contents"
    [.heading (headingOf "Intro" none), .blockquote [.heading quoted]]
  refine hnew quoted ?_ "intro" rfl ?_
  · simp [allLeaves, Node.leaves]
  · decide +kernel

end Weave
