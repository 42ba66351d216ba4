import Mathlib.Data.List.Chain
import Weave.Document.DecimalItem
import Weave.Proofs.Text.Chunks
import Weave.Proofs.Text.Cut

/-!
# The pieces of an item

An ordered item is split at the lines of its first paragraph that begin with a decimal marker.

* `Cut` is one cut, at the first marker line of the paragraph that the source has too, and `Splits`
  cuts as long as it can, which it does in one way only (`Splits.unique`).
  `splits_splitDecimalItems` says that the walk over the paragraph does so.
* `MarkerLineAt` is what a cut takes from the source: the line of the marker, which begins inside
  the item (`exists_markerLineAt`, `continuationLine?_eq_some`).
* `IsPartition` says of some pieces that they make up an item, and `Splits.isPartition` carries it
  through the cuts.
-/

namespace Weave

/-! ## Cuts -/

/-- The first place of a run where a line ends and a marker line begins. -/
structure FirstBreak (content before : List Inline) (marker : Text) (after : List Inline) :
    Prop where
  eq : content = before ++ .softBreak :: after
  marker : lineMarker? after = some marker
  first : ∀ front back, content = front ++ .softBreak :: back → front.length < before.length →
    lineMarker? back = none

/-- An item is cut at the first marker line of its first paragraph.  The rest of the paragraph and
the further children go to the second part, which begins with that line in the source. -/
inductive Cut (source : Text) : ListItem → ListItem → ListItem → Prop where
  | mk {content before after : List Inline} {others : List Node} {variant : Option Text}
      {start stop next : Nat} {marker : Text} (hbreak : FirstBreak content before marker after)
      (hline : continuationLine? source start stop marker = some next) :
      Cut source ⟨.paragraph content :: others, variant, ⟨start, stop⟩⟩
        ⟨[.paragraph before], variant, ⟨start, next⟩⟩
        ⟨.paragraph after :: others, none, ⟨next, stop⟩⟩

/-- The pieces of an item that is cut as long as it can be. -/
inductive Splits (source : Text) : ListItem → List ListItem → Prop where
  | whole {item : ListItem} (h : ∀ piece rest, ¬Cut source item piece rest) :
      Splits source item [item]
  | cut {item piece rest : ListItem} {pieces : List ListItem} (h : Cut source item piece rest)
      (later : Splits source rest pieces) : Splits source item (piece :: pieces)

theorem FirstBreak.unique {content before before' after after' : List Inline}
    {marker marker' : Text} (h : FirstBreak content before marker after)
    (h' : FirstBreak content before' marker' after') :
    before = before' ∧ marker = marker' ∧ after = after' := by
  have hle : before.length ≤ before'.length := by
    by_contra hlt
    have hnone := h.first before' after' h'.eq (by omega)
    rw [h'.marker] at hnone
    contradiction
  have hge : before'.length ≤ before.length := by
    by_contra hlt
    have hnone := h'.first before after h.eq (by omega)
    rw [h.marker] at hnone
    contradiction
  obtain ⟨rfl, hafter⟩ := List.append_inj (h.eq.symm.trans h'.eq) (by omega)
  obtain rfl : after = after' := (List.cons.inj hafter).2
  exact ⟨rfl, Option.some.inj (h.marker.symm.trans h'.marker), rfl⟩

theorem Cut.unique {source : Text} {item piece piece' rest rest' : ListItem}
    (h : Cut source item piece rest) (h' : Cut source item piece' rest') :
    piece = piece' ∧ rest = rest' := by
  obtain ⟨hbreak, hline⟩ := h
  obtain ⟨hbreak', hline'⟩ := h'
  obtain ⟨rfl, rfl, rfl⟩ := hbreak.unique hbreak'
  rw [hline] at hline'
  obtain rfl := Option.some.inj hline'
  exact ⟨rfl, rfl⟩

theorem Splits.unique {source : Text} {item : ListItem} {pieces pieces' : List ListItem}
    (h : Splits source item pieces) (h' : Splits source item pieces') : pieces = pieces' := by
  induction h generalizing pieces' with
  | whole hwhole =>
    cases h' with
    | whole _ => rfl
    | cut hcut _ => exact absurd hcut (hwhole _ _)
  | cut hcut _ ih =>
    cases h' with
    | whole hwhole => exact absurd hcut (hwhole _ _)
    | cut hcut' hlater' =>
      obtain ⟨rfl, rfl⟩ := hcut.unique hcut'
      rw [ih hlater']

/-! ## The walk over the paragraph -/

/-- Whether no marker line begins behind a line end in `read`, where `rest` follows. -/
def Unsplit (read rest : List Inline) : Prop :=
  ∀ front back, read ++ rest = front ++ .softBreak :: back → front.length < read.length →
    lineMarker? back = none

theorem unsplit_nil (rest : List Inline) : Unsplit [] rest := by
  intro front back _ hlt
  contradiction

theorem Unsplit.snoc {read rest : List Inline} {x : Inline} (h : Unsplit read (x :: rest))
    (hx : x = .softBreak → lineMarker? rest = none) : Unsplit (read ++ [x]) rest := by
  intro front back heq hlt
  rw [← List.append_cons] at heq
  by_cases hfront : front.length < read.length
  · exact h front back heq hfront
  · rw [List.length_append, List.length_singleton] at hlt
    obtain ⟨-, hcons⟩ := List.append_inj heq (by omega)
    obtain ⟨rfl, rfl⟩ := List.cons.inj hcons
    exact hx rfl

theorem exists_decimalPieces_cons (source : Text) (stop start : Nat) (read rest : List Inline) :
    ∃ content pieces, decimalPieces source stop start read rest = (start, content) :: pieces := by
  induction rest generalizing read with
  | nil => exact ⟨read, [], rfl⟩
  | cons x rest ih =>
    cases x with
    | softBreak =>
      rw [decimalPieces]
      split
      · exact ih _
      · split
        · exact ⟨_, [], rfl⟩
        · exact ⟨read, _, rfl⟩
    | _ => exact ih _

/-- The walk over a paragraph, of which `read` is behind it, cuts the item as long as it can. -/
theorem splits_pieceItems (source : Text) (stop start : Nat) (others : List Node)
    (variant : Option Text) {read rest : List Inline} (hread : Unsplit read rest) :
    Splits source ⟨.paragraph (read ++ rest) :: others, variant, ⟨start, stop⟩⟩
      (pieceItems stop others variant (decimalPieces source stop start read rest)) := by
  induction rest generalizing read start variant with
  | nil =>
    rw [decimalPieces, pieceItems, List.append_nil]
    refine .whole ?_
    rintro _ _ ⟨hbreak, -⟩
    have hlt := congrArg List.length hbreak.eq
    rw [List.length_append, List.length_cons] at hlt
    have hnone := hread _ _ (by rw [List.append_nil]; exact hbreak.eq) (by omega)
    rw [hbreak.marker] at hnone
    contradiction
  | cons x rest ih =>
    by_cases hx : x = .softBreak → lineMarker? rest = none
    · have hstep : decimalPieces source stop start read (x :: rest)
          = decimalPieces source stop start (read ++ [x]) rest := by
        cases x with
        | softBreak => rw [decimalPieces, hx rfl]
        | _ => rfl
      rw [hstep, List.append_cons]
      exact ih start variant (hread.snoc hx)
    · -- As nothing in `read` is a break, the one found here is the first.
      obtain ⟨rfl, hmarker⟩ := Classical.not_imp.mp hx
      obtain ⟨marker, hmarker⟩ := Option.ne_none_iff_exists'.mp hmarker
      have hbreak : FirstBreak (read ++ .softBreak :: rest) read marker rest :=
        ⟨rfl, hmarker, hread⟩
      rw [decimalPieces, hmarker]
      dsimp only
      cases hline : continuationLine? source start stop marker with
      | none =>
        rw [pieceItems]
        refine .whole ?_
        rintro _ _ ⟨hbreak', hline'⟩
        obtain ⟨-, rfl, -⟩ := hbreak.unique hbreak'
        rw [hline] at hline'
        contradiction
      | some next =>
        dsimp only
        have hlater := ih next none (unsplit_nil rest)
        obtain ⟨content, pieces, hpieces⟩ := exists_decimalPieces_cons source stop next [] rest
        rw [hpieces] at hlater ⊢
        rw [pieceItems]
        exact .cut (.mk hbreak hline) hlater

theorem splits_splitDecimalItems (source : Text) (item : ListItem) :
    Splits source item (splitDecimalItems source item) := by
  obtain ⟨children, variant, start, stop⟩ := item
  unfold splitDecimalItems
  dsimp only
  split
  · exact splits_pieceItems source stop start _ variant (unsplit_nil _)
  next hchildren =>
    refine .whole ?_
    rintro _ _ ⟨-, -⟩
    exact hchildren _ _ rfl

/-! ## The line of a cut -/

/-- Whether a line of a text begins at a byte offset, behind another line. -/
def BeginsLine (t : Text) (offset : Nat) : Prop :=
  ∃ before after, t = before ++ '\n' :: after ∧ offset = Text.byteLength (before ++ ['\n'])

/-- Lines in front of another line end in a newline. -/
theorem Text.IsLines.exists_newline {front later : List Text} {line : Text}
    (h : IsLines (front ++ line :: later)) (hfront : front ≠ []) :
    ∃ body, front.flatten = body ++ ['\n'] := by
  obtain ⟨first, last, rfl⟩ : ∃ first last, front = first ++ [last] :=
    ⟨_, _, (List.dropLast_append_getLast hfront).symm⟩
  rw [List.append_assoc, List.singleton_append] at h
  have hsublist : (last :: line :: later).Sublist (first ++ last :: line :: later) :=
    List.sublist_append_right _ _
  obtain ⟨body, rfl, -⟩ := (h.sublist hsublist).exists_body
  exact ⟨first.flatten ++ body, by simp⟩

/-- The line that is found begins with the marker, and lies behind the lines before it. -/
theorem markerLine?_eq_some {marker : Text} {offset next : Nat} {lines : List Text}
    (h : markerLine? marker offset lines = some next) :
    ∃ front line later, lines = front ++ line :: later
      ∧ next = offset + Text.byteLength front.flatten
      ∧ line.trimStart.startsWith marker = true := by
  induction lines generalizing offset with
  | nil => contradiction
  | cons line lines ih =>
    rw [markerLine?] at h
    split at h
    · rename_i hstarts
      obtain rfl := Option.some.inj h
      exact ⟨[], line, lines, rfl, rfl, hstarts⟩
    · obtain ⟨front, line', later, rfl, rfl, hstarts⟩ := ih h
      refine ⟨line :: front, line', later, rfl, ?_, hstarts⟩
      rw [List.flatten_cons, Text.byteLength_append]
      omega

/-- A marker line of a source: it stands behind a newline, inside the range in which it is looked
for, and begins with the marker. -/
structure MarkerLineAt (source : Text) (start stop : Nat) (marker : Text) (next : Nat)
    (body line below : Text) : Prop where
  eq : source = body ++ ['\n'] ++ (line ++ below)
  next_eq : next = Text.byteLength (body ++ ['\n'])
  start_lt : start < next
  le_stop : next + Text.byteLength line ≤ stop
  isLine : Text.IsLines [line]
  startsWith : line.trimStart.startsWith marker = true

theorem exists_markerLineAt {source marker : Text} {start stop next : Nat}
    (h : continuationLine? source start stop marker = some next) :
    ∃ body line below, MarkerLineAt source start stop marker next body line below := by
  simp only [continuationLine?, Option.bind_eq_bind, Option.bind_eq_some_iff] at h
  obtain ⟨t, hslice, hline⟩ := h
  obtain ⟨before, after, rfl, rfl, hstop⟩ := Text.slice?_eq_some_iff.mp hslice
  have hchunks := Text.isLines_chunks t
  have hflatten := Text.flatten_chunks t
  split at hline
  · contradiction
  next first rest hfirst =>
    obtain ⟨front, line, later, rfl, rfl, hstarts⟩ := markerLine?_eq_some hline
    rw [hfirst] at hchunks hflatten
    have hlines : Text.IsLines ((first :: front) ++ line :: later) := hchunks
    obtain ⟨body, hbody⟩ := hlines.exists_newline (List.cons_ne_nil first front)
    have ht : t = body ++ ['\n'] ++ (line ++ later.flatten) := by
      rw [← hflatten, ← List.cons_append, List.flatten_append, hbody, List.flatten_cons]
    have hfront : Text.byteLength first + Text.byteLength front.flatten
        = Text.byteLength (body ++ ['\n']) := by
      rw [← hbody, List.flatten_cons, Text.byteLength_append]
    have hnewline : 0 < Text.byteLength ['\n'] := Text.byteLength_pos
    rw [ht] at hstop
    simp only [Text.byteLength_append] at hstop hfront
    refine ⟨before ++ body, line, later.flatten ++ after, ?_, ?_, ?_, ?_, ?_, hstarts⟩
    · rw [ht]
      simp
    · simp only [Text.byteLength_append]
      omega
    · omega
    · omega
    · exact hlines.sublist (List.singleton_sublist.mpr (by simp))

/-- A marker line begins inside the range in which it is looked for. -/
theorem continuationLine?_eq_some {source marker : Text} {start stop next : Nat}
    (h : continuationLine? source start stop marker = some next) :
    start < next ∧ next < stop ∧ BeginsLine source next := by
  obtain ⟨body, line, below, hline⟩ := exists_markerLineAt h
  have hpos : 0 < Text.byteLength line := by
    obtain ⟨c, rest, hcons⟩ :=
      List.exists_cons_of_ne_nil (hline.isLine.ne_nil_of_mem List.mem_cons_self)
    rw [hcons]
    exact Text.byteLength_pos
  have hstop := hline.le_stop
  refine ⟨hline.start_lt, by omega, body, line ++ below, ?_, hline.next_eq⟩
  rw [hline.eq, List.append_assoc, List.singleton_append]

/-! ## The pieces make up the item -/

/-- What it means for pieces to make up an item. -/
structure IsPartition (source : Text) (item : ListItem) (pieces : List ListItem) : Prop where
  /-- The first piece starts where the item does. -/
  start : pieces.head?.map (·.span.start) = some item.span.start
  /-- The last piece ends where the item does. -/
  stop : pieces.getLast?.map (·.span.stop) = some item.span.stop
  /-- Each piece ends where the next one starts. -/
  adjacent : pieces.IsChain fun piece next => piece.span.stop = next.span.start
  increasing : pieces.Pairwise fun piece later => piece.span.start < later.span.start
  /-- Behind the first piece, each starts with a line of the source inside the item. -/
  lines : ∀ piece ∈ pieces.tail, item.span.start < piece.span.start
    ∧ piece.span.start < item.span.stop ∧ BeginsLine source piece.span.start
  /-- The first piece has the variant of the item and the others have none. -/
  variants : pieces.map (·.variant) = item.variant :: pieces.tail.map fun _ => none
  /-- The pieces have the first paragraph in runs with a line end between them, and the last one has
  the further children. -/
  paragraphs : ∀ content others, item.children = .paragraph content :: others →
    ∃ runs last, [Inline.softBreak].intercalate (runs ++ [last]) = content
      ∧ pieces.map (·.children)
          = runs.map (fun run => [.paragraph run]) ++ [.paragraph last :: others]
  /-- An item that does not begin with a paragraph is its only piece. -/
  alone : (∀ content others, item.children ≠ .paragraph content :: others) → pieces = [item]

theorem IsPartition.singleton (source : Text) (item : ListItem) :
    IsPartition source item [item] where
  start := rfl
  stop := rfl
  adjacent := .singleton item
  increasing := List.pairwise_singleton _ _
  lines := fun _ hpiece => absurd hpiece List.not_mem_nil
  variants := rfl
  paragraphs := fun content others hchildren => ⟨[], content, by simp, by simp [hchildren]⟩
  alone := fun _ => rfl

theorem IsPartition.cut {source : Text} {item piece rest : ListItem} {pieces : List ListItem}
    (hcut : Cut source item piece rest) (h : IsPartition source rest pieces) :
    IsPartition source item (piece :: pieces) := by
  obtain ⟨hbreak, hline⟩ := hcut
  rename_i content before after others variant start stop next marker
  obtain ⟨hstart, hstop, hbegins⟩ := continuationLine?_eq_some hline
  obtain ⟨first, later, rfl⟩ : ∃ first later, pieces = first :: later := by
    cases pieces with
    | nil => exact absurd h.start (by simp)
    | cons first later => exact ⟨first, later, rfl⟩
  have hfirst : first.span.start = next := by simpa using h.start
  have hlater : ∀ p ∈ later, next < p.span.start ∧ p.span.start < stop
      ∧ BeginsLine source p.span.start := h.lines
  refine ⟨rfl, ?_, ?_, ?_, ?_, ?_, ?_, ?_⟩
  · rw [List.getLast?_cons_cons]
    exact h.stop
  · exact .cons_cons hfirst.symm h.adjacent
  · refine List.pairwise_cons.mpr ⟨fun p hp => ?_, h.increasing⟩
    rcases List.mem_cons.mp hp with rfl | hp
    · exact hfirst ▸ hstart
    · exact hstart.trans (hlater p hp).1
  · intro p hp
    rcases List.mem_cons.mp hp with rfl | hp
    · rw [hfirst]
      exact ⟨hstart, hstop, hbegins⟩
    · exact ⟨hstart.trans (hlater p hp).1, (hlater p hp).2⟩
  · rw [List.map_cons, h.variants]
    rfl
  · intro content' others' hchildren
    obtain ⟨hcontent, rfl⟩ := List.cons.inj hchildren
    obtain rfl := Node.paragraph.inj hcontent
    obtain ⟨runs, last, hjoin, hpieces⟩ := h.paragraphs after others rfl
    refine ⟨before :: runs, last, ?_, ?_⟩
    · obtain ⟨run, runs', hruns⟩ : ∃ run runs', runs ++ [last] = run :: runs' :=
        List.exists_cons_of_ne_nil (by simp)
      rw [List.cons_append, hruns, List.intercalate_cons_cons, ← hruns, hjoin, hbreak.eq,
        List.append_assoc, List.singleton_append]
    · rw [List.map_cons, hpieces, List.map_cons, List.cons_append]
  · intro hnot
    exact absurd rfl (hnot content others)

/-- The pieces of an item that is cut as long as it can be make up the item. -/
theorem Splits.isPartition {source : Text} {item : ListItem} {pieces : List ListItem}
    (h : Splits source item pieces) : IsPartition source item pieces := by
  induction h with
  | @whole item _ => exact .singleton source item
  | cut hcut _ ih => exact .cut hcut ih

/-- Cutting an item as long as it can be comes to an end, and only with the pieces that
`splitDecimalItems` answers.  These pieces make up the item. -/
theorem splitDecimalItems_isPartition (source : Text) (item : ListItem) :
    (∀ pieces, Splits source item pieces ↔ pieces = splitDecimalItems source item)
      ∧ IsPartition source item (splitDecimalItems source item) := by
  have hsplits := splits_splitDecimalItems source item
  refine ⟨fun pieces => ⟨fun h => h.unique hsplits, ?_⟩, hsplits.isPartition⟩
  rintro rfl
  exact hsplits

example :
    let content := [.text "Build", .softBreak, .text "2.1. Detail", .softBreak, .text "2.2. More"]
    (splitDecimalItems "1. Setup\n2. Build\n2.1. Detail\n2.2. More\n"
        ⟨[.paragraph content], none, ⟨9, 40⟩⟩).map (·.span)
      = [⟨9, 18⟩, ⟨18, 30⟩, ⟨30, 40⟩] := by
  decide +kernel

end Weave
