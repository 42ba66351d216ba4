import Weave.Enumeration.Components
import Weave.Proofs.Document.DecimalItem
import Weave.Proofs.Enumeration.LineNumber

/-!
# The numbers of split items

An item is split where a line of its paragraph begins with a decimal marker, and each piece but the
first gets the number of the source line that it starts in.  That line was found by its first
characters alone, so it begins with the marker and may go on with more of a number.

* `decimalMarker?_eq_some` is the form of a marker: groups of digits with a dot behind each.
* `OwnLine` is a piece whose text and whose source line begin with one marker.  Each cut makes such
  a piece and keeps the one that it cuts (`Cut.exists_ownLine`, `OwnLine.cut`), so all pieces
  behind the first are of this form (`exists_ownLine`).
* `splitDecimalItems_ofLine_iff` says when the line is read as the number of the text.
-/

namespace Weave

/-- The decimal marker that the first text of an item begins with. -/
def ListItem.decimalMarker? (item : ListItem) : Option Text :=
  match item.children with
  | .paragraph content :: _ => lineMarker? content
  | _ => none

/-- A piece whose first text begins with `number.`, as the line of the source does in which it
starts, behind white space. -/
structure OwnLine (source : Text) (piece : ListItem) (number indent rest : Text) : Prop where
  marker : piece.decimalMarker? = some (number ++ ['.'])
  line : lineAt? source piece.span.start = some (indent ++ (number ++ '.' :: rest))
  indent : indent.isAllSpace = true
  number : ∃ g gs, number = Ordinal.joinGroups (g :: gs) ∧ gs ≠ []
    ∧ ∀ h ∈ g :: gs, Ordinal.IsDigitGroup h

/-! ## Markers -/

theorem decimalMarker?_eq_some {t marker : Text} (h : decimalMarker? t = some marker) :
    ∃ g gs, marker = Ordinal.joinGroups (g :: gs) ++ ['.'] ∧ gs ≠ []
      ∧ ∀ h ∈ g :: gs, Ordinal.IsDigitGroup h := by
  unfold decimalMarker? at h
  dsimp only at h
  split at h
  · contradiction
  split at h
  · contradiction
  rename_i body hbody
  split at h
  · rename_i hparts
    obtain ⟨htwo, hall⟩ := hparts
    obtain ⟨g, gs, hsplit⟩ := List.exists_cons_of_ne_nil (Text.splitOn_ne_nil '.' body)
    rw [hsplit] at htwo hall
    have hjoin : Ordinal.joinGroups (g :: gs) = body := hsplit ▸ Text.join_splitOn '.' body
    refine ⟨g, gs, ?_, ?_, fun part hpart => ?_⟩
    · rw [hjoin, ← Option.some.inj h]
      exact Text.dropSuffix?_eq_some_iff.mp hbody
    · rintro rfl
      exact absurd htwo (Nat.lt_irrefl 1)
    · have hpart := List.all_eq_true.mp hall part hpart
      simp only [Bool.and_eq_true, Bool.not_eq_true', List.all_eq_true] at hpart
      exact ⟨List.isEmpty_eq_false_iff.mp hpart.1,
        fun c hc => Text.isDecimalDigit_of_isDigit (hpart.2 c hc)⟩
  · contradiction

theorem Ordinal.newline_notMem_joinGroups {groups : List Text}
    (h : ∀ g ∈ groups, IsDigitGroup g) : '\n' ∉ joinGroups groups := by
  have hgroup : ∀ g ∈ groups, '\n' ∉ g := fun g hg hc => absurd ((h g hg).2 _ hc) (by decide)
  cases groups with
  | nil => exact List.not_mem_nil
  | cons g gs =>
    rw [List.forall_mem_cons] at hgroup
    rw [joinGroups_cons, List.mem_append, List.mem_flatMap]
    rintro (hc | ⟨g', hg', hc⟩)
    · exact hgroup.1 hc
    · rcases List.mem_cons.mp hc with hdot | hc
      · exact absurd hdot (by decide)
      · exact hgroup.2 g' hg' hc

/-- The line that a marker was found in begins with it. -/
theorem MarkerLineAt.exists_lineAt? {source number body line below : Text} {start stop next : Nat}
    (h : MarkerLineAt source start stop (number ++ ['.']) next body line below)
    (hnumber : '\n' ∉ number) :
    ∃ indent rest, lineAt? source next = some (indent ++ (number ++ '.' :: rest))
      ∧ indent.isAllSpace = true := by
  obtain ⟨indent, hline, hindent⟩ := Text.exists_eq_append_trimStart line
  obtain ⟨rest, hrest⟩ := Option.isSome_iff_exists.mp h.startsWith
  rw [Text.dropPrefix?_eq_some_iff.mp hrest] at hline
  have hnewline : '\n' ∉ indent := by
    intro hc
    obtain ⟨front, back, rfl⟩ := List.append_of_mem hc
    have hsuffix : '\n' :: (back ++ (number ++ ['.'] ++ rest)) <:+ line :=
      ⟨front, by rw [hline]; simp⟩
    have hnil := h.isLine.eq_nil_of_suffix List.mem_cons_self hsuffix
    simp at hnil
  have hmarker : ∀ c ∈ indent ++ (number ++ ['.']), (c != '\n') = true := by
    intro c hc
    rw [bne_iff_ne]
    rintro rfl
    simp [hnewline, hnumber] at hc
  -- The line that was found may be cut off where the item ends, so it goes on in `below`.
  refine ⟨indent, (rest ++ below).takeWhile (· != '\n'), ?_, hindent⟩
  have hsource : line ++ below = indent ++ (number ++ ['.']) ++ (rest ++ below) := by
    rw [hline]
    simp
  rw [h.eq, h.next_eq, lineAt?_behind_newline, hsource, List.takeWhile_append_of_pos hmarker]
  simp

/-! ## Pieces with a line of their own -/

variable {source number indent rest : Text} {item piece later : ListItem}

/-- What is cut off in front keeps the text and the line that the item begins with. -/
theorem OwnLine.cut (h : OwnLine source item number indent rest)
    (hcut : Cut source item piece later) : OwnLine source piece number indent rest := by
  obtain ⟨marker, line, hindent, hnumber⟩ := h
  obtain ⟨hbreak, -⟩ := hcut
  rename_i content before after others variant start stop next marker'
  refine ⟨?_, line, hindent, hnumber⟩
  have hcontent : lineMarker? content = some (number ++ ['.']) := marker
  rw [hbreak.eq] at hcontent
  cases before with
  | nil => contradiction
  | cons x before =>
    cases x with
    | text t => exact hcontent
    | _ => contradiction

/-- What is cut off behind begins with the line of its text. -/
theorem Cut.exists_ownLine (h : Cut source item piece later) :
    ∃ number indent rest, OwnLine source later number indent rest := by
  obtain ⟨hbreak, hline⟩ := h
  rename_i content before after others variant start stop next marker
  have hmarker : lineMarker? after = some marker := hbreak.marker
  obtain ⟨g, gs, rfl, hne, hgroups⟩ : ∃ g gs, marker = Ordinal.joinGroups (g :: gs) ++ ['.']
      ∧ gs ≠ [] ∧ ∀ h ∈ g :: gs, Ordinal.IsDigitGroup h := by
    unfold lineMarker? at hmarker
    split at hmarker
    · exact decimalMarker?_eq_some hmarker
    · contradiction
  obtain ⟨body, line, below, hplace⟩ := exists_markerLineAt hline
  obtain ⟨indent, rest, hread, hindent⟩ :=
    hplace.exists_lineAt? (Ordinal.newline_notMem_joinGroups hgroups)
  exact ⟨_, indent, rest, hmarker, hread, hindent, g, gs, rfl, hne, hgroups⟩

theorem Splits.exists_ownLine {pieces : List ListItem} (h : Splits source item pieces)
    (hitem : ∃ number indent rest, OwnLine source item number indent rest) :
    ∀ piece ∈ pieces, ∃ number indent rest, OwnLine source piece number indent rest := by
  induction h with
  | whole _ =>
    intro piece hpiece
    rwa [List.mem_singleton.mp hpiece]
  | cut hcut _ ih =>
    rw [List.forall_mem_cons]
    obtain ⟨number, indent, rest, hown⟩ := hitem
    exact ⟨⟨number, indent, rest, hown.cut hcut⟩, ih hcut.exists_ownLine⟩

/-- Behind the first piece, the text and the source line of each begin with one marker. -/
theorem exists_ownLine (source : Text) (item : ListItem) :
    ∀ piece ∈ (splitDecimalItems source item).tail,
      ∃ number indent rest, OwnLine source piece number indent rest := by
  have hsplits := splits_splitDecimalItems source item
  generalize splitDecimalItems source item = pieces at hsplits
  cases hsplits with
  | whole _ => exact fun _ hpiece => absurd hpiece List.not_mem_nil
  | cut hcut hlater => exact hlater.exists_ownLine hcut.exists_ownLine

theorem OwnLine.ofLine_iff (h : OwnLine source piece number indent rest) :
    Ordinal.ofLine (piece.markerLine source) = .decimal number
      ↔ (∀ c ∈ indent, Text.isBlank c = true) ∧ ¬Ordinal.GoesOn rest := by
  obtain ⟨g, gs, rfl, hne, hgroups⟩ := h.number
  rw [List.forall_mem_cons] at hgroups
  rw [ListItem.markerLine, h.line, Option.getD_some]
  exact Ordinal.ofLine_dotted_iff h.indent hgroups.1 hgroups.2 hne rest

/-- Behind the first piece of an item, the text and the source line of each begin with one dotted
number, and the piece is numbered by it exactly if only blanks stand before it on the line and it
does not go on there. -/
theorem splitDecimalItems_ofLine_iff (source : Text) (item : ListItem) :
    ∀ piece ∈ (splitDecimalItems source item).tail,
      ∃ number indent rest, OwnLine source piece number indent rest
        ∧ (Ordinal.ofLine (piece.markerLine source) = .decimal number
          ↔ (∀ c ∈ indent, Text.isBlank c = true) ∧ ¬Ordinal.GoesOn rest) := by
  intro piece hpiece
  obtain ⟨number, indent, rest, hown⟩ := exists_ownLine source item piece hpiece
  exact ⟨number, indent, rest, hown, hown.ofLine_iff⟩

theorem splitDecimalItems_ofLine_ownNumber :
    let source : Text := "1. Setup\n2.1. Detail\n"
    let item : ListItem :=
      ⟨[.paragraph [.text "Setup", .softBreak, .text "2.1. Detail"]], none, ⟨0, 21⟩⟩
    let piece : ListItem := ⟨[.paragraph [.text "2.1. Detail"]], none, ⟨9, 21⟩⟩
    piece ∈ (splitDecimalItems source item).tail
      ∧ ∃ number indent rest, OwnLine source piece number indent rest
        ∧ (Ordinal.ofLine (piece.markerLine source) = .decimal number
          ↔ (∀ c ∈ indent, Text.isBlank c = true) ∧ ¬Ordinal.GoesOn rest) := by
  intro source item piece
  have hpiece : piece ∈ (splitDecimalItems source item).tail := by
    have htail : (splitDecimalItems source item).tail = [piece] := rfl
    rw [htail]
    exact List.mem_singleton_self piece
  exact ⟨hpiece, splitDecimalItems_ofLine_iff source item piece hpiece⟩

/-- A line of a deeper number, behind a hard line break, is taken for the line of the item. -/
theorem splitDecimalItems_behindDeeperNumber :
    let source : Text := "1. Setup\\\n2.1.5. Deep\n2.1. Detail\n"
    let item : ListItem := ⟨[.paragraph [.text "Setup", .hardBreak, .text "2.1.5. Deep",
      .softBreak, .text "2.1. Detail"]], none, ⟨0, source.byteLength⟩⟩
    ∃ piece ∈ (splitDecimalItems source item).tail, piece.decimalMarker? = some "2.1."
      ∧ Ordinal.ofLine (piece.markerLine source) = .decimal "2.1.5" := by
  decide +kernel

end Weave
