import Weave.Proofs.Symbol.WrittenParameter

/-!
# Parameter lists

A parameter list is written as its parameters and markers with commas between them, and may end in
a comma (`ParameterList`).  What is read from its text (`parseParameters_text`) are the parameters
under their recorded names; these are their names exactly if no white space stands behind a star
(`parameters_recordedName_eq_iff`).
-/

namespace Weave

open Nesting

/-- What stands between two commas of a parameter list. -/
inductive ParameterItem where
  | parameter (p : WrittenParameter)
  | marker (before : Padding) (mark : Char) (isMark : mark = '*' ∨ mark = '/') (after : Padding)

namespace ParameterItem

def text : ParameterItem → Text
  | parameter p => p.text
  | marker before mark _ after => before.text ++ mark :: after.text

def parameter? : ParameterItem → Option WrittenParameter
  | parameter p => some p
  | marker .. => none

end ParameterItem

/-- A parameter list.  The white space behind the last comma stands alone between the parentheses
if there are no items. -/
structure ParameterList where
  items : List ParameterItem
  trailing : Option Padding

namespace ParameterList

variable (l : ParameterList)

/-- The texts between the commas. -/
def texts : List Text := l.items.map ParameterItem.text ++ l.trailing.toList.map Padding.text

def text : Text := Text.join "," l.texts

/-- The parameters without the markers, and without a receiver in the first place. -/
def declared (name : WrittenParameter → Text) : List WrittenParameter :=
  match l.items with
  | [] => []
  | first :: rest =>
    (first.parameter?.filter fun p => !isReceiver (name p)).toList
      ++ rest.filterMap ParameterItem.parameter?

/-- The parameters under their names. -/
def parameters (name : WrittenParameter → Text) : List Parameter :=
  (l.declared name).map fun p => p.toParameter (name p)

end ParameterList

/-! ## The text of a parameter list -/

namespace ParameterItem

theorem closed_text (item : ParameterItem) : Closed [','] item.text := by
  cases item with
  | parameter p => exact p.closed_text
  | marker before mark isMark after =>
      have hmark : IsPlain mark ∧ mark ∉ [','] := by
        rcases isMark with rfl | rfl <;> decide
      exact (before.closed (by decide)).append
        (.plain hmark.1 hmark.2 (after.closed (by decide)))

/-- What is read from an item. -/
theorem parameter?_text (item : ParameterItem) (isFirst : Bool) :
    Signature.parameter? isFirst item.text
      = (item.parameter?.filter fun p => !(isFirst && isReceiver p.recordedName)).map
          fun p => p.toParameter p.recordedName := by
  cases item with
  | parameter p =>
      show Signature.parameter? isFirst p.text = _
      rw [p.parameter?_text, parameter?, Option.filter_some]
      cases isFirst && isReceiver p.recordedName <;> rfl
  | marker before mark isMark after =>
      have hspace : Text.isSpace mark = false := by
        rcases isMark with rfl | rfl <;> rfl
      have htrim : Text.trim (before.text ++ mark :: after.text) = [mark] := by
        have hpadded := Text.trim_padded before.isAllSpace after.isAllSpace hspace []
        rw [List.singleton_append] at hpadded
        rw [hpadded]
        exact Text.trimEndWhile_append_cons [] hspace []
      unfold Signature.parameter? text
      rw [htrim]
      rcases isMark with rfl | rfl <;> rfl

end ParameterItem

/-- White space alone is no parameter. -/
theorem Signature.parameter?_of_isAllSpace {w : Text} (hw : w.isAllSpace = true) (isFirst : Bool) :
    parameter? isFirst w = none := by
  unfold parameter?
  rw [Text.trim_of_isAllSpace hw]
  rfl

theorem Signature.parseParameters_of_pieces {inner first : Text} {rest : List Text}
    (h : Nesting.outside.pieces ',' inner = first :: rest) :
    parseParameters inner
      = (parameter? true first).toList ++ rest.filterMap (parameter? false) := by
  unfold parseParameters
  rw [h]

namespace ParameterList

variable (l : ParameterList)

theorem closed_texts : ∀ t ∈ l.texts, Closed [','] t := by
  intro t ht
  rcases List.mem_append.mp ht with hitem | htrailing
  · obtain ⟨item, -, rfl⟩ := List.mem_map.mp hitem
    exact item.closed_text
  · obtain ⟨w, -, rfl⟩ := List.mem_map.mp htrailing
    exact w.closed (by decide)

theorem closed_text : Closed [] l.text :=
  Closed.join (by decide) (by simp) fun t ht => (l.closed_texts t ht).mono (List.nil_subset _)

/-- What is read behind the first comma. -/
theorem filterMap_parameter? (rest : List ParameterItem) (trailing : Option Padding) :
    (rest.map ParameterItem.text ++ trailing.toList.map Padding.text).filterMap
        (Signature.parameter? false)
      = (rest.filterMap ParameterItem.parameter?).map fun p => p.toParameter p.recordedName := by
  have htrailing :
      (trailing.toList.map Padding.text).filterMap (Signature.parameter? false) = [] := by
    rw [List.filterMap_eq_nil_iff]
    intro t ht
    obtain ⟨w, -, rfl⟩ := List.mem_map.mp ht
    exact Signature.parameter?_of_isAllSpace w.isAllSpace false
  have hread : Signature.parameter? false ∘ ParameterItem.text
      = fun item => item.parameter?.map fun p => p.toParameter p.recordedName := by
    funext item
    rw [Function.comp_apply, item.parameter?_text]
    cases item <;> rfl
  rw [List.filterMap_append, htrailing, List.append_nil, List.filterMap_map, List.map_filterMap,
    hread]

/-- What is read from a parameter list. -/
theorem parseParameters_text :
    Signature.parseParameters l.text = l.parameters WrittenParameter.recordedName := by
  unfold parameters declared
  cases hitems : l.items with
  | nil =>
      have hblank : l.text.isAllSpace = true := by
        unfold text texts
        rw [hitems]
        cases l.trailing with
        | none => rfl
        | some w => exact w.isAllSpace
      have hpieces : Nesting.outside.pieces ',' l.text = [l.text] := by
        have hclosed : Closed [','] l.text := .of_isAllSpace (by decide) hblank
        exact pieces_of_passes (hclosed.passes (by decide) List.mem_cons_self)
      rw [Signature.parseParameters_of_pieces hpieces, Signature.parameter?_of_isAllSpace hblank]
      rfl
  | cons first rest =>
      have htexts : l.texts
          = first.text :: (rest.map ParameterItem.text ++ l.trailing.toList.map Padding.text) := by
        unfold texts
        rw [hitems]
        rfl
      have hpieces : Nesting.outside.pieces ',' l.text
          = first.text :: (rest.map ParameterItem.text ++ l.trailing.toList.map Padding.text) := by
        rw [← htexts]
        exact Closed.pieces_join (by decide) List.mem_cons_self (htexts ▸ List.cons_ne_nil _ _)
          l.closed_texts
      rw [Signature.parseParameters_of_pieces hpieces, filterMap_parameter?, first.parameter?_text,
        List.map_append, Option.toList_map]
      rfl

theorem mem_filterMap_parameter? {items : List ParameterItem} {p : WrittenParameter} :
    p ∈ items.filterMap ParameterItem.parameter? ↔ .parameter p ∈ items := by
  rw [List.mem_filterMap]
  constructor
  · intro h
    obtain ⟨item, hitem, hp⟩ := h
    cases item with
    | parameter q =>
        obtain rfl := Option.some.inj hp
        exact hitem
    | marker => contradiction
  · intro h
    exact ⟨_, h, rfl⟩

theorem map_toParameter_eq_iff {rest : List ParameterItem} :
    ((rest.filterMap ParameterItem.parameter?).map fun p => p.toParameter p.recordedName)
        = ((rest.filterMap ParameterItem.parameter?).map fun p => p.toParameter p.name)
      ↔ ∀ p, .parameter p ∈ rest → p.stars.gap = [] := by
  rw [List.map_inj_left]
  simp only [mem_filterMap_parameter?, WrittenParameter.toParameter_inj,
    WrittenParameter.recordedName_eq_name_iff]

/-- The parameters are read back under their names exactly if none has white space behind its
stars. -/
theorem parameters_recordedName_eq_iff :
    l.parameters WrittenParameter.recordedName = l.parameters WrittenParameter.name
      ↔ ∀ p, .parameter p ∈ l.items → p.stars.gap = [] := by
  unfold parameters declared
  cases l.items with
  | nil => simp
  | cons first rest =>
      dsimp only
      rw [List.map_append, List.map_append]
      cases first with
      | marker before mark isMark after =>
          simpa [ParameterItem.parameter?] using map_toParameter_eq_iff
      | parameter p =>
          rw [ParameterItem.parameter?, Option.filter_some, Option.filter_some]
          by_cases hgap : p.stars.gap = []
          · have hname : p.recordedName = p.name := p.recordedName_eq_name_iff.mpr hgap
            have hfirst : ((if !isReceiver p.name then some p else none).toList.map
                  fun q => q.toParameter q.recordedName)
                = (if !isReceiver p.name then some p else none).toList.map
                  fun q => q.toParameter q.name := by
              split <;> simp [hname]
            rw [hname, hfirst, List.append_right_inj, map_toParameter_eq_iff]
            simp [hgap]
          · have hmem : ¬∀ q, .parameter q ∈ .parameter p :: rest → q.stars.gap = [] :=
              fun h => hgap (h p List.mem_cons_self)
            refine iff_of_false (fun h => ?_) hmem
            rw [p.isReceiver_recordedName hgap] at h
            cases hreceiver : isReceiver p.name with
            | true =>
                -- The receiver is recorded, so there is one parameter too many.
                rw [hreceiver] at h
                simpa using congrArg List.length h
            | false =>
                rw [hreceiver] at h
                have hhead := (List.cons.inj h).1
                have hname := WrittenParameter.toParameter_inj.mp hhead
                exact hgap (p.recordedName_eq_name_iff.mp hname)

end ParameterList

end Weave
