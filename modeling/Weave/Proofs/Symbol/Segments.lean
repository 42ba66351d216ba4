import Mathlib.Data.List.Pairwise
import Weave.Proofs.Symbol.Annotation
import Weave.Symbol.Segment

/-!
# Segments tile the code

Code is cut at its ends and at the bounds of the decorations that fit it.  `Tiles` says what is left
between the cuts: segments that follow each other, none of them empty, each with the text that the
code holds at its span.

* `mem_cuts` and `pairwise_cuts` say what the cuts are: ascending, and no others than those.
* `exists_segment?` is the step: between two cuts there always is a segment, since no cut stands
  inside a character (`isBoundary_of_mem_cuts`).  `tiles_segmentsBetween` is the run over all cuts.
* `bounds_of_mem_segments` says that no bound of a decoration stands inside a segment, so that a
  decoration that overlaps a segment contains it.
-/

namespace Weave

open List

/-! ## Offsets at which a text can be cut -/

/-- No character stands across the offset. -/
def Text.IsBoundary (t : Text) (n : Nat) : Prop :=
  ∃ before after, t = before ++ after ∧ before.byteLength = n

namespace Text.IsBoundary

variable {t : Text} {m n : Nat}

theorem zero (t : Text) : t.IsBoundary 0 := ⟨[], t, rfl, rfl⟩

theorem byteLength (t : Text) : t.IsBoundary t.byteLength := ⟨t, [], by simp, rfl⟩

theorem le_byteLength (h : t.IsBoundary n) : n ≤ t.byteLength := by
  obtain ⟨before, after, rfl, rfl⟩ := h
  simp

/-- The text between two boundaries. -/
theorem exists_between (hm : t.IsBoundary m) (hn : t.IsBoundary n) (h : m ≤ n) :
    ∃ before middle after, t = before ++ middle ++ after ∧ before.byteLength = m
      ∧ (before ++ middle).byteLength = n := by
  obtain ⟨before, rest, ht, rfl⟩ := hm
  obtain ⟨start, after, ht', rfl⟩ := hn
  rw [ht] at ht'
  rcases List.append_eq_append_iff.mp ht' with ⟨middle, rfl, rfl⟩ | ⟨more, hmore, -⟩
  · exact ⟨before, middle, after, by simp [ht], rfl, rfl⟩
  · -- The later boundary is no further than the earlier one, so they are the same.
    have hlength : Text.byteLength more = 0 := by
      rw [hmore, Text.byteLength_append] at h
      omega
    have hnil : more = [] := by
      cases more with
      | nil => rfl
      | cons c more =>
          have hpos : 0 < Text.byteLength (c :: more) := Text.byteLength_pos
          omega
    rw [hnil, List.append_nil] at hmore
    exact ⟨start, [], rest, by simp [ht, hmore], by rw [hmore], by simp⟩

end Text.IsBoundary

/-- The span of a decoration holds a text of the code. -/
def Decoration.FitsIn (code : Text) (d : Decoration) : Prop := ∃ body, d.span.Holds code body

theorem Decoration.isSome_slice?_iff {code : Text} {d : Decoration} :
    (d.span.slice? code).isSome = true ↔ d.FitsIn code := by
  simp only [Option.isSome_iff_exists, Span.slice?_eq_some_iff, Decoration.FitsIn]

instance (code : Text) (d : Decoration) : Decidable (d.FitsIn code) :=
  decidable_of_iff _ Decoration.isSome_slice?_iff

theorem Decoration.FitsIn.isBoundary {code : Text} {d : Decoration} (h : d.FitsIn code) :
    code.IsBoundary d.span.start ∧ code.IsBoundary d.span.stop := by
  obtain ⟨body, before, after, rfl, hstart, hstop⟩ := h
  exact ⟨⟨before, body ++ after, by simp, hstart⟩, ⟨before ++ body, after, rfl, hstop⟩⟩

/-! ## Cuts -/

theorem mem_insertCut {m n : Nat} {l : List Nat} : m ∈ insertCut n l ↔ m = n ∨ m ∈ l := by
  induction l with
  | nil => simp [insertCut]
  | cons k ks ih =>
      unfold insertCut
      split
      · simp
      · split
        · rename_i heq
          simp [heq]
        · simp [ih, or_left_comm]

theorem pairwise_insertCut {l : List Nat} (n : Nat) (h : l.Pairwise (· < ·)) :
    (insertCut n l).Pairwise (· < ·) := by
  induction h with
  | nil => exact pairwise_singleton _ n
  | @cons k ks hk hks ih =>
      unfold insertCut
      split
      · rename_i hlt
        refine .cons ?_ (.cons hk hks)
        intro m hm
        rcases mem_cons.mp hm with rfl | hm
        · exact hlt
        · exact Nat.lt_trans hlt (hk m hm)
      · split
        · exact .cons hk hks
        · refine .cons ?_ ih
          intro m hm
          rcases mem_insertCut.mp hm with rfl | hm
          · omega
          · exact hk m hm

section Cuts

variable {code : Text} {fitting : List Decoration}

theorem mem_cuts {n : Nat} :
    n ∈ cuts code fitting
      ↔ n = 0 ∨ n = code.byteLength ∨ ∃ d ∈ fitting, n = d.span.start ∨ n = d.span.stop := by
  have hfold : ∀ l : List Nat, n ∈ l.foldr insertCut (insertCut 0 [code.byteLength])
      ↔ n ∈ l ∨ n = 0 ∨ n = code.byteLength := by
    intro l
    induction l with
    | nil => simp [mem_insertCut]
    | cons m l ih => simp [mem_insertCut, ih, or_assoc]
  unfold cuts
  rw [hfold]
  simp only [mem_flatMap, mem_cons, not_mem_nil, or_false]
  exact or_comm.trans or_assoc

theorem pairwise_cuts (code : Text) (fitting : List Decoration) :
    (cuts code fitting).Pairwise (· < ·) := by
  unfold cuts
  induction fitting.flatMap fun d => [d.span.start, d.span.stop] with
  | nil => exact pairwise_insertCut 0 (pairwise_singleton _ _)
  | cons m l ih => exact pairwise_insertCut m ih

/-- No cut stands inside a character. -/
theorem isBoundary_of_mem_cuts (hfit : ∀ d ∈ fitting, d.FitsIn code) {n : Nat}
    (h : n ∈ cuts code fitting) : code.IsBoundary n := by
  rcases mem_cuts.mp h with rfl | rfl | ⟨d, hd, rfl | rfl⟩
  · exact .zero code
  · exact .byteLength code
  · exact (hfit d hd).isBoundary.1
  · exact (hfit d hd).isBoundary.2

/-- The first cut is the start of the code and the last one its end. -/
theorem exists_cuts_eq (hfit : ∀ d ∈ fitting, d.FitsIn code) :
    ∃ later, cuts code fitting = 0 :: later
      ∧ (0 :: later).getLast (cons_ne_nil 0 later) = code.byteLength := by
  have hsorted := (pairwise_cuts code fitting).imp Nat.le_of_lt
  have hzero : 0 ∈ cuts code fitting := mem_cuts.mpr (.inl rfl)
  have hend : code.byteLength ∈ cuts code fitting := mem_cuts.mpr (.inr (.inl rfl))
  have hle : ∀ n ∈ cuts code fitting, n ≤ code.byteLength := fun n hn =>
    (isBoundary_of_mem_cuts hfit hn).le_byteLength
  generalize cuts code fitting = l at hsorted hzero hend hle
  cases l with
  | nil => contradiction
  | cons first later =>
      obtain rfl : first = 0 := Nat.le_zero.mp (hsorted.rel_head hzero)
      exact ⟨later, rfl, Nat.le_antisymm (hle _ (getLast_mem _)) (hsorted.rel_getLast hend)⟩

end Cuts

/-! ## Segments -/

/-- Segments that follow each other from one offset to another one.  None of them is empty, and each
holds what the code holds at its span. -/
inductive Tiles (code : Text) : Nat → List Segment → Nat → Prop where
  | nil {n : Nat} : Tiles code n [] n
  | cons {s : Segment} {later : List Segment} {stop : Nat} (nonempty : s.span.start < s.span.stop)
      (text : s.span.Holds code s.text) (rest : Tiles code s.span.stop later stop) :
      Tiles code s.span.start (s :: later) stop

theorem Tiles.le {code : Text} {start stop : Nat} {ss : List Segment}
    (h : Tiles code start ss stop) : start ≤ stop := by
  induction h with
  | nil => exact Nat.le_refl _
  | cons nonempty _ _ ih => exact Nat.le_trans (Nat.le_of_lt nonempty) ih

/-- There is no room for a segment between an offset and itself. -/
theorem Tiles.eq_nil {code : Text} {start stop : Nat} {ss : List Segment}
    (h : Tiles code start ss stop) (hsame : start = stop) : ss = [] := by
  cases h with
  | nil => rfl
  | cons nonempty _ rest =>
      have hle := rest.le
      omega

/-- The texts of segments that follow each other are the text from the first to the last. -/
theorem Tiles.exists_rest {code : Text} {start stop : Nat} {ss : List Segment}
    (h : Tiles code start ss stop) (before rest : Text) (hcode : code = before ++ rest)
    (hstart : before.byteLength = start) :
    ∃ after, rest = ss.flatMap (·.text) ++ after
      ∧ Text.byteLength (before ++ ss.flatMap (·.text)) = stop := by
  induction h generalizing before rest with
  | nil => exact ⟨rest, rfl, by simpa using hstart⟩
  | @cons s later stop nonempty text _ ih =>
      obtain ⟨before', after, hcode', hstart', hstop⟩ := text
      rw [hcode, List.append_assoc] at hcode'
      obtain ⟨rfl, rfl⟩ :=
        Text.eq_of_append_eq_of_byteLength_eq hcode' (hstart.trans hstart'.symm)
      obtain ⟨after', rfl, hend⟩ := ih _ _ (hcode.trans (List.append_assoc _ _ _).symm) hstop
      exact ⟨after', by simp, by simpa using hend⟩

section Segment

variable {code : Text} {fitting : List Decoration}

/-- The segment between two offsets is made of the text between them. -/
theorem segment?_eq {start stop : Nat} (h : start ≤ stop) :
    segment? code fitting start stop = (code.slice? start stop).map fun text =>
      ⟨text, ⟨start, stop, h⟩, (fitting.filter (·.span.contains ⟨start, stop, h⟩)).mergeSort
        fun a b => b.span.length ≤ a.span.length⟩ := by
  unfold segment? Span.new? Span.slice?
  rw [dif_pos h]
  simp only [Option.bind_eq_bind, Option.bind_some]
  cases code.slice? start stop <;> rfl

/-- Between two offsets at which the code can be cut there is a segment. -/
theorem exists_segment? (fitting : List Decoration) {start stop : Nat}
    (hstart : code.IsBoundary start) (hstop : code.IsBoundary stop) (h : start < stop) :
    ∃ s, segment? code fitting start stop = some s ∧ s.span.start = start ∧ s.span.stop = stop
      ∧ s.span.Holds code s.text := by
  obtain ⟨before, middle, after, hbetween⟩ := hstart.exists_between hstop (Nat.le_of_lt h)
  have hslice := Text.slice?_eq_some_iff.mpr ⟨before, after, hbetween⟩
  rw [segment?_eq (Nat.le_of_lt h), hslice]
  exact ⟨_, rfl, rfl, rfl, before, after, hbetween⟩

/-- What a segment that was made between two offsets knows of the decorations. -/
theorem decorations_of_segment? {start stop : Nat} {s : Segment} (h : start ≤ stop)
    (hs : segment? code fitting start stop = some s) :
    s.span.start = start ∧ s.span.stop = stop
      ∧ s.decorations = (fitting.filter (·.span.contains s.span)).mergeSort
          fun a b => b.span.length ≤ a.span.length := by
  rw [segment?_eq h, Option.map_eq_some_iff] at hs
  obtain ⟨text, -, rfl⟩ := hs
  exact ⟨rfl, rfl, rfl⟩

/-- The segments between ascending cuts follow each other from the first cut to the last. -/
theorem tiles_segmentsBetween {first : Nat} {later : List Nat}
    (hsorted : (first :: later).Pairwise (· < ·))
    (hcut : ∀ n ∈ first :: later, code.IsBoundary n) :
    Tiles code first (segmentsBetween code fitting (first :: later))
      ((first :: later).getLast (cons_ne_nil first later)) := by
  induction later generalizing first with
  | nil => exact .nil
  | cons next later ih =>
      have hlt : first < next := rel_of_pairwise_cons hsorted mem_cons_self
      have hfirst := hcut first mem_cons_self
      have hnext := hcut next (mem_cons_of_mem first mem_cons_self)
      obtain ⟨s, hs, rfl, rfl, htext⟩ := exists_segment? fitting hfirst hnext hlt
      have hrest := ih hsorted.of_cons fun n hn => hcut n (mem_cons_of_mem _ hn)
      rw [segmentsBetween, hs, getLast_cons (cons_ne_nil _ later)]
      exact .cons hlt htext hrest

/-- Each segment was made between two cuts that have no other one between them. -/
theorem exists_cuts_of_mem_segmentsBetween {first : Nat} {later : List Nat} {s : Segment}
    (hsorted : (first :: later).Pairwise (· < ·))
    (h : s ∈ segmentsBetween code fitting (first :: later)) :
    ∃ start stop, first ≤ start ∧ start < stop ∧ segment? code fitting start stop = some s
      ∧ ∀ n ∈ first :: later, n ≤ start ∨ stop ≤ n := by
  induction later generalizing first with
  | nil => contradiction
  | cons next later ih =>
      have hlt : first < next := rel_of_pairwise_cons hsorted mem_cons_self
      rw [segmentsBetween, mem_append, Option.mem_toList] at h
      rcases h with hs | hlater
      · refine ⟨first, next, Nat.le_refl first, hlt, hs, ?_⟩
        intro n hn
        rcases mem_cons.mp hn with rfl | hn
        · exact .inl (Nat.le_refl n)
        · have hge : next ≤ n := (hsorted.of_cons.imp Nat.le_of_lt).rel_head hn
          exact .inr hge
      · obtain ⟨start, stop, hnext, hspan, hs, hbetween⟩ := ih hsorted.of_cons hlater
        refine ⟨start, stop, by omega, hspan, hs, ?_⟩
        intro n hn
        rcases mem_cons.mp hn with rfl | hn
        · exact .inl (by omega)
        · exact hbetween n hn

end Segment

/-! ## The decorations of a segment -/

section Measure

variable {α : Type} (measure : α → Nat)

theorem descending_trans (a b c : α) (hab : decide (measure b ≤ measure a) = true)
    (hbc : decide (measure c ≤ measure b) = true) : decide (measure c ≤ measure a) = true := by
  simp only [decide_eq_true_eq] at hab hbc ⊢
  omega

theorem descending_total (a b : α) :
    (decide (measure b ≤ measure a) || decide (measure a ≤ measure b)) = true := by
  simp only [Bool.or_eq_true, decide_eq_true_eq]
  omega

/-- A list that is sorted by a measure has the elements of one measure in their old order. -/
theorem filter_mergeSort_descending (l : List α) (n : Nat) :
    (l.mergeSort fun a b => measure b ≤ measure a).filter (measure · = n)
      = l.filter (measure · = n) := by
  have htied : (l.filter (measure · = n)).Pairwise
      fun a b => decide (measure b ≤ measure a) = true := by
    refine pairwise_of_forall_mem_list ?_
    intro a ha b hb
    simp only [mem_filter, decide_eq_true_eq] at ha hb ⊢
    omega
  rw [filter_mergeSort (descending_trans measure) (descending_total measure),
    mergeSort_of_pairwise htied]

theorem pairwise_mergeSort_descending (l : List α) :
    (l.mergeSort fun a b => measure b ≤ measure a).Pairwise fun a b => measure b ≤ measure a := by
  have hsorted := pairwise_mergeSort (descending_trans measure) (descending_total measure) l
  exact hsorted.imp of_decide_eq_true

end Measure

section Segments

variable {code : Text} {decorations : List Decoration}

/-- The decorations that fit some code, in their order. -/
def fittingIn (code : Text) (decorations : List Decoration) : List Decoration :=
  decorations.filter fun d => (d.span.slice? code).isSome

theorem mem_fittingIn {d : Decoration} :
    d ∈ fittingIn code decorations ↔ d ∈ decorations ∧ d.FitsIn code := by
  unfold fittingIn
  rw [mem_filter, Decoration.isSome_slice?_iff]

theorem fitsIn_of_mem_fittingIn : ∀ d ∈ fittingIn code decorations, d.FitsIn code :=
  fun _ hd => (mem_fittingIn.mp hd).2

theorem segments_eq (code : Text) (decorations : List Decoration) :
    segments code decorations = segmentsBetween code (fittingIn code decorations)
      (cuts code (fittingIn code decorations)) := rfl

theorem tiles_segments (code : Text) (decorations : List Decoration) :
    Tiles code 0 (segments code decorations) code.byteLength := by
  have hsorted := pairwise_cuts code (fittingIn code decorations)
  have hcut := fun n => isBoundary_of_mem_cuts (n := n) (@fitsIn_of_mem_fittingIn code decorations)
  obtain ⟨later, hcuts, hlast⟩ := exists_cuts_eq (@fitsIn_of_mem_fittingIn code decorations)
  rw [hcuts] at hsorted hcut
  rw [segments_eq, hcuts, ← hlast]
  exact tiles_segmentsBetween hsorted hcut

theorem flatMap_text_segments (code : Text) (decorations : List Decoration) :
    (segments code decorations).flatMap (·.text) = code := by
  obtain ⟨after, hcode, hlength⟩ :=
    (tiles_segments code decorations).exists_rest [] code rfl rfl
  have hsame : (segments code decorations).flatMap (·.text) ++ after = code ++ [] := by
    rw [List.append_nil]
    exact hcode.symm
  exact (Text.eq_of_append_eq_of_byteLength_eq hsame hlength).1

theorem segments_eq_nil_iff : segments code decorations = [] ↔ code = [] := by
  constructor
  · intro h
    have htext := flatMap_text_segments code decorations
    rw [h] at htext
    exact htext.symm
  · intro h
    subst h
    exact (tiles_segments [] decorations).eq_nil rfl

/-- No bound of a fitting decoration stands inside a segment, which carries those around it. -/
theorem bounds_of_mem_segments {s : Segment} (hs : s ∈ segments code decorations) :
    (∀ d ∈ decorations, d.FitsIn code →
        (d.span.start ≤ s.span.start ∨ s.span.stop ≤ d.span.start)
          ∧ (d.span.stop ≤ s.span.start ∨ s.span.stop ≤ d.span.stop))
      ∧ s.span.start < s.span.stop
      ∧ s.decorations = ((fittingIn code decorations).filter (·.span.contains s.span)).mergeSort
          fun a b => b.span.length ≤ a.span.length := by
  obtain ⟨later, hcuts, -⟩ := exists_cuts_eq (@fitsIn_of_mem_fittingIn code decorations)
  rw [segments_eq, hcuts] at hs
  have hsorted := pairwise_cuts code (fittingIn code decorations)
  obtain ⟨start, stop, -, hlt, hmade, hbetween⟩ :=
    exists_cuts_of_mem_segmentsBetween (hcuts ▸ hsorted) hs
  obtain ⟨rfl, rfl, hdecorations⟩ := decorations_of_segment? (Nat.le_of_lt hlt) hmade
  refine ⟨fun d hd hfits => ?_, hlt, hdecorations⟩
  have hfitting := mem_fittingIn.mpr ⟨hd, hfits⟩
  rw [← hcuts] at hbetween
  exact ⟨hbetween _ (mem_cuts.mpr (.inr (.inr ⟨d, hfitting, .inl rfl⟩))),
    hbetween _ (mem_cuts.mpr (.inr (.inr ⟨d, hfitting, .inr rfl⟩)))⟩

end Segments

/-- Segments tile the code: none of them is empty, the first one starts at 0, each of the others
where the one before it stops, the last one stops at the end, and their texts concatenate to the
code.  A segment carries the decorations that fit the code and contain the segment, the longest
first and in their order where they are of one length; a fitting decoration that overlaps a segment
is one of these. -/
theorem segments_tile (code : Text) (decorations : List Decoration) :
    Tiles code 0 (segments code decorations) code.byteLength
      ∧ (segments code decorations).flatMap (·.text) = code
      ∧ (segments code decorations = [] ↔ code = [])
      ∧ ∀ s ∈ segments code decorations,
        (∀ d, d ∈ s.decorations
            ↔ d ∈ decorations ∧ d.FitsIn code ∧ d.span.contains s.span = true)
          ∧ (∀ d ∈ decorations, d.FitsIn code → d.span.overlaps s.span = true →
            d.span.contains s.span = true)
          ∧ s.decorations.Pairwise (fun a b => b.span.length ≤ a.span.length)
          ∧ ∀ n, s.decorations.filter (·.span.length = n)
            = decorations.filter fun d =>
                d.FitsIn code ∧ d.span.contains s.span = true ∧ d.span.length = n := by
  refine ⟨tiles_segments code decorations, flatMap_text_segments code decorations,
    segments_eq_nil_iff, fun s hs => ?_⟩
  obtain ⟨hbounds, hlt, hdecorations⟩ := bounds_of_mem_segments hs
  rw [hdecorations]
  refine ⟨fun d => ?_, fun d hd hfits hoverlap => ?_, ?_, fun n => ?_⟩
  · rw [mem_mergeSort, mem_filter, mem_fittingIn, and_assoc]
  · obtain ⟨hstart, hstop⟩ := hbounds d hd hfits
    simp only [Span.overlaps, Span.contains, Bool.and_eq_true, decide_eq_true_eq]
      at hoverlap ⊢
    omega
  · exact pairwise_mergeSort_descending (fun d : Decoration => d.span.length) _
  · rw [filter_mergeSort_descending (fun d : Decoration => d.span.length), fittingIn,
      filter_filter, filter_filter]
    refine filter_congr fun d _ => ?_
    rw [Bool.eq_iff_iff]
    simp only [Bool.and_eq_true, decide_eq_true_eq, Decoration.isSome_slice?_iff]
    exact and_comm.trans (and_congr_right fun _ => and_comm)

end Weave
