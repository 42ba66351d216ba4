import Weave.Proofs.Text.Order
import Weave.Symbol.Annotate

/-!
# Decorations in order

`annotate` sorts the decorations and then drops each one that equals its successor.  The order does
not look at the owner of a decoration, so decorations of different owners can tie, and equal ones
need not be neighbours in a sorted list: with `a` and `b` tied, `[a, b, a]` is sorted.

* `Decoration.Precedes` writes the order out, and `Decoration.le_iff_precedes` ties the comparison
  to it.
* `sublist_of_sublist_mergeSort` is the stability of the sort, read backwards: tied elements that
  are in some order after the sort were in that order before it.
* `Unbroken` says of a list that nothing else stands between equal elements.  `dropRepeats` makes a
  list without repeats of an unbroken one.
-/

namespace Weave

open List

namespace DecorationKind

/-- Different kinds have different places. -/
theorem rank_inj {a b : DecorationKind} : a.rank = b.rank ↔ a = b := by
  cases a <;> cases b <;> decide

end DecorationKind

namespace Decoration

/-! ## The order -/

/-- `a` may stand before `b`: it starts earlier, or at the same offset and ends later, or at the
same span and is of an earlier kind, or is of the same kind and its symbol is not after that of
`b`. -/
def Precedes (a b : Decoration) : Prop :=
  a.span.start < b.span.start ∨ a.span.start = b.span.start ∧
    (b.span.stop < a.span.stop ∨ a.span.stop = b.span.stop ∧
      (a.kind.rank < b.kind.rank ∨ a.kind = b.kind ∧ Text.le a.symbol b.symbol = true))

theorem le_iff_precedes {a b : Decoration} : le a b = true ↔ a.Precedes b := by
  unfold le Precedes
  by_cases hstart : a.span.start = b.span.start
  · rw [if_neg (not_not_intro hstart)]
    by_cases hstop : a.span.stop = b.span.stop
    · rw [if_neg (not_not_intro hstop)]
      by_cases hkind : a.kind = b.kind
      · rw [if_neg (not_not_intro hkind)]
        simp [hstart, hstop, hkind]
      · rw [if_pos hkind]
        simp [hstart, hstop, hkind]
    · rw [if_pos hstop]
      simp [hstart, hstop]
  · rw [if_pos hstart]
    simp [hstart]

theorem Precedes.trans {a b c : Decoration} (hab : a.Precedes b) (hbc : b.Precedes c) :
    a.Precedes c := by
  unfold Precedes at hab hbc ⊢
  rcases hab with hab | ⟨hstart, hab⟩
  · exact .inl (by omega)
  · rcases hbc with hbc | ⟨hstart', hbc⟩
    · exact .inl (by omega)
    · refine .inr ⟨hstart.trans hstart', ?_⟩
      rcases hab with hab | ⟨hstop, hab⟩
      · exact .inl (by omega)
      · rcases hbc with hbc | ⟨hstop', hbc⟩
        · exact .inl (by omega)
        · refine .inr ⟨hstop.trans hstop', ?_⟩
          rcases hab with hab | ⟨hkind, hab⟩
          · rcases hbc with hbc | ⟨hkind', _⟩
            · exact .inl (Nat.lt_trans hab hbc)
            · exact .inl (hkind' ▸ hab)
          · rcases hbc with hbc | ⟨hkind', hbc⟩
            · exact .inl (hkind ▸ hbc)
            · exact .inr ⟨hkind.trans hkind', Text.le_trans hab hbc⟩

theorem precedes_total (a b : Decoration) : a.Precedes b ∨ b.Precedes a := by
  unfold Precedes
  rcases Nat.lt_trichotomy a.span.start b.span.start with hlt | hstart | hgt
  · exact .inl (.inl hlt)
  · rcases Nat.lt_trichotomy a.span.stop b.span.stop with hlt | hstop | hgt
    · exact .inr (.inr ⟨hstart.symm, .inl hlt⟩)
    · rcases Nat.lt_trichotomy a.kind.rank b.kind.rank with hlt | hrank | hgt
      · exact .inl (.inr ⟨hstart, .inr ⟨hstop, .inl hlt⟩⟩)
      · have hkind := DecorationKind.rank_inj.mp hrank
        rcases Text.le_total a.symbol b.symbol with hle | hge
        · exact .inl (.inr ⟨hstart, .inr ⟨hstop, .inr ⟨hkind, hle⟩⟩⟩)
        · exact .inr (.inr ⟨hstart.symm, .inr ⟨hstop.symm, .inr ⟨hkind.symm, hge⟩⟩⟩)
      · exact .inr (.inr ⟨hstart.symm, .inr ⟨hstop.symm, .inl hgt⟩⟩)
    · exact .inl (.inr ⟨hstart, .inl hgt⟩)
  · exact .inr (.inl hgt)

/-- Decorations that tie have the span, the kind and the symbol in common. -/
theorem Precedes.tie {a b : Decoration} (hab : a.Precedes b) (hba : b.Precedes a) :
    a.span = b.span ∧ a.kind = b.kind ∧ a.symbol = b.symbol := by
  unfold Precedes at hab hba
  have hstart : a.span.start = b.span.start := by omega
  have hstop : a.span.stop = b.span.stop := by omega
  have hspan : a.span = b.span := Span.eq_iff.mpr ⟨hstart, hstop⟩
  have hab : a.kind.rank < b.kind.rank ∨ a.kind = b.kind ∧ Text.le a.symbol b.symbol = true := by
    rcases hab with h | ⟨_, h | ⟨_, h⟩⟩
    · omega
    · omega
    · exact h
  have hba : b.kind.rank < a.kind.rank ∨ b.kind = a.kind ∧ Text.le b.symbol a.symbol = true := by
    rcases hba with h | ⟨_, h | ⟨_, h⟩⟩
    · omega
    · omega
    · exact h
  have hkind : a.kind = b.kind := by
    apply DecorationKind.rank_inj.mp
    rcases hab with h | ⟨h, _⟩
    · rcases hba with h' | ⟨h', _⟩
      · omega
      · rw [h']
    · rw [h]
  rw [hkind] at hab hba
  refine ⟨hspan, hkind, ?_⟩
  rcases hab with h | ⟨_, hle⟩
  · exact absurd h (Nat.lt_irrefl _)
  · rcases hba with h | ⟨_, hge⟩
    · exact absurd h (Nat.lt_irrefl _)
    · exact Text.le_antisymm hle hge

/-- The comparison as the sort of the library wants it. -/
theorem le_trans (a b c : Decoration) (hab : le a b = true) (hbc : le b c = true) :
    le a c = true := by
  rw [le_iff_precedes] at hab hbc ⊢
  exact hab.trans hbc

theorem le_total (a b : Decoration) : (le a b || le b a) = true := by
  rw [Bool.or_eq_true, le_iff_precedes, le_iff_precedes]
  exact precedes_total a b

end Decoration

/-! ## Stability -/

/-- In a sorted list, the elements that tie with `a` are in the order in which they were before. -/
theorem filter_mergeSort_tied {α : Type} {le : α → α → Bool}
    (trans : ∀ a b c, le a b = true → le b c = true → le a c = true)
    (total : ∀ a b, (le a b || le b a) = true) (l : List α) (a : α) :
    (l.mergeSort le).filter (fun x => le a x && le x a) = l.filter fun x => le a x && le x a := by
  have hsorted : (l.filter fun x => le a x && le x a).Pairwise fun x y => le x y = true := by
    refine List.pairwise_of_forall_mem_list ?_
    intro x hx y hy
    rw [List.mem_filter, Bool.and_eq_true] at hx hy
    exact trans x a y hx.2.2 hy.2.1
  have hsub := (List.sublist_mergeSort trans total hsorted List.filter_sublist).filter
    fun x => le a x && le x a
  rw [List.filter_filter] at hsub
  simp only [Bool.and_self] at hsub
  have hlength := ((List.mergeSort_perm l le).filter fun x => le a x && le x a).length_eq
  exact (hsub.eq_of_length hlength.symm).symm

/-- Tied elements of a sorted list have kept their order. -/
theorem sublist_of_sublist_mergeSort {α : Type} {le : α → α → Bool}
    (trans : ∀ a b c, le a b = true → le b c = true → le a c = true)
    (total : ∀ a b, (le a b || le b a) = true) {l s : List α} {a : α}
    (hs : s <+ l.mergeSort le) (htied : ∀ x ∈ s, le a x = true ∧ le x a = true) : s <+ l := by
  have hfilter : s.filter (fun x => le a x && le x a) = s := by
    rw [List.filter_eq_self]
    intro x hx
    rw [Bool.and_eq_true]
    exact htied x hx
  have hsub := hs.filter fun x => le a x && le x a
  rw [hfilter, filter_mergeSort_tied trans total] at hsub
  exact hsub.trans List.filter_sublist

/-- A sorted list is known by the order of its tied elements. -/
theorem eq_of_filter_tied_eq {α : Type} {le : α → α → Bool} (refl : ∀ a, le a a = true)
    {l l' : List α} (hl : l.Pairwise fun x y => le x y = true)
    (hl' : l'.Pairwise fun x y => le x y = true)
    (h : ∀ a, l.filter (fun x => le a x && le x a) = l'.filter fun x => le a x && le x a) :
    l = l' := by
  induction l generalizing l' with
  | nil =>
      cases l' with
      | nil => rfl
      | cons y ys => simpa [refl] using h y
  | cons x xs ih =>
      have hx : x ∈ l' := by
        have hmem : x ∈ l'.filter fun z => le x z && le z x := by
          rw [← h x, List.mem_filter, refl]
          exact ⟨List.mem_cons_self, rfl⟩
        exact (List.mem_filter.mp hmem).1
      cases l' with
      | nil => contradiction
      | cons y ys =>
          have hy : y ∈ x :: xs := by
            have hmem : y ∈ (x :: xs).filter fun z => le y z && le z y := by
              rw [h y, List.mem_filter, refl]
              exact ⟨List.mem_cons_self, rfl⟩
            exact (List.mem_filter.mp hmem).1
          have hxy : le x y = true := by
            rcases List.mem_cons.mp hy with rfl | hy
            · exact refl y
            · exact List.rel_of_pairwise_cons hl hy
          have hyx : le y x = true := by
            rcases List.mem_cons.mp hx with rfl | hx
            · exact refl x
            · exact List.rel_of_pairwise_cons hl' hx
          -- The heads tie with each other, so the elements that tie with them start with both.
          obtain rfl : x = y := by
            have hhead := h x
            rw [List.filter_cons_of_pos (by simp [refl]),
              List.filter_cons_of_pos (by simp [hxy, hyx])] at hhead
            exact (List.cons.inj hhead).1
          rw [ih hl.of_cons hl'.of_cons fun a => ?_]
          have htail := h a
          rw [List.filter_cons, List.filter_cons] at htail
          split at htail
          · exact (List.cons.inj htail).2
          · exact htail

/-- The part of a sorted list that passes a test is the sorted part that passes it. -/
theorem filter_mergeSort {α : Type} {le : α → α → Bool}
    (trans : ∀ a b c, le a b = true → le b c = true → le a c = true)
    (total : ∀ a b, (le a b || le b a) = true) (p : α → Bool) (l : List α) :
    (l.mergeSort le).filter p = (l.filter p).mergeSort le := by
  have refl : ∀ a, le a a = true := fun a => by simpa using total a a
  have hsorted := (List.pairwise_mergeSort trans total l).sublist (List.filter_sublist (p := p))
  refine eq_of_filter_tied_eq refl hsorted (List.pairwise_mergeSort trans total _) fun a => ?_
  have hswap : ∀ l : List α, (l.filter p).filter (fun x => le a x && le x a)
      = (l.filter fun x => le a x && le x a).filter p := by
    intro l
    rw [List.filter_filter, List.filter_filter]
    exact List.filter_congr fun x _ => Bool.and_comm _ _
  rw [filter_mergeSort_tied trans total, hswap, hswap, filter_mergeSort_tied trans total]

/-! ## Repeats -/

/-- Nothing else stands between equal elements. -/
def Unbroken {α : Type} (l : List α) : Prop :=
  ∀ a b, [a, b, a] <+ l → b = a

theorem Unbroken.sublist {α : Type} {s l : List α} (h : Unbroken l) (hs : s <+ l) :
    Unbroken s := by
  intro a b hab
  exact h a b (hab.trans hs)

theorem mem_dropRepeats {d : Decoration} {l : List Decoration} : d ∈ dropRepeats l ↔ d ∈ l := by
  induction l using dropRepeats.induct with
  | case1 => rfl
  | case2 a => rfl
  | case3 a ds ih =>
      rw [dropRepeats, if_pos rfl, ih]
      simp
  | case4 a b ds hne ih =>
      rw [dropRepeats, if_neg hne, List.mem_cons, ih]
      exact List.mem_cons.symm

theorem dropRepeats_sublist (l : List Decoration) : dropRepeats l <+ l := by
  induction l using dropRepeats.induct with
  | case1 => exact List.Sublist.refl _
  | case2 a => exact List.Sublist.refl _
  | case3 a ds ih =>
      rw [dropRepeats, if_pos rfl]
      exact ih.cons a
  | case4 a b ds hne ih =>
      rw [dropRepeats, if_neg hne]
      exact ih.cons_cons a

/-- Repeats do not reach over a place where no element of one side is one of the other. -/
theorem dropRepeats_append {ds es : List Decoration} (h : ∀ d ∈ ds, d ∉ es) :
    dropRepeats (ds ++ es) = dropRepeats ds ++ dropRepeats es := by
  induction ds using dropRepeats.induct with
  | case1 => rfl
  | case2 a =>
      cases es with
      | nil => rfl
      | cons e es =>
          have hne : a ≠ e := fun heq => h a List.mem_cons_self (heq ▸ List.mem_cons_self)
          simp [dropRepeats, hne]
  | case3 a ds ih =>
      have hrest := ih fun d hd => h d (List.mem_cons_of_mem _ hd)
      rw [List.cons_append, List.cons_append, dropRepeats, if_pos rfl, dropRepeats, if_pos rfl]
      exact hrest
  | case4 a b ds hne ih =>
      have hrest := ih fun d hd => h d (List.mem_cons_of_mem _ hd)
      rw [List.cons_append, List.cons_append, dropRepeats, if_neg hne, dropRepeats, if_neg hne,
        ← List.cons_append, hrest, List.cons_append]

/-- In an unbroken list, dropping what equals its successor drops all that repeats. -/
theorem nodup_dropRepeats {l : List Decoration} (h : Unbroken l) : (dropRepeats l).Nodup := by
  induction l using dropRepeats.induct with
  | case1 => exact List.nodup_nil
  | case2 a => exact List.pairwise_singleton _ a
  | case3 a ds ih =>
      rw [dropRepeats, if_pos rfl]
      exact ih (h.sublist (List.sublist_cons_self a _))
  | case4 a b ds hne ih =>
      rw [dropRepeats, if_neg hne, List.nodup_cons, mem_dropRepeats]
      refine ⟨?_, ih (h.sublist (List.sublist_cons_self a _))⟩
      intro hmem
      rcases List.mem_cons.mp hmem with hab | hds
      · exact hne hab
      · have hbroken : [a, b, a] <+ a :: b :: ds :=
          ((List.singleton_sublist.mpr hds).cons_cons b).cons_cons a
        exact hne (h a b hbroken).symm

end Weave
