import Mathlib.Order.Bounds.Defs
import Weave.Enumeration.Numbers

/-!
# Display numbers in closed form

`restarts` and `displayNumbers` walk over the items of a list and carry what they have seen: whether
a number above one has come since the last `1`, and where the count began.  This module says what
they answer for an item from the ordinals alone.

* `FollowsHigher` and `IsRestart` say when an item restarts the count, and `Shows` says which number
  it shows.
* `restartsFrom_getElem?` and `shownFrom_getElem?` are the inductions along the walks.  What is
  carried at an item is tied to the items before it: `FollowsHigher` is what the first walk has
  seen, and `LastRestart` is where the second one counts from.
* `restarts_prefix_append` and `displayNumbers_prefix_append`: no item depends on the ones behind
  it.
-/

namespace Weave

/-- What is left of a list from an index on begins with the element at the index. -/
theorem of_drop_eq_cons {α : Type} {l rest : List α} {i : Nat} {x : α} (h : l.drop i = x :: rest) :
    l[i]? = some x ∧ l.drop (i + 1) = rest := by
  constructor
  · rw [← Nat.add_zero i, ← List.getElem?_drop, h]
    rfl
  · rw [← List.drop_drop, h]
    rfl

namespace Ordinal

/-! ## Which items restart the count -/

/-- Whether a number above one stands before an item and no `1` between the two. -/
def FollowsHigher (ordinals : List Ordinal) (i : Nat) : Prop :=
  ∃ j < i, (∃ n, 1 < n ∧ ordinals[j]? = some (.whole n))
    ∧ ∀ k, j < k → k < i → ordinals[k]? ≠ some (.whole 1)

/-- Whether an item restarts the count: it is a `1` behind a higher number. -/
def IsRestart (ordinals : List Ordinal) (i : Nat) : Prop :=
  ordinals[i]? = some (.whole 1) ∧ FollowsHigher ordinals i

/-- What is shown for an item. -/
inductive Shows (ordinals : List Ordinal) (i : Nat) : Text → Prop where
  /-- A decimal number stands as it is written. -/
  | decimal {text : Text} (h : ordinals[i]? = some (.decimal text)) : Shows ordinals i text
  /-- Behind a restart the items are counted from it. -/
  | counted {ordinal : Ordinal} {s : Nat} (h : ordinals[i]? = some ordinal)
      (hdecimal : ∀ text, ordinal ≠ .decimal text)
      (hs : IsGreatest {s | s ≤ i ∧ IsRestart ordinals s} s) :
      Shows ordinals i (Text.ofNat (i - s + 1))
  /-- Before any restart the author's number stands. -/
  | authored {n : Nat} (h : ordinals[i]? = some (.whole n)) (hpos : 0 < n)
      (hnone : ∀ s ≤ i, ¬IsRestart ordinals s) : Shows ordinals i (Text.ofNat n)
  /-- Without a number of its author's an item shows its place. -/
  | placed {ordinal : Ordinal} (h : ordinals[i]? = some ordinal)
      (hordinal : ordinal = .missing ∨ ordinal = .whole 0)
      (hnone : ∀ s ≤ i, ¬IsRestart ordinals s) : Shows ordinals i (Text.ofNat (i + 1))

variable {ordinals : List Ordinal} {i : Nat}

theorem followsHigher_succ :
    FollowsHigher ordinals (i + 1) ↔ (∃ n, 1 < n ∧ ordinals[i]? = some (.whole n))
      ∨ ordinals[i]? ≠ some (.whole 1) ∧ FollowsHigher ordinals i := by
  constructor
  · rintro ⟨j, hj, hhigher, hbetween⟩
    by_cases heq : j = i
    · exact .inl (heq ▸ hhigher)
    · refine .inr ⟨hbetween i (by omega) (by omega), j, by omega, hhigher, ?_⟩
      exact fun k hjk hki => hbetween k hjk (by omega)
  · rintro (hhigher | ⟨hone, j, hj, hhigher, hbetween⟩)
    · exact ⟨i, by omega, hhigher, fun k hik hki => by omega⟩
    · refine ⟨j, by omega, hhigher, fun k hjk hki => ?_⟩
      by_cases heq : k = i
      · exact heq ▸ hone
      · exact hbetween k hjk (by omega)

theorem not_followsHigher_zero : ¬FollowsHigher ordinals 0 := by
  rintro ⟨j, hj, -⟩
  omega

/-! ## The walk that finds the restarts -/

/-- Whether a number above one has been seen behind an item, since the last `1`. -/
def seesHigher (seenHigher : Bool) : Ordinal → Bool
  | .whole n => if n = 1 then false else seenHigher || 1 < n
  | _ => seenHigher

theorem restartsFrom_cons (seenHigher : Bool) (ordinal : Ordinal) (rest : List Ordinal) :
    restartsFrom seenHigher (ordinal :: rest)
      = (ordinal == .whole 1 && seenHigher)
          :: restartsFrom (seesHigher seenHigher ordinal) rest := by
  cases ordinal with
  | whole n =>
    rw [restartsFrom]
    by_cases hn : n = 1
    · subst hn
      cases seenHigher <;> rfl
    · simp [seesHigher, hn]
  | missing => rfl
  | decimal text => rfl

theorem seesHigher_eq_true_iff {seenHigher : Bool} {ordinal : Ordinal} :
    seesHigher seenHigher ordinal = true ↔ (∃ n, 1 < n ∧ ordinal = .whole n)
      ∨ ordinal ≠ .whole 1 ∧ seenHigher = true := by
  cases ordinal with
  | whole n =>
    by_cases hn : n = 1
    · simp [seesHigher, hn]
    · simp [seesHigher, hn, or_comm]
  | missing => simp [seesHigher]
  | decimal text => simp [seesHigher]

theorem length_restartsFrom (seenHigher : Bool) (ordinals : List Ordinal) :
    (restartsFrom seenHigher ordinals).length = ordinals.length := by
  induction ordinals generalizing seenHigher with
  | nil => rfl
  | cons ordinal ordinals ih => rw [restartsFrom_cons, List.length_cons, List.length_cons, ih]

/-- The walk from an item on, when it has seen what stands before the item. -/
theorem restartsFrom_getElem? {rest : List Ordinal} {seenHigher : Bool}
    (hrest : ordinals.drop i = rest) (hseen : seenHigher = true ↔ FollowsHigher ordinals i)
    (j : Nat) : (restartsFrom seenHigher rest)[j]? = some true ↔ IsRestart ordinals (i + j) := by
  induction rest generalizing i seenHigher j with
  | nil =>
    have hlength := List.drop_eq_nil_iff.mp hrest
    have hnone : ordinals[i + j]? = none := List.getElem?_eq_none (by omega)
    simp [restartsFrom, IsRestart, hnone]
  | cons ordinal rest ih =>
    obtain ⟨hhere, hlater⟩ := of_drop_eq_cons hrest
    rw [restartsFrom_cons]
    cases j with
    | zero =>
      rw [List.getElem?_cons_zero, Nat.add_zero, IsRestart, hhere, ← hseen]
      simp
    | succ j =>
      have hnext : seesHigher seenHigher ordinal = true ↔ FollowsHigher ordinals (i + 1) := by
        rw [seesHigher_eq_true_iff, followsHigher_succ, hhere, hseen]
        simp
      rw [List.getElem?_cons_succ, ih hlater hnext, Nat.add_right_comm, Nat.add_assoc]

theorem length_restarts (ordinals : List Ordinal) :
    (restarts ordinals).length = ordinals.length := length_restartsFrom false ordinals

theorem restarts_getElem? (ordinals : List Ordinal) (i : Nat) :
    (restarts ordinals)[i]? = some true ↔ IsRestart ordinals i := by
  have hseen : false = true ↔ FollowsHigher ordinals 0 :=
    iff_of_false Bool.false_ne_true not_followsHigher_zero
  rw [restarts, restartsFrom_getElem? List.drop_zero hseen, Nat.zero_add]

/-! ## The walk that shows the numbers -/

/-- Where the count began for the items before an item. -/
inductive LastRestart (ordinals : List Ordinal) (i : Nat) : Option Nat → Prop where
  | none (h : ∀ s < i, ¬IsRestart ordinals s) : LastRestart ordinals i none
  | some {s : Nat} (h : IsGreatest {s | s < i ∧ IsRestart ordinals s} s) :
      LastRestart ordinals i (some s)

theorem LastRestart.succ_of_restart (h : IsRestart ordinals i) :
    LastRestart ordinals (i + 1) (.some i) :=
  .some ⟨⟨by omega, h⟩, fun s hs => Nat.le_of_lt_succ hs.1⟩

theorem LastRestart.succ_of_not_restart {start : Option Nat} (hstart : LastRestart ordinals i start)
    (h : ¬IsRestart ordinals i) : LastRestart ordinals (i + 1) start := by
  have hbefore : ∀ s, s < i + 1 → IsRestart ordinals s → s < i := by
    intro s hs hrestart
    have hne : s ≠ i := fun heq => h (heq ▸ hrestart)
    omega
  cases hstart with
  | none hnone => exact .none fun s hs hrestart => hnone s (hbefore s hs hrestart) hrestart
  | some hs =>
    refine .some ⟨⟨by have := hs.1.1; omega, hs.1.2⟩, fun s hs' => ?_⟩
    exact hs.2 ⟨hbefore s hs'.1 hs'.2, hs'.2⟩

/-- What is shown for an item, where `start` is the last restart at or before it. -/
theorem shows_iff {ordinal : Ordinal} {start : Option Nat} (h : ordinals[i]? = some ordinal)
    (hstart : LastRestart ordinals (i + 1) start) (text : Text) :
    Shows ordinals i text ↔ shown i start ordinal = text := by
  cases hstart with
  | none hnone =>
    have hnone' : ∀ s ≤ i, ¬IsRestart ordinals s := fun s hs => hnone s (Nat.lt_succ_of_le hs)
    constructor
    · intro hshows
      cases hshows with
      | decimal htext =>
        obtain rfl : ordinal = .decimal text := Option.some.inj (h.symm.trans htext)
        rfl
      | counted _ _ hs => exact absurd hs.1.2 (hnone' _ hs.1.1)
      | @authored n hn hpos =>
        obtain rfl : ordinal = .whole n := Option.some.inj (h.symm.trans hn)
        simp [shown, hpos]
      | @placed ordinal' hplaced hordinal =>
        obtain rfl : ordinal = ordinal' := Option.some.inj (h.symm.trans hplaced)
        rcases hordinal with rfl | rfl <;> rfl
    · rintro rfl
      cases ordinal with
      | decimal text => exact .decimal h
      | missing => exact .placed h (.inl rfl) hnone'
      | whole n =>
        by_cases hpos : 0 < n
        · simp only [shown, if_pos hpos]
          exact .authored h hpos hnone'
        · obtain rfl : n = 0 := by omega
          exact .placed h (.inr rfl) hnone'
  | @some s hs =>
    have hs' : IsGreatest {s | s ≤ i ∧ IsRestart ordinals s} s :=
      ⟨⟨Nat.le_of_lt_succ hs.1.1, hs.1.2⟩, fun k hk => hs.2 ⟨Nat.lt_succ_of_le hk.1, hk.2⟩⟩
    constructor
    · intro hshows
      cases hshows with
      | decimal htext =>
        obtain rfl : ordinal = .decimal text := Option.some.inj (h.symm.trans htext)
        rfl
      | @counted ordinal' s' hcounted hdecimal hgreatest =>
        obtain rfl : ordinal = ordinal' := Option.some.inj (h.symm.trans hcounted)
        obtain rfl : s' = s := Nat.le_antisymm (hs'.2 hgreatest.1) (hgreatest.2 hs'.1)
        cases ordinal with
        | decimal text => exact absurd rfl (hdecimal text)
        | missing => rfl
        | whole n => rfl
      | authored _ _ hnone => exact absurd hs'.1.2 (hnone _ hs'.1.1)
      | placed _ _ hnone => exact absurd hs'.1.2 (hnone _ hs'.1.1)
    · rintro rfl
      cases ordinal with
      | decimal text => exact .decimal h
      | missing => exact .counted h (by simp) hs'
      | whole n => exact .counted h (by simp) hs'

theorem length_shownFrom (index : Nat) (start : Option Nat) (items : List (Ordinal × Bool)) :
    (shownFrom index start items).length = items.length := by
  induction items generalizing index start with
  | nil => rfl
  | cons item items ih => simp only [shownFrom, List.length_cons, ih]

/-- The walk from an item on, when it counts from the last restart before the item. -/
theorem shownFrom_getElem? {rest : List Ordinal} {flags : List Bool} {start : Option Nat}
    (hrest : ordinals.drop i = rest) (hlength : flags.length = rest.length)
    (hflags : ∀ j, flags[j]? = some true ↔ IsRestart ordinals (i + j))
    (hstart : LastRestart ordinals i start) (j : Nat) (text : Text) :
    (shownFrom i start (rest.zip flags))[j]? = some text ↔ Shows ordinals (i + j) text := by
  induction rest generalizing i flags start j with
  | nil =>
    have hend := List.drop_eq_nil_iff.mp hrest
    have hnone : ordinals[i + j]? = none := List.getElem?_eq_none (by omega)
    refine iff_of_false (by simp [shownFrom]) ?_
    rintro (h | h | h | h) <;> rw [hnone] at h <;> contradiction
  | cons ordinal rest ih =>
    cases flags with
    | nil => contradiction
    | cons flag flags =>
      obtain ⟨hhere, hlater⟩ := of_drop_eq_cons hrest
      have hflag : flag = true ↔ IsRestart ordinals i := by simpa using hflags 0
      have hflags' : ∀ j, flags[j]? = some true ↔ IsRestart ordinals (i + 1 + j) := by
        intro j
        rw [Nat.add_assoc, Nat.add_comm 1 j, ← hflags (j + 1), List.getElem?_cons_succ]
      have hnext : LastRestart ordinals (i + 1) (if flag then .some i else start) := by
        cases flag with
        | true => exact .succ_of_restart (hflag.mp rfl)
        | false => exact hstart.succ_of_not_restart fun h => Bool.false_ne_true (hflag.mpr h)
      rw [List.zip_cons_cons, shownFrom]
      cases j with
      | zero => rw [List.getElem?_cons_zero, Nat.add_zero, shows_iff hhere hnext, Option.some.injEq]
      | succ j =>
        rw [List.getElem?_cons_succ, ih hlater (Nat.succ.inj hlength) hflags' hnext,
          Nat.add_right_comm, Nat.add_assoc]

theorem length_displayNumbers (ordinals : List Ordinal) :
    (displayNumbers ordinals).length = ordinals.length := by
  rw [displayNumbers, length_shownFrom, List.length_zip, length_restarts, Nat.min_self]

theorem displayNumbers_getElem? (ordinals : List Ordinal) (i : Nat) (text : Text) :
    (displayNumbers ordinals)[i]? = some text ↔ Shows ordinals i text := by
  have hflags : ∀ j, (restarts ordinals)[j]? = some true ↔ IsRestart ordinals (0 + j) := by
    intro j
    rw [Nat.zero_add, restarts_getElem?]
  have hstart : LastRestart ordinals 0 none := .none fun s hs => by omega
  rw [displayNumbers,
    shownFrom_getElem? List.drop_zero (length_restarts ordinals) hflags hstart, Nat.zero_add]

/-! ## Items behind -/

theorem restartsFrom_prefix_append (seenHigher : Bool) (ordinals later : List Ordinal) :
    restartsFrom seenHigher ordinals <+: restartsFrom seenHigher (ordinals ++ later) := by
  induction ordinals generalizing seenHigher with
  | nil => exact List.nil_prefix
  | cons ordinal ordinals ih =>
    rw [List.cons_append, restartsFrom_cons, restartsFrom_cons, List.prefix_cons_inj]
    exact ih _

theorem shownFrom_prefix_append (index : Nat) (start : Option Nat)
    (items later : List (Ordinal × Bool)) :
    shownFrom index start items <+: shownFrom index start (items ++ later) := by
  induction items generalizing index start with
  | nil => exact List.nil_prefix
  | cons item items ih =>
    rw [List.cons_append, shownFrom, shownFrom, List.prefix_cons_inj]
    exact ih _ _

theorem restarts_prefix_append (ordinals later : List Ordinal) :
    restarts ordinals <+: restarts (ordinals ++ later) :=
  restartsFrom_prefix_append false ordinals later

theorem displayNumbers_prefix_append (ordinals later : List Ordinal) :
    displayNumbers ordinals <+: displayNumbers (ordinals ++ later) := by
  obtain ⟨flags, hflags⟩ := restarts_prefix_append ordinals later
  rw [displayNumbers, displayNumbers, ← hflags, List.zip_append (length_restarts ordinals).symm]
  exact shownFrom_prefix_append 0 none _ _

/-- Every item has a mark and a number.  An item is marked if it is a `1` behind a higher number and
no `1` stands between the two.  Its number has a closed form: a decimal number stands as it is
written, behind a restart the items are counted from it, and before any restart the author's number
stands or else the place of the item.  Neither depends on the items behind. -/
theorem displayNumbers_closed_form (ordinals : List Ordinal) :
    ((restarts ordinals).length = ordinals.length
        ∧ (displayNumbers ordinals).length = ordinals.length)
      ∧ (∀ i, (restarts ordinals)[i]? = some true ↔ IsRestart ordinals i)
      ∧ (∀ i text, (displayNumbers ordinals)[i]? = some text ↔ Shows ordinals i text)
      ∧ ∀ later, restarts ordinals <+: restarts (ordinals ++ later)
          ∧ displayNumbers ordinals <+: displayNumbers (ordinals ++ later) :=
  ⟨⟨length_restarts ordinals, length_displayNumbers ordinals⟩, restarts_getElem? ordinals,
    displayNumbers_getElem? ordinals,
    fun later =>
      ⟨restarts_prefix_append ordinals later, displayNumbers_prefix_append ordinals later⟩⟩

example :
    displayNumbers [.whole 1, .whole 4, .decimal "4.1", .whole 1, .whole 1, .missing]
      = ["1", "4", "4.1", "1", "2", "3"].map String.toList := by
  decide

end Ordinal

end Weave
