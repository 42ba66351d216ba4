import Mathlib.Data.List.Basic
import Weave.Proofs.Text.Trim
import Weave.Text.Lines

/-!
# The lines of a text

`IsLines ls` says of a list of texts that it is the list of lines of some text: each but the last
ends in its only newline, and the last is not empty.  `isLines_chunks` and `IsLines.chunks_flatten`
tie it to `chunks`: these are the lists that `chunks` answers, and each of them is what `chunks`
makes of its concatenation.

What is left of some lines after others were taken out are lines again (`IsLines.sublist`), so code
that was changed line by line can be read line by line.
-/

namespace Weave.Text

/-- The lines of a text with their newlines; the last one may lack it. -/
inductive IsLines : List Text → Prop where
  | nil : IsLines []
  | last {line : Text} (ne : line ≠ []) (free : '\n' ∉ line) : IsLines [line]
  | cons {body : Text} {lines : List Text} (free : '\n' ∉ body) (later : IsLines lines) :
      IsLines ((body ++ ['\n']) :: lines)

/-! ## Cutting at the first newline -/

/-- A text without a newline is one line. -/
theorem chunks_of_free {line : Text} (ne : line ≠ []) (free : '\n' ∉ line) :
    chunks line = [line] := by
  induction line with
  | nil => exact absurd rfl ne
  | cons c line ih =>
      rw [List.mem_cons, not_or] at free
      have hc : c ≠ '\n' := Ne.symm free.1
      rw [chunks, if_neg hc]
      cases line with
      | nil => rfl
      | cons d line => rw [ih (List.cons_ne_nil d line) free.2]

/-- The first line reaches to the first newline. -/
theorem chunks_append_newline {body : Text} (free : '\n' ∉ body) (t : Text) :
    chunks (body ++ '\n' :: t) = (body ++ ['\n']) :: chunks t := by
  induction body with
  | nil => rfl
  | cons c body ih =>
      rw [List.mem_cons, not_or] at free
      have hc : c ≠ '\n' := Ne.symm free.1
      rw [List.cons_append, chunks, if_neg hc, ih free.2]
      rfl

/-- The start of a line stands in the first line. -/
theorem exists_chunks_append {start : Text} (ne : start ≠ []) (free : '\n' ∉ start) (t : Text) :
    ∃ u lines, chunks (start ++ t) = (start ++ u) :: lines := by
  induction start with
  | nil => contradiction
  | cons c start ih =>
      rw [List.mem_cons, not_or] at free
      have hc : c ≠ '\n' := Ne.symm free.1
      rw [List.cons_append, chunks, if_neg hc]
      cases start with
      | nil =>
          cases chunks ([] ++ t) with
          | nil => exact ⟨[], [], rfl⟩
          | cons line lines => exact ⟨line, lines, rfl⟩
      | cons d start =>
          obtain ⟨u, lines, hlines⟩ := ih (List.cons_ne_nil d start) free.2
          rw [hlines]
          exact ⟨u, lines, rfl⟩

/-- Induction on the lines of a text: it has no newline, or it goes on behind its first newline. -/
@[elab_as_elim]
theorem line_induction {P : Text → Prop} (free : ∀ t, '\n' ∉ t → P t)
    (newline : ∀ body rest, '\n' ∉ body → P rest → P (body ++ '\n' :: rest)) (t : Text) : P t := by
  induction hn : t.length using Nat.strongRecOn generalizing t with
  | ind n ih =>
      by_cases h : '\n' ∈ t
      · obtain ⟨body, rest, rfl, hbody⟩ := List.eq_append_cons_of_mem h
        have hlt : rest.length < n := by
          rw [← hn, List.length_append, List.length_cons]
          omega
        exact newline body rest hbody (ih rest.length hlt rest rfl)
      · exact free t h

/-! ## Lines and chunks -/

theorem isLines_chunks (t : Text) : IsLines (chunks t) := by
  induction t using line_induction with
  | free t hfree =>
      by_cases hempty : t = []
      · rw [hempty]
        exact .nil
      · rw [chunks_of_free hempty hfree]
        exact .last hempty hfree
  | newline body rest hfree ih =>
      rw [chunks_append_newline hfree]
      exact .cons hfree ih

namespace IsLines

variable {ls : List Text}

/-- Lines are what their concatenation is cut into. -/
theorem chunks_flatten (h : IsLines ls) : chunks ls.flatten = ls := by
  induction h with
  | nil => rfl
  | last ne free => rw [List.flatten_singleton, chunks_of_free ne free]
  | @cons body lines free later ih =>
      rw [List.flatten_cons, List.append_assoc, List.singleton_append, chunks_append_newline free,
        ih]

theorem tail {line : Text} (h : IsLines (line :: ls)) : IsLines ls := by
  cases h with
  | last ne free => exact .nil
  | cons free later => exact later

/-- A line in front of other lines ends in its only newline. -/
theorem exists_body {line next : Text} (h : IsLines (line :: next :: ls)) :
    ∃ body, line = body ++ ['\n'] ∧ '\n' ∉ body := by
  cases h with
  | @cons body _ free later => exact ⟨body, rfl, free⟩

theorem sublist {s : List Text} (hs : s.Sublist ls) (h : IsLines ls) : IsLines s := by
  induction hs with
  | slnil => exact .nil
  | cons line _ ih => exact ih h.tail
  | @cons_cons s ls line hsub ih =>
      cases ls with
      | nil =>
          rw [List.sublist_nil] at hsub
          rw [hsub]
          exact h
      | cons next ls =>
          obtain ⟨body, rfl, hfree⟩ := h.exists_body
          exact .cons hfree (ih h.tail)

theorem ne_nil_of_mem {line : Text} (h : IsLines ls) (hline : line ∈ ls) : line ≠ [] := by
  have hsingle : IsLines [line] := h.sublist (List.singleton_sublist.mpr hline)
  cases hsingle with
  | last ne free => exact ne
  | cons free later => simp

/-- In a line nothing follows the newline. -/
theorem eq_nil_of_suffix {line rest : Text} (h : IsLines ls) (hline : line ∈ ls)
    (hrest : '\n' :: rest <:+ line) : rest = [] := by
  have hsingle : IsLines [line] := h.sublist (List.singleton_sublist.mpr hline)
  cases hsingle with
  | last ne free => exact absurd (hrest.subset List.mem_cons_self) free
  | @cons body _ free later =>
      rcases List.suffix_concat_iff.mp hrest with hnil | ⟨kept, hkept, hbody⟩
      · contradiction
      · cases kept with
        | nil => exact (List.cons.inj hkept).2
        | cons c kept =>
            have hc : '\n' = c := (List.cons.inj hkept).1
            exact absurd (hbody.subset (hc ▸ List.mem_cons_self)) free

/-- Lines that are cut off in front of a newline are lines, unless nothing is left. -/
theorem cut {start rest : Text} (h : IsLines ((start ++ rest) :: ls))
    (hstart : start.getLast? ≠ some '\n') : rest = [] ∧ ls = [] ∨ IsLines (rest :: ls) := by
  generalize hline : start ++ rest = line at h
  cases h with
  | last ne free =>
      by_cases hrest : rest = []
      · exact .inl ⟨hrest, rfl⟩
      · exact .inr (.last hrest fun hmem => free (hline ▸ List.mem_append_right start hmem))
  | @cons body _ free later =>
      rcases List.suffix_concat_iff.mp (hline ▸ List.suffix_append start rest) with
        rfl | ⟨kept, rfl, hkept⟩
      · rw [List.append_nil] at hline
        rw [hline, List.getLast?_concat] at hstart
        contradiction
      · exact .inr (.cons (fun hmem => free (hkept.subset hmem)) later)

/-- The lines in front of a line end in a newline. -/
theorem getLast?_flatten {front tail : List Text} {line : Text}
    (h : IsLines (front ++ line :: tail)) : ∀ c ∈ front.flatten.getLast?, c = '\n' := by
  induction front with
  | nil => simp
  | cons first front ih =>
      obtain ⟨next, ls, hnext⟩ : ∃ next ls, front ++ line :: tail = next :: ls :=
        List.exists_cons_of_ne_nil (by simp)
      rw [List.cons_append, hnext] at h
      obtain ⟨body, rfl, -⟩ := h.exists_body
      have hlater := ih (hnext ▸ h.tail)
      intro c hc
      rw [List.flatten_cons, List.getLast?_append, List.getLast?_concat] at hc
      cases hlast : front.flatten.getLast? with
      | none => simpa [hlast] using hc.symm
      | some d => simpa [hlast, hlater d hlast] using hc.symm

/-- Lines that are cut short at their starts are lines, but for one of which nothing stays. -/
theorem chunks_flatMap {f : Text → Text} (h : IsLines ls) (hf : ∀ line ∈ ls, f line <:+ line)
    (hend : ∀ body, body ++ ['\n'] ∈ ls → f (body ++ ['\n']) ≠ []) :
    chunks (ls.flatMap f) = (ls.map f).filter (!·.isEmpty) := by
  induction h with
  | nil => rfl
  | @last line ne free =>
      have hsuffix := hf line List.mem_cons_self
      cases hline : f line with
      | nil =>
          simp [hline]
          rfl
      | cons c rest =>
          have hfree : '\n' ∉ c :: rest := fun hmem => free (hsuffix.subset (hline ▸ hmem))
          simp [hline, chunks_of_free (List.cons_ne_nil c rest) hfree]
  | @cons body lines free later ih =>
      have hrest := ih (fun line hline => hf line (List.mem_cons_of_mem _ hline))
        fun b hb => hend b (List.mem_cons_of_mem _ hb)
      have hne := hend body List.mem_cons_self
      obtain hnil | ⟨kept, hkept, hsuffix⟩ :=
        List.suffix_concat_iff.mp (hf _ List.mem_cons_self)
      · contradiction
      · have hfree : '\n' ∉ kept := fun hmem => free (hsuffix.subset hmem)
        rw [List.flatMap_cons, hkept, List.append_assoc, List.singleton_append,
          chunks_append_newline hfree, hrest, List.map_cons, hkept, List.filter_cons_of_pos]
        simp

/-- The lines from one on give way to a single line. -/
theorem append_line {front tail : List Text} {line body : Text}
    (h : IsLines (front ++ line :: tail)) (free : '\n' ∉ body) :
    IsLines (front ++ [body ++ ['\n']]) := by
  induction front with
  | nil => exact .cons free .nil
  | cons first front ih =>
      obtain ⟨next, ls, hnext⟩ : ∃ next ls, front ++ line :: tail = next :: ls :=
        List.exists_cons_of_ne_nil (by simp)
      rw [List.cons_append, hnext] at h
      obtain ⟨start, rfl, hstart⟩ := h.exists_body
      exact .cons hstart (ih (hnext ▸ h.tail))

end IsLines

/-- A text that is cut off behind its last line with a character outside a class that holds the
newline. -/
theorem chunks_trimEndWhile {p : Char → Bool} {front tail : List Text} {line : Text}
    (h : IsLines (front ++ line :: tail)) (hp : p '\n' = true) (hline : ∃ c ∈ line, p c = false)
    (htail : ∀ l ∈ tail, ∀ c ∈ l, p c = true) :
    chunks (trimEndWhile p (front ++ line :: tail).flatten ++ ['\n'])
      = front ++ [trimEndWhile p line ++ ['\n']] := by
  have hcut : ∀ c ∈ tail.flatten, p c = true := by
    intro c hc
    obtain ⟨l, hl, hcl⟩ := List.mem_flatten.mp hc
    exact htail l hl c hcl
  have hfree : '\n' ∉ trimEndWhile p line := by
    have hsingle : IsLines [line] := h.sublist (by simp)
    cases hsingle with
    | last ne free => exact fun hmem => free (mem_of_mem_trimEndWhile hmem)
    | @cons body _ free later =>
        have hend : ∀ c ∈ ['\n'], p c = true := by simpa using hp
        rw [trimEndWhile_append_of_forall _ hend]
        exact fun hmem => free (mem_of_mem_trimEndWhile hmem)
  have htrim : trimEndWhile p (front ++ line :: tail).flatten
      = front.flatten ++ trimEndWhile p line := by
    rw [List.flatten_append, List.flatten_cons, ← List.append_assoc,
      trimEndWhile_append_of_forall _ hcut, trimEndWhile_append_of_exists _ hline]
  have hlines := h.append_line hfree
  rw [htrim, List.append_assoc, ← hlines.chunks_flatten, List.flatten_append,
    List.flatten_singleton]

/-- Behind the end of a line the lines of a text go on as those of another text. -/
theorem chunks_append {t : Text} (h : ∀ c ∈ t.getLast?, c = '\n') (more : Text) :
    chunks (t ++ more) = chunks t ++ chunks more := by
  induction t using line_induction with
  | free t hfree =>
      cases hlast : t.getLast? with
      | none =>
          rw [List.getLast?_eq_none_iff.mp hlast]
          rfl
      | some c =>
          have hmem : c ∈ t := List.mem_of_getLast? hlast
          rw [h c hlast] at hmem
          exact absurd hmem hfree
  | newline body rest hfree ih =>
      have hrest : ∀ c ∈ rest.getLast?, c = '\n' := by
        intro c hc
        refine h c ?_
        rw [List.getLast?_append, List.getLast?_cons, hc]
        rfl
      rw [List.append_assoc, List.cons_append, chunks_append_newline hfree,
        chunks_append_newline hfree, ih hrest]
      rfl

end Weave.Text
