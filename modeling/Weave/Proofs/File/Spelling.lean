import Mathlib.Data.List.Basic
import Weave.File.Tree
import Weave.Proofs.Text.Cut

/-!
# Spellings of a path

Paths with the same components are spellings of one another: empty parts and dots make no
difference.  To the system they do.  Behind a file a slash or a dot is an error, and a path may be
too long.

* `readText_eq_of_components_eq`: what two spellings read is the same text, where both read one.
* `readText_congr`: spellings that end in a step and are not too long read the same altogether,
  also when reading fails.
-/

namespace Weave

namespace Path

/-- Whether a part of a path names a step. -/
def isStep (part : Text) : Bool := !part.isEmpty && part != "."

theorem steps_eq_filter (p : Text) : steps p = (p.splitOn '/').filter isStep := rfl

theorem origin_eq_root_iff (p : Text) : origin p = .root ↔ isAbsolute p = true := by
  unfold origin
  split
  · rename_i h
    simp [h]
  · rename_i h
    split <;> simp [h]

theorem isAbsolute_congr {p q : Text} (h : components p = components q) :
    isAbsolute p = isAbsolute q := by
  have horigin : origin p = origin q := congrArg Components.origin h
  rw [Bool.eq_iff_iff, ← origin_eq_root_iff, ← origin_eq_root_iff, horigin]

/-- A path of a length that the system takes, with a step behind its last slash. -/
structure IsPlain (p : Text) : Prop where
  ends_in_step : ∃ last, (p.splitOn '/').getLast? = some last ∧ isStep last = true
  short : p.byteLength < 4096

theorem IsPlain.isEmpty_eq {p : Text} (h : IsPlain p) : p.isEmpty = false := by
  cases p with
  | nil =>
    obtain ⟨last, hlast, hstep⟩ := h.ends_in_step
    obtain rfl : [] = last := by simpa [Text.splitOn] using hlast
    contradiction
  | cons c p => rfl

/-- A character other than a slash is in a path exactly if it is in one of the parts. -/
theorem mem_iff_exists_mem_splitOn {c : Char} (hc : c ≠ '/') (p : Text) :
    c ∈ p ↔ ∃ part ∈ p.splitOn '/', c ∈ part := by
  induction p with
  | nil => simp [Text.splitOn]
  | cons d p ih =>
    rw [Text.splitOn]
    split
    · rename_i hd
      have hne : c ≠ d := fun h => hc (h.trans hd)
      simp [hne, ih]
    · split
      · rename_i hnil
        exact absurd hnil (Text.splitOn_ne_nil '/' p)
      · rename_i part parts hparts
        rw [hparts] at ih
        simp only [List.mem_cons, exists_eq_or_imp] at ih ⊢
        rw [ih, or_assoc]

theorem nul_mem_iff (p : Text) : '\x00' ∈ p ↔ ∃ step ∈ steps p, '\x00' ∈ step := by
  rw [mem_iff_exists_mem_splitOn (by decide), steps_eq_filter]
  constructor
  · rintro ⟨part, hpart, hnul⟩
    refine ⟨part, List.mem_filter.mpr ⟨hpart, ?_⟩, hnul⟩
    have hne : part ≠ ['.'] := by
      rintro rfl
      simp at hnul
    have hempty : part ≠ [] := List.ne_nil_of_mem hnul
    simp [isStep, hempty, hne]
  · rintro ⟨step, hstep, hnul⟩
    exact ⟨step, (List.mem_filter.mp hstep).1, hnul⟩

end Path

namespace FileNode

theorem follow_file {above : List FileNode} {content : Except ReadError Text} {part : Text}
    {parts : List Text} :
    follow above (.file content) (part :: parts) = .error .notADirectory := rfl

/-- A part that is no step stays in a directory. -/
theorem follow_of_not_isStep {above : List FileNode} {refusal : Option ReadError}
    {entries : List (Text × FileNode)} {part : Text} {parts : List Text}
    (h : Path.isStep part = false) :
    follow above (.directory refusal entries) (part :: parts)
      = follow above (.directory refusal entries) parts := by
  have hpart : part.isEmpty = true ∨ part = ".".toList := by
    simpa [Path.isStep, Classical.or_iff_not_imp_left] using h
  rw [follow.eq_def]
  exact if_pos hpart

/-- A step leads to another node, or to an error whatever comes behind it. -/
theorem follow_of_isStep {above : List FileNode} {refusal : Option ReadError}
    {entries : List (Text × FileNode)} {part : Text} (h : Path.isStep part = true) :
    (∃ above' node, ∀ parts, follow above (.directory refusal entries) (part :: parts)
        = follow above' node parts)
      ∨ ∃ e, ∀ parts, follow above (.directory refusal entries) (part :: parts) = .error e := by
  have hpart : ¬(part.isEmpty = true ∨ part = ".".toList) := by
    simpa [Path.isStep, not_or] using h
  by_cases hup : part = "..".toList
  · left
    cases above with
    | nil =>
      refine ⟨[], .directory refusal entries, fun parts => ?_⟩
      rw [follow, if_neg hpart, if_pos hup]
    | cons up above => exact ⟨above, up, fun parts => by rw [follow, if_neg hpart, if_pos hup]⟩
  · by_cases hlong : 255 < part.byteLength
    · right
      refine ⟨.nameTooLong, fun parts => ?_⟩
      rw [follow.eq_def]
      dsimp only
      rw [if_neg hpart, if_neg hup, if_pos hlong]
    · cases hentry : entry? part entries with
      | none =>
        right
        refine ⟨.notFound, fun parts => ?_⟩
        rw [follow.eq_def]
        dsimp only
        rw [if_neg hpart, if_neg hup, if_neg hlong, hentry]
      | some next =>
        left
        refine ⟨.directory refusal entries :: above, next, fun parts => ?_⟩
        rw [follow.eq_def]
        dsimp only
        rw [if_neg hpart, if_neg hup, if_neg hlong, hentry]

/-- Where the parts of a path lead, its steps lead too. -/
theorem follow_filter_isStep {parts : List Text} {above : List FileNode} {node found : FileNode}
    (h : follow above node parts = .ok found) :
    follow above node (parts.filter Path.isStep) = .ok found := by
  induction parts generalizing above node with
  | nil => exact h
  | cons part parts ih =>
    cases node with
    | file content => contradiction
    | directory refusal entries =>
      cases hstep : Path.isStep part with
      | false =>
        rw [follow_of_not_isStep hstep] at h
        rw [List.filter_cons_of_neg (by simp [hstep])]
        exact ih h
      | true =>
        rw [List.filter_cons_of_pos hstep]
        rcases follow_of_isStep hstep with ⟨above', node', hfollow⟩ | ⟨e, hfollow⟩
        · rw [hfollow] at h ⊢
          exact ih h
        · rw [hfollow] at h
          contradiction

/-- If the last part is a step, the steps lead where all the parts lead, and fail where they
fail. -/
theorem follow_filter_isStep_of_getLast {parts : List Text} {last : Text}
    (hlast : parts.getLast? = some last) (hstep : Path.isStep last = true)
    (above : List FileNode) (node : FileNode) :
    follow above node (parts.filter Path.isStep) = follow above node parts := by
  induction parts generalizing above node with
  | nil => contradiction
  | cons part parts ih =>
    have hmem : last ∈ (part :: parts).filter Path.isStep :=
      List.mem_filter.mpr ⟨List.mem_of_getLast? hlast, hstep⟩
    cases node with
    | file content =>
      obtain ⟨step, steps, hsteps⟩ := List.exists_cons_of_ne_nil (List.ne_nil_of_mem hmem)
      rw [hsteps, follow_file, follow_file]
    | directory refusal entries =>
      cases parts with
      | nil =>
        obtain rfl : part = last := by simpa using hlast
        rw [List.filter_cons_of_pos hstep, List.filter_nil]
      | cons next parts =>
        rw [List.getLast?_cons_cons] at hlast
        cases hpart : Path.isStep part with
        | false =>
          rw [List.filter_cons_of_neg (by simp [hpart]), follow_of_not_isStep hpart]
          exact ih hlast _ _
        | true =>
          rw [List.filter_cons_of_pos hpart]
          rcases follow_of_isStep hpart with ⟨above', node', hfollow⟩ | ⟨e, hfollow⟩
          · rw [hfollow, hfollow]
            exact ih hlast above' node'
          · rw [hfollow, hfollow]

end FileNode

namespace FileTree

/-- The parts that lead to a path from the root. -/
def partsTo (tree : FileTree) (p : Text) : List Text :=
  if Path.isAbsolute p then p.splitOn '/' else tree.workingDirectory ++ p.splitOn '/'

theorem lookup_eq_follow {tree : FileTree} {p : Text} (hempty : p.isEmpty = false)
    (hnul : '\x00' ∉ p) (hlong : p.byteLength < 4096) :
    tree.lookup p = tree.root.follow [] (tree.partsTo p) := by
  rw [lookup, if_neg (by simp [hempty]), if_neg hnul, if_neg (Nat.not_le.mpr hlong), partsTo]
  split <;> rfl

theorem follow_of_lookup {tree : FileTree} {p : Text} {found : FileNode}
    (h : tree.lookup p = .ok found) : tree.root.follow [] (tree.partsTo p) = .ok found := by
  by_cases hempty : p.isEmpty = true
  · rw [lookup, if_pos hempty] at h
    contradiction
  · by_cases hnul : '\x00' ∈ p
    · rw [lookup, if_neg hempty, if_pos hnul] at h
      contradiction
    · by_cases hlong : 4096 ≤ p.byteLength
      · rw [lookup, if_neg hempty, if_neg hnul, if_pos hlong] at h
        contradiction
      · rw [← lookup_eq_follow (by simpa using hempty) hnul (Nat.not_le.mp hlong)]
        exact h

/-- Spellings of a path have the same steps from the root. -/
theorem filter_partsTo_congr (tree : FileTree) {p q : Text}
    (h : Path.components p = Path.components q) :
    (tree.partsTo p).filter Path.isStep = (tree.partsTo q).filter Path.isStep := by
  have hsteps : Path.steps p = Path.steps q := congrArg Path.Components.steps h
  rw [Path.steps_eq_filter, Path.steps_eq_filter] at hsteps
  rw [partsTo, partsTo, Path.isAbsolute_congr h]
  split
  · exact hsteps
  · rw [List.filter_append, List.filter_append, hsteps]

theorem lookup_of_readText {tree : FileTree} {p t : Text} (h : tree.readText p = .ok t) :
    tree.lookup p = .ok (.file (.ok t)) := by
  rw [readText] at h
  split at h
  · contradiction
  · contradiction
  · rename_i content hlookup
    rw [hlookup, h]

/-- Two spellings that both read a text read the same one. -/
theorem readText_eq_of_components_eq {tree : FileTree} {p q s t : Text}
    (h : Path.components p = Path.components q) (hp : tree.readText p = .ok s)
    (hq : tree.readText q = .ok t) : s = t := by
  have hfound := FileNode.follow_filter_isStep (follow_of_lookup (lookup_of_readText hp))
  have hfound' := FileNode.follow_filter_isStep (follow_of_lookup (lookup_of_readText hq))
  rw [filter_partsTo_congr tree h, hfound'] at hfound
  injection hfound with hfile
  injection hfile with hcontent
  exact (Except.ok.inj hcontent).symm

theorem lookup_of_isPlain {tree : FileTree} {p : Text} (hp : Path.IsPlain p)
    (hnul : '\x00' ∉ p) :
    tree.lookup p = tree.root.follow [] ((tree.partsTo p).filter Path.isStep) := by
  obtain ⟨last, hlast, hstep⟩ := hp.ends_in_step
  have hparts : (tree.partsTo p).getLast? = some last := by
    rw [partsTo]
    split
    · exact hlast
    · rw [List.getLast?_append, hlast, Option.some_or]
  rw [lookup_eq_follow hp.isEmpty_eq hnul hp.short,
    FileNode.follow_filter_isStep_of_getLast hparts hstep]

/-- Plain spellings of a path read the same, or fail in the same way. -/
theorem readText_congr (tree : FileTree) {p q : Text} (h : Path.components p = Path.components q)
    (hp : Path.IsPlain p) (hq : Path.IsPlain q) : tree.readText p = tree.readText q := by
  have hsteps : Path.steps p = Path.steps q := congrArg Path.Components.steps h
  have hlookup : tree.lookup p = tree.lookup q := by
    by_cases hnul : '\x00' ∈ p
    · have hnul' : '\x00' ∈ q := by rwa [Path.nul_mem_iff, ← hsteps, ← Path.nul_mem_iff]
      have hfail : ∀ r : Text, Path.IsPlain r → '\x00' ∈ r → tree.lookup r = .error .nulInName := by
        intro r hr hnul
        rw [lookup, if_neg (by simp [hr.isEmpty_eq]), if_pos hnul]
      rw [hfail p hp hnul, hfail q hq hnul']
    · have hnul' : '\x00' ∉ q := by rwa [Path.nul_mem_iff, ← hsteps, ← Path.nul_mem_iff]
      rw [lookup_of_isPlain hp hnul, lookup_of_isPlain hq hnul', filter_partsTo_congr tree h]
  rw [readText, readText, hlookup]

end FileTree

end Weave
