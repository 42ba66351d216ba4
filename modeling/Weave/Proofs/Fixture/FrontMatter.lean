import Weave.Fixture.FrontMatter
import Weave.Proofs.Text.Cut
import Weave.Proofs.Text.Trim

/-!
# Front matter that is split off again

A fixture is written as front matter between two lines of three dashes, with the document behind
(`joined`).  The reader takes the line ending behind the first dashes away and then looks for dashes
behind a newline.

* `splitFirst?_dashes`: behind front matter with at least one line, these are the closing dashes.
* `split_joined_iff`: such front matter is found, without its last newline and the carriage returns
  in front of that, together with exactly the document.  Front matter without a line is not found:
  its closing dashes stand where the newline was taken away.
-/

namespace Weave

/-- What ends a line. -/
inductive LineEnding where
  | newline
  | returnNewline
  deriving DecidableEq, Repr

/-- The characters of a line ending. -/
def LineEnding.text : LineEnding → Text
  | newline => "\n"
  | returnNewline => "\r\n"

namespace Text

@[simp] theorem dropLineEnding_append (ending : LineEnding) (t : Text) :
    dropLineEnding (ending.text ++ t) = t := by
  cases ending <;> rfl

theorem length_dropLineEnding_le (t : Text) : (dropLineEnding t).length ≤ t.length := by
  unfold dropLineEnding
  split
  · exact Nat.le_succ _
  · exact Nat.le_add_right _ 2
  · exact Nat.le_refl _

end Text

namespace Fixture

/-- Three dashes, as they stand in front of and behind front matter. -/
def dashes : Text := "---"

/-- Front matter and a document, each of the delimiters on a line of its own. -/
def joined (opening closing : LineEnding) (matter source : Text) : Text :=
  dashes ++ (opening.text ++ (matter ++ (dashes ++ (closing.text ++ source))))

/-- Complete lines, none of which begins with three dashes. -/
inductive IsMatter : Text → Prop where
  | nil : IsMatter []
  | line {body rest : Text} (free : '\n' ∉ body) (plain : ¬dashes <+: body)
      (later : IsMatter rest) : IsMatter (body ++ '\n' :: rest)

/-! ## The closing dashes -/

/-- Whatever follows front matter with a line, it does not begin with dashes. -/
theorem IsMatter.not_prefix {t : Text} (h : IsMatter t) (ne : t ≠ []) (more : Text) :
    ¬dashes <+: t ++ more := by
  cases h with
  | nil => contradiction
  | @line body rest free plain later =>
      intro hprefix
      obtain ⟨after, hafter⟩ := hprefix
      have hdrop := Text.dropPrefix?_append dashes after
      have hnewline : ∀ c ∈ ('\n' :: (rest ++ more)).head?, c ∉ dashes := by
        simp [dashes]
      rw [hafter, List.append_assoc, List.cons_append, Text.dropPrefix?_append_right hnewline,
        Option.map_eq_some_iff] at hdrop
      obtain ⟨kept, hkept, -⟩ := hdrop
      exact plain ⟨kept, (Text.dropPrefix?_eq_some_iff.mp hkept).symm⟩

/-- The dashes behind front matter are the first ones behind a newline. -/
theorem splitFirst?_dashes {t : Text} (h : IsMatter t) (ne : t ≠ []) (more : Text) :
    ∃ body, t = body ++ ['\n']
      ∧ Text.splitFirst? ('\n' :: dashes) (t ++ (dashes ++ more)) = some (body, more) := by
  induction h with
  | nil => contradiction
  | @line body rest free plain later ih =>
      rw [List.append_assoc, List.cons_append, Text.splitFirst?_append_of_head_notMem free,
        Text.splitFirst?, Text.dropPrefix?, if_pos rfl]
      by_cases hrest : rest = []
      · refine ⟨body, by rw [hrest], ?_⟩
        rw [hrest, List.nil_append, Text.dropPrefix?_append]
        simp
      · obtain ⟨last, rfl, hsplit⟩ := ih hrest
        have hnone : Text.dropPrefix? dashes (last ++ ['\n'] ++ (dashes ++ more)) = none := by
          rw [Option.eq_none_iff_forall_ne_some]
          intro after hafter
          refine later.not_prefix hrest (dashes ++ more) ⟨after, ?_⟩
          exact (Text.dropPrefix?_eq_some_iff.mp hafter).symm
        refine ⟨body ++ '\n' :: last, by simp, ?_⟩
        rw [hnone, hsplit]
        rfl

/-- Dashes without a newline in front of them are passed over, and then at least the newline in
front of the dashes that are found belongs to the document. -/
theorem length_lt_of_splitFirst?_dashes {closing : LineEnding} {source before after : Text}
    (h : Text.splitFirst? ('\n' :: dashes) (dashes ++ (closing.text ++ source))
      = some (before, after)) : after.length < source.length := by
  have hfree : '\n' ∉ dashes := by decide
  rw [Text.splitFirst?_append_of_head_notMem hfree, Option.map_eq_some_iff] at h
  obtain ⟨⟨before', after'⟩, hsplit, hpair⟩ := h
  obtain ⟨-, rfl⟩ := Prod.mk.inj hpair
  have hlength := congrArg List.length (Text.splitFirst?_eq_some_iff.mp hsplit).1
  have hclosing : closing.text.length ≤ 2 := by cases closing <;> decide
  have hdashes : dashes.length = 3 := rfl
  rw [List.length_append, List.length_append, List.length_append, List.length_cons,
    hdashes] at hlength
  omega

/-! ## Splitting what was joined -/

theorem split_joined (opening closing : LineEnding) (matter source : Text) :
    split (joined opening closing matter source)
      = match Text.splitFirst? ('\n' :: dashes)
            (matter ++ (dashes ++ (closing.text ++ source))) with
        | none => .error .unclosed
        | some (matter, source) =>
          .ok (matter.trimEndWhile (· == '\r'), Text.dropLineEnding source) := by
  have hopen : Text.dropPrefix? "---"
      ((joined opening closing matter source).dropWhile (· == '\ufeff'))
      = some (opening.text ++ (matter ++ (dashes ++ (closing.text ++ source)))) := rfl
  unfold split
  rw [hopen]
  dsimp only
  rw [Text.dropLineEnding_append]
  rfl

theorem split_joined_of_isMatter (opening closing : LineEnding) {matter : Text}
    (h : IsMatter matter) (ne : matter ≠ []) (source : Text) :
    ∃ body, matter = body ++ ['\n'] ∧ split (joined opening closing matter source)
      = .ok (body.trimEndWhile (· == '\r'), source) := by
  obtain ⟨body, hbody, hsplit⟩ := splitFirst?_dashes h ne (closing.text ++ source)
  refine ⟨body, hbody, ?_⟩
  rw [split_joined, hsplit]
  dsimp only
  rw [Text.dropLineEnding_append]

theorem split_joined_nil_ne (opening closing : LineEnding) (read source : Text) :
    split (joined opening closing [] source) ≠ .ok (read, source) := by
  intro hread
  rw [split_joined, List.nil_append] at hread
  split at hread
  · contradiction
  · rename_i before after hsplit
    obtain ⟨-, hsource⟩ := Prod.mk.inj (Except.ok.inj hread)
    have hlt := length_lt_of_splitFirst?_dashes hsplit
    have hle := Text.length_dropLineEnding_le after
    rw [hsource] at hle
    omega

/-- Front matter of complete lines that do not begin with dashes is found, together with exactly the
document behind it, if and only if it has a line.  It is then handed on without its last newline and
the carriage returns in front of that. -/
theorem split_joined_iff (opening closing : LineEnding) {matter : Text} (h : IsMatter matter)
    (source : Text) :
    ((∃ read, split (joined opening closing matter source) = .ok (read, source)) ↔ matter ≠ [])
      ∧ ∀ read, split (joined opening closing matter source) = .ok (read, source)
        ↔ read.getLast? ≠ some '\r'
          ∧ ∃ n, matter = read ++ (List.replicate n '\r' ++ ['\n']) := by
  by_cases ne : matter = []
  · have hnone := fun read => split_joined_nil_ne opening closing read source
    rw [ne]
    simp [hnone]
  · obtain ⟨body, rfl, hsplit⟩ := split_joined_of_isMatter opening closing h ne source
    rw [hsplit]
    refine ⟨⟨fun _ => ne, fun _ => ⟨_, rfl⟩⟩, fun read => ?_⟩
    have hlast : (∀ c ∈ read.getLast?, (c == '\r') = false) ↔ read.getLast? ≠ some '\r' := by
      cases read.getLast? <;> simp
    rw [Except.ok.injEq, Prod.mk.injEq, and_iff_left rfl, Text.trimEndWhile_eq_iff, hlast]
    refine and_congr_right fun _ => ⟨?_, ?_⟩
    · rintro ⟨returns, rfl, hreturns⟩
      refine ⟨returns.length, ?_⟩
      rw [← List.eq_replicate_of_mem fun c hc => by simpa using hreturns c hc, List.append_assoc]
    · rintro ⟨n, hn⟩
      rw [← List.append_assoc] at hn
      exact ⟨List.replicate n '\r', List.append_cancel_right hn, by simp⟩

/-- A blank line first and a carriage return last, before a document of a blank line and a rule. -/
theorem split_joined_rule :
    IsMatter "\na = 1\r\n"
      ∧ split (joined .newline .newline "\na = 1\r\n" "\n---\nb\n")
        = .ok ("\na = 1", "\n---\nb\n") := by
  have hlast : IsMatter ("a = 1\r" ++ '\n' :: []) := .line (by decide) (by decide) .nil
  have hmatter : IsMatter ([] ++ '\n' :: ("a = 1\r" ++ '\n' :: [])) :=
    .line (by decide) (by decide) hlast
  exact ⟨hmatter, ((split_joined_iff .newline .newline hmatter _).2 _).mpr ⟨by decide, 1, rfl⟩⟩

/-! ### Front matter without a line -/

/-- Front matter without a line is not found, or some is found that is the document's. -/
theorem split_joined_empty :
    split (joined .newline .newline [] "1. a\n") = .error .unclosed
      ∧ split (joined .newline .newline [] "a\n---\nb\n") = .ok ("---\na", "b\n") := by
  decide

end Fixture

end Weave
