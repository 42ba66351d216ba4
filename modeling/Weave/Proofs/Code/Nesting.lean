import Weave.Proofs.Text.Cut
import Weave.Proofs.Text.Trim
import Weave.Symbol.Signature

/-!
# Reading code by its nesting

A reader of code goes through it character by character in a state (`Nesting`).  `run` is the state
behind a text, and `Along` says of all characters of a text what holds of the state in which each of
them is read.  The two ways to cut at a separator are read off these:

* `splitTop?_eq_some_iff` says that the cut is at the first separator that stands at the top level.
* `pieces_append` cuts off the first piece.

The other way to find the end of a bracket, `closingBracket?`, knows quotes and brackets only.
`Quiet` is what a text must be for it to see what the reader sees: no quote and no bracket in a
comment, and no string that has its own quote escaped.  Then the two go step by step together
(`closingBracket?_cons`), and the bracket that is found is the one behind which no bracket is open
any more (`closingBracket?_of_quiet`).
-/

namespace Weave

namespace Nesting

/-- A quote opens a string. -/
abbrev IsQuote (c : Char) : Prop := c = '\'' ∨ c = '"'

abbrev IsOpening (c : Char) : Prop := c = '(' ∨ c = '[' ∨ c = '\x7b'

abbrev IsClosing (c : Char) : Prop := c = ')' ∨ c = ']' ∨ c = '\x7d'

/-- Code in so many open brackets, outside strings and comments. -/
def code (depth : Int) : Nesting := ⟨depth, none, false, false⟩

/-- The state behind a text. -/
def run (s : Nesting) (t : Text) : Nesting := t.foldl step s

variable {s : Nesting} {c : Char} {t : Text}

@[simp] theorem run_nil (s : Nesting) : s.run [] = s := rfl

@[simp] theorem run_cons (s : Nesting) (c : Char) (t : Text) :
    s.run (c :: t) = (s.step c).run t := rfl

theorem run_append (s : Nesting) (t u : Text) : s.run (t ++ u) = (s.run t).run u := by
  unfold run
  rw [List.foldl_append]

theorem outside_eq : outside = code 0 := rfl

theorem isTop_code (depth : Int) : (code depth).isTop = true ↔ depth = 0 := by
  simp [isTop, code]

/-! ## One character -/

/-- A comment runs to the end of its line. -/
theorem step_of_comment (h : s.comment = true) : s.step c = { s with comment := c != '\n' } := by
  unfold step
  rw [if_pos h]

theorem step_of_quote {q : Char} (hcomment : s.comment = false) (h : s.quote = some q) :
    s.step c = if s.escaped then { s with escaped := false }
      else if c = q then { s with quote := none } else { s with escaped := c == '\\' } := by
  unfold step
  rw [hcomment, h]
  rfl

theorem step_of_code (hcomment : s.comment = false) (h : s.quote = none) :
    s.step c = if IsQuote c then { s with quote := some c }
      else if c = '#' then { s with comment := true }
      else if IsOpening c then { s with depth := s.depth + 1 }
      else if IsClosing c then { s with depth := s.depth - 1 } else s := by
  unfold step
  rw [hcomment, h]
  rfl

/-- The states that reading code leads to: no string is open in a comment. -/
def Sound (s : Nesting) : Prop := s.comment = true → s.quote = none

theorem sound_code (depth : Int) : (code depth).Sound := fun _ => rfl

theorem Sound.step (h : s.Sound) (c : Char) : (s.step c).Sound := by
  unfold Sound at h ⊢
  cases hcomment : s.comment with
  | true =>
      rw [step_of_comment hcomment]
      exact fun _ => h hcomment
  | false =>
      cases hquote : s.quote with
      | some q =>
          rw [step_of_quote hcomment hquote]
          grind
      | none =>
          rw [step_of_code hcomment hquote]
          grind

/-! ## All characters of a text -/

/-- Each character of the text is read in a state that has to do with it as `P` says. -/
def Along (P : Nesting → Char → Prop) : Nesting → Text → Prop
  | _, [] => True
  | s, c :: t => P s c ∧ Along P (s.step c) t

variable {P : Nesting → Char → Prop}

instance decidableAlong [∀ s c, Decidable (P s c)] : (s : Nesting) → (t : Text) →
    Decidable (s.Along P t)
  | _, [] => isTrue trivial
  | s, c :: t =>
    have := decidableAlong (s.step c) t
    inferInstanceAs (Decidable (_ ∧ _))

theorem along_append {u : Text} : s.Along P (t ++ u) ↔ s.Along P t ∧ (s.run t).Along P u := by
  induction t generalizing s with
  | nil => simp [Along]
  | cons c t ih =>
      rw [List.cons_append, Along, Along, run_cons, ih, and_assoc]

/-! ## Separators -/

/-- No separator in the text stands at the top level. -/
abbrev Passes (s : Nesting) (separator : Char) (t : Text) : Prop :=
  s.Along (fun s c => ¬(s.isTop = true ∧ c = separator)) t

/-- The cut is at the first separator at the top level. -/
theorem splitTop?_eq_some_iff {separator : Char} {before after : Text} :
    s.splitTop? separator t = some (before, after)
      ↔ t = before ++ separator :: after ∧ s.Passes separator before
        ∧ (s.run before).isTop = true := by
  induction t generalizing s before with
  | nil => simp [splitTop?]
  | cons c t ih =>
      unfold splitTop?
      by_cases hcut : s.isTop = true ∧ c = separator
      · rw [if_pos hcut]
        cases before with
        | nil => simp [hcut, Along]
        | cons d before =>
            simp only [Option.some.injEq, Prod.mk.injEq, List.cons_append, List.cons.injEq, Along]
            constructor
            · intro h
              exact absurd h.1 (List.cons_ne_nil d before).symm
            · intro h
              exact absurd ⟨hcut.1, h.1.1 ▸ hcut.2⟩ h.2.1.1
      · rw [if_neg hcut, Option.map_eq_some_iff]
        cases before with
        | nil =>
            simp only [Prod.exists, Prod.mk.injEq, List.nil_append, List.cons.injEq, run_nil]
            constructor
            · intro h
              obtain ⟨_, _, _, hnil, _⟩ := h
              exact absurd hnil (List.cons_ne_nil _ _)
            · intro h
              exact absurd ⟨h.2.2, h.1.1⟩ hcut
        | cons d before =>
            simp only [Prod.exists, Prod.mk.injEq, List.cons_append, List.cons.injEq, Along,
              run_cons]
            constructor
            · intro h
              obtain ⟨before', after', hsplit, ⟨hd, rfl⟩, rfl⟩ := h
              obtain ⟨ht, hpasses, htop⟩ := ih.mp hsplit
              subst hd
              exact ⟨⟨rfl, ht⟩, ⟨hcut, hpasses⟩, htop⟩
            · intro h
              obtain ⟨⟨rfl, ht⟩, ⟨-, hpasses⟩, htop⟩ := h
              exact ⟨before, after, ih.mpr ⟨ht, hpasses, htop⟩, ⟨rfl, rfl⟩, rfl⟩

theorem splitTop?_of_passes {separator : Char} (h : s.Passes separator t) :
    s.splitTop? separator t = none := by
  induction t generalizing s with
  | nil => rfl
  | cons c t ih =>
      unfold splitTop?
      rw [if_neg h.1, ih h.2]
      rfl

theorem splitTop?_eq_none_iff {separator : Char} :
    s.splitTop? separator t = none ↔ s.Passes separator t := by
  refine ⟨fun h => ?_, splitTop?_of_passes⟩
  induction t generalizing s with
  | nil => trivial
  | cons c t ih =>
      unfold splitTop? at h
      split at h
      · contradiction
      · rename_i hcut
        exact ⟨hcut, ih (Option.map_eq_none_iff.mp h)⟩

/-- Behind a text without a cut the reader goes on in its own state. -/
theorem splitTop?_append_of_passes {separator : Char} (h : s.Passes separator t) (u : Text) :
    s.splitTop? separator (t ++ u)
      = ((s.run t).splitTop? separator u).map fun (before, after) => (t ++ before, after) := by
  induction t generalizing s with
  | nil => simp
  | cons c t ih =>
      rw [List.cons_append, splitTop?, if_neg h.1, ih h.2, Option.map_map]
      rfl

/-- White space at the end of a text has no part in where it is cut. -/
theorem splitTop?_trimEnd {separator : Char} (h : Text.isSpace separator = false) :
    s.splitTop? separator t.trimEnd
      = (s.splitTop? separator t).map fun (before, after) => (before, after.trimEnd) := by
  cases hcut : s.splitTop? separator t with
  | some parts =>
      obtain ⟨ht, hpasses, htop⟩ := splitTop?_eq_some_iff.mp hcut
      refine splitTop?_eq_some_iff.mpr ⟨?_, hpasses, htop⟩
      rw [ht]
      exact Text.trimEndWhile_append_cons parts.1 h parts.2
  | none =>
      rw [Option.map_none, Option.eq_none_iff_forall_not_mem]
      intro parts hparts
      obtain ⟨htrim, hpasses, htop⟩ := splitTop?_eq_some_iff.mp hparts
      obtain ⟨w, ht, -⟩ := Text.exists_eq_trimEndWhile_append Text.isSpace t
      have hsome : s.splitTop? separator t = some (parts.1, parts.2 ++ w) := by
        refine splitTop?_eq_some_iff.mpr ⟨?_, hpasses, htop⟩
        rw [← List.cons_append, ← List.append_assoc, ← htrim]
        exact ht
      rw [hcut] at hsome
      contradiction

theorem pieces_of_passes {separator : Char} (h : s.Passes separator t) :
    s.pieces separator t = [t] := by
  induction t generalizing s with
  | nil => rfl
  | cons c t ih =>
      unfold pieces
      rw [if_neg h.1, ih h.2]

/-- The first piece goes up to the first separator at the top level. -/
theorem pieces_append {separator : Char} (h : s.Passes separator t) (htop : (s.run t).isTop = true)
    (more : Text) :
    s.pieces separator (t ++ separator :: more) = t :: (s.run t).pieces separator more := by
  induction t generalizing s with
  | nil =>
      rw [List.nil_append, pieces, if_pos ⟨htop, rfl⟩]
      rfl
  | cons c t ih =>
      rw [List.cons_append, pieces, if_neg h.1, ih h.2 htop]
      rfl

theorem pieces_ne_nil (separator : Char) (s : Nesting) (t : Text) :
    s.pieces separator t ≠ [] := by
  cases t with
  | nil => simp [pieces]
  | cons c t =>
      rw [pieces]
      split
      · simp
      · split <;> simp

/-- The pieces with the separator between them are the text. -/
theorem join_pieces (separator : Char) (s : Nesting) (t : Text) :
    Text.join [separator] (s.pieces separator t) = t := by
  induction t generalizing s with
  | nil => rfl
  | cons c t ih =>
      rw [pieces]
      split
      next h =>
        have hrest := ih s
        obtain ⟨piece, pieces, hpieces⟩ := List.exists_cons_of_ne_nil (pieces_ne_nil separator s t)
        rw [hpieces, Text.join_cons] at hrest
        rw [hpieces, Text.join_cons, List.flatMap_cons, List.cons_append, hrest, h.2]
        rfl
      next =>
        have hrest := ih (s.step c)
        obtain ⟨piece, pieces, hpieces⟩ :=
          List.exists_cons_of_ne_nil (pieces_ne_nil separator (s.step c) t)
        rw [hpieces, Text.join_cons] at hrest
        rw [hpieces]
        dsimp only
        rw [Text.join_cons, List.cons_append, hrest]

/-! ## Closing brackets -/

/-- A character that is not mistaken for another one by a reader without comments and escapes. -/
def QuietAt (s : Nesting) (c : Char) : Prop :=
  (s.comment = true → ¬IsQuote c ∧ ¬IsOpening c ∧ ¬IsClosing c)
    ∧ (s.escaped = true → s.quote ≠ some c)

instance (s : Nesting) (c : Char) : Decidable (s.QuietAt c) :=
  inferInstanceAs (Decidable (_ ∧ _))

/-- A text with no quote and no bracket in a comment, and no string that has its own quote
escaped. -/
abbrev Quiet (s : Nesting) (t : Text) : Prop := s.Along QuietAt t

/-- A bracket is open in front of each character of the text. -/
abbrev StaysOpen (s : Nesting) (t : Text) : Prop := s.Along (fun s _ => s.depth ≠ 0) t

theorem closingBracket?_some_cons (q : Char) (depth : Int) (c : Char) (t : Text) :
    closingBracket? (some q) depth (c :: t)
      = (closingBracket? (if c = q then none else some q) depth t).map
          fun (before, after) => (c :: before, after) := rfl

theorem closingBracket?_none_cons (depth : Int) (c : Char) (t : Text) :
    closingBracket? none depth (c :: t)
      = let next (quote : Option Char) (depth : Int) :=
          (closingBracket? quote depth t).map fun (before, after) => (c :: before, after)
        if IsQuote c then next (some c) depth
        else if IsOpening c then next none (depth + 1)
        else if IsClosing c then if depth = 1 then some ([], t) else next none (depth - 1)
        else next none depth := rfl

/-- What is taken up to a closing bracket begins the text. -/
theorem isPrefix_of_closingBracket? {quote : Option Char} {depth : Int} {t before after : Text}
    (h : closingBracket? quote depth t = some (before, after)) : before <+: t := by
  induction t generalizing quote depth before with
  | nil => contradiction
  | cons c t ih =>
      have hnext : ∀ {quote depth},
          (closingBracket? quote depth t).map (fun (before, after) => (c :: before, after))
            = some (before, after) → before <+: c :: t := by
        intro quote depth hmap
        obtain ⟨⟨inner, rest⟩, hinner, heq⟩ := Option.map_eq_some_iff.mp hmap
        obtain ⟨rfl, rfl⟩ := Prod.mk.inj heq
        exact List.cons_prefix_cons.mpr ⟨rfl, ih hinner⟩
      cases quote with
      | some q =>
          rw [closingBracket?_some_cons] at h
          exact hnext h
      | none =>
          rw [closingBracket?_none_cons] at h
          dsimp only at h
          split at h
          · exact hnext h
          · split at h
            · exact hnext h
            · split at h
              · split at h
                · obtain ⟨rfl, -⟩ := Prod.mk.inj (Option.some.inj h)
                  exact List.nil_prefix
                · exact hnext h
              · exact hnext h

/-- The two readers take a quiet character together. -/
theorem closingBracket?_cons (hsound : s.Sound) (hquiet : s.QuietAt c)
    (hopen : (s.step c).depth ≠ 0) (t : Text) :
    closingBracket? s.quote s.depth (c :: t)
      = (closingBracket? (s.step c).quote (s.step c).depth t).map
          fun (before, after) => (c :: before, after) := by
  cases hcomment : s.comment with
  | true =>
      obtain ⟨hquote, hopening, hclosing⟩ := hquiet.1 hcomment
      rw [step_of_comment hcomment, hsound hcomment, closingBracket?_none_cons]
      dsimp only
      rw [if_neg hquote, if_neg hopening, if_neg hclosing]
  | false =>
      cases hquote : s.quote with
      | some q =>
          rw [step_of_quote hcomment hquote, closingBracket?_some_cons]
          cases hescaped : s.escaped with
          | true =>
              have hne : c ≠ q := fun h => hquiet.2 hescaped (h ▸ hquote)
              rw [if_neg hne, if_pos rfl, hquote]
          | false =>
              rw [if_neg Bool.false_ne_true]
              split
              · rfl
              · rw [hquote]
      | none =>
          rw [step_of_code hcomment hquote] at hopen ⊢
          rw [closingBracket?_none_cons]
          dsimp only
          by_cases hmark : IsQuote c
          · rw [if_pos hmark, if_pos hmark]
          rw [if_neg hmark] at hopen ⊢
          rw [if_neg hmark]
          by_cases hhash : c = '#'
          · subst hhash
            rw [if_pos rfl, hquote, if_neg (by decide), if_neg (by decide)]
          rw [if_neg hhash] at hopen ⊢
          by_cases hopening : IsOpening c
          · rw [if_pos hopening, if_pos hopening, hquote]
          rw [if_neg hopening] at hopen ⊢
          rw [if_neg hopening]
          by_cases hclosing : IsClosing c
          · rw [if_pos hclosing] at hopen
            have hne : s.depth ≠ 1 := fun h => hopen (by simp [h])
            rw [if_pos hclosing, if_pos hclosing, if_neg hne, hquote]
          · rw [if_neg hclosing, if_neg hclosing, hquote]

/-- A step behind which no bracket is open is that of the bracket that closes the last one. -/
theorem closing_of_step (hpos : 0 < s.depth) (hzero : (s.step c).depth = 0) :
    s.comment = false ∧ s.quote = none ∧ s.depth = 1 ∧ IsClosing c := by
  cases hcomment : s.comment with
  | true =>
      rw [step_of_comment hcomment] at hzero
      exact absurd hzero (Int.ne_of_gt hpos)
  | false =>
      cases hquote : s.quote with
      | some q =>
          rw [step_of_quote hcomment hquote] at hzero
          have : s.depth = 0 := by grind
          omega
      | none =>
          rw [step_of_code hcomment hquote] at hzero
          have : s.depth = 1 ∧ IsClosing c := by grind
          exact ⟨rfl, rfl, this⟩

/-- A text behind which no bracket is open has a first character behind which none is. -/
theorem exists_first_zero (hopen : s.depth ≠ 0) (hzero : (s.run t).depth = 0) :
    ∃ inner c after, t = inner ++ c :: after ∧ s.StaysOpen (inner ++ [c])
      ∧ (s.run (inner ++ [c])).depth = 0 := by
  induction t generalizing s with
  | nil => exact absurd hzero hopen
  | cons c t ih =>
      by_cases hnow : (s.step c).depth = 0
      · exact ⟨[], c, t, rfl, ⟨hopen, trivial⟩, hnow⟩
      · obtain ⟨inner, d, after, rfl, hstays, hlast⟩ := ih hnow hzero
        exact ⟨c :: inner, d, after, rfl, ⟨hopen, hstays⟩, hlast⟩

/-- In a quiet text both readers find the same closing bracket. -/
theorem closingBracket?_of_quiet {inner after : Text} (hsound : s.Sound) (hpos : 0 < s.depth)
    (hopen : s.StaysOpen (inner ++ [c])) (hzero : (s.run (inner ++ [c])).depth = 0)
    (hquiet : s.Quiet inner) :
    closingBracket? s.quote s.depth (inner ++ c :: after) = some (inner, after) := by
  induction inner generalizing s with
  | nil =>
      obtain ⟨-, hquote, hdepth, hclosing⟩ := closing_of_step hpos hzero
      have hnoQuote : ¬IsQuote c := by grind
      have hnoOpening : ¬IsOpening c := by grind
      rw [List.nil_append, hquote, hdepth, closingBracket?_none_cons]
      dsimp only
      rw [if_neg hnoQuote, if_neg hnoOpening, if_pos hclosing, if_pos rfl]
  | cons d inner ih =>
      have hnext : (s.step d).depth ≠ 0 := by
        have hstays := hopen.2
        cases inner with
        | nil => exact hstays.1
        | cons e inner => exact hstays.1
      have hstays : 0 < (s.step d).depth := by
        have hdown : s.depth - 1 ≤ (s.step d).depth := by
          unfold step
          grind
        omega
      rw [List.cons_append, closingBracket?_cons hsound hquiet.1 hnext,
        ih (hsound.step d) hstays hopen.2 hzero hquiet.2]
      rfl

end Nesting

end Weave
