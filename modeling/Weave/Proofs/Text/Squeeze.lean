import Mathlib.Data.List.Infix
import Weave.Proofs.Text.Cut
import Weave.Proofs.Text.Trim

/-!
# Single spaces

The words of a text with single spaces between them are the text with each run of white space as one
space, and none at its ends (`squeeze`).  `squeezeFrom` reads this off from left to right.

* `squeeze_eq` says that the two are the same.
* `squeezeFrom_append_cons` says that a character that is no white space cuts a text in two.
* `squeeze_eq_self_iff` says which texts stay as they are.
-/

namespace Weave.Text

/-- The words of a text with single spaces between. -/
def squeeze (t : Text) : Text := join " " t.words

/-- What a text becomes behind a character, or behind white space that has not been written yet.  At
the end of the text it is not written at all. -/
def squeezeFrom : (spaced : Bool) → Text → Text
  | _, [] => []
  | spaced, c :: t =>
    if isSpace c then squeezeFrom true t
    else if spaced then ' ' :: c :: squeezeFrom false t
    else c :: squeezeFrom false t

theorem squeezeFrom_space {c : Char} (hc : isSpace c = true) (spaced : Bool) (t : Text) :
    squeezeFrom spaced (c :: t) = squeezeFrom true t := by
  rw [squeezeFrom, if_pos hc]

theorem squeezeFrom_char {c : Char} (hc : isSpace c = false) (t : Text) :
    squeezeFrom false (c :: t) = c :: squeezeFrom false t := by
  rw [squeezeFrom, hc]
  rfl

theorem squeezeFrom_true_char {c : Char} (hc : isSpace c = false) (t : Text) :
    squeezeFrom true (c :: t) = ' ' :: squeezeFrom false (c :: t) := by
  rw [squeezeFrom_char hc, squeezeFrom, hc]
  rfl

/-! ## Words with single spaces -/

theorem words_space {c : Char} (hc : isSpace c = true) (t : Text) : words (c :: t) = words t := by
  rw [words, wordsBetween, if_pos hc]
  rfl

/-- A character and white space behind it: the character is a word. -/
theorem words_char_of_head {c : Char} (hc : isSpace c = false) {t : Text}
    (ht : ∀ d ∈ t.head?, isSpace d = true) : words (c :: t) = [c] :: words t := by
  have hnext : (t.head?.any fun d => !isSpace d) = false := by
    cases t with
    | nil => rfl
    | cons d t => simp [ht d rfl]
  rw [words, wordsBetween, hc, hnext]
  rfl

/-- A character in front of a character goes into its word. -/
theorem words_char_char {c d : Char} (hc : isSpace c = false) (hd : isSpace d = false)
    {t w : Text} {ws : List Text} (hw : words (d :: t) = w :: ws) :
    words (c :: d :: t) = (c :: w) :: ws := by
  have hnext : ((d :: t).head?.any fun e => !isSpace e) = true := by simp [hd]
  have hstep : words (c :: d :: t)
      = consWord c ((d :: t).head?.any fun e => !isSpace e) (words (d :: t)) := by
    rw [words, wordsBetween, hc]
    rfl
  rw [hstep, hnext, hw]
  rfl

/-- What is read from left to right are the words: all of them with a space in front, behind white
space, and the first one without it, behind a character of it. -/
theorem squeezeFrom_words (t : Text) :
    squeezeFrom true t = (words t).flatMap (' ' :: ·)
      ∧ ∀ c, isSpace c = false → ∃ w ws, words (c :: t) = w :: ws
        ∧ w ++ ws.flatMap (' ' :: ·) = c :: squeezeFrom false t := by
  induction t with
  | nil =>
      refine ⟨rfl, fun c hc => ⟨[c], [], ?_, rfl⟩⟩
      exact words_char_of_head hc fun d hd => nomatch hd
  | cons d t ih =>
      cases hd : isSpace d with
      | true =>
          rw [squeezeFrom_space hd, squeezeFrom_space hd, words_space hd]
          refine ⟨ih.1, fun c hc => ⟨[c], words t, ?_, by rw [← ih.1]; rfl⟩⟩
          have hhead : ∀ e ∈ (d :: t).head?, isSpace e = true := fun e he => Option.some.inj he ▸ hd
          rw [words_char_of_head hc hhead, words_space hd]
      | false =>
          obtain ⟨w, ws, hwords, hjoin⟩ := ih.2 d hd
          rw [squeezeFrom_true_char hd, squeezeFrom_char hd, hwords]
          refine ⟨?_, fun c hc => ⟨c :: w, ws, words_char_char hc hd hwords, ?_⟩⟩
          · rw [← hjoin]
            rfl
          · rw [← hjoin]
            rfl

/-- Behind a character, the words go on with what is read from left to right. -/
theorem squeeze_cons {c : Char} (hc : isSpace c = false) (t : Text) :
    squeeze (c :: t) = c :: squeezeFrom false t := by
  obtain ⟨w, ws, hwords, hjoin⟩ := (squeezeFrom_words t).2 c hc
  rw [squeeze, hwords, ← hjoin]
  exact join_cons ' ' w ws

theorem squeeze_eq (t : Text) : squeeze t = squeezeFrom false t.trimStart := by
  rw [squeeze, ← words_trimStart]
  cases hstart : t.trimStart with
  | nil => rfl
  | cons c rest =>
      have hc := isSpace_of_trimStart_eq_cons hstart
      rw [squeezeFrom_char hc]
      exact squeeze_cons hc rest

/-! ## Cutting at a character -/

/-- A character that is no white space stays, and what is behind it does not depend on what is in
front of it. -/
theorem exists_squeezeFrom_append_cons {c : Char} (hc : isSpace c = false) (spaced : Bool)
    (s : Text) :
    ∃ front, ∀ t, squeezeFrom spaced (s ++ c :: t) = front ++ c :: squeezeFrom false t := by
  induction s generalizing spaced with
  | nil =>
      cases spaced with
      | false => exact ⟨[], fun t => squeezeFrom_char hc t⟩
      | true =>
          refine ⟨[' '], fun t => ?_⟩
          rw [List.nil_append, squeezeFrom_true_char hc, squeezeFrom_char hc]
          rfl
  | cons d s ih =>
      cases hd : isSpace d with
      | true =>
          obtain ⟨front, hfront⟩ := ih true
          refine ⟨front, fun t => ?_⟩
          rw [List.cons_append, squeezeFrom_space hd, hfront]
      | false =>
          obtain ⟨front, hfront⟩ := ih false
          cases spaced with
          | false =>
              refine ⟨d :: front, fun t => ?_⟩
              rw [List.cons_append, squeezeFrom_char hd, hfront]
              rfl
          | true =>
              refine ⟨' ' :: d :: front, fun t => ?_⟩
              rw [List.cons_append, squeezeFrom_true_char hd, squeezeFrom_char hd, hfront]
              rfl

theorem exists_squeeze_append_cons {c : Char} (hc : isSpace c = false) (s : Text) :
    ∃ front, ∀ t, squeeze (s ++ c :: t) = front ++ c :: squeezeFrom false t := by
  cases hs : s.isAllSpace with
  | true =>
      refine ⟨[], fun t => ?_⟩
      rw [squeeze_eq, trimStart_append_of_isAllSpace hs, trimStart_cons hc, squeezeFrom_char hc]
      rfl
  | false =>
      obtain ⟨front, hfront⟩ := exists_squeezeFrom_append_cons hc false s.trimStart
      refine ⟨front, fun t => ?_⟩
      rw [squeeze_eq, trimStart_append hs, hfront]

/-! ## Texts that stay as they are -/

theorem length_squeezeFrom_le (t : Text) :
    (squeezeFrom true t).length ≤ t.length + 1 ∧ (squeezeFrom false t).length ≤ t.length := by
  induction t with
  | nil => decide
  | cons c t ih =>
      cases hc : isSpace c with
      | true =>
          rw [squeezeFrom_space hc, squeezeFrom_space hc, List.length_cons]
          omega
      | false =>
          rw [squeezeFrom_true_char hc, squeezeFrom_char hc, List.length_cons, List.length_cons,
            List.length_cons]
          omega

theorem length_squeeze_le (t : Text) : (squeeze t).length ≤ t.length := by
  have htrim : t.trimStart.length ≤ t.length := (List.dropWhile_sublist isSpace).length_le
  rw [squeeze_eq]
  exact Nat.le_trans (length_squeezeFrom_le _).2 htrim

/-- The only white space of the text are single spaces. -/
structure SingleSpaced (t : Text) : Prop where
  space : ∀ c ∈ t, isSpace c = true → c = ' '
  single : ¬"  ".toList <:+: t

instance (t : Text) : Decidable (SingleSpaced t) :=
  decidable_of_iff (t.all (fun c => !isSpace c || c == ' ') = true ∧ ¬"  ".toList <:+: t)
    (by simp only [List.all_eq_true, Bool.or_eq_true, Bool.not_eq_true', beq_iff_eq,
          ← Bool.not_eq_true, ← imp_iff_not_or]
        exact ⟨fun h => ⟨h.1, h.2⟩, fun h => ⟨h.space, h.single⟩⟩)

theorem singleSpaced_cons_iff {c : Char} {t : Text} :
    SingleSpaced (c :: t)
      ↔ (isSpace c = true → c = ' ' ∧ t.head? ≠ some ' ') ∧ SingleSpaced t := by
  have hpair : "  ".toList <+: c :: t ↔ c = ' ' ∧ t.head? = some ' ' := by
    show [' ', ' '] <+: c :: t ↔ _
    rw [List.cons_prefix_cons]
    cases t with
    | nil => simp
    | cons d t =>
        rw [List.cons_prefix_cons]
        simp [eq_comm]
  constructor
  · intro h
    refine ⟨fun hc => ?_, ⟨fun d hd => h.space d (List.mem_cons_of_mem c hd), ?_⟩⟩
    · have hspace := h.space c List.mem_cons_self hc
      exact ⟨hspace, fun hhead => h.single (hpair.mpr ⟨hspace, hhead⟩).isInfix⟩
    · exact fun hinfix => h.single (List.infix_cons hinfix)
  · rintro ⟨hc, h⟩
    refine ⟨List.forall_mem_cons.mpr ⟨fun hspace => (hc hspace).1, h.space⟩, fun hinfix => ?_⟩
    rcases List.infix_cons_iff.mp hinfix with hstart | hrest
    · obtain ⟨rfl, hhead⟩ := hpair.mp hstart
      exact (hc rfl).2 hhead
    · exact h.single hrest

/-- Behind a character, a text that does not end in white space stays as it is exactly if it has
single spaces only. -/
theorem squeezeFrom_eq_self_iff {t : Text} (hlast : ∀ c ∈ t.getLast?, isSpace c = false) :
    squeezeFrom false t = t ↔ SingleSpaced t := by
  induction t with
  | nil => exact iff_of_true rfl ⟨by simp, by decide⟩
  | cons c t ih =>
      have hrest := ih fun e he => hlast e (by
        cases t with
        | nil => exact nomatch he
        | cons d t => rwa [List.getLast?_cons_cons])
      rw [singleSpaced_cons_iff]
      cases hc : isSpace c with
      | false => simp [squeezeFrom_char hc, hrest]
      | true =>
          rw [squeezeFrom_space hc]
          cases t with
          | nil => exact absurd (hlast c rfl) (by simp [hc])
          | cons d t =>
              cases hd : isSpace d with
              | true =>
                  -- One of the two is lost, and they are no single space.
                  refine iff_of_false (fun h => ?_) fun h => ?_
                  · have hlength := congrArg List.length h
                    have hle := (length_squeezeFrom_le t).1
                    rw [squeezeFrom_space hd, List.length_cons, List.length_cons] at hlength
                    omega
                  · have hspace := h.2.space d List.mem_cons_self hd
                    exact (h.1 rfl).2 (congrArg some hspace)
              | false =>
                  have hne : d ≠ ' ' := fun h => by
                    rw [h] at hd
                    contradiction
                  rw [squeezeFrom_true_char hd, List.cons.injEq, hrest]
                  simp [hne, eq_comm]

theorem squeeze_eq_self_iff {t : Text} (hfirst : ∀ c ∈ t.head?, isSpace c = false)
    (hlast : ∀ c ∈ t.getLast?, isSpace c = false) : squeeze t = t ↔ SingleSpaced t := by
  rw [← squeezeFrom_eq_self_iff hlast, squeeze_eq]
  cases t with
  | nil => rfl
  | cons c t => rw [trimStart_cons (hfirst c rfl)]

end Weave.Text
