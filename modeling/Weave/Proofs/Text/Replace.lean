import Weave.Proofs.Text.Cut

/-!
# Replacements

A replacement goes over a text from left to right: an occurrence that begins here is replaced as a
whole, and any other character stays.  `replace_induction` takes a text apart in this way, and the
lemmas follow it.

* `replace_append_cons` says that a character outside the pattern cuts a replacement in two.
* `length_replace_lt` says that a shorter replacement is seen in the length.

`replaceAll` makes several replacements in turn.  `length_replaceAll_eq_iff` says that they leave a
text as long as it was exactly if none of their patterns occurs in it, and so as it was
(`replaceAll_eq_self`).
-/

namespace Weave.Text

variable {pattern replacement : Text}

theorem startsWith_eq_true_iff {t start : Text} : startsWith t start = true ↔ start <+: t := by
  rw [startsWith, Option.isSome_iff_exists]
  constructor
  · intro h
    obtain ⟨rest, hrest⟩ := h
    exact ⟨rest, (dropPrefix?_eq_some_iff.mp hrest).symm⟩
  · intro h
    obtain ⟨rest, hrest⟩ := h
    exact ⟨rest, dropPrefix?_eq_some_iff.mpr hrest.symm⟩

/-! ## One replacement -/

theorem replaceFrom_eq (skip : Nat) (t : Text) :
    replaceFrom pattern replacement skip t = replace (t.drop skip) pattern replacement := by
  induction skip generalizing t with
  | zero => rfl
  | succ skip ih =>
      cases t with
      | nil => rfl
      | cons c t => exact ih t

/-- An occurrence at the start is replaced, and the replacement goes on behind it. -/
theorem replace_append (hne : pattern ≠ []) (t : Text) :
    replace (pattern ++ t) pattern replacement
      = replacement ++ replace t pattern replacement := by
  obtain ⟨c, rest, rfl⟩ := List.exists_cons_of_ne_nil hne
  have hstarts : startsWith (c :: (rest ++ t)) (c :: rest) = true :=
    startsWith_eq_true_iff.mpr ⟨t, rfl⟩
  have hskip : replaceFrom (c :: rest) replacement rest.length (rest ++ t)
      = replace t (c :: rest) replacement := by
    rw [replaceFrom_eq, List.drop_left]
  show replaceFrom (c :: rest) replacement 0 (c :: (rest ++ t)) = _
  rw [replaceFrom, if_pos hstarts]
  exact congrArg (replacement ++ ·) hskip

/-- A character at which no occurrence begins stays. -/
theorem replace_cons {c : Char} {t : Text} (h : ¬pattern <+: c :: t) :
    replace (c :: t) pattern replacement = c :: replace t pattern replacement := by
  have hstarts : ¬startsWith (c :: t) pattern = true := fun hs => h (startsWith_eq_true_iff.mp hs)
  rw [replace, replaceFrom, if_neg hstarts]
  rfl

/-- A text is taken apart from left to right into the occurrences of a pattern and the characters
between them. -/
theorem replace_induction (hne : pattern ≠ []) {P : Text → Prop} (nil : P [])
    (found : ∀ t, P t → P (pattern ++ t)) (kept : ∀ c t, ¬pattern <+: c :: t → P t → P (c :: t))
    (t : Text) : P t := by
  induction hlength : t.length using Nat.strongRecOn generalizing t with
  | ind n ih =>
    cases t with
    | nil => exact nil
    | cons c t =>
        by_cases hstarts : pattern <+: c :: t
        · obtain ⟨rest, hrest⟩ := hstarts
          have hpos : 0 < pattern.length := List.length_pos_iff.mpr hne
          have hshorter : rest.length < n := by
            rw [← hlength, ← hrest, List.length_append]
            omega
          rw [← hrest]
          exact found rest (ih _ hshorter rest rfl)
        · have hshorter : t.length < n := by
            rw [← hlength, List.length_cons]
            omega
          exact kept c t hstarts (ih _ hshorter t rfl)

/-- A prefix ends in front of a character that it does not have. -/
theorem isPrefix_of_isPrefix_append_cons {s t : Text} {c : Char} (hc : c ∉ pattern)
    (h : pattern <+: s ++ c :: t) : pattern <+: s := by
  rcases List.prefix_or_prefix_of_prefix h (List.prefix_append s (c :: t)) with hshort | hlong
  · exact hshort
  · obtain ⟨rest, rfl⟩ := hlong
    cases rest with
    | nil => simp
    | cons d rest =>
        have hrest := (List.prefix_append_right_inj s).mp h
        obtain rfl : d = c := (List.cons_prefix_cons.mp hrest).1
        exact absurd (List.mem_append_right s List.mem_cons_self) hc

/-- A character outside the pattern stays, and what stands on its two sides is replaced apart. -/
theorem replace_append_cons {c : Char} (hne : pattern ≠ []) (hc : c ∉ pattern) (s t : Text) :
    replace (s ++ c :: t) pattern replacement
      = replace s pattern replacement ++ c :: replace t pattern replacement := by
  induction s using replace_induction hne with
  | nil =>
      have hstart : ¬pattern <+: c :: t := fun h =>
        hne (List.prefix_nil.mp (isPrefix_of_isPrefix_append_cons (s := []) hc h))
      exact replace_cons hstart
  | found s ih =>
      rw [List.append_assoc, replace_append hne, replace_append hne, ih, List.append_assoc]
  | kept d s hd ih =>
      have hstart : ¬pattern <+: d :: (s ++ c :: t) := fun h =>
        hd (isPrefix_of_isPrefix_append_cons (s := d :: s) hc h)
      rw [List.cons_append, replace_cons hstart, replace_cons hd, ih]
      rfl

/-- A text without an occurrence stays as it is. -/
theorem replace_eq_self {t : Text} (h : ¬pattern <:+: t) : replace t pattern replacement = t := by
  induction t with
  | nil => rfl
  | cons c t ih =>
      have hstart : ¬pattern <+: c :: t := fun hp => h hp.isInfix
      have hrest : ¬pattern <:+: t := fun hi => h (List.infix_cons hi)
      rw [replace_cons hstart, ih hrest]

section Shorter

variable (hlength : replacement.length < pattern.length)

include hlength

theorem ne_nil_of_length_lt : pattern ≠ [] := by
  rintro rfl
  simp at hlength

theorem length_replace_le (t : Text) : (replace t pattern replacement).length ≤ t.length := by
  have hne := ne_nil_of_length_lt hlength
  induction t using replace_induction hne with
  | nil => exact Nat.le_refl _
  | found t ih =>
      rw [replace_append hne, List.length_append, List.length_append]
      omega
  | kept c t hc ih =>
      rw [replace_cons hc, List.length_cons, List.length_cons]
      omega

/-- A shorter replacement makes every text with an occurrence shorter. -/
theorem length_replace_lt {t : Text} (h : pattern <:+: t) :
    (replace t pattern replacement).length < t.length := by
  have hne := ne_nil_of_length_lt hlength
  induction t using replace_induction hne with
  | nil => exact absurd (List.infix_nil.mp h) hne
  | found t _ =>
      have hrest := length_replace_le hlength t
      rw [replace_append hne, List.length_append, List.length_append]
      omega
  | kept c t hc ih =>
      have hrest := ih ((List.infix_cons_iff.mp h).resolve_left hc)
      rw [replace_cons hc, List.length_cons, List.length_cons]
      omega

end Shorter

/-! ## Replacements in turn -/

/-- The text after all replacements of a list of patterns with what they become, one after the
other. -/
def replaceAll (rules : List (Text × Text)) (t : Text) : Text :=
  rules.foldl (fun t rule => t.replace rule.1 rule.2) t

/-- Every pattern becomes shorter. -/
def Shortens (rules : List (Text × Text)) : Prop :=
  ∀ rule ∈ rules, rule.2.length < rule.1.length

section Rules

variable {rules : List (Text × Text)}

/-- A character outside all patterns cuts the replacements in two. -/
theorem replaceAll_append_cons (h : Shortens rules) {c : Char} (hc : ∀ rule ∈ rules, c ∉ rule.1)
    (s t : Text) :
    replaceAll rules (s ++ c :: t) = replaceAll rules s ++ c :: replaceAll rules t := by
  induction rules generalizing s t with
  | nil => rfl
  | cons rule rules ih =>
      obtain ⟨hrule, hrules⟩ := List.forall_mem_cons.mp h
      obtain ⟨hfree, hfrees⟩ := List.forall_mem_cons.mp hc
      show replaceAll rules ((s ++ c :: t).replace rule.1 rule.2) = _
      rw [replace_append_cons (ne_nil_of_length_lt hrule) hfree]
      exact ih hrules hfrees _ _

theorem replaceAll_eq_self {t : Text} (h : ∀ rule ∈ rules, ¬rule.1 <:+: t) :
    replaceAll rules t = t := by
  induction rules with
  | nil => rfl
  | cons rule rules ih =>
      obtain ⟨hrule, hrules⟩ := List.forall_mem_cons.mp h
      show replaceAll rules (t.replace rule.1 rule.2) = t
      rw [replace_eq_self hrule]
      exact ih hrules

theorem length_replaceAll_le (h : Shortens rules) (t : Text) :
    (replaceAll rules t).length ≤ t.length := by
  induction rules generalizing t with
  | nil => exact Nat.le_refl _
  | cons rule rules ih =>
      obtain ⟨hrule, hrules⟩ := List.forall_mem_cons.mp h
      exact Nat.le_trans (ih hrules _) (length_replace_le hrule t)

/-- No replacement of a list of shortening ones is made exactly if the text keeps its length. -/
theorem length_replaceAll_eq_iff (h : Shortens rules) {t : Text} :
    (replaceAll rules t).length = t.length ↔ ∀ rule ∈ rules, ¬rule.1 <:+: t := by
  refine ⟨fun hlength => ?_, fun hfree => by rw [replaceAll_eq_self hfree]⟩
  induction rules with
  | nil => simp
  | cons rule rules ih =>
      obtain ⟨hrule, hrules⟩ := List.forall_mem_cons.mp h
      have hlater : (replaceAll rules (t.replace rule.1 rule.2)).length = t.length := hlength
      have hle := length_replaceAll_le hrules (t.replace rule.1 rule.2)
      -- Nothing after this replacement makes up for what it took away.
      have hfree : ¬rule.1 <:+: t := fun hoccurs => by
        have hlt := length_replace_lt hrule hoccurs
        omega
      rw [replace_eq_self hfree] at hlater
      exact List.forall_mem_cons.mpr ⟨hfree, ih hrules hlater⟩

end Rules

end Weave.Text
