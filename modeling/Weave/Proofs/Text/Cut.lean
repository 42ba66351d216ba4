import Weave.Text.Basic

/-!
# Cuts of a text

Prefixes and suffixes are taken off, and offsets are counted in bytes.  Every lemma here turns a
reader into an equation between texts: `dropPrefix?` answers the rest behind a prefix,
`splitFirst?` the parts around an occurrence, `splitOn` the pieces between separators,
`splitAtByte?` the two parts around an offset, and `slice?` the part between two offsets.
-/

namespace Weave.Text

/-! ## Prefixes, suffixes and occurrences -/

@[simp] theorem dropPrefix?_append (start rest : Text) :
    dropPrefix? start (start ++ rest) = some rest := by
  induction start with
  | nil =>
      rw [List.nil_append]
      unfold dropPrefix?
      rfl
  | cons c start ih =>
      rw [List.cons_append]
      unfold dropPrefix?
      rw [if_pos rfl]
      exact ih

theorem dropPrefix?_eq_some_iff {start t rest : Text} :
    dropPrefix? start t = some rest ↔ t = start ++ rest := by
  constructor
  · intro h
    induction start generalizing t with
    | nil =>
        unfold dropPrefix? at h
        exact Option.some.inj h
    | cons p start ih =>
        cases t with
        | nil => contradiction
        | cons c t =>
            unfold dropPrefix? at h
            by_cases hpc : p = c
            · rw [if_pos hpc] at h
              rw [ih h, hpc, List.cons_append]
            · rw [if_neg hpc] at h
              contradiction
  · intro h
    rw [h]
    exact dropPrefix?_append start rest

theorem ne_append_of_dropPrefix?_eq_none {start t : Text} (h : dropPrefix? start t = none)
    (rest : Text) : t ≠ start ++ rest := by
  intro ht
  rw [ht, dropPrefix?_append] at h
  contradiction

theorem startsWith_singleton_iff {c : Char} {t : Text} :
    startsWith t [c] = true ↔ t.head? = some c := by
  cases t with
  | nil => simp [startsWith, dropPrefix?]
  | cons d t =>
      by_cases h : c = d
      · simp [startsWith, dropPrefix?, h]
      · simp [startsWith, dropPrefix?, h, Ne.symm h]

/-- What a prefix is taken off may go on with a character that the prefix does not have. -/
theorem dropPrefix?_append_right {start t more : Text} (h : ∀ c ∈ more.head?, c ∉ start) :
    dropPrefix? start (t ++ more) = (dropPrefix? start t).map (· ++ more) := by
  induction start generalizing t with
  | nil =>
      unfold dropPrefix?
      rfl
  | cons p start ih =>
      cases t with
      | nil =>
          cases more with
          | nil => rfl
          | cons c more =>
              have hpc : p ≠ c := fun hpc => h c rfl (hpc ▸ List.mem_cons_self)
              have hdrop : dropPrefix? (p :: start) (c :: more) = none := by
                rw [dropPrefix?, if_neg hpc]
              rw [List.nil_append, hdrop]
              rfl
      | cons c t =>
          have hrest := @ih t fun d hd hmem => h d hd (List.mem_cons_of_mem p hmem)
          rw [List.cons_append, dropPrefix?, dropPrefix?]
          split
          · exact hrest
          · rfl

theorem dropSuffix?_eq_some_iff {tail t kept : Text} :
    dropSuffix? tail t = some kept ↔ t = kept ++ tail := by
  unfold dropSuffix?
  rw [Option.map_eq_some_iff]
  constructor
  · rintro ⟨rest, hrest, rfl⟩
    have hreverse := dropPrefix?_eq_some_iff.mp hrest
    rw [← List.reverse_reverse t, hreverse, List.reverse_append, List.reverse_reverse]
  · intro h
    refine ⟨kept.reverse, dropPrefix?_eq_some_iff.mpr ?_, List.reverse_reverse kept⟩
    rw [h, List.reverse_append]

/-- The first occurrence of a needle is the one in front of which there is none. -/
theorem splitFirst?_eq_some_iff {needle t before after : Text} :
    splitFirst? needle t = some (before, after)
      ↔ t = before ++ (needle ++ after)
        ∧ ∀ start, start ++ needle <+: t → before.length ≤ start.length := by
  induction t generalizing before with
  | nil =>
      unfold splitFirst?
      cases needle with
      | nil => cases before <;> simp [eq_comm]
      | cons c needle => simp
  | cons c t ih =>
      unfold splitFirst?
      cases hdrop : dropPrefix? needle (c :: t) with
      | some rest =>
          have hct := dropPrefix?_eq_some_iff.mp hdrop
          simp only [Option.some.injEq, Prod.mk.injEq]
          constructor
          · rintro ⟨rfl, rfl⟩
            exact ⟨hct, fun start _ => Nat.zero_le _⟩
          · rintro ⟨ht, hfirst⟩
            have hlength := hfirst [] (hct ▸ List.prefix_append needle rest)
            obtain rfl := List.length_eq_zero_iff.mp (Nat.le_zero.mp hlength)
            exact ⟨rfl, List.append_cancel_left (hct.symm.trans ht)⟩
      | none =>
          simp only [Option.map_eq_some_iff, Prod.exists, Prod.mk.injEq]
          constructor
          · rintro ⟨before, after, hsplit, rfl, rfl⟩
            obtain ⟨rfl, hfirst⟩ := ih.mp hsplit
            refine ⟨rfl, fun start hstart => ?_⟩
            cases start with
            | nil =>
                obtain ⟨rest, hrest⟩ := hstart
                exact absurd hrest.symm (ne_append_of_dropPrefix?_eq_none hdrop rest)
            | cons d start =>
                exact Nat.succ_le_succ (hfirst start (List.cons_prefix_cons.mp hstart).2)
          · rintro ⟨ht, hfirst⟩
            cases before with
            | nil => exact absurd ht (ne_append_of_dropPrefix?_eq_none hdrop after)
            | cons d before =>
                obtain ⟨rfl, rfl⟩ := List.cons.inj ht
                refine ⟨before, after, ih.mpr ⟨rfl, fun start hstart => ?_⟩, rfl, rfl⟩
                have hcons := hfirst (c :: start) (List.cons_prefix_cons.mpr ⟨rfl, hstart⟩)
                exact Nat.le_of_succ_le_succ hcons

/-- A needle that is not in a text is found behind it, unless it can begin in the last character. -/
theorem splitFirst?_concat_append {needle body : Text} {c : Char} (hc : c ∉ needle)
    (h : splitFirst? needle (body ++ [c]) = none) (more : Text) :
    splitFirst? needle (body ++ c :: more)
      = (splitFirst? needle more).map fun (before, after) => (body ++ c :: before, after) := by
  induction body with
  | nil =>
      have hdrop : dropPrefix? needle (c :: more) = none := by
        cases needle with
        | nil => contradiction
        | cons d needle =>
            have hdc : d ≠ c := fun hdc => hc (hdc ▸ List.mem_cons_self)
            rw [dropPrefix?, if_neg hdc]
      rw [List.nil_append, splitFirst?, hdrop]
      rfl
  | cons d body ih =>
      have hlast : ∀ more, ∀ e ∈ (c :: more).head?, e ∉ needle := by
        intro more e he
        rw [← Option.some.inj he]
        exact hc
      rw [List.cons_append, splitFirst?, ← List.cons_append,
        dropPrefix?_append_right (hlast [])] at h
      rw [List.cons_append, splitFirst?, ← List.cons_append, dropPrefix?_append_right (hlast more)]
      cases hdrop : dropPrefix? needle (d :: body) with
      | some rest =>
          rw [hdrop] at h
          contradiction
      | none =>
          rw [hdrop] at h
          rw [Option.map_none]
          dsimp only
          rw [ih (Option.map_eq_none_iff.mp h), Option.map_map]
          rfl

/-- A needle is found behind a text without its first character. -/
theorem splitFirst?_append_of_head_notMem {c : Char} {needle body : Text} (hc : c ∉ body)
    (more : Text) :
    splitFirst? (c :: needle) (body ++ more)
      = (splitFirst? (c :: needle) more).map fun (before, after) => (body ++ before, after) := by
  induction body with
  | nil => simp
  | cons d body ih =>
      rw [List.mem_cons, not_or] at hc
      rw [List.cons_append, splitFirst?, dropPrefix?, if_neg hc.1]
      dsimp only
      rw [ih hc.2, Option.map_map]
      rfl

/-- The first occurrence of a character is the one that has none before it. -/
theorem splitFirst?_singleton_eq_some_iff {c : Char} {t before after : Text} :
    splitFirst? [c] t = some (before, after) ↔ t = before ++ c :: after ∧ c ∉ before := by
  rw [splitFirst?_eq_some_iff]
  refine and_congr_right fun ht => ⟨fun hfirst hc => ?_, fun hfree start hstart => ?_⟩
  · obtain ⟨u, v, rfl⟩ := List.append_of_mem hc
    have hlength := hfirst u ⟨v ++ c :: after, by simp [ht]⟩
    rw [List.length_append, List.length_cons] at hlength
    omega
  · rcases Nat.lt_or_ge start.length before.length with hlt | hge
    · have hbefore : before <+: t := ht ▸ List.prefix_append before ([c] ++ after)
      have hlength : (start ++ [c]).length ≤ before.length := by
        rw [List.length_append]
        exact hlt
      have hinside := List.prefix_of_prefix_length_le hstart hbefore hlength
      exact absurd (hinside.subset (by simp)) hfree
    · exact hge

theorem splitFirst?_singleton_eq_none_iff {c : Char} {t : Text} :
    splitFirst? [c] t = none ↔ c ∉ t := by
  rw [Option.eq_none_iff_forall_not_mem]
  constructor
  · intro h hc
    obtain ⟨before, after, ht, hfree⟩ := List.eq_append_cons_of_mem hc
    exact h _ (splitFirst?_singleton_eq_some_iff.mpr ⟨ht, hfree⟩)
  · rintro hc ⟨before, after⟩ hsplit
    rw [(splitFirst?_singleton_eq_some_iff.mp hsplit).1] at hc
    simp at hc

/-- The last occurrence of a character is the one that has none behind it. -/
theorem splitLast?_singleton_eq_some_iff {c : Char} {t before after : Text} :
    splitLast? [c] t = some (before, after) ↔ t = before ++ c :: after ∧ c ∉ after := by
  unfold splitLast?
  rw [List.reverse_singleton, Option.map_eq_some_iff]
  constructor
  · rintro ⟨⟨after', before'⟩, hsplit, hpair⟩
    obtain ⟨rfl, rfl⟩ := Prod.mk.inj hpair
    obtain ⟨ht, hfree⟩ := splitFirst?_singleton_eq_some_iff.mp hsplit
    rw [List.mem_reverse]
    refine ⟨?_, hfree⟩
    rw [← List.reverse_reverse t, ht]
    simp
  · rintro ⟨rfl, hfree⟩
    refine ⟨(after.reverse, before.reverse), ?_, by simp⟩
    rw [splitFirst?_singleton_eq_some_iff, List.mem_reverse]
    exact ⟨by simp, hfree⟩

/-! ## Pieces -/

theorem splitOn_ne_nil (c : Char) (t : Text) : splitOn c t ≠ [] := by
  cases t with
  | nil => simp [splitOn]
  | cons d t =>
      rw [splitOn]
      split
      · simp
      · split <;> simp

/-- A join by single characters: each text but the first stands behind one. -/
theorem join_cons (c : Char) (t : Text) (ts : List Text) :
    join [c] (t :: ts) = t ++ ts.flatMap (c :: ·) := by
  induction ts generalizing t with
  | nil => simp [join]
  | cons u ts ih =>
      have hjoin : join [c] (t :: u :: ts) = t ++ [c] ++ join [c] (u :: ts) := rfl
      rw [hjoin, ih, List.flatMap_cons, List.append_assoc]
      rfl

/-- The pieces with the separator between them are the text. -/
theorem join_splitOn (c : Char) (t : Text) : join [c] (splitOn c t) = t := by
  induction t with
  | nil => rfl
  | cons d t ih =>
      obtain ⟨piece, pieces, hpieces⟩ := List.exists_cons_of_ne_nil (splitOn_ne_nil c t)
      rw [hpieces, join_cons] at ih
      rw [splitOn, hpieces]
      by_cases hd : d = c
      · rw [if_pos hd, join_cons, List.flatMap_cons, List.cons_append, ih, hd]
        rfl
      · rw [if_neg hd]
        dsimp only
        rw [join_cons, List.cons_append, ih]

/-- Each text of a join is in it. -/
theorem isInfix_join {c : Char} {t : Text} {ts : List Text} (h : t ∈ ts) :
    t <:+: join [c] ts := by
  induction ts with
  | nil => contradiction
  | cons u ts ih =>
      rw [join_cons]
      rcases List.mem_cons.mp h with rfl | hrest
      · exact (List.prefix_append _ _).isInfix
      · obtain ⟨front, back, rfl⟩ := List.append_of_mem hrest
        exact ⟨u ++ front.flatMap (c :: ·) ++ [c], back.flatMap (c :: ·), by simp⟩

/-! ## Offsets -/

theorem byteLength_pos {c : Char} {t : Text} : 0 < byteLength (c :: t) := by
  have hc := c.utf8Size_pos
  rw [byteLength_cons]
  omega

/-- A text splits at the end of each of its prefixes. -/
@[simp] theorem splitAtByte?_append (before after : Text) :
    splitAtByte? (before ++ after) (byteLength before) = some (before, after) := by
  induction before with
  | nil =>
      unfold splitAtByte?
      cases after <;> rfl
  | cons c before ih =>
      have hc := c.utf8Size_pos
      obtain ⟨n, hn⟩ : ∃ n, byteLength (c :: before) = n + 1 :=
        Nat.exists_eq_succ_of_ne_zero (Nat.ne_of_gt byteLength_pos)
      have hrest : n + 1 - c.utf8Size = byteLength before := by
        rw [byteLength_cons] at hn
        omega
      have hle : c.utf8Size ≤ n + 1 := by
        rw [byteLength_cons] at hn
        omega
      rw [hn, List.cons_append]
      unfold splitAtByte?
      rw [if_pos hle, hrest, ih]
      rfl

theorem splitAtByte?_eq_some_iff {t before after : Text} {n : Nat} :
    splitAtByte? t n = some (before, after) ↔ t = before ++ after ∧ byteLength before = n := by
  constructor
  · intro h
    induction t generalizing n before with
    | nil =>
        cases n with
        | zero =>
            unfold splitAtByte? at h
            cases h
            exact ⟨rfl, rfl⟩
        | succ n => contradiction
    | cons c t ih =>
        cases n with
        | zero =>
            unfold splitAtByte? at h
            cases h
            exact ⟨rfl, rfl⟩
        | succ n =>
            unfold splitAtByte? at h
            by_cases hle : c.utf8Size ≤ n + 1
            · rw [if_pos hle, Option.map_eq_some_iff] at h
              obtain ⟨⟨left, right⟩, hsplit, hpair⟩ := h
              cases hpair
              obtain ⟨ht, hlength⟩ := ih hsplit
              refine ⟨by rw [ht, List.cons_append], ?_⟩
              rw [byteLength_cons]
              omega
            · rw [if_neg hle] at h
              contradiction
  · rintro ⟨rfl, rfl⟩
    exact splitAtByte?_append before after

/-- Two cuts of a text at one offset are the same. -/
theorem eq_of_append_eq_of_byteLength_eq {before after before' after' : Text}
    (h : before ++ after = before' ++ after') (hlength : byteLength before = byteLength before') :
    before = before' ∧ after = after' := by
  have hcut := splitAtByte?_append before after
  rw [h, hlength, splitAtByte?_append] at hcut
  exact Prod.mk.inj (Option.some.inj hcut.symm)

/-- A slice is the middle of three parts whose first two end at the offsets. -/
theorem slice?_eq_some_iff {t middle : Text} {start stop : Nat} :
    slice? t start stop = some middle
      ↔ ∃ before after, t = before ++ middle ++ after ∧ byteLength before = start
          ∧ byteLength (before ++ middle) = stop := by
  constructor
  · intro h
    unfold slice? at h
    by_cases hle : start ≤ stop
    · rw [if_pos hle] at h
      simp only [Option.bind_eq_bind, Option.bind_eq_some_iff, Option.pure_def,
        Option.some.injEq, Prod.exists] at h
      obtain ⟨before, rest, hstart, middle', after, hstop, rfl⟩ := h
      obtain ⟨rfl, hbefore⟩ := splitAtByte?_eq_some_iff.mp hstart
      obtain ⟨rfl, hmiddle⟩ := splitAtByte?_eq_some_iff.mp hstop
      refine ⟨before, after, by rw [List.append_assoc], hbefore, ?_⟩
      rw [byteLength_append]
      omega
    · rw [if_neg hle] at h
      contradiction
  · rintro ⟨before, after, rfl, rfl, rfl⟩
    have hrest : byteLength (before ++ middle) - byteLength before = byteLength middle := by
      rw [byteLength_append]
      omega
    have hle : byteLength before ≤ byteLength (before ++ middle) := by
      rw [byteLength_append]
      omega
    unfold slice?
    rw [if_pos hle, List.append_assoc, hrest, splitAtByte?_append]
    simp only [Option.bind_eq_bind, Option.bind_some, splitAtByte?_append, Option.pure_def]

end Weave.Text
