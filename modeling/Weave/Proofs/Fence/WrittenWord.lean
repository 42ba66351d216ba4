import Weave.Fence.InfoString
import Weave.Proofs.Text.Cut

/-!
# Words as they are written

The words of an info string are written with single spaces between, each as a bare part and possibly
a part in double quotes behind it.  The reader takes quotes and white space away wherever they
stand, so what it reads need not be the words that were written.

* `ReadsAs` is what the reader does with one character.
* `wordsFrom_flatMap` reads plain words (`WrittenWord.Plain`) back, by following the reader through
  them.
* `words_join_iff` says that the others are not read back.  If they are, the reader leaves out what
  the written form adds to the words, by counting: each character is in a word or left out
  (`perm_dropped`).  So it leaves out no single quote and is never inside a pair of them; hence it
  sees the double quotes that were added and no others, and leaves out no white space of a bare
  part.
-/

namespace Weave

namespace InfoString

/-- A text that stands in an info string as it is: it has no quotes and no white space. -/
def IsBare (t : Text) : Prop := ∀ c ∈ t, c ≠ '"' ∧ c ≠ '\'' ∧ Text.isSpace c = false

instance (t : Text) : Decidable (IsBare t) := List.decidableBAll _ t

theorem isBare_append {s t : Text} : IsBare (s ++ t) ↔ IsBare s ∧ IsBare t := List.forall_mem_append

theorem isBare_cons {c : Char} {t : Text} :
    IsBare (c :: t) ↔ (c ≠ '"' ∧ c ≠ '\'' ∧ Text.isSpace c = false) ∧ IsBare t :=
  List.forall_mem_cons

theorem isBare_equals : IsBare ['='] := by decide

theorem isBare_iff_of_not_space {t : Text} (h : ¬∃ c ∈ t, Text.isSpace c = true) :
    IsBare t ↔ '"' ∉ t ∧ '\'' ∉ t := by
  constructor
  · exact fun hbare => ⟨fun hc => (hbare _ hc).1 rfl, fun hc => (hbare _ hc).2.1 rfl⟩
  · rintro ⟨hdouble, hsingle⟩ c hc
    refine ⟨?_, ?_, Bool.eq_false_iff.mpr fun hspace => h ⟨c, hc, hspace⟩⟩
    · rintro rfl
      exact hdouble hc
    · rintro rfl
      exact hsingle hc

/-- A word as it is written: a bare part, and possibly a part in double quotes behind it. -/
structure WrittenWord where
  bare : Text
  quoted : Option Text

namespace WrittenWord

/-- The written form. -/
def render (w : WrittenWord) : Text :=
  match w.quoted with
  | none => w.bare
  | some q => w.bare ++ "\"" ++ q ++ "\""

/-- The word that is meant. -/
def word (w : WrittenWord) : Text := w.bare ++ w.quoted.getD []

/-- The quotes that the written form adds to the word. -/
def marks (w : WrittenWord) : Text :=
  match w.quoted with
  | none => []
  | some _ => "\"\""

/-- A word that is read as it was meant. -/
structure Plain (w : WrittenWord) : Prop where
  bare : IsBare w.bare
  quoted : ∀ q ∈ w.quoted, '"' ∉ q
  ne_nil : w.word ≠ []

theorem plain_bare_iff {t : Text} : (⟨t, none⟩ : WrittenWord).Plain ↔ IsBare t ∧ t ≠ [] := by
  have hword : (⟨t, none⟩ : WrittenWord).word = t := List.append_nil t
  exact ⟨fun h => ⟨h.bare, hword ▸ h.ne_nil⟩,
    fun h => ⟨h.1, (fun _ hq => nomatch hq), hword.symm ▸ h.2⟩⟩

theorem render_of_bare {w : WrittenWord} (h : w.quoted = none) : w.render = w.bare := by
  rw [render, h]

theorem render_of_quoted {w : WrittenWord} {q : Text} (h : w.quoted = some q) (t : Text) :
    w.render ++ t = w.bare ++ '"' :: (q ++ '"' :: t) := by
  rw [render, h]
  simp

theorem perm_render (w : WrittenWord) : w.render.Perm (w.word ++ w.marks) := by
  unfold render word marks
  cases w.quoted with
  | none => simp
  | some q =>
    rw [List.perm_iff_count]
    intro c
    simp only [Option.getD_some, List.count_append]
    simp [List.count_cons]
    omega

end WrittenWord

/-! ## The reader -/

/-- The characters of the rest of an info string that are in none of its words. -/
def dropped (quote : Option Char) : Text → Text
  | [] => []
  | c :: t =>
    match quote with
    | some q => if c = q then c :: dropped none t else dropped quote t
    | none =>
      if c = '"' ∨ c = '\'' then c :: dropped (some c) t
      else if Text.isSpace c then c :: dropped none t
      else dropped none t

/-- What the reader does with a character: it opens or closes a quote, ends a word, or keeps the
character. -/
inductive ReadsAs (quote : Option Char) (c : Char) : Prop where
  | mark (next : Option Char)
      (change : quote = some c ∧ next = none
        ∨ quote = none ∧ (c = '"' ∨ c = '\'') ∧ next = some c)
      (words_eq : ∀ word t, wordsFrom quote word (c :: t) = wordsFrom next word t)
      (dropped_eq : ∀ t, dropped quote (c :: t) = c :: dropped next t)
  | space (outside : quote = none) (isSpace : Text.isSpace c = true)
      (words_eq : ∀ word t, wordsFrom quote word (c :: t) = consWord word (wordsFrom none [] t))
      (dropped_eq : ∀ t, dropped quote (c :: t) = c :: dropped none t)
  | kept (inside : quote ≠ some c)
      (outside : quote = none → c ≠ '"' ∧ c ≠ '\'' ∧ Text.isSpace c = false)
      (words_eq : ∀ word t, wordsFrom quote word (c :: t) = wordsFrom quote (word ++ [c]) t)
      (dropped_eq : ∀ t, dropped quote (c :: t) = dropped quote t)

theorem readsAs (quote : Option Char) (c : Char) : ReadsAs quote c := by
  cases quote with
  | some q =>
    by_cases hc : c = q
    · subst hc
      exact .mark none (.inl ⟨rfl, rfl⟩) (fun _ _ => by rw [wordsFrom, if_pos rfl])
        fun _ => by rw [dropped]; exact if_pos rfl
    · exact .kept (fun h => hc (Option.some.inj h).symm) (fun h => nomatch h)
        (fun _ _ => by rw [wordsFrom, if_neg hc]) fun _ => by rw [dropped]; exact if_neg hc
  | none =>
    by_cases hc : c = '"' ∨ c = '\''
    · exact .mark (some c) (.inr ⟨rfl, hc, rfl⟩) (fun _ _ => by rw [wordsFrom, if_pos hc])
        fun _ => by rw [dropped, if_pos hc]
    · cases hspace : Text.isSpace c with
      | true =>
        exact .space rfl hspace (fun _ _ => by rw [wordsFrom, if_neg hc, if_pos hspace])
          fun _ => by rw [dropped, if_neg hc, if_pos hspace]
      | false =>
        have hword : ¬Text.isSpace c = true := by simp [hspace]
        have hquotes := not_or.mp hc
        exact .kept (fun h => nomatch h) (fun _ => ⟨hquotes.1, hquotes.2, hspace⟩)
          (fun _ _ => by rw [wordsFrom, if_neg hc, if_neg hword])
          fun _ => by rw [dropped, if_neg hc, if_neg hword]

theorem flatten_consWord (word : Text) (ws : List Text) :
    (consWord word ws).flatten = word ++ ws.flatten := by
  unfold consWord
  split
  next h => rw [List.isEmpty_iff.mp h, List.nil_append]
  next => exact List.flatten_cons

theorem mem_consWord {word x : Text} {ws : List Text} :
    x ∈ consWord word ws ↔ (x = word ∧ word ≠ []) ∨ x ∈ ws := by
  unfold consWord
  split
  next h => simp [List.isEmpty_iff.mp h]
  next h =>
    have hne : word ≠ [] := by simpa using h
    simp [hne]

theorem consWord_of_ne_nil {word : Text} (h : word ≠ []) (ws : List Text) :
    consWord word ws = word :: ws := by
  rw [consWord, if_neg (by simpa using h)]

/-- Each character is in a word or left out. -/
theorem perm_wordsFrom (quote : Option Char) (word t : Text) :
    ((wordsFrom quote word t).flatten ++ dropped quote t).Perm (word ++ t) := by
  rw [List.perm_iff_count]
  intro x
  induction t generalizing quote word with
  | nil => simp [wordsFrom, dropped, flatten_consWord]
  | cons c t ih =>
    cases readsAs quote c with
    | mark next _ hwords hdropped =>
      have hrest := ih next word
      rw [hwords, hdropped]
      simp only [List.count_append, List.count_cons] at hrest ⊢
      omega
    | space _ _ hwords hdropped =>
      have hrest := ih none []
      rw [hwords, hdropped, flatten_consWord]
      simp only [List.count_append, List.count_cons, List.count_nil] at hrest ⊢
      omega
    | kept _ _ hwords hdropped =>
      have hrest := ih quote (word ++ [c])
      rw [hwords, hdropped]
      simp only [List.count_append, List.count_cons, List.count_nil] at hrest ⊢
      omega

/-- A word that the reader gives is not empty. -/
theorem ne_nil_of_mem_wordsFrom {quote : Option Char} {word t x : Text}
    (h : x ∈ wordsFrom quote word t) : x ≠ [] := by
  induction t generalizing quote word with
  | nil =>
    rcases mem_consWord.mp h with ⟨rfl, hne⟩ | h
    · exact hne
    · contradiction
  | cons c t ih =>
    cases readsAs quote c with
    | mark next _ hwords _ => exact ih (hwords word t ▸ h)
    | space _ _ hwords _ =>
      rw [hwords] at h
      rcases mem_consWord.mp h with ⟨rfl, hne⟩ | h
      · exact hne
      · exact ih h
    | kept _ _ hwords _ => exact ih (hwords word t ▸ h)

/-- The words of an info string without quotes are bare. -/
theorem isBare_of_mem_wordsFrom {word t x : Text} (hword : IsBare word) (hdouble : '"' ∉ t)
    (hsingle : '\'' ∉ t) (h : x ∈ wordsFrom none word t) : IsBare x := by
  induction t generalizing word with
  | nil =>
    rcases mem_consWord.mp h with ⟨rfl, -⟩ | h
    · exact hword
    · contradiction
  | cons c t ih =>
    rw [List.mem_cons, not_or] at hdouble hsingle
    cases readsAs none c with
    | mark next change _ _ =>
      rcases change with ⟨hinside, -⟩ | ⟨-, hc, -⟩
      · contradiction
      · exact absurd hc (not_or.mpr ⟨Ne.symm hdouble.1, Ne.symm hsingle.1⟩)
    | space _ _ hwords _ =>
      rw [hwords] at h
      rcases mem_consWord.mp h with ⟨rfl, -⟩ | h
      · exact hword
      · exact ih (fun _ hc => absurd hc List.not_mem_nil) hdouble.2 hsingle.2 h
    | kept _ outside hwords _ =>
      rw [hwords] at h
      refine ih (isBare_append.mpr ⟨hword, ?_⟩) hdouble.2 hsingle.2 h
      exact isBare_cons.mpr ⟨outside rfl, fun _ hd => absurd hd List.not_mem_nil⟩

/-- A reader that is never inside single quotes gives no word with a double quote. -/
theorem double_notMem_of_mem_wordsFrom {quote : Option Char} {word t x : Text}
    (hquote : ∀ q ∈ quote, q = '"') (hsingle : '\'' ∉ dropped quote t) (hword : '"' ∉ word)
    (h : x ∈ wordsFrom quote word t) : '"' ∉ x := by
  induction t generalizing quote word with
  | nil =>
    rcases mem_consWord.mp h with ⟨rfl, -⟩ | h
    · exact hword
    · contradiction
  | cons c t ih =>
    cases readsAs quote c with
    | mark next change hwords hdropped =>
      rw [hdropped, List.mem_cons, not_or] at hsingle
      rw [hwords] at h
      refine ih (fun q hq => ?_) hsingle.2 hword h
      rcases change with ⟨-, hnext⟩ | ⟨-, hc, hnext⟩
      · rw [hnext] at hq
        contradiction
      · rw [hnext] at hq
        exact (Option.some.inj hq).symm.trans (hc.resolve_right (Ne.symm hsingle.1))
    | space _ _ hwords hdropped =>
      rw [hdropped, List.mem_cons, not_or] at hsingle
      rw [hwords] at h
      rcases mem_consWord.mp h with ⟨rfl, -⟩ | h
      · exact hword
      · exact ih (fun q hq => absurd hq (by simp)) hsingle.2 List.not_mem_nil h
    | kept inside outside hwords hdropped =>
      rw [hdropped] at hsingle
      rw [hwords] at h
      have hc : c ≠ '"' := by
        cases quote with
        | none => exact (outside rfl).1
        | some q => exact fun hc => inside (by rw [hquote q rfl, hc])
      exact ih hquote hsingle (by simp [hword, Ne.symm hc]) h

/-! ## Plain words are read back -/

theorem wordsFrom_bare {bare : Text} (h : IsBare bare) (word t : Text) :
    wordsFrom none word (bare ++ t) = wordsFrom none (word ++ bare) t := by
  induction bare generalizing word with
  | nil => simp
  | cons c bare ih =>
    obtain ⟨hdouble, hsingle, hspace⟩ := h c List.mem_cons_self
    have hrest : IsBare bare := fun d hd => h d (List.mem_cons_of_mem c hd)
    rw [List.cons_append, wordsFrom, if_neg (by simp [hdouble, hsingle]), if_neg (by simp [hspace]),
      ih hrest, List.append_assoc, List.singleton_append]

theorem wordsFrom_quoted {q : Text} (h : '"' ∉ q) (word t : Text) :
    wordsFrom (some '"') word (q ++ '"' :: t) = wordsFrom none (word ++ q) t := by
  induction q generalizing word with
  | nil => simp [wordsFrom]
  | cons c q ih =>
    rw [List.mem_cons, not_or] at h
    rw [List.cons_append, wordsFrom, if_neg (Ne.symm h.1), ih h.2, List.append_assoc,
      List.singleton_append]

theorem wordsFrom_space (word t : Text) :
    wordsFrom none word (' ' :: t) = consWord word (wordsFrom none [] t) := by
  rw [wordsFrom, if_neg (by decide), if_pos (by decide)]

theorem wordsFrom_render {w : WrittenWord} (h : w.Plain) (word t : Text) :
    wordsFrom none word (w.render ++ t) = wordsFrom none (word ++ w.word) t := by
  unfold WrittenWord.word
  cases hq : w.quoted with
  | none =>
    rw [WrittenWord.render_of_bare hq, wordsFrom_bare h.bare, Option.getD_none, List.append_nil]
  | some q =>
    rw [WrittenWord.render_of_quoted hq, wordsFrom_bare h.bare, wordsFrom, if_pos (.inl rfl),
      wordsFrom_quoted (h.quoted q hq), Option.getD_some, List.append_assoc]

/-- Plain words that stand behind a word, each behind a space. -/
theorem wordsFrom_flatMap {ws : List WrittenWord} (h : ∀ w ∈ ws, w.Plain) (word : Text) :
    wordsFrom none word (ws.flatMap (' ' :: ·.render))
      = consWord word (ws.map WrittenWord.word) := by
  induction ws generalizing word with
  | nil => rfl
  | cons w ws ih =>
    have hw := h w List.mem_cons_self
    have hws : ∀ v ∈ ws, v.Plain := fun v hv => h v (List.mem_cons_of_mem w hv)
    rw [List.flatMap_cons, List.cons_append, wordsFrom_space, wordsFrom_render hw, List.nil_append,
      ih hws, consWord_of_ne_nil hw.ne_nil, List.map_cons]

/-- A space in front of the first word makes no difference. -/
theorem words_join_eq (ws : List WrittenWord) :
    words (Text.join " " (ws.map WrittenWord.render)) = words (ws.flatMap (' ' :: ·.render)) := by
  cases ws with
  | nil => rfl
  | cons w ws =>
    have hjoin : Text.join " " ((w :: ws).map WrittenWord.render)
        = w.render ++ (ws.map WrittenWord.render).flatMap (' ' :: ·) := Text.join_cons ' ' _ _
    rw [hjoin, List.flatMap_map, List.flatMap_cons, List.cons_append, words, words, wordsFrom_space]
    rfl

/-! ## Only plain words are read back -/

/-- The white space of a bare part. -/
def WrittenWord.spaces (w : WrittenWord) : Text := w.bare.filter Text.isSpace

/-- A bare part without double quotes is read outside quotes to its end, unless a single quote is
left out: only its white space is left out. -/
theorem dropped_bare {bare t : Text} (hdouble : '"' ∉ bare)
    (hsingle : '\'' ∉ dropped none (bare ++ t)) :
    '\'' ∉ bare ∧ dropped none (bare ++ t) = bare.filter Text.isSpace ++ dropped none t := by
  induction bare with
  | nil => exact ⟨List.not_mem_nil, rfl⟩
  | cons c bare ih =>
    rw [List.mem_cons, not_or] at hdouble
    rw [List.cons_append] at hsingle ⊢
    rw [List.mem_cons, not_or]
    cases readsAs none c with
    | mark next change _ hdropped =>
      rw [hdropped, List.mem_cons, not_or] at hsingle
      rcases change with ⟨hinside, -⟩ | ⟨-, hc, -⟩
      · contradiction
      · exact absurd hc (not_or.mpr ⟨Ne.symm hdouble.1, Ne.symm hsingle.1⟩)
    | space _ hspace _ hdropped =>
      rw [hdropped, List.mem_cons, not_or] at hsingle
      obtain ⟨hfree, hrest⟩ := ih hdouble.2 hsingle.2
      rw [hdropped, hrest, List.filter_cons_of_pos hspace]
      exact ⟨⟨hsingle.1, hfree⟩, rfl⟩
    | kept _ outside _ hdropped =>
      obtain ⟨-, hc, hspace⟩ := outside rfl
      rw [hdropped] at hsingle
      obtain ⟨hfree, hrest⟩ := ih hdouble.2 hsingle
      rw [hdropped, hrest, List.filter_cons_of_neg (by simp [hspace])]
      exact ⟨⟨Ne.symm hc, hfree⟩, rfl⟩

theorem dropped_quoted {q : Text} (h : '"' ∉ q) (t : Text) :
    dropped (some '"') (q ++ '"' :: t) = '"' :: dropped none t := by
  induction q with
  | nil => rfl
  | cons c q ih =>
    rw [List.mem_cons, not_or] at h
    rw [List.cons_append, dropped, ih h.2]
    exact if_neg (Ne.symm h.1)

theorem dropped_render {w : WrittenWord} {t : Text} (hdouble : '"' ∉ w.word)
    (hsingle : '\'' ∉ dropped none (w.render ++ t)) :
    '\'' ∉ w.bare ∧ dropped none (w.render ++ t) = w.spaces ++ w.marks ++ dropped none t := by
  rw [WrittenWord.word, List.mem_append, not_or] at hdouble
  unfold WrittenWord.marks
  cases hq : w.quoted with
  | none =>
    rw [WrittenWord.render_of_bare hq] at hsingle ⊢
    rw [List.append_nil]
    exact dropped_bare hdouble.1 hsingle
  | some q =>
    rw [hq, Option.getD_some] at hdouble
    rw [WrittenWord.render_of_quoted hq] at hsingle ⊢
    obtain ⟨hfree, hrest⟩ := dropped_bare hdouble.1 hsingle
    refine ⟨hfree, ?_⟩
    rw [hrest, dropped, if_pos (.inl rfl), dropped_quoted hdouble.2, List.append_assoc]
    rfl

/-- Words behind a space each: what is left out are the spaces between them, the white space of the
bare parts, and the quotes around the others. -/
theorem dropped_flatMap {ws : List WrittenWord} (hdouble : ∀ w ∈ ws, '"' ∉ w.word)
    (hsingle : '\'' ∉ dropped none (ws.flatMap (' ' :: ·.render))) :
    (∀ w ∈ ws, '\'' ∉ w.bare)
      ∧ dropped none (ws.flatMap (' ' :: ·.render))
        = ws.flatMap fun w => ' ' :: (w.spaces ++ w.marks) := by
  induction ws with
  | nil => exact ⟨fun _ hw => absurd hw List.not_mem_nil, rfl⟩
  | cons w ws ih =>
    have hspace : ∀ t, dropped none (' ' :: t) = ' ' :: dropped none t := fun t => by
      rw [dropped, if_neg (by decide), if_pos (by decide)]
    rw [List.flatMap_cons, List.cons_append, hspace] at hsingle ⊢
    rw [List.mem_cons, not_or] at hsingle
    obtain ⟨hfree, hhere⟩ := dropped_render (hdouble w List.mem_cons_self) hsingle.2
    rw [hhere, List.mem_append, not_or] at hsingle
    obtain ⟨hlater, hrest⟩ := ih (fun v hv => hdouble v (List.mem_cons_of_mem w hv)) hsingle.2.2
    refine ⟨List.forall_mem_cons.mpr ⟨hfree, hlater⟩, ?_⟩
    rw [hhere, hrest, List.flatMap_cons, List.cons_append]

/-- Behind a space each, texts of two parts have the characters of the first parts, and those of the
second parts behind a space each. -/
theorem perm_flatMap_space {f g k : WrittenWord → Text} (hf : ∀ w, (f w).Perm (g w ++ k w))
    (ws : List WrittenWord) :
    (ws.flatMap fun w => ' ' :: f w).Perm (ws.flatMap g ++ ws.flatMap fun w => ' ' :: k w) := by
  rw [List.perm_iff_count]
  intro c
  induction ws with
  | nil => rfl
  | cons w ws ih =>
    have hhere := (hf w).count_eq c
    simp only [List.flatMap_cons, List.count_append, List.count_cons] at ih hhere ⊢
    omega

/-- If the words are read as they were meant, what is left out is what was added to them. -/
theorem perm_dropped {ws : List WrittenWord}
    (h : words (ws.flatMap (' ' :: ·.render)) = ws.map WrittenWord.word) :
    (dropped none (ws.flatMap (' ' :: ·.render))).Perm (ws.flatMap (' ' :: ·.marks)) := by
  have hread := perm_wordsFrom none [] (ws.flatMap (' ' :: ·.render))
  rw [List.nil_append, ← words, h, ← List.flatMap_def] at hread
  have hwritten := perm_flatMap_space WrittenWord.perm_render ws
  exact (List.perm_append_left_iff _).mp (hread.trans hwritten)

theorem single_notMem_flatMap_marks (ws : List WrittenWord) :
    '\'' ∉ ws.flatMap (' ' :: ·.marks) := by
  rw [List.mem_flatMap]
  rintro ⟨w, -, hw⟩
  unfold WrittenWord.marks at hw
  split at hw <;> simp at hw

/-- If nothing is left out but what was added, there is no white space in the bare parts. -/
theorem flatMap_spaces_eq_nil {ws : List WrittenWord}
    (h : (ws.flatMap fun w => ' ' :: (w.spaces ++ w.marks)).Perm (ws.flatMap (' ' :: ·.marks))) :
    ws.flatMap WrittenWord.spaces = [] := by
  have hparts := perm_flatMap_space (fun w => .refl (w.spaces ++ w.marks)) ws
  have hlength := (hparts.symm.trans h).length_eq
  rw [List.length_append] at hlength
  exact List.length_eq_zero_iff.mp (by omega)

/-- Written words are read as they were meant exactly if all of them are plain. -/
theorem words_join_iff (ws : List WrittenWord) :
    words (Text.join " " (ws.map WrittenWord.render)) = ws.map WrittenWord.word
      ↔ ∀ w ∈ ws, w.Plain := by
  rw [words_join_eq]
  refine ⟨fun h => ?_, fun h => wordsFrom_flatMap h []⟩
  have hperm := perm_dropped h
  have hsingle : '\'' ∉ dropped none (ws.flatMap (' ' :: ·.render)) :=
    fun hmem => single_notMem_flatMap_marks ws (hperm.mem_iff.mp hmem)
  have hwords : ∀ w ∈ ws, w.word ∈ wordsFrom none [] (ws.flatMap (' ' :: ·.render)) :=
    fun w hw => by
      rw [← words, h]
      exact List.mem_map_of_mem hw
  have hdouble : ∀ w ∈ ws, '"' ∉ w.word := fun w hw =>
    double_notMem_of_mem_wordsFrom (fun _ hq => absurd hq (by simp)) hsingle List.not_mem_nil
      (hwords w hw)
  obtain ⟨hfree, hleft⟩ := dropped_flatMap hdouble hsingle
  have hspaces := flatMap_spaces_eq_nil (hleft ▸ hperm)
  intro w hw
  have hparts := hdouble w hw
  rw [WrittenWord.word, List.mem_append, not_or] at hparts
  refine ⟨fun c hc => ⟨?_, ?_, ?_⟩, fun q hq => ?_, ne_nil_of_mem_wordsFrom (hwords w hw)⟩
  · rintro rfl
    exact hparts.1 hc
  · rintro rfl
    exact hfree w hw hc
  · rw [Bool.eq_false_iff]
    intro hspace
    have hmem : c ∈ ws.flatMap WrittenWord.spaces :=
      List.mem_flatMap.mpr ⟨w, hw, List.mem_filter.mpr ⟨hc, hspace⟩⟩
    rw [hspaces] at hmem
    contradiction
  · rw [Option.mem_def.mp hq, Option.getD_some] at hparts
    exact hparts.2

end InfoString

end Weave
