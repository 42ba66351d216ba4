import Weave.Proofs.Fence.WrittenWord
import Weave.Proofs.Text.Cut

/-!
# Blocks as they are written

The info string of a block is its language word and its entries, each written as a word.

* `IsRead` says what the words of an info string are read as, and `parse_eq_iff` that the reader
  follows it: an entry's key ends at the first equals sign, and the language is told from an entry
  by having none.
* `MetaEntry.plain_written_iff` says when the word of an entry is plain.
* `parse_infoString_iff` puts both together: a block is read back from its info string exactly if
  its parts have a form that words can have, all of them are plain, and it starts readably.
-/

namespace Weave

open InfoString

/-! ## Reading entries -/

/-- The word that an entry is. -/
def MetaEntry.word (e : MetaEntry) : Text :=
  match e.value with
  | none => e.key
  | some v => e.key ++ '=' :: v

namespace InfoString

/-- The words of an info string are a language word, if there is one, and entries.  Without a
language word the first entry is no flag, which would be read as one. -/
structure IsRead (info : Text) (language : Option Text) (es : List MetaEntry) : Prop where
  words_eq : words info = language.toList ++ es.map MetaEntry.word
  language_free : ∀ l ∈ language, '=' ∉ l
  keys_free : ∀ e ∈ es, '=' ∉ e.key
  start : language = none → ∀ e ∈ es.head?, e.value ≠ none

theorem splitFirst?_equals_eq_some_iff {word key value : Text} :
    Text.splitFirst? "=" word = some (key, value) ↔ word = key ++ '=' :: value ∧ '=' ∉ key :=
  Text.splitFirst?_singleton_eq_some_iff (c := '=')

theorem entry_eq_iff {word : Text} {e : MetaEntry} :
    entry word = e ↔ word = e.word ∧ '=' ∉ e.key := by
  obtain ⟨key, value⟩ := e
  unfold entry MetaEntry.word
  cases value with
  | some v =>
    rw [← splitFirst?_equals_eq_some_iff]
    cases Text.splitFirst? "=" word with
    | none => simp
    | some parts => simp [Prod.ext_iff]
  | none =>
    cases hsplit : Text.splitFirst? "=" word with
    | none =>
      have hfree : '=' ∉ word := Text.splitFirst?_singleton_eq_none_iff.mp hsplit
      simp only [MetaEntry.mk.injEq, and_true]
      exact ⟨fun h => ⟨h, h ▸ hfree⟩, And.left⟩
    | some parts =>
      obtain ⟨hword, -⟩ := splitFirst?_equals_eq_some_iff.mp hsplit
      simp only [MetaEntry.mk.injEq, reduceCtorEq, and_false, false_iff]
      rintro ⟨rfl, hfree⟩
      rw [hword] at hfree
      simp at hfree

theorem map_entry_eq_iff {ws : List Text} {es : List MetaEntry} :
    ws.map entry = es ↔ ws = es.map MetaEntry.word ∧ ∀ e ∈ es, '=' ∉ e.key := by
  induction ws generalizing es with
  | nil => cases es <;> simp
  | cons w ws ih =>
    cases es with
    | nil => simp
    | cons e es =>
      rw [List.map_cons, List.map_cons, List.cons.injEq, List.cons.injEq, List.forall_mem_cons, ih,
        entry_eq_iff]
      exact and_and_and_comm

theorem equals_mem_word_iff {e : MetaEntry} (hkey : '=' ∉ e.key) :
    '=' ∈ e.word ↔ e.value ≠ none := by
  unfold MetaEntry.word
  cases e.value with
  | none => simpa using hkey
  | some v => simp

/-- The reader gives what the words of an info string are. -/
theorem parse_eq_iff {info : Text} {language : Option Text} {es : List MetaEntry} :
    parse info = (language, es) ↔ IsRead info language es := by
  cases hwords : words info with
  | nil =>
    have hparse : parse info = (none, []) := by rw [parse, hwords]
    rw [hparse]
    constructor
    · rintro ⟨⟩
      exact ⟨hwords, (fun _ hl => nomatch hl), (fun _ he => absurd he List.not_mem_nil),
        fun _ _ he => nomatch he⟩
    · intro h
      have hnil := hwords.symm.trans h.words_eq
      obtain ⟨hlanguage, hes⟩ := List.append_eq_nil_iff.mp hnil.symm
      rw [Option.toList_eq_nil_iff.mp hlanguage, List.map_eq_nil_iff.mp hes]
  | cons first rest =>
    by_cases hfirst : '=' ∈ first
    · have hparse : parse info = (none, (first :: rest).map entry) := by
        rw [parse, hwords]
        exact if_pos hfirst
      rw [hparse]
      constructor
      · intro h
        obtain ⟨rfl, hes⟩ := Prod.mk.inj h
        obtain ⟨hread, hkeys⟩ := map_entry_eq_iff.mp hes
        refine ⟨hwords.trans hread, (fun _ hl => nomatch hl), hkeys, fun _ e he => ?_⟩
        rw [← hes] at he
        obtain ⟨hword, hkey⟩ := entry_eq_iff.mp (Option.some.inj he)
        exact (equals_mem_word_iff hkey).mp (hword ▸ hfirst)
      · intro h
        have hread := hwords.symm.trans h.words_eq
        cases language with
        | none => rw [map_entry_eq_iff.mpr ⟨hread, h.keys_free⟩]
        | some l =>
          obtain ⟨rfl, -⟩ := List.cons.inj hread
          exact absurd hfirst (h.language_free first rfl)
    · have hparse : parse info = (some first, rest.map entry) := by
        rw [parse, hwords]
        exact if_neg hfirst
      rw [hparse]
      constructor
      · intro h
        obtain ⟨rfl, hes⟩ := Prod.mk.inj h
        obtain ⟨hread, hkeys⟩ := map_entry_eq_iff.mp hes
        refine ⟨hwords.trans (congrArg (first :: ·) hread), fun l hl => ?_, hkeys,
          fun hnone => nomatch hnone⟩
        rwa [← Option.some.inj hl]
      · intro h
        have hread := hwords.symm.trans h.words_eq
        cases language with
        | none =>
          cases es with
          | nil => contradiction
          | cons e es =>
            obtain ⟨rfl, -⟩ := List.cons.inj hread
            have hkey := h.keys_free e List.mem_cons_self
            exact absurd ((equals_mem_word_iff hkey).mpr (h.start rfl e rfl)) hfirst
        | some l =>
          obtain ⟨rfl, hrest⟩ := List.cons.inj hread
          rw [map_entry_eq_iff.mpr ⟨hrest, h.keys_free⟩]

end InfoString

/-! ## Writing entries -/

/-- An entry as it is written: a value that is empty or has white space stands in quotes. -/
def MetaEntry.written (e : MetaEntry) : WrittenWord :=
  match e.value with
  | none => ⟨e.key, none⟩
  | some v =>
    if v.any Text.isSpace || v.isEmpty then ⟨e.key ++ ['='], some v⟩
    else ⟨e.key ++ '=' :: v, none⟩

theorem MetaEntry.render_written (e : MetaEntry) : e.written.render = e.render := by
  unfold written render
  cases e.value with
  | none => rfl
  | some v =>
    dsimp only
    split <;> simp [WrittenWord.render]

theorem MetaEntry.word_written (e : MetaEntry) : e.written.word = e.word := by
  unfold written word
  cases e.value with
  | none => simp [WrittenWord.word]
  | some v =>
    dsimp only
    split <;> simp [WrittenWord.word]

/-- An entry whose written form carries all of its characters: no quotes and no white space in the
key, no double quote in the value, and a single quote only together with white space. -/
structure MetaEntry.Plain (e : MetaEntry) : Prop where
  key : IsBare e.key
  double : ∀ v ∈ e.value, '"' ∉ v
  single : ∀ v ∈ e.value, '\'' ∈ v → ∃ c ∈ v, Text.isSpace c = true

/-- The word of an entry is plain exactly if the entry is, and it is not empty. -/
theorem MetaEntry.plain_written_iff (e : MetaEntry) :
    e.written.Plain ↔ e.Plain ∧ (e.value = none → e.key ≠ []) := by
  obtain ⟨key, value⟩ := e
  unfold written
  cases value with
  | none =>
    rw [WrittenWord.plain_bare_iff]
    exact ⟨fun h => ⟨⟨h.1, (fun _ hv => nomatch hv), (fun _ hv => nomatch hv)⟩, fun _ => h.2⟩,
      fun h => ⟨h.1.key, h.2 rfl⟩⟩
  | some v =>
    have hflag : some v = none → key ≠ [] := fun hnone => nomatch hnone
    dsimp only
    split
    next hquoted =>
      rw [Bool.or_eq_true, List.any_eq_true, List.isEmpty_iff] at hquoted
      constructor
      · intro h
        refine ⟨⟨(isBare_append.mp h.bare).1, h.quoted, fun _ hv hsingle => ?_⟩, hflag⟩
        obtain rfl := Option.some.inj hv
        exact hquoted.resolve_right (List.ne_nil_of_mem hsingle)
      · rintro ⟨h, -⟩
        exact ⟨isBare_append.mpr ⟨h.key, isBare_equals⟩, h.double, by simp [WrittenWord.word]⟩
    next hbare =>
      rw [Bool.or_eq_true, List.any_eq_true, not_or] at hbare
      have hvalue := isBare_iff_of_not_space hbare.1
      rw [WrittenWord.plain_bare_iff, isBare_append, isBare_cons, hvalue]
      constructor
      · rintro ⟨⟨hkey, -, hdouble, hsingle⟩, -⟩
        exact ⟨⟨hkey, fun _ hv => Option.some.inj hv ▸ hdouble,
          fun _ hv hmem => absurd (Option.some.inj hv ▸ hmem) hsingle⟩, hflag⟩
      · rintro ⟨h, -⟩
        have hsingle : '\'' ∉ v := fun hmem => hbare.1 (h.single v rfl hmem)
        exact ⟨⟨h.key, by decide, h.double v rfl, hsingle⟩, by simp⟩

/-! ## Blocks -/

/-- A property of the language word and one of the entries, for all parts of a block. -/
structure CodeBlock.Throughout (onLanguage : Text → Prop) (onEntry : MetaEntry → Prop)
    (b : CodeBlock) : Prop where
  language : ∀ l ∈ b.language, onLanguage l
  metadata : ∀ e ∈ b.metadata, onEntry e

/-- A word that is read as the language when it comes first. -/
structure InfoString.IsLanguage (l : Text) : Prop where
  equals : '=' ∉ l
  ne_nil : l ≠ []

/-- An entry that a word can be. -/
structure MetaEntry.IsEntry (e : MetaEntry) : Prop where
  equals : '=' ∉ e.key
  flag : e.value = none → e.key ≠ []

/-- A block without a language word does not begin with a flag, which would be read as one. -/
def CodeBlock.StartsReadably (b : CodeBlock) : Prop :=
  b.language = none → ∀ e ∈ b.metadata.head?, e.value ≠ none

/-- The words that a block is written with. -/
def CodeBlock.written (b : CodeBlock) : List WrittenWord :=
  b.language.toList.map (⟨·, none⟩) ++ b.metadata.map MetaEntry.written

theorem CodeBlock.infoString_eq (b : CodeBlock) :
    b.infoString = Text.join " " (b.written.map WrittenWord.render) := by
  have hrender : ∀ l : Text, (⟨l, none⟩ : WrittenWord).render = l := fun _ => rfl
  simp [infoString, written, Function.comp_def, hrender, MetaEntry.render_written]

theorem CodeBlock.map_word_written (b : CodeBlock) :
    b.written.map WrittenWord.word = b.language.toList ++ b.metadata.map MetaEntry.word := by
  have hword : ∀ l : Text, (⟨l, none⟩ : WrittenWord).word = l := fun l => List.append_nil l
  simp [written, Function.comp_def, hword, MetaEntry.word_written]

theorem CodeBlock.plain_written_iff (b : CodeBlock) :
    (∀ w ∈ b.written, w.Plain)
      ↔ b.Throughout IsBare MetaEntry.Plain
        ∧ (∀ l ∈ b.language, l ≠ []) ∧ ∀ e ∈ b.metadata, e.value = none → e.key ≠ [] := by
  unfold written
  simp only [List.forall_mem_append, List.forall_mem_map, Option.mem_toList,
    WrittenWord.plain_bare_iff, MetaEntry.plain_written_iff]
  constructor
  · rintro ⟨hlanguage, hmetadata⟩
    exact ⟨⟨fun l hl => (hlanguage l hl).1, fun e he => (hmetadata e he).1⟩,
      fun l hl => (hlanguage l hl).2, fun e he => (hmetadata e he).2⟩
  · rintro ⟨h, hlanguage, hmetadata⟩
    exact ⟨fun l hl => ⟨h.language l hl, hlanguage l hl⟩,
      fun e he => ⟨h.metadata e he, hmetadata e he⟩⟩

/-- A block is read back from its info string exactly if its language word and its entries are such
as words can be, the written form carries all of their characters, and it starts readably. -/
theorem parse_infoString_iff (b : CodeBlock) :
    parse b.infoString = (b.language, b.metadata)
      ↔ b.Throughout IsLanguage MetaEntry.IsEntry ∧ b.Throughout IsBare MetaEntry.Plain
        ∧ b.StartsReadably := by
  have hwords : words b.infoString = b.language.toList ++ b.metadata.map MetaEntry.word
      ↔ ∀ w ∈ b.written, w.Plain := by
    rw [b.infoString_eq, ← b.map_word_written, words_join_iff]
  rw [parse_eq_iff]
  constructor
  · intro h
    obtain ⟨hplain, hlanguage, hflag⟩ := b.plain_written_iff.mp (hwords.mp h.words_eq)
    exact ⟨⟨fun l hl => ⟨h.language_free l hl, hlanguage l hl⟩,
      fun e he => ⟨h.keys_free e he, hflag e he⟩⟩, hplain, h.start⟩
  · rintro ⟨hforms, hplain, hstart⟩
    refine ⟨hwords.mpr (b.plain_written_iff.mpr ⟨hplain, ?_, ?_⟩), ?_, ?_, hstart⟩
    · exact fun l hl => (hforms.language l hl).ne_nil
    · exact fun e he => (hforms.metadata e he).flag
    · exact fun l hl => (hforms.language l hl).equals
    · exact fun e he => (hforms.metadata e he).equals

end Weave
