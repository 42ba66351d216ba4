import Weave.Proofs.Fence.Fate
import Weave.Proofs.Fence.WrittenBlock
import Weave.Proofs.Text.Trim

/-!
# Info strings of resolved blocks

A block that an info string gave is written again, as it is or after its locator was resolved.

* `throughout_resolveBlock` carries a property of the parts of a block over resolution, where the
  language word may be split and entries are written and removed.
* `throughout_forms_fenceBlock` and `throughout_bare_fenceBlock` are what reading itself gives: the
  parts of a block have the form of words, and without quotes in the info string they are bare.
* `parse_infoString_fenceBlock` says when both blocks are read back.
-/

namespace Weave

open InfoString

/-! ## Properties of the parts -/

/-- Properties of the parts of a block that go over to what resolution makes of them: the two parts
of a compact language word, the written form of a locator, and the names of provenances. -/
structure KeptByResolution (onLanguage : Text → Prop) (onEntry : MetaEntry → Prop) : Prop where
  compact : ∀ language rest, language ≠ [] → onLanguage (language ++ ':' :: rest) →
    onLanguage language ∧ onEntry ⟨Locator.fileKey, some rest⟩
  source : ∀ raw locator, onEntry ⟨Locator.fileKey, some raw⟩ → Locator.parse? raw = some locator →
    onEntry ⟨sourceKey, some locator.render⟩
  resolved : ∀ provenance : Provenance, onEntry ⟨resolvedKey, some provenance.name⟩

section Throughout

variable {onLanguage : Text → Prop} {onEntry : MetaEntry → Prop} {b : CodeBlock}

theorem CodeBlock.Throughout.setMeta (hb : b.Throughout onLanguage onEntry) {key value : Text}
    (h : onEntry ⟨key, some value⟩) : (b.setMeta key value).Throughout onLanguage onEntry where
  language := hb.language
  metadata e he := by
    rcases CodeBlock.mem_setEntry he with rfl | he
    · exact h
    · exact hb.metadata e he

theorem CodeBlock.Throughout.removeMeta (hb : b.Throughout onLanguage onEntry) (key : Text) :
    (b.removeMeta key).Throughout onLanguage onEntry where
  language := hb.language
  metadata e he := hb.metadata e (List.mem_filter.mp he).1

theorem CodeBlock.Throughout.normalize (hkept : KeptByResolution onLanguage onEntry)
    (hb : b.Throughout onLanguage onEntry) :
    (Locator.normalize b).Throughout onLanguage onEntry := by
  rcases Locator.normalize_cases b with h | ⟨language, rest, hword, -, hne, h⟩
  · rw [h]
    exact hb
  · obtain ⟨hlanguage, hfile⟩ := hkept.compact language rest hne (hb.language _ hword)
    have hsplit : CodeBlock.Throughout onLanguage onEntry { b with language := some language } :=
      ⟨fun l hl => Option.some.inj hl ▸ hlanguage, hb.metadata⟩
    rw [h]
    exact hsplit.setMeta hfile

/-- The locator of a block is that of one of its entries. -/
theorem exists_entry_of_locator {locator : Locator} (h : Locator.of? b = some locator) :
    ∃ raw, ⟨Locator.fileKey, some raw⟩ ∈ b.metadata ∧ Locator.parse? raw = some locator := by
  obtain ⟨raw, hvalue, hparse⟩ := Option.bind_eq_some_iff.mp h
  obtain ⟨e, he, hraw⟩ := Option.bind_eq_some_iff.mp hvalue
  refine ⟨raw, ?_, hparse⟩
  have hkey : e.key = Locator.fileKey := by simpa using List.find?_some he
  rw [← hkey, ← hraw]
  exact List.mem_of_find?_eq_some he

/-- A resolved block has the properties of the parts of the written one. -/
theorem throughout_resolveBlock (hkept : KeptByResolution onLanguage onEntry)
    (hb : b.Throughout onLanguage onEntry) (sources : CodeSources) (state : ResolverState) :
    (resolveBlock sources state b).1.Throughout onLanguage onEntry := by
  cases hlocator : Locator.of? (Locator.normalize b) with
  | none =>
    rw [resolveBlock_of_none hlocator]
    exact hb
  | some locator =>
    rcases hlookup : sources.lookup state.cache locator with ⟨answer, cache⟩
    cases answer with
    | error kind =>
      rw [resolveBlock_of_error hlocator hlookup]
      exact hb
    | ok found =>
      obtain ⟨code, provenance⟩ := found
      have hnormalized := hb.normalize hkept
      obtain ⟨raw, hraw, hparse⟩ := exists_entry_of_locator hlocator
      have hsource := hkept.source raw locator (hnormalized.metadata _ hraw) hparse
      rw [resolveBlock_of_ok hlocator hlookup]
      have hcontent : CodeBlock.Throughout onLanguage onEntry
          { Locator.normalize b with content := sources.finish code } :=
        ⟨hnormalized.language, hnormalized.metadata⟩
      exact ((hcontent.removeMeta Locator.fileKey).setMeta hsource).setMeta
        (hkept.resolved provenance)

end Throughout

/-- What a locator is written with stood in the text that it was read from. -/
theorem Locator.mem_of_mem_render {raw : Text} {locator : Locator} (h : parse? raw = some locator)
    {c : Char} (hc : c ∈ locator.render) : c ∈ raw := by
  have htrim : c ∈ raw.trim → c ∈ raw := fun hc =>
    (List.dropWhile_sublist _).subset (Text.mem_of_mem_trimEndWhile hc)
  rcases (trim_of_parse? h).2 with hraw | ⟨hsymbol, hraw⟩
  · exact htrim (hraw ▸ hc)
  · rw [render, hsymbol] at hc
    exact htrim (hraw ▸ List.mem_append_left _ hc)

/-! ## The form of words, and bare words -/

theorem keptByResolution_forms : KeptByResolution IsLanguage MetaEntry.IsEntry where
  compact language rest hne h := by
    have hkey : '=' ∉ Locator.fileKey := by decide
    have hlanguage : '=' ∉ language := fun hmem => h.equals (List.mem_append_left _ hmem)
    exact ⟨⟨hlanguage, hne⟩, ⟨hkey, fun hnone => nomatch hnone⟩⟩
  source _ _ _ _ := by
    have hkey : '=' ∉ sourceKey := by decide
    exact ⟨hkey, fun hnone => nomatch hnone⟩
  resolved _ := by
    have hkey : '=' ∉ resolvedKey := by decide
    exact ⟨hkey, fun hnone => nomatch hnone⟩

/-- An entry of bare words. -/
structure MetaEntry.Bare (e : MetaEntry) : Prop where
  key : IsBare e.key
  value : ∀ v ∈ e.value, IsBare v

theorem keptByResolution_bare : KeptByResolution IsBare MetaEntry.Bare where
  compact language rest _ h := by
    have hkey : IsBare Locator.fileKey := by decide
    obtain ⟨hlanguage, hrest⟩ := isBare_append.mp h
    exact ⟨hlanguage, hkey, fun v hv => Option.some.inj hv ▸ (isBare_cons.mp hrest).2⟩
  source raw locator h hparse := by
    have hkey : IsBare sourceKey := by decide
    have hrender : IsBare locator.render := fun c hc =>
      h.value raw rfl c (Locator.mem_of_mem_render hparse hc)
    exact ⟨hkey, fun v hv => Option.some.inj hv ▸ hrender⟩
  resolved provenance := by
    have hkey : IsBare resolvedKey := by decide
    have hname : IsBare provenance.name := by cases provenance <;> decide
    exact ⟨hkey, fun v hv => Option.some.inj hv ▸ hname⟩

theorem MetaEntry.Bare.of_word {e : MetaEntry} (h : IsBare e.word) : e.Bare := by
  obtain ⟨key, value⟩ := e
  cases value with
  | none => exact ⟨h, fun _ hv => nomatch hv⟩
  | some v =>
    obtain ⟨hkey, hrest⟩ := isBare_append.mp h
    exact ⟨hkey, fun _ hv => Option.some.inj hv ▸ (isBare_cons.mp hrest).2⟩

theorem MetaEntry.Bare.plain {e : MetaEntry} (h : e.Bare) : e.Plain where
  key := h.key
  double v hv hc := (h.value v hv _ hc).1 rfl
  single v hv hc := absurd rfl (h.value v hv _ hc).2.1

theorem CodeBlock.Throughout.plain {b : CodeBlock} (h : b.Throughout IsBare MetaEntry.Bare) :
    b.Throughout IsBare MetaEntry.Plain where
  language := h.language
  metadata e he := (h.metadata e he).plain

/-! ## Blocks of info strings -/

/-- The block that a fence with an info string gives. -/
def fenceBlock (info content : Text) (span : ByteRange) : CodeBlock :=
  ⟨(parse info).1, (parse info).2, content, span⟩

section Written

variable (info content : Text) (span : ByteRange)

/-- The words of an info string are those of its block. -/
theorem isRead_parse : IsRead info (parse info).1 (parse info).2 :=
  parse_eq_iff.mp rfl

/-- The parts of a written block have the form of words. -/
theorem throughout_forms_fenceBlock :
    (fenceBlock info content span).Throughout IsLanguage MetaEntry.IsEntry := by
  have hread := isRead_parse info
  have hne : ∀ x ∈ words info, x ≠ [] := fun x hx => ne_nil_of_mem_wordsFrom hx
  rw [hread.words_eq] at hne
  constructor
  · intro l hl
    exact ⟨hread.language_free l hl, hne l (List.mem_append_left _ (Option.mem_toList.mpr hl))⟩
  · intro e he
    refine ⟨hread.keys_free e he, fun hnone => ?_⟩
    have hword : e.word = e.key := by rw [MetaEntry.word, hnone]
    rw [← hword]
    exact hne _ (List.mem_append_right _ (List.mem_map_of_mem he))

/-- The parts of a block that was written without quotes are bare. -/
theorem throughout_bare_fenceBlock (hdouble : '"' ∉ info) (hsingle : '\'' ∉ info) :
    (fenceBlock info content span).Throughout IsBare MetaEntry.Bare := by
  have hread := isRead_parse info
  have hbare : ∀ x ∈ words info, IsBare x := fun x hx =>
    isBare_of_mem_wordsFrom (fun _ hc => absurd hc List.not_mem_nil) hdouble hsingle hx
  rw [hread.words_eq] at hbare
  constructor
  · exact fun l hl => hbare l (List.mem_append_left _ (Option.mem_toList.mpr hl))
  · exact fun e he => .of_word (hbare _ (List.mem_append_right _ (List.mem_map_of_mem he)))

end Written

/-! ## Reading back -/

/-- The block that an info string gives is read back from its own info string exactly if the written
form carries all characters of its parts.  For the block that resolution makes of it, the same holds
with one more condition: without a language word, it must not begin with a flag once the locator has
been taken out.  If the info string has no quotes, all characters are carried. -/
theorem parse_infoString_fenceBlock (info content : Text) (span : ByteRange) (sources : CodeSources)
    (state : ResolverState) :
    let written := fenceBlock info content span
    let resolved := (resolveBlock sources state written).1
    (parse written.infoString = (written.language, written.metadata)
        ↔ written.Throughout IsBare MetaEntry.Plain)
      ∧ (parse resolved.infoString = (resolved.language, resolved.metadata)
        ↔ resolved.Throughout IsBare MetaEntry.Plain ∧ resolved.StartsReadably)
      ∧ ('"' ∉ info → '\'' ∉ info →
        parse written.infoString = (written.language, written.metadata)
          ∧ (parse resolved.infoString = (resolved.language, resolved.metadata)
            ↔ resolved.StartsReadably)) := by
  intro written resolved
  have hforms := throughout_forms_fenceBlock info content span
  have hforms' : resolved.Throughout IsLanguage MetaEntry.IsEntry :=
    throughout_resolveBlock keptByResolution_forms hforms sources state
  have hwritten : parse written.infoString = (written.language, written.metadata)
      ↔ written.Throughout IsBare MetaEntry.Plain := by
    rw [parse_infoString_iff]
    exact ⟨fun h => h.2.1, fun h => ⟨hforms, h, (isRead_parse info).start⟩⟩
  have hresolved : parse resolved.infoString = (resolved.language, resolved.metadata)
      ↔ resolved.Throughout IsBare MetaEntry.Plain ∧ resolved.StartsReadably := by
    rw [parse_infoString_iff]
    exact ⟨fun h => h.2, fun h => ⟨hforms', h⟩⟩
  refine ⟨hwritten, hresolved, fun hdouble hsingle => ?_⟩
  have hbare := throughout_bare_fenceBlock info content span hdouble hsingle
  have hbare' := throughout_resolveBlock keptByResolution_bare hbare sources state
  rw [hwritten, hresolved]
  exact ⟨hbare.plain, and_iff_right hbare'.plain⟩

/-- A value with double quotes is printed in double quotes, and a flag that comes first when its
block is resolved is printed where the language is read. -/
theorem parse_infoString_ne_fenceBlock :
    (¬∀ (info content : Text) (span : ByteRange),
      let b := fenceBlock info content span
      parse b.infoString = (b.language, b.metadata))
    ∧ ¬∀ (info content : Text) (span : ByteRange) (sources : CodeSources) (state : ResolverState),
      let b := (resolveBlock sources state (fenceBlock info content span)).1
      parse b.infoString = (b.language, b.metadata) := by
  constructor
  · intro h
    exact absurd (h "python title='say \"hi\"'" [] ⟨0, 0⟩) (by decide +kernel)
  · intro h
    let sources := CodeSources.ofFiles [("a.py", "a = 1\n")]
    exact absurd (h "file=a.py nodoc" [] ⟨0, 0⟩ sources .initial) (by decide +kernel)

end Weave
