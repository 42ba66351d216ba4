import Weave.Proofs.Symbol.Annotation
import Weave.Proofs.Symbol.IndexedCode

/-!
# Decorations on whole identifiers

A name of identifier characters that stands by itself is a longest run of such characters, and two
longest runs of one text are the same or do not meet.  So decorations with such names never cross.

* `eq_or_disjoint_of_standsAlone` is that fact about runs.
* A parameter is searched in the text of its owner only.  The owner takes whole lines of the code,
  and a line's end is no identifier character, so that what stands by itself in the owner stands by
  itself in the code (`StandsAlone.shift`, `exists_around_of_locateSymbol?`).
* The names of definitions are made of identifier characters (`isWord_name_of_mem_fileRecords`).
-/

namespace Weave

/-- A text of identifier characters. -/
def IsWord (t : Text) : Prop := ∀ c ∈ t, Text.isIdentifierChar c = true

theorem newline_notMem_of_isWord {t : Text} (h : IsWord t) : '\n' ∉ t := by
  intro hmem
  have hnewline := h '\n' hmem
  contradiction

/-! ## Runs of identifier characters -/

section Runs

variable {run after name rest before more : Text} {a b : Span}

/-- A longest run ends where it ends in the text behind it. -/
theorem takeWhile_append_of_isWord (hrun : IsWord run)
    (hafter : ∀ c ∈ after.head?, Text.isIdentifierChar c = false) :
    (run ++ after).takeWhile Text.isIdentifierChar = run := by
  rw [List.takeWhile_append_of_pos hrun]
  cases after with
  | nil => simp
  | cons c after => simp [hafter c rfl]

/-- Of two longest runs the one that does not start first is the other one, or stands behind it. -/
theorem eq_or_stop_le (hrun : IsWord run) (hname : IsWord name)
    (ha : StandsBetween before run after a) (hb : StandsBetween (before ++ more) name rest b)
    (h : run ++ after = more ++ (name ++ rest)) : a = b ∨ a.stop ≤ b.start := by
  by_cases hmore : more = []
  · subst hmore
    have hsame := takeWhile_append_of_isWord hrun ha.free_after
    rw [h, List.nil_append, takeWhile_append_of_isWord hname hb.free_after] at hsame
    refine .inl (Span.eq_iff.mpr ⟨?_, ?_⟩)
    · rw [ha.start_eq, hb.start_eq, List.append_nil]
    · rw [ha.stop_eq, hb.stop_eq, List.append_nil, hsame]
  · right
    rcases List.append_eq_append_iff.mp h with ⟨gap, rfl, -⟩ | ⟨inside, hinside, -⟩
    · rw [ha.stop_eq, hb.start_eq]
      simp
    · -- What stands in front of the second run would belong to the first one.
      have hlast := List.getLast?_eq_some_getLast hmore
      generalize more.getLast hmore = c at hlast
      have hfree := hb.free_before c (by rw [List.getLast?_append, hlast]; rfl)
      have hword := hrun c (hinside ▸ List.mem_append_left _ (List.mem_of_getLast? hlast))
      rw [hword] at hfree
      contradiction

end Runs

/-- Names of identifier characters that stand by themselves in a text stand at the same place or do
not meet. -/
theorem eq_or_disjoint_of_standsAlone {text run name : Text} {a b : Span} (hrun : IsWord run)
    (hname : IsWord name) (ha : StandsAlone text run a) (hb : StandsAlone text name b) :
    a = b ∨ a.stop ≤ b.start ∨ b.stop ≤ a.start := by
  obtain ⟨-, before, after, hcut, hstands⟩ := ha
  obtain ⟨-, before', after', hcut', hstands'⟩ := hb
  rw [hcut, List.append_assoc, List.append_assoc] at hcut'
  rcases List.append_eq_append_iff.mp hcut' with ⟨more, rfl, h⟩ | ⟨more, rfl, h⟩
  · exact (eq_or_stop_le hrun hname hstands hstands' h).imp_right .inl
  · exact (eq_or_stop_le hname hrun hstands' hstands h).imp Eq.symm .inr

/-! ## Names in the text of an owner -/

/-- What stands by itself in whole lines of some code stands by itself in the code. -/
theorem StandsAlone.shift {before body after name : Text} {span : Span}
    (h : StandsAlone body name span) (hword : IsWord name)
    (hbefore : ∀ c ∈ before.getLast?, c = '\n')
    (hafter : after = [] ∨ ∀ c ∈ body.getLast?, c = '\n') :
    StandsAlone (before ++ body ++ after) name (span.shift before.byteLength) := by
  obtain ⟨hne, x, y, rfl, hstart, hstop, hx, hy⟩ := h
  refine ⟨hne, before ++ x, y ++ after, by simp, ?_, ?_, ?_, ?_⟩
  · rw [Text.byteLength_append, ← hstart]
    rfl
  · rw [List.append_assoc, Text.byteLength_append, ← hstop]
    rfl
  · intro c hc
    rw [List.getLast?_append] at hc
    cases hlast : x.getLast? with
    | none =>
        rw [hlast, Option.none_or] at hc
        rw [hbefore c hc]
        rfl
    | some d =>
        rw [hlast, Option.some_or] at hc
        exact hx c (hlast.trans hc)
  · intro c hc
    cases y with
    | cons d y => exact hy c hc
    | nil =>
        rw [List.append_nil] at hafter
        rcases hafter with rfl | hafter
        · simp at hc
        · -- The name would end in the newline that ends the last line.
          have hlast : (x ++ name).getLast? = some (name.getLast hne) := by
            rw [List.getLast?_append_of_ne_nil x hne, List.getLast?_eq_some_getLast hne]
          have hnewline := hafter (name.getLast hne) hlast
          exact absurd (hnewline ▸ List.getLast_mem hne) (newline_notMem_of_isWord hword)

/-- A definition takes whole lines of the code. -/
theorem exists_around_of_locateSymbol? {code q body : Text} {owner : Span}
    (h : locateSymbol? code q = some owner) (hbody : owner.Holds code body) :
    ∃ before after, code = before ++ body ++ after ∧ before.byteLength = owner.start
      ∧ (∀ c ∈ before.getLast?, c = '\n') ∧ (after = [] ∨ ∀ c ∈ body.getLast?, c = '\n') := by
  unfold locateSymbol? at h
  obtain ⟨b, hlocate, rfl⟩ := Option.map_eq_some_iff.mp h
  have hholds := holdsDefinition_locateBlock? hlocate
  have hlt := Nat.lt_of_le_of_lt hholds.first_le hholds.keyword_lt
  have hslice := LineTable.slice?_span code (Nat.le_of_lt hlt)
  obtain rfl := Option.some.inj ((Span.slice?_eq_some_iff.mpr hbody).symm.trans hslice)
  have hends : ∀ n, n < (LineTable.ofSource code).size →
      ∀ c ∈ ((LineTable.ofSource code).lines.take n).flatten.getLast?, c = '\n' := by
    intro n hn
    have hchunks : n < code.chunks.length := hn
    have hlines := Text.isLines_chunks code
    rw [← List.take_append_drop n code.chunks, List.drop_eq_getElem_cons hchunks] at hlines
    exact hlines.getLast?_flatten
  refine ⟨_, _, LineTable.source_eq code (Nat.le_of_lt hlt), ?_, ?_, ?_⟩
  · rw [Block.lines, LineTable.span_eq (Nat.le_of_lt hlt)]
    rfl
  · exact hends b.first (Nat.lt_of_lt_of_le hlt hholds.stop_le)
  · by_cases hstop : b.stop < (LineTable.ofSource code).size
    · right
      intro c hc
      have hlast := hends b.stop hstop c
      rw [← LineTable.take_append_slice _ (Nat.le_of_lt hlt), List.flatten_append,
        List.getLast?_append, hc] at hlast
      exact hlast rfl
    · left
      have hnone : (LineTable.ofSource code).lines.drop b.stop = [] :=
        List.drop_eq_nil_of_le (Nat.le_of_not_lt hstop)
      rw [hnone, List.flatten_nil]

/-! ## Decorations -/

/-- A decoration whose name is made of identifier characters marks a place where the name stands by
itself in the code, also when it was found in the text of an owner. -/
theorem standsAlone_of_mem_annotate {code : Text} {index : SymbolIndex} {d : Decoration}
    (h : d ∈ annotate code index) (hword : IsWord d.name) : StandsAlone code d.name d.span := by
  obtain ⟨r, -, hd⟩ := mem_annotate.mp h
  rcases SymbolRecord.mem_decorations.mp hd with
    ⟨span, hname, rfl⟩ | ⟨p, -, owner, body, span, howner, hbody, hname, rfl⟩
  · exact hname
  · obtain ⟨q, hlocate⟩ : ∃ q, locateSymbol? code q = some owner := by
      rcases howner with hqualified | ⟨-, -, hbare⟩
      · exact ⟨r.qualifiedName, hqualified⟩
      · exact ⟨r.name, hbare⟩
    obtain ⟨before, after, hcode, hstart, hbefore, hafter⟩ :=
      exists_around_of_locateSymbol? hlocate hbody
    have hshift := hname.shift hword hbefore hafter
    rw [← hcode, hstart] at hshift
    exact hshift

theorem isWord_name_of_mem_fileRecords {file source : Text} {r : SymbolRecord}
    (h : r ∈ SymbolIndex.fileRecords file source) : IsWord r.name := by
  obtain ⟨-, run, hcode, -⟩ := SymbolIndex.isCodeOf_of_mem_fileRecords h
  obtain ⟨line, kind, -, hparse⟩ := hcode.named r.qualifiedName rfl
  obtain ⟨rest, -, hname⟩ := Definition.parse?_eq_some_iff.mp hparse
  obtain ⟨u, -, hname⟩ := Option.bind_eq_some_iff.mp hname
  intro c hc
  exact Text.isIdentifierChar_of_isNameChar ((Definition.name?_eq_some hname).2 c hc)

/-- In an index of any files, the names of classes, functions and methods are made of identifier
characters.  A decoration with such a name fills a longest run of identifier characters of the code,
namely its name, and two of them have the same span or disjoint spans. -/
theorem annotate_wholeIdentifiers (files : List SourceFile) (code : Text) :
    let index := files.foldl (fun index file => index.addSource file.path file.text)
      SymbolIndex.empty
    (∀ d ∈ annotate code index, d.kind ≠ .parameter → IsWord d.name)
      ∧ (∀ d ∈ annotate code index, IsWord d.name → StandsAlone code d.name d.span)
      ∧ ∀ a ∈ annotate code index, ∀ b ∈ annotate code index, IsWord a.name → IsWord b.name →
          a.span = b.span ∨ a.span.stop ≤ b.span.start ∨ b.span.stop ≤ a.span.start := by
  intro index
  refine ⟨fun d hd hkind => ?_, fun d hd => standsAlone_of_mem_annotate hd, fun a ha b hb => ?_⟩
  · obtain ⟨r, hr, hd⟩ := mem_annotate.mp hd
    rcases SymbolRecord.eq_decorationAt_or_parameterAt hd with heq | ⟨p, heq⟩
    · obtain ⟨file, -, hrecord⟩ :=
        (SymbolIndex.mem_records_addSources hr).resolve_left List.not_mem_nil
      rw [heq]
      exact isWord_name_of_mem_fileRecords hrecord
    · rw [heq] at hkind
      exact absurd rfl hkind
  · intro haword hbword
    exact eq_or_disjoint_of_standsAlone haword hbword (standsAlone_of_mem_annotate ha haword)
      (standsAlone_of_mem_annotate hb hbword)

end Weave
