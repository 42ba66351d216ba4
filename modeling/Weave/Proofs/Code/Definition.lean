import Weave.Proofs.Fence.Run
import Weave.Proofs.Code.Layout
import Weave.Proofs.Symbol.DefinitionBlock
import Weave.Proofs.Symbol.DocstringParts
import Weave.Symbol.Annotate

/-!
# Extracted code is its own definition

Code that was cut out of a file is found again in itself, also after it was put into a fence: losing
the docstring takes lines out below the keyword, dedenting moves all lines by the same columns, and
the normal form shrinks blank lines and trims the last line.  None of this touches what makes the
lines those of a definition.

`DefinitionLines.moved` is the one statement about changed lines; `IsDefinitionOf.strip`, `.dedent`
and `.normalize` are its three cases, and `IsDefinitionOf.finish` the three in a row.
-/

namespace Weave

namespace DefinitionLines

variable {name keyword : Text} {decorators body : List Text}

theorem isAllSpace_keyword (h : DefinitionLines name decorators keyword body) :
    keyword.isAllSpace = false := by
  obtain ⟨kind, hparse, -⟩ := defines_eq_true_iff.mp h.defines
  refine isAllSpace_of_startsBlock ?_
  rw [startsBlock, hparse]
  exact Bool.or_true _

theorem isAllSpace_decorator (h : DefinitionLines name decorators keyword body) {line : Text}
    (hline : line ∈ decorators) : line.isAllSpace = false := by
  refine isAllSpace_of_startsBlock ?_
  rw [startsBlock, (h.decorated line hline).1]
  rfl

/-- The first line that defines something is the keyword line. -/
theorem findIdx?_parse (h : DefinitionLines name decorators keyword body) :
    (decorators ++ keyword :: body).findIdx?
      (fun line => (Definition.parse? line.trimStart).isSome) = some decorators.length := by
  obtain ⟨kind, hparse, -⟩ := defines_eq_true_iff.mp h.defines
  refine Definition.findIdx?_append ?_ (by rw [hparse]; rfl)
  exact fun line hline => Definition.parse?_of_startsWith_at (h.decorated line hline).1

/-- Lines that all moved by the same columns, with blank lines among them, are those of the same
definition. -/
theorem moved (h : DefinitionLines name decorators keyword body) (columns : Nat)
    {decorators' body' : List Text} {keyword' : Text}
    (hdecorators : ∀ line' ∈ decorators', ∃ line ∈ decorators, Moved columns line line')
    (hkeyword : Moved columns keyword keyword')
    (hbody : ∀ line' ∈ body', line'.isAllSpace = true ∨ ∃ line ∈ body, Moved columns line line') :
    DefinitionLines name decorators' keyword' body' where
  decorated line' hline' := by
    obtain ⟨line, hline, hmoved⟩ := hdecorators line' hline'
    obtain ⟨hat, hindent⟩ := h.decorated line hline
    rw [hmoved.indent_eq, hkeyword.indent_eq] at hindent
    exact ⟨hmoved.decorator_eq.trans hat, Nat.add_right_cancel hindent⟩
  defines := (hkeyword.defines_eq name false).trans h.defines
  unended line' hline' := by
    rcases hbody line' hline' with hblank | ⟨line, hline, hmoved⟩
    · rw [endsBlock_eq, startsBlock_trimStart_of_isAllSpace hblank]
      exact Bool.and_false _
    · rw [hmoved.endsBlock_eq, ← hkeyword.indent_eq]
      exact h.unended line hline

end DefinitionLines

/-! ## Without the docstring -/

namespace Docstring

theorem le_headerEndFrom {n m : Nat} {depth : Int} {lines : List Text}
    (h : headerEndFrom n depth lines = some m) : n ≤ m := by
  induction lines generalizing n depth with
  | nil => contradiction
  | cons line lines ih =>
      unfold headerEndFrom at h
      split at h
      · split at h
        · exact Nat.le_of_eq (Option.some.inj h)
        · contradiction
      · exact Nat.le_of_succ_le (ih h)

theorem closing?_eq_some {quotes text : Text} {first n : Nat} {lines : List Text} {doc : Found}
    (h : closing? quotes first text n lines = some doc) : doc.first = first ∧ n ≤ doc.last := by
  induction lines generalizing n text with
  | nil => contradiction
  | cons line lines ih =>
      unfold closing? at h
      split at h
      · obtain rfl := Option.some.inj h
        exact ⟨rfl, Nat.le_refl n⟩
      · obtain ⟨hfirst, hlast⟩ := ih h
        exact ⟨hfirst, Nat.le_of_succ_le hlast⟩

/-- A docstring stands below the first line that defines something. -/
theorem find?_eq_some {lines : List Text} {doc : Found} (h : find? lines = some doc) :
    ∃ start, lines.findIdx? (fun line => (Definition.parse? line.trimStart).isSome) = some start
      ∧ start < doc.first ∧ doc.first ≤ doc.last := by
  obtain ⟨o, hclosing⟩ := exists_opening_of_find? h
  have hheader := o.headerEnd_eq
  unfold headerEnd? at hheader
  rw [Option.bind_eq_bind, Option.bind_eq_some_iff] at hheader
  obtain ⟨start, hstart, hend⟩ := hheader
  have hle := le_headerEndFrom hend
  obtain ⟨hfirst, hlast⟩ := closing?_eq_some hclosing
  rw [Opening.first, List.length_append, o.above_length] at hfirst hlast
  exact ⟨start, hstart, by omega, by omega⟩

/-- What stays are the lines above the docstring and some of those below it. -/
theorem strip_of_find? {code : Text} {doc : Found} (h : find? code.chunks = some doc) :
    ∃ rest, strip code = (code.chunks.take doc.first ++ rest).flatten
      ∧ rest.Sublist (code.chunks.drop (doc.last + 1)) := by
  unfold strip
  dsimp only
  rw [h]
  dsimp only
  generalize code.chunks.drop (doc.last + 1) = after
  have hblanks : (if (after.dropWhile Text.isAllSpace).isEmpty then []
      else (after.takeWhile Text.isAllSpace).take 1).Sublist (after.takeWhile Text.isAllSpace) := by
    split
    · exact List.nil_sublist _
    · exact List.take_sublist _ _
  have hafter := hblanks.append (List.Sublist.refl (after.dropWhile Text.isAllSpace))
  rw [List.takeWhile_append_dropWhile] at hafter
  refine ⟨_, ?_, hafter⟩
  rw [List.flatten_append, List.flatten_append, List.append_assoc]

end Docstring

namespace IsDefinitionOf

variable {name code : Text}

theorem strip (h : IsDefinitionOf name code) : IsDefinitionOf name (Docstring.strip code) := by
  cases hfind : Docstring.find? code.chunks with
  | none =>
      have hcode : Docstring.strip code = code := by
        unfold Docstring.strip
        dsimp only
        rw [hfind]
      rwa [hcode]
  | some doc =>
      obtain ⟨decorators, keyword, body, hchunks, hlines⟩ := h
      obtain ⟨rest, hstrip, hrest⟩ := Docstring.strip_of_find? hfind
      obtain ⟨start, hstart, hfirst, hlast⟩ := Docstring.find?_eq_some hfind
      rw [hchunks, hlines.findIdx?_parse] at hstart
      have hnumber : decorators.length = start := Option.some.inj hstart
      obtain ⟨k, hk⟩ : ∃ k, doc.first = decorators.length + (k + 1) :=
        ⟨doc.first - start - 1, by omega⟩
      obtain ⟨m, hm⟩ : ∃ m, doc.last + 1 = decorators.length + (m + 1) :=
        ⟨doc.last - start, by omega⟩
      have htake : code.chunks.take doc.first = decorators ++ keyword :: body.take k := by
        rw [hchunks, hk, List.take_length_add_append, List.take_succ_cons]
      have hdrop : code.chunks.drop (doc.last + 1) = body.drop m := by
        rw [hchunks, hm, List.drop_length_add_append, List.drop_succ_cons]
      have hkept : Text.IsLines (code.chunks.take doc.first ++ rest) := by
        refine (Text.isLines_chunks code).sublist ?_
        have hbelow : rest.Sublist (code.chunks.drop doc.first) :=
          hrest.trans (List.drop_sublist_drop_left _ (Nat.le_succ_of_le hlast))
        have hall := (List.Sublist.refl (code.chunks.take doc.first)).append hbelow
        rwa [List.take_append_drop] at hall
      refine ⟨decorators, keyword, body.take k ++ rest, ?_, hlines.decorated, hlines.defines, ?_⟩
      · rw [hstrip, hkept.chunks_flatten, htake, List.append_assoc, List.cons_append]
      · intro line hline
        rcases List.mem_append.mp hline with hline | hline
        · exact hlines.unended line (List.mem_of_mem_take hline)
        · rw [hdrop] at hrest
          exact hlines.unended line (List.mem_of_mem_drop (hrest.subset hline))

end IsDefinitionOf

/-! ## Further to the left -/

theorem moved_dedentLine {common : Nat} {line : Text} (hblank : line.isAllSpace = false)
    (h : common ≤ indentOf line) : Moved common line (Code.dedentLine common line) := by
  unfold Code.dedentLine
  rw [hblank]
  exact moved_drop h

theorem IsDefinitionOf.dedent {name code : Text} (h : IsDefinitionOf name code) :
    IsDefinitionOf name (Code.dedent code) := by
  by_cases hzero : Code.commonIndent code = 0
  · have hcode : Code.dedent code = code := by
      unfold Code.dedent
      exact if_pos hzero
    rwa [hcode]
  · obtain ⟨decorators, keyword, body, hchunks, hlines⟩ := h
    have hindent : ∀ line ∈ decorators ++ keyword :: body, line.isAllSpace = false →
        Code.commonIndent code ≤ indentOf line :=
      fun line hline => Code.commonIndent_le_indentOf (hchunks ▸ hline)
    have hkeyword := hlines.isAllSpace_keyword
    have hle := hindent keyword (by simp) hkeyword
    have hkept : (!(Code.dedentLine (Code.commonIndent code) keyword).isEmpty) = true := by
      rw [Bool.not_eq_true', List.isEmpty_eq_false_iff]
      exact Code.dedentLine_ne_nil hkeyword hle
    have hchunks' := Code.chunks_dedent hzero
    rw [hchunks, List.map_append, List.map_cons, List.filter_append, List.filter_cons,
      if_pos hkept] at hchunks'
    refine ⟨_, _, _, hchunks', hlines.moved (Code.commonIndent code) ?_
      (moved_dedentLine hkeyword hle) ?_⟩
    · intro line' hline'
      obtain ⟨line, hline, rfl⟩ := List.mem_map.mp (List.mem_filter.mp hline').1
      have hblank := hlines.isAllSpace_decorator hline
      exact ⟨line, hline, moved_dedentLine hblank (hindent line (by simp [hline]) hblank)⟩
    · intro line' hline'
      obtain ⟨line, hline, rfl⟩ := List.mem_map.mp (List.mem_filter.mp hline').1
      cases hblank : line.isAllSpace with
      | true =>
          refine .inl (Text.isAllSpace_eq_true_iff.mpr fun c hc => ?_)
          exact Text.isAllSpace_eq_true_iff.mp hblank c
            ((Code.dedentLine_suffix _ line).subset hc)
      | false =>
          exact .inr ⟨line, hline, moved_dedentLine hblank (hindent line (by simp [hline]) hblank)⟩

/-! ## Without blank lines and blanks at the end -/

theorem exists_isEndChar_eq_false {line : Text} (h : line.isAllSpace = false) :
    ∃ c ∈ line, Code.isEndChar c = false := by
  rw [← Bool.not_eq_true, Text.isAllSpace_eq_true_iff] at h
  push Not at h
  obtain ⟨c, hc, hspace⟩ := h
  refine ⟨c, hc, ?_⟩
  rw [← Bool.not_eq_true]
  exact fun hend => hspace (Code.isSpace_of_isEndChar hend)

/-- The last line of code in normal form says the same as the line that it was. -/
theorem moved_trimEndWhile {line : Text} (hblank : line.isAllSpace = false) :
    Moved 0 line (Text.trimEndWhile Code.isEndChar line ++ ['\n']) := by
  obtain ⟨w, hw, hend⟩ := Text.exists_eq_trimEndWhile_append Code.isEndChar line
  have hspace : w.isAllSpace = true :=
    Text.isAllSpace_eq_true_iff.mpr fun c hc => Code.isSpace_of_isEndChar (hend c hc)
  have hkept : (Text.trimEndWhile Code.isEndChar line).isAllSpace = false := by
    rw [hw, Text.isAllSpace_append, hspace, Bool.and_true] at hblank
    exact hblank
  have hmoved : Moved 0 (Text.trimEndWhile Code.isEndChar line ++ w)
      (Text.trimEndWhile Code.isEndChar line ++ ['\n']) := moved_append hkept hspace rfl
  rwa [← hw] at hmoved

theorem isAllSpace_trimEndWhile {line : Text} (hblank : line.isAllSpace = true) :
    Text.isAllSpace (Text.trimEndWhile Code.isEndChar line ++ ['\n']) = true := by
  rw [Text.isAllSpace_append, Bool.and_eq_true, Text.isAllSpace_eq_true_iff]
  refine ⟨fun c hc => ?_, rfl⟩
  exact Text.isAllSpace_eq_true_iff.mp hblank c (Text.mem_of_mem_trimEndWhile hc)

/-- In normal form the decorators stay, and of the lines below them those up to the last one that
says something, which is trimmed. -/
theorem DefinitionLines.exists_chunks_normalize {name code keyword : Text}
    {decorators body : List Text} (h : DefinitionLines name decorators keyword body)
    (hchunks : code.chunks = decorators ++ keyword :: body) :
    ∃ body' front last tail, keyword :: body' = front ++ last :: tail
      ∧ (∀ line ∈ body', line = ['\n'] ∨ line ∈ body)
      ∧ (Code.normalize code).chunks
        = decorators ++ (front ++ [Text.trimEndWhile Code.isEndChar last ++ ['\n']]) := by
  have hkeyword := h.isAllSpace_keyword
  obtain ⟨body', hcollapse, hbody'⟩ := Code.exists_collapseBlankRuns_cons keyword body
  have hsaid : ∃ line ∈ keyword :: body', ∃ c ∈ line, Code.isEndChar c = false :=
    ⟨keyword, List.mem_cons_self, exists_isEndChar_eq_false hkeyword⟩
  obtain ⟨front, last, tail, hsplit, hlast, htail⟩ := Code.exists_last_kept hsaid
  refine ⟨body', front, last, tail, hsplit, hbody', ?_⟩
  have hcut : Code.collapseBlankRuns code.chunks = (decorators ++ front) ++ last :: tail := by
    rw [hchunks, Code.collapseBlankRuns_append (fun _ => h.isAllSpace_decorator) hkeyword,
      hcollapse, hsplit, List.append_assoc]
  rw [← List.append_assoc]
  exact Code.chunks_normalize hcut hlast htail

theorem IsDefinitionOf.normalize {name code : Text} (h : IsDefinitionOf name code) :
    IsDefinitionOf name (Code.normalize code) := by
  obtain ⟨decorators, keyword, body, hchunks, hlines⟩ := h
  obtain ⟨body', front, last, tail, hsplit, hbody', hcut⟩ :=
    hlines.exists_chunks_normalize hchunks
  have hdecorators : ∀ line' ∈ decorators, ∃ line ∈ decorators, Moved 0 line line' :=
    fun line hline => ⟨line, hline, Moved.refl line⟩
  cases front with
  | nil =>
      -- Nothing stays below the keyword, whose line is the one that was trimmed.
      obtain ⟨rfl, rfl⟩ := List.cons.inj hsplit
      exact ⟨_, _, _, hcut,
        hlines.moved 0 hdecorators (moved_trimEndWhile hlines.isAllSpace_keyword)
          fun _ h => nomatch h⟩
  | cons first front =>
      obtain ⟨rfl, rfl⟩ := List.cons.inj hsplit
      refine ⟨_, _, _, hcut, hlines.moved 0 hdecorators (Moved.refl keyword) ?_⟩
      intro line' hline'
      rcases List.mem_append.mp hline' with hline' | hline'
      · rcases hbody' line' (List.mem_append_left _ hline') with rfl | hline
        · exact .inl rfl
        · exact .inr ⟨line', hline, Moved.refl line'⟩
      · rw [List.mem_singleton] at hline'
        subst hline'
        cases hblank : last.isAllSpace with
        | true => exact .inl (isAllSpace_trimEndWhile hblank)
        | false =>
            rcases hbody' last (by simp) with rfl | hline
            · contradiction
            · exact .inr ⟨last, hline, moved_trimEndWhile hblank⟩

/-- Code of a definition is one in a fence, too. -/
theorem IsDefinitionOf.finish {name code : Text} (h : IsDefinitionOf name code)
    (sources : CodeSources) : IsDefinitionOf name (sources.finish code) := by
  unfold CodeSources.finish
  split
  · exact h.strip.dedent.normalize
  · exact h.dedent.normalize

/-! ## Found again -/

/-- The span that parameters are searched in, when the code is a definition of the record's name. -/
theorem ownerSpan?_of_isDefinitionOf {r : SymbolRecord} {code : Text}
    (hparent : '.' ∈ r.qualifiedName → r.parent.isSome = true) (h : IsDefinitionOf r.name code) :
    r.ownerSpan? code = some (.whole code)
      ↔ ('.' ∈ r.qualifiedName → locateSymbol? code r.qualifiedName = none) := by
  have hwhole := locateSymbol?_of_isDefinitionOf h
  unfold SymbolRecord.ownerSpan?
  cases hlocate : locateSymbol? code r.qualifiedName with
  | none =>
      by_cases hdot : '.' ∈ r.qualifiedName
      · simp [hparent hdot, hwhole]
      · -- A name without a dot is the record's own name, which is found.
        have hname : r.name = r.qualifiedName := localName_of_dot_not_mem hdot
        rw [hname, hlocate] at hwhole
        contradiction
  | some span =>
      by_cases hdot : '.' ∈ r.qualifiedName
      · have hpos := start_pos_of_locateSymbol? hdot hlocate
        simp only [hdot, reduceCtorEq, forall_const, iff_false, Option.some.injEq]
        rintro rfl
        exact Nat.lt_irrefl 0 hpos
      · have hname : r.name = r.qualifiedName := localName_of_dot_not_mem hdot
        rw [hname, hlocate] at hwhole
        simp [hwhole, hdot]

/-- Extracted code keeps its own definition.  It is extracted from itself as a whole, and as content
of a fence it is found as a whole under its local name.  The annotator, which asks for the qualified
name first, takes the parameters of its record from the whole content unless the content has a class
of the owner's name with such a method in it. -/
theorem extractSymbol_keeps_definition (sources : CodeSources) {source q : Text}
    (h : extractSymbol source q false ≠ []) :
    let code := extractSymbol source q false
    let content := sources.finish code
    extractSymbol code (localName q) false = code
      ∧ locateSymbol? content (localName q) = some (.whole content)
      ∧ ∀ r : SymbolRecord, r.qualifiedName = q → ('.' ∈ q → r.parent.isSome = true) →
          (r.ownerSpan? content = some (.whole content)
            ↔ ('.' ∈ q → locateSymbol? content q = none)) := by
  intro code content
  have hcode : IsDefinitionOf (localName q) code := isDefinitionOf_extractSymbol h
  have hcontent : IsDefinitionOf (localName q) content := hcode.finish sources
  refine ⟨extractSymbol_of_isDefinitionOf hcode, locateSymbol?_of_isDefinitionOf hcontent, ?_⟩
  rintro r rfl hparent
  exact ownerSpan?_of_isDefinitionOf hparent hcontent

/-- A method whose body has a class of the same name with the same method in it. -/
def nestedMethod : Text :=
  "class A:\n    def m(self, key):\n        class A:\n            def m(self, key):\n"
    ++ "                return key\n        return key\n"

theorem extractSymbol_keeps_definition_nestedMethod :
    extractSymbol nestedMethod "A.m" false ≠ [] ∧
      extractSymbol (extractSymbol nestedMethod "A.m" false) "m" false
        = extractSymbol nestedMethod "A.m" false := by
  have h : extractSymbol nestedMethod "A.m" false ≠ [] := by decide +kernel
  exact ⟨h, (extractSymbol_keeps_definition (.ofFiles []) h).1⟩

/-- The annotator takes the parameters from the inner method there, and not from the whole
content. -/
theorem ownerSpan?_nestedMethod :
    let content := (CodeSources.ofFiles []).finish (extractSymbol nestedMethod "A.m" false)
    extractSymbol nestedMethod "A.m" false ≠ [] ∧
      ∃ r ∈ (SymbolIndex.ofSource "a.py" nestedMethod).records,
        r.qualifiedName = "A.m".toList
          ∧ r.ownerSpan? content = some ⟨31, 95, by decide⟩
          ∧ r.ownerSpan? content ≠ some (.whole content) := by
  decide +kernel

end Weave
