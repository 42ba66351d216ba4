import Weave.Proofs.Symbol.DefinitionLine
import Weave.Proofs.Symbol.FunctionHeader
import Weave.Proofs.Text.Chunks
import Weave.Symbol.Docstring

/-!
# The two readers of a header

The end of a header is looked for twice.  The signature goes on from the keyword to the first colon
at the top level and carries its state (`Nesting`) over the ends of lines.  The docstring goes line
by line and starts each line outside strings and comments, with the depth of the line before.

* `scanHeaderLine_eq` says that on one line the two see the same (`lineEnd`): a comment, which only
  the first one reads, runs to the end of the line.
* `run_line` says that behind a line on which no string is left open the first reader stands where
  the second one starts anew.
* `headerEndFrom_of_splitTop?` and `headerEndFrom_of_passes` go over the lines with the two, and
  `headerEnd?_eq` starts them at the definition.
-/

namespace Weave

namespace Nesting

variable {s : Nesting} {t : Text}

/-! ## The ends of lines -/

/-- No string is open at the end of a line. -/
abbrev StringsEnd (s : Nesting) (t : Text) : Prop :=
  s.Along (fun s c => c = '\n' → s.quote = none) t

/-- The next character is escaped in strings only. -/
def EscapesInStrings (s : Nesting) : Prop := s.quote = none → s.escaped = false

theorem escapesInStrings_code (depth : Int) : (code depth).EscapesInStrings := fun _ => rfl

theorem EscapesInStrings.step (h : s.EscapesInStrings) (c : Char) :
    (s.step c).EscapesInStrings := by
  unfold EscapesInStrings at h ⊢
  cases hcomment : s.comment with
  | true =>
      rw [step_of_comment hcomment]
      exact h
  | false =>
      cases hquote : s.quote with
      | some q =>
          rw [step_of_quote hcomment hquote]
          grind
      | none =>
          rw [step_of_code hcomment hquote]
          grind

theorem EscapesInStrings.run (h : s.EscapesInStrings) (t : Text) :
    (s.run t).EscapesInStrings := by
  induction t generalizing s with
  | nil => exact h
  | cons c t ih => exact ih (h.step c)

/-- White space in code is read in code. -/
theorem along_of_isAllSpace {P : Nesting → Char → Prop} {depth : Int} (h : t.isAllSpace = true)
    (hspace : ∀ c, Text.isSpace c = true → P (code depth) c) : (code depth).Along P t := by
  induction t with
  | nil => trivial
  | cons c t ih =>
      rw [Text.isAllSpace_eq_true_iff, List.forall_mem_cons] at h
      have hplain := isPlain_of_notMem (notMem_headerMarks_of_isSpace h.1)
      refine ⟨hspace c h.1, ?_⟩
      rw [step_code_plain hplain]
      exact ih (Text.isAllSpace_eq_true_iff.mpr h.2)

/-- Outside strings a newline leads back to code. -/
theorem step_newline (hquote : s.quote = none) (hescaped : s.escaped = false) :
    s.step '\n' = code s.depth := by
  cases hcomment : s.comment with
  | true =>
      rw [step_of_comment hcomment, hquote, hescaped]
      rfl
  | false =>
      have hcode : s = code s.depth := by
        obtain ⟨depth, quote, escaped, comment⟩ := s
        obtain rfl : quote = none := hquote
        obtain rfl : escaped = false := hescaped
        obtain rfl : comment = false := hcomment
        rfl
      rw [hcode]
      exact step_code_plain (by decide)

/-- Behind a line without an open string the reader stands in code. -/
theorem run_line {body : Text} {depth : Int}
    (h : (code depth).StringsEnd (body ++ ['\n'])) :
    (code depth).run (body ++ ['\n']) = code ((code depth).run (body ++ ['\n'])).depth := by
  have hquote : ((code depth).run body).quote = none := (along_append.mp h).2.1 rfl
  have hescaped := (escapesInStrings_code depth).run body hquote
  have hrun : (code depth).run (body ++ ['\n']) = code ((code depth).run body).depth := by
    rw [run_append]
    exact step_newline hquote hescaped
  rw [hrun]
  rfl

end Nesting

open Nesting

namespace Docstring

/-! ## One line -/

/-- How a line of a header leaves off for the reader that carries its state on. -/
def lineEnd (s : Nesting) (line : Text) : HeaderLine :=
  match s.splitTop? ':' line with
  | some (_, tail) => .colon tail
  | none => .continues (s.run line).depth

section Line

variable {s : Nesting} {c : Char} {t : Text}

theorem lineEnd_of_splitTop? {u v : Text} (h : s.splitTop? ':' t = some (u, v)) :
    lineEnd s t = .colon v := by
  rw [lineEnd, h]

theorem lineEnd_of_passes (h : s.Passes ':' t) : lineEnd s t = .continues (s.run t).depth := by
  rw [lineEnd, splitTop?_of_passes h]

theorem lineEnd_cons {s' : Nesting} (h : ¬(s.isTop = true ∧ c = ':')) (hstep : s.step c = s') :
    lineEnd s (c :: t) = lineEnd s' t := by
  subst hstep
  unfold lineEnd
  rw [splitTop?, if_neg h]
  cases (s.step c).splitTop? ':' t <;> rfl

theorem string_not_cut {depth : Int} (q c : Char) : ¬((string depth q).isTop = true ∧ c = ':') := by
  simp [isTop, string]

/-- A comment has the rest of its line. -/
theorem lineEnd_of_comment (hcomment : s.comment = true)
    (hline : ∀ rest, '\n' :: rest <:+ t → rest = []) : lineEnd s t = .continues s.depth := by
  induction t generalizing s with
  | nil => rfl
  | cons c t ih =>
      have htop : ¬(s.isTop = true ∧ c = ':') := by simp [isTop, hcomment]
      rw [lineEnd_cons htop (step_of_comment hcomment)]
      by_cases hc : c = '\n'
      · subst hc
        rw [hline t List.suffix_rfl]
        rfl
      · have hopen : (c != '\n') = true := bne_iff_ne.mpr hc
        exact ih hopen fun rest hrest => hline rest (hrest.trans (List.suffix_cons c t))

/-- On one line the reader that starts anew at each line sees what the other one sees. -/
theorem scanHeaderLine_eq (quote : Option Char) (depth : Int)
    (hline : ∀ rest, '\n' :: rest <:+ t → rest = []) :
    scanHeaderLine quote depth t = lineEnd ⟨depth, quote, false, false⟩ t := by
  have hlater : ∀ {c : Char} {t : Text}, (∀ rest, '\n' :: rest <:+ c :: t → rest = []) →
      ∀ rest, '\n' :: rest <:+ t → rest = [] :=
    fun h rest hrest => h rest (hrest.trans (List.suffix_cons _ _))
  -- The cases are those of the reader: the end, in a string (2 to 5), and outside of one.
  fun_induction scanHeaderLine quote depth t with
  | case1 => rfl
  | case2 depth t q ih =>
      rw [ih (hlater hline)]
      exact (lineEnd_cons (string_not_cut q q) step_string_quote).symm
  | case3 depth q hne =>
      exact (lineEnd_cons (t := []) (string_not_cut q '\\') (step_string_escape hne)).symm
  | case4 depth q d t hne ih =>
      rw [ih (hlater (hlater hline))]
      -- The character behind the backslash is passed over whatever it is.
      have hescaped : lineEnd ⟨depth, some q, true, false⟩ (d :: t) = lineEnd (string depth q) t :=
        lineEnd_cons (string_not_cut q d) rfl
      exact ((lineEnd_cons (string_not_cut q '\\') (step_string_escape hne)).trans hescaped).symm
  | case5 depth c t q hne hescape ih =>
      rw [ih (hlater hline)]
      exact (lineEnd_cons (string_not_cut q c) (step_string hne hescape)).symm
  | case6 depth c t hquote ih =>
      have htop : ¬((code depth).isTop = true ∧ c = ':') := by grind
      rw [ih (hlater hline)]
      exact (lineEnd_cons htop (step_code_quote hquote)).symm
  | case7 depth t hquote =>
      have htop : ¬((code depth).isTop = true ∧ '#' = ':') := by simp
      have hcomment : lineEnd ⟨depth, none, false, true⟩ t = .continues depth :=
        lineEnd_of_comment rfl (hlater hline)
      exact ((lineEnd_cons htop rfl).trans hcomment).symm
  | case8 depth c t hquote hhash hopening ih =>
      have htop : ¬((code depth).isTop = true ∧ c = ':') := by grind
      rw [ih (hlater hline)]
      exact (lineEnd_cons htop (step_code_opening hopening)).symm
  | case9 depth c t hquote hhash hopening hclosing ih =>
      have htop : ¬((code depth).isTop = true ∧ c = ':') := by grind
      rw [ih (hlater hline)]
      exact (lineEnd_cons htop (step_code_closing hclosing)).symm
  | case10 depth c t hquote hhash hopening hclosing hcolon =>
      have hcut : (code depth).splitTop? ':' (c :: t) = some ([], t) := by
        rw [splitTop?, if_pos ⟨(isTop_code depth).mpr hcolon.2, hcolon.1⟩]
      exact (lineEnd_of_splitTop? hcut).symm
  | case11 depth c t hquote hhash hopening hclosing hcolon ih =>
      have htop : ¬((code depth).isTop = true ∧ c = ':') := by
        rw [isTop_code]
        exact fun h => hcolon h.symm
      rw [ih (hlater hline)]
      exact (lineEnd_cons htop (step_code_plain ⟨hquote, hhash, hopening, hclosing⟩)).symm

end Line

/-! ## The lines of a header -/

section Lines

variable {ls : List Text} {line header body : Text} {depth : Int}

theorem headerEndFrom_cons_of_splitTop? (h : Text.IsLines (line :: ls)) {u v : Text}
    (hcut : (code depth).splitTop? ':' line = some (u, v)) (n : Nat) :
    headerEndFrom n depth (line :: ls) = if isCommentTail v then some n else none := by
  have hscan : scanHeaderLine none depth line = .colon v := by
    rw [scanHeaderLine_eq none depth fun rest => h.eq_nil_of_suffix List.mem_cons_self]
    exact lineEnd_of_splitTop? hcut
  rw [headerEndFrom, hscan]

theorem headerEndFrom_cons_of_passes (h : Text.IsLines (line :: ls))
    (hpasses : (code depth).Passes ':' line) (n : Nat) :
    headerEndFrom n depth (line :: ls)
      = headerEndFrom (n + 1) ((code depth).run line).depth ls := by
  have hscan : scanHeaderLine none depth line = .continues ((code depth).run line).depth := by
    rw [scanHeaderLine_eq none depth fun rest => h.eq_nil_of_suffix List.mem_cons_self]
    exact lineEnd_of_passes hpasses
  rw [headerEndFrom, hscan]

/-- The header ends in the line with the first colon at the top level, if only a comment follows the
colon there. -/
theorem headerEndFrom_of_splitTop? (h : Text.IsLines ls)
    (hcut : (code depth).splitTop? ':' ls.flatten = some (header, body))
    (hstrings : (code depth).StringsEnd header) (n : Nat) :
    ∃ front u v tail, ls = front ++ (u ++ ':' :: v) :: tail ∧ header = front.flatten ++ u
      ∧ headerEndFrom n depth ls = if isCommentTail v then some (n + front.length) else none := by
  induction ls generalizing n depth header with
  | nil => contradiction
  | cons line ls ih =>
      rw [List.flatten_cons] at hcut
      cases hline : (code depth).splitTop? ':' line with
      | some parts =>
          obtain ⟨u, v⟩ := parts
          obtain ⟨hparts, hpasses, htop⟩ := splitTop?_eq_some_iff.mp hline
          have hall : (code depth).splitTop? ':' (line ++ ls.flatten)
              = some (u, v ++ ls.flatten) := by
            refine splitTop?_eq_some_iff.mpr ⟨?_, hpasses, htop⟩
            rw [hparts, List.append_assoc, List.cons_append]
          obtain ⟨rfl, -⟩ := Prod.mk.inj (Option.some.inj (hcut.symm.trans hall))
          exact ⟨[], header, v, ls, by rw [hparts]; rfl, rfl,
            headerEndFrom_cons_of_splitTop? h hline n⟩
      | none =>
          have hpasses := splitTop?_eq_none_iff.mp hline
          rw [splitTop?_append_of_passes hpasses, Option.map_eq_some_iff] at hcut
          obtain ⟨⟨header, body⟩, hlater, heq⟩ := hcut
          obtain ⟨rfl, rfl⟩ := Prod.mk.inj heq
          obtain ⟨hends, hstrings⟩ := along_append.mp hstrings
          -- The colon is still to come, so the line ends in a newline.
          cases h with
          | last ne free => contradiction
          | @cons start _ free later =>
              rw [run_line hends] at hlater hstrings
              obtain ⟨front, u, v, tail, rfl, rfl, hend⟩ := ih later hlater hstrings (n + 1)
              refine ⟨(start ++ ['\n']) :: front, u, v, tail, rfl, by simp, ?_⟩
              rw [headerEndFrom_cons_of_passes (.cons free later) hpasses, hend, List.length_cons,
                Nat.add_right_comm, Nat.add_assoc]

/-- Without a colon at the top level no line ends the header. -/
theorem headerEndFrom_of_passes (h : Text.IsLines ls)
    (hpasses : (code depth).Passes ':' ls.flatten) (hstrings : (code depth).StringsEnd ls.flatten)
    (n : Nat) : headerEndFrom n depth ls = none := by
  induction ls generalizing n depth with
  | nil => rfl
  | cons line ls ih =>
      rw [List.flatten_cons] at hpasses hstrings
      obtain ⟨hline, hpasses⟩ := along_append.mp hpasses
      obtain ⟨hends, hstrings⟩ := along_append.mp hstrings
      rw [headerEndFrom_cons_of_passes h hline]
      cases h with
      | last ne free => rfl
      | @cons start _ free later =>
          rw [run_line hends] at hpasses hstrings
          exact ih later hpasses hstrings (n + 1)

end Lines

/-! ## The header of the first definition -/

/-- What follows the colon is blank, or a comment behind blanks. -/
theorem isCommentTail_iff {tail : Text} :
    isCommentTail tail = true ↔ tail.isAllSpace = true ∨ tail.trimStart.head? = some '#' := by
  unfold isCommentTail
  rw [Bool.or_eq_true, List.isEmpty_iff]
  cases hstart : Text.trimStart tail with
  | nil =>
      have hblank := Text.trimStart_eq_nil_iff.mp hstart
      simp [Text.trim_of_isAllSpace hblank, hblank]
  | cons c t =>
      have hblank : tail.isAllSpace ≠ true := by
        rw [ne_eq, ← Text.trimStart_eq_nil_iff, hstart]
        exact List.cons_ne_nil c t
      have htrim : tail.trim = c :: Text.trimEnd t := by
        rw [Text.trim, hstart]
        exact Text.trimEndWhile_append_cons [] (Text.isSpace_of_trimStart_eq_cons hstart) t
      have hhash : Text.startsWith (c :: Text.trimEnd t) "#" = true ↔ some c = some '#' :=
        Text.startsWith_singleton_iff
      rw [htrim, hhash]
      simp [hblank]

/-- The first definition begins behind the indentation of the first line that defines something. -/
theorem exists_of_firstDefinition? {lines : List Text} {keyword : Keyword} {rest : Text}
    (h : Signature.firstDefinition? lines = some (keyword, rest)) :
    ∃ (front : List Text) (line : Text) (later : List Text), lines = front ++ line :: later
      ∧ (∀ l ∈ front, Definition.parse? l.trimStart = none)
      ∧ (Definition.parse? line.trimStart).isSome = true
      ∧ rest = line.trimStart ++ later.flatten := by
  induction lines with
  | nil => contradiction
  | cons line lines ih =>
      unfold Signature.firstDefinition? at h
      split at h
      · rename_i hparse
        obtain ⟨-, rfl⟩ := Prod.mk.inj (Option.some.inj h)
        exact ⟨[], line, lines, rfl, nofun, by rw [hparse]; rfl, rfl⟩
      · rename_i hparse
        obtain ⟨front, definition, later, rfl, hfront, hdefinition, hrest⟩ := ih h
        exact ⟨line :: front, definition, later, rfl, List.forall_mem_cons.mpr ⟨hparse, hfront⟩,
          hdefinition, hrest⟩

theorem headerEnd?_append {front later : List Text} {line : Text}
    (hfront : ∀ l ∈ front, Definition.parse? l.trimStart = none)
    (hline : (Definition.parse? line.trimStart).isSome = true) :
    headerEnd? (front ++ line :: later) = headerEndFrom front.length 0 (line :: later) := by
  unfold headerEnd?
  rw [Definition.findIdx?_append hfront hline, Option.bind_eq_bind, Option.bind_some,
    List.drop_left]

/-- The docstring and the signature agree on where a header ends, if no string is open at the end
of a line up to there.  Where the header of the signature ends at a colon, the number of the line
with this colon is the end for the docstring, unless something else than a comment follows it on the
line.  Where there is no colon at the top level, there is no end. -/
theorem headerEnd?_eq {source rest : Text} {keyword : Keyword}
    (hfirst : Signature.firstDefinition? source.chunks = some (keyword, rest)) :
    (∀ header body, outside.splitTop? ':' rest = some (header, body) → outside.StringsEnd header →
      ∃ (before : Text) (front : List Text) (u v : Text) (tail : List Text),
        source = before ++ rest
        ∧ source.chunks = front ++ (u ++ ':' :: v) :: tail ∧ before ++ header = front.flatten ++ u
        ∧ headerEnd? source.chunks
          = if v.isAllSpace = true ∨ v.trimStart.head? = some '#' then some front.length
            else none)
    ∧ (outside.splitTop? ':' rest = none → outside.StringsEnd rest →
      headerEnd? source.chunks = none) := by
  obtain ⟨above, line, later, hchunks, habove, hdefines, hrest⟩ := exists_of_firstDefinition? hfirst
  obtain ⟨indent, hline, hindent⟩ := Text.exists_eq_append_trimStart line
  have hlines : Text.IsLines (line :: later) :=
    (Text.isLines_chunks source).sublist (hchunks ▸ List.sublist_append_right _ _)
  have hflat : (line :: later).flatten = indent ++ rest := by
    rw [List.flatten_cons, hrest, ← List.append_assoc, ← hline]
  -- The indentation leaves the reader where it is.
  have hrun : (code 0).run indent = code 0 :=
    (Closed.of_isAllSpace (List.nil_subset _) hindent).run 0
  have hpasses : (code 0).Passes ':' indent :=
    along_of_isAllSpace hindent fun c hspace hcut => by rw [hcut.2] at hspace; contradiction
  have hstrings : ∀ t, outside.StringsEnd t → (code 0).StringsEnd (indent ++ t) := by
    intro t ht
    exact along_append.mpr ⟨along_of_isAllSpace hindent fun _ _ _ => rfl, hrun.symm ▸ ht⟩
  rw [hchunks, headerEnd?_append habove hdefines]
  refine ⟨fun header body hcut hheader => ?_, fun hnone hends => ?_⟩
  · have hindented : (code 0).splitTop? ':' (line :: later).flatten
        = some (indent ++ header, body) := by
      rw [hflat, splitTop?_append_of_passes hpasses, hrun, ← outside_eq, hcut]
      rfl
    obtain ⟨front, u, v, tail, hfront, hheader, hend⟩ :=
      headerEndFrom_of_splitTop? hlines hindented (hstrings header hheader) above.length
    refine ⟨above.flatten ++ indent, above ++ front, u, v, tail, ?_, ?_, ?_, ?_⟩
    · rw [← Text.flatten_chunks source, hchunks, List.flatten_append, hflat, List.append_assoc]
    · rw [hfront, List.append_assoc]
    · rw [List.append_assoc, hheader, List.flatten_append, List.append_assoc]
    · rw [hend, List.length_append]
      simp only [isCommentTail_iff]
  · refine headerEndFrom_of_passes hlines ?_ (hflat ▸ hstrings rest hends) _
    rw [hflat]
    exact along_append.mpr ⟨hpasses, hrun.symm ▸ splitTop?_eq_none_iff.mp hnone⟩

/-- A method with a decorator, a header of two lines with a comment that has a quote and a colon in
it, and a comment behind its colon. -/
def commentedHeader : Text := "@a\n  def f(b=\":\",  # it's: b\n    c=1):  # doc\n    pass\n"

/-- The same method without the colon. -/
def openHeader : Text := "@a\n  def f(b=\":\",  # it's: b\n    c=1)\n"

/-- The strings of both headers end on their lines, and the quote in the comment opens none. -/
theorem headerEnd?_commentedHeader :
    let header : Text := "def f(b=\":\",  # it's: b\n    c=1)".toList
    let body : Text := "  # doc\n    pass\n".toList
    Signature.firstDefinition? commentedHeader.chunks = some (.function, header ++ ':' :: body)
      ∧ outside.splitTop? ':' (header ++ ':' :: body) = some (header, body)
      ∧ outside.StringsEnd header
      ∧ (∃ (before : Text) (front : List Text) (u v : Text) (tail : List Text),
        commentedHeader = before ++ (header ++ ':' :: body)
          ∧ commentedHeader.chunks = front ++ (u ++ ':' :: v) :: tail
          ∧ before ++ header = front.flatten ++ u
          ∧ headerEnd? commentedHeader.chunks
            = if v.isAllSpace = true ∨ v.trimStart.head? = some '#' then some front.length
              else none)
      ∧ Signature.firstDefinition? openHeader.chunks = some (.function, header ++ ['\n'])
      ∧ outside.splitTop? ':' (header ++ ['\n']) = none ∧ outside.StringsEnd (header ++ ['\n'])
      ∧ headerEnd? openHeader.chunks = none := by
  intro header body
  have hfirst : Signature.firstDefinition? commentedHeader.chunks
      = some (.function, header ++ ':' :: body) := by decide +kernel
  have hcut : outside.splitTop? ':' (header ++ ':' :: body) = some (header, body) := by
    decide +kernel
  have hstrings : outside.StringsEnd header := by decide +kernel
  have hopen : Signature.firstDefinition? openHeader.chunks
      = some (.function, header ++ ['\n']) := by decide +kernel
  have hnone : outside.splitTop? ':' (header ++ ['\n']) = none := by decide +kernel
  have hends : outside.StringsEnd (header ++ ['\n']) := by decide +kernel
  exact ⟨hfirst, hcut, hstrings, (headerEnd?_eq hfirst).1 header body hcut hstrings, hopen, hnone,
    hends, (headerEnd?_eq hopen).2 hnone hends⟩

/-- Where a string runs over the end of a line the two part: the signature has its colon behind the
string, and the docstring takes the one in the string, which has code behind it. -/
example :
    let source : Text := "def f(a='x\\\n):'):\n    return a\n"
    (∃ rest, Signature.firstDefinition? source.chunks = some (.function, rest)
      ∧ (outside.splitTop? ':' rest).map Prod.snd = some "\n    return a\n".toList)
      ∧ headerEnd? source.chunks = none :=
  ⟨⟨_, rfl, by decide +kernel⟩, by decide +kernel⟩

end Docstring

end Weave
