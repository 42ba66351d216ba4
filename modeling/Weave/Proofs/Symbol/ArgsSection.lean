import Weave.Proofs.Symbol.DefinitionLine
import Weave.Proofs.Symbol.WrittenParameter
import Weave.Symbol.Docstring

/-!
# Sections of parameters as they are written

A docstring describes the parameters of a function in a section (`ArgsSection`): a header, entries
at one indentation below it, and lines that go on with the description of an entry and stand deeper.
Blank lines may stand anywhere between.  The section ends with the docstring, or at a line that
stands no deeper than the header.

* `isArgsHeader_eq_true_iff` says which lines are headers, and `entry?_text` how the line of an
  entry is read.
* `readEntries_more` is the run over the lines below an entry.  All of them go on with it, also
  those that look like entries, since they stand deeper.
* `readEntries_entries` is the run over the entries, by induction on them, and
  `argDescriptions_of_lines` puts the parts together.
-/

namespace Weave

namespace Docstring

/-! ## Written form -/

/-- A title with a colon behind it, and white space around both. -/
inductive IsArgsHeader : Text → Prop where
  | mk {title : Text} (isTitle : title ∈ sectionTitles) (before gap after : Padding) :
      IsArgsHeader (before.text ++ (title ++ (gap.text ++ ':' :: after.text)))

/-- A letter or an underscore, and letters, digits and underscores behind it. -/
structure EntryName where
  first : Char
  rest : Text
  isStart : Text.isNameStart first = true
  isName : ∀ c ∈ rest, Text.isNameChar c = true

def EntryName.text (n : EntryName) : Text := n.first :: n.rest

/-- A type in parentheses. -/
structure EntryType where
  text : Text
  noClosing : ')' ∉ text
  after : Padding

/-- A type with its parentheses, if there is one. -/
def EntryType.written : Option EntryType → Text
  | none => []
  | some type => '(' :: (type.text ++ ')' :: type.after.text)

/-- The line that an entry begins with. -/
structure EntryLine where
  indent : Padding
  stars : Nat
  stars_le : stars ≤ 2
  name : EntryName
  gap : Padding
  type : Option EntryType
  description : Text

namespace EntryLine

variable (e : EntryLine)

/-- What stands behind the name. -/
def ending : Text := e.gap.text ++ (EntryType.written e.type ++ ':' :: e.description)

def text : Text :=
  e.indent.text ++ (List.replicate e.stars '*' ++ (e.name.text ++ e.ending))

end EntryLine

/-- An entry with the lines below it: blank ones, and ones that stand deeper than the entry. -/
structure Entry where
  line : EntryLine
  more : List Text
  more_deeper : ∀ l ∈ more, l.isAllSpace = false → indentOf line.text < indentOf l

namespace Entry

variable (e : Entry)

def lines : List Text := e.line.text :: e.more

/-- The pieces of the description without the white space around them, with single spaces between
those that are not empty. -/
def description : Text :=
  Text.join " " (((e.line.description :: e.more).map Text.trim).filter (!·.isEmpty))

end Entry

/-- The lines of a docstring with a section of parameters. -/
structure ArgsSection where
  before : List Text
  header : Text
  gap : List Text
  indent : Nat
  entries : List Entry
  rest : List Text
  before_free : ∀ line ∈ before, ¬ IsArgsHeader line
  isHeader : IsArgsHeader header
  gap_blank : ∀ line ∈ gap, line.isAllSpace = true
  deeper : indentOf header < indent
  aligned : ∀ e ∈ entries, indentOf e.line.text = indent
  ends : ∀ line ∈ rest.head?, line.isAllSpace = false ∧ indentOf line ≤ indentOf header

def ArgsSection.lines (s : ArgsSection) : List Text :=
  s.before ++ s.header :: (s.gap ++ (s.entries.flatMap Entry.lines ++ s.rest))

/-! ## Headers -/

theorem trimEnd_of_mem_sectionTitles {title : Text} (h : title ∈ sectionTitles) :
    title.trimEnd = title := by
  simp only [sectionTitles, List.mem_cons, List.not_mem_nil, or_false] at h
  rcases h with rfl | rfl | rfl | rfl <;> decide

theorem exists_cons_of_mem_sectionTitles {title : Text} (h : title ∈ sectionTitles) :
    ∃ c t, title = c :: t ∧ Text.isSpace c = false := by
  simp only [sectionTitles, List.mem_cons, List.not_mem_nil, or_false] at h
  rcases h with rfl | rfl | rfl | rfl <;> exact ⟨_, _, rfl, rfl⟩

/-- The headers of a section are the lines that are written as one. -/
theorem isArgsHeader_eq_true_iff {line : Text} : isArgsHeader line = true ↔ IsArgsHeader line := by
  constructor
  · intro h
    unfold isArgsHeader at h
    split at h
    · rename_i title hcolon
      rw [Text.dropSuffix?_eq_some_iff] at hcolon
      obtain ⟨before, hbefore, hspace⟩ := Text.exists_eq_append_trimStart line
      obtain ⟨after, hafter, hend⟩ :=
        Text.exists_eq_trimEndWhile_append Text.isSpace line.trimStart
      obtain ⟨gap, hgap, hinner⟩ := Text.exists_eq_trimEndWhile_append Text.isSpace title
      have hline : line = before ++ (title.trimEnd ++ (gap ++ ':' :: after)) := by
        have hcut : line.trimStart = title ++ ":".toList ++ after := by
          rw [← hcolon]
          exact hafter
        have htitle : title = title.trimEnd ++ gap := hgap
        rw [htitle] at hcut
        rw [hcut] at hbefore
        simpa using hbefore
      rw [hline]
      exact .mk (by simpa using h) ⟨before, hspace⟩
        ⟨gap, Text.isAllSpace_eq_true_iff.mpr hinner⟩ ⟨after, Text.isAllSpace_eq_true_iff.mpr hend⟩
    · contradiction
  · intro h
    cases h with
    | @mk title isTitle before gap after =>
        obtain ⟨c, t, rfl, hc⟩ := exists_cons_of_mem_sectionTitles isTitle
        have htrim : Text.trim (before.text ++ (c :: t ++ (gap.text ++ ':' :: after.text)))
            = c :: t ++ gap.text ++ ":".toList := by
          have hpadded := Text.trim_padded before.isAllSpace after.isAllSpace hc
            (t ++ gap.text ++ [':'])
          have hcolon : Text.trimEnd (c :: (t ++ gap.text) ++ [':'])
              = c :: (t ++ gap.text) ++ [':'] := Text.trimEndWhile_append_cons _ rfl []
          simpa using hpadded.trans hcolon
        have hcut : Text.dropSuffix? ":" (c :: t ++ gap.text ++ ":".toList)
            = some (c :: t ++ gap.text) := Text.dropSuffix?_eq_some_iff.mpr rfl
        have hend : Text.trimEnd (c :: t ++ gap.text) = c :: t := by
          have hgap := Text.isAllSpace_eq_true_iff.mp gap.isAllSpace
          exact (Text.trimEndWhile_append_of_forall _ hgap).trans
            (trimEnd_of_mem_sectionTitles isTitle)
        unfold isArgsHeader
        rw [htrim, hcut]
        dsimp only
        rw [hend]
        simpa using isTitle

instance (line : Text) : Decidable (IsArgsHeader line) :=
  decidable_of_iff _ isArgsHeader_eq_true_iff

/-! ## The line of an entry -/

theorem afterType_parentheses {inner : Text} (h : ')' ∉ inner) (rest : Text) :
    afterType ('(' :: (inner ++ ')' :: rest)) = rest.trimStart := by
  have hsplit : Text.splitFirst? ")" (inner ++ ')' :: rest) = some (inner, rest) :=
    Text.splitFirst?_singleton_eq_some_iff.mpr ⟨rfl, h⟩
  rw [afterType, hsplit]

namespace EntryLine

variable (e : EntryLine)

theorem exists_text_eq : ∃ c t, e.text = e.indent.text ++ c :: t ∧ Text.isSpace c = false := by
  unfold text EntryName.text
  cases e.stars with
  | zero =>
      refine ⟨e.name.first, e.name.rest ++ e.ending, rfl, ?_⟩
      rw [← Bool.not_eq_true]
      intro hspace
      have hname := Text.isNameChar_of_isNameStart e.name.isStart
      rw [Text.isNameChar_eq_false_of_isSpace hspace] at hname
      contradiction
  | succ n => exact ⟨'*', _, rfl, rfl⟩

theorem isAllSpace_text : e.text.isAllSpace = false := by
  obtain ⟨c, t, htext, hc⟩ := e.exists_text_eq
  rw [htext, Text.isAllSpace_append]
  simp [Text.isAllSpace, hc]

theorem trimStart_text :
    e.text.trimStart = List.replicate e.stars '*' ++ (e.name.text ++ e.ending) := by
  obtain ⟨c, t, htext, hc⟩ := e.exists_text_eq
  have hbody : List.replicate e.stars '*' ++ (e.name.text ++ e.ending) = c :: t :=
    List.append_cancel_left htext
  rw [htext, Text.trimStart_append_of_isAllSpace e.indent.isAllSpace, Text.trimStart_cons hc, hbody]

/-- The stars are taken off, and no other character. -/
theorem drop_stars :
    (List.replicate e.stars '*' ++ (e.name.text ++ e.ending)).drop
        (min 2 ((List.replicate e.stars '*' ++ (e.name.text ++ e.ending)).takeWhile
          (· == '*')).length)
      = e.name.text ++ e.ending := by
  have hfirst : (e.name.first == '*') = false := by
    rw [beq_eq_false_iff_ne]
    intro hstar
    have hstart := e.name.isStart
    rw [hstar] at hstart
    contradiction
  have hstars : (List.replicate e.stars '*' ++ (e.name.text ++ e.ending)).takeWhile (· == '*')
      = List.replicate e.stars '*' := by
    rw [List.takeWhile_append_of_pos (by simp)]
    simp [EntryName.text, hfirst]
  rw [hstars, List.length_replicate, Nat.min_eq_right e.stars_le]
  exact List.drop_left' (by simp)

theorem notName_of_mem_head?_ending : ∀ c ∈ e.ending.head?, Text.isNameChar c = false := by
  intro c hc
  unfold ending at hc
  cases hgap : e.gap.text with
  | cons d gap =>
      rw [hgap] at hc
      obtain rfl : d = c := by simpa using hc
      apply Text.isNameChar_eq_false_of_isSpace
      exact Text.isAllSpace_eq_true_iff.mp e.gap.isAllSpace d (by simp [hgap])
  | nil =>
      rw [hgap] at hc
      cases htype : e.type with
      | none =>
          obtain rfl : ':' = c := by simpa [htype, EntryType.written] using hc
          decide
      | some type =>
          obtain rfl : '(' = c := by simpa [htype, EntryType.written] using hc
          decide

theorem name?_text : Definition.name? (e.name.text ++ e.ending) = some e.name.text := by
  have hname : ∀ c ∈ e.name.text, Text.isNameChar c = true := by
    intro c hc
    rcases List.mem_cons.mp hc with rfl | hc
    · exact Text.isNameChar_of_isNameStart e.name.isStart
    · exact e.name.isName c hc
  have hending : e.ending.takeWhile Text.isNameChar = [] := by
    have hnone := e.notName_of_mem_head?_ending
    cases hrest : e.ending with
    | nil => rfl
    | cons c rest => exact List.takeWhile_cons_of_neg (by simp [hnone c (by simp [hrest])])
  have hword : (e.name.text ++ e.ending).takeWhile Text.isNameChar = e.name.text := by
    rw [List.takeWhile_append_of_pos hname, hending, List.append_nil]
  show (if Text.isNameStart e.name.first = true then _ else _) = _
  rw [if_pos e.name.isStart]
  exact congrArg some hword

/-- The type is skipped with the white space around it. -/
theorem afterType_ending : afterType (Text.trimStart e.ending) = ':' :: e.description := by
  have htrim : ∀ c t, Text.isSpace c = false → Text.trimStart (c :: t) = c :: t :=
    fun c t hc => Text.trimStart_cons hc t
  unfold ending
  rw [Text.trimStart_append_of_isAllSpace e.gap.isAllSpace]
  cases e.type with
  | none =>
      rw [EntryType.written, List.nil_append, htrim ':' _ rfl]
      rfl
  | some type =>
      rw [EntryType.written, List.cons_append, htrim '(' _ rfl, List.append_assoc, List.cons_append,
        afterType_parentheses type.noClosing,
        Text.trimStart_append_of_isAllSpace type.after.isAllSpace, htrim ':' _ rfl]

/-- The line of an entry is read as its name and its description. -/
theorem entry?_text : entry? e.text = some (e.name.text, e.description.trim) := by
  unfold entry?
  dsimp only
  rw [e.trimStart_text, e.drop_stars, e.name?_text, Option.bind_eq_bind, Option.bind_some,
    List.drop_left, e.afterType_ending]
  rfl

end EntryLine

/-! ## The lines below an entry -/

/-- A description with the further lines joined to it. -/
def joinLines (description : Text) (more : List Text) : Text :=
  Text.join " " ((description :: more.map Text.trim).filter (!·.isEmpty))

theorem joinLines_nil (description : Text) : joinLines description [] = description := by
  unfold joinLines
  cases description with
  | nil => rfl
  | cons c t => rfl

theorem joinLines_blank (description : Text) {line : Text} (h : line.isAllSpace = true)
    (more : List Text) : joinLines description (line :: more) = joinLines description more := by
  unfold joinLines
  simp [Text.trim_of_isAllSpace h, List.filter_cons]

theorem trim_ne_nil {line : Text} (h : line.isAllSpace = false) : line.trim ≠ [] := by
  intro hnil
  have hspace : Text.isAllSpace line.trimStart = true := by
    rw [← Text.isAllSpace_trimEndWhile (fun _ => id)]
    show Text.isAllSpace line.trim = true
    rw [hnil]
    rfl
  rw [← Text.trimStart_eq_nil_iff, Text.trimStart_trimStart, Text.trimStart_eq_nil_iff, h] at hspace
  contradiction

/-- A line is joined to a description behind a single space, unless the description is empty. -/
theorem joinLines_joinLine (description : Text) {line : Text} (h : line.isAllSpace = false)
    (more : List Text) :
    joinLines (joinLine description line) more = joinLines description (line :: more) := by
  have hline := trim_ne_nil h
  unfold joinLines joinLine
  cases description with
  | nil => simp
  | cons c t =>
      have hspace : " ".toList = [' '] := rfl
      simp [hline, hspace, Text.join_cons]

theorem continueLast_concat (line : Text) (entries : List (Text × Text)) (name description : Text) :
    continueLast line (entries ++ [(name, description)])
      = entries ++ [(name, joinLine description line)] := by
  induction entries with
  | nil => rfl
  | cons entry entries ih =>
      rw [List.cons_append, List.cons_append, ← ih]
      cases entries <;> rfl

variable {header indent : Nat} {entryIndent : Option Nat} {entries : List (Text × Text)}

theorem readEntries_blank {line : Text} (h : line.isAllSpace = true) (lines : List Text) :
    readEntries header entryIndent entries (line :: lines)
      = readEntries header entryIndent entries lines := by
  rw [readEntries, if_pos h]

theorem readEntries_blanks {gap : List Text} (h : ∀ line ∈ gap, line.isAllSpace = true)
    (lines : List Text) :
    readEntries header entryIndent entries (gap ++ lines)
      = readEntries header entryIndent entries lines := by
  induction gap with
  | nil => rfl
  | cons line gap ih =>
      rw [List.cons_append, readEntries_blank (h line List.mem_cons_self),
        ih fun l hl => h l (List.mem_cons_of_mem line hl)]

/-- Each line that stands deeper than the last entry is joined to its description. -/
theorem readEntries_more (hdeeper : header < indent) (name description : Text) {more : List Text}
    (h : ∀ l ∈ more, l.isAllSpace = false → indent < indentOf l) (lines : List Text) :
    readEntries header (some indent) (entries ++ [(name, description)]) (more ++ lines)
      = readEntries header (some indent) (entries ++ [(name, joinLines description more)])
          lines := by
  induction more generalizing description with
  | nil => rw [joinLines_nil, List.nil_append]
  | cons line more ih =>
      have hlater := fun d => ih d fun l hl => h l (List.mem_cons_of_mem line hl)
      rw [List.cons_append]
      cases hspace : line.isAllSpace with
      | true => rw [readEntries_blank hspace, hlater, joinLines_blank description hspace]
      | false =>
          have hline : indent < indentOf line := h line List.mem_cons_self hspace
          have hbelow : ¬ indentOf line ≤ header := by omega
          have hdeep : ¬ indentOf line ≤ indent := by omega
          rw [readEntries, hspace, if_neg Bool.false_ne_true]
          simp only [if_neg hbelow, Option.all_some, decide_eq_true_eq, if_neg hdeep]
          rw [continueLast_concat, hlater, joinLines_joinLine description hspace]

/-! ## The entries of a section -/

/-- A line that stands no deeper than the header ends the section, as the end of the text does. -/
theorem readEntries_end {rest : List Text}
    (h : ∀ line ∈ rest.head?, line.isAllSpace = false ∧ indentOf line ≤ header) :
    readEntries header entryIndent entries rest = entries := by
  cases rest with
  | nil => rfl
  | cons line rest =>
      obtain ⟨hspace, hindent⟩ := h line rfl
      rw [readEntries, hspace, if_neg Bool.false_ne_true]
      exact if_pos hindent

/-- A line that is written as an entry begins one, unless it stands deeper than the entry before. -/
theorem readEntries_entry (e : EntryLine) (hdeeper : header < indentOf e.text)
    (hindent : entryIndent.all (indentOf e.text ≤ ·) = true) (lines : List Text) :
    readEntries header entryIndent entries (e.text :: lines)
      = readEntries header (some (indentOf e.text))
          (entries ++ [(e.name.text, e.description.trim)]) lines := by
  have hbelow : ¬ indentOf e.text ≤ header := by omega
  rw [readEntries, e.isAllSpace_text, if_neg Bool.false_ne_true]
  simp only [if_neg hbelow, hindent, if_true, e.entry?_text]

/-- The run over the entries of a section. -/
theorem readEntries_entries (hdeeper : header < indent)
    (hindent : entryIndent.all (indent ≤ ·) = true) {written : List Entry}
    (haligned : ∀ e ∈ written, indentOf e.line.text = indent) {rest : List Text}
    (hrest : ∀ line ∈ rest.head?, line.isAllSpace = false ∧ indentOf line ≤ header) :
    readEntries header entryIndent entries (written.flatMap Entry.lines ++ rest)
      = entries ++ written.map fun e => (e.line.name.text, e.description) := by
  induction written generalizing entryIndent entries with
  | nil => simpa using readEntries_end hrest
  | cons e written ih =>
      have he : indentOf e.line.text = indent := haligned e List.mem_cons_self
      have hmore : ∀ l ∈ e.more, l.isAllSpace = false → indent < indentOf l := he ▸ e.more_deeper
      have hlater : readEntries header (some indent)
            (entries ++ [(e.line.name.text, e.description)])
            (written.flatMap Entry.lines ++ rest)
          = entries ++ [(e.line.name.text, e.description)]
            ++ written.map fun e => (e.line.name.text, e.description) :=
        ih (by simp) fun e he => haligned e (List.mem_cons_of_mem _ he)
      have hdescription : joinLines e.line.description.trim e.more = e.description := rfl
      rw [List.flatMap_cons, Entry.lines, List.append_assoc, List.cons_append,
        readEntries_entry e.line (he ▸ hdeeper) (he ▸ hindent), he,
        readEntries_more hdeeper _ _ hmore, hdescription, hlater, List.map_cons,
        List.append_assoc, List.singleton_append]

/-- A section of parameters gives one pair for each of its entries, in order: the name without its
stars, and the description with the lines that go on with it. -/
theorem argDescriptions_of_lines (s : ArgsSection) {doc : Text} (h : doc.lines = s.lines) :
    argDescriptions doc = s.entries.map fun e => (e.line.name.text, e.description) := by
  have hbefore : ∀ line ∈ s.before, (!isArgsHeader line) = true := by
    intro line hline
    have hfree := s.before_free line hline
    rw [← isArgsHeader_eq_true_iff] at hfree
    simpa using hfree
  have hheader : (!isArgsHeader s.header) = false := by
    rw [isArgsHeader_eq_true_iff.mpr s.isHeader]
    rfl
  have hfound : doc.lines.dropWhile (!isArgsHeader ·)
      = s.header :: (s.gap ++ (s.entries.flatMap Entry.lines ++ s.rest)) := by
    rw [h, ArgsSection.lines, List.dropWhile_append_of_pos hbefore,
      List.dropWhile_cons_of_neg (by simp [hheader])]
  unfold argDescriptions
  rw [hfound]
  dsimp only
  rw [readEntries_blanks s.gap_blank, readEntries_entries s.deeper rfl s.aligned s.ends,
    List.nil_append]

/-- A section with a line that looks like an entry and stands below one, and with an entry that says
nothing on its own line. -/
def keyAndRest : ArgsSection where
  before := ["Get a value.".toList, []]
  header := "    Args:"
  gap := [[]]
  indent := 8
  entries :=
    let nothing : Padding := ⟨"", rfl⟩
    let space : Padding := ⟨" ", rfl⟩
    let indent : Padding := ⟨"        ", rfl⟩
    let key : EntryName := ⟨'k', "ey", rfl, List.all_eq_true.mp (by decide)⟩
    let rest : EntryName := ⟨'r', "est", rfl, List.all_eq_true.mp (by decide)⟩
    [⟨⟨indent, 0, by decide, key, space, some ⟨"int", by decide, nothing⟩, " The key"⟩,
        ["            to: look up.".toList, [], "          (see below)".toList], by decide +kernel⟩,
      ⟨⟨indent, 1, by decide, rest, nothing, none, []⟩,
        ["            All others.".toList], by decide +kernel⟩]
  rest := ["    Returns:".toList, "        value: The value.".toList]
  before_free := by decide +kernel
  isHeader := by decide +kernel
  gap_blank := by decide
  deeper := by decide
  aligned := by decide
  ends := by decide

theorem argDescriptions_keyAndRest :
    let doc : Text := "Get a value.\n\n    Args:\n\n        key (int): The key\n"
      ++ "            to: look up.\n\n          (see below)\n        *rest:\n"
      ++ "            All others.\n    Returns:\n        value: The value.\n"
    doc.lines = keyAndRest.lines
      ∧ argDescriptions doc
        = [("key".toList, "The key to: look up. (see below)".toList),
          ("rest".toList, "All others.".toList)] := by
  intro doc
  have hlines : doc.lines = keyAndRest.lines := by decide +kernel
  refine ⟨hlines, ?_⟩
  rw [argDescriptions_of_lines keyAndRest hlines]
  decide +kernel

end Docstring

end Weave
