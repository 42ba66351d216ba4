import Weave.Proofs.Text.Cut
import Weave.Proofs.Text.Trim
import Weave.Symbol.Definition

/-!
# Lines that start definitions

What a line has to do with definitions is read off three things: its indentation, whether a
decorator starts behind it, and the definition that is read behind it.

* Names: the name of a definition has no dot (`dot_not_mem_of_parse?`), so `localName` finds it in
  a qualified name.
* `parse?_append` and its companions say that white space at the end of a line makes no difference.
* `Moved` relates a line to one that says the same further to the left.  A line whose end was
  trimmed is one with no way in between (`moved_append`), a dedented one has moved by what it lost
  (`moved_drop`), and a moved line ends a definition that has moved as far (`Moved.endsBlock_eq`).
-/

namespace Weave

/-! ## Names -/

/-- The name without its owner: what follows the last dot. -/
def localName (qualifiedName : Text) : Text :=
  match Text.splitLast? "." qualifiedName with
  | some (_, name) => name
  | none => qualifiedName

theorem splitLast?_dot_eq_some_iff {q owner name : Text} :
    Text.splitLast? "." q = some (owner, name) ↔ q = owner ++ '.' :: name ∧ '.' ∉ name :=
  Text.splitLast?_singleton_eq_some_iff

theorem localName_append {name : Text} (h : '.' ∉ name) (owner : Text) :
    localName (owner ++ '.' :: name) = name := by
  have hsplit : Text.splitLast? "." (owner ++ '.' :: name) = some (owner, name) :=
    splitLast?_dot_eq_some_iff.mpr ⟨rfl, h⟩
  rw [localName, hsplit]

theorem localName_of_dot_not_mem {q : Text} (h : '.' ∉ q) : localName q = q := by
  rw [localName]
  cases hsplit : Text.splitLast? "." q with
  | none => rfl
  | some parts =>
      obtain ⟨hq, -⟩ := splitLast?_dot_eq_some_iff.mp hsplit
      rw [hq] at h
      simp at h

namespace Text

theorem isNameChar_eq_false_of_isSpace {c : Char} (h : isSpace c = true) :
    isNameChar c = false := by
  rw [← Bool.not_eq_true]
  intro hname
  have hcode := toNat_of_isNameChar hname
  simp only [isSpace, Bool.or_eq_true, Bool.and_eq_true, decide_eq_true_eq, beq_iff_eq] at h
  omega

theorem isNameChar_of_isNameStart {c : Char} (h : isNameStart c = true) : isNameChar c = true := by
  refine Bool.or_eq_true_iff.mpr ((Bool.or_eq_true_iff.mp h).imp_left fun halpha => ?_)
  exact Bool.or_eq_true_iff.mpr (.inl halpha)

end Text

namespace Definition

theorem name?_eq_some {t name : Text} (h : name? t = some name) :
    name ≠ [] ∧ ∀ c ∈ name, Text.isNameChar c = true := by
  unfold name? at h
  cases t with
  | nil => contradiction
  | cons c t =>
      dsimp only at h
      split at h
      · rename_i hstart
        have hc := Text.isNameChar_of_isNameStart hstart
        obtain rfl := Option.some.inj h
        refine ⟨?_, fun d hd => List.mem_takeWhile_imp hd⟩
        rw [List.takeWhile_cons_of_pos hc]
        exact List.cons_ne_nil _ _
      · contradiction

/-- A definition line has a keyword, white space behind it, and a name. -/
theorem parse?_eq_some_iff {t name : Text} {keyword : Keyword} :
    parse? t = some (keyword, name)
      ↔ ∃ rest, keyword? t = some (keyword, rest) ∧ (afterSpaces? rest).bind name? = some name := by
  unfold parse?
  simp only [Option.bind_eq_bind, Option.bind_eq_some_iff, Option.pure_def, Option.some.injEq,
    Prod.exists, Prod.mk.injEq]
  constructor
  · rintro ⟨k, rest, hkeyword, u, hspaces, n, hname, rfl, rfl⟩
    exact ⟨rest, hkeyword, u, hspaces, hname⟩
  · rintro ⟨rest, hkeyword, u, hspaces, hname⟩
    exact ⟨keyword, rest, hkeyword, u, hspaces, name, hname, rfl, rfl⟩

/-- The characters of a defined name may stand in a name, so none of them is a dot. -/
theorem dot_not_mem_of_parse? {t name : Text} {keyword : Keyword}
    (h : parse? t = some (keyword, name)) : '.' ∉ name := by
  obtain ⟨rest, -, hname⟩ := parse?_eq_some_iff.mp h
  obtain ⟨u, -, hname⟩ := Option.bind_eq_some_iff.mp hname
  intro hdot
  have hchar := (name?_eq_some hname).2 '.' hdot
  contradiction

/-! ## White space at the end -/

section Append

variable {more : Text} (hmore : more.isAllSpace = true)
include hmore

/-- White space does not go on a word. -/
theorem head_not_mem_of_isAllSpace (word : Text) (hword : word.any Text.isSpace = false) :
    ∀ c ∈ more.head?, c ∉ word := by
  intro c hc hmem
  have hspace := Text.isAllSpace_eq_true_iff.mp hmore c (List.mem_of_mem_head? hc)
  exact List.any_eq_false.mp hword c hmem hspace

/-- A reader behind white space that needs something to read. -/
theorem afterSpaces?_bind_append {α : Type} (read : Text → Option α) {f : α → α}
    (hnil : read [] = none) (hread : ∀ t, t ≠ [] → read (t ++ more) = (read t).map f) (t : Text) :
    (afterSpaces? (t ++ more)).bind read = ((afterSpaces? t).bind read).map f := by
  have hend : more.trimStart = [] := Text.trimStart_eq_nil_iff.mpr hmore
  cases t with
  | nil =>
      rw [List.nil_append]
      unfold afterSpaces?
      cases more with
      | nil => rfl
      | cons c more =>
          dsimp only
          rw [hend]
          split
          · exact hnil
          · rfl
  | cons c t =>
      rw [List.cons_append]
      unfold afterSpaces?
      dsimp only
      rw [← List.cons_append]
      split
      · rw [Option.bind_some, Option.bind_some]
        cases hblank : Text.isAllSpace (c :: t) with
        | true =>
            rw [Text.trimStart_append_of_isAllSpace hblank, hend,
              Text.trimStart_eq_nil_iff.mpr hblank, hnil]
            rfl
        | false =>
            have hne : Text.trimStart (c :: t) ≠ [] := by
              rw [ne_eq, Text.trimStart_eq_nil_iff, hblank]
              exact Bool.false_ne_true
            rw [Text.trimStart_append hblank, hread _ hne]
      · rfl

theorem keyword?_append (t : Text) :
    keyword? (t ++ more) = (keyword? t).map fun (keyword, rest) => (keyword, rest ++ more) := by
  have hasync := head_not_mem_of_isAllSpace hmore "async" rfl
  have hdef := head_not_mem_of_isAllSpace hmore "def" rfl
  have hclass := head_not_mem_of_isAllSpace hmore "class" rfl
  unfold keyword?
  rw [Text.dropPrefix?_append_right hasync, Text.dropPrefix?_append_right hdef,
    Text.dropPrefix?_append_right hclass]
  cases Text.dropPrefix? "async" t with
  | some rest =>
      have hrest := afterSpaces?_bind_append hmore (Text.dropPrefix? "def") rfl
        (fun u _ => Text.dropPrefix?_append_right hdef) rest
      simp only [Option.map_some, Option.bind_eq_bind, Option.pure_def, ← Option.bind_assoc, hrest]
      cases (afterSpaces? rest).bind (Text.dropPrefix? "def") <;> rfl
  | none =>
      dsimp only [Option.map_none]
      cases Text.dropPrefix? "def" t with
      | some rest => rfl
      | none => cases Text.dropPrefix? "class" t <;> rfl

theorem name?_append {t : Text} (h : t ≠ []) : name? (t ++ more) = name? t := by
  have hchars : more.takeWhile Text.isNameChar = [] := by
    cases more with
    | nil => rfl
    | cons c more =>
        have hc := Text.isAllSpace_eq_true_iff.mp hmore c List.mem_cons_self
        exact List.takeWhile_cons_of_neg (by simp [Text.isNameChar_eq_false_of_isSpace hc])
  cases t with
  | nil => exact absurd rfl h
  | cons c t =>
      unfold name?
      rw [List.cons_append]
      dsimp only
      rw [← List.cons_append, List.takeWhile_append, hchars, List.append_nil]
      split
      · split
        · rename_i hall
          rw [(List.takeWhile_prefix _).eq_of_length hall]
        · rfl
      · rfl

/-- White space behind a line makes no difference to what it defines. -/
theorem parse?_append (t : Text) : parse? (t ++ more) = parse? t := by
  have hname : ∀ rest,
      (afterSpaces? (rest ++ more)).bind name? = (afterSpaces? rest).bind name? := by
    intro rest
    have h := afterSpaces?_bind_append hmore name? (f := id) rfl
      (fun u hu => by rw [name?_append hmore hu, Option.map_id_fun, id]) rest
    rwa [Option.map_id_fun, id] at h
  refine Option.ext ?_
  rintro ⟨keyword, name⟩
  rw [parse?_eq_some_iff, parse?_eq_some_iff, keyword?_append hmore]
  constructor
  · rintro ⟨rest', hkeyword, hrest⟩
    obtain ⟨⟨k, rest⟩, hk, hpair⟩ := Option.map_eq_some_iff.mp hkeyword
    obtain ⟨rfl, rfl⟩ := Prod.mk.inj hpair
    exact ⟨rest, hk, (hname rest).symm.trans hrest⟩
  · rintro ⟨rest, hkeyword, hrest⟩
    exact ⟨rest ++ more, by rw [hkeyword]; rfl, (hname rest).trans hrest⟩

/-- White space behind a line makes no difference to whether it starts a decorator. -/
theorem startsWith_at_append (t : Text) : (t ++ more).startsWith "@" = t.startsWith "@" := by
  have hat := head_not_mem_of_isAllSpace hmore "@" rfl
  unfold Text.startsWith
  rw [Text.dropPrefix?_append_right hat, Option.isSome_map]

end Append

/-! ## The first character -/

/-- A definition starts with the first letter of one of its keywords. -/
theorem head_of_parse? {t name : Text} {keyword : Keyword} (h : parse? t = some (keyword, name)) :
    ∃ c rest, t = c :: rest ∧ c ∈ ['a', 'd', 'c'] := by
  obtain ⟨rest, hkeyword, -⟩ := parse?_eq_some_iff.mp h
  unfold keyword? at hkeyword
  split at hkeyword
  · rename_i after hasync
    have ht := Text.dropPrefix?_eq_some_iff.mp hasync
    exact ⟨'a', _, ht, by simp⟩
  · split at hkeyword
    · rename_i after hdef
      have ht := Text.dropPrefix?_eq_some_iff.mp hdef
      exact ⟨'d', _, ht, by simp⟩
    · obtain ⟨after, hclass, -⟩ := Option.map_eq_some_iff.mp hkeyword
      have ht := Text.dropPrefix?_eq_some_iff.mp hclass
      exact ⟨'c', _, ht, by simp⟩

/-- No white space stands in front of a definition that is read at the start of a line. -/
theorem trimStart_of_parse? {t name : Text} {keyword : Keyword}
    (h : parse? t = some (keyword, name)) : t.trimStart = t := by
  obtain ⟨c, rest, rfl, hc⟩ := head_of_parse? h
  have hspace : Text.isSpace c = false := by
    simp only [List.mem_cons, List.not_mem_nil, or_false] at hc
    rcases hc with rfl | rfl | rfl <;> rfl
  unfold Text.trimStart
  exact List.dropWhile_cons_of_neg (by simp [hspace])

/-- A decorator defines nothing. -/
theorem parse?_of_startsWith_at {t : Text} (h : t.startsWith "@" = true) : parse? t = none := by
  unfold Text.startsWith at h
  obtain ⟨rest, hat⟩ := Option.isSome_iff_exists.mp h
  have ht : t = '@' :: rest := Text.dropPrefix?_eq_some_iff.mp hat
  cases hparse : parse? t with
  | none => rfl
  | some found =>
      obtain ⟨c, rest', hc, hmem⟩ := head_of_parse? hparse
      obtain rfl : '@' = c := (List.cons.inj (ht.symm.trans hc)).1
      simp at hmem

/-- The number of the first line that defines something. -/
theorem findIdx?_append {front later : List Text} {line : Text}
    (hfront : ∀ l ∈ front, parse? l.trimStart = none)
    (hline : (parse? line.trimStart).isSome = true) :
    (front ++ line :: later).findIdx? (fun l => (parse? l.trimStart).isSome)
      = some front.length := by
  have hnone : front.findIdx? (fun l => (parse? l.trimStart).isSome) = none := by
    rw [List.findIdx?_eq_none_iff]
    intro l hl
    rw [hfront l hl]
    rfl
  rw [List.findIdx?_append, hnone, List.findIdx?_cons, hline]
  simp

end Definition

/-! ## Lines that say the same -/

theorem defines_eq_true_iff {name line : Text} {classesOnly : Bool} :
    defines name classesOnly line = true
      ↔ ∃ keyword, Definition.parse? line.trimStart = some (keyword, name)
          ∧ (classesOnly = true → keyword = .«class») := by
  unfold defines
  split
  · rename_i keyword found hparse
    rw [hparse]
    simp only [Bool.and_eq_true, beq_iff_eq, Bool.or_eq_true, Bool.not_eq_true', Option.some.injEq,
      Prod.mk.injEq]
    constructor
    · rintro ⟨rfl, hclass⟩
      refine ⟨keyword, ⟨rfl, rfl⟩, fun honly => ?_⟩
      rw [honly] at hclass
      exact hclass.resolve_left Bool.noConfusion
    · rintro ⟨k, ⟨rfl, rfl⟩, hclass⟩
      refine ⟨rfl, ?_⟩
      cases classesOnly with
      | false => exact .inl rfl
      | true => exact .inr (hclass rfl)
  · rename_i hparse
    rw [hparse]
    simp

/-- A blank line starts nothing. -/
theorem startsBlock_trimStart_of_isAllSpace {line : Text} (h : line.isAllSpace = true) :
    startsBlock line.trimStart = false := by
  rw [Text.trimStart_eq_nil_iff.mpr h]
  rfl

theorem isAllSpace_of_startsBlock {line : Text} (h : startsBlock line.trimStart = true) :
    line.isAllSpace = false := by
  rw [← Bool.not_eq_true]
  intro hblank
  rw [startsBlock_trimStart_of_isAllSpace hblank] at h
  contradiction

/-- A definition is ended by a line that starts one and stands no deeper. -/
theorem endsBlock_eq (indent : Nat) (line : Text) :
    endsBlock indent line = (decide (indentOf line ≤ indent) && startsBlock line.trimStart) := by
  unfold endsBlock
  cases hblank : line.isAllSpace with
  | true =>
      rw [startsBlock_trimStart_of_isAllSpace hblank]
      simp
  | false => rw [Bool.not_false, Bool.true_and]

/-- `line'` says the same about definitions as `line`, some columns further to the left. -/
structure Moved (columns : Nat) (line line' : Text) : Prop where
  indent_eq : indentOf line = indentOf line' + columns
  parse_eq : Definition.parse? line'.trimStart = Definition.parse? line.trimStart
  decorator_eq : line'.trimStart.startsWith "@" = line.trimStart.startsWith "@"

namespace Moved

variable {columns : Nat} {line line' : Text}

theorem refl (line : Text) : Moved 0 line line := ⟨rfl, rfl, rfl⟩

theorem defines_eq (h : Moved columns line line') (name : Text) (classesOnly : Bool) :
    defines name classesOnly line' = defines name classesOnly line := by
  unfold defines
  rw [h.parse_eq]

/-- A moved line ends a definition that has moved as far. -/
theorem endsBlock_eq (h : Moved columns line line') (indent : Nat) :
    endsBlock indent line' = endsBlock (indent + columns) line := by
  have hindent : indentOf line' ≤ indent ↔ indentOf line ≤ indent + columns := by
    rw [h.indent_eq]
    omega
  rw [Weave.endsBlock_eq, Weave.endsBlock_eq, startsBlock, startsBlock, h.parse_eq, h.decorator_eq,
    decide_eq_decide.mpr hindent]

end Moved

/-- A line that is not blank goes on behind its indentation. -/
theorem indentOf_lt_length {line : Text} (h : line.isAllSpace = false) :
    indentOf line < line.length := by
  refine Nat.lt_of_le_of_ne (List.takeWhile_prefix _).length_le fun hlength => ?_
  have hall := (List.takeWhile_prefix Text.isBlank).eq_of_length hlength
  have hspace : line.isAllSpace = true := by
    rw [Text.isAllSpace_eq_true_iff]
    intro c hc
    rw [← hall] at hc
    exact Text.isSpace_of_isBlank (List.mem_takeWhile_imp hc)
  rw [h] at hspace
  contradiction

/-- The indentation ends in a line that is not blank. -/
theorem indentOf_append {line : Text} (hline : line.isAllSpace = false) (more : Text) :
    indentOf (line ++ more) = indentOf line := by
  have hne := Nat.ne_of_lt (indentOf_lt_length hline)
  unfold indentOf at hne ⊢
  rw [List.takeWhile_append, if_neg hne]

theorem indentOf_trimEndWhile {p : Char → Bool} (hp : ∀ c, p c = true → Text.isSpace c = true)
    {line : Text} (hline : line.isAllSpace = false) :
    indentOf (Text.trimEndWhile p line) = indentOf line := by
  obtain ⟨w, hw, -⟩ := Text.exists_eq_trimEndWhile_append p line
  have hkept : (Text.trimEndWhile p line).isAllSpace = false := by
    rw [Text.isAllSpace_trimEndWhile hp, hline]
  have hindent := congrArg indentOf hw
  rw [indentOf_append hkept] at hindent
  exact hindent.symm

/-- White space at the end of a line makes no difference. -/
theorem moved_append {line before after : Text} (hline : line.isAllSpace = false)
    (hbefore : before.isAllSpace = true) (hafter : after.isAllSpace = true) :
    Moved 0 (line ++ before) (line ++ after) := by
  refine ⟨?_, ?_, ?_⟩
  · rw [indentOf_append hline, indentOf_append hline, Nat.add_zero]
  · rw [Text.trimStart_append hline, Text.trimStart_append hline,
      Definition.parse?_append hafter, Definition.parse?_append hbefore]
  · rw [Text.trimStart_append hline, Text.trimStart_append hline,
      Definition.startsWith_at_append hafter, Definition.startsWith_at_append hbefore]

/-- A line is its indentation and what stands behind it. -/
theorem exists_indentation (line : Text) :
    ∃ blanks rest, line = blanks ++ rest ∧ (∀ c ∈ blanks, Text.isBlank c = true)
      ∧ rest.takeWhile Text.isBlank = [] ∧ indentOf line = blanks.length := by
  refine ⟨line.takeWhile Text.isBlank, line.dropWhile Text.isBlank,
    List.takeWhile_append_dropWhile.symm, fun c hc => List.mem_takeWhile_imp hc, ?_, rfl⟩
  have hhead := List.head?_dropWhile_not Text.isBlank line
  cases hrest : line.dropWhile Text.isBlank with
  | nil => rfl
  | cons c rest =>
      rw [hrest] at hhead
      exact List.takeWhile_cons_of_neg (by simpa using hhead)

/-- A line that loses some of its indentation has moved by what it lost. -/
theorem moved_drop {line : Text} {columns : Nat} (h : columns ≤ indentOf line) :
    Moved columns line (line.drop columns) := by
  obtain ⟨blanks, rest, rfl, hblanks, hrest, hindent⟩ := exists_indentation line
  rw [hindent] at h
  have hdrop : (blanks ++ rest).drop columns = blanks.drop columns ++ rest :=
    List.drop_append_of_le_length h
  have hkept : ∀ c ∈ blanks.drop columns, Text.isBlank c = true :=
    fun c hc => hblanks c (List.mem_of_mem_drop hc)
  have hspace : ∀ s : Text, (∀ c ∈ s, Text.isBlank c = true) → s.isAllSpace = true :=
    fun s hs => Text.isAllSpace_eq_true_iff.mpr fun c hc => Text.isSpace_of_isBlank (hs c hc)
  have htrim : Text.trimStart ((blanks ++ rest).drop columns)
      = Text.trimStart (blanks ++ rest) := by
    rw [hdrop, Text.trimStart_append_of_isAllSpace (hspace _ hkept),
      Text.trimStart_append_of_isAllSpace (hspace _ hblanks)]
  refine ⟨?_, by rw [htrim], by rw [htrim]⟩
  rw [hindent, hdrop]
  unfold indentOf
  rw [List.takeWhile_append_of_pos hkept, hrest, List.append_nil, List.length_drop]
  omega

end Weave
