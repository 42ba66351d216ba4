import Weave.Proofs.Text.Cut
import Weave.Proofs.Text.Trim
import Weave.Section.Directive

/-!
# The grammar of heading directives

`Spelled` lists the five spellings of a directive, and `BeginsWith` says that a text begins with one
of them, with white space around it.

* `split?_eq_some_iff`: a directive is read exactly where a text begins with one.  The parts of the
  reader are turned into equations first: a word that may be absent (`optional_cases`), a name in
  parentheses (`parenthesized?_eq_some_iff`), and what closes a directive
  (`closing?_eq_some_iff`).
* `parse?_and_take`: its length is the number of bytes up to what follows it, and taking it from the
  start of a heading takes these bytes from the visible text.
-/

namespace Weave.Directive

/-! ## Spellings -/

/-- An ASCII capital and then ASCII letters and digits. -/
def IsName (name : Text) : Prop :=
  ∃ c rest, name = c :: rest ∧ c.isUpper = true ∧ ∀ d ∈ rest, d.isAlphanum = true

/-- The spellings of directives, without the white space around them. -/
inductive Spelled : Directive → Text → Prop where
  | collapsible : Spelled ⟨true, false, none⟩ "[!collapsible]"
  | expanded : Spelled ⟨true, true, none⟩ "[!collapsible:expand]"
  | named {name : Text} (h : IsName name) :
      Spelled ⟨false, false, some name⟩ ("[!(" ++ name ++ ")]")
  | collapsibleNamed {name : Text} (h : IsName name) :
      Spelled ⟨true, false, some name⟩ ("[!collapsible(" ++ name ++ ")]")
  | expandedNamed {name : Text} (h : IsName name) :
      Spelled ⟨true, true, some name⟩ ("[!collapsible:expand(" ++ name ++ ")]")

/-- `t` is `start` and `rest`, where `start` is a directive with all the white space around it. -/
structure BeginsWith (t : Text) (d : Directive) (start rest : Text) : Prop where
  text_eq : t = start ++ rest
  spelled : ∃ lead spelling gap, start = lead ++ spelling ++ gap ∧ lead.isAllSpace = true
    ∧ Spelled d spelling ∧ gap.isAllSpace = true
  ends : ∀ c ∈ rest.head?, Text.isSpace c = false

/-! ## Parts of the reader -/

/-- A word that may be absent stands at the start of the text, or the text is left alone. -/
theorem optional_cases (word t : Text) :
    (∃ rest, t = word ++ rest ∧ optional word t = (true, rest)) ∨ optional word t = (false, t) := by
  unfold optional
  cases h : Text.dropPrefix? word t with
  | none => exact .inr rfl
  | some rest => exact .inl ⟨rest, Text.dropPrefix?_eq_some_iff.mp h, rfl⟩

theorem parenthesized?_eq_some_iff {t name after : Text} :
    parenthesized? t = some (name, after) ↔ IsName name ∧ t = '(' :: (name ++ ')' :: after) := by
  constructor
  · intro h
    unfold parenthesized? at h
    split at h
    · rename_i c rest
      split at h
      · rename_i hc
        split at h
        · rename_i after' hdrop
          obtain ⟨rfl, rfl⟩ := Prod.mk.inj (Option.some.inj h)
          refine ⟨⟨c, _, rfl, hc, fun d hd => List.mem_takeWhile_imp hd⟩, ?_⟩
          rw [List.cons_append, ← hdrop, List.takeWhile_append_dropWhile]
        · contradiction
      · contradiction
    · contradiction
  · rintro ⟨⟨c, rest, rfl, hc, hrest⟩, rfl⟩
    have hclose : Char.isAlphanum ')' = false := rfl
    simp [parenthesized?, hc, hclose, List.dropWhile_append_of_pos hrest,
      List.takeWhile_append_of_pos hrest]

/-- The name, if there is one, and the bracket that closes a directive, after its words. -/
def closing? (collapsible expanded : Bool) (t : Text) : Option (Directive × Text) := do
  let (name, t) :=
    match parenthesized? t with
    | some (name, t) => (some name, t)
    | none => (none, t)
  let t ← Text.dropPrefix? "]" t
  if collapsible || name.isSome then some (⟨collapsible, expanded, name⟩, t.trimStart) else none

/-- A directive closes behind its words, which may then not be missing, or behind a name. -/
theorem closing?_eq_some_iff {collapsible expanded : Bool} {t rest : Text} {d : Directive} :
    closing? collapsible expanded t = some (d, rest) ↔
      ∃ after : Text, rest = after.trimStart ∧
        ((collapsible = true ∧ d = ⟨collapsible, expanded, none⟩ ∧ t = ']' :: after)
          ∨ ∃ name, IsName name ∧ d = ⟨collapsible, expanded, some name⟩
              ∧ t = '(' :: (name ++ ')' :: ']' :: after)) := by
  constructor
  · intro h
    unfold closing? at h
    cases hname : parenthesized? t with
    | none =>
        simp only [hname, Option.bind_eq_bind, Option.bind_eq_some_iff] at h
        obtain ⟨after, hclose, h⟩ := h
        split at h
        · rename_i hwords
          obtain ⟨rfl, rfl⟩ := Prod.mk.inj (Option.some.inj h)
          have hafter := Text.dropPrefix?_eq_some_iff.mp hclose
          exact ⟨after, rfl, .inl ⟨by simpa using hwords, rfl, hafter⟩⟩
        · contradiction
    | some found =>
        obtain ⟨name, behind⟩ := found
        simp only [hname, Option.bind_eq_bind, Option.bind_eq_some_iff] at h
        obtain ⟨after, hclose, h⟩ := h
        rw [if_pos (by simp)] at h
        obtain ⟨rfl, rfl⟩ := Prod.mk.inj (Option.some.inj h)
        obtain ⟨hvalid, ht⟩ := parenthesized?_eq_some_iff.mp hname
        rw [Text.dropPrefix?_eq_some_iff.mp hclose] at ht
        exact ⟨after, rfl, .inr ⟨name, hvalid, rfl, ht⟩⟩
  · rintro ⟨after, rfl, ⟨rfl, rfl, rfl⟩ | ⟨name, hname, rfl, rfl⟩⟩
    · rfl
    · have hread : parenthesized? ('(' :: (name ++ ')' :: ']' :: after))
          = some (name, ']' :: after) := parenthesized?_eq_some_iff.mpr ⟨hname, rfl⟩
      unfold closing?
      rw [hread]
      simp [Text.dropPrefix?]

/-! ## Directives at the start of a text -/

theorem Spelled.exists_bracket {d : Directive} {spelling : Text} (h : Spelled d spelling) :
    ∃ inside, spelling = '[' :: inside := by
  cases h <;> exact ⟨_, rfl⟩

/-- The white space around a directive is what trimming takes off. -/
theorem exists_beginsWith_iff {t rest : Text} {d : Directive} :
    (∃ start, BeginsWith t d start rest) ↔
      ∃ spelling after : Text, Spelled d spelling ∧ t.trimStart = spelling ++ after
        ∧ after.trimStart = rest := by
  constructor
  · rintro ⟨start, rfl, ⟨lead, spelling, gap, rfl, hlead, hspelled, hgap⟩, hends⟩
    obtain ⟨inside, hbracket⟩ := hspelled.exists_bracket
    refine ⟨spelling, gap ++ rest, hspelled, ?_, ?_⟩
    · rw [List.append_assoc, List.append_assoc, Text.trimStart_append_of_isAllSpace hlead, hbracket]
      exact Text.trimStart_cons rfl _
    · rw [Text.trimStart_append_of_isAllSpace hgap]
      cases rest with
      | nil => rfl
      | cons c rest => exact Text.trimStart_cons (hends c rfl) rest
  · rintro ⟨spelling, after, hspelled, ht, rfl⟩
    obtain ⟨lead, hlead, hspace⟩ := Text.exists_eq_append_trimStart t
    obtain ⟨gap, hgap, hspace'⟩ := Text.exists_eq_append_trimStart after
    refine ⟨lead ++ spelling ++ gap, ?_, ⟨lead, spelling, gap, rfl, hspace, hspelled, hspace'⟩, ?_⟩
    · rw [List.append_assoc, ← hgap, List.append_assoc, ← ht, ← hlead]
    · intro c hc
      obtain ⟨rest, hrest⟩ := List.head?_eq_some_iff.mp hc
      exact Text.isSpace_of_trimStart_eq_cons hrest

theorem split?_eq (t : Text) :
    split? t = (Text.dropPrefix? "[!" t.trimStart).bind fun t =>
      let words := optional "collapsible" t
      let more := if words.1 then optional ":expand" words.2 else (false, words.2)
      closing? words.1 more.1 more.2 := rfl

/-- A directive is read exactly if the text begins with one. -/
theorem split?_eq_some_iff {t rest : Text} {d : Directive} :
    split? t = some (d, rest) ↔ ∃ start, BeginsWith t d start rest := by
  rw [exists_beginsWith_iff, split?_eq, Option.bind_eq_some_iff]
  constructor
  · rintro ⟨inside, hopen, hread⟩
    rw [Text.dropPrefix?_eq_some_iff.mp hopen]
    dsimp only at hread
    rcases optional_cases "collapsible" inside with ⟨more, rfl, hword⟩ | hword
    · rw [hword, if_pos rfl] at hread
      rcases optional_cases ":expand" more with ⟨more, rfl, hexpand⟩ | hexpand
      · rw [hexpand, closing?_eq_some_iff] at hread
        obtain ⟨after, rfl, ⟨-, rfl, rfl⟩ | ⟨name, hname, rfl, rfl⟩⟩ := hread
        · exact ⟨_, after, .expanded, rfl, rfl⟩
        · exact ⟨_, after, .expandedNamed hname, by simp, rfl⟩
      · rw [hexpand, closing?_eq_some_iff] at hread
        obtain ⟨after, rfl, ⟨-, rfl, rfl⟩ | ⟨name, hname, rfl, rfl⟩⟩ := hread
        · exact ⟨_, after, .collapsible, rfl, rfl⟩
        · exact ⟨_, after, .collapsibleNamed hname, by simp, rfl⟩
    · rw [hword, if_neg Bool.false_ne_true, closing?_eq_some_iff] at hread
      obtain ⟨after, rfl, ⟨hwords, -⟩ | ⟨name, hname, rfl, rfl⟩⟩ := hread
      · contradiction
      · exact ⟨_, after, .named hname, by simp, rfl⟩
  · rintro ⟨spelling, after, hspelled, ht, rfl⟩
    rw [ht]
    cases hspelled with
    | collapsible =>
        refine ⟨"collapsible]" ++ after, rfl, ?_⟩
        exact closing?_eq_some_iff.mpr ⟨after, rfl, .inl ⟨rfl, rfl, rfl⟩⟩
    | expanded =>
        refine ⟨"collapsible:expand]" ++ after, rfl, ?_⟩
        exact closing?_eq_some_iff.mpr ⟨after, rfl, .inl ⟨rfl, rfl, rfl⟩⟩
    | @named name hname =>
        refine ⟨'(' :: (name ++ ')' :: ']' :: after), by simp [Text.dropPrefix?], ?_⟩
        exact closing?_eq_some_iff.mpr ⟨after, rfl, .inr ⟨name, hname, rfl, rfl⟩⟩
    | @collapsibleNamed name hname =>
        refine ⟨"collapsible" ++ '(' :: (name ++ ')' :: ']' :: after),
          by simp [Text.dropPrefix?], ?_⟩
        exact closing?_eq_some_iff.mpr ⟨after, rfl, .inr ⟨name, hname, rfl, rfl⟩⟩
    | @expandedNamed name hname =>
        refine ⟨"collapsible:expand" ++ '(' :: (name ++ ')' :: ']' :: after),
          by simp [Text.dropPrefix?], ?_⟩
        exact closing?_eq_some_iff.mpr ⟨after, rfl, .inr ⟨name, hname, rfl, rfl⟩⟩

theorem parse?_eq_some_iff {t : Text} {d : Directive} {n : Nat} :
    parse? t = some (d, n) ↔ ∃ start rest, BeginsWith t d start rest ∧ start.byteLength = n := by
  unfold parse?
  rw [Option.map_eq_some_iff]
  constructor
  · rintro ⟨⟨d', rest⟩, hsplit, hpair⟩
    obtain ⟨rfl, hn⟩ := Prod.mk.inj hpair
    obtain ⟨start, hbegins⟩ := split?_eq_some_iff.mp hsplit
    refine ⟨start, rest, hbegins, ?_⟩
    rw [hbegins.text_eq, Text.byteLength_append] at hn
    omega
  · rintro ⟨start, rest, hbegins, rfl⟩
    refine ⟨(d, rest), split?_eq_some_iff.mpr ⟨start, hbegins⟩, Prod.ext rfl ?_⟩
    show Text.byteLength t - Text.byteLength rest = Text.byteLength start
    rw [hbegins.text_eq, Text.byteLength_append]
    omega

-- White space counts by its bytes, behind the directive as well.
example : parse? "[!(Hint)]\u3000Two pointers" = some (⟨false, false, some "Hint"⟩, 12) := by
  decide

/-! ## Directives taken from headings -/

/-- A directive in front is taken with the text that it leaves empty, or with its own part of the
text. -/
theorem take_of_beginsWith {t start rest : Text} {d : Directive} (h : BeginsWith t d start rest)
    (more : List Inline) :
    take (.text t :: more) = (d, if rest = [] then more else .text rest :: more) := by
  have hsplit := split?_eq_some_iff.mpr ⟨start, h⟩
  cases rest with
  | nil => simp [take, hsplit]
  | cons c rest => simp [take, hsplit]

/-- Content that does not begin with a text with a directive in front is left alone. -/
theorem take_of_forall_parse?_eq_none {content : List Inline}
    (h : ∀ t more, content = .text t :: more → parse? t = none) :
    take content = (plain, content) := by
  unfold take
  split
  · rename_i t more
    have hsplit : split? t = none := Option.map_eq_none_iff.mp (h t more rfl)
    rw [hsplit]
  · rfl

/-- A text begins with a directive exactly if this is read from it, and its length is the number of
bytes up to what follows it and the white space behind it.  Taking it from a heading leaves the
visible text without these bytes, and what is left of the first text goes if it is empty; any other
heading is left alone. -/
theorem parse?_and_take :
    (∀ t d n, parse? t = some (d, n)
      ↔ ∃ start rest, BeginsWith t d start rest ∧ start.byteLength = n) ∧
    ∀ content : List Inline,
      (∃ t more d n, content = .text t :: more ∧ parse? t = some (d, n)
          ∧ (take content).1 = d
          ∧ (∃ start, Inline.plainTextOf content = start ++ Inline.plainTextOf (take content).2
              ∧ start.byteLength = n)
          ∧ ((take content).2 = more
              ∨ ∃ kept, kept ≠ [] ∧ (take content).2 = .text kept :: more))
        ∨ ((∀ t more, content = .text t :: more → parse? t = none)
          ∧ take content = (plain, content)) := by
  refine ⟨fun t d n => parse?_eq_some_iff, fun content => ?_⟩
  by_cases hnone : ∀ t more, content = .text t :: more → parse? t = none
  · exact .inr ⟨hnone, take_of_forall_parse?_eq_none hnone⟩
  · obtain ⟨t, more, rfl, hsome⟩ : ∃ t more, content = .text t :: more ∧ parse? t ≠ none := by
      simpa using hnone
    obtain ⟨⟨d, n⟩, hparse⟩ := Option.ne_none_iff_exists'.mp hsome
    obtain ⟨start, rest, hbegins, hn⟩ := parse?_eq_some_iff.mp hparse
    refine .inl ⟨t, more, d, n, rfl, hparse, ?_⟩
    rw [take_of_beginsWith hbegins more]
    refine ⟨rfl, ⟨start, ?_, hn⟩, ?_⟩
    · rw [Inline.plainTextOf, Inline.plainText, hbegins.text_eq, List.append_assoc]
      split
      · rename_i hrest
        rw [hrest, List.nil_append]
      · rfl
    · by_cases hrest : rest = []
      · exact .inl (if_pos hrest)
      · exact .inr ⟨rest, hrest, if_neg hrest⟩

end Weave.Directive
