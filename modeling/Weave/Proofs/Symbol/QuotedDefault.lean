import Weave.Proofs.Symbol.ParameterList
import Weave.Proofs.Text.Replace
import Weave.Proofs.Text.Squeeze

/-!
# Default values in quotes

The readers of a header know strings when they cut out a default value.  Normalization, which a
default value and the text of the signature go through, does not.

* `normalizeSpace_eq` makes normalization the words with single spaces, and replacements in turn.
  `normalizeSpace_eq_self_iff` says which texts it leaves as they are (`KeepsSpacing`).
* A quote stays, and what stands on its two sides is normalized apart, so a literal in a header
  becomes what it becomes on its own (`normalizeSpace_quoted_isInfix`).
* `ReadHeader` is a header with the texts that a signature is read from, and `QuotedDefault` one of
  its parameters with a literal as the default value.
* `recorded_literal` puts this together: the recorded default value is the normalized literal, which
  is in the text of the signature, and it is the literal exactly if this keeps its spacing.
-/

namespace Weave

open Nesting

namespace Signature

/-! ## Normalized spacing -/

/-- What normalization replaces after it has made single spaces, in turn. -/
def spacingRules : List (Text × Text) :=
  [("( ", "("), (", )", ")"), (",)", ")"), (" )", ")"), ("[ ", "["), (" ]", "]")]

theorem normalizeSpace_eq (t : Text) :
    normalizeSpace t = Text.replaceAll spacingRules t.squeeze := rfl

theorem shortens_spacingRules : Text.Shortens spacingRules := by
  unfold Text.Shortens
  decide

theorem quote_notMem_spacingRules {quote : Char} (h : IsQuote quote) :
    ∀ rule ∈ spacingRules, quote ∉ rule.1 := by
  rcases h with rfl | rfl <;> decide

theorem isSpace_quote {quote : Char} (h : IsQuote quote) : Text.isSpace quote = false := by
  rcases h with rfl | rfl <;> rfl

/-- A text with nothing to normalize: its only white space are single spaces, none of them inside a
bracket next to it, and no comma stands in front of a closing parenthesis. -/
structure KeepsSpacing (t : Text) : Prop extends Text.SingleSpaced t where
  free : ∀ rule ∈ spacingRules, ¬rule.1 <:+: t

instance (t : Text) : Decidable (KeepsSpacing t) :=
  decidable_of_iff (t.SingleSpaced ∧ ∀ rule ∈ spacingRules, ¬rule.1 <:+: t)
    ⟨fun h => ⟨h.1, h.2⟩, fun h => ⟨h.toSingleSpaced, h.free⟩⟩

/-- A text without white space at its ends is left as it is exactly if it has nothing to
normalize. -/
theorem normalizeSpace_eq_self_iff {t : Text} (hfirst : ∀ c ∈ t.head?, Text.isSpace c = false)
    (hlast : ∀ c ∈ t.getLast?, Text.isSpace c = false) :
    normalizeSpace t = t ↔ KeepsSpacing t := by
  rw [normalizeSpace_eq]
  constructor
  · intro h
    -- No step makes a text longer, so none of them has made it shorter.
    have hlength := congrArg List.length h
    have hreplaced := Text.length_replaceAll_le shortens_spacingRules t.squeeze
    have hsqueezed := Text.length_squeeze_le t
    have hfree : ∀ rule ∈ spacingRules, ¬rule.1 <:+: t.squeeze :=
      (Text.length_replaceAll_eq_iff shortens_spacingRules).mp (by omega)
    have hsqueeze : t.squeeze = t := (Text.replaceAll_eq_self hfree).symm.trans h
    rw [hsqueeze] at hfree
    exact ⟨(Text.squeeze_eq_self_iff hfirst hlast).mp hsqueeze, hfree⟩
  · intro h
    have hsqueeze := (Text.squeeze_eq_self_iff hfirst hlast).mpr h.toSingleSpaced
    rw [hsqueeze, Text.replaceAll_eq_self h.free]

theorem normalizeSpace_trim (t : Text) : normalizeSpace t.trim = normalizeSpace t :=
  normalizeSpace_of_words_eq ((Text.words_trimEnd t.trimStart).trans (Text.words_trimStart t))

/-- A literal is normalized in a header as it is on its own. -/
theorem normalizeSpace_quoted_isInfix {quote : Char} (h : IsQuote quote)
    (before content after : Text) :
    normalizeSpace (quote :: (content ++ [quote]))
      <:+: normalizeSpace (before ++ (quote :: (content ++ [quote]) ++ after)) := by
  have hspace := isSpace_quote h
  obtain ⟨front, hfront⟩ := Text.exists_squeeze_append_cons hspace before
  obtain ⟨inner, hinner⟩ := Text.exists_squeezeFrom_append_cons hspace false content
  let replaced := Text.replaceAll spacingRules
  -- The two quotes cut the text into what is in front, inside and behind.
  have hnormal : ∀ before front after : Text,
      (∀ t, Text.squeeze (before ++ quote :: t) = front ++ quote :: Text.squeezeFrom false t) →
      normalizeSpace (before ++ quote :: (content ++ quote :: after))
        = replaced front
          ++ quote :: (replaced inner ++ quote :: replaced (Text.squeezeFrom false after)) := by
    intro before front after hfront
    have hcut := Text.replaceAll_append_cons shortens_spacingRules (quote_notMem_spacingRules h)
    rw [normalizeSpace_eq, hfront, hinner, hcut, hcut]
  have hliteral : normalizeSpace (quote :: (content ++ [quote]))
      = quote :: (replaced inner ++ [quote]) := hnormal [] [] [] (Text.squeeze_cons hspace)
  have hheader := hnormal before front after hfront
  rw [List.cons_append, List.append_assoc, List.singleton_append, hheader, hliteral]
  exact ⟨replaced front, replaced (Text.squeezeFrom false after), by simp⟩

/-! ## Headers that have been read -/

/-- The header of the function that some code begins with, cut where its signature is read from. -/
structure ReadHeader (code : Text) where
  rest : Text
  first : firstDefinition? code.chunks = some (.function, rest)
  header : Text
  body : Text
  colon : Nesting.outside.splitTop? ':' rest = some (header, body)
  head : Text
  inside : Text
  opening : Text.splitFirst? "(" header = some (head, inside)
  inner : Text
  after : Text
  closing : closingBracket? none 1 inside = some (inner, after)

namespace ReadHeader

variable {code : Text} (h : ReadHeader code)

def signature : Signature :=
  ⟨normalizeSpace h.header, parseParameters h.inner, parseReturnType h.after⟩

theorem header_eq : h.header = h.head ++ '(' :: h.inside ∧ '(' ∉ h.head :=
  Text.splitFirst?_singleton_eq_some_iff.mp h.opening

theorem parse?_eq : parse? code = some h.signature := by
  rw [parse?_of_head h.first h.colon h.header_eq.1 h.header_eq.2, h.closing]
  rfl

theorem inner_isInfix : h.inner <:+: h.header := by
  have hinside : h.inside <:+ h.header := by
    rw [h.header_eq.1]
    exact (List.suffix_cons '(' h.inside).trans (List.suffix_append h.head _)
  exact (isPrefix_of_closingBracket? h.closing).isInfix.trans hinside.isInfix

end ReadHeader

/-- Every function with a signature has such a header. -/
theorem exists_readHeader {code rest : Text} {sig : Signature}
    (hfirst : firstDefinition? code.chunks = some (.function, rest))
    (hparse : parse? code = some sig) : ∃ h : ReadHeader code, h.signature = sig := by
  unfold parse? at hparse
  rw [hfirst] at hparse
  simp only [Option.bind_eq_bind, Option.bind_some] at hparse
  obtain ⟨⟨header, body⟩, hcolon, hparse⟩ := Option.bind_eq_some_iff.mp hparse
  obtain ⟨⟨head, inside⟩, hopening, hparse⟩ := Option.bind_eq_some_iff.mp hparse
  obtain ⟨⟨inner, after⟩, hclosing, hparse⟩ := Option.bind_eq_some_iff.mp hparse
  exact ⟨⟨rest, hfirst, header, body, hcolon, head, inside, hopening, inner, after, hclosing⟩,
    Option.some.inj hparse⟩

/-- A parameter of a header whose default value begins and ends with the same quote, as a literal
does. -/
structure QuotedDefault {code : Text} (h : ReadHeader code) where
  index : Nat
  piece : Text
  piece_eq : (Nesting.outside.pieces ',' h.inner)[index]? = some piece
  parameter : Parameter
  parameter_eq : parameter? (index == 0) piece = some parameter
  declared : Text
  value : Text
  value_eq : Nesting.outside.splitTop? '=' piece.trim = some (declared, value)
  quote : Char
  isQuote : IsQuote quote
  content : Text
  literal_eq : value.trim = quote :: (content ++ [quote])

namespace QuotedDefault

variable {code : Text} {h : ReadHeader code} (d : QuotedDefault h)

/-- The default value as it is written. -/
def literal : Text := d.quote :: (d.content ++ [d.quote])

theorem literal_isInfix : d.literal <:+: h.header := by
  have hvalue : d.value <:+: d.piece.trim := by
    obtain ⟨hpiece, -⟩ := splitTop?_eq_some_iff.mp d.value_eq
    exact ⟨d.declared ++ ['='], [], by rw [hpiece]; simp⟩
  have hpiece : d.piece <:+: h.inner := by
    have hjoin := Text.isInfix_join (c := ',') (List.mem_of_getElem? d.piece_eq)
    rwa [join_pieces] at hjoin
  have hliteral : d.literal <:+: d.value := by
    rw [literal, ← d.literal_eq]
    exact Text.trim_isInfix d.value
  exact ((hliteral.trans hvalue).trans (Text.trim_isInfix d.piece)).trans
    (hpiece.trans h.inner_isInfix)

theorem mem_parameters : d.parameter ∈ h.signature.parameters := by
  obtain ⟨first, rest, hpieces⟩ :=
    List.exists_cons_of_ne_nil (pieces_ne_nil ',' Nesting.outside h.inner)
  have hpiece := d.piece_eq
  have hparameter := d.parameter_eq
  show d.parameter ∈ parseParameters h.inner
  rw [hpieces] at hpiece
  rw [parseParameters_of_pieces hpieces, List.mem_append]
  cases hindex : d.index with
  | zero =>
      rw [hindex] at hpiece hparameter
      obtain rfl : first = d.piece := Option.some.inj hpiece
      exact .inl (Option.mem_toList.mpr hparameter)
  | succ index =>
      rw [hindex] at hpiece hparameter
      exact .inr (List.mem_filterMap.mpr ⟨d.piece, List.mem_of_getElem? hpiece, hparameter⟩)

/-- The default value is normalized without regard to its quotes. -/
theorem defaultValue_eq : d.parameter.defaultValue = some (normalizeSpace d.literal) := by
  have hdefault : splitDefault d.piece.trim = (d.declared, some (normalizeSpace d.literal)) := by
    rw [literal, ← d.literal_eq, normalizeSpace_trim, splitDefault, d.value_eq]
  have hparameter := d.parameter_eq
  unfold parameter? at hparameter
  dsimp only at hparameter
  rw [hdefault] at hparameter
  split at hparameter
  · contradiction
  · dsimp only at hparameter
    split at hparameter
    · contradiction
    · rw [← Option.some.inj hparameter]

/-- A function with such a parameter has a signature, and records as the default value what
normalization makes of the literal; this is in the text of the signature.  It is the literal itself
exactly if this has nothing to normalize. -/
theorem recorded_literal :
    parse? code = some h.signature ∧ d.parameter ∈ h.signature.parameters
      ∧ d.parameter.defaultValue = some (normalizeSpace d.literal)
      ∧ normalizeSpace d.literal <:+: h.signature.text
      ∧ (d.parameter.defaultValue = some d.literal ↔ KeepsSpacing d.literal)
      ∧ (KeepsSpacing d.literal → d.literal <:+: h.signature.text) := by
  have hspace := isSpace_quote d.isQuote
  have hkeeps : normalizeSpace d.literal = d.literal ↔ KeepsSpacing d.literal := by
    refine normalizeSpace_eq_self_iff (fun c hc => ?_) fun c hc => ?_
    · obtain rfl := Option.some.inj hc
      exact hspace
    · rw [literal, ← List.cons_append, List.getLast?_concat] at hc
      obtain rfl := Option.some.inj hc
      exact hspace
  have htext : normalizeSpace d.literal <:+: h.signature.text := by
    obtain ⟨before, after, hheader⟩ := d.literal_isInfix
    show normalizeSpace d.literal <:+: normalizeSpace h.header
    rw [← hheader, List.append_assoc]
    exact normalizeSpace_quoted_isInfix d.isQuote before d.content after
  refine ⟨h.parse?_eq, d.mem_parameters, d.defaultValue_eq, htext, ?_, fun hd => ?_⟩
  · rw [d.defaultValue_eq, Option.some.injEq]
    exact hkeeps
  · rwa [hkeeps.mpr hd] at htext

/-! ### A separator in a header -/

/-- A function with two separators as default values, one of them of two spaces. -/
def splitCode : Text := "def split(text, sep=\"  \", tail=\", \"):\n    pass\n"

def splitHeader : ReadHeader splitCode where
  rest := splitCode
  first := by decide +kernel
  header := "def split(text, sep=\"  \", tail=\", \")"
  body := "\n    pass\n"
  colon := by decide +kernel
  head := "def split"
  inside := "text, sep=\"  \", tail=\", \")"
  opening := by decide +kernel
  inner := "text, sep=\"  \", tail=\", \""
  after := []
  closing := by decide +kernel

def twoSpaces : QuotedDefault splitHeader where
  index := 1
  piece := " sep=\"  \""
  piece_eq := by decide +kernel
  parameter := ⟨"sep", [], [], some "\" \"".toList⟩
  parameter_eq := by decide +kernel
  declared := "sep"
  value := "\"  \""
  value_eq := by decide +kernel
  quote := '"'
  isQuote := .inr rfl
  content := "  "
  literal_eq := by decide

def commaSpace : QuotedDefault splitHeader where
  index := 2
  piece := " tail=\", \""
  piece_eq := by decide +kernel
  parameter := ⟨"tail", [], [], some "\", \"".toList⟩
  parameter_eq := by decide +kernel
  declared := "tail"
  value := "\", \""
  value_eq := by decide +kernel
  quote := '"'
  isQuote := .inr rfl
  content := ", "
  literal_eq := by decide

/-- A comma and a space stay. -/
theorem recorded_commaSpace :
    parse? splitCode = some splitHeader.signature
      ∧ commaSpace.parameter.defaultValue = some "\", \"".toList
      ∧ "\", \"".toList <:+: splitHeader.signature.text := by
  have hkeeps : KeepsSpacing commaSpace.literal := by decide
  obtain ⟨hparse, -, -, -, hverbatim, htext⟩ := commaSpace.recorded_literal
  exact ⟨hparse, hverbatim.mpr hkeeps, htext hkeeps⟩

/-- Two spaces become one, in the default value and in the text of the signature. -/
theorem recorded_twoSpaces :
    twoSpaces.literal = "\"  \"".toList
      ∧ parse? splitCode = some ⟨"def split(text, sep=\" \", tail=\", \")",
        [⟨"text", [], [], none⟩, twoSpaces.parameter, commaSpace.parameter], []⟩
      ∧ twoSpaces.parameter.defaultValue ≠ some twoSpaces.literal
      ∧ ¬twoSpaces.literal <:+: splitHeader.signature.text := by
  decide +kernel

end QuotedDefault

end Signature

end Weave
