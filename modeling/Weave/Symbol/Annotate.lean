import Weave.Symbol.Index
import Weave.Symbol.Occurrence

/-!
# Annotation of code

Every indexed symbol is searched in a piece of code under its bare name, and every parameter inside
the definition of its owner.  A decoration only records a candidate: `get` is decorated as
`LRUCache.get` even where the code means another `get`.
-/

namespace Weave

/-- What a decoration points at, in the order in which decorations of one span are listed. -/
inductive DecorationKind where
  | «class»
  | function
  | method
  | parameter
  deriving DecidableEq, Repr, Inhabited

namespace DecorationKind

/-- The written form of a kind. -/
def name : DecorationKind → Text
  | .«class» => "class"
  | .function => "function"
  | .method => "method"
  | .parameter => "parameter"

/-- The place of a kind in the order. -/
def rank : DecorationKind → Nat
  | .«class» => 0
  | .function => 1
  | .method => 2
  | .parameter => 3

/-- The kind for a symbol. -/
def ofSymbol : SymbolKind → DecorationKind
  | .«class» => .«class»
  | .function => .function
  | .method => .method

end DecorationKind

/-- An occurrence of a symbol or of a parameter.  The parent chain names the owners from the
outermost one down to the symbol itself. -/
structure Decoration where
  span : Span
  kind : DecorationKind
  symbol : Text
  name : Text
  parent : Option Text
  parentChain : List Text
  cssClass : Text
  deriving DecidableEq, Repr, Inhabited

/-- The style class of a kind of decoration. -/
def DecorationKind.cssClass (kind : DecorationKind) : Text := "symbol-" ++ kind.name

namespace SymbolRecord

/-- The qualified names from the class down to the symbol. -/
def chain (r : SymbolRecord) : List Text := r.parent.toList ++ [r.qualifiedName]

/-- The decoration of the symbol at a span. -/
def decorationAt (r : SymbolRecord) (span : Span) : Decoration :=
  let kind := DecorationKind.ofSymbol r.kind
  ⟨span, kind, r.qualifiedName, r.name, r.parent, r.chain, kind.cssClass⟩

/-- The decoration of a parameter at a span. -/
def parameterAt (r : SymbolRecord) (p : Parameter) (span : Span) : Decoration :=
  ⟨span, .parameter, p.name, p.name, some r.qualifiedName, r.chain ++ [p.name],
    DecorationKind.cssClass .parameter⟩

/-- The span of the symbol's definition in some code; a method may stand there without its
class. -/
def ownerSpan? (r : SymbolRecord) (code : Text) : Option Span :=
  match locateSymbol? code r.qualifiedName with
  | some span => some span
  | none => if r.parent.isSome then locateSymbol? code r.name else none

/-- The decorations of the parameters inside the symbol's definition. -/
def parameterDecorations (r : SymbolRecord) (code : Text) : List Decoration :=
  if r.parameters.isEmpty then []
  else
    match r.ownerSpan? code with
    | none => []
    | some owner =>
      match owner.slice? code with
      | none => []
      | some body =>
        r.parameters.flatMap fun p =>
          (identifierSpans body p.name).map fun span => r.parameterAt p (span.shift owner.start)

/-- The decorations of a record in some code. -/
def decorations (r : SymbolRecord) (code : Text) : List Decoration :=
  (identifierSpans code r.name).map r.decorationAt ++ r.parameterDecorations code

end SymbolRecord

namespace Decoration

/-- The order of decorations: by start, the longer one first, then by kind and by symbol. -/
def le (a b : Decoration) : Bool :=
  if a.span.start ≠ b.span.start then a.span.start < b.span.start
  else if a.span.stop ≠ b.span.stop then b.span.stop < a.span.stop
  else if a.kind ≠ b.kind then a.kind.rank < b.kind.rank
  else Text.le a.symbol b.symbol

end Decoration

/-- A list without elements that repeat the one before them. -/
def dropRepeats : List Decoration → List Decoration
  | [] => []
  | [d] => [d]
  | a :: b :: ds => if a = b then dropRepeats (b :: ds) else a :: dropRepeats (b :: ds)

/-- Every occurrence of every indexed symbol in some code, in order. -/
def annotate (code : Text) (index : SymbolIndex) : List Decoration :=
  dropRepeats ((index.records.flatMap (·.decorations code)).mergeSort Decoration.le)

end Weave
