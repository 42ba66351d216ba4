import Weave.Symbol.Docstring

/-!
# Extraction

The text of a definition, cut out of its source with or without its docstring.
-/

namespace Weave

/-- The text of the definition of `name` or `Class.method`; empty when the source does not define
it. -/
def extractSymbol (source qualifiedName : Text) (stripDocstring : Bool) : Text :=
  match (locateSymbol? source qualifiedName).bind (·.slice? source) with
  | none => []
  | some code => if stripDocstring then Docstring.strip code else code

end Weave
