import Weave.Json.Basic
import Weave.Pipeline
import Weave.Symbol.Solutions

/-!
# JSON of symbols

The indexes and the decorations of code as JSON.
-/

namespace Weave

/-- A range of offsets as JSON. -/
def ByteRange.toJson (r : ByteRange) : Json :=
  .record [("start", .ofNat r.start), ("end", .ofNat r.stop)]

/-- A span as JSON. -/
def Span.toJson (s : Span) : Json := .record [("start", .ofNat s.start), ("end", .ofNat s.stop)]

/-- A parameter as JSON. -/
def Parameter.toJson (p : Parameter) : Json :=
  .record [("name", .string p.name), ("type", .string p.type),
    ("description", .string p.description), ("default", .ofText? p.defaultValue)]

/-- A record as JSON. -/
def SymbolRecord.toJson (r : SymbolRecord) : Json :=
  .record [("qualifiedName", .string r.qualifiedName), ("kind", .string r.kind.name),
    ("signature", .string r.signature), ("parameters", .ofList Parameter.toJson r.parameters),
    ("returnType", .string r.returnType), ("code", .string r.code), ("file", .string r.file),
    ("line", .ofNat r.line), ("parent", .ofText? r.parent)]

/-- A symbol index as JSON: the records under their names. -/
def SymbolIndex.toJson (index : SymbolIndex) : Json :=
  .object (index.records.map fun r => (r.qualifiedName, r.toJson))

/-- A solutions index as JSON: the texts under their keys. -/
def SolutionsIndex.toJson (index : SolutionsIndex) : Json :=
  .object (index.entries.map fun (key, text) => (key, .string text))

/-- A decoration as JSON. -/
def Decoration.toJson (d : Decoration) : Json :=
  .record [("span", d.span.toJson), ("kind", .string d.kind.name), ("symbol", .string d.symbol),
    ("name", .string d.name), ("parent", .ofText? d.parent),
    ("parentChain", .ofList .string d.parentChain), ("cssClass", .string d.cssClass)]

/-- The decorations of a code block as JSON. -/
def BlockAnnotations.toJson (a : BlockAnnotations) : Json :=
  .record [("span", a.span.toJson), ("language", .ofText? a.language),
    ("decorations", .ofList Decoration.toJson a.decorations)]

end Weave
