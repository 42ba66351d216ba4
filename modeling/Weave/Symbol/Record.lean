import Weave.Symbol.Docstring
import Weave.Symbol.Signature

/-!
# Symbol records

What is known of a definition: its qualified name, its signature with described parameters, its
code, and where it stands.
-/

namespace Weave

/-- The kinds of symbols. -/
inductive SymbolKind where
  | function
  | «class»
  | method
  deriving DecidableEq, Repr, Inhabited

/-- The written form of a kind. -/
def SymbolKind.name : SymbolKind → Text
  | .function => "function"
  | .«class» => "class"
  | .method => "method"

/-- A definition of a source file.  Methods have their class as parent and `Class.method` as
qualified name; `line` is the line of the keyword, from 1. -/
structure SymbolRecord where
  qualifiedName : Text
  kind : SymbolKind
  signature : Text
  parameters : List Parameter
  returnType : Text
  code : Text
  file : Text
  line : Nat
  parent : Option Text
  deriving DecidableEq, Repr, Inhabited

namespace SymbolRecord

/-- The name without its owner: what follows the last dot. -/
def name (r : SymbolRecord) : Text :=
  match Text.splitLast? "." r.qualifiedName with
  | some (_, name) => name
  | none => r.qualifiedName

/-- The first parameter with this name gets the description. -/
def describe (name description : Text) : List Parameter → List Parameter
  | [] => []
  | p :: ps =>
    if p.name = name then { p with description } :: ps else p :: describe name description ps

/-- The parameters with the descriptions of a docstring. -/
def describeAll (parameters : List Parameter) (doc : Option Text) : List Parameter :=
  match doc with
  | none => parameters
  | some doc =>
    (Docstring.argDescriptions doc).foldl
      (fun parameters (name, description) => describe name description parameters) parameters

/-- The record of a definition of a file. -/
def ofBlock (table : LineTable) (file : Text) (block : Block) (qualifiedName : Text)
    (kind : SymbolKind) (parent : Option Text) : SymbolRecord :=
  let code := table.text block.lines
  let signature := (Signature.parse? code).getD default
  { qualifiedName
    kind
    signature := signature.text
    parameters := describeAll signature.parameters (Docstring.text? code)
    returnType := signature.returnType
    code
    file
    line := block.keyword + 1
    parent }

end SymbolRecord

end Weave
