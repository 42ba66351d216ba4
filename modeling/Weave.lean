import Weave.Main
import Weave.Symbol.Segment
import Weave.Proofs.Markdown.RoundTrip
import Weave.Proofs.Pipeline.Content
import Weave.Proofs.Pipeline.Rerun
import Weave.Proofs.Symbol.Annotation
import Weave.Proofs.Code.Layout
import Weave.Proofs.Symbol.DefinitionBlock
import Weave.Proofs.Code.Definition
import Weave.Proofs.Fence.Origin
import Weave.Proofs.Symbol.Extension
import Weave.Proofs.Markdown.StreamReading
import Weave.Proofs.Markdown.TightItem
import Weave.Proofs.Symbol.FirstDefinition
import Weave.Proofs.Section.SlugSearch
import Weave.Proofs.Fence.InfoString
import Weave.Proofs.Document.DecimalItem
import Weave.Proofs.Enumeration.Nesting
import Weave.Proofs.Symbol.ClassBody
import Weave.Proofs.Symbol.WrittenHeader
import Weave.Proofs.Symbol.Segments
import Weave.Proofs.Symbol.WholeIdentifiers
import Weave.Proofs.Symbol.HeaderEnd
import Weave.Proofs.Symbol.DocstringParts
import Weave.Proofs.Enumeration.Numbering
import Weave.Proofs.Enumeration.LineNumber
import Weave.Proofs.Enumeration.NestedMarker
import Weave.Proofs.Enumeration.SplitItem
import Weave.Proofs.Markdown.Loops
import Weave.Proofs.Markdown.Progress
import Weave.Proofs.Enumeration.OrdinalLine
import Weave.Proofs.Enumeration.StrippedNumber
import Weave.Proofs.Fence.SourceEntry
import Weave.Proofs.Code.BlankLines
import Weave.Proofs.Code.WrittenLines
import Weave.Proofs.Symbol.ArgsSection
import Weave.Proofs.Fence.ReadBack
import Weave.Proofs.Symbol.QuotedDefault
import Weave.Proofs.Section.Directive
import Weave.Proofs.Fixture.FrontMatter
import Weave.Proofs.File.Walk
import Weave.Proofs.Symbol.CorpusTree
