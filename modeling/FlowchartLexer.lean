import FlowchartLexer.Command.Directory
import FlowchartLexer.Main
import FlowchartLexer.Proofs.ByteSlice
import FlowchartLexer.Proofs.Calls
import FlowchartLexer.Proofs.Positions
import FlowchartLexer.Proofs.PatternLanguage
import FlowchartLexer.Proofs.PreferredMatch
import FlowchartLexer.Proofs.CursorRun
import FlowchartLexer.Proofs.WholeText
import FlowchartLexer.Proofs.FrontMatterGuard
import FlowchartLexer.Proofs.DirectLexing
import FlowchartLexer.Proofs.TokenRun
import FlowchartLexer.Proofs.PlacedSegments
import FlowchartLexer.Proofs.CommandLine
import FlowchartLexer.Proofs.ListingModes
import FlowchartLexer.Proofs.Truncation
import FlowchartLexer.Proofs.Slices
import FlowchartLexer.Proofs.LexemeExtent
import FlowchartLexer.Proofs.Layout
import FlowchartLexer.Proofs.FrontMatterExtent
import FlowchartLexer.Proofs.LineEndings
import FlowchartLexer.Proofs.LineEndingRuns
import FlowchartLexer.Proofs.FrontMatterMeaning
import FlowchartLexer.Proofs.TokenAddresses
import FlowchartLexer.Proofs.SourceLines
import FlowchartLexer.Proofs.Readable
import FlowchartLexer.Proofs.Escaping
import FlowchartLexer.Proofs.JsonObjects
import FlowchartLexer.Proofs.ListingLines
import FlowchartLexer.Proofs.FirstClose
import FlowchartLexer.Proofs.Caret
import FlowchartLexer.Proofs.FrontMatterSearches
import FlowchartLexer.Proofs.WordRuns
import FlowchartLexer.Proofs.ReadingLog
import FlowchartLexer.Proofs.LineByLine
