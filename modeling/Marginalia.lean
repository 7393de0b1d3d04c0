import Marginalia.Highlighter
import Marginalia.Main
import Marginalia.Proofs.Agreement
import Marginalia.Proofs.Arguments
import Marginalia.Proofs.Calls
import Marginalia.Proofs.Choices
import Marginalia.Proofs.CleanText
import Marginalia.Proofs.Continuation
import Marginalia.Proofs.Decoding
import Marginalia.Proofs.Displayed
import Marginalia.Proofs.Escaping
import Marginalia.Proofs.Events
import Marginalia.Proofs.Fields
import Marginalia.Proofs.Grammar
import Marginalia.Proofs.Grouping
import Marginalia.Proofs.Headings
import Marginalia.Proofs.Highlighting
import Marginalia.Proofs.HookMarkup
import Marginalia.Proofs.JsonReading
import Marginalia.Proofs.KeyReading
import Marginalia.Proofs.Layout
import Marginalia.Proofs.LineEnds
import Marginalia.Proofs.Lines
import Marginalia.Proofs.Listing
import Marginalia.Proofs.Margins
import Marginalia.Proofs.Markup
import Marginalia.Proofs.Overriding
import Marginalia.Proofs.PageMarkup
import Marginalia.Proofs.ProseMarkup
import Marginalia.Proofs.Publishing
import Marginalia.Proofs.Regions
import Marginalia.Proofs.Removal
import Marginalia.Proofs.Rendering
import Marginalia.Proofs.Reparsing
import Marginalia.Proofs.Routes
import Marginalia.Proofs.Runs
import Marginalia.Proofs.ScalarReading
import Marginalia.Proofs.ScanInvariant
import Marginalia.Proofs.ScannedBlocks
import Marginalia.Proofs.SectionJson
import Marginalia.Proofs.Separators
import Marginalia.Proofs.SettingsFile
import Marginalia.Proofs.Spared
import Marginalia.Proofs.Spelling
import Marginalia.Proofs.Statements
import Marginalia.Proofs.StringReading
import Marginalia.Proofs.Stripping
import Marginalia.Proofs.Styles
import Marginalia.Proofs.TopLevel
import Marginalia.Proofs.Trim
import Marginalia.Proofs.ValueReading
import Marginalia.Proofs.ValueSteps
import Marginalia.Proofs.VisibleText
import Marginalia.Proofs.Withdrawal
import Marginalia.Proofs.WriteBack
import Marginalia.Proofs.Writing
