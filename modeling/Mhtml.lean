import Mhtml.Main
import Mhtml.Proofs.Text.Slices
import Mhtml.Proofs.Source.Lines
import Mhtml.Proofs.Source.Positions
import Mhtml.Proofs.Source.Ranges
import Mhtml.Proofs.Source.Lowered
import Mhtml.Proofs.Token.Grammar
import Mhtml.Proofs.Token.Scan
import Mhtml.Proofs.Token.Pattern
import Mhtml.Proofs.Token.Occurrence
import Mhtml.Proofs.Tree.Order
import Mhtml.Proofs.Tree.Pieces
import Mhtml.Proofs.Tree.Account
import Mhtml.Proofs.Tree.Skeleton
import Mhtml.Proofs.Tree.Tiling
import Mhtml.Proofs.Tree.Enclosure
import Mhtml.Proofs.Tree.Shape
import Mhtml.Proofs.Tree.Laminar
import Mhtml.Proofs.Tree.Pairing
import Mhtml.Proofs.Tree.Row
import Mhtml.Proofs.Tree.Inert
import Mhtml.Proofs.Tree.Markup
import Mhtml.Proofs.Tree.RoundTrip
import Mhtml.Proofs.Grammar.Roots
import Mhtml.Proofs.Grammar.Rooted
import Mhtml.Proofs.Grammar.Contents
import Mhtml.Proofs.Grammar.Nesting
import Mhtml.Proofs.Grammar.Truncation
import Mhtml.Proofs.Grammar.Acceptance
import Mhtml.Proofs.Grammar.Wrapped
import Mhtml.Proofs.Grammar.Checks
import Mhtml.Proofs.Grammar.Locations
import Mhtml.Proofs.Grammar.RootChoice
import Mhtml.Proofs.Grammar.SectionReports
import Mhtml.Proofs.Grammar.ReportOrder
import Mhtml.Proofs.Grammar.Repetition
import Mhtml.Proofs.Grammar.Lowered
import Mhtml.Proofs.Editor.Turns
import Mhtml.Proofs.Editor.Publication
import Mhtml.Proofs.Editor.Hovering
import Mhtml.Proofs.Editor.Edits
import Mhtml.Proofs.Editor.Versions
import Mhtml.Proofs.Editor.Completing
import Mhtml.Proofs.Source.Counts
import Mhtml.Proofs.Grammar.LetterCase
import Mhtml.Proofs.Editor.Outlining
import Mhtml.Proofs.Tree.Walks
import Mhtml.Proofs.Source.Search
import Mhtml.Proofs.Grammar.Strict
import Mhtml.Proofs.Settings.JsonFlag
import Mhtml.Proofs.Settings.Precedence
import Mhtml.Proofs.Settings.Spelling
import Mhtml.Proofs.Json.Records
import Mhtml.Proofs.Json.Written
import Mhtml.Proofs.Json.RoundTrip
import Mhtml.Proofs.Checker.Modes
