import CrateListing.Text.CodePoint
import CrateListing.Text.Basic
import CrateListing.Text.Range
import CrateListing.Text.Blank
import CrateListing.Text.Digit
import CrateListing.Text.Printable
import CrateListing.Text.Quoted
import CrateListing.Text.Numeral
import CrateListing.Text.Utf8
import CrateListing.Text.Newline
import CrateListing.Text.Encode
import CrateListing.Assoc
import CrateListing.Table
import CrateListing.Decimal.Binary64
import CrateListing.Decimal.Shortest
import CrateListing.Json.Value
import CrateListing.Json.Quote
import CrateListing.Json.Writer
import CrateListing.Json.Reader
import CrateListing.Json.Shape
import CrateListing.Rejection
import CrateListing.Log
import CrateListing.Options
import CrateListing.Fault
import CrateListing.Span
import CrateListing.Ty.Basic
import CrateListing.Ty.Decode
import CrateListing.Ty.Render
import CrateListing.Constant.Basic
import CrateListing.Constant.Decode
import CrateListing.Constant.Render
import CrateListing.Place.Basic
import CrateListing.Place.Decode
import CrateListing.Place.Render
import CrateListing.Expression.Basic
import CrateListing.Expression.Decode
import CrateListing.Expression.Render
import CrateListing.Statement.Basic
import CrateListing.Statement.Decode
import CrateListing.Statement.Render
import CrateListing.Statement.Rebuild
import CrateListing.Declaration.Basic
import CrateListing.Declaration.Decode
import CrateListing.Declaration.Render
import CrateListing.Crate.Basic
import CrateListing.Crate.Decode
import CrateListing.Crate.File
import CrateListing.Crate.Render
import CrateListing.Scope
import CrateListing.NeverDrop
import CrateListing.Command.Path
import CrateListing.Command.System
import CrateListing.Command.Disk
import CrateListing.Command.Arguments
import CrateListing.Command.Run
import CrateListing.Main
import CrateListing.Proofs.Outcome
import CrateListing.Proofs.Tables
import CrateListing.Proofs.Texts
import CrateListing.Proofs.References
import CrateListing.Proofs.Resolution
import CrateListing.Proofs.Composition
import CrateListing.Proofs.OneLine
import CrateListing.Proofs.Layout
import CrateListing.Proofs.Reading
import CrateListing.Proofs.Encoding
import CrateListing.Proofs.Format
import CrateListing.Proofs.Shapes
import CrateListing.Proofs.Acceptance
import CrateListing.Proofs.Leaves
import CrateListing.Proofs.NeverDropPass
import CrateListing.Proofs.Dependence
import CrateListing.Proofs.Listing
import CrateListing.Proofs.Skeleton
import CrateListing.Proofs.UniqueReading
import CrateListing.Proofs.NeverDropLines
import CrateListing.Proofs.NeverDropLevels
import CrateListing.Proofs.CrateEncoding
import CrateListing.Proofs.Reordering
import CrateListing.Proofs.KeyOrder
import CrateListing.Proofs.LoadErrors
import CrateListing.Proofs.FileTrees
import CrateListing.Proofs.Runs
import CrateListing.Proofs.Selectors
import CrateListing.Proofs.Sessions
import CrateListing.Proofs.Verbosity
import CrateListing.Proofs.StrayDrops
import CrateListing.Proofs.Visits
import CrateListing.Proofs.Grouping
import CrateListing.Proofs.Braces
import CrateListing.Proofs.Replacements
import CrateListing.Proofs.Literals
import CrateListing.Proofs.Delimiters
import CrateListing.Proofs.AccessPaths
import CrateListing.Proofs.TypeForms
import CrateListing.Proofs.TypeReading
import CrateListing.Proofs.FieldLookups
import CrateListing.Proofs.Binders
import CrateListing.Proofs.Numerals
import CrateListing.Proofs.DigitLimits
import CrateListing.Proofs.Selection
