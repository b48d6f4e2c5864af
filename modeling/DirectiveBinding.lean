import DirectiveBinding.Binding
import DirectiveBinding.Catalog.Basic
import DirectiveBinding.Catalog.Matching
import DirectiveBinding.Decimal.Shortest
import DirectiveBinding.Decimal.Written
import DirectiveBinding.Directive.Basic
import DirectiveBinding.Directive.Property
import DirectiveBinding.Json.Mismatch
import DirectiveBinding.Json.Numeral
import DirectiveBinding.Json.Reading
import DirectiveBinding.Json.Record
import DirectiveBinding.Metadata.Decode
import DirectiveBinding.Metadata.Descriptor
import DirectiveBinding.Microsyntax.Clause
import DirectiveBinding.Microsyntax.Desugar
import DirectiveBinding.Microsyntax.Segment
import DirectiveBinding.Proofs.Scope.Ledger
import DirectiveBinding.Proofs.Scope.Lexical
import DirectiveBinding.Proofs.Scope.Lookup
import DirectiveBinding.Proofs.Scope.Nesting
import DirectiveBinding.Proofs.Selector.Completeness
import DirectiveBinding.Proofs.Selector.Grammar
import DirectiveBinding.Proofs.Selector.Printing
import DirectiveBinding.Proofs.Selector.RoundTrip
import DirectiveBinding.Proofs.Selector.Soundness
import DirectiveBinding.Proofs.Selector.Steps
import DirectiveBinding.Proofs.Selector.Tokens
import DirectiveBinding.Proofs.Text.Classes
import DirectiveBinding.Resolution
import DirectiveBinding.Roster
import DirectiveBinding.Scope.Build
import DirectiveBinding.Scope.Tree
import DirectiveBinding.Selector.Basic
import DirectiveBinding.Selector.Draft
import DirectiveBinding.Selector.Fault
import DirectiveBinding.Selector.Matching
import DirectiveBinding.Selector.Print
import DirectiveBinding.Selector.Token
import DirectiveBinding.Settings
import DirectiveBinding.Template.Node
import DirectiveBinding.Template.Query
import DirectiveBinding.Text.Blank
import DirectiveBinding.Text.Bytes
import DirectiveBinding.Text.Caseless
import DirectiveBinding.Text.EscapedTable
import DirectiveBinding.Text.Quoted
import DirectiveBinding.Text.Ranges
import DirectiveBinding.Text.Upper
import DirectiveBinding.Text.UpperTable
import DirectiveBinding.Text.Word
import DirectiveBinding.Text.WordTable
import DirectiveBinding.Proofs.Matching.Holding
import DirectiveBinding.Proofs.Matching.Weakening
import DirectiveBinding.Proofs.Resolution.Selection
import DirectiveBinding.Proofs.Microsyntax.Keys
import DirectiveBinding.Proofs.Resolution.Desugared
import DirectiveBinding.Proofs.Microsyntax.Closed
import DirectiveBinding.Proofs.Microsyntax.Written
import DirectiveBinding.Proofs.Microsyntax.Reading
import DirectiveBinding.Proofs.Microsyntax.Recovery
import DirectiveBinding.Proofs.Roster.Arrival
import DirectiveBinding.Proofs.Matching.Report
import DirectiveBinding.Proofs.Scope.Reachable
import DirectiveBinding.Proofs.Scope.Arena
import DirectiveBinding.Proofs.Scope.Visible
import DirectiveBinding.Proofs.Selector.Lookahead
import DirectiveBinding.Proofs.Selector.Joining
import DirectiveBinding.Proofs.Scope.Locality
import DirectiveBinding.Proofs.Scope.View
import DirectiveBinding.Proofs.Template.Respelling
import DirectiveBinding.Proofs.Resolution.Grounded
import DirectiveBinding.Proofs.Catalog.Building
import DirectiveBinding.Proofs.Matching.Spelled
import DirectiveBinding.Proofs.Microsyntax.Cutting
import DirectiveBinding.Proofs.Microsyntax.Appended
import DirectiveBinding.Proofs.Microsyntax.WellFormed
import DirectiveBinding.Proofs.Matching.Mentioned
import DirectiveBinding.Proofs.Matching.Presence
import DirectiveBinding.Proofs.Resolution.Pairs
import DirectiveBinding.Proofs.Resolution.Exports
import DirectiveBinding.Proofs.Template.Shapes
import DirectiveBinding.Proofs.Template.Seen
import DirectiveBinding.Proofs.Text.Offsets
import DirectiveBinding.Proofs.Selector.Faults
import DirectiveBinding.Proofs.Selector.Pointing
import DirectiveBinding.Proofs.Microsyntax.Lossless
import DirectiveBinding.Proofs.Directive.Properties
import DirectiveBinding.Proofs.Metadata.PropertyLists
import DirectiveBinding.Proofs.Json.Records
import DirectiveBinding.Proofs.Metadata.Spellings
