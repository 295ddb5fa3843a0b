import Scim.Text.Casing
import Scim.Text.WordTable
import Scim.Fault
import Scim.Name
import Scim.Location
import Scim.Catalog
import Scim.Path
import Scim.Number
import Scim.Json
import Scim.Record.Entries
import Scim.Value
import Scim.Value.Equality
import Scim.Record.Address
import Scim.Issue
import Scim.Report
import Scim.Report.Selection
import Scim.Report.Tree
import Scim.Attribute.Characteristics
import Scim.Path.Check
import Scim.Url.DomainTable
import Scim.Url.DirectionTable
import Scim.Text.Base64
import Scim.Text.Timestamp
import Scim.Url.Punycode
import Scim.Url.Address
import Scim.Url.Domain
import Scim.Url
import Scim.Attribute
import Scim.Attribute.Declaration
import Scim.Attribute.Draft
import Scim.Attribute.Shape
import Scim.Attribute.Validation
import Scim.Attribute.Normalization
import Scim.Attribute.Projection
import Scim.Attribute.Rendering
import Scim.Attribute.Equality
import Scim.Schema.Attributes
import Scim.Schema.SharedAttributes
import Scim.Schema
import Scim.Schema.Validation
import Scim.Schema.Normalization
import Scim.Presence
import Scim.Sorting
import Scim.Proofs.Record.Entries
import Scim.Proofs.Record.Indexed
import Scim.Proofs.Record.Store
import Scim.Proofs.Record.StoreAddress
import Scim.Proofs.Record.Reachable
import Scim.Proofs.Location
import Scim.Proofs.Report.Slots
import Scim.Proofs.Report.Soundness
import Scim.Proofs.Value.Marked
import Scim.Proofs.Attribute.Checks
import Scim.Proofs.Attribute.Marking
import Scim.Proofs.Schema.Marking
import Scim.Proofs.Report.Clean
import Scim.Proofs.Attribute.Conformance
import Scim.Proofs.Schema.Conformance
import Scim.Proofs.Json
import Scim.Proofs.Report.Equality
import Scim.Proofs.Report.Merging
import Scim.Proofs.Text.Casing
import Scim.Proofs.Path
import Scim.Proofs.Record.Writing
import Scim.Proofs.Record.StoreRemoval
import Scim.Proofs.Record.Lens
import Scim.Proofs.Schema.Lookup
import Scim.Proofs.Record.Spelling
import Scim.Proofs.Sorting.Spelling
import Scim.Proofs.Presence.Examined
import Scim.Proofs.Presence.Consistency
import Scim.Proofs.Record.Refusal
import Scim.Proofs.Record.Frame
import Scim.Proofs.Text.Qualified
import Scim.Proofs.Value.Equality
import Scim.Proofs.Value.Equivalence
import Scim.Proofs.Value.Extension
import Scim.Proofs.Text.Sigma
import Scim.Proofs.Path.Location
import Scim.Proofs.Path.Casing
import Scim.Proofs.Record.Recased
import Scim.Proofs.Path.Slot
import Scim.Proofs.Schema.Attached
import Scim.Proofs.Schema.Unreadable
import Scim.Proofs.Value.Reduced
import Scim.Proofs.Attribute.Conversion
import Scim.Proofs.Schema.Conversion
import Scim.Proofs.Path.RoundTrip
import Scim.Proofs.Value.RoundTrip
import Scim.Proofs.Attribute.Made
import Scim.Proofs.Schema.Reachable
import Scim.Proofs.Schema.Output
import Scim.Proofs.Record.Location
import Scim.Proofs.Presence.Judged
import Scim.Proofs.Presence.Rules
import Scim.Proofs.Schema.InPlace
import Scim.Proofs.Schema.Declarations
import Scim.Proofs.Value.Respelled
import Scim.Proofs.Value.RespelledEquality
import Scim.Proofs.Attribute.Respelled
import Scim.Proofs.Schema.Respelled
import Scim.Proofs.Number.Rounding
import Scim.Proofs.Sorting.Order
import Scim.Proofs.Sorting.Integers
import Scim.Proofs.Presence.Exclusion
import Scim.Proofs.Number.Exact
import Scim.Proofs.Attribute.Settled
import Scim.Proofs.Schema.KeyByKey
import Scim.Proofs.Schema.Settled
import Scim.Proofs.Report.Selection
import Scim.Proofs.Report.History
import Scim.Proofs.Report.Rendering
import Scim.Proofs.Attribute.Accepted
import Scim.Proofs.Attribute.Undeclared
import Scim.Proofs.Json.Equality
import Scim.Proofs.Attribute.Equality
import Scim.Proofs.Record.Expansion
import Scim.Proofs.Record.Registered
import Scim.Proofs.Sorting.Elements
import Scim.Proofs.Report.Elementwise
import Scim.Proofs.Attribute.Elementwise
import Scim.Proofs.Record.Distribution
import Scim.Proofs.Schema.Restriction
import Scim.Proofs.Text.Lowered
import Scim.Proofs.Report.Advised
import Scim.Proofs.Report.Findings
import Scim.Proofs.Attribute.Findings
import Scim.Proofs.Attribute.Canonical
import Scim.Proofs.Record.Revision
import Scim.Proofs.Attribute.Screened
import Scim.Proofs.Schema.Screened
import Scim.Proofs.Schema.Collection
import Scim.Proofs.Attribute.Projection
import Scim.Proofs.Attribute.Repetition
