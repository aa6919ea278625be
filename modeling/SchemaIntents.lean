import SchemaIntents.Diagnostic
import SchemaIntents.Digest
import SchemaIntents.Intent.Schema
import SchemaIntents.Ir.Envelope
import SchemaIntents.Json.Canonical
import SchemaIntents.Json.Indented
import SchemaIntents.Json.Reader
import SchemaIntents.Naming
import SchemaIntents.Intent.Part
import SchemaIntents.Resolved.Field
import SchemaIntents.Intent.Data
import SchemaIntents.Intent.Service
import SchemaIntents.Context
import SchemaIntents.Log
import SchemaIntents.Draft
import SchemaIntents.Draft.Entity
import SchemaIntents.Draft.Field
import SchemaIntents.Draft.Capability
import SchemaIntents.Document
import SchemaIntents.Diagnostic.Collector
import SchemaIntents.Yaml.Cursor
import SchemaIntents.Yaml.Lexer
import SchemaIntents.Yaml.Document
import SchemaIntents.Yaml.Load
import SchemaIntents.Document.File
import SchemaIntents.Ir.File
import SchemaIntents.Log.Format
import SchemaIntents.Log.Setup
import SchemaIntents.Cli
import SchemaIntents.Main
import SchemaIntents.Proofs.Shape.Checking
import SchemaIntents.Proofs.Shape.Record
import SchemaIntents.Proofs.Shape.Reading
import SchemaIntents.Proofs.Shape.Rereading
import SchemaIntents.Proofs.Value.Entries
import SchemaIntents.Proofs.Value.Json
import SchemaIntents.Proofs.Shape.Writing
import SchemaIntents.Proofs.Shape.Gaps
import SchemaIntents.Proofs.Ir.Faithful
import SchemaIntents.Proofs.Ir.RoundTrip
import SchemaIntents.Proofs.Document.Runs
import SchemaIntents.Proofs.Resolution.Acceptance
import SchemaIntents.Proofs.Context.Construction
import SchemaIntents.Proofs.Document.Known
import SchemaIntents.Proofs.Intent.Faithful
import SchemaIntents.Proofs.Resolution.Misuse
import SchemaIntents.Proofs.Document.Interruption
import SchemaIntents.Proofs.Shape.Findings
import SchemaIntents.Proofs.Resolved.Fields
import SchemaIntents.Proofs.Intent.Soundness
import SchemaIntents.Proofs.Resolved.Soundness
import SchemaIntents.Proofs.Calendar
import SchemaIntents.Proofs.Draft.Envelope
import SchemaIntents.Proofs.Draft.Bodies
import SchemaIntents.Proofs.Draft.Reports
import SchemaIntents.Proofs.Resolution.Misfits
import SchemaIntents.Proofs.Draft.Codes
import SchemaIntents.Proofs.Resolved.Entity
import SchemaIntents.Proofs.Draft.Entity
import SchemaIntents.Proofs.Draft.Lookups
import SchemaIntents.Proofs.Shape.Alteration
import SchemaIntents.Proofs.Draft.Moments
import SchemaIntents.Proofs.Resolution.Tracking
import SchemaIntents.Proofs.Context.Tracking
import SchemaIntents.Proofs.Document.Tracking
import SchemaIntents.Proofs.Document.Exchange
import SchemaIntents.Proofs.Json.Layout
import SchemaIntents.Proofs.Text.Utf8
import SchemaIntents.Proofs.Folder
import SchemaIntents.Proofs.Log.Setup
import SchemaIntents.Proofs.Shape.Free
import SchemaIntents.Proofs.Ir.File
import SchemaIntents.Proofs.Resolution.Sayable
import SchemaIntents.Proofs.Cli
import SchemaIntents.Proofs.Json.Reading
import SchemaIntents.Proofs.Json.Rereading
import SchemaIntents.Proofs.Document.File
import SchemaIntents.Proofs.Json.Ordering
import SchemaIntents.Proofs.Json.Tokens
import SchemaIntents.Proofs.Json.Canonical
import SchemaIntents.Proofs.Decimal.Text
import SchemaIntents.Proofs.Resolution.Reports
import SchemaIntents.Proofs.Document.Accounts
import SchemaIntents.Proofs.Document.Identity
import SchemaIntents.Proofs.Intent.RoundTrip
import SchemaIntents.Proofs.Document.Checked
import SchemaIntents.Proofs.Context.Arguments
import SchemaIntents.Proofs.Document.Author
import SchemaIntents.Proofs.Document.Faults
import SchemaIntents.Proofs.Shape.Places
import SchemaIntents.Proofs.Shape.Strangers
import SchemaIntents.Proofs.Shape.Charts
import SchemaIntents.Proofs.Ir.Closed
import SchemaIntents.Proofs.Shape.Spelling
import SchemaIntents.Proofs.Ir.Spelling
import SchemaIntents.Proofs.Cli.Report
import SchemaIntents.Proofs.Naming
import SchemaIntents.Proofs.Shape.Deciding
import SchemaIntents.Proofs.Resolved.Unfit
import SchemaIntents.Proofs.Draft.Unfit
import SchemaIntents.Proofs.Resolution.Unfit
import SchemaIntents.Proofs.Resolution.Nullability
import SchemaIntents.Proofs.Resolved.Isolation
import SchemaIntents.Proofs.Intent.Retyping
import SchemaIntents.Proofs.Resolution.Isolation
import SchemaIntents.Proofs.Resolved.Indexes
import SchemaIntents.Proofs.Resolution.Indexes
import SchemaIntents.Proofs.Resolved.Overlay
import SchemaIntents.Proofs.Draft.Capability
import SchemaIntents.Proofs.Resolution.Capability
import SchemaIntents.Proofs.Draft.Fields
import SchemaIntents.Proofs.Resolution.Buckets
import SchemaIntents.Proofs.Intent.Defaults
import SchemaIntents.Proofs.Resolution.Defaults
import SchemaIntents.Proofs.Resolved.Counting
import SchemaIntents.Proofs.Resolution.Counting
import SchemaIntents.Proofs.Text.Casing
import SchemaIntents.Proofs.Naming.Suffixes
import SchemaIntents.Proofs.Shape.Issues
import SchemaIntents.Proofs.Draft.Explained
import SchemaIntents.Proofs.Resolution.Collected
import SchemaIntents.Proofs.Context.Version
import SchemaIntents.Proofs.Resolution.Origin
import SchemaIntents.Proofs.Json.Extent
import SchemaIntents.Proofs.Json.Overflow
import SchemaIntents.Proofs.Yaml.Scanning
import SchemaIntents.Proofs.Yaml.Composing
import SchemaIntents.Proofs.Yaml.Loading
import SchemaIntents.Proofs.Document.Loading
import SchemaIntents.Proofs.Naming.Spellings
import SchemaIntents.Proofs.Resolved.Steps
import SchemaIntents.Proofs.Resolved.Entries
import SchemaIntents.Proofs.Text.Pieces
import SchemaIntents.Proofs.Diagnostic.Paths
import SchemaIntents.Proofs.Resolution.Removal
