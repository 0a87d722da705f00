import SupplyGraph.Chain
import SupplyGraph.CommandLine.Arguments
import SupplyGraph.CommandLine.Report
import SupplyGraph.Compiler
import SupplyGraph.Decimal.Binary64
import SupplyGraph.Decimal.Shortest
import SupplyGraph.Digest.Sha256
import SupplyGraph.Fault
import SupplyGraph.Json.Members
import SupplyGraph.Json.Number
import SupplyGraph.Json.Printer
import SupplyGraph.Json.Reader
import SupplyGraph.Json.Token
import SupplyGraph.Json.Value
import SupplyGraph.Labels
import SupplyGraph.Link.Basic
import SupplyGraph.Link.Json
import SupplyGraph.Link.Rule
import SupplyGraph.Link.Validation
import SupplyGraph.Manifest
import SupplyGraph.Node.Basic
import SupplyGraph.Node.Json
import SupplyGraph.Node.Merge
import SupplyGraph.Provision
import SupplyGraph.Sequence
import SupplyGraph.Sorted.Key
import SupplyGraph.Sorted.Map
import SupplyGraph.Sorted.Set
import SupplyGraph.Template.Decoder
import SupplyGraph.Template.Format
import SupplyGraph.Template.Json
import SupplyGraph.Template.Record
import SupplyGraph.Template.Text
import SupplyGraph.Template.Yaml
import SupplyGraph.Text.Blank
import SupplyGraph.Trade
import SupplyGraph.Vocabulary.Label
import SupplyGraph.Vocabulary.Lookup
import SupplyGraph.Vocabulary.Resolve
import SupplyGraph.Vocabulary.Types
import SupplyGraph.Yaml.Character
import SupplyGraph.Yaml.Document
import SupplyGraph.Yaml.Layout
import SupplyGraph.Yaml.Node
import SupplyGraph.Yaml.Reading
import SupplyGraph.Yaml.Scalar.Block
import SupplyGraph.Yaml.Scalar.Plain
import SupplyGraph.Yaml.Scalar.Quoted
import SupplyGraph.Yaml.Space
import SupplyGraph.Yaml.Token
import SupplyGraph.Main
import SupplyGraph.Proofs.Sorted.Gathering
import SupplyGraph.Proofs.Labels.Agreement
import SupplyGraph.Proofs.Node.Joining
import SupplyGraph.Proofs.Chain.Assembly
import SupplyGraph.Proofs.Entry.Resolution
import SupplyGraph.Proofs.Entry.Purchases
import SupplyGraph.Proofs.Entry.Links
import SupplyGraph.Proofs.Entry.Declaration
import SupplyGraph.Proofs.Compile.Runs
import SupplyGraph.Proofs.Node.Union
import SupplyGraph.Proofs.Compile.Union
import SupplyGraph.Proofs.Compile.DerivedFields
import SupplyGraph.Proofs.Chain.Grouping
import SupplyGraph.Proofs.Compile.Splitting
import SupplyGraph.Proofs.Compile.FirstViolation
import SupplyGraph.Proofs.Compile.EntryOrder
import SupplyGraph.Proofs.Chain.Attempts
import SupplyGraph.Proofs.Json.Numerals
import SupplyGraph.Proofs.Json.Quotation
import SupplyGraph.Proofs.Json.Tokens
import SupplyGraph.Proofs.Json.Parts
import SupplyGraph.Proofs.Json.Reading
import SupplyGraph.Proofs.Text.Octets
import SupplyGraph.Proofs.Sorted.Listing
import SupplyGraph.Proofs.Json.Canonical
import SupplyGraph.Proofs.Vocabulary.Labels
import SupplyGraph.Proofs.Json.Faithful
import SupplyGraph.Proofs.Digest.Collision
import SupplyGraph.Proofs.Chain.Fingerprint
import SupplyGraph.Proofs.Json.Reals
import SupplyGraph.Proofs.Json.Scanning
import SupplyGraph.Proofs.Decimal.Intervals
import SupplyGraph.Proofs.Decimal.ReadingBack
import SupplyGraph.Proofs.Json.Literals
import SupplyGraph.Proofs.Json.Spelling
import SupplyGraph.Proofs.Template.Encoding
import SupplyGraph.Proofs.Digest.Source
import SupplyGraph.Proofs.Template.RoundTrip
import SupplyGraph.Proofs.Fault.Paths
import SupplyGraph.Proofs.Fault.Location
import SupplyGraph.Proofs.Entry.Faults
import SupplyGraph.Proofs.Compile.FaultFields
import SupplyGraph.Proofs.Text.Padding
import SupplyGraph.Proofs.Compile.Padding
import SupplyGraph.Proofs.Entry.Checks
import SupplyGraph.Proofs.Entry.Decisions
import SupplyGraph.Proofs.Entry.LinkDecisions
import SupplyGraph.Proofs.Compile.CheckOrder
import SupplyGraph.Proofs.Compile.Extension
import SupplyGraph.Proofs.Entry.Completeness
import SupplyGraph.Proofs.Compile.Completeness
import SupplyGraph.Proofs.Json.Indentation
import SupplyGraph.Proofs.Chain.Printing
import SupplyGraph.Proofs.Compile.Conservation
import SupplyGraph.Proofs.CommandLine.Agreement
import SupplyGraph.Proofs.Entry.Description
import SupplyGraph.Proofs.Compile.Contents
import SupplyGraph.Proofs.Link.Independence
import SupplyGraph.Proofs.Link.Rules
import SupplyGraph.Proofs.Compile.Rearrangement
import SupplyGraph.Proofs.Compile.Provisions
import SupplyGraph.Proofs.Node.Merging
import SupplyGraph.Proofs.Json.Lexemes
import SupplyGraph.Proofs.Json.Grammar
import SupplyGraph.Proofs.Template.Schema
import SupplyGraph.Proofs.Template.Presentation
import SupplyGraph.Proofs.Json.Decoding
import SupplyGraph.Proofs.Link.RoundTrip
