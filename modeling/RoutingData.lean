import RoutingData.Table
import RoutingData.Unicode.Property
import RoutingData.Text.Case
import RoutingData.Text.Pieces
import RoutingData.BuildError
import RoutingData.Pattern
import RoutingData.Registry
import RoutingData.Net.Merge
import RoutingData.Net.Parser
import RoutingData.Net.Reserved
import RoutingData.Dataset
import RoutingData.Sha256
import RoutingData.Toml.Document
import RoutingData.Toml.Scalar
import RoutingData.RuleText
import RoutingData.Overrides
import RoutingData.FileTree.Path
import RoutingData.FileTree.Basic
import RoutingData.Settings
import RoutingData.Main
import RoutingData.Proofs.Covering
import RoutingData.Proofs.MinimalCover
import RoutingData.Proofs.Recording
import RoutingData.Proofs.Filing
import RoutingData.Proofs.Reading
import RoutingData.Proofs.Inclusion.Graph
import RoutingData.Proofs.Inclusion.Rounds
import RoutingData.Proofs.Inclusion.Countdown
import RoutingData.Proofs.Inclusion.Levels
import RoutingData.Proofs.Inclusion.Parts
import RoutingData.Proofs.Inclusion.Chains
import RoutingData.Proofs.Inclusion.Resolution
import RoutingData.Proofs.Inclusion.Multiplicity
import RoutingData.Proofs.Inclusion.Failure
import RoutingData.Proofs.Inclusion.Order
import RoutingData.Proofs.Export
import RoutingData.Proofs.ByAttribute
import RoutingData.Proofs.Bytes
import RoutingData.Proofs.Wire.Varint
import RoutingData.Proofs.Wire.Field
import RoutingData.Proofs.Wire.Message
import RoutingData.Proofs.RoundTrip
import RoutingData.Proofs.Loading
import RoutingData.Proofs.Holding
import RoutingData.Proofs.Building
import RoutingData.Proofs.Net.Cutting
import RoutingData.Proofs.Net.Spans
import RoutingData.Proofs.Net.Merging
import RoutingData.Proofs.Net.Smallest
import RoutingData.Proofs.History
import RoutingData.Proofs.Inclusion.Diagnosis
import RoutingData.Proofs.Inclusion.Locality
import RoutingData.Proofs.FileTree.Walks
import RoutingData.Proofs.FileTree.Changes
import RoutingData.Proofs.FileTree.Rooted
import RoutingData.Proofs.FileTree.WellFormed
import RoutingData.Proofs.FileTree.Descent
import RoutingData.Proofs.Effects
import RoutingData.Proofs.Requests
import RoutingData.Proofs.Inclusion.Alike
import RoutingData.Proofs.Inclusion.Wording
import RoutingData.Proofs.Text.Trim
import RoutingData.Proofs.Excluding
import RoutingData.Proofs.Text.Lines
import RoutingData.Proofs.CanonicalLines
import RoutingData.Proofs.LineByLine
import RoutingData.Proofs.RuleText
import RoutingData.Proofs.Editing
import RoutingData.Proofs.CoverInParts
import RoutingData.Proofs.Inclusion.Selected
import RoutingData.Proofs.Inclusion.Again
import RoutingData.Proofs.Net.Notation
import RoutingData.Proofs.AddressLines
import RoutingData.Proofs.Reapplying
import RoutingData.Proofs.LatestFiles
