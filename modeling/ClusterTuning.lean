import ClusterTuning.Activity
import ClusterTuning.ApiVersion
import ClusterTuning.Application
import ClusterTuning.Cluster
import ClusterTuning.Cluster.Resource
import ClusterTuning.CommandLine
import ClusterTuning.CommandLine.Call
import ClusterTuning.CommandLine.Help
import ClusterTuning.CommandLine.Words
import ClusterTuning.Controller
import ClusterTuning.Data.Decode
import ClusterTuning.Data.Encode
import ClusterTuning.Data.Fields
import ClusterTuning.Data.Mismatch
import ClusterTuning.Data.Value
import ClusterTuning.Decimal.Double
import ClusterTuning.Decimal.Layout
import ClusterTuning.Decimal.Power
import ClusterTuning.Decimal.Shortest
import ClusterTuning.Deployment
import ClusterTuning.Directory
import ClusterTuning.Experiment
import ClusterTuning.ExperimentTemplate
import ClusterTuning.Failure
import ClusterTuning.Feed
import ClusterTuning.FileSet
import ClusterTuning.Generation
import ClusterTuning.Input
import ClusterTuning.Json.Reader
import ClusterTuning.Json.Writer
import ClusterTuning.Kubectl
import ClusterTuning.Main
import ClusterTuning.Manifest
import ClusterTuning.Manifest.Extract
import ClusterTuning.Manifest.Reader
import ClusterTuning.MergePatch
import ClusterTuning.Orchestration
import ClusterTuning.Overlay
import ClusterTuning.Patch
import ClusterTuning.Patch.LeadingDot
import ClusterTuning.Program
import ClusterTuning.Program.Scripted
import ClusterTuning.Proofs.Application
import ClusterTuning.Proofs.Canonical
import ClusterTuning.Proofs.Controller
import ClusterTuning.Proofs.Deployment
import ClusterTuning.Proofs.Deployment.Attempt
import ClusterTuning.Proofs.Deployment.Frame
import ClusterTuning.Proofs.Deployment.Isolation
import ClusterTuning.Proofs.Deployment.Written
import ClusterTuning.Proofs.Experiment
import ClusterTuning.Proofs.Experiment.Levels
import ClusterTuning.Proofs.Experiment.RoundTrip
import ClusterTuning.Proofs.ExperimentTemplate
import ClusterTuning.Proofs.ExperimentTemplate.Union
import ClusterTuning.Proofs.Feed
import ClusterTuning.Proofs.Generation
import ClusterTuning.Proofs.Input
import ClusterTuning.Proofs.Input.ByName
import ClusterTuning.Proofs.Json.Control
import ClusterTuning.Proofs.Json.Rereading
import ClusterTuning.Proofs.Json.Scalars
import ClusterTuning.Proofs.Manifest
import ClusterTuning.Proofs.Manifest.Named
import ClusterTuning.Proofs.Merge.Fields
import ClusterTuning.Proofs.Merge.NamedItems
import ClusterTuning.Proofs.Merge.NamedLists
import ClusterTuning.Proofs.Merge.Paths
import ClusterTuning.Proofs.Merge.Repetition
import ClusterTuning.Proofs.Names
import ClusterTuning.Proofs.Orchestration
import ClusterTuning.Proofs.Orchestration.Calls
import ClusterTuning.Proofs.Orchestration.Unedited
import ClusterTuning.Proofs.OrderedFields
import ClusterTuning.Proofs.Overlay
import ClusterTuning.Proofs.Overlay.Address
import ClusterTuning.Proofs.Overlay.Failures
import ClusterTuning.Proofs.Overlay.Reordering
import ClusterTuning.Proofs.Overlay.Run
import ClusterTuning.Proofs.Overlay.Versions
import ClusterTuning.Proofs.Patch
import ClusterTuning.Proofs.Patch.FieldNames
import ClusterTuning.Proofs.Patch.LeadingDot
import ClusterTuning.Proofs.Patch.Leaves
import ClusterTuning.Proofs.Patch.Literal
import ClusterTuning.Proofs.Patch.Place
import ClusterTuning.Proofs.Patch.Structure
import ClusterTuning.Proofs.Patch.Target
import ClusterTuning.Proofs.Position
import ClusterTuning.Proofs.Program
import ClusterTuning.Proofs.Records.Survival
import ClusterTuning.Proofs.Templating.Plain
import ClusterTuning.Proofs.Text
import ClusterTuning.Proofs.Trial
import ClusterTuning.Proofs.Trial.Name
import ClusterTuning.Proofs.TrialManifest
import ClusterTuning.Proofs.TrialManifest.Ambiguity
import ClusterTuning.Proofs.TrialManifest.Lookup
import ClusterTuning.Proofs.TrialManifest.Reordering
import ClusterTuning.Remote
import ClusterTuning.Report
import ClusterTuning.Scenario
import ClusterTuning.Selector
import ClusterTuning.Settings
import ClusterTuning.Shutdown
import ClusterTuning.Templating.Arithmetic
import ClusterTuning.Templating.Call
import ClusterTuning.Templating.Check
import ClusterTuning.Templating.Datum
import ClusterTuning.Templating.Evaluate
import ClusterTuning.Templating.Expr
import ClusterTuning.Templating.Fault
import ClusterTuning.Templating.Filter
import ClusterTuning.Templating.Grammar
import ClusterTuning.Templating.Memory
import ClusterTuning.Templating.Template
import ClusterTuning.Templating.Token
import ClusterTuning.Text.Blank
import ClusterTuning.Text.Canonical
import ClusterTuning.Text.CaseIgnorable
import ClusterTuning.Text.CombiningClass
import ClusterTuning.Text.Composed
import ClusterTuning.Text.LetterCase
import ClusterTuning.Text.Pieces
import ClusterTuning.Text.Printable
import ClusterTuning.Text.Quoted
import ClusterTuning.Text.Ranges
import ClusterTuning.Text.Rows
import ClusterTuning.Text.Utf8
import ClusterTuning.Toml.Reader
import ClusterTuning.Toml.Scalar
import ClusterTuning.Toml.Table
import ClusterTuning.Trial
import ClusterTuning.TrialManifest
import ClusterTuning.TrialRecord
import ClusterTuning.Web.Address
import ClusterTuning.Web.Client
import ClusterTuning.Web.Domain
import ClusterTuning.Web.Domain.Direction
import ClusterTuning.Web.Domain.Folding
import ClusterTuning.Web.Domain.Joining
import ClusterTuning.Web.Host
import ClusterTuning.Web.Path
import ClusterTuning.Web.Percent
import ClusterTuning.Web.Punycode
import ClusterTuning.Web.Status
import ClusterTuning.Web.Url
import ClusterTuning.Yaml.Cursor
import ClusterTuning.Yaml.Document
import ClusterTuning.Yaml.Node
import ClusterTuning.Yaml.Printer
import ClusterTuning.Yaml.Property
import ClusterTuning.Yaml.Scalar
import ClusterTuning.Yaml.ScalarText
import ClusterTuning.Yaml.Source
import ClusterTuning.Yaml.Token
