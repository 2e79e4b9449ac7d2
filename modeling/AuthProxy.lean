import AuthProxy.Binding.Basic
import AuthProxy.Binding.Override
import AuthProxy.Check
import AuthProxy.Command.Arguments
import AuthProxy.Command.Process
import AuthProxy.Command.Report
import AuthProxy.Command.Run
import AuthProxy.Configuration.Basic
import AuthProxy.Configuration.Field
import AuthProxy.Configuration.Gathering
import AuthProxy.Duration.Basic
import AuthProxy.Duration.Reader
import AuthProxy.Duration.Unit
import AuthProxy.Duration.Writer
import AuthProxy.Fault
import AuthProxy.Files.Basic
import AuthProxy.Files.Directory
import AuthProxy.Layer.Misfit
import AuthProxy.Layer.Path
import AuthProxy.Layer.Reading
import AuthProxy.Layer.Tree
import AuthProxy.Loading.Environment
import AuthProxy.Loading.Loader
import AuthProxy.Loading.Sources
import AuthProxy.Log.Directive
import AuthProxy.Log.Event
import AuthProxy.Log.Filter
import AuthProxy.Log.Install
import AuthProxy.Log.Level
import AuthProxy.Log.Pattern
import AuthProxy.Main
import AuthProxy.Number.Binary64
import AuthProxy.Number.Decimal
import AuthProxy.Number.Digit
import AuthProxy.Number.Power
import AuthProxy.Outcome
import AuthProxy.Proofs.Binding.Items
import AuthProxy.Proofs.Binding.Override
import AuthProxy.Proofs.Binding.Selection
import AuthProxy.Proofs.Binding.Written
import AuthProxy.Proofs.Check.Conditions
import AuthProxy.Proofs.Check.CookieKey
import AuthProxy.Proofs.Command.FileChoice
import AuthProxy.Proofs.Command.Outcome
import AuthProxy.Proofs.Command.Process
import AuthProxy.Proofs.Command.Summary
import AuthProxy.Proofs.Configuration.Gathering
import AuthProxy.Proofs.Configuration.Paths
import AuthProxy.Proofs.Duration.Literal
import AuthProxy.Proofs.Duration.Overflow
import AuthProxy.Proofs.Duration.RoundTrip
import AuthProxy.Proofs.Duration.Runs
import AuthProxy.Proofs.Duration.Sum
import AuthProxy.Proofs.Fault.Sections
import AuthProxy.Proofs.FirstStop
import AuthProxy.Proofs.Layer.Access
import AuthProxy.Proofs.Layer.Documents
import AuthProxy.Proofs.Layer.Mappings
import AuthProxy.Proofs.Layer.Orders
import AuthProxy.Proofs.Layer.Sections
import AuthProxy.Proofs.Layer.Values
import AuthProxy.Proofs.Loading.Agreement
import AuthProxy.Proofs.Loading.Confluence
import AuthProxy.Proofs.Loading.Crash
import AuthProxy.Proofs.Loading.Environment
import AuthProxy.Proofs.Loading.Essentials
import AuthProxy.Proofs.Loading.Files
import AuthProxy.Proofs.Loading.Layering
import AuthProxy.Proofs.Loading.Layers
import AuthProxy.Proofs.Loading.Order
import AuthProxy.Proofs.Loading.Partial
import AuthProxy.Proofs.Loading.Ports
import AuthProxy.Proofs.Loading.Printed
import AuthProxy.Proofs.Loading.Reachable
import AuthProxy.Proofs.Loading.RoundTrip
import AuthProxy.Proofs.Loading.Single
import AuthProxy.Proofs.Loading.Stages
import AuthProxy.Proofs.Loading.Walks
import AuthProxy.Proofs.Log.Cuts
import AuthProxy.Proofs.Log.Folding
import AuthProxy.Proofs.Secrecy.Documents
import AuthProxy.Proofs.Secrecy.Loads
import AuthProxy.Proofs.Secrecy.Runs
import AuthProxy.Proofs.Secrecy.Trees
import AuthProxy.Proofs.Secret.Canonical
import AuthProxy.Proofs.Text.Character
import AuthProxy.Proofs.Text.Joined
import AuthProxy.Proofs.Text.Trimmed
import AuthProxy.Proofs.Text.Utf8
import AuthProxy.Proofs.Toml.Building
import AuthProxy.Proofs.Toml.Distinct
import AuthProxy.Proofs.Toml.Giving
import AuthProxy.Proofs.Toml.Lines
import AuthProxy.Proofs.Toml.Nodes
import AuthProxy.Proofs.Toml.Partial
import AuthProxy.Proofs.Toml.Quoted
import AuthProxy.Proofs.Toml.RoundTrip
import AuthProxy.Proofs.Toml.Spelling
import AuthProxy.Proofs.Toml.Standing
import AuthProxy.Proofs.Toml.Statements
import AuthProxy.Proofs.Toml.Values
import AuthProxy.Proofs.Url.Hosts
import AuthProxy.Secret.Base64
import AuthProxy.Text.Alphanumeric
import AuthProxy.Text.Blank
import AuthProxy.Text.Invisible
import AuthProxy.Text.LowerCase
import AuthProxy.Text.LowerCase.Table
import AuthProxy.Text.Quoted
import AuthProxy.Text.Ranges
import AuthProxy.Text.Split
import AuthProxy.Text.Utf8
import AuthProxy.Toml.DateTime
import AuthProxy.Toml.Document
import AuthProxy.Toml.Node
import AuthProxy.Toml.Number
import AuthProxy.Toml.Quoted
import AuthProxy.Toml.Reading
import AuthProxy.Toml.Statement
import AuthProxy.Toml.Value
import AuthProxy.Toml.Writer
import AuthProxy.Url.Basic
import AuthProxy.Url.Idna.Composition
import AuthProxy.Url.Idna.CompositionTable
import AuthProxy.Url.Idna.Domain
import AuthProxy.Url.Idna.MappingTable
import AuthProxy.Url.Idna.Punycode
import AuthProxy.Url.Idna.Rows
import AuthProxy.Url.Idna.ScriptTable
import AuthProxy.Url.Ipv4
import AuthProxy.Url.Ipv6
import AuthProxy.Url.Reader
