import RegistryStorage.BlobService
import RegistryStorage.CloudEnvironment
import RegistryStorage.Command.Arguments
import RegistryStorage.Command.Run
import RegistryStorage.Decimal.Double
import RegistryStorage.Decimal.Shortest
import RegistryStorage.Dict
import RegistryStorage.Fault
import RegistryStorage.Files.Content
import RegistryStorage.Files.Folder
import RegistryStorage.Http.Base64
import RegistryStorage.Http.Message
import RegistryStorage.Http.Server
import RegistryStorage.Http.Session
import RegistryStorage.Json.Numeral
import RegistryStorage.Json.Token
import RegistryStorage.Json.Tree
import RegistryStorage.Json.Value
import RegistryStorage.Json.Writer
import RegistryStorage.Lifecycle.Assure
import RegistryStorage.Lifecycle.Create
import RegistryStorage.Lifecycle.Inspect
import RegistryStorage.Lifecycle.Invocation
import RegistryStorage.Lifecycle.Isolation
import RegistryStorage.Lifecycle.Probe
import RegistryStorage.Lifecycle.Remove
import RegistryStorage.Main
import RegistryStorage.Moment.Basic
import RegistryStorage.Moment.Text
import RegistryStorage.Naming.Basic
import RegistryStorage.Naming.Draws
import RegistryStorage.Polling
import RegistryStorage.Proofs.Agreement
import RegistryStorage.Proofs.Amendments
import RegistryStorage.Proofs.Attempts
import RegistryStorage.Proofs.Bystanders
import RegistryStorage.Proofs.CallOrder
import RegistryStorage.Proofs.ChosenNames
import RegistryStorage.Proofs.CloudNames
import RegistryStorage.Proofs.CloudResolution
import RegistryStorage.Proofs.CommandLine
import RegistryStorage.Proofs.Completed
import RegistryStorage.Proofs.ConditionHistory
import RegistryStorage.Proofs.Conduct
import RegistryStorage.Proofs.ConfirmedDeletion
import RegistryStorage.Proofs.Connection
import RegistryStorage.Proofs.Convergence
import RegistryStorage.Proofs.Decision
import RegistryStorage.Proofs.Discretion
import RegistryStorage.Proofs.DnsChain
import RegistryStorage.Proofs.DrawnNames
import RegistryStorage.Proofs.ErrorBody
import RegistryStorage.Proofs.GeneratedNames
import RegistryStorage.Proofs.History
import RegistryStorage.Proofs.Holdings
import RegistryStorage.Proofs.Identifiers
import RegistryStorage.Proofs.Interleaving
import RegistryStorage.Proofs.Journal
import RegistryStorage.Proofs.JsonText
import RegistryStorage.Proofs.LongOperations
import RegistryStorage.Proofs.MomentText
import RegistryStorage.Proofs.NameGrammar
import RegistryStorage.Proofs.Neighbours
import RegistryStorage.Proofs.NumberText
import RegistryStorage.Proofs.Onward
import RegistryStorage.Proofs.Ownership
import RegistryStorage.Proofs.PatternLanguage
import RegistryStorage.Proofs.Phases
import RegistryStorage.Proofs.PollingLaw
import RegistryStorage.Proofs.RecordFile
import RegistryStorage.Proofs.Recorded
import RegistryStorage.Proofs.Reentry
import RegistryStorage.Proofs.Rereading
import RegistryStorage.Proofs.Rounding
import RegistryStorage.Proofs.Rounds
import RegistryStorage.Proofs.Seclusion
import RegistryStorage.Proofs.SettingsSources
import RegistryStorage.Proofs.Settled
import RegistryStorage.Proofs.Teardown
import RegistryStorage.Proofs.Truthfulness
import RegistryStorage.Provider.Call
import RegistryStorage.Provider.Disturbance
import RegistryStorage.Provider.Inventory
import RegistryStorage.Provider.Program
import RegistryStorage.Provider.Remote
import RegistryStorage.Provider.Resource
import RegistryStorage.Record.Condition
import RegistryStorage.Record.Config
import RegistryStorage.Record.Infrastructure
import RegistryStorage.Record.State
import RegistryStorage.RegistryVariable
import RegistryStorage.Report
import RegistryStorage.ResourceId
import RegistryStorage.ResourceManager.Answer
import RegistryStorage.ResourceManager.Client
import RegistryStorage.ResourceManager.Resource
import RegistryStorage.Settings.Basic
import RegistryStorage.Settings.File
import RegistryStorage.Table
import RegistryStorage.Text.Blank
import RegistryStorage.Text.Capitals
import RegistryStorage.Text.Case
import RegistryStorage.Text.Pattern
import RegistryStorage.Text.Width
import RegistryStorage.Text.WidthClass
import RegistryStorage.Toml.Document
import RegistryStorage.Toml.Scalar
import RegistryStorage.Toml.Table
import RegistryStorage.Toml.Text
import RegistryStorage.Url.Basic
import RegistryStorage.Url.Encoding
import RegistryStorage.Url.Host
import RegistryStorage.Url.Punycode
import RegistryStorage.Yaml.Resolution
import RegistryStorage.Yaml.Scalar
import RegistryStorage.Yaml.Writer
