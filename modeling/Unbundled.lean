import Unbundled.Cli.Arguments
import Unbundled.Cli.Read
import Unbundled.Cli.Run
import Unbundled.Config.File
import Unbundled.Config.Literal
import Unbundled.Date.Calendar
import Unbundled.Date.Exact
import Unbundled.Date.Http
import Unbundled.Erasure.Enums
import Unbundled.Erasure.Fields
import Unbundled.Erasure.Imports
import Unbundled.Erasure.Lowering
import Unbundled.Erasure.Types
import Unbundled.Failure
import Unbundled.Files.Path
import Unbundled.Files.Tree
import Unbundled.Http.MediaType
import Unbundled.Http.Message
import Unbundled.Http.Range
import Unbundled.Http.Site
import Unbundled.Http.Static
import Unbundled.Http.Wire
import Unbundled.Json.Fault
import Unbundled.Json.Read
import Unbundled.Json.Record
import Unbundled.Json.Value
import Unbundled.Launch
import Unbundled.Linking.Imports
import Unbundled.Linking.Specifier
import Unbundled.Linking.Usage
import Unbundled.Loadable
import Unbundled.Main
import Unbundled.Notice
import Unbundled.Number.Double
import Unbundled.Number.Shortest
import Unbundled.Options
import Unbundled.Pattern.Fault
import Unbundled.Pattern.Matches
import Unbundled.Pattern.Read
import Unbundled.Pattern.Tree
import Unbundled.Plugin
import Unbundled.Resolver
import Unbundled.Script.Bindings
import Unbundled.Script.Entity
import Unbundled.Script.Fault
import Unbundled.Script.Identifiers
import Unbundled.Script.Parens
import Unbundled.Script.Print.Module
import Unbundled.Script.Print.Page
import Unbundled.Script.Print.Quoted
import Unbundled.Script.Print.Tree
import Unbundled.Script.Read.Class
import Unbundled.Script.Read.Cursor
import Unbundled.Script.Read.Expression
import Unbundled.Script.Read.Function
import Unbundled.Script.Read.Goal
import Unbundled.Script.Read.Item
import Unbundled.Script.Read.Jsx
import Unbundled.Script.Read.Literal
import Unbundled.Script.Read.Name
import Unbundled.Script.Read.Pattern
import Unbundled.Script.Read.Statement
import Unbundled.Script.Read.Type
import Unbundled.Script.Scan
import Unbundled.Script.Scope
import Unbundled.Script.Source
import Unbundled.Script.Spans
import Unbundled.Script.State
import Unbundled.Script.Token
import Unbundled.Script.Tree
import Unbundled.Script.Visit
import Unbundled.Server
import Unbundled.Text.Affix
import Unbundled.Text.Chars
import Unbundled.Text.Columns
import Unbundled.Text.Names
import Unbundled.Text.Similar
import Unbundled.Proofs.Affixes
import Unbundled.Proofs.Agreement
import Unbundled.Proofs.Aliases
import Unbundled.Proofs.Answers
import Unbundled.Proofs.Assertions
import Unbundled.Proofs.BoundNames
import Unbundled.Proofs.Calendar
import Unbundled.Proofs.Capture
import Unbundled.Proofs.Confinement
import Unbundled.Proofs.DateTexts
import Unbundled.Proofs.Dependencies
import Unbundled.Proofs.ExportFlag
import Unbundled.Proofs.Exports
import Unbundled.Proofs.FailureScripts
import Unbundled.Proofs.FileRequests
import Unbundled.Proofs.FilesAside
import Unbundled.Proofs.Freshness
import Unbundled.Proofs.HttpDates
import Unbundled.Proofs.IndexPage
import Unbundled.Proofs.ItemReaders
import Unbundled.Proofs.JsonGrammar
import Unbundled.Proofs.JsonReaders
import Unbundled.Proofs.JsonTexts
import Unbundled.Proofs.LinkedItems
import Unbundled.Proofs.LoadableImports
import Unbundled.Proofs.LoweredItems
import Unbundled.Proofs.ManifestTexts
import Unbundled.Proofs.NewerFiles
import Unbundled.Proofs.Occurrence
import Unbundled.Proofs.OptionLayers
import Unbundled.Proofs.Paths
import Unbundled.Proofs.PercentEncoding
import Unbundled.Proofs.Pruning
import Unbundled.Proofs.Reasons
import Unbundled.Proofs.Relinking
import Unbundled.Proofs.Requires
import Unbundled.Proofs.Resolved
import Unbundled.Proofs.Revalidation
import Unbundled.Proofs.ScriptLiterals
import Unbundled.Proofs.ScriptSettings
import Unbundled.Proofs.ServedPackages
import Unbundled.Proofs.SettingValues
import Unbundled.Proofs.SkippedValues
import Unbundled.Proofs.Specifiers
import Unbundled.Proofs.StatementReaders
import Unbundled.Proofs.Treatments
import Unbundled.Proofs.Unwrapping
import Unbundled.Proofs.Words
import Unbundled.Proofs.WrapperNames
import Unbundled.Proofs.Wrapping
