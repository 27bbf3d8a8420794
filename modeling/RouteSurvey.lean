import RouteSurvey.Action
import RouteSurvey.CommandLine.Request
import RouteSurvey.CommandLine.Run
import RouteSurvey.Config
import RouteSurvey.Data.Datum
import RouteSurvey.Data.Format
import RouteSurvey.Data.Json
import RouteSurvey.Data.Yaml.Cursor
import RouteSurvey.Data.Yaml.Format
import RouteSurvey.Data.Yaml.Node
import RouteSurvey.Data.Yaml.Node.Grammar
import RouteSurvey.Data.Yaml.Scalar
import RouteSurvey.Data.Yaml.Tag
import RouteSurvey.Data.Yaml.Token
import RouteSurvey.Data.Yaml.Token.Lexer
import RouteSurvey.Declaration.Document
import RouteSurvey.Declaration.Inheritance
import RouteSurvey.Declaration.Tree
import RouteSurvey.Dictionary
import RouteSurvey.DocumentFormat
import RouteSurvey.Error
import RouteSurvey.Files.Access
import RouteSurvey.Files.Path
import RouteSurvey.Files.Tree
import RouteSurvey.Files.Volume
import RouteSurvey.Http.Method
import RouteSurvey.Input
import RouteSurvey.Main
import RouteSurvey.Mapping
import RouteSurvey.Marker
import RouteSurvey.Name
import RouteSurvey.Notice
import RouteSurvey.Proofs.Action
import RouteSurvey.Proofs.CommandLine.Accumulation
import RouteSurvey.Proofs.CommandLine.Confinement
import RouteSurvey.Proofs.CommandLine.Effect
import RouteSurvey.Proofs.Data.Spelling
import RouteSurvey.Proofs.Declaration.ClassOrder
import RouteSurvey.Proofs.Declaration.Enclosing
import RouteSurvey.Proofs.Declaration.Lineage
import RouteSurvey.Proofs.Declaration.Lookup
import RouteSurvey.Proofs.Declaration.MappedMethods
import RouteSurvey.Proofs.Declaration.Payload
import RouteSurvey.Proofs.Declaration.Placement
import RouteSurvey.Proofs.Declaration.Spelling
import RouteSurvey.Proofs.Dictionary
import RouteSurvey.Proofs.Files.Path
import RouteSurvey.Proofs.Files.Tree
import RouteSurvey.Proofs.Files.Volume
import RouteSurvey.Proofs.FirstOccurrences
import RouteSurvey.Proofs.Gathering
import RouteSurvey.Proofs.Grouping
import RouteSurvey.Proofs.Http.Method
import RouteSurvey.Proofs.Mapping
import RouteSurvey.Proofs.Marker
import RouteSurvey.Proofs.Name
import RouteSurvey.Proofs.Name.Segmented
import RouteSurvey.Proofs.Name.Tails
import RouteSurvey.Proofs.Registry
import RouteSurvey.Proofs.Registry.Grouping
import RouteSurvey.Proofs.Report.Legible
import RouteSurvey.Proofs.Report.Lines
import RouteSurvey.Proofs.Report.Splitting
import RouteSurvey.Proofs.Report.Writing
import RouteSurvey.Proofs.Resolution.Ambiguity
import RouteSurvey.Proofs.Resolution.Circular
import RouteSurvey.Proofs.Resolution.Joining
import RouteSurvey.Proofs.Resolution.Levels
import RouteSurvey.Proofs.Resolution.Nearest
import RouteSurvey.Proofs.Resolution.Paths
import RouteSurvey.Proofs.Resolution.Placement
import RouteSurvey.Proofs.Resolution.Required
import RouteSurvey.Proofs.Resolution.Slashes
import RouteSurvey.Proofs.Resolution.Warnings
import RouteSurvey.Proofs.Source.Arguments
import RouteSurvey.Proofs.Source.Assembly
import RouteSurvey.Proofs.Source.Attachment
import RouteSurvey.Proofs.Source.Collection
import RouteSurvey.Proofs.Source.FileOrder
import RouteSurvey.Proofs.Source.Homes
import RouteSurvey.Proofs.Source.Leaves
import RouteSurvey.Proofs.Source.Marking
import RouteSurvey.Proofs.Source.ModulePath
import RouteSurvey.Proofs.Source.Moving
import RouteSurvey.Proofs.Source.Naming
import RouteSurvey.Proofs.Source.Relative
import RouteSurvey.Proofs.Source.Scanning
import RouteSurvey.Proofs.Source.Sites
import RouteSurvey.Proofs.Source.WrittenTypes
import RouteSurvey.Proofs.Survey.ClassOrder
import RouteSurvey.Proofs.Survey.Extension
import RouteSurvey.Proofs.Survey.Outcome
import RouteSurvey.Proofs.Survey.Placement
import RouteSurvey.Proofs.Survey.Warnings
import RouteSurvey.Proofs.Text.Bytes
import RouteSurvey.Proofs.Text.Segments
import RouteSurvey.Proofs.Text.Trimming
import RouteSurvey.Proofs.TypeRef
import RouteSurvey.Proofs.TypeRef.Written
import RouteSurvey.Proofs.Walk
import RouteSurvey.Registry
import RouteSurvey.Report
import RouteSurvey.Report.Writing
import RouteSurvey.Resolution.Chain
import RouteSurvey.Resolution.Resolver
import RouteSurvey.Resolution.Rules
import RouteSurvey.Route
import RouteSurvey.Source.Assembly
import RouteSurvey.Source.Character
import RouteSurvey.Source.Collection
import RouteSurvey.Source.Grammar
import RouteSurvey.Source.Grammar.Attribute
import RouteSurvey.Source.Grammar.Expression
import RouteSurvey.Source.Grammar.Function
import RouteSurvey.Source.Grammar.Generics
import RouteSurvey.Source.Grammar.Item
import RouteSurvey.Source.Grammar.Level
import RouteSurvey.Source.Grammar.Operation
import RouteSurvey.Source.Grammar.Path
import RouteSurvey.Source.Grammar.Pattern
import RouteSurvey.Source.Grammar.Statement
import RouteSurvey.Source.Grammar.Type
import RouteSurvey.Source.Item
import RouteSurvey.Source.Lexer
import RouteSurvey.Source.Lexer.Number
import RouteSurvey.Source.Lexer.Quoted
import RouteSurvey.Source.Lexer.Word
import RouteSurvey.Source.Marking
import RouteSurvey.Source.ModulePath
import RouteSurvey.Source.Parser
import RouteSurvey.Source.Part
import RouteSurvey.Source.Scan
import RouteSurvey.Source.Token
import RouteSurvey.Survey
import RouteSurvey.Text.Printable
import RouteSurvey.Text.Quoted
import RouteSurvey.Text.Whitespace
import RouteSurvey.TypeRef
