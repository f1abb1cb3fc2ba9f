import TableModel.Main
import TableModel.Proofs.Catalog.LastWrite
import TableModel.Proofs.Generator.QuotedName
import TableModel.Proofs.Text.Order
import TableModel.Proofs.Text.Trim
import TableModel.Proofs.Unicode.LowerCase
import TableModel.Proofs.Catalog.Keys
import TableModel.Proofs.Toml.DistinctKeys
import TableModel.Proofs.Settings.Catalog
import TableModel.Proofs.CommandLine.Request
import TableModel.Proofs.CommandLine.Stages
import TableModel.Proofs.Files.Write
import TableModel.Proofs.CommandLine.FirstFailure
import TableModel.Proofs.CommandLine.Rendering
import TableModel.Proofs.Unicode.CaseImages
import TableModel.Proofs.Catalog.Reachable
import TableModel.Proofs.Ddl.ColumnNames
import TableModel.Proofs.Generator.DeclaredColumns
import TableModel.Proofs.Naming.ExportedName
import TableModel.Proofs.Generator.FieldNames
import TableModel.Proofs.Naming.LineFeeds
import TableModel.Proofs.Generator.Lines
import TableModel.Proofs.Generator.Functions
import TableModel.Proofs.Generator.Events
import TableModel.Proofs.CommandLine.Formats
import TableModel.Proofs.Schema.Json
import TableModel.Proofs.Naming.QuotedText
import TableModel.Proofs.Schema.TypeArguments
import TableModel.Proofs.Naming.AsciiName
import TableModel.Proofs.Schema.StatementCount
import TableModel.Proofs.Naming.Spelling
import TableModel.Proofs.Naming.LettersAndNumbers
import TableModel.Proofs.Naming.Unquoting
import TableModel.Proofs.Naming.LineComment
import TableModel.Proofs.Model.StringLiteral
import TableModel.Proofs.Naming.FieldTag
import TableModel.Proofs.Generator.RawStringTag
import TableModel.Proofs.Schema.NormalName
