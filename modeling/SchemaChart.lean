import SchemaChart.Catalog
import SchemaChart.Data.Binary64
import SchemaChart.Data.Instant
import SchemaChart.Data.Json
import SchemaChart.Data.Record
import SchemaChart.Data.Word
import SchemaChart.Data.Yaml.Basic
import SchemaChart.Data.Yaml.Document
import SchemaChart.Data.Yaml.Scalar
import SchemaChart.Data.Yaml.Tag
import SchemaChart.Data.Yaml.Token
import SchemaChart.Data.Yaml.Value
import SchemaChart.Diagram.Align
import SchemaChart.Diagram.Basic
import SchemaChart.Diagram.Check
import SchemaChart.Diagram.Dependency
import SchemaChart.Diagram.Stored
import SchemaChart.Dialect
import SchemaChart.Export.Column
import SchemaChart.Export.ColumnType
import SchemaChart.Export.DefaultValue
import SchemaChart.Export.ForeignKey
import SchemaChart.Export.Quoting
import SchemaChart.Export.Script
import SchemaChart.Export.Table
import SchemaChart.Fault
import SchemaChart.Grammar.Alter
import SchemaChart.Grammar.Block
import SchemaChart.Grammar.Call
import SchemaChart.Grammar.Change
import SchemaChart.Grammar.Column
import SchemaChart.Grammar.Constraint
import SchemaChart.Grammar.Expr
import SchemaChart.Grammar.Grant
import SchemaChart.Grammar.Index
import SchemaChart.Grammar.KeyWord
import SchemaChart.Grammar.Lexer
import SchemaChart.Grammar.Literal
import SchemaChart.Grammar.Object
import SchemaChart.Grammar.Operand
import SchemaChart.Grammar.Operator
import SchemaChart.Grammar.Query
import SchemaChart.Grammar.Reader
import SchemaChart.Grammar.Relation
import SchemaChart.Grammar.Select
import SchemaChart.Grammar.Session
import SchemaChart.Grammar.Statement
import SchemaChart.Grammar.Table
import SchemaChart.Grammar.Token
import SchemaChart.Grammar.TypeName
import SchemaChart.Import.Convert
import SchemaChart.Import.Options
import SchemaChart.Import.Run
import SchemaChart.Import.Strict
import SchemaChart.Proofs.Alignment
import SchemaChart.Proofs.Brackets
import SchemaChart.Proofs.ChangedColumns
import SchemaChart.Proofs.Circles
import SchemaChart.Proofs.ColumnComments
import SchemaChart.Proofs.ColumnLines
import SchemaChart.Proofs.CommentStatements
import SchemaChart.Proofs.Consistency
import SchemaChart.Proofs.Conversion
import SchemaChart.Proofs.Cuts
import SchemaChart.Proofs.Declarations
import SchemaChart.Proofs.Declared
import SchemaChart.Proofs.DefaultValues
import SchemaChart.Proofs.Dependency
import SchemaChart.Proofs.DumpBodies
import SchemaChart.Proofs.DumpOrder
import SchemaChart.Proofs.Enumerations
import SchemaChart.Proofs.FactOrder
import SchemaChart.Proofs.Facts
import SchemaChart.Proofs.FailedStatements
import SchemaChart.Proofs.IndexColumns
import SchemaChart.Proofs.IndexStatements
import SchemaChart.Proofs.InlineTypes
import SchemaChart.Proofs.JoinedScripts
import SchemaChart.Proofs.JsonText
import SchemaChart.Proofs.KeyBlock
import SchemaChart.Proofs.KeyDirection
import SchemaChart.Proofs.KeyLines
import SchemaChart.Proofs.KeyStatements
import SchemaChart.Proofs.LevelFields
import SchemaChart.Proofs.Literals
import SchemaChart.Proofs.Matching
import SchemaChart.Proofs.Names
import SchemaChart.Proofs.PatternTexts
import SchemaChart.Proofs.Pruning
import SchemaChart.Proofs.QuotedTexts
import SchemaChart.Proofs.Redefinition
import SchemaChart.Proofs.RelationshipOrder
import SchemaChart.Proofs.RemarkedKeys
import SchemaChart.Proofs.RemovedClauses
import SchemaChart.Proofs.ReportedLines
import SchemaChart.Proofs.Scanning
import SchemaChart.Proofs.SchemaDiagram
import SchemaChart.Proofs.StatementBreaks
import SchemaChart.Proofs.StatementLines
import SchemaChart.Proofs.StatementPlaces
import SchemaChart.Proofs.StatementStarts
import SchemaChart.Proofs.StoredDiagrams
import SchemaChart.Proofs.TableOrder
import SchemaChart.Proofs.TableRoundTrip
import SchemaChart.Proofs.TopLevelParts
import SchemaChart.Proofs.TypeTexts
import SchemaChart.Proofs.ViewColumns
import SchemaChart.Proofs.Visited
import SchemaChart.Proofs.Worklist
import SchemaChart.Proofs.Writers
import SchemaChart.Proofs.WrittenColumns
import SchemaChart.Proofs.WrittenKeys
import SchemaChart.Reading.Alter
import SchemaChart.Reading.Column
import SchemaChart.Reading.Comment
import SchemaChart.Reading.Constraint
import SchemaChart.Reading.Index
import SchemaChart.Reading.Reference
import SchemaChart.Reading.Table
import SchemaChart.Reading.TypeDecl
import SchemaChart.Reading.View
import SchemaChart.Schema.Basic
import SchemaChart.Schema.Builder
import SchemaChart.Schema.Fact
import SchemaChart.Schema.Stored
import SchemaChart.Schema.TypeText
import SchemaChart.Schema.Writing
import SchemaChart.Script.Detect
import SchemaChart.Script.Dump
import SchemaChart.Script.Statement
import SchemaChart.Source
import SchemaChart.Text.Alphabet
import SchemaChart.Text.Blank
import SchemaChart.Text.Bytes
import SchemaChart.Text.CharSet
import SchemaChart.Text.Identifier
import SchemaChart.Text.LetterCase
import SchemaChart.Text.Nesting
import SchemaChart.Text.Pattern
