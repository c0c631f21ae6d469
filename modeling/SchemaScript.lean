import SchemaScript.Text.SnakeCase
import SchemaScript.Text.Quoted
import SchemaScript.Text.Digest
import SchemaScript.Decimal.Layout
import SchemaScript.Json.Printer
import SchemaScript.Json.Document
import SchemaScript.Json.Reader
import SchemaScript.Json.Decoding
import SchemaScript.Error
import SchemaScript.TableId
import SchemaScript.DataType
import SchemaScript.Database
import SchemaScript.Relation
import SchemaScript.Model.Validation
import SchemaScript.ModelFile
import SchemaScript.Report.Rules
import SchemaScript.Dialect
import SchemaScript.Sql.Comment
import SchemaScript.Sql.Statement
import SchemaScript.Script.Summary
import SchemaScript.Settings
import SchemaScript.File.Tree
import SchemaScript.Command
import SchemaScript.Main
import SchemaScript.Proofs.Outcome
import SchemaScript.Proofs.Decimal.Rounding
import SchemaScript.Proofs.Decimal.Arithmetic
import SchemaScript.Proofs.Decimal.Reading
import SchemaScript.Proofs.Decimal.Shortest
import SchemaScript.Proofs.Decimal.Text
import SchemaScript.Proofs.Json.Number
import SchemaScript.Proofs.Decimal.Layout
import SchemaScript.Proofs.Json.Scanning
import SchemaScript.Proofs.Json.Decoding
import SchemaScript.Proofs.Json.Text
import SchemaScript.Proofs.Model.WellFormed
import SchemaScript.Proofs.Plan
import SchemaScript.Proofs.Script.Creation
import SchemaScript.Proofs.TableUnit.Cycle
import SchemaScript.Proofs.Script.Tables
import SchemaScript.Proofs.Sql.Reading
import SchemaScript.Proofs.Sql.Writing
import SchemaScript.Proofs.Sql.Comments
import SchemaScript.Proofs.Script.Integrity
import SchemaScript.Proofs.Entity.WellFormed
import SchemaScript.Proofs.Report.Acceptance
import SchemaScript.Proofs.Report.Consistency
import SchemaScript.Proofs.Report.Coverage
import SchemaScript.Proofs.Model.ColumnType
import SchemaScript.Proofs.TableUnit.Failure
import SchemaScript.Proofs.Script.Success
import SchemaScript.Proofs.Model.Outline
import SchemaScript.Proofs.Model.Failure
import SchemaScript.Proofs.Script.Failure
import SchemaScript.Proofs.TableUnit.ForeignKeys
import SchemaScript.Proofs.Script.ForeignKeys
import SchemaScript.Proofs.TableUnit.Extension
import SchemaScript.Proofs.TableUnit.Stability
import SchemaScript.Proofs.Script.Reordering
import SchemaScript.Proofs.Script.Databases
import SchemaScript.Proofs.Script.Insertion
import SchemaScript.Proofs.TableUnit.Outline
import SchemaScript.Proofs.Script.Relaxation
import SchemaScript.Proofs.Sql.Quoting
import SchemaScript.Proofs.TableUnit.Indexes
import SchemaScript.Proofs.TableUnit.Junction
import SchemaScript.Proofs.Script.Statements
import SchemaScript.Proofs.Script.Deletion
import SchemaScript.Proofs.Script.Guards
import SchemaScript.Proofs.Sql.Name
import SchemaScript.Proofs.Script.IndexNames
import SchemaScript.Proofs.Model.Encoding
import SchemaScript.Proofs.Json.Printing
import SchemaScript.Proofs.Model.RoundTrip
import SchemaScript.Proofs.Model.Version
import SchemaScript.Proofs.Model.ReferenceChain
import SchemaScript.Proofs.Sql.Literal
import SchemaScript.Proofs.TableUnit.Arrangement
import SchemaScript.Proofs.Entity.ReferenceField
import SchemaScript.Proofs.Entity.Completion
import SchemaScript.Proofs.Entity.ColumnNames
import SchemaScript.Proofs.Entity.Attachment
import SchemaScript.Proofs.Entity.Resolution
import SchemaScript.Proofs.TableUnit.IndexRequests
import SchemaScript.Proofs.Script.OwningColumns
import SchemaScript.Proofs.Script.ConstraintNames
import SchemaScript.Proofs.Dialect
import SchemaScript.Proofs.Report.Warnings
import SchemaScript.Proofs.Report.DuplicateIndexes
import SchemaScript.Proofs.Report.Composition
import SchemaScript.Proofs.TableUnit.Defaults
import SchemaScript.Proofs.Report.UnrenderedDefaults
import SchemaScript.Proofs.Script.Defaults
import SchemaScript.Proofs.TableUnit.Descriptions
import SchemaScript.Proofs.Script.Descriptions
import SchemaScript.Proofs.Script.Namespaces
import SchemaScript.Proofs.Sql.Parts
import SchemaScript.Proofs.TableUnit.ScriptNames
import SchemaScript.Proofs.Script.QuotedNames
import SchemaScript.Proofs.Script.Lines
import SchemaScript.Proofs.Sql.Semicolons
import SchemaScript.Proofs.TableUnit.Semicolons
import SchemaScript.Proofs.Script.StatementCount
import SchemaScript.Proofs.Sql.NameDigests
import SchemaScript.Proofs.Sql.NameLengths
import SchemaScript.Proofs.Sql.BlockComments
import SchemaScript.Proofs.TableUnit.CommentRuns
