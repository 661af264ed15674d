import IndexTuning.Answer
import IndexTuning.Artifact
import IndexTuning.Catalog
import IndexTuning.Catalog.Memory
import IndexTuning.CommandLine
import IndexTuning.Context
import IndexTuning.Decimal.Binary
import IndexTuning.Decimal.Read
import IndexTuning.Decimal.Text
import IndexTuning.Deployment
import IndexTuning.Digest
import IndexTuning.Dotenv
import IndexTuning.Double
import IndexTuning.Encoding
import IndexTuning.Error
import IndexTuning.Executor
import IndexTuning.FileTree
import IndexTuning.Files
import IndexTuning.Fragmentation
import IndexTuning.Generator
import IndexTuning.Main
import IndexTuning.MissingIndex
import IndexTuning.Path
import IndexTuning.Priority
import IndexTuning.Program
import IndexTuning.Prompt
import IndexTuning.Proofs.Similarity.BlockCount
import IndexTuning.Proofs.Similarity.LongestBlock
import IndexTuning.Proofs.Similarity.Ratio
import IndexTuning.Proofs.Similarity.RowSearch
import IndexTuning.Proofs.Similarity.RunRows
import IndexTuning.Proofs.Sql.Statement
import IndexTuning.Proofs.Text.Fold
import IndexTuning.Proofs.Text.Scan
import IndexTuning.Report
import IndexTuning.Revision
import IndexTuning.Scan
import IndexTuning.Server
import IndexTuning.Server.Client
import IndexTuning.Server.Query
import IndexTuning.Settings
import IndexTuning.Similarity
import IndexTuning.Similarity.Block
import IndexTuning.Similarity.BlockFinder
import IndexTuning.Sql.ColumnUsage
import IndexTuning.Sql.Comment
import IndexTuning.Sql.Identifier
import IndexTuning.Sql.IndexDdl
import IndexTuning.Sql.Lexer
import IndexTuning.Sql.Literal
import IndexTuning.Sql.Procedure
import IndexTuning.Sql.Statement
import IndexTuning.Sql.TableRef
import IndexTuning.Sql.TableScan
import IndexTuning.Text.AlphanumericRanges
import IndexTuning.Text.Blank
import IndexTuning.Text.Bytes
import IndexTuning.Text.CaseRules
import IndexTuning.Text.Fold
import IndexTuning.Text.HiddenRanges
import IndexTuning.Text.Line
import IndexTuning.Text.Lowercase
import IndexTuning.Text.Quoted
import IndexTuning.Text.Scan
import IndexTuning.Text.Search
import IndexTuning.Text.Template
import IndexTuning.Text.Word
import IndexTuning.Text.WordRanges
import IndexTuning.Thresholds
import IndexTuning.Timestamp
import IndexTuning.UnusedIndex
import IndexTuning.Proofs.Sql.IndexDdl
import IndexTuning.Proofs.Artifact
import IndexTuning.Proofs.Scan
import IndexTuning.Proofs.Double
import IndexTuning.Proofs.Build
import IndexTuning.Proofs.Sql.Heading
import IndexTuning.Proofs.Sql.Created
import IndexTuning.Proofs.Text.Search
import IndexTuning.Proofs.Text.Template
import IndexTuning.Proofs.Sql.Rename
import IndexTuning.Proofs.Sql.Confinement
import IndexTuning.Proofs.Revision
import IndexTuning.Proofs.Text.Line
import IndexTuning.Proofs.Sql.Splitting
import IndexTuning.Proofs.Sql.Quoting
import IndexTuning.Proofs.Deployment
import IndexTuning.Proofs.Application
import IndexTuning.Proofs.Isolation
import IndexTuning.Proofs.Sql.Token
import IndexTuning.Proofs.Indentation
import IndexTuning.Proofs.ProcedureBody
import IndexTuning.Proofs.Sql.Script
import IndexTuning.Proofs.Sql.Comment
import IndexTuning.Proofs.Sql.TableRef
import IndexTuning.Proofs.Text.Reader
import IndexTuning.Proofs.Sql.TableScan
import IndexTuning.Proofs.Sql.Composition
import IndexTuning.Proofs.Sql.Printing
import IndexTuning.Proofs.Server.Row
import IndexTuning.Proofs.Catalog.Memory
import IndexTuning.Proofs.Catalog
import IndexTuning.Proofs.Sql.Names
import IndexTuning.Proofs.Sql.Fit
import IndexTuning.Proofs.MissingIndex
import IndexTuning.Proofs.Targets
import IndexTuning.Proofs.Completeness
import IndexTuning.Proofs.IndexNames
import IndexTuning.Proofs.Revision.Effects
import IndexTuning.Proofs.Sql.Replacement
import IndexTuning.Proofs.Answer.Cleaning
import IndexTuning.Proofs.Text.Bytes
import IndexTuning.Proofs.Answer.Section
import IndexTuning.Proofs.Similarity.MatchedBlocks
import IndexTuning.Proofs.Similarity.Bounds
import IndexTuning.Proofs.Sql.Conservation
import IndexTuning.Proofs.Sql.DottedName
import IndexTuning.Proofs.Sql.Qualification
import IndexTuning.Proofs.Sql.IndexDefinition
import IndexTuning.Proofs.ColumnGroups
import IndexTuning.Proofs.IndexSuggestion
import IndexTuning.Proofs.Priority
import IndexTuning.Proofs.FileTree
import IndexTuning.Proofs.OutputFolder
import IndexTuning.Proofs.Sql.Extraction
import IndexTuning.Proofs.Sql.ColumnUsage
import IndexTuning.Proofs.Server.IndexRows
import IndexTuning.Proofs.Context
import IndexTuning.Proofs.Sql.DropGuard
import IndexTuning.Proofs.Encoding
import IndexTuning.Proofs.MissingObject
import IndexTuning.Proofs.Sql.QualifiedName
import IndexTuning.Proofs.Sql.Stripping
import IndexTuning.Proofs.Similarity.CheckedSearch
import IndexTuning.Proofs.Sql.ChainParts
import IndexTuning.Proofs.Slicing
