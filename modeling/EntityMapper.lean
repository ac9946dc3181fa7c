import EntityMapper.Calendar.Date
import EntityMapper.Calendar.Timestamp
import EntityMapper.Check
import EntityMapper.Client.Basic
import EntityMapper.Client.Config
import EntityMapper.Client.Log
import EntityMapper.Client.Operations
import EntityMapper.Client.Pool
import EntityMapper.Column.Basic
import EntityMapper.Column.Type
import EntityMapper.ConnectionString
import EntityMapper.Error
import EntityMapper.Expr.Basic
import EntityMapper.Expr.Operand
import EntityMapper.Expr.Operator
import EntityMapper.Expr.Render
import EntityMapper.Instance
import EntityMapper.Json.Basic
import EntityMapper.Json.Printer
import EntityMapper.Json.Reader
import EntityMapper.Number.Binary64
import EntityMapper.Number.Format
import EntityMapper.Number.Power
import EntityMapper.Number.Shortest
import EntityMapper.Number.Text
import EntityMapper.Pattern.Basic
import EntityMapper.Pattern.Class
import EntityMapper.Pattern.Property
import EntityMapper.Pattern.Reader
import EntityMapper.Projection
import EntityMapper.Proofs.Acceptance
import EntityMapper.Proofs.Assigning
import EntityMapper.Proofs.ByteStrings
import EntityMapper.Proofs.Calls
import EntityMapper.Proofs.Clients
import EntityMapper.Proofs.Consistency
import EntityMapper.Proofs.Conversions
import EntityMapper.Proofs.CreatingTables
import EntityMapper.Proofs.Declarations
import EntityMapper.Proofs.Distinction
import EntityMapper.Proofs.Doubles
import EntityMapper.Proofs.Effects
import EntityMapper.Proofs.Expressions
import EntityMapper.Proofs.Failures
import EntityMapper.Proofs.Filters
import EntityMapper.Proofs.FirstRow
import EntityMapper.Proofs.Fitting
import EntityMapper.Proofs.Grammar
import EntityMapper.Proofs.Injection
import EntityMapper.Proofs.Inserting
import EntityMapper.Proofs.IntegerParameters
import EntityMapper.Proofs.Literals
import EntityMapper.Proofs.LogLines
import EntityMapper.Proofs.MailAddresses
import EntityMapper.Proofs.Matching
import EntityMapper.Proofs.Numerals
import EntityMapper.Proofs.Observing
import EntityMapper.Proofs.Outline
import EntityMapper.Proofs.Pieces
import EntityMapper.Proofs.Placeholders
import EntityMapper.Proofs.Places
import EntityMapper.Proofs.Ranges
import EntityMapper.Proofs.ReadBack
import EntityMapper.Proofs.Recording
import EntityMapper.Proofs.Records
import EntityMapper.Proofs.Registration
import EntityMapper.Proofs.Rendering
import EntityMapper.Proofs.Renumbering
import EntityMapper.Proofs.ReportedNames
import EntityMapper.Proofs.Saving
import EntityMapper.Proofs.Scanner
import EntityMapper.Proofs.SelfDelimiting
import EntityMapper.Proofs.Shadow
import EntityMapper.Proofs.Statements
import EntityMapper.Proofs.TableDefinitions
import EntityMapper.Proofs.Templates
import EntityMapper.Proofs.Tokens
import EntityMapper.Proofs.Tracking
import EntityMapper.Proofs.Truncation
import EntityMapper.Proofs.Watching
import EntityMapper.Proofs.WireFormat
import EntityMapper.Proofs.WriteOrder
import EntityMapper.Proofs.Writes
import EntityMapper.Query
import EntityMapper.Record
import EntityMapper.Schema
import EntityMapper.Sql.Binder
import EntityMapper.Sql.Identifier
import EntityMapper.Text.CaseFold
import EntityMapper.Text.Category
import EntityMapper.Text.CodePoints
import EntityMapper.Text.Hex
import EntityMapper.Text.LowerCase
import EntityMapper.Text.Percent
import EntityMapper.Text.Property
import EntityMapper.Text.Quoted
import EntityMapper.Text.Script
import EntityMapper.Url.Basic
import EntityMapper.Url.Direction
import EntityMapper.Url.Domain
import EntityMapper.Url.Host
import EntityMapper.Url.Punycode
import EntityMapper.Uuid
import EntityMapper.Value.Basic
import EntityMapper.Value.Display
import EntityMapper.Value.Literal
import EntityMapper.Wire.Bytes
import EntityMapper.Wire.Decode
import EntityMapper.Wire.Encode
import EntityMapper.Wire.Exchange
import EntityMapper.Wire.PgType
