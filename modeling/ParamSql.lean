import ParamSql.Configuration
import ParamSql.Diagnostic
import ParamSql.SqlState
import ParamSql.Builder.Expression
import ParamSql.Proofs.BoundNames
import ParamSql.Proofs.Splice
import ParamSql.Proofs.Entries
import ParamSql.Proofs.Lists
import ParamSql.Proofs.Numbering
import ParamSql.Proofs.PositionalRendering
import ParamSql.Proofs.PieceScan
import ParamSql.Proofs.Pieces
import ParamSql.Proofs.BindingRun
import ParamSql.Proofs.DeliveredValues
import ParamSql.Proofs.ClosedText
import ParamSql.Proofs.JoinedRendering
import ParamSql.Proofs.ComposedBuilders
import ParamSql.Proofs.Bindings
import ParamSql.Proofs.Changes
import ParamSql.Proofs.Visits
import ParamSql.Proofs.SessionMembers
import ParamSql.Proofs.Course
import ParamSql.Proofs.Turns
import ParamSql.Proofs.Standing
import ParamSql.Proofs.Interruptions
import ParamSql.Proofs.SoleUser
import ParamSql.Proofs.SharedTransaction
import ParamSql.Proofs.TransactionBlocks
import ParamSql.Proofs.TableAgreement
import ParamSql.Proofs.ElementKeys
import ParamSql.Proofs.SettledKeys
import ParamSql.Proofs.WrittenPlaceholders
import ParamSql.Proofs.FailedRequests
import ParamSql.Proofs.LeadingText
import ParamSql.Proofs.QuotedLiteral
import ParamSql.Proofs.QuotedIdentifier
import ParamSql.Proofs.FieldListSearch
import ParamSql.Proofs.HintedFieldList
import ParamSql.Proofs.PlainFieldList
import ParamSql.Proofs.TotalsQuery
import ParamSql.Proofs.ReplacedFieldList
import ParamSql.Proofs.InStep
import ParamSql.Proofs.SameBindings
import ParamSql.Proofs.AppendedText
import ParamSql.Proofs.BindingOrder
import ParamSql.Proofs.IdentifierScan
import ParamSql.Proofs.DefaultValues
import ParamSql.Proofs.MergedParameters
import ParamSql.Proofs.SanitizedClauses
import ParamSql.Proofs.IdentifierReading
import ParamSql.Proofs.UniqueKeys
import ParamSql.Proofs.StatementAgreement
import ParamSql.Proofs.SessionAgreement
