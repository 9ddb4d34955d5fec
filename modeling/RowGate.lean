import RowGate.Main
import RowGate.Store.Memory
import RowGate.Proofs.Auth.FailedSignIn
import RowGate.Proofs.Auth.Lifecycle
import RowGate.Proofs.Auth.Secrecy
import RowGate.Proofs.Decimal.Rounding
import RowGate.Proofs.Plan.Soundness
import RowGate.Proofs.Store.Binding
import RowGate.Proofs.Service.ChangeTime
import RowGate.Proofs.Service.Recall
import RowGate.Proofs.Service.Refusals
import RowGate.Proofs.Service.Times
import RowGate.Proofs.Service.Resolution
import RowGate.Proofs.Service.WellTyped
import RowGate.Proofs.Service.WriteScope
import RowGate.Proofs.Sql.Placeholders
import RowGate.Proofs.Sql.Reading
import RowGate.Proofs.Store.Atomicity
import RowGate.Proofs.Store.Keys
import RowGate.Proofs.Store.Numbers
import RowGate.Proofs.Store.Revision
import RowGate.Proofs.Decimal.Exactness
import RowGate.Proofs.Store.Compare
import RowGate.Proofs.Store.Sorting
import RowGate.Proofs.Decimal.Shortest
import RowGate.Proofs.Decimal.Spelling
import RowGate.Proofs.Schema.Decimals
import RowGate.Proofs.Schema.Integers
import RowGate.Proofs.Service.Stages
import RowGate.Proofs.Store.ThreeValued
import RowGate.Proofs.Service.InsertedRow
import RowGate.Proofs.Service.GeneratedValues
import RowGate.Proofs.Plan.Rejection
import RowGate.Proofs.Schema.StoredKeys
import RowGate.Proofs.Service.AuditEvents
import RowGate.Proofs.Http.QueryString
import RowGate.Proofs.CommandLine.FrontEnds
import RowGate.Proofs.Store.TimeOrder
import RowGate.Proofs.Journal
