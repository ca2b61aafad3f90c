import HostLog.FileStore
import HostLog.Output.Console
import HostLog.Session
import HostLog.Store
import HostLog.Proofs.Calls
import HostLog.Proofs.Admission
import HostLog.Proofs.Strictness
import HostLog.Proofs.SessionLog
import HostLog.Proofs.CodeTable
import HostLog.Proofs.Delivery
import HostLog.Proofs.LetterCase
import HostLog.Proofs.LevelNames
import HostLog.Proofs.FixedThreshold
import HostLog.Proofs.Unambiguous
import HostLog.Proofs.DirectiveCuts
import HostLog.Proofs.FirstSetUp
import HostLog.Proofs.Lossless
import HostLog.Proofs.Precedence
import HostLog.Proofs.ProcessLog
import HostLog.Proofs.Json.Written
import HostLog.Proofs.StoreHistory
import HostLog.Proofs.RoundTrip
import HostLog.Proofs.RecordDocuments
import HostLog.Proofs.Interchange
import HostLog.Proofs.Interleaving
import HostLog.Proofs.VariableNames
import HostLog.Proofs.Quotation
import HostLog.Proofs.SingleLine
import HostLog.Proofs.RejectedLevel
import HostLog.Proofs.FileDocuments
import HostLog.Proofs.SeverityDocuments
import HostLog.Proofs.Causes
import HostLog.Proofs.DirectiveCuts
