import WalletView.Main
import WalletView.Confirmation.Checks
import WalletView.Confirmation.Source
import WalletView.Exposure.Checks
import WalletView.Proofs.Memo.Dependency
import WalletView.Proofs.Memo.Selector
import WalletView.Report.Query
import WalletView.Proofs.Service.Basic
import WalletView.Proofs.Service.Confirmation
import WalletView.Proofs.Service.Bridge
import WalletView.Proofs.Service.Exposure
import WalletView.Proofs.Report.Query
import WalletView.Proofs.Exposure.AllowList
import WalletView.Proofs.Exposure.Ordering
import WalletView.Proofs.Exposure.Scope
import WalletView.Proofs.Confirmation.Resolution
import WalletView.Proofs.Report.Connections
import WalletView.Proofs.Report.Invalidation
import WalletView.Proofs.Wallet.RoundTrip
import WalletView.Proofs.Confirmation.Held
import WalletView.Proofs.Confirmation.Route
import WalletView.Proofs.Memo.Repeat
import WalletView.Proofs.Report.ActiveTab
import WalletView.Proofs.Service.Repeat
import WalletView.Proofs.Report.Repeat
import WalletView.Proofs.Exposure.Casing
import WalletView.Proofs.Exposure.Grants
import WalletView.Proofs.Exposure.Checks
import WalletView.Proofs.Exposure.LastShown
import WalletView.Proofs.Confirmation.Latest
import WalletView.Proofs.Confirmation.Frame
import WalletView.Proofs.Confirmation.Reason
import WalletView.Proofs.Exposure.Summaries
import WalletView.Proofs.Json.Grammar.Numeral
import WalletView.Proofs.Json.Grammar.Text
import WalletView.Proofs.Json.Grammar.Value
import WalletView.Proofs.Json.FormOnly
import WalletView.Proofs.Json.Steady
import WalletView.Proofs.Json.Turn
import WalletView.Proofs.Json.Torn
import WalletView.Proofs.Json.Natural
import WalletView.Proofs.Json.SteadyReader
import WalletView.Proofs.Json.SteadyRecord
import WalletView.Proofs.Wallet.Steady
import WalletView.Proofs.Wallet.Torn
import WalletView.Proofs.Wallet.Slices
import WalletView.Proofs.Json.Object
import WalletView.Proofs.Json.ObjectRecord
import WalletView.Proofs.Json.IdMap
import WalletView.Proofs.Exposure.KeyOrder
import WalletView.Proofs.Text.Ascii
import WalletView.Proofs.Exposure.Keyrings
import WalletView.Proofs.Memo.Memory
import WalletView.Proofs.Json.Printer
import WalletView.Proofs.Json.Faithful
import WalletView.Proofs.Wallet.Faithful
import WalletView.Proofs.Confirmation.Trace
import WalletView.Proofs.Report.Text
import WalletView.Proofs.Confirmation.Kind
