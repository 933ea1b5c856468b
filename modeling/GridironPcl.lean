import GridironPcl.Decimal
import GridironPcl.Assets
import GridironPcl.State
import GridironPcl.Deps
import GridironPcl.Orderbook
import GridironPcl.Utils
import GridironPcl.Cw20
import GridironPcl.Contract.Instantiate
import GridironPcl.Contract.Provide
import GridironPcl.Contract.Withdraw
import GridironPcl.Contract.Swap
import GridironPcl.Contract.Execute
import GridironPcl.System
import GridironPcl.Contract.ProvideOrder
import GridironPcl.Frame
import GridironPcl.Run.Storage
import GridironPcl.Run.Ledger
import GridironPcl.Run.Snapshot
import GridironPcl.Run.RoundTrip
import GridironPcl.Run.Lifecycle
