import Solvent.Ledger.Admission
import Solvent.Ledger.Service
import Solvent.Ledger.Durable
import Solvent.Ledger.Recovery
import Solvent.Ledger.Published
import Solvent.Trade.Store
import Solvent.Execution.Service
import Solvent.Reconcile.Service
import Solvent.Framework.Loop
import Solvent.Pricing.Ratio
import Solvent.Registry.Curves
import Solvent.Framework.Vec
import Solvent.Registry.Snapshot
import Solvent.Registry.Program
import Solvent.Routing.Candidates
import Solvent.Routing.Waterfill
import Solvent.Registry.Quotes
import Solvent.Routing.Levels
import Solvent.Routing.Legs
import Solvent.Routing.ExactIn
import Solvent.Routing.ExactOut
import Solvent.Routing.Regular
import Solvent.Routing.Groups
import Solvent.Routing.Symmetric
import Solvent.Routing.Bracket
import Solvent.Routing.Trim
import Solvent.Routing.Independent
import Solvent.Routing.Reservable
import Solvent.Routing.Service
import Solvent.Swap.Plan
import Solvent.Ledger.Restart
import Solvent.Ledger.Budget
import Solvent.World
import Solvent.Swap.Order
import Solvent.Swap.Service
import Solvent.Swap.Resubmit
import Solvent.Execution.Executor
import Solvent.Framework.Interleave
import Solvent.Framework.RwLock
import Solvent.Framework.ArcSwap
import Solvent.Framework.Choice
import Solvent.Ledger.Evolution
import Solvent.Reconcile.Tick
import Solvent.Swap.Steps
import Solvent.Swap.System
import Solvent.Swap.OneHold
import Solvent.Swap.Footprint
import Solvent.Swap.HeldFills
import Solvent.Swap.Stranded
import Solvent.Crosschain.Local
import Solvent.Crosschain.Lifecycle
import Solvent.Crosschain.Concurrent
import Solvent.Execution.Submissions
import Solvent.Crosschain.Saga
import Solvent.Framework.Program
import Solvent.Crosschain.Steps
import Solvent.Crosschain.Proxy
import Solvent.Crosschain.System
import Solvent.Crosschain.Sends
import Solvent.Crosschain.Delivery
import Solvent.Crosschain.Alone
import Solvent.Crosschain.Retry
import Solvent.Crosschain.Expiry
import Solvent.Framework.Protocol
import Solvent.Crosschain.Conforms
import Solvent.Crosschain.History
import Solvent.Crosschain.Evidence
import Solvent.Crosschain.Overlap
import Solvent.Crosschain.Commands
import Solvent.Crosschain.Stuck
import Solvent.Registry.Apply
import Solvent.Framework.Replay
import Solvent.Registry.Exchange
import Solvent.Registry.Sync
import Solvent.Framework.Encoding
import Solvent.Crosschain.Fingerprint
import Solvent.Crosschain.CctpFee
import Solvent.Crosschain.Aggregate
import Solvent.Quote.Service
import Solvent.Crosschain.Quoter
import Solvent.Swap.Guarded
import Solvent.Swap.History
import Solvent.Framework.Abi
import Solvent.Framework.Mapping
import Solvent.Contracts.Types
import Solvent.Framework.Contract
import Solvent.Contracts.Proof
import Solvent.Contracts.CctpMessage
import Solvent.Contracts.App
import Solvent.Contracts.Settler
import Solvent.Contracts.Chains
import Solvent.Contracts.Exposure
import Solvent.Contracts.Inside
import Solvent.Contracts.Capped
import Solvent.Contracts.Rails
import Solvent.Contracts.Settlement
import Solvent.Contracts.Receipt
import Solvent.Contracts.Change
import Solvent.Contracts.Evidence
import Solvent.Contracts.Closing
import Solvent.Contracts.Burn
import Solvent.Crosschain.Calls
import Solvent.Crosschain.Validation
import Solvent.Crosschain.Staged
import Solvent.Crosschain.Claimable
import Solvent.Crosschain.Draft
import Solvent.Crosschain.Authored
import Solvent.Registry.Limits
import Solvent.Routing.Fills
import Solvent.Routing.Inverse
import Solvent.Registry.Pegged
import Solvent.Registry.Rounding
import Solvent.Routing.Tolerance
import Solvent.Routing.Liquidity
import Solvent.Routing.DepthPoint
import Solvent.Routing.Sparse
import Solvent.Routing.LegCap
import Solvent.Framework.Bitmap
import Solvent.Contracts.SameChain
import Solvent.Contracts.Policy
import Solvent.Contracts.Filler
import Solvent.Ingest.Decay
import Solvent.Ingest.Erc7683
import Solvent.Ingest.Aqua
import Solvent.Ingest.Acceptable
import Solvent.Ingest.Routed
import Solvent.Rebate.Policy
import Solvent.Rebate.Conserved
import Solvent.Framework.Frontier
import Solvent.Pool.Depth
import Solvent.Ingest.UniswapX
import Solvent.Ingest.Cosigner
import Solvent.Framework.Bank
import Solvent.Contracts.Continuation
import Solvent.Contracts.Fill
import Solvent.Contracts.Nested
import Solvent.Contracts.Exact
import Solvent.Framework.Tally
import Solvent.Contracts.SingleUse
import Solvent.Framework.Crash
import Solvent.Ledger.Elsewhere
import Solvent.Rebate.Batch
import Solvent.Rebate.CallBuilder
import Solvent.Rebate.Chain
import Solvent.Rebate.Evaluation
import Solvent.Rebate.Following
import Solvent.Rebate.Guarantees
import Solvent.Rebate.System
