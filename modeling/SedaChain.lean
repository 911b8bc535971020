import SedaChain.Infra.Sort
import SedaChain.Infra.HeapTree
import SedaChain.Infra.Bytes
import SedaChain.Merkle.Tree
import SedaChain.Merkle.Proof
import SedaChain.Infra.Base64
import SedaChain.Infra.Go
import SedaChain.Infra.KeyMap
import SedaChain.Batching.DataResult
import SedaChain.Batching.ResultId
import SedaChain.Tally.GasMeter
import SedaChain.Tally.Request
import SedaChain.Tally.Filter
import SedaChain.Tally.BasicConsensus
import SedaChain.Tally.Mad
import SedaChain.Tally.FilterSound
import SedaChain.Tally.Metering
import SedaChain.Tally.Distribution
import SedaChain.Tally.EndBlock
import SedaChain.Infra.List
import SedaChain.Tally.Conservation
import SedaChain.Tally.Payout
import SedaChain.Tally.OrderCongr
import SedaChain.Infra.Window
import SedaChain.Batching.Types
import SedaChain.Batching.Store
import SedaChain.Batching.EndBlock
import SedaChain.Batching.Genesis
import SedaChain.Batching.Window
import SedaChain.Batching.Run
import SedaChain.Batching.Ledger
import SedaChain.Batching.Export
import SedaChain.Infra.Weight
import SedaChain.Abci.Types
import SedaChain.Abci.Utils
import SedaChain.Abci.Handlers
import SedaChain.Abci.Signatures
import SedaChain.Abci.Agreement
import SedaChain.App.CommitReveal
import SedaChain.WasmStorage.Refund
import SedaChain.Infra.Index
import SedaChain.DataProxy.Keeper
import SedaChain.DataProxy.FeeQueue
import SedaChain.Tally.Divergent
import SedaChain.Batching.SignedBatch
import SedaChain.Tally.QueryContract
import SedaChain.Tally.VmMatching
import SedaChain.Tally.NoHalt
import SedaChain.Infra.Dec
import SedaChain.Infra.IndexLoop
import SedaChain.Staking.Types
import SedaChain.Staking.Transfer
import SedaChain.Staking.Redelegation
import SedaChain.Staking.Delegation
import SedaChain.Staking.Unbonding
import SedaChain.Infra.Trace
import SedaChain.Pubkey.Keeper
import SedaChain.Pubkey.Spec
import SedaChain.Pubkey.MsgServer
import SedaChain.Pubkey.Lifecycle
