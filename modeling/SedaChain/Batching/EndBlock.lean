import SedaChain.Batching.Store

/-!
# batching の end block（`x/batching/keeper/endblock.go`）

batch を作り、store に書き、古い batch を刈り込む。

* `ConstructDataResultTree` — 未 batch の data result をすべて batch 済みにし、その ID の木を作る
* `ConstructValidatorTree` — active set の validator の Ethereum address と voting power の割合の
  木を作る
* `ConstructBatch` — 直前の batch の根と合わせて新しい batch を作る。data result が無く validator
  木の根も変わらなければ作らない（`ErrNoBatchingUpdate`）
* `PruneBatches` — 残す数を超えた batch とその木と署名を、一度に決まった数まで消す
* `EndBlock` — proving scheme が有効なときだけ、上の三つを順に行う

end block が読む他の module の状態（proving scheme、staking、公開鍵）は `External` にまとめる。
`ErrNoBatchingUpdate` は end block が握りつぶすので、そこまでに書いた store はそのまま残る。
その場合を `Construction.noUpdate` として store と一緒に返す。
-/

namespace SedaChain.Batching

open Infra Infra.Go SedaChain.Utils

/-- end block が読む他の module の状態。 -/
structure External where
  /-- `pubKeyKeeper.IsProvingSchemeActivated(secp256k1)`。 -/
  IsProvingSchemeActivated : Bool
  /-- `stakingKeeper.GetLastTotalPower`。 -/
  LastTotalPower : Int
  /-- `stakingKeeper.IterateLastValidatorPowers` の列挙。operator address と power。 -/
  LastValidatorPowers : List (Bytes × Int)
  /-- `pubKeyKeeper.GetValidatorKeyAtIndex(secp256k1)`。登録が無ければ `none`。 -/
  ValidatorKey : Bytes → Option Bytes

variable (keccak : Bytes → Bytes)

/-- `hex.DecodeString` の誤りを `error` にする。 -/
def decodeHexString (s : String) : Except Fault Bytes := (decodeHex s).mapError Fault.error

/-! ## data result の木 -/

/--
`ConstructDataResultTree` の loop。data result ごとに ID を復号し、entry と区切りを付けた
木の entry を作って、batch 済みにする。
-/
def markResults (newBatchNum : Nat) :
    List DataResult → Store → Except Fault (List Bytes × List Bytes × Store)
  | [], s => .ok ([], [], s)
  | res :: rest, s => do
    let resID ← decodeHexString res.Id
    let r ← markResults newBatchNum rest (s.MarkDataResultAsBatched res newBatchNum)
    pure (resID :: r.1, (SEDASeparatorDataResult :: resID) :: r.2.1, r.2.2)

/-- `ConstructDataResultTree`。entry、木の根、書いた後の store を返す。 -/
def ConstructDataResultTree (s : Store) (newBatchNum : Nat) :
    Except Fault (DataResultTreeEntries × Bytes × Store) := do
  let r ← markResults newBatchNum (s.GetDataResults false) s
  pure (⟨r.1⟩, RootFromEntries keccak r.2.1, r.2.2)

/-! ## validator の木 -/

/--
`ConstructValidatorTree` の callback。公開鍵の登録が無い validator は飛ばす。公開鍵が
Ethereum address にならなければ panic する。voting power の割合は `power * 10⁸ / total` を
`uint32` に切り詰めたもの。
-/
def validatorEntry (ext : External) (val : Bytes × Int) :
    Except Fault (Option (ValidatorTreeEntry × Bytes)) :=
  match ext.ValidatorKey val.1 with
  | none => .ok none
  | some pubKey =>
    match PubKeyToEthAddress keccak pubKey with
    | .error e => .error (.panic e)
    | .ok ethAddr => do
      let scaled ← intMul val.2 100000000
      let quotient ← intQuo scaled ext.LastTotalPower
      let powerPercent := (← intUint64 quotient) % 2 ^ 32
      let treeEntry := SEDASeparatorSecp256k1 :: ethAddr ++ putUint32 powerPercent
      pure (some (⟨val.1, powerPercent, ethAddr⟩, treeEntry))

/-- `ConstructValidatorTree`。entry と木の根を返す。 -/
def ConstructValidatorTree (ext : External) : Except Fault (List ValidatorTreeEntry × Bytes) := do
  let entries ← ext.LastValidatorPowers.mapM (validatorEntry keccak ext)
  let kept := entries.filterMap id
  pure (kept.map (·.1), RootFromEntries keccak (kept.map (·.2)))

/-! ## batch -/

/-- proving metadata の hash。空なら 32 byte の 0。 -/
def provingMetadataHash (provingMetadata : Bytes) : Bytes :=
  if provingMetadata = [] then List.replicate 32 0 else keccak provingMetadata

/-- 新しい batch。proving metadata は空である。 -/
def newBatch (batchNumber : Nat) (blockHeight : Int) (dataRoot superRoot valRoot : Bytes) :
    Batch :=
  { BatchNumber := batchNumber, BlockHeight := blockHeight
    CurrentDataResultRoot := hexEncode dataRoot, DataResultRoot := hexEncode superRoot
    ValidatorRoot := hexEncode valRoot
    BatchId := ComputeBatchID keccak batchNumber blockHeight valRoot superRoot
      (provingMetadataHash keccak [])
    ProvingMetadata := [] }

/--
直前の batch から、新しい batch number と直前の二つの根を読む。batch がまだ無ければ
番号 0 と空の根。
-/
def latestBatchInfo (s : Store) : Except Fault (Nat × String × String) :=
  match s.GetLatestBatch with
  | .ok latest => .ok (addU64 latest.BatchNumber 1, latest.DataResultRoot, latest.ValidatorRoot)
  | .error e => if e = errBatchingHasNotStarted then .ok (0, "", "") else .error e

/-- `ConstructBatch` の結果。 -/
inductive Construction where
  /-- `ErrNoBatchingUpdate`。 -/
  | noUpdate
  | batch (batch : Batch) (dataEntries : DataResultTreeEntries) (valEntries : List ValidatorTreeEntry)

/-- `ConstructBatch`。 -/
def ConstructBatch (ext : External) (blockHeight : Int) (s : Store) :
    Except Fault (Construction × Store) := do
  let latest ← latestBatchInfo s
  let tree ← ConstructDataResultTree keccak s latest.1
  let latestDataRoot ← decodeHexString latest.2.1
  let superRoot := RootFromLeaves keccak [latestDataRoot, tree.2.1]
  let vals ← ConstructValidatorTree keccak ext
  -- data result が無く、validator 木の根も直前と同じなら作らない
  if tree.1.Entries.length = 0 ∧ hexEncode vals.2 = latest.2.2 then pure (.noUpdate, tree.2.2)
  else pure (.batch (newBatch keccak latest.1 blockHeight tree.2.1 superRoot vals.2) tree.1 vals.1,
    tree.2.2)

/-! ## 刈り込み -/

/--
番号 `[lo, hi)` の batch 番号の index、木の entry、署名と、height `[hlo, hhi)` の batch を消し、
先頭の番号を `hi` にする。
-/
def Store.clearBatches (s : Store) (lo hi : Nat) (hlo hhi : Int) : Store :=
  { s with
    batchIndex := s.batchIndex.filter fun n => !(lo ≤ n ∧ n < hi)
    dataResultTreeEntries := s.dataResultTreeEntries.filter fun n => !(lo ≤ n ∧ n < hi)
    batches := s.batches.filter fun h => !(hlo ≤ h ∧ h < hhi)
    validatorTreeEntries := s.validatorTreeEntries.filter fun k => !(lo ≤ k.1 ∧ k.1 < hi)
    batchSignatures := s.batchSignatures.filter fun k => !(lo ≤ k.1 ∧ k.1 < hi)
    firstBatchNumber := hi }

/--
`PruneBatches`。番号の差は `uint64` で計算する。残す数を超えていれば、先頭から
`MaxBatchPrunePerBlock` 個まで、ただし最後の `NumBatchesToKeep` 個は残して消す。
-/
def PruneBatches (s : Store) : Except Fault Store :=
  let keep := s.params.NumBatchesToKeep.toNat
  let currentBatchNum := s.currentBatchNumber
  let firstBatchNum := s.firstBatchNumber
  if subU64 currentBatchNum firstBatchNum ≤ keep then .ok s
  else do
    let firstBatchHeight ← s.batchIndexGet firstBatchNum
    let newFirstBatchNum :=
      min (addU64 firstBatchNum s.params.MaxBatchPrunePerBlock.toNat) (subU64 currentBatchNum keep)
    let newFirstBatchHeight ← s.batchIndexGet newFirstBatchNum
    pure (s.clearBatches firstBatchNum newFirstBatchNum firstBatchHeight newFirstBatchHeight)

/-! ## end block -/

/-- 作った batch を書いて刈り込む。作らなかったなら何もしない。 -/
def applyConstruction : Construction → Store → Except Fault Store
  | .noUpdate, s => .ok s
  | .batch batch dataEntries valEntries, s => do
    let s ← s.SetNewBatch batch dataEntries valEntries
    PruneBatches s

/-- **`Keeper.EndBlock`**。 -/
def EndBlock (ext : External) (blockHeight : Int) (s : Store) : Except Fault Store :=
  if ext.IsProvingSchemeActivated then do
    let c ← ConstructBatch keccak ext blockHeight s
    applyConstruction c.1 c.2
  else .ok s

end SedaChain.Batching
