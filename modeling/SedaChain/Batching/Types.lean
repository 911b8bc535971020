import SedaChain.Batching.DataResult
import SedaChain.Merkle.Tree
import SedaChain.Infra.Go

/-!
# batching の型（`x/batching/types`）

batch、その木の entry と署名、module の parameter、batch ID の計算、誤りの文言である。

* batch number は `uint64`、block height は `int64` で、それぞれ `Nat` と `Int` で持つ。
  折り返しの起こりうる算術は使う側で `Infra.Go` の関数を使って書く
* 根は 16 進の文字列で持つ（Go の `hex.EncodeToString`）
* batch ID は `ComputeBatchID`、Ethereum address は `PubKeyToEthAddress` で、どちらも
  Keccak-256 を引数に取る
-/

namespace SedaChain.Batching

open Infra Infra.Go

/-- `Batch`。 -/
structure Batch where
  BatchNumber : Nat
  BlockHeight : Int
  CurrentDataResultRoot : String
  DataResultRoot : String
  ValidatorRoot : String
  BatchId : Bytes
  ProvingMetadata : Bytes
deriving DecidableEq, Repr

/-- `ValidatorTreeEntry`。voting power の割合は `uint32`。 -/
structure ValidatorTreeEntry where
  ValidatorAddress : Bytes
  VotingPowerPercent : Nat
  EthAddress : Bytes
deriving DecidableEq, Repr

/-- `DataResultTreeEntries`。区切りの byte を付ける前の data result の ID。 -/
structure DataResultTreeEntries where
  Entries : List Bytes
deriving DecidableEq, Repr

/-- `BatchSignatures`。 -/
structure BatchSignatures where
  ValidatorAddress : Bytes
  Secp256K1Signature : Bytes
deriving DecidableEq, Repr

/-! ## parameter -/

/-- batching module の `Params`。 -/
structure Params where
  NumBatchesToKeep : UInt64
  MaxBatchPrunePerBlock : UInt64
deriving DecidableEq, Repr

def DefaultNumBatchesToKeep : UInt64 := 10000
def DefaultMaxBatchPrunePerBlock : UInt64 := 100

/-- `DefaultParams`。 -/
def DefaultParams : Params :=
  { NumBatchesToKeep := DefaultNumBatchesToKeep, MaxBatchPrunePerBlock := DefaultMaxBatchPrunePerBlock }

/-- `Params.Validate`。残す batch の数だけを確かめる。 -/
def Params.Validate (p : Params) : Except String Unit :=
  if p.NumBatchesToKeep ≤ 3 then
    .error s!"num batches to keep must be greater than 3: {p.NumBatchesToKeep}: invalid request"
  else .ok ()

theorem Params.Validate_eq_ok {p : Params} : p.Validate = .ok () ↔ 3 < p.NumBatchesToKeep.toNat := by
  unfold Params.Validate
  split
  · next h =>
    simp only [reduceCtorEq, false_iff, Nat.not_lt]
    exact UInt64.le_iff_toNat_le.mp h
  · next h =>
    simp only [true_iff]
    exact Nat.lt_of_not_le fun h' => h (UInt64.le_iff_toNat_le.mpr h')

example : DefaultParams.Validate = .ok () := by decide

/-! ## 誤り -/

/--
`collections.ErrNotFound`。handler が `errors.Is` で見分けるのはこの誤りで、ここでは key の表記を
省いた文面で表す。
-/
def errNotFound : Fault := .error "collections: not found"

/--
`collections.Map.Get` が key の無い時に返す誤り。`ErrNotFound` を key の表記と値の型で包む
（`"%w: key '%s' of type %s"`）。
-/
def errNotFoundKey (key valueType : String) : Fault :=
  .error s!"collections: not found: key \x27{key}\x27 of type {valueType}"

/-- `ErrBatchingHasNotStarted`。 -/
def errBatchingHasNotStarted : Fault :=
  .error "batching has not begun - there is no batch in the store"

/-- `ErrInvalidBatchNumber.Wrapf("got %d; expected %d", ...)`。 -/
def errInvalidBatchNumber (got expected : Nat) : Fault :=
  .error s!"got {got}; expected {expected}: invalid batch number"

/-- `ErrBatchAlreadyExists.Wrapf("batch block height %d", ...)`。 -/
def errBatchAlreadyExists (height : Int) : Fault :=
  .error s!"batch block height {height}: batch already exists at the given block height"

/-- 一意な index の衝突（`collections.ErrConflict`）。 -/
def errConflict : Fault := .error "collections: conflict: index uniqueness constrain violation"

/-! ## hash -/

variable (keccak : Bytes → Bytes)

/-- `SEDASeparatorDataResult` と `SEDASeparatorSecp256k1`。 -/
def SEDASeparatorDataResult : UInt8 := 0
def SEDASeparatorSecp256k1 : UInt8 := 1

/--
`ComputeBatchID`。batch number、block height（`uint64` として読む）、validator 木の根、data
result 木の根、proving metadata の hash を連結して Keccak-256 を取る。
-/
def ComputeBatchID (batchNumber : Nat) (blockHeight : Int) (validatorRoot dataResultRoot
    provingMetadataHash : Bytes) : Bytes :=
  keccak (putUint64 batchNumber ++ putUint64 (blockHeight % 2 ^ 64).toNat ++ validatorRoot ++
    dataResultRoot ++ provingMetadataHash)

/-- `utils.PubKeyToEthAddress`。非圧縮の公開鍵の先頭 byte を除いた hash の後ろ 20 byte。 -/
def PubKeyToEthAddress (uncompressed : Bytes) : Except String Bytes :=
  if uncompressed.length ≠ 65 then .error s!"invalid public key length: {uncompressed.length}"
  else .ok ((keccak (uncompressed.drop 1)).drop 12)

end SedaChain.Batching
