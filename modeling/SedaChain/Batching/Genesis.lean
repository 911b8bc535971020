import SedaChain.Batching.EndBlock

/-!
# batching の genesis（`x/batching/keeper/genesis.go`、`x/batching/types/genesis.go`）

store の中身を書き出す `ExportGenesis`、読み込む `InitGenesis`、読み込む前の検査
`ValidateGenesis` である。

* 書き出しは collection を鍵の順に歩く。batch ごとの木の entry と署名は `GetBatchData` で集め、
  読めなければ panic する
* 読み込みは書き出した順に書く。batch の一意な index が衝突すれば panic する
* 検査は、現在の batch number が batch の数に等しいこと、各 batch の番号が現在の番号を
  超えないこと、各 batch の ID が計算し直した ID に等しいことを求める
-/

namespace SedaChain.Batching

open Infra Infra.Go

/-- `BatchData`。 -/
structure BatchData where
  BatchNumber : Nat
  DataResultEntries : DataResultTreeEntries
  ValidatorEntries : List ValidatorTreeEntry
  BatchSignatures : List BatchSignatures
deriving DecidableEq, Repr

/-- `GenesisDataResult`。 -/
structure GenesisDataResult where
  Batched : Bool
  DataResult : DataResult
deriving DecidableEq, Repr

/-- `BatchAssignment`。 -/
structure BatchAssignment where
  BatchNumber : Nat
  DataRequestId : String
  DataRequestHeight : UInt64
deriving DecidableEq, Repr

/-- `GenesisState`。 -/
structure GenesisState where
  CurrentBatchNumber : Nat
  Batches : List Batch
  BatchData : List BatchData
  DataResults : List GenesisDataResult
  BatchAssignments : List BatchAssignment
  Params : Params
  FirstBatchNumber : Nat
deriving DecidableEq, Repr

/-- `DefaultGenesisState`。 -/
def DefaultGenesisState : GenesisState :=
  { CurrentBatchNumber := 0, Batches := [], BatchData := [], DataResults := []
    BatchAssignments := [], Params := DefaultParams, FirstBatchNumber := 0 }

variable (keccak : Bytes → Bytes)

/-! ## 検査 -/

/-- `ValidateGenesis` の batch ごとの検査。 -/
def validateGenesisBatch (currentBatchNumber : Nat) (batch : Batch) : Except String Unit := do
  if batch.BatchNumber > currentBatchNumber then
    throw s!"batch number {batch.BatchNumber} should not exceed current batch number {currentBatchNumber}"
  let provingMetaDataHash := provingMetadataHash keccak batch.ProvingMetadata
  let valRoot ← decodeHex batch.ValidatorRoot
  let dataRoot ← decodeHex batch.DataResultRoot
  let expectedBatchID :=
    ComputeBatchID keccak batch.BatchNumber batch.BlockHeight valRoot dataRoot provingMetaDataHash
  if batch.BatchId ≠ expectedBatchID then
    throw s!"batch id {hexEncode batch.BatchId} does not match expected batch id {hexEncode expectedBatchID}"

/-- **`ValidateGenesis`**。 -/
def ValidateGenesis (gs : GenesisState) : Except String Unit := do
  if gs.CurrentBatchNumber ≠ gs.Batches.length then
    throw s!"current batch number {gs.CurrentBatchNumber} should be equal to number of batches {gs.Batches.length}"
  gs.Batches.forM (validateGenesisBatch keccak gs.CurrentBatchNumber)
  gs.Params.Validate

/-! ## 書き出し -/

namespace Store

variable (s : Store)

/-- `batchAssignments` の鍵を鍵の順に並べるための byte 列。 -/
def assignmentKeyBytes (key : String × UInt64) : Bytes :=
  strBytes key.1 ++ [0] ++ putUint64 key.2.toNat

/-- `getAllGenesisDataResults`。未 batch のものを先に、それぞれ鍵の順に。 -/
def getAllGenesisDataResults : List GenesisDataResult :=
  (s.GetDataResults false).map (⟨false, ·⟩) ++ (s.GetDataResults true).map (⟨true, ·⟩)

/-- `getAllBatchAssignments`。 -/
def getAllBatchAssignments : List BatchAssignment :=
  (sortByKey (fun e => assignmentKeyBytes e.1) s.batchAssignments.entries).map
    fun e => ⟨e.2, e.1.1, e.1.2⟩

/-- `GetAllBatches`。block height の順。 -/
def GetAllBatches : List Batch :=
  (sortByKey (·.1) s.batches.entries).map (·.2)

/-- `GetDataResultTreeEntries`。 -/
def GetDataResultTreeEntries (batchNum : Nat) : Except Fault DataResultTreeEntries :=
  match s.dataResultTreeEntries.get? batchNum with
  | some entries => .ok entries
  | none => .error errNotFound

/-- `GetValidatorTreeEntries`。番号 `batchNum` の entry を address の順に。 -/
def GetValidatorTreeEntries (batchNum : Nat) : List ValidatorTreeEntry :=
  (sortByKey (·.1.2) (s.validatorTreeEntries.entries.filter fun e => e.1.1 = batchNum)).map (·.2)

/-- `GetBatchSignatures`。番号 `batchNum` の署名を address の順に。 -/
def GetBatchSignatures (batchNum : Nat) : List BatchSignatures :=
  (sortByKey (·.1.2) (s.batchSignatures.entries.filter fun e => e.1.1 = batchNum)).map (·.2)

/-- `GetBatchData`。 -/
def GetBatchData (batchNum : Nat) : Except Fault BatchData := do
  let dataEntries ← s.GetDataResultTreeEntries batchNum
  pure ⟨batchNum, dataEntries, s.GetValidatorTreeEntries batchNum, s.GetBatchSignatures batchNum⟩

end Store

/-- **`ExportGenesis`**。batch の木が読めなければ panic する。 -/
def ExportGenesis (s : Store) : Except Fault GenesisState := do
  let batches := s.GetAllBatches
  let batchData ← batches.mapM fun batch => (s.GetBatchData batch.BatchNumber).mapError
    fun e => match e with
      | .error msg => .panic msg
      | .panic msg => .panic msg
  pure { CurrentBatchNumber := s.currentBatchNumber, Batches := batches, BatchData := batchData
         DataResults := s.getAllGenesisDataResults, BatchAssignments := s.getAllBatchAssignments
         Params := s.params, FirstBatchNumber := s.firstBatchNumber }

/-! ## 読み込み -/

/-- `InitGenesis` の `BatchData` 一つ分。 -/
def Store.setBatchData (s : Store) (data : BatchData) : Store :=
  let s := s.setDataResultTreeEntry data.BatchNumber data.DataResultEntries
  let s := data.ValidatorEntries.foldl (fun s e => s.setValidatorTreeEntry data.BatchNumber e) s
  data.BatchSignatures.foldl
    (fun s sig => s.SetBatchSigSecp256k1 data.BatchNumber sig.ValidatorAddress sig.Secp256K1Signature) s

/-- `InitGenesis` の data result 一つ分。 -/
def Store.setGenesisDataResult (s : Store) (dr : GenesisDataResult) : Store :=
  { s with dataResults :=
      s.dataResults.set (dr.Batched, dr.DataResult.DrId, dr.DataResult.DrBlockHeight) dr.DataResult }

/-- **`InitGenesis`**。batch の index が衝突すれば panic する。 -/
def InitGenesis (data : GenesisState) (s : Store) : Except Fault Store := do
  let s := { s with currentBatchNumber := data.CurrentBatchNumber
                    firstBatchNumber := data.FirstBatchNumber }
  let s ← data.Batches.foldlM (fun s batch => (s.setBatch batch).mapError fun e => match e with
      | .error msg => .panic msg
      | .panic msg => .panic msg) s
  let s := data.BatchData.foldl Store.setBatchData s
  let s := data.DataResults.foldl Store.setGenesisDataResult s
  let s := data.BatchAssignments.foldl
    (fun s a => s.SetBatchAssignment a.DataRequestId a.DataRequestHeight a.BatchNumber) s
  pure { s with params := data.Params }

example : ValidateGenesis id DefaultGenesisState = .ok () := by decide

end SedaChain.Batching
