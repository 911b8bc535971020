import SedaChain.Batching.Types
import SedaChain.Infra.KeyMap
import SedaChain.Infra.Sort

/-!
# batching の store（`x/batching/keeper`）

batching keeper の collection と、それを読み書きする関数である。

* collection はどれも `KeyMap` で持つ。`batches` は block height を鍵とする主の表と、
  batch number から block height への一意な index（`batchIndex`）の二つの表からなる。
  Go ではこの index を `batches.Indexes.Number` と、刈り込み用の別名 `batchIndex` の二通りに
  読むが、どちらも同じ prefix の上の同じ表である
* `currentBatchNumber`（sequence）と `firstBatchNumber`、`params` は値で持つ
* 書き込みは失敗しない。失敗するのは一意な index の衝突と、読み出しの `ErrNotFound` である
* data result を状態ごとに列挙する順は、store の鍵（`DrId`、`DrBlockHeight`）の順である

各書き込みについて、それが変えない collection を `@[simp]` の補題で言っておく。
-/

namespace SedaChain.Batching

open Infra Infra.Go

/-- batching keeper の store。 -/
structure Store where
  dataResults : KeyMap (Bool × String × UInt64) DataResult
  batchAssignments : KeyMap (String × UInt64) Nat
  currentBatchNumber : Nat
  batches : KeyMap Int Batch
  batchIndex : KeyMap Nat Int
  firstBatchNumber : Nat
  validatorTreeEntries : KeyMap (Nat × Bytes) ValidatorTreeEntry
  dataResultTreeEntries : KeyMap Nat DataResultTreeEntries
  batchSignatures : KeyMap (Nat × Bytes) BatchSignatures
  params : Params

namespace Store

variable (s : Store)

/-- 何も書かれていない store。 -/
def empty : Store :=
  { dataResults := KeyMap.empty, batchAssignments := KeyMap.empty, currentBatchNumber := 0
    batches := KeyMap.empty, batchIndex := KeyMap.empty, firstBatchNumber := 0
    validatorTreeEntries := KeyMap.empty, dataResultTreeEntries := KeyMap.empty
    batchSignatures := KeyMap.empty, params := DefaultParams }

/-! ## data result -/

/-- `SetDataResultForBatching`。未 batch の状態で書く。 -/
def SetDataResultForBatching (result : DataResult) : Store :=
  { s with dataResults := s.dataResults.set (false, result.DrId, result.DrBlockHeight) result }

/-- `SetBatchAssignment`。 -/
def SetBatchAssignment (dataReqID : String) (dataReqHeight : UInt64) (batchNumber : Nat) : Store :=
  { s with batchAssignments := s.batchAssignments.set (dataReqID, dataReqHeight) batchNumber }

/-- `MarkDataResultAsBatched`。割り当てを書き、未 batch の方を消して batch 済みの方に書く。 -/
def MarkDataResultAsBatched (result : DataResult) (batchNum : Nat) : Store :=
  let s := s.SetBatchAssignment result.DrId result.DrBlockHeight batchNum
  let s := { s with dataResults := s.dataResults.erase (false, result.DrId, result.DrBlockHeight) }
  { s with dataResults := s.dataResults.set (true, result.DrId, result.DrBlockHeight) result }

/-- data result の鍵の、状態の後ろの部分を store の鍵の順に並べるための byte 列。 -/
def dataResultKeyBytes (key : Bool × String × UInt64) : Bytes :=
  strBytes key.2.1 ++ [0] ++ putUint64 key.2.2.toNat

/-- `GetDataResults`。状態 `batched` の data result を鍵の順に並べる。 -/
def GetDataResults (batched : Bool) : List DataResult :=
  (sortByKey (fun e => dataResultKeyBytes e.1)
    (s.dataResults.entries.filter fun e => e.1.1 = batched)).map (·.2)

/-! ## batch -/

/-- `incrementCurrentBatchNum`。sequence の `Next` は `uint64` で数を一つ進める。 -/
def incrementCurrentBatchNum : Store :=
  { s with currentBatchNumber := addU64 s.currentBatchNumber 1 }

/--
`batches.Set`（一意な index を持つ `IndexedMap`）。同じ height に batch があればその番号の
参照を消し、番号が既に参照されていれば衝突で失敗する。
-/
def setBatch (batch : Batch) : Except Fault Store :=
  let s := match s.batches.get? batch.BlockHeight with
    | some old => { s with batchIndex := s.batchIndex.erase old.BatchNumber }
    | none => s
  if s.batchIndex.contains batch.BatchNumber then .error errConflict
  else .ok { s with
    batchIndex := s.batchIndex.set batch.BatchNumber batch.BlockHeight
    batches := s.batches.set batch.BlockHeight batch }

/-- `GetBatchForHeight`。 -/
def GetBatchForHeight (blockHeight : Int) : Except Fault Batch :=
  match s.batches.get? blockHeight with
  | some batch => .ok batch
  | none => .error errNotFound

/--
`batches.Indexes.Number.MatchExact`（および `batchIndex.Get`）。一意な index の `refKeys` は値が
`int64` の height の map なので、無い番号の誤りはその型を名指す。
-/
def batchIndexGet (batchNumber : Nat) : Except Fault Int :=
  match s.batchIndex.get? batchNumber with
  | some height => .ok height
  | none => .error (errNotFoundKey (toString batchNumber) "int64")

/-- `GetBatchByBatchNumber`。 -/
def GetBatchByBatchNumber (batchNumber : Nat) : Except Fault Batch := do
  let blockHeight ← s.batchIndexGet batchNumber
  s.GetBatchForHeight blockHeight

/-- `GetLatestBatch`。batch がまだ無ければ `ErrBatchingHasNotStarted`。 -/
def GetLatestBatch : Except Fault Batch :=
  if s.currentBatchNumber = 0 then .error errBatchingHasNotStarted
  else s.GetBatchByBatchNumber (s.currentBatchNumber - 1)

/-- `setDataResultTreeEntry`。 -/
def setDataResultTreeEntry (batchNum : Nat) (dataEntries : DataResultTreeEntries) : Store :=
  { s with dataResultTreeEntries := s.dataResultTreeEntries.set batchNum dataEntries }

/-- `setValidatorTreeEntry`。 -/
def setValidatorTreeEntry (batchNum : Nat) (entry : ValidatorTreeEntry) : Store :=
  { s with validatorTreeEntries :=
      s.validatorTreeEntries.set (batchNum, entry.ValidatorAddress) entry }

/-- `GetValidatorTreeEntry`。 -/
def GetValidatorTreeEntry (batchNum : Nat) (valAddr : Bytes) : Except Fault ValidatorTreeEntry :=
  match s.validatorTreeEntries.get? (batchNum, valAddr) with
  | some entry => .ok entry
  | none => .error errNotFound

/-- `SetBatchSigSecp256k1`。 -/
def SetBatchSigSecp256k1 (batchNum : Nat) (valAddr signature : Bytes) : Store :=
  { s with batchSignatures :=
      s.batchSignatures.set (batchNum, valAddr) ⟨valAddr, signature⟩ }

/--
`SetNewBatch`。同じ height の batch があるか、batch number が現在の番号でなければ失敗する。
木の entry を現在の番号に書き、番号を進めてから batch を書く。
-/
def SetNewBatch (batch : Batch) (dataEntries : DataResultTreeEntries)
    (valEntries : List ValidatorTreeEntry) : Except Fault Store :=
  if s.batches.contains batch.BlockHeight then .error (errBatchAlreadyExists batch.BlockHeight)
  else
    let batchNum := s.currentBatchNumber
    if batch.BatchNumber ≠ batchNum then .error (errInvalidBatchNumber batch.BatchNumber batchNum)
    else
      let s := s.setDataResultTreeEntry batchNum dataEntries
      let s := valEntries.foldl (fun s e => s.setValidatorTreeEntry batchNum e) s
      s.incrementCurrentBatchNum.setBatch batch

/-! ## 書き込みが変えないもの -/

section Frame

variable {s}

@[simp] theorem SetDataResultForBatching_currentBatchNumber (r : DataResult) :
    (s.SetDataResultForBatching r).currentBatchNumber = s.currentBatchNumber := rfl
@[simp] theorem SetDataResultForBatching_firstBatchNumber (r : DataResult) :
    (s.SetDataResultForBatching r).firstBatchNumber = s.firstBatchNumber := rfl
@[simp] theorem SetDataResultForBatching_batches (r : DataResult) :
    (s.SetDataResultForBatching r).batches = s.batches := rfl
@[simp] theorem SetDataResultForBatching_batchIndex (r : DataResult) :
    (s.SetDataResultForBatching r).batchIndex = s.batchIndex := rfl
@[simp] theorem SetDataResultForBatching_validatorTreeEntries (r : DataResult) :
    (s.SetDataResultForBatching r).validatorTreeEntries = s.validatorTreeEntries := rfl
@[simp] theorem SetDataResultForBatching_dataResultTreeEntries (r : DataResult) :
    (s.SetDataResultForBatching r).dataResultTreeEntries = s.dataResultTreeEntries := rfl
@[simp] theorem SetDataResultForBatching_batchSignatures (r : DataResult) :
    (s.SetDataResultForBatching r).batchSignatures = s.batchSignatures := rfl

@[simp] theorem SetBatchSigSecp256k1_currentBatchNumber (n : Nat) (v sig : Bytes) :
    (s.SetBatchSigSecp256k1 n v sig).currentBatchNumber = s.currentBatchNumber := rfl
@[simp] theorem SetBatchSigSecp256k1_firstBatchNumber (n : Nat) (v sig : Bytes) :
    (s.SetBatchSigSecp256k1 n v sig).firstBatchNumber = s.firstBatchNumber := rfl
@[simp] theorem SetBatchSigSecp256k1_batches (n : Nat) (v sig : Bytes) :
    (s.SetBatchSigSecp256k1 n v sig).batches = s.batches := rfl
@[simp] theorem SetBatchSigSecp256k1_batchIndex (n : Nat) (v sig : Bytes) :
    (s.SetBatchSigSecp256k1 n v sig).batchIndex = s.batchIndex := rfl
@[simp] theorem SetBatchSigSecp256k1_validatorTreeEntries (n : Nat) (v sig : Bytes) :
    (s.SetBatchSigSecp256k1 n v sig).validatorTreeEntries = s.validatorTreeEntries := rfl
@[simp] theorem SetBatchSigSecp256k1_dataResultTreeEntries (n : Nat) (v sig : Bytes) :
    (s.SetBatchSigSecp256k1 n v sig).dataResultTreeEntries = s.dataResultTreeEntries := rfl
@[simp] theorem SetBatchSigSecp256k1_dataResults (n : Nat) (v sig : Bytes) :
    (s.SetBatchSigSecp256k1 n v sig).dataResults = s.dataResults := rfl
@[simp] theorem SetBatchSigSecp256k1_batchAssignments (n : Nat) (v sig : Bytes) :
    (s.SetBatchSigSecp256k1 n v sig).batchAssignments = s.batchAssignments := rfl
@[simp] theorem SetBatchSigSecp256k1_batchSignatures (n : Nat) (v sig : Bytes) :
    (s.SetBatchSigSecp256k1 n v sig).batchSignatures =
      s.batchSignatures.set (n, v) ⟨v, sig⟩ := rfl

theorem foldl_setValidatorTreeEntry (batchNum : Nat) :
    ∀ (valEntries : List ValidatorTreeEntry) (s : Store),
      valEntries.foldl (fun s e => s.setValidatorTreeEntry batchNum e) s =
        { s with validatorTreeEntries := (valEntries.foldl
            (fun m e => m.set (batchNum, e.ValidatorAddress) e) s.validatorTreeEntries) }
  | [], _ => rfl
  | e :: valEntries, s => by
    rw [List.foldl_cons, foldl_setValidatorTreeEntry batchNum valEntries]
    rfl

end Frame

/-! ## `SetNewBatch` -/

/--
**`SetNewBatch` の結果。** その height に batch が無く、その番号が index に無く、番号が現在の
番号なら、木の entry と batch を書き、番号を一つ進める。
-/
theorem SetNewBatch_eq {batch : Batch} (dataEntries : DataResultTreeEntries)
    (valEntries : List ValidatorTreeEntry) (hh : s.batches.get? batch.BlockHeight = none)
    (hi : s.batchIndex.get? batch.BatchNumber = none) (hnum : batch.BatchNumber = s.currentBatchNumber) :
    s.SetNewBatch batch dataEntries valEntries = .ok { s with
      dataResultTreeEntries := s.dataResultTreeEntries.set batch.BatchNumber dataEntries
      validatorTreeEntries := (valEntries.foldl
        (fun m e => m.set (batch.BatchNumber, e.ValidatorAddress) e) s.validatorTreeEntries)
      currentBatchNumber := addU64 s.currentBatchNumber 1
      batchIndex := s.batchIndex.set batch.BatchNumber batch.BlockHeight
      batches := s.batches.set batch.BlockHeight batch } := by
  have hc : ¬ s.batches.contains batch.BlockHeight = true := by simp [KeyMap.contains, hh]
  unfold SetNewBatch
  rw [if_neg hc, if_neg (by omega)]
  simp only [foldl_setValidatorTreeEntry]
  unfold setBatch
  simp only [setDataResultTreeEntry, incrementCurrentBatchNum, hh, hnum]
  rw [if_neg (by simp [KeyMap.contains, ← hnum, hi])]

end Store

end SedaChain.Batching
