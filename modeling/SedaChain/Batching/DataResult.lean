import SedaChain.Infra.Base64

/-!
# data result とその ID（`x/batching/types/data_result.go`）

tally が作り batching が木に入れる `DataResult` と、その ID を計算する `TryHash` である。

ID は次の連結の Keccak-256 を 16 進にしたもの：

`hash(version) ‖ drID ‖ consensus ‖ exitCode ‖ hash(result) ‖ blockHeight ‖ blockTimestamp ‖
gasUsed(16 byte) ‖ hash(paybackAddress) ‖ hash(sedaPayload)`

失敗するのは `DrId` が 16 進でないとき、`GasUsed` が 128 bit に収まらないとき、
payback address か SEDA payload が base64 でないときである。
-/

namespace SedaChain.Batching

open Infra

/-- `DataResult`。`GasUsed` は Go ではポインタなので `Option` で表す。 -/
structure DataResult where
  Id : String
  DrId : String
  DrBlockHeight : UInt64
  Version : String
  BlockHeight : UInt64
  BlockTimestamp : UInt64
  ExitCode : UInt32
  GasUsed : Option Int
  Result : Bytes
  PaybackAddress : String
  SedaPayload : String
  Consensus : Bool
deriving DecidableEq, Repr

/-- 空の data result（Go のゼロ値）。 -/
def DataResult.zero : DataResult :=
  { Id := "", DrId := "", DrBlockHeight := 0, Version := "", BlockHeight := 0, BlockTimestamp := 0,
    ExitCode := 0, GasUsed := none, Result := [], PaybackAddress := "", SedaPayload := "",
    Consensus := false }

variable (keccak : Bytes → Bytes)

/-- gas の 16 byte 表記。`big.Int.Bytes()` は絶対値の表記なので、絶対値を書く。 -/
def gasUsedBytes : Option Int → Except String Bytes
  | none => .ok (putUintBE 16 0)
  | some g =>
    if g.natAbs < 2 ^ 128 then .ok (putUintBE 16 g.natAbs) else .error "math.Int too large for u128"

/-- `hex.DecodeString`。失敗は Go の文面の `error` である。 -/
def decodeHex (s : String) : Except String Bytes := hexDecodeString s

/-- base64 の復号を `error` にする。 -/
def decodeBase64 (s : String) : Except String Bytes :=
  match Base64.decodeString s with
  | .ok b => .ok b
  | .error off => .error (Base64.corruptInputMessage off)

/-- hash される byte 列。 -/
def hashContent (dr : DataResult) : Except String Bytes := do
  let versionHash := keccak (strBytes dr.Version)
  let drIDBytes ← decodeHex dr.DrId
  let consensusByte : UInt8 := if dr.Consensus then 1 else 0
  let exitCodeByte : UInt8 := UInt8.ofNat dr.ExitCode.toNat
  let resultHash := keccak dr.Result
  let gasBytes ← gasUsedBytes dr.GasUsed
  let paybackAddrBytes ← decodeBase64 dr.PaybackAddress
  let payloadBytes ← decodeBase64 dr.SedaPayload
  pure (versionHash ++ drIDBytes ++ [consensusByte] ++ [exitCodeByte] ++ resultHash ++
    putUint64 dr.BlockHeight.toNat ++ putUint64 dr.BlockTimestamp.toNat ++ gasBytes ++
    keccak paybackAddrBytes ++ keccak payloadBytes)

/-- `DataResult.TryHash`。 -/
def DataResult.TryHash (dr : DataResult) : Except String String :=
  (hashContent keccak dr).map fun b => hexEncode (keccak b)

end SedaChain.Batching
