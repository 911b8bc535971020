import SedaChain.Infra.KeyMap
import SedaChain.Infra.Bytes
import SedaChain.Infra.Go

/-!
# tally の型（`x/tally/types`）

Core Contract から受け取る要求（`Request`）、その reveal、module の parameter、
filter の結果と誤り、VM の結果、Core Contract に返す分配（`Distribution`）である。

数値の型は Go に合わせる（`uint64` は `UInt64`、replication factor は `UInt16`）。
計算の途中では `Nat` に直し、折り返す演算は `Infra.Go` の関数で明示する。
Go の `map` は `Infra.KeyMap` で表し、`range` の列挙の順は `entries` の並びとする。

この repository の外にあるもの（hash 関数、JSON、data proxy の設定、oracle program、
tally VM）は `Keeper` の field として関数で受ける。
-/

namespace SedaChain.Tally

open Infra Infra.Go

/-! ## 10 進の固定小数点（`cosmossdk.io/math.LegacyDec`） -/

/-- `LegacyDec`。値は `raw / 10^18` である。 -/
structure LegacyDec where
  raw : Int
deriving DecidableEq, Repr

/-- `LegacyDec` の精度 `10^18`。 -/
def LegacyDec.precision : Int := 10 ^ 18

/-- 内部の整数の bit 長の上限 `maxDecBitLen`（`256 + 59`）。 -/
def LegacyDec.maxDecBitLen : Nat := 315

/--
`MulInt(i).TruncateInt()`。内部の整数に `i` を掛け（上限を超えると panic）、
`10^18` で割って 0 に向けて切り捨てる。商は 256 bit に収まるので `TruncateInt` は panic しない。
-/
def LegacyDec.MulIntTruncateInt (d : LegacyDec) (i : Int) : Except Fault Int :=
  if (d.raw * i).natAbs < 2 ^ LegacyDec.maxDecBitLen then .ok (Int.tdiv (d.raw * i) LegacyDec.precision)
  else .error (.panic "Int overflow")

/-! ## parameter -/

/-- tally module の parameter（`tally.pb.go` の `Params`）。 -/
structure Params where
  MaxTallyGasLimit : UInt64
  FilterGasCostNone : UInt64
  FilterGasCostMultiplierMode : UInt64
  FilterGasCostMultiplierMAD : UInt64
  GasCostBase : UInt64
  ExecutionGasCostFallback : UInt64
  BurnRatio : LegacyDec
  MaxResultSize : UInt32
  MaxTalliesPerBlock : UInt32
deriving DecidableEq, Repr

/-- `DefaultParams`。 -/
def DefaultParams : Params :=
  { MaxTallyGasLimit := 50000000000000
    FilterGasCostNone := 100000
    FilterGasCostMultiplierMode := 100000
    FilterGasCostMultiplierMAD := 100000
    GasCostBase := 1000000000000
    ExecutionGasCostFallback := 5000000000000
    BurnRatio := ⟨2 * 10 ^ 17⟩
    MaxResultSize := 1024
    MaxTalliesPerBlock := 100 }

/-- `sdkerrors.ErrInvalidRequest.Wrapf` の文言。 -/
def invalidRequest (msg : String) : String := msg ++ ": invalid request"

/-- 正であることの検査。Go では `<= 0` と比べる。 -/
def checkPositive (what : String) (v : Nat) : Except String Unit :=
  if v = 0 then .error (invalidRequest s!"{what} must be greater than 0: {v}") else .ok ()

/-- `validateBurnRatio`。0 以上 1 以下。 -/
def validateBurnRatio (v : LegacyDec) : Except String Unit :=
  if v.raw < 0 then .error "burn ratio must be positive"
  else if v.raw > LegacyDec.precision then .error "burn ratio too large"
  else .ok ()

/-- `Params.Validate`。 -/
def Params.Validate (p : Params) : Except String Unit := do
  checkPositive "max result size" p.MaxResultSize.toNat
  checkPositive "max tally gas limit" p.MaxTallyGasLimit.toNat
  checkPositive "filter gas cost (none)" p.FilterGasCostNone.toNat
  checkPositive "filter gas cost (mode)" p.FilterGasCostMultiplierMode.toNat
  checkPositive "filter gas cost (MAD)" p.FilterGasCostMultiplierMAD.toNat
  checkPositive "base gas cost" p.GasCostBase.toNat
  checkPositive "execution gas cost fallback" p.ExecutionGasCostFallback.toNat
  validateBurnRatio p.BurnRatio

theorem checkPositive_ok {what : String} {v : Nat} : checkPositive what v = .ok () ↔ 0 < v := by
  unfold checkPositive; split <;> simp_all [Nat.pos_iff_ne_zero]

theorem validateBurnRatio_ok {v : LegacyDec} :
    validateBurnRatio v = .ok () ↔ 0 ≤ v.raw ∧ v.raw ≤ LegacyDec.precision := by
  unfold validateBurnRatio
  split
  · simp; omega
  · split
    · simp; omega
    · simp; omega

/-- 検査を通る parameter の燃やす割合は 0 以上 1 以下である。 -/
theorem Params.burnRatio_of_Validate {p : Params} (h : p.Validate = .ok ()) :
    0 ≤ p.BurnRatio.raw ∧ p.BurnRatio.raw ≤ LegacyDec.precision := by
  simp only [Params.Validate, bind, Except.bind] at h
  repeat' split at h <;> try cases h
  exact validateBurnRatio_ok.mp h

example : DefaultParams.Validate = .ok () := by decide

/-! ## 要求と reveal -/

/-- `RevealBody`。executor が報告した実行結果。 -/
structure RevealBody where
  RequestID : String
  RequestBlockHeight : UInt64
  ExitCode : UInt8
  GasUsed : UInt64
  Reveal : String
  ProxyPubKeys : List String
deriving DecidableEq, Repr

/-- `Reveal`。executor の識別子（公開鍵の 16 進）と報告の組。 -/
structure Reveal extends RevealBody where
  Executor : String
deriving DecidableEq, Repr

/-- `Request`。Core Contract が返す tally 可能な要求。 -/
structure Request where
  ID : String
  Height : UInt64
  ExecProgramID : String
  ExecInputs : String
  ExecGasLimit : UInt64
  TallyProgramID : String
  TallyInputs : String
  TallyGasLimit : UInt64
  PostedGasPrice : String
  Memo : String
  PaybackAddress : String
  ReplicationFactor : UInt16
  ConsensusFilter : String
  Commits : KeyMap String Bytes
  Reveals : KeyMap String RevealBody
  SedaPayload : String
  Version : String
deriving DecidableEq

/-! ## filter の結果と誤り -/

/-- tally の流れを分ける誤り（登録された `error` の値）。 -/
inductive FilterError where
  /-- `ErrNoBasicConsensus`。 -/
  | noBasicConsensus
  /-- `ErrInvalidFilterInput.Wrap(msg)`。 -/
  | invalidFilterInput (msg : String)
  /-- `ErrConsensusInError`。 -/
  | consensusInError
  /-- `ErrNoConsensus`。 -/
  | noConsensus
  /-- `ErrFilterDidNotRun`。 -/
  | filterDidNotRun
deriving DecidableEq, Repr

/-- `Error()` の文言。`Wrap` は「説明: 元の文言」になる。 -/
def FilterError.message : FilterError → String
  | .noBasicConsensus => "> 1/3 of reveals do not agree on (exit_code_success, proxy_pub_keys)"
  | .invalidFilterInput msg => msg ++ ": invalid filter input"
  | .consensusInError => "consensus in error"
  | .noConsensus => "> 1/3 of reveals do not agree on reveal data"
  | .filterDidNotRun => "filter did not run due to not enough commits"

/-- `FilterResult`。`Outliers` は Go では `nil` になりうるので `Option` で表す。 -/
structure FilterResult where
  Executors : List String
  Errors : List Bool
  Outliers : Option (List Bool)
  Consensus : Bool
  ProxyPubKeys : List String
  Error : Option FilterError
deriving DecidableEq, Repr

/-- 空の結果（Go のゼロ値）。 -/
def FilterResult.zero : FilterResult :=
  { Executors := [], Errors := [], Outliers := none, Consensus := false, ProxyPubKeys := [],
    Error := none }

/-! ## 終了コード（`vm_exit_codes.go`） -/

def TallyExitCodeNotEnoughCommits : UInt32 := 200
def TallyExitCodeInvalidRequest : UInt32 := 201
def TallyExitCodeContractPaused : UInt32 := 202
def TallyExitCodeInvalidFilterInput : UInt32 := 253
def TallyExitCodeFilterError : UInt32 := 254
def TallyExitCodeExecError : UInt32 := 255

/-! ## 分配 -/

/-- `Distribution`。Go では三つのポインタのうち一つだけが入る。 -/
inductive Distribution where
  | burn (amount : Int)
  | executorReward (identity : String) (amount : Int)
  | dataProxyReward (payoutAddress publicKey : String) (amount : Int)
deriving DecidableEq, Repr

/-- 分配の額。 -/
def Distribution.amount : Distribution → Int
  | .burn a => a
  | .executorReward _ a => a
  | .dataProxyReward _ _ a => a

/-- executor への報酬か。 -/
def Distribution.isExecutorReward : Distribution → Bool
  | .executorReward _ _ => true
  | _ => false

/-! ## tally VM -/

/-- `tallyvm.VmResult` の `ExitInfo`。 -/
structure VmExitInfo where
  ExitCode : Int
  ExitMessage : String
deriving DecidableEq, Repr

/-- `tallyvm.VmResult`。`Result` は Go ではポインタなので `Option` で表す。 -/
structure VmResult where
  Stdout : List String
  Stderr : List String
  Result : Option Bytes
  ResultLen : Nat
  GasUsed : UInt64
  ExitInfo : VmExitInfo
deriving DecidableEq, Repr

/-- `VMResult`。 -/
structure VMResult where
  Stdout : List String
  Stderr : List String
  Result : Bytes
  GasUsed : UInt64
  ExitCode : UInt32
  ExitMessage : String
deriving DecidableEq, Repr

/--
`MapVMResult`。結果が無いとき、または長さ 0 で終了コードが 0 でないときは、
終了の文言を結果にする。終了コードは `uint32` に変換する（2³² で折り返す）。
-/
def MapVMResult (vmRes : VmResult) : VMResult :=
  { ExitCode := UInt32.ofInt vmRes.ExitInfo.ExitCode
    ExitMessage := vmRes.ExitInfo.ExitMessage
    Stdout := vmRes.Stdout
    Stderr := vmRes.Stderr
    GasUsed := vmRes.GasUsed
    Result :=
      match vmRes.Result with
      | none => strBytes vmRes.ExitInfo.ExitMessage
      | some r =>
        if vmRes.ResultLen = 0 ∧ vmRes.ExitInfo.ExitCode ≠ 0 then strBytes vmRes.ExitInfo.ExitMessage
        else r }

/-- tally VM の一回の実行に渡すもの：bytecode、引数、環境変数。 -/
structure VmCall where
  program : Bytes
  args : List String
  env : List (String × String)
deriving DecidableEq, Repr

/-! ## 外部 -/

/-- data proxy の設定のうち tally が読むもの（手数料の額と支払先）。 -/
structure DataProxyConfig where
  PayoutAddress : String
  FeeAmount : Int
deriving DecidableEq, Repr

/-- `sdk.Context` のうち tally が読むもの。CometBFT の高さと時刻は負にならない。 -/
structure Context where
  BlockHeight : UInt64
  BlockTime : UInt64
deriving DecidableEq, Repr

/--
tally の `Keeper` と、それが呼ぶこの repository の外の関数。

* `sha256`、`keccak256` — hash 関数
* `NewIntFromString` — `math.NewIntFromString`（256 bit を超える値は受けない）
* `jsonNodes` — ojg で reveal を JSON として読み、JSON path（byte 列）の node を文字列にする。
  JSON か path が読めなければ `none`
* `GetDataProxyConfig` — data proxy module の keeper
* `GetOracleProgram` — wasm-storage module の keeper。oracle program の bytecode
* `marshalReveals` — `json.Marshal` による reveal の列の表記。reveal の base64 が読めなければ
  `error`
* `ExecuteMultipleFromCParallel` — tally VM
-/
structure Keeper where
  sha256 : Bytes → Bytes
  keccak256 : Bytes → Bytes
  NewIntFromString : String → Option Int
  jsonNodes : Bytes → Bytes → Option (List String)
  GetDataProxyConfig : Bytes → Option DataProxyConfig
  GetOracleProgram : String → Except String Bytes
  marshalReveals : List Reveal → Except String String
  ExecuteMultipleFromCParallel : List VmCall → List VmResult

/-! ## 具体的な入力 -/

/--
外の関数をもっとも簡単なもので置いた keeper。hash は空の列を返し、整数は `SetString` で読み、
JSON、data proxy、oracle program は見つからず、VM は何も返さない。具体的な入力で end block を
計算するのに使う。
-/
def Keeper.offline : Keeper :=
  { sha256 := fun _ => [], keccak256 := fun _ => [], NewIntFromString := setString10
    jsonNodes := fun _ _ => none, GetDataProxyConfig := fun _ => none
    GetOracleProgram := fun _ => .error "not found", marshalReveals := fun _ => .ok "[]"
    ExecuteMultipleFromCParallel := fun _ => [] }

/-- commit も reveal も無く、RF が 1、gas 価格が 1、二つの gas の上限が 100 の要求。 -/
def Request.sample : Request :=
  { ID := "00", Height := 1, ExecProgramID := "", ExecInputs := "", ExecGasLimit := 100
    TallyProgramID := "", TallyInputs := "", TallyGasLimit := 100, PostedGasPrice := "1", Memo := ""
    PaybackAddress := "", ReplicationFactor := 1, ConsensusFilter := "", Commits := KeyMap.empty
    Reveals := KeyMap.empty, SedaPayload := "", Version := "" }

/-- oracle program が見つかり、VM が呼び出しごとに 1 byte の結果と tally gas 7 を返す keeper。 -/
def Keeper.sampleVm : Keeper :=
  { Keeper.offline with
    GetOracleProgram := fun _ => .ok [0]
    ExecuteMultipleFromCParallel := fun calls => calls.map fun _ =>
      { Stdout := [], Stderr := [], Result := some [1], ResultLen := 1, GasUsed := 7
        ExitInfo := ⟨0, ""⟩ } }

/--
二人の executor `e1`、`e2` が commit と reveal をした RF 2 の要求。filter は種類 0（`none`）で、
報告した gas は 300 と 600 で揃っておらず、実行の gas の上限は 1000、tally gas は基本料金と filter と
VM に足りる。
-/
def Request.twoReveals : Request :=
  { Request.sample with
    ExecGasLimit := 1000
    TallyGasLimit := 2000000000000
    ReplicationFactor := 2
    ConsensusFilter := "AA=="
    Commits := (KeyMap.empty.set "e1" [1]).set "e2" [2]
    Reveals := (KeyMap.empty.set "e1" ⟨"00", 1, 0, 300, "AQ==", []⟩).set "e2" ⟨"00", 1, 0, 600, "AQ==", []⟩ }

end SedaChain.Tally
