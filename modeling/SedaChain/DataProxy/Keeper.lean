import SedaChain.App.CommitReveal
import SedaChain.Batching.Types
import SedaChain.Infra.KeyMap

/-!
# data proxy の keeper（`x/data-proxy`）

data proxy の登録と設定の変更、手数料の変更の予約と、その EndBlock での適用である。

手数料の変更は二か所に書かれる。proxy の設定の `FeeUpdate`（新しい手数料と適用の高さ）と、
`(高さ, 公開鍵)` の組の集まり `feeUpdateQueue` である。EndBlock は高さで queue を引き、
見つけた proxy の `FeeUpdate` を読む。二つが揃っていることは `SedaChain.DataProxy.FeeQueue`
で示す。

* store は `KeyMap` で持つ。`feeUpdateQueue` は値が `Unit` の `KeyMap` で、高さで絞った鍵の
  並び（`getFeeUpdateKeys`）は `entries` の並びとする。EndBlock の loop は相異なる鍵ごとに
  別の場所を書くので、並びは結果を変えない
* block height は `int64` で `Int` に持ち、適用の高さ `BlockHeight + int64(updateDelay)` は
  `addI64` で折り返す
* bank の送金と焼却、bech32 の読み取り、署名の検証と Keccak-256 は外の関数（`Env`）とする
* 失敗した message は store を変えない（SDK は失敗した tx の書き込みを捨てる）
-/

namespace SedaChain.DataProxy

open Infra Infra.Go SedaChain.App

/-! ## 定数と誤り -/

/-- `MaxUpdatesPerBlock`。 -/
def MaxUpdatesPerBlock : Nat := 25

/-- `DefaultMinFeeUpdateDelay`。block 時間 8.2 秒でおよそ一週間。 -/
def DefaultMinFeeUpdateDelay : UInt32 := 73750

/-- `LowestFeeUpdateDelay`。 -/
def LowestFeeUpdateDelay : UInt32 := 1

/-- `MaxMemoLength`。 -/
def MaxMemoLength : Nat := 3000

/-- `DoNotModifyField`。 -/
def DoNotModifyField : String := "[do-not-modify]"

/-- `UseMinimumDelay`。 -/
def UseMinimumDelay : UInt32 := 0

/-- `appparams.DefaultBondDenom`。 -/
def DefaultBondDenom : String := "aseda"

/-- `types.ModuleName`。 -/
def ModuleName : String := "data-proxy"

/-- `errorsmod.Wrap(err, msg)` の文言。 -/
def wrapf (err msg : String) : String := msg ++ ": " ++ err

/-- SDK の誤りの文言（`sdkerrors`）。 -/
def errInvalidRequest : String := "invalid request"
def errInvalidAddress : String := "invalid address"
def errNotFound : String := "not found"
def errInvalidSigner : String := "tx intended signer does not match the given signer"

/-- module の誤りの文言（`types/errors.go`）。 -/
def errAlreadyExists : String := "data proxy already exists"
def errInvalidSignature : String := "invalid signature"
def errInvalidDelay : String := "invalid update delay"
def errEmptyUpdate : String := "nothing to update"
def errMaxUpdatesReached : String := "max fee updates reached for block"

/-- nil pointer の参照の panic。 -/
def nilDereference : Fault :=
  .panic "runtime error: invalid memory address or nil pointer dereference"

/-! ## 型 -/

/-- `Params`。 -/
structure Params where
  MinFeeUpdateDelay : UInt32
  RegistrationFee : Coin
deriving DecidableEq, Repr

/-- `DefaultParams`。登録料は 50 SEDA（`50 * 10^18` aseda）。 -/
def DefaultParams : Params :=
  { MinFeeUpdateDelay := DefaultMinFeeUpdateDelay,
    RegistrationFee := ⟨DefaultBondDenom, 50 * 10 ^ 18⟩ }

/-- `Params.Validate`。 -/
def Params.Validate (p : Params) : Except Fault Unit :=
  if p.MinFeeUpdateDelay < LowestFeeUpdateDelay then
    throw (.error (wrapf errInvalidRequest
      s!"MinFeeUpdateDelay lower than {p.MinFeeUpdateDelay} < {LowestFeeUpdateDelay}"))
  else pure ()

theorem Params.Validate_eq_ok {p : Params} :
    p.Validate = .ok () ↔ LowestFeeUpdateDelay ≤ p.MinFeeUpdateDelay := by
  unfold Params.Validate
  by_cases h : p.MinFeeUpdateDelay < LowestFeeUpdateDelay
  · simp only [h, ↓reduceIte, throw_eq_error, reduceCtorEq, false_iff, UInt32.not_le]
  · simp only [h, ↓reduceIte, pure_eq_ok, true_iff]
    exact UInt32.not_lt.mp h

example : DefaultParams.Validate = .ok () := by decide

/-- `FeeUpdate`。`NewFee` は `*sdk.Coin` である。 -/
structure FeeUpdate where
  NewFee : Option Coin
  UpdateHeight : Int
deriving DecidableEq, Repr

/-- `ProxyConfig`。`Fee` は `*sdk.Coin`、`FeeUpdate` は `*FeeUpdate` である。 -/
structure ProxyConfig where
  PayoutAddress : String
  Fee : Option Coin
  Memo : String
  AdminAddress : String
  FeeUpdate : Option FeeUpdate
deriving DecidableEq, Repr

/-- `ValidateMemo`。長さは byte で数える。 -/
def ValidateMemo (memo : String) : Except Fault Unit :=
  if (strBytes memo).length > MaxMemoLength then
    throw (.error (wrapf errInvalidRequest
      s!"invalid memo length; got: {(strBytes memo).length}, max < {MaxMemoLength}"))
  else pure ()

/-- `ProxyConfig.Validate`。 -/
def ProxyConfig.Validate (p : ProxyConfig) : Except Fault Unit := ValidateMemo p.Memo

/-- `ProxyConfig.UpdateBasic`。`DoNotModifyField` でない payout address と memo を書き、検査する。 -/
def ProxyConfig.UpdateBasic (p : ProxyConfig) (payoutAddress memo : String) :
    Except Fault ProxyConfig := do
  let p := if payoutAddress ≠ DoNotModifyField then { p with PayoutAddress := payoutAddress } else p
  let p := if memo ≠ DoNotModifyField then { p with Memo := memo } else p
  p.Validate
  pure p

/-- `UpdateBasic` は手数料と予約と admin を変えない。 -/
theorem ProxyConfig.UpdateBasic_fields {p p' : ProxyConfig} {payoutAddress memo : String}
    (h : p.UpdateBasic payoutAddress memo = .ok p') :
    p'.Fee = p.Fee ∧ p'.FeeUpdate = p.FeeUpdate ∧ p'.AdminAddress = p.AdminAddress := by
  unfold ProxyConfig.UpdateBasic at h
  obtain ⟨_, -, h⟩ := bind_eq_ok.mp h
  cases h
  -- payout address と memo の書き込みは、どちらも他の field に触れない
  by_cases hp : payoutAddress = DoNotModifyField <;> by_cases hm : memo = DoNotModifyField <;>
    simp [hp, hm]

/-- `sdk.Coin.String`。 -/
def coinString (c : Coin) : String := toString c.Amount ++ c.Denom

/-- `sdk.NewCoins` に一枚の coin を渡したもの。0 の coin は捨てられる。 -/
def newCoins (c : Coin) : List Coin := if c.Amount = 0 then [] else [c]

/-! ## message -/

/-- `MsgRegisterDataProxy`。 -/
structure MsgRegisterDataProxy where
  AdminAddress : String
  PayoutAddress : String
  Fee : Option Coin
  Memo : String
  PubKey : String
  Signature : String
deriving DecidableEq, Repr

/-- `MsgEditDataProxy`。`FeeUpdateDelay` が `0` なら最小の遅れを使う。 -/
structure MsgEditDataProxy where
  Sender : String
  NewPayoutAddress : String
  NewMemo : String
  NewFee : Option Coin
  FeeUpdateDelay : UInt32
  PubKey : String
deriving DecidableEq, Repr

/-- `MsgTransferAdmin`。 -/
structure MsgTransferAdmin where
  Sender : String
  NewAdminAddress : String
  PubKey : String
deriving DecidableEq, Repr

/-- `MsgUpdateParams`。 -/
structure MsgUpdateParams where
  Authority : String
  Params : Params
deriving DecidableEq, Repr

/-- block の文脈のうち、data proxy が読むもの。 -/
structure Context where
  BlockHeight : Int
  ChainID : String
deriving DecidableEq, Repr

/--
keeper が呼ぶ外の関数と、`MsgUpdateParams` の authority。bank の関数は送金と焼却の成否だけを
返し、bank の残高は持たない。
-/
structure Env where
  authority : String
  AccAddressFromBech32 : String → Except String Bytes
  SendCoinsFromAccountToModule : Bytes → String → List Coin → Except String Unit
  BurnCoins : String → List Coin → Except String Unit
  VerifySignature : Bytes → Bytes → Bytes → Bool
  Keccak256 : Bytes → Bytes

section Validate

variable (env : Env)

/-- bech32 の読み取りの誤りを `ErrInvalidAddress` で包む。 -/
def checkAddress (what addr : String) : Except Fault Unit :=
  match env.AccAddressFromBech32 addr with
  | .ok _ => pure ()
  | .error _ => throw (.error (wrapf errInvalidAddress s!"{what}: {addr}"))

/-- `MsgRegisterDataProxy.ValidateBasic`。 -/
def MsgRegisterDataProxy.ValidateBasic (m : MsgRegisterDataProxy) : Except Fault Unit := do
  if m.PayoutAddress = "" then throw (.error (wrapf errInvalidRequest "empty payout address"))
  checkAddress env "invalid payout address" m.PayoutAddress
  let some fee := m.Fee | throw (.error (wrapf errInvalidRequest "empty fee"))
  if m.PubKey = "" then throw (.error (wrapf errInvalidRequest "empty public key"))
  if m.Signature = "" then throw (.error (wrapf errInvalidRequest "empty signature"))
  ValidateMemo m.Memo
  if fee.Denom ≠ DefaultBondDenom then
    throw (.error (wrapf errInvalidRequest
      s!"invalid coin denomination: got {fee.Denom}, expected {DefaultBondDenom}"))

/-- `MsgEditDataProxy.ValidateBasic`。 -/
def MsgEditDataProxy.ValidateBasic (m : MsgEditDataProxy) : Except Fault Unit := do
  if m.PubKey = "" then throw (.error (wrapf errInvalidRequest "empty public key"))
  if m.Sender = "" then throw (.error (wrapf errInvalidRequest "empty sender"))
  let hasNewPayoutAddress := m.NewPayoutAddress ≠ DoNotModifyField
  let hasNewMemo := m.NewMemo ≠ DoNotModifyField
  if ¬hasNewPayoutAddress ∧ ¬hasNewMemo ∧ m.NewFee = none then throw (.error errEmptyUpdate)
  if hasNewPayoutAddress then checkAddress env "invalid new payout address" m.NewPayoutAddress
  if let some newFee := m.NewFee then
    if newFee.Denom ≠ DefaultBondDenom then
      throw (.error (wrapf errInvalidRequest
        s!"invalid coin denomination: got {newFee.Denom}, expected {DefaultBondDenom}"))
  if hasNewMemo then ValidateMemo m.NewMemo

/-- `MsgTransferAdmin.Validate`。 -/
def MsgTransferAdmin.Validate (m : MsgTransferAdmin) : Except Fault Unit := do
  if m.Sender = "" then throw (.error (wrapf errInvalidRequest "empty sender"))
  if m.NewAdminAddress = "" then throw (.error (wrapf errInvalidRequest "empty admin address"))
  checkAddress env "invalid new admin address" m.NewAdminAddress

end Validate

/-! ## store -/

/-- data proxy の store：設定の表、手数料の変更の queue、parameter。 -/
structure State where
  dataProxyConfigs : KeyMap Bytes ProxyConfig
  feeUpdateQueue : KeyMap (Int × Bytes) Unit
  params : Params

namespace State

/-- `HasDataProxy`。 -/
def HasDataProxy (s : State) (pubKey : Bytes) : Bool := s.dataProxyConfigs.contains pubKey

/-- `GetDataProxyConfig`。無ければ `collections.ErrNotFound`。 -/
def GetDataProxyConfig (s : State) (pubKey : Bytes) : Except Fault ProxyConfig :=
  match s.dataProxyConfigs.get? pubKey with
  | some c => .ok c
  | none => .error Batching.errNotFound

/-- `SetDataProxyConfig`。 -/
def SetDataProxyConfig (s : State) (pubKey : Bytes) (c : ProxyConfig) : State :=
  { s with dataProxyConfigs := s.dataProxyConfigs.set pubKey c }

/-- `SetFeeUpdate`。 -/
def SetFeeUpdate (s : State) (height : Int) (pubKey : Bytes) : State :=
  { s with feeUpdateQueue := s.feeUpdateQueue.set (height, pubKey) () }

/-- `RemoveFeeUpdate`。 -/
def RemoveFeeUpdate (s : State) (height : Int) (pubKey : Bytes) : State :=
  { s with feeUpdateQueue := s.feeUpdateQueue.erase (height, pubKey) }

/-- `HasFeeUpdate`。 -/
def HasFeeUpdate (s : State) (height : Int) (pubKey : Bytes) : Bool :=
  s.feeUpdateQueue.contains (height, pubKey)

/-- `getFeeUpdateKeys`：高さ `height` の前置きの範囲の鍵。 -/
def getFeeUpdateKeys (s : State) (height : Int) : List (Int × Bytes) :=
  s.feeUpdateQueue.keys.filter (·.1 = height)

/-- `GetFeeUpdatePubKeys`。 -/
def GetFeeUpdatePubKeys (s : State) (activationHeight : Int) : List Bytes :=
  (s.getFeeUpdateKeys activationHeight).map (·.2)

@[simp] theorem SetDataProxyConfig_params (s : State) (pk : Bytes) (c : ProxyConfig) :
    (s.SetDataProxyConfig pk c).params = s.params := rfl
@[simp] theorem SetDataProxyConfig_feeUpdateQueue (s : State) (pk : Bytes) (c : ProxyConfig) :
    (s.SetDataProxyConfig pk c).feeUpdateQueue = s.feeUpdateQueue := rfl
@[simp] theorem SetFeeUpdate_params (s : State) (h : Int) (pk : Bytes) :
    (s.SetFeeUpdate h pk).params = s.params := rfl
@[simp] theorem SetFeeUpdate_dataProxyConfigs (s : State) (h : Int) (pk : Bytes) :
    (s.SetFeeUpdate h pk).dataProxyConfigs = s.dataProxyConfigs := rfl
@[simp] theorem RemoveFeeUpdate_params (s : State) (h : Int) (pk : Bytes) :
    (s.RemoveFeeUpdate h pk).params = s.params := rfl
@[simp] theorem RemoveFeeUpdate_dataProxyConfigs (s : State) (h : Int) (pk : Bytes) :
    (s.RemoveFeeUpdate h pk).dataProxyConfigs = s.dataProxyConfigs := rfl

theorem GetDataProxyConfig_eq_ok {s : State} {pk : Bytes} {c : ProxyConfig} :
    s.GetDataProxyConfig pk = .ok c ↔ s.dataProxyConfigs.get? pk = some c := by
  unfold GetDataProxyConfig
  split <;> simp_all

@[simp] theorem HasFeeUpdate_SetFeeUpdate (s : State) (h h' : Int) (pk pk' : Bytes) :
    (s.SetFeeUpdate h pk).HasFeeUpdate h' pk' = (h' = h ∧ pk' = pk ∨ s.HasFeeUpdate h' pk') := by
  simp [HasFeeUpdate, SetFeeUpdate, KeyMap.contains, KeyMap.get?_set]
  by_cases hh : h' = h <;> by_cases hp : pk' = pk <;> simp [hh, hp]

@[simp] theorem HasFeeUpdate_RemoveFeeUpdate (s : State) (h h' : Int) (pk pk' : Bytes) :
    (s.RemoveFeeUpdate h pk).HasFeeUpdate h' pk' = (s.HasFeeUpdate h' pk' ∧ ¬(h' = h ∧ pk' = pk)) := by
  simp [HasFeeUpdate, RemoveFeeUpdate, KeyMap.contains, KeyMap.get?_erase]
  by_cases hh : h' = h <;> by_cases hp : pk' = pk <;> simp [hh, hp]

@[simp] theorem HasFeeUpdate_SetDataProxyConfig (s : State) (pk : Bytes) (c : ProxyConfig)
    (h' : Int) (pk' : Bytes) :
    (s.SetDataProxyConfig pk c).HasFeeUpdate h' pk' = s.HasFeeUpdate h' pk' := rfl

/-- `getFeeUpdateKeys` の鍵は、queue にある高さ `height` の鍵である。 -/
theorem mem_getFeeUpdateKeys {s : State} {height : Int} {key : Int × Bytes} :
    key ∈ s.getFeeUpdateKeys height ↔ key.1 = height ∧ s.HasFeeUpdate key.1 key.2 = true := by
  simp only [getFeeUpdateKeys, List.mem_filter, decide_eq_true_eq, HasFeeUpdate, KeyMap.contains_iff]
  exact and_comm

theorem mem_GetFeeUpdatePubKeys {s : State} {height : Int} {pk : Bytes} :
    pk ∈ s.GetFeeUpdatePubKeys height ↔ s.HasFeeUpdate height pk = true := by
  simp only [GetFeeUpdatePubKeys, List.mem_map, mem_getFeeUpdateKeys]
  constructor
  · rintro ⟨⟨h, pk'⟩, ⟨rfl, hmem⟩, rfl⟩
    exact hmem
  · intro hmem
    exact ⟨(height, pk), ⟨rfl, hmem⟩, rfl⟩

/-- 同じ高さの鍵は公開鍵で分かれる。 -/
theorem nodup_GetFeeUpdatePubKeys (s : State) (height : Int) :
    (s.GetFeeUpdatePubKeys height).Nodup := by
  have hkeys : (s.getFeeUpdateKeys height).Nodup := s.feeUpdateQueue.nodup.filter _
  refine hkeys.map_on fun x hx y hy hxy => ?_
  rw [mem_getFeeUpdateKeys] at hx hy
  exact Prod.ext (hx.1.trans hy.1.symm) hxy

end State

/-! ## message の処理（`keeper/msg_server.go`） -/

section MsgServer

variable (env : Env)

/-- `GetDataProxyConfig` の `collections.ErrNotFound` を `ErrNotFound` で包む。 -/
def notRegistered (pubKey : String) (e : Fault) : Fault :=
  if e = Batching.errNotFound then .error (wrapf errNotFound s!"no data proxy registered for {pubKey}")
  else e

/-- 16 進の公開鍵を読む。 -/
def decodePubKey (what s : String) : Except Fault Bytes :=
  (Batching.decodeHex s).mapError fun e => .error (wrapf e s!"invalid hex in {what}: {s}")

/-- `RegisterDataProxy`。登録料を焼き、署名を確かめて、予約の無い設定を書く。 -/
def RegisterDataProxy (ctx : Context) (s : State) (msg : MsgRegisterDataProxy) :
    Except Fault State := do
  msg.ValidateBasic env
  let adminAddr ← (env.AccAddressFromBech32 msg.AdminAddress).mapError fun _ =>
    .error (wrapf errInvalidAddress s!"invalid admin address: {msg.AdminAddress}")
  -- 登録料を焼く
  let fee := newCoins s.params.RegistrationFee
  (env.SendCoinsFromAccountToModule adminAddr ModuleName fee).mapError Fault.error
  (env.BurnCoins ModuleName fee).mapError Fault.error
  let pubKeyBytes ← decodePubKey "pubkey" msg.PubKey
  let signatureBytes ← decodePubKey "signature" msg.Signature
  if s.HasDataProxy pubKeyBytes then throw (.error errAlreadyExists)
  let some msgFee := msg.Fee | throw nilDereference
  let payload := strBytes (coinString msgFee) ++ strBytes msg.AdminAddress ++
    strBytes msg.PayoutAddress ++ strBytes msg.Memo ++ strBytes ctx.ChainID
  if !env.VerifySignature pubKeyBytes (env.Keccak256 payload) signatureBytes then
    throw (.error (wrapf errInvalidSignature "Invalid data proxy registration signature"))
  let proxyConfig : ProxyConfig :=
    { PayoutAddress := msg.PayoutAddress, Fee := msg.Fee, Memo := msg.Memo,
      FeeUpdate := none, AdminAddress := msg.AdminAddress }
  proxyConfig.Validate
  pure (s.SetDataProxyConfig pubKeyBytes proxyConfig)

/--
`scheduleFeeUpdate`。適用の高さの予約の数を数えてから、前の予約を消し、新しい予約を書く。
結果は store と適用の高さ。
-/
def scheduleFeeUpdate (ctx : Context) (s : State) (pubKeyBytes : Bytes) (proxyConfig : ProxyConfig)
    (newFee : Coin) (updateDelay : UInt32) : Except Fault (State × Int) := do
  let updateHeight := addI64 ctx.BlockHeight updateDelay.toNat
  let feeUpdate : FeeUpdate := { NewFee := some newFee, UpdateHeight := updateHeight }
  let keys := s.getFeeUpdateKeys updateHeight
  if keys.length ≥ MaxUpdatesPerBlock then throw (.error errMaxUpdatesReached)
  -- 前の予約があれば消す
  let s := match proxyConfig.FeeUpdate with
    | some old => s.RemoveFeeUpdate old.UpdateHeight pubKeyBytes
    | none => s
  let proxyConfig := { proxyConfig with FeeUpdate := some feeUpdate }
  let s := s.SetFeeUpdate updateHeight pubKeyBytes
  pure (s.SetDataProxyConfig pubKeyBytes proxyConfig, updateHeight)

/-- `EditDataProxy` の遅れ。`UseMinimumDelay` なら parameter の最小の遅れ。 -/
def updateDelayOf (minimumUpdateDelay feeUpdateDelay : UInt32) : Except Fault UInt32 :=
  if feeUpdateDelay ≠ UseMinimumDelay then
    if feeUpdateDelay < minimumUpdateDelay then
      throw (.error (wrapf errInvalidDelay s!"minimum delay {minimumUpdateDelay}, got {feeUpdateDelay}"))
    else pure feeUpdateDelay
  else pure minimumUpdateDelay

/-- 遅れは最小の遅れを下回らない。 -/
theorem le_of_updateDelayOf_eq_ok {minimumUpdateDelay feeUpdateDelay d : UInt32}
    (h : updateDelayOf minimumUpdateDelay feeUpdateDelay = .ok d) : minimumUpdateDelay ≤ d := by
  unfold updateDelayOf at h
  split at h
  · split at h
    · cases h
    · next hlt =>
      cases h
      exact UInt32.not_lt.mp hlt
  · cases h
    exact UInt32.le_refl _

/--
`EditDataProxy`。payout address と memo を書き、新しい手数料があれば予約する。結果は store と
`FeeUpdateHeight`（予約しなければ 0）。
-/
def EditDataProxy (ctx : Context) (s : State) (msg : MsgEditDataProxy) :
    Except Fault (State × Int) := do
  msg.ValidateBasic env
  let pubKeyBytes ← decodePubKey "pubkey" msg.PubKey
  let proxyConfig ← (s.GetDataProxyConfig pubKeyBytes).mapError (notRegistered msg.PubKey)
  if msg.Sender ≠ proxyConfig.AdminAddress then throw (.error errInvalidSigner)
  let proxyConfig ← proxyConfig.UpdateBasic msg.NewPayoutAddress msg.NewMemo
  match msg.NewFee with
  | none =>
    -- 新しい手数料が無ければ、前の予約はそのまま残る
    pure (s.SetDataProxyConfig pubKeyBytes proxyConfig, 0)
  | some newFee =>
    let updateDelay ← updateDelayOf s.params.MinFeeUpdateDelay msg.FeeUpdateDelay
    scheduleFeeUpdate ctx s pubKeyBytes proxyConfig newFee updateDelay

/-- `TransferAdmin`。 -/
def TransferAdmin (s : State) (msg : MsgTransferAdmin) : Except Fault State := do
  msg.Validate env
  let pubKeyBytes ← decodePubKey "pubkey" msg.PubKey
  let proxyConfig ← (s.GetDataProxyConfig pubKeyBytes).mapError (notRegistered msg.PubKey)
  if msg.Sender ≠ proxyConfig.AdminAddress then throw (.error errInvalidSigner)
  pure (s.SetDataProxyConfig pubKeyBytes { proxyConfig with AdminAddress := msg.NewAdminAddress })

/-- `UpdateParams`。 -/
def UpdateParams (s : State) (msg : MsgUpdateParams) : Except Fault State := do
  checkAddress env "invalid authority address" msg.Authority
  if env.authority ≠ msg.Authority then
    throw (.error (wrapf errInvalidSigner
      s!"unauthorized authority; expected {env.authority}, got {msg.Authority}"))
  msg.Params.Validate
  pure { s with params := msg.Params }

end MsgServer

/-! ## EndBlock（`keeper/abci.go`） -/

/--
`ProcessFeeUpdates` の loop。公開鍵ごとに設定を読み、予約の手数料を手数料にして予約を消し、
queue の組を消す。設定が無ければ誤り、予約が無ければ nil の参照で panic する。
-/
def processFeeUpdates (blockHeight : Int) : List Bytes → State → Except Fault State
  | [], s => .ok s
  | pubkey :: pubkeys, s => do
    let proxyConfig ← s.GetDataProxyConfig pubkey
    match proxyConfig.FeeUpdate with
    | none => throw nilDereference
    | some feeUpdate =>
      let proxyConfig := { proxyConfig with Fee := feeUpdate.NewFee, FeeUpdate := none }
      let s := s.SetDataProxyConfig pubkey proxyConfig
      processFeeUpdates blockHeight pubkeys (s.RemoveFeeUpdate blockHeight pubkey)

/-- `ProcessFeeUpdates`：この block の高さに予約された変更を適用する。 -/
def ProcessFeeUpdates (ctx : Context) (s : State) : Except Fault State :=
  processFeeUpdates ctx.BlockHeight (s.GetFeeUpdatePubKeys ctx.BlockHeight) s

/-- `EndBlock`。 -/
def EndBlock (ctx : Context) (s : State) : Except Fault State := ProcessFeeUpdates ctx s

/-! ## genesis（`keeper/genesis.go`） -/

/-- `DataProxyConfig`：genesis の設定の記録。 -/
structure DataProxyConfig where
  DataProxyPubkey : Bytes
  Config : ProxyConfig
deriving DecidableEq, Repr

/-- `FeeUpdateQueueRecord`：genesis の queue の記録。 -/
structure FeeUpdateQueueRecord where
  UpdateHeight : Int
  DataProxyPubkey : Bytes
deriving DecidableEq, Repr

/-- `GenesisState`。 -/
structure GenesisState where
  Params : Params
  DataProxyConfigs : List DataProxyConfig
  FeeUpdateQueue : List FeeUpdateQueueRecord
deriving DecidableEq, Repr

/-- `DefaultGenesisState`。 -/
def DefaultGenesisState : GenesisState :=
  { Params := DefaultParams, DataProxyConfigs := [], FeeUpdateQueue := [] }

/-- `InitGenesis`。空の store に parameter、設定、queue の記録を順に書く。 -/
def InitGenesis (data : GenesisState) : State where
  dataProxyConfigs :=
    data.DataProxyConfigs.foldl (fun m r => m.set r.DataProxyPubkey r.Config) KeyMap.empty
  feeUpdateQueue :=
    data.FeeUpdateQueue.foldl (fun m r => m.set (r.UpdateHeight, r.DataProxyPubkey) ()) KeyMap.empty
  params := data.Params

end SedaChain.DataProxy
