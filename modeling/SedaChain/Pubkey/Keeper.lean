import SedaChain.Infra.KeyMap
import SedaChain.Infra.Bytes
import SedaChain.Infra.Go

/-!
# 公開鍵の登録と proving scheme（`x/pubkey`、`x/staking`、`x/slashing`）

validator は SEDA の公開鍵を登録する（`AddKey`、`CreateSEDAValidator`）。secp256k1 の proving scheme は、
鍵を登録した validator の voting power が閾値に届くと準備に入り、`ActivationBlockDelay` の後の end
block で有効になる（`EndBlock`）。有効になる時、鍵の無い validator を jail する（`JailValidators`）。
有効になった後は、鍵の無い validator は作れず（`CreateSEDAValidator`）、jail から戻れない（`Unjail`）。

状態（`State`）は pubkey module の collection と、それが読み書きする staking と slashing の状態と、
block の高さである。validator と公開鍵は、Go と同じく validator の operator address の byte 列で引く。

* proving scheme の状態は二つの field で三つを表す：有効（`IsActivated`）、準備中
  （`ActivationHeight` が `DefaultActivationHeight` でない）、待機
* `JailValidators` は途中で失敗すると、そこまでに jail した validator を残して止まる。`EndBlock` は
  誤りも panic も握りつぶすので、その時の store が残る。これを `Except State State` の誤りの側の
  store で表す
* tx の誤りは tx の書き込みを取り消すので、msg server の誤りは状態を変えない

cosmos-sdk の関数（validator の address の codec、`MsgCreateValidator.Validate`、staking の
`CreateValidator`、slashing の `Jail` と `Unjail`、`sdk.FormatInvariant`）と secp256k1 の公開鍵の読み取りは
`Sdk` の関数として受ける。証明が SDK に頼ることは `Sdk.Lawful` に名前を付けて書く。collection の符号化の
誤りは扱わない。
-/

namespace SedaChain.Pubkey

open Infra Infra.Go

/-! ## 型 -/

/-- `SEDAKeyIndexSecp256k1`。 -/
def SEDAKeyIndexSecp256k1 : UInt32 := 0

/-- `IndexedPubKey`。 -/
structure IndexedPubKey where
  Index : UInt32
  PubKey : Bytes
deriving DecidableEq, Repr

/-- `ProvingScheme`。 -/
structure ProvingScheme where
  Index : UInt32
  IsActivated : Bool
  ActivationHeight : Int
deriving DecidableEq, Repr

/-- `DefaultActivationHeight`。準備中でないことを表す。 -/
def DefaultActivationHeight : Int := -1

/-- `Params`。 -/
structure Params where
  ActivationBlockDelay : Int
  ActivationThresholdPercent : UInt32
deriving DecidableEq, Repr

def DefaultActivationBlockDelay : Int := 10500
def DefaultActivationThresholdPercent : UInt32 := 80

/-- `DefaultParams`。 -/
def DefaultParams : Params := ⟨DefaultActivationBlockDelay, DefaultActivationThresholdPercent⟩

/-- `errorsmod.Wrap(err, msg)` の文言。 -/
def wrapf (err msg : String) : String := msg ++ ": " ++ err

/-- SDK の誤りの文言。 -/
def errInvalidRequest : String := "invalid request"
def errInvalidAddress : String := "invalid address"
def errNotFound : String := "not found"
def errInvalidSigner : String := "tx intended signer does not match the given signer"
def errCollectionsNotFound : String := "collections: not found"

/-- `Params.Validate`。 -/
def Params.Validate (p : Params) : Except Fault Unit :=
  if p.ActivationBlockDelay < 0 then
    throw (.error (wrapf errInvalidRequest
      s!"ActivationBlockDelay should not be negative: {p.ActivationBlockDelay}"))
  else if p.ActivationThresholdPercent < 67 ∨ p.ActivationThresholdPercent > 100 then
    throw (.error (wrapf errInvalidRequest
      s!"ActivationThresholdPercent should be between 67 and 100: {p.ActivationThresholdPercent}"))
  else pure ()

example : DefaultParams.Validate = .ok () := by decide

/-- staking の validator。 -/
structure Validator where
  /-- operator address の文字列（bech32）。 -/
  OperatorAddress : String
  /-- `GetConsAddr` の結果。consensus の公開鍵が読めなければ `none` である。 -/
  ConsAddr : Option Bytes
  Jailed : Bool
deriving DecidableEq, Repr

/-- 状態。 -/
structure State where
  /-- `pubKeys`。（validator の operator address の byte 列、鍵の番号）から公開鍵へ。 -/
  pubKeys : KeyMap (Bytes × UInt32) Bytes
  /-- `provingSchemes`。鍵の番号から proving scheme へ。 -/
  provingSchemes : KeyMap UInt32 ProvingScheme
  params : Params
  /-- staking の validator。operator address の byte 列で引き、`GetAllValidators` はこの順に並べる。 -/
  validators : KeyMap Bytes Validator
  /-- `IterateLastValidatorPowers` が並べる、前の block の validator の address と voting power。 -/
  lastValidatorPowers : List (Bytes × Int)
  /-- `GetLastTotalPower`。 -/
  lastTotalPower : Int
  /-- `ctx.BlockHeight()`。 -/
  height : Int

/-! ## message と SDK -/

/-- `MsgAddKey`。 -/
structure MsgAddKey where
  ValidatorAddr : String
  IndexedPubKeys : List IndexedPubKey
deriving DecidableEq, Repr

set_option linter.dupNamespace false in
/-- `MsgCreateSEDAValidator`。ここで読むのは address と公開鍵である。 -/
structure MsgCreateSEDAValidator where
  ValidatorAddress : String
  /-- consensus の公開鍵の address。`Pubkey` が無ければ `none` である。 -/
  Pubkey : Option Bytes
  IndexedPubKeys : List IndexedPubKey
deriving DecidableEq, Repr

/-- cosmos-sdk と暗号の側の関数。 -/
structure Sdk where
  /-- `ethcrypto.UnmarshalPubkey` が公開鍵を受け付けるか。 -/
  UnmarshalPubkey : Bytes → Bool
  /-- validator の address の codec の `StringToBytes`（bech32 の復号）。 -/
  StringToBytes : String → Except String Bytes
  /-- SDK の `MsgCreateValidator.Validate`（address、手数料率、記述、自己委任の額の検査）。 -/
  ValidateMsgCreateValidator : MsgCreateSEDAValidator → Except Fault Unit
  /-- staking の msg server の `CreateValidator`。message の欄から作った `MsgCreateValidator` を受ける。 -/
  CreateValidator : State → MsgCreateSEDAValidator → Except Fault State
  /-- slashing の keeper の `Jail`。consensus address の validator を jail する。 -/
  Jail : State → Bytes → Except Fault State
  /-- slashing の msg server の `Unjail`。 -/
  Unjail : State → String → Except Fault State
  /-- `sdk.FormatInvariant`。 -/
  FormatInvariant : String → String → String → String

/--
SDK の関数について、ここでの証明が頼ること。どれも cosmos-sdk の定める振る舞いで、書き込むのは staking
の validator の表だけである。

* `Jail` が通れば、その consensus address の validator を jail した。consensus address の validator が
  ただ一つで jail されていなければ、`Jail` は通る
* `CreateValidator` が通れば、operator address を codec で復号でき、その address にも consensus の公開鍵
  にも validator は無く、jail されていない validator をその address に足した
* `Unjail` が通れば、address を codec で復号でき、そこにある validator を jail から戻した
-/
structure Sdk.Lawful (sdk : Sdk) : Prop where
  jail_eq_ok : ∀ s consAddr s', sdk.Jail s consAddr = .ok s' →
    ∃ k v, s.validators.get? k = some v ∧ v.ConsAddr = some consAddr ∧
      s' = { s with validators := s.validators.set k { v with Jailed := true } }
  jail_ok : ∀ s k v consAddr, s.validators.get? k = some v → v.ConsAddr = some consAddr → v.Jailed = false →
    (∀ k' v', s.validators.get? k' = some v' → v'.ConsAddr = some consAddr → k' = k) →
    ∃ s', sdk.Jail s consAddr = .ok s'
  createValidator_eq_ok : ∀ s msg s', sdk.CreateValidator s msg = .ok s' →
    ∃ valAddr, sdk.StringToBytes msg.ValidatorAddress = .ok valAddr ∧ s.validators.get? valAddr = none ∧
      (∀ k v, s.validators.get? k = some v → v.ConsAddr ≠ msg.Pubkey) ∧
      s' = { s with validators := s.validators.set valAddr ⟨msg.ValidatorAddress, msg.Pubkey, false⟩ }
  unjail_eq_ok : ∀ s valAddr s', sdk.Unjail s valAddr = .ok s' →
    ∃ a v, sdk.StringToBytes valAddr = .ok a ∧ s.validators.get? a = some v ∧
      s' = { s with validators := s.validators.set a { v with Jailed := false } }

namespace State

variable (sdk : Sdk) (s : State)

/-! ## pubkey の keeper -/

/-- `SetValidatorKeyAtIndex`。 -/
def SetValidatorKeyAtIndex (valAddr : Bytes) (index : UInt32) (pubKey : Bytes) : State :=
  { s with pubKeys := s.pubKeys.set (valAddr, index) pubKey }

/-- `StoreIndexedPubKeys`。鍵を順に書く。 -/
def StoreIndexedPubKeys (valAddr : Bytes) (pubKeys : List IndexedPubKey) : State :=
  pubKeys.foldl (fun s pk => s.SetValidatorKeyAtIndex valAddr pk.Index pk.PubKey) s

/-- `HasRegisteredKey`。 -/
def HasRegisteredKey (valAddr : Bytes) (index : UInt32) : Bool :=
  s.pubKeys.contains (valAddr, index)

/-- `SetProvingScheme`。 -/
def SetProvingScheme (scheme : ProvingScheme) : State :=
  { s with provingSchemes := s.provingSchemes.set scheme.Index scheme }

/-- `GetProvingScheme`。 -/
def GetProvingScheme (index : UInt32) : Except Fault ProvingScheme :=
  match s.provingSchemes.get? index with
  | some scheme => .ok scheme
  | none => .error (.error errCollectionsNotFound)

/-- `StartProvingSchemeActivation`。今の高さに `ActivationBlockDelay` を足した高さで有効にする。 -/
def StartProvingSchemeActivation (index : UInt32) : Except Fault State := do
  let scheme ← s.GetProvingScheme index
  let activationBlockDelay := s.params.ActivationBlockDelay
  pure (s.SetProvingScheme { scheme with ActivationHeight := s.height + activationBlockDelay })

/-- `CancelProvingSchemeActivation`。 -/
def CancelProvingSchemeActivation (index : UInt32) : Except Fault State := do
  let scheme ← s.GetProvingScheme index
  pure (s.SetProvingScheme { scheme with ActivationHeight := DefaultActivationHeight })

/-- `IsProvingSchemeActivated`。 -/
def IsProvingSchemeActivated (index : UInt32) : Except Fault Bool := do
  let scheme ← s.GetProvingScheme index
  pure scheme.IsActivated

/-- `GetActivationThresholdPercent`。 -/
def GetActivationThresholdPercent : UInt32 := s.params.ActivationThresholdPercent

/-! ## end block -/

/--
`CheckKeyRegistrationRate`。鍵を登録した validator の前の block の voting power の和の 100 倍が、
全体の power と閾値の積に 1 を足したもの以上か。
-/
def CheckKeyRegistrationRate (keyIndex : UInt32) : Bool :=
  let totalPower := s.lastTotalPower
  let powerSum := s.lastValidatorPowers.foldl (fun powerSum (valAddr, power) =>
    if s.HasRegisteredKey valAddr keyIndex then powerSum + power else powerSum) 0
  let activationThresholdPercent := s.GetActivationThresholdPercent
  let requiredPower := totalPower * (activationThresholdPercent.toNat : Int) + 1
  let gotPower := powerSum * 100
  decide (requiredPower ≤ gotPower)

/--
`JailValidators` の一回の繰り返し。operator address を復号し、鍵を登録していない validator を、jail されて
いなければ slashing の `Jail` で jail する。`val` は繰り返しの前に読んだ validator の写しである。誤りの時は
その時の store を返す。SDK の `Jail` が失敗した時は、書き込む前の store とする。
-/
def jailStep (keyIndex : UInt32) (s : State) (val : Validator) : Except State State :=
  match sdk.StringToBytes val.OperatorAddress with
  | .error _ => throw s
  | .ok valAddr =>
  if s.HasRegisteredKey valAddr keyIndex then pure s else
  match val.ConsAddr with
  | none => throw s
  | some consAddr =>
    if val.Jailed then pure s else
    match sdk.Jail s consAddr with
    | .ok s' => pure s'
    | .error _ => throw s

/-- `JailValidators`。`GetAllValidators` の validator を順に見る。 -/
def JailValidators (keyIndex : UInt32) : Except State State :=
  (s.validators.entries.map (·.2)).foldlM (jailStep sdk keyIndex) s

/--
`EndBlock`。有効でなければ、準備中で高さが `ActivationHeight` に届いた時に鍵の無い validator を jail
して有効にし、そうでなければ登録の割合を見て準備に入るか、準備をやめる。誤りは握りつぶすので、
誤りの時はその時の状態が残る。
-/
def EndBlock : State :=
  match s.GetProvingScheme SEDAKeyIndexSecp256k1 with
  | .error _ => s
  | .ok scheme =>
    if scheme.IsActivated then s else
    let activationInProgress := scheme.ActivationHeight ≠ DefaultActivationHeight
    if activationInProgress ∧ scheme.ActivationHeight ≤ s.height then
      match s.JailValidators sdk SEDAKeyIndexSecp256k1 with
      | .error s => s
      | .ok s =>
        s.SetProvingScheme { scheme with IsActivated := true, ActivationHeight := DefaultActivationHeight }
    else
      let met := s.CheckKeyRegistrationRate SEDAKeyIndexSecp256k1
      if ¬ activationInProgress ∧ met = true then
        match s.StartProvingSchemeActivation SEDAKeyIndexSecp256k1 with
        | .ok s => s
        | .error _ => s
      else if activationInProgress ∧ met = false then
        match s.CancelProvingSchemeActivation SEDAKeyIndexSecp256k1 with
        | .ok s => s
        | .error _ => s
      else s

end State

variable (sdk : Sdk)

/-- `sedaPubKeyValidators`。鍵の番号ごとの公開鍵の検査で、secp256k1 の番号だけがある。 -/
def sedaPubKeyValidators (index : UInt32) : Option (Bytes → Bool) :=
  if index = SEDAKeyIndexSecp256k1 then some sdk.UnmarshalPubkey else none

/-- `len(sedaPubKeyValidators)`。 -/
def sedaPubKeyValidatorsLength : Nat := 1

/--
`ValidateSEDAPubKeys`。鍵の数が検査の数と同じで、どの鍵も番号の検査を通ること。Go は検査の前に鍵を
番号の順に並べ替えるが、数が 1 でなければ失敗するので、並べ替えは結果を変えない。
-/
def ValidateSEDAPubKeys (indPubKeys : List IndexedPubKey) : Except String Unit :=
  if sedaPubKeyValidatorsLength ≠ indPubKeys.length then throw "invalid number of SEDA keys" else
  indPubKeys.forM fun indPubKey =>
    match sedaPubKeyValidators sdk indPubKey.Index with
    | none => throw s!"invalid SEDA key index {indPubKey.Index}"
    | some keyValidator =>
      if keyValidator indPubKey.PubKey then pure ()
      else throw s!"invalid public key at SEDA key index {indPubKey.Index}"

/-- `MsgAddKey.ValidateBasic`。 -/
def MsgAddKey.ValidateBasic (m : MsgAddKey) : Except Fault Unit :=
  if m.ValidatorAddr = "" then throw (.error (wrapf errInvalidRequest "empty validator address"))
  else pure ()

/-- 鍵の検査の誤りを request の誤りにする。 -/
def checkSEDAPubKeys (indPubKeys : List IndexedPubKey) : Except Fault Unit :=
  match ValidateSEDAPubKeys sdk indPubKeys with
  | .error err => throw (.error (wrapf errInvalidRequest s!"invalid SEDA keys: {err}"))
  | .ok () => pure ()

/-- operator address を復号する。失敗は `ErrInvalidAddress` である（`AddKey` と `CreateSEDAValidator`）。 -/
def validatorAddressBytes (valAddr : String) : Except Fault Bytes :=
  (sdk.StringToBytes valAddr).mapError fun err =>
    .error (wrapf errInvalidAddress s!"invalid validator address: {err}")

/-- `AddKey`。address を復号し、その address の validator が在れば、鍵を書く。 -/
def AddKey (s : State) (msg : MsgAddKey) : Except Fault State := do
  msg.ValidateBasic
  checkSEDAPubKeys sdk msg.IndexedPubKeys
  let valAddr ← validatorAddressBytes sdk msg.ValidatorAddr
  if (s.validators.get? valAddr).isNone then
    throw (.error (wrapf errNotFound s!"validator not found {msg.ValidatorAddr}"))
  pure (s.StoreIndexedPubKeys valAddr msg.IndexedPubKeys)

/-- `UpdateParams`。 -/
def UpdateParams (authority : String) (s : State) (msgAuthority : String) (params : Params) :
    Except Fault State := do
  if authority ≠ msgAuthority then
    throw (.error (wrapf errInvalidSigner s!"unauthorized authority; expected {authority}, got {msgAuthority}"))
  params.Validate
  pure { s with params := params }

/-- `MsgCreateSEDAValidator.Validate`。 -/
def MsgCreateSEDAValidator.Validate (msg : MsgCreateSEDAValidator) : Except Fault Unit :=
  if msg.Pubkey.isNone then throw (.error (wrapf errInvalidRequest "empty validator public key"))
  else sdk.ValidateMsgCreateValidator msg

/--
`CreateSEDAValidator`。address を復号し、鍵があれば検査してその address の下に書き、無ければ scheme が
有効な時に断る。その後で SDK の `CreateValidator` を呼ぶ。
-/
def CreateSEDAValidator (s : State) (msg : MsgCreateSEDAValidator) : Except Fault State := do
  MsgCreateSEDAValidator.Validate sdk msg
  let valAddr ← validatorAddressBytes sdk msg.ValidatorAddress
  let activated ← s.IsProvingSchemeActivated SEDAKeyIndexSecp256k1
  let s ← if 0 < msg.IndexedPubKeys.length then do
      checkSEDAPubKeys sdk msg.IndexedPubKeys
      pure (s.StoreIndexedPubKeys valAddr msg.IndexedPubKeys)
    else if activated then throw (.error (wrapf errInvalidRequest "SEDA public keys are required"))
    else pure s
  sdk.CreateValidator s msg

/--
`Unjail`。scheme が有効なら、address を復号し（失敗は panic）、鍵を登録した validator だけを SDK の
`Unjail` に渡す。
-/
def Unjail (s : State) (valAddr : String) : Except Fault State := do
  let isActivated ← s.IsProvingSchemeActivated SEDAKeyIndexSecp256k1
  if isActivated then
    let valAddrBytes ← (sdk.StringToBytes valAddr).mapError Fault.panic
    if !s.HasRegisteredKey valAddrBytes SEDAKeyIndexSecp256k1 then
      throw (.error (wrapf errInvalidRequest "validator has not registered required SEDA keys"))
  sdk.Unjail s valAddr

/-! ## staking の invariant -/

/--
bonded な validator を power の順に見て、鍵を登録していない最初の validator の operator address。
address を復号できなければ panic する。
-/
def firstViolator (s : State) : List String → Except Fault (Option String)
  | [] => pure none
  | operator :: rest => do
    let valAddr ← (sdk.StringToBytes operator).mapError Fault.panic
    if !s.HasRegisteredKey valAddr SEDAKeyIndexSecp256k1 then pure (some operator)
    else firstViolator s rest

/--
`PubKeyRegistrationInvariant`。scheme が有効なら、`IterateBondedValidatorsByPower` の並べる validator の
operator address（`bondedByPower`）のうちに鍵の無いものがあれば壊れていると報告する。scheme を読めなければ
panic する。
-/
def PubKeyRegistrationInvariant (s : State) (bondedByPower : List String) : Except Fault (String × Bool) := do
  let activated ← (s.IsProvingSchemeActivated SEDAKeyIndexSecp256k1).mapError fun _ => .panic errCollectionsNotFound
  let violator ← if activated then firstViolator sdk s bondedByPower else pure none
  let (broken, violator) := match violator with
    | some v => (true, v)
    | none => (false, "")
  pure (sdk.FormatInvariant "staking" "SEDA public key registration"
    s!"\tViolator, if any (may not be the only violator): {violator}\n", broken)

end SedaChain.Pubkey
