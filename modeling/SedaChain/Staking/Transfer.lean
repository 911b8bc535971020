import SedaChain.Staking.Types
import SedaChain.Infra.IndexLoop

/-!
# `TransferDelegation` と `TransferUnbonding`

`x/staking/keeper/keeper.go` の二つの移転を、Go の制御の流れのまま書く。

* `TransferDelegation` は、`wantShares` が正でない、validator か移し元の delegation が無い、
  `mightExceedLimit` が立つ、のどれかで 0 を返す。それを過ぎると移す量を `transferred` に決め、
  移し先と移し元の delegation を書き換え、移し元の `valAddr` への redelegation の entry を、
  残った share を cover として前から順に残すか送るかに分ける
* hook が失敗すると、その時の store と `transferred` を、誤り無しで返す（Go の `return transferred, nil`）
* `TransferUnbonding` は移し元の unbonding の entry を前から順に、`wantAmt` が尽きるか移し先の entry が
  上限に達するまで移す

Go の二つの添字の loop は、entry を消した時に `i--` して同じ添字をもう一度見る。これを
`Infra.indexLoop` の一回の繰り返し（`entryBody`、`ubdBody`）として書き、fuel に entry の数を渡す
（`Infra.indexLoop_length` により、これで足りる）。

store への書き込みの失敗、bech32 の変換の失敗と、`sdkmath.Int` の 256 bit の桁あふれは扱わない。
したがって `TransferDelegation` の誤りは `Quo` の 0 での割り算の panic だけである。
-/

namespace SedaChain.Staking

open Infra Infra.Go LegacyDec

/-- `math.MaxUint16`。`GetRedelegations` に渡す上限である。 -/
def MaxUint16 : Nat := 65535

/-! ## 早く返す判定 -/

/--
`mightExceedLimit`。移し元の redelegation のうち `valAddr` へのものについて、その記録と、
`GetRedelegation fromAddr` で引き直した記録の entry の数の和が `MaxEntries` 以上なら真。
-/
def mightExceedLimit (s : Store) (fromAddr valAddr : String) : Bool :=
  (s.delegatorRedelegations fromAddr).any fun toRedelegation =>
    toRedelegation.ValidatorDstAddress == valAddr &&
      match s.GetRedelegation fromAddr toRedelegation.ValidatorSrcAddress
          toRedelegation.ValidatorDstAddress with
      | .ok fromRedelegation =>
        decide (s.MaxEntries ≤ toRedelegation.Entries.length + fromRedelegation.Entries.length)
      | .error _ => false

/-! ## delegation の書き換え

hook の失敗で打ち切る段は `Except Store Store` を返す。`.error s` は打ち切った時の store、
`.ok s` は次の段に渡す store である。
-/

/-- 移し先の delegation を引くか、無ければ 0 の share で作り、対応する hook の結果と組にする。 -/
def delTo (h : Hooks) (s : Store) (toAddr valAddr : String) (validator : Validator) :
    Delegation × Except String Unit :=
  match s.GetDelegation toAddr valAddr with
  | .error _ => (⟨toAddr, validator.OperatorAddress, LegacyZeroDec⟩,
      h.BeforeDelegationCreated s toAddr valAddr)
  | .ok delTo => (delTo, h.BeforeDelegationSharesModified s toAddr valAddr)

/-- 移し先の delegation に `transferred` を足して書き、`AfterDelegationModified` を呼ぶ。 -/
def updateDestination (h : Hooks) (s : Store) (toAddr valAddr : String) (validator : Validator)
    (transferred : LegacyDec) : Except Store Store :=
  match delTo h s toAddr valAddr validator with
  | (_, .error _) => .error s
  | (d, .ok ()) =>
    let s := s.SetDelegation { d with Shares := d.Shares.Add transferred }
    match h.AfterDelegationModified s toAddr valAddr with
    | .error _ => .error s
    | .ok () => .ok s

/-- 移し元の delegation を、残りが 0 なら消し、そうでなければ残りの share で書き直す。 -/
def updateSource (h : Hooks) (s : Store) (fromAddr valAddr : String) (delFrom : Delegation)
    (remaining : LegacyDec) : Except Store Store :=
  if remaining.IsZero then
    match h.BeforeDelegationRemoved s fromAddr valAddr with
    | .error _ => .error s
    | .ok () => .ok (s.RemoveDelegation delFrom)
  else
    match h.BeforeDelegationSharesModified s fromAddr valAddr with
    | .error _ => .error s
    | .ok () =>
      let s := s.SetDelegation { delFrom with Shares := remaining }
      match h.AfterDelegationModified s fromAddr valAddr with
      | .error _ => .error s
      | .ok () => .ok s

/-! ## redelegation の entry の分割 -/

/-- 一つの entry の行き先。 -/
inductive EntryOutcome where
  /-- 送る share が無い。entry はそのまま残る。 -/
  | leave
  /-- 全部送った。entry は消え、`sent` を移し先に足す。 -/
  | moved (sent : RedelegationEntry)
  /-- 分けた。`kept` を残し、`sent` を移し先に足す。 -/
  | split (kept sent : RedelegationEntry)
deriving DecidableEq, Repr

/--
一つの entry を cover `remaining` で分ける、store に触れない部分。残す share は `SharesDst` と
cover の小さい方で、残りを送る。両方が 0 でなければ `InitialBalance` を送る share の比で分ける。
返すのは減った cover と entry の行き先である。
-/
def splitEntry (remaining : LegacyDec) (entry : RedelegationEntry) :
    Except Fault (LegacyDec × EntryOutcome) := do
  let (sharesToKeep, sharesToSend) :=
    if entry.SharesDst.GT remaining then (remaining, entry.SharesDst.Sub remaining)
    else (entry.SharesDst, LegacyZeroDec)
  let remaining := remaining.Sub sharesToKeep
  if sharesToSend.IsZero then
    pure (remaining, .leave)
  else if sharesToKeep.IsZero then
    pure (remaining,
      .moved ⟨entry.CreationHeight, entry.CompletionTime, entry.InitialBalance, sharesToSend⟩)
  else
    let fracSending ← sharesToSend.Quo entry.SharesDst
    let balanceToSend := (fracSending.MulInt entry.InitialBalance).TruncateInt
    let balanceToKeep := entry.InitialBalance - balanceToSend
    pure (remaining,
      .split { entry with InitialBalance := balanceToKeep, SharesDst := sharesToKeep }
        ⟨entry.CreationHeight, entry.CompletionTime, balanceToSend, sharesToSend⟩)

/-- 送る entry を移し先の記録に足し（`SetRedelegationEntry`）、redelegation の queue に入れる。 -/
def sendEntry (sdk : Sdk) (toAddr valSrcAddr valDstAddr : String) (s : Store) (sent : RedelegationEntry) :
    Store :=
  let (s, toRed) := sdk.SetRedelegationEntry s toAddr valSrcAddr valDstAddr sent.CreationHeight
    sent.CompletionTime sent.InitialBalance LegacyZeroDec sent.SharesDst
  s.InsertRedelegationQueue toRed sent.CompletionTime

/-- redelegation の entry の loop が持ち回る値。store、cover と二つの旗である。 -/
structure EntryAcc where
  store : Store
  remaining : LegacyDec
  redelegationModified : Bool
  entriesRemaining : Bool

/-- entry の loop の一回の繰り返し。 -/
def entryBody (sdk : Sdk) (toAddr valSrcAddr valDstAddr : String) (acc : EntryAcc)
    (entry : RedelegationEntry) :
    Except Fault (EntryAcc × LoopStep RedelegationEntry) := do
  let (remaining, out) ← splitEntry acc.remaining entry
  match out with
  | .leave => pure ({ acc with remaining, entriesRemaining := true }, .keep entry)
  -- `RemoveEntry(i)` の後の `i--`
  | .moved sent =>
    pure (⟨sendEntry sdk toAddr valSrcAddr valDstAddr acc.store sent, remaining, true,
      acc.entriesRemaining⟩, .drop)
  | .split kept sent =>
    pure (⟨sendEntry sdk toAddr valSrcAddr valDstAddr acc.store sent, remaining, true, true⟩, .keep kept)

/--
一つの redelegation の記録の処理。`valAddr` への記録でなければ飛ばす。entry の loop の後、
記録を変えていれば、entry が残っていれば書き、残っていなければ消す。
-/
def redelegationStep (sdk : Sdk) (toAddr valAddr : String) (acc : Store × LegacyDec)
    (redelegation : Redelegation) : Except Fault (Store × LegacyDec) :=
  if redelegation.ValidatorDstAddress ≠ valAddr then pure acc
  else do
    let (st, entries) ← indexLoop
      (entryBody sdk toAddr redelegation.ValidatorSrcAddress redelegation.ValidatorDstAddress)
      redelegation.Entries.length ⟨acc.1, acc.2, false, false⟩ redelegation.Entries 0
    let redelegation := { redelegation with Entries := entries }
    let s := if st.redelegationModified then
        (if st.entriesRemaining then st.store.SetRedelegation redelegation
         else st.store.RemoveRedelegation redelegation)
      else st.store
    pure (s, st.remaining)

/-- 移し元の redelegation を前から順に処理する。cover は記録をまたいで減っていく。 -/
def transferRedelegations (sdk : Sdk) (s : Store) (fromAddr toAddr valAddr : String)
    (remaining : LegacyDec) :
    Except Fault Store := do
  let redelegations := s.GetRedelegations fromAddr MaxUint16
  let (s, _) ← redelegations.foldlM (redelegationStep sdk toAddr valAddr) (s, remaining)
  pure s

/-! ## `TransferDelegation` -/

/-- 移す share。持っている share と `wantShares` の小さい方である。 -/
def transferAmount (shares wantShares : LegacyDec) : LegacyDec :=
  if shares.GT wantShares then wantShares else shares

/-- `TransferDelegation`。移した後の store と、返す share の量。 -/
def TransferDelegation (h : Hooks) (sdk : Sdk) (s : Store) (fromAddr toAddr valAddr : String)
    (wantShares : LegacyDec) : Except Fault (Store × LegacyDec) :=
  if !wantShares.IsPositive then pure (s, LegacyZeroDec) else
  match s.GetValidator valAddr with
  | .error _ => pure (s, LegacyZeroDec)
  | .ok validator =>
  match s.GetDelegation fromAddr valAddr with
  | .error _ => pure (s, LegacyZeroDec)
  | .ok delFrom =>
  if mightExceedLimit s fromAddr valAddr then pure (s, LegacyZeroDec) else
  let transferred := transferAmount delFrom.Shares wantShares
  let remaining := delFrom.Shares.Sub transferred
  match updateDestination h s toAddr valAddr validator transferred >>= fun s =>
      updateSource h s fromAddr valAddr delFrom remaining with
  | .error s => pure (s, transferred)
  | .ok s => do
    let s ← transferRedelegations sdk s fromAddr toAddr valAddr remaining
    pure (s, transferred)

/-! ## `TransferUnbonding` -/

/-- unbonding の entry の loop が持ち回る値。 -/
structure UbdAcc where
  store : Store
  wantAmt : Int
  transferred : Int
  ubdFromModified : Bool

/-- unbonding の entry の loop の一回の繰り返し。 -/
def ubdBody (sdk : Sdk) (toAddr valAddr : String) (acc : UbdAcc) (entry : UnbondingDelegationEntry) :
    Id (UbdAcc × LoopStep UnbondingDelegationEntry) :=
  -- loop の条件 `wantAmt.IsPositive()`
  if ¬ 0 < acc.wantAmt then pure (acc, .stop) else
  let toXfer := if acc.wantAmt < entry.Balance then acc.wantAmt else entry.Balance
  -- `continue`
  if ¬ 0 < toXfer then pure (acc, .keep entry) else
  -- 移し先の entry が上限なら `break`
  if sdk.HasMaxUnbondingDelegationEntries acc.store toAddr valAddr then pure (acc, .stop) else
  let (s, ubdTo) := sdk.SetUnbondingDelegationEntry acc.store toAddr valAddr entry.CreationHeight
    entry.CompletionTime toXfer
  let acc' : UbdAcc :=
    ⟨s.InsertUBDQueue ubdTo entry.CompletionTime, acc.wantAmt - toXfer, acc.transferred + toXfer, true⟩
  let remaining := entry.Balance - toXfer
  if remaining = 0 then pure (acc', .drop)
  else pure (acc', .keep { entry with Balance := remaining })

/--
`TransferUnbonding`。移し元に unbonding delegation が無ければその誤りを返す（Go は 0 と誤りを返す）。
そうでなければ移した後の store と移した量を返す。
-/
def TransferUnbonding (sdk : Sdk) (s : Store) (fromAddr toAddr valAddr : String) (wantAmt : Int) :
    Except String (Store × Int) :=
  match s.GetUnbondingDelegation fromAddr valAddr with
  | .error err => .error err
  | .ok ubdFrom =>
    let (acc, entries) := Id.run <| indexLoop (ubdBody sdk toAddr valAddr) ubdFrom.Entries.length
      ⟨s, wantAmt, 0, false⟩ ubdFrom.Entries 0
    let ubdFrom := { ubdFrom with Entries := entries }
    let s := if acc.ubdFromModified then
        (if ubdFrom.Entries = [] then acc.store.RemoveUnbondingDelegation ubdFrom
         else acc.store.SetUnbondingDelegation ubdFrom)
      else acc.store
    .ok (s, acc.transferred)

end SedaChain.Staking
