import SedaChain.Batching.Store

/-!
# vote extension の型（`app/abci`）

batch の署名を vote extension で集める ABCI handler が読み書きする型と、handler の外から
与えられる関数である。

* vote の block ID flag は CometBFT の四つの値で、数の表記を `BlockIDFlag.code` で持つ
* `ExtendedCommitInfo` は提案者が受け取った前の block の commit（vote extension 付き）、
  `CommitInfo` は context の last commit である
* context（`Ctx`）は block height、chain ID、vote extension を有効にする height、last commit
  を持つ。`HeaderInfo().Height` は `BlockHeight()` と同じ値なので一つの field で持つ
* staking と pubkey の keeper、validator address の codec は `Handlers` に、暗号の関数は
  `Crypto` に、JSON と protobuf の符号化は `Codec` に、どれも与えられた関数として持つ。
  tx の byte 列は JSON で読み書きするだけなので、その型 `Tx` と大きさを `Codec` で抽象する
-/

namespace SedaChain.Abci

open Infra Infra.Go SedaChain.Batching

/-! ## CometBFT の型 -/

/-- `BlockIDFlag`。 -/
inductive BlockIDFlag where
  | unknown
  | absent
  | commit
  | nil
deriving DecidableEq, Repr

/-- `int32(flag)`。 -/
def BlockIDFlag.code : BlockIDFlag → Int
  | .unknown => 0
  | .absent => 1
  | .commit => 2
  | .nil => 3

/-- `abci.Validator`。 -/
structure Validator where
  Address : Bytes
  Power : Int
deriving DecidableEq, Repr

/-- `abci.ExtendedVoteInfo`。 -/
structure ExtendedVoteInfo where
  Validator : Validator
  VoteExtension : Bytes
  ExtensionSignature : Bytes
  BlockIdFlag : BlockIDFlag
deriving DecidableEq, Repr

/-- `abci.ExtendedCommitInfo`。`Round` は `int32`。 -/
structure ExtendedCommitInfo where
  Round : Int
  Votes : List ExtendedVoteInfo
deriving DecidableEq, Repr

/-- last commit の vote（`comet.VoteInfo`）。 -/
structure VoteInfo where
  Validator : Validator
  BlockIdFlag : BlockIDFlag
deriving DecidableEq, Repr

/-- last commit（`comet.CommitInfo`）。 -/
structure CommitInfo where
  Round : Int
  Votes : List VoteInfo
deriving DecidableEq, Repr

/-- `cmtproto.CanonicalVoteExtension`。CometBFT の extension 署名が署名する内容。 -/
structure CanonicalVoteExtension where
  Extension : Bytes
  Height : Int
  Round : Int
  ChainId : String
deriving DecidableEq, Repr

/-- CometBFT の `types.MaxTotalVotingPower`（`MaxInt64 / 8`）。 -/
def MaxTotalVotingPower : Int := 9223372036854775807 / 8

/--
CometBFT が last commit について保証すること。validator の voting power は負でなく、
その和は `MaxTotalVotingPower` を超えない。
-/
structure CommitInfo.PowerBounded (lc : CommitInfo) : Prop where
  nonneg : ∀ v ∈ lc.Votes, 0 ≤ v.Validator.Power
  total_le : (lc.Votes.map (·.Validator.Power)).sum ≤ MaxTotalVotingPower

/-! ## context -/

/-- handler が context から読むもの。 -/
structure Ctx where
  BlockHeight : Int
  ChainID : String
  /-- consensus param の `Abci`。nil なら `none`、あれば `VoteExtensionsEnableHeight`。 -/
  VoteExtensionsEnableHeight : Option Int
  LastCommit : CommitInfo
deriving DecidableEq, Repr

/--
`IsVoteExtensionsEnabled`。有効にする height が 0 でなく、それより後の block で、しかも
最初の block でないときに限る。
-/
def IsVoteExtensionsEnabled (ctx : Ctx) : Bool :=
  match ctx.VoteExtensionsEnableHeight with
  | none => false
  | some enableHeight =>
    if enableHeight = 0 then false
    else if ctx.BlockHeight ≤ 1 then false
    else decide (enableHeight < ctx.BlockHeight)

/-! ## 定数と誤り -/

/-- batch を作った height から、署名する height と集める height までの差。 -/
def BlockOffsetSignPhase : Int := -1
def BlockOffsetCollectPhase : Int := -2

/-- vote extension の長さの下限と上限。 -/
def MinVoteExtensionLength : Nat := 65
def MaxVoteExtensionLength : Nat := 65 * 5

def ErrVoteExtensionTooLong : Fault := .error "vote extension exceeds max length"
def ErrVoteExtensionTooShort : Fault := .error "vote extension is too short"
def ErrVoteExtensionInjectionTooBig : Fault := .error "injected vote extensions are too big"
def ErrInvalidBatchSignature : Fault := .error "batch signature is invalid"
def ErrUnexpectedBatchSignature : Fault := .error "batch signature should be empty"
def ErrNoInjectedExtendedVotesTx : Fault := .error "no injected extended votes tx"

/-! ## 与えられる関数 -/

/-- 暗号の関数。 -/
structure Crypto where
  /-- Keccak-256。 -/
  keccak : Bytes → Bytes
  /-- `crypto.ValidateSignatureValues(v, r, s, homestead)`。 -/
  ValidateSignatureValues : UInt8 → Nat → Nat → Bool → Bool
  /-- `crypto.Ecrecover(hash, sig)`。非圧縮の公開鍵を返す。 -/
  Ecrecover : Bytes → Bytes → Except Fault Bytes
  /-- `cryptoenc.PubKeyFromProto`。 -/
  PubKeyFromProto : Bytes → Except String Bytes
  /-- CometBFT の公開鍵の `VerifySignature(msg, sig)`。 -/
  VerifySignature : Bytes → Bytes → Bytes → Bool

/-- 符号化。JSON の tx と、protobuf の表記。 -/
structure Codec (Tx : Type) where
  /-- `json.Marshal` の `ExtendedCommitInfo`。 -/
  Marshal : ExtendedCommitInfo → Tx
  /-- `json.Unmarshal` の `ExtendedCommitInfo`。 -/
  Unmarshal : Tx → Except Fault ExtendedCommitInfo
  /-- tx の byte 数（`len`）。 -/
  size : Tx → Int
  /-- 長さを前に付けた protobuf の表記（`marshalDelimitedFn`）。 -/
  MarshalDelimited : CanonicalVoteExtension → Bytes
  /-- `Validator.String()`（protobuf の text 表記）。 -/
  ValidatorString : Validator → String

/-- `ProcessProposal` の返す status。 -/
inductive ProposalStatus where
  | accept
  | reject
deriving DecidableEq, Repr

/-- `RequestPrepareProposal` のうち handler が読むもの。`Txs` は mempool の tx。 -/
structure PrepareRequest (Tx : Type) where
  LocalLastCommit : ExtendedCommitInfo
  MaxTxBytes : Int
  Txs : List Tx

/--
`Handlers`。既定の proposal handler と、staking、pubkey の keeper と validator address の
codec である。batching keeper は `Store` として別に渡す。
-/
structure Handlers (Tx : Type) where
  defaultPrepareProposal : Ctx → PrepareRequest Tx → Except Fault (List Tx)
  defaultProcessProposal : Ctx → List Tx → Except Fault ProposalStatus
  /-- staking keeper の `GetValidatorByConsAddr` が返す validator の `OperatorAddress`。 -/
  GetValidatorByConsAddr : Bytes → Except Fault String
  /-- staking keeper の `GetPubKeyByConsAddr`。 -/
  GetPubKeyByConsAddr : Bytes → Except Fault Bytes
  /-- `validatorAddressCodec.StringToBytes`。 -/
  StringToBytes : String → Except Fault Bytes
  /-- pubkey keeper の `GetValidatorKeyAtIndex`（index は `SEDAKeyIndexSecp256k1`）。 -/
  GetValidatorKeyAtIndex : Bytes → Except Fault Bytes

/-! ## store から読むもの -/

/-- `GetBatchForHeight` の誤りは `ErrNotFound` だけである。 -/
theorem GetBatchForHeight_error {s : Store} {height : Int} {err : Fault}
    (h : s.GetBatchForHeight height = .error err) : err = errNotFound := by
  unfold Store.GetBatchForHeight at h
  split at h
  · cases h
  · cases h
    rfl

/-- `GetValidatorTreeEntry` の誤りは `ErrNotFound` だけで、entry が無いときに限る。 -/
theorem GetValidatorTreeEntry_error {s : Store} {n : Nat} {valAddr : Bytes} {err : Fault}
    (h : s.GetValidatorTreeEntry n valAddr = .error err) :
    err = errNotFound ∧ s.validatorTreeEntries.get? (n, valAddr) = none := by
  unfold Store.GetValidatorTreeEntry at h
  split at h
  · cases h
  · next hnone =>
    cases h
    exact ⟨rfl, hnone⟩

end SedaChain.Abci
