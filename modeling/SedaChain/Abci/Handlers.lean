import SedaChain.Abci.Utils
import SedaChain.Batching.Run

/-!
# vote extension の handler（`app/abci/handlers.go`）

height `H - 1` で作られた batch に validator が署名し（`ExtendVote`、`VerifyVoteExtension`）、
その署名を height `H` の提案者が commit ごと注入し（`PrepareProposal`）、validator が確かめ
（`ProcessProposal`）、`PreBlocker` が store に書く。

* `verifyBatchSignatures` — extension の長さ、validator の operator address、期待する
  Ethereum address（最初の batch では登録された secp256k1 鍵、以後は一つ前の validator 木の
  entry）を求め、先頭 65 byte の署名を確かめる。一つ前の木に無い validator は、extension が
  空なら通る
* `PrepareProposalHandler` — 確かめられない vote を absent にして extension と署名を消し、
  その commit を検査してから先頭に注入する
* `ProcessProposalHandler` — 注入された commit を検査し、commit の vote の署名を確かめる
* `PreBlocker` — absent でなく extension のある vote の extension を、operator address の
  署名として書く

handler の返す `Except Fault` の誤りは、Go の `(nil, err)` と `(REJECT, err)` である。

次を示す。

* `checkBatchSignature_eq_ok_iff`、**`verifyBatchSignatures_eq_ok_iff`** — 署名の検査が通る条件
* `PreBlocker_eq_storeBatchSignatures` — 集める batch があるとき、`PreBlocker` は
  `voteSignatures` を書く
* **`Reachable.PreBlocker`** — 成功した `PreBlocker` は batching の走りの `storeSignatures` の
  一歩で、届く状態を届く状態に移す
* `ProcessProposalHandler_eq_ok` と `ProcessProposalHandler_injected` — 注入を読む
  `ProcessProposal` の通る条件と、そのときの結果
-/

namespace SedaChain.Abci

open Infra Infra.Go SedaChain.Batching

variable {Tx : Type} (h : Handlers Tx) (crypto : Crypto) (codec : Codec Tx)

/-! ## batch の署名の検査 -/

/-- validator の operator address。consensus address から validator を引き、address を読む。 -/
def operatorAddress (consAddr : Bytes) : Except Fault Bytes := do
  let operatorAddr ← h.GetValidatorByConsAddr consAddr
  h.StringToBytes operatorAddr

/-- `verifyBatchSignatures` の後半。長さ、low-s、戻した公開鍵の address を確かめる。 -/
def checkBatchSignature (batchID voteExtension expectedAddr : Bytes) : Except Fault Unit := do
  if voteExtension.length < MinVoteExtensionLength then throw ErrVoteExtensionTooShort
  let signature := voteExtension.take 65
  let r := getUintBE (signature.take 32)
  let s := getUintBE ((signature.drop 32).take 32)
  let v := signature.getD 64 0
  -- 署名は low-s の形でなければならない
  if !crypto.ValidateSignatureValues v r s true then throw ErrInvalidBatchSignature
  let sigPubKey ← crypto.Ecrecover batchID signature
  let sigAddr ← (PubKeyToEthAddress crypto.keccak sigPubKey).mapError .error
  if expectedAddr ≠ sigAddr then throw ErrInvalidBatchSignature

/-- **`verifyBatchSignatures`**。 -/
def verifyBatchSignatures (s : Store) (batchNum : Nat) (batchID voteExtension consAddr : Bytes) :
    Except Fault Unit := do
  if voteExtension.length > MaxVoteExtensionLength then throw ErrVoteExtensionTooLong
  let valOper ← operatorAddress h consAddr
  if batchNum = 0 then
    let pubKey ← h.GetValidatorKeyAtIndex valOper
    let expectedAddr ← (PubKeyToEthAddress crypto.keccak pubKey).mapError .error
    checkBatchSignature crypto batchID voteExtension expectedAddr
  else
    match s.GetValidatorTreeEntry (batchNum - 1) valOper with
    | .ok valEntry => checkBatchSignature crypto batchID voteExtension valEntry.EthAddress
    | .error err =>
      -- 一つ前の木に無い validator は、新しく加わったもので、署名しない
      if err = errNotFound then
        if voteExtension.length = 0 then pure () else throw ErrUnexpectedBatchSignature
      else throw err

/-! ## handler -/

/-- `RequestVerifyVoteExtension` のうち handler が読むもの。 -/
structure VerifyRequest where
  VoteExtension : Bytes
  ValidatorAddress : Bytes

/-- `ResponseVerifyVoteExtension` の status。 -/
inductive VerifyStatus where
  | accept
  | reject
deriving DecidableEq, Repr

/--
**`VerifyVoteExtensionHandler`**。署名する batch が無ければ、空の extension だけを受ける。
-/
def VerifyVoteExtensionHandler (ctx : Ctx) (s : Store) (req : VerifyRequest) :
    Except Fault VerifyStatus :=
  match s.GetBatchForHeight (addI64 ctx.BlockHeight BlockOffsetSignPhase) with
  | .error err =>
    if err = errNotFound then
      if req.VoteExtension = [] then pure .accept else pure .reject
    else throw err
  | .ok batch => do
    verifyBatchSignatures h crypto s batch.BatchNumber batch.BatchId req.VoteExtension
      req.ValidatorAddress
    pure .accept

/-- 確かめられない vote を absent にし、extension と署名を消す。 -/
def pruneVote (s : Store) (batch : Batch) (vote : ExtendedVoteInfo) : ExtendedVoteInfo :=
  match verifyBatchSignatures h crypto s batch.BatchNumber batch.BatchId vote.VoteExtension
      vote.Validator.Address with
  | .ok () => vote
  | .error _ => { vote with BlockIdFlag := .absent, ExtensionSignature := [], VoteExtension := [] }

/--
**`PrepareProposalHandler`**。集める batch があり vote extension が有効なら、刈り込んだ
commit を検査し、符号化して既定の handler の tx の前に置く。
-/
def PrepareProposalHandler (ctx : Ctx) (s : Store) (req : PrepareRequest Tx) :
    Except Fault (List Tx) := do
  let collect ← match s.GetBatchForHeight (addI64 ctx.BlockHeight BlockOffsetCollectPhase) with
    | .ok batch => pure (some batch)
    | .error err => if err = errNotFound then pure none else throw err
  match IsVoteExtensionsEnabled ctx, collect with
  | true, some batch =>
    let localLastCommit :=
      { req.LocalLastCommit with Votes := req.LocalLastCommit.Votes.map (pruneVote h crypto s batch) }
    -- 刈り込んだ後も三分の二の power があることを確かめる
    (ValidateVoteExtensions h crypto codec ctx localLastCommit).mapError .error
    let injection := codec.Marshal localLastCommit
    let injectionSize := codec.size injection
    if injectionSize > req.MaxTxBytes then throw ErrVoteExtensionInjectionTooBig
    let defaultTxs ← h.defaultPrepareProposal ctx
      { req with LocalLastCommit := localLastCommit, MaxTxBytes := req.MaxTxBytes - injectionSize }
    pure (injection :: defaultTxs)
  | _, _ => h.defaultPrepareProposal ctx req

/--
**`ProcessProposalHandler`**。集める batch があり vote extension が有効なら、先頭の tx を
注入された commit として読み、検査して、commit の vote の署名を確かめる。
-/
def ProcessProposalHandler (ctx : Ctx) (s : Store) (txs : List Tx) :
    Except Fault ProposalStatus :=
  if !IsVoteExtensionsEnabled ctx then h.defaultProcessProposal ctx txs
  else
    match s.GetBatchForHeight (addI64 ctx.BlockHeight BlockOffsetCollectPhase) with
    | .error err => if err = errNotFound then h.defaultProcessProposal ctx txs else throw err
    | .ok batch =>
      match txs with
      | [] => throw ErrNoInjectedExtendedVotesTx
      | tx :: rest => do
        let extendedVotes ← codec.Unmarshal tx
        (ValidateVoteExtensions h crypto codec ctx extendedVotes).mapError .error
        -- pre-commit の vote の extension だけを確かめる
        extendedVotes.Votes.forM fun vote =>
          if vote.BlockIdFlag = .commit then
            verifyBatchSignatures h crypto s batch.BatchNumber batch.BatchId vote.VoteExtension
              vote.Validator.Address
          else pure ()
        h.defaultProcessProposal ctx rest

/-- `PreBlocker` の vote 一つ分。absent か extension の無い vote は飛ばす。 -/
def storeVoteExtension (batchNum : Nat) (s : Store) (vote : ExtendedVoteInfo) :
    Except Fault Store :=
  if vote.BlockIdFlag = .absent ∨ vote.VoteExtension.length = 0 then pure s
  else do
    let valAddr ← operatorAddress h vote.Validator.Address
    pure (s.SetBatchSigSecp256k1 batchNum valAddr vote.VoteExtension)

/-- **`PreBlocker`**。注入された commit の extension を、集める batch の署名として書く。 -/
def PreBlocker (ctx : Ctx) (txs : List Tx) (s : Store) : Except Fault Store :=
  if !IsVoteExtensionsEnabled ctx then pure s
  else
    match s.GetBatchForHeight (addI64 ctx.BlockHeight BlockOffsetCollectPhase) with
    | .error err => if err = errNotFound then pure s else throw err
    | .ok batch =>
      match txs with
      | [] => throw ErrNoInjectedExtendedVotesTx
      | tx :: _ => do
        let extendedVotes ← codec.Unmarshal tx
        extendedVotes.Votes.foldlM (storeVoteExtension h batch.BatchNumber) s

/-! ## 署名の検査の仕様 -/

/-- 正しい batch の署名。65 byte 以上で、先頭 65 byte が low-s で、戻した address が期待どおり。 -/
structure ValidBatchSignature (batchID expectedAddr sig : Bytes) : Prop where
  long : MinVoteExtensionLength ≤ sig.length
  lowS : crypto.ValidateSignatureValues ((sig.take 65).getD 64 0) (getUintBE ((sig.take 65).take 32))
    (getUintBE (((sig.take 65).drop 32).take 32)) true = true
  recovers : ∃ pubKey, crypto.Ecrecover batchID (sig.take 65) = .ok pubKey ∧
    PubKeyToEthAddress crypto.keccak pubKey = .ok expectedAddr

/--
batch `batchNum` に `valOper` が署名するときに期待する Ethereum address。最初の batch では
登録された secp256k1 鍵の address、以後は一つ前の validator 木の entry の address である。
-/
inductive ExpectedSigner (s : Store) (valOper : Bytes) : Nat → Bytes → Prop
  | registered (pubKey addr : Bytes) (hkey : h.GetValidatorKeyAtIndex valOper = .ok pubKey)
      (haddr : PubKeyToEthAddress crypto.keccak pubKey = .ok addr) :
      ExpectedSigner s valOper 0 addr
  | member (n : Nat) (entry : ValidatorTreeEntry)
      (hentry : s.validatorTreeEntries.get? (n, valOper) = some entry) :
      ExpectedSigner s valOper (n + 1) entry.EthAddress

/-- `verifyBatchSignatures` の通す vote の二通り。署名するか、新しく加わり何も送らないか。 -/
inductive BatchVote (s : Store) (batchNum : Nat) (batchID valOper ext : Bytes) : Prop
  | signed (expectedAddr : Bytes) (hexp : ExpectedSigner h crypto s valOper batchNum expectedAddr)
      (hsig : ValidBatchSignature crypto batchID expectedAddr ext)
  | newcomer (hn : batchNum ≠ 0)
      (habsent : s.validatorTreeEntries.get? (batchNum - 1, valOper) = none) (hempty : ext = [])

variable {h crypto codec}

theorem checkBatchSignature_eq_ok_iff {batchID ext expectedAddr : Bytes} :
    checkBatchSignature crypto batchID ext expectedAddr = .ok () ↔
      ValidBatchSignature crypto batchID expectedAddr ext := by
  unfold checkBatchSignature
  by_cases hshort : ext.length < MinVoteExtensionLength
  · simp only [hshort, ↓reduceIte, throw_eq_error, error_bind, reduceCtorEq, false_iff]
    exact fun hv => absurd hv.long (Nat.not_le.mpr hshort)
  simp only [hshort, ↓reduceIte, pure_eq_ok]
  by_cases hlow : crypto.ValidateSignatureValues ((ext.take 65).getD 64 0)
      (getUintBE ((ext.take 65).take 32)) (getUintBE (((ext.take 65).drop 32).take 32)) true = true
  swap
  · simp only [hlow, Bool.not_false, ↓reduceIte, throw_eq_error, error_bind, reduceCtorEq,
      false_iff]
    exact fun hv => hlow hv.lowS
  simp only [hlow, Bool.not_true, Bool.false_eq_true, ↓reduceIte]
  constructor
  · intro hok
    obtain ⟨pubKey, hrec, hrest⟩ := bind_eq_ok.mp hok
    obtain ⟨sigAddr, haddr, hcmp⟩ := bind_eq_ok.mp hrest
    by_cases heq : expectedAddr = sigAddr
    · exact ⟨Nat.le_of_not_lt hshort, hlow, pubKey, hrec, heq ▸ mapError_eq_ok.mp haddr⟩
    · simp [heq] at hcmp
  · rintro ⟨-, -, pubKey, hrec, haddr⟩
    simp [hrec, haddr]

/--
**署名の検査が通る条件。** extension が長すぎず、operator address が引けて、vote が
`BatchVote` の二通りのどちらかであること。
-/
theorem verifyBatchSignatures_eq_ok_iff {s : Store} {batchNum : Nat} {batchID ext consAddr : Bytes} :
    verifyBatchSignatures h crypto s batchNum batchID ext consAddr = .ok () ↔
      ext.length ≤ MaxVoteExtensionLength ∧
        ∃ valOper, operatorAddress h consAddr = .ok valOper ∧
          BatchVote h crypto s batchNum batchID valOper ext := by
  unfold verifyBatchSignatures
  by_cases hlong : ext.length > MaxVoteExtensionLength
  · simp only [hlong, ↓reduceIte, throw_eq_error, error_bind, reduceCtorEq, false_iff, not_and]
    exact fun hle => absurd hle (Nat.not_le.mpr hlong)
  simp only [hlong, ↓reduceIte, pure_eq_ok]
  have hle : ext.length ≤ MaxVoteExtensionLength := Nat.le_of_not_lt hlong
  cases hop : operatorAddress h consAddr with
  | error err => simp [hle]
  | ok valOper =>
    simp only [ok_bind, hle, true_and, Except.ok.injEq, exists_eq_left']
    cases batchNum with
    | zero =>
      -- 最初の batch：登録された鍵の address で確かめる。新しく加わった validator は無い
      simp only [↓reduceIte]
      constructor
      · intro hok
        obtain ⟨pubKey, hkey, hrest⟩ := bind_eq_ok.mp hok
        obtain ⟨addr, haddr, hcheck⟩ := bind_eq_ok.mp hrest
        exact .signed addr (.registered pubKey addr hkey (mapError_eq_ok.mp haddr))
          (checkBatchSignature_eq_ok_iff.mp hcheck)
      · rintro (⟨addr, hexp, hsig⟩ | ⟨hn, -, -⟩)
        · cases hexp with
          | registered pubKey addr hkey haddr =>
            simp [hkey, haddr, checkBatchSignature_eq_ok_iff.mpr hsig]
        · exact absurd rfl hn
    | succ n =>
      -- 以後の batch：一つ前の木の entry で確かめる。entry が無ければ空の extension だけ通る
      simp only [Nat.add_one_ne_zero, ↓reduceIte, Nat.add_sub_cancel]
      unfold Store.GetValidatorTreeEntry
      cases hentry : s.validatorTreeEntries.get? (n, valOper) with
      | some entry =>
        simp only
        rw [checkBatchSignature_eq_ok_iff]
        constructor
        · exact fun hsig => .signed _ (.member n entry hentry) hsig
        · rintro (⟨addr, hexp, hsig⟩ | ⟨-, habsent, -⟩)
          · cases hexp with
            | member _ entry' hentry' =>
              rw [hentry] at hentry'
              cases hentry'
              exact hsig
          · simp [hentry] at habsent
      | none =>
        simp only [↓reduceIte, List.length_eq_zero_iff]
        constructor
        · intro hok
          by_cases hempty : ext = []
          · exact .newcomer (Nat.add_one_ne_zero n) (by simpa using hentry) hempty
          · simp [hempty] at hok
        · rintro (⟨addr, hexp, hsig⟩ | ⟨-, -, hempty⟩)
          · cases hexp with
            | member _ entry' hentry' => simp [hentry] at hentry'
          · simp [hempty]

/-! ## `PreBlocker` の書き込み -/

/-- `PreBlocker` の書く署名。飛ばさない vote の、operator address と extension。 -/
def voteSignatures (h : Handlers Tx) (votes : List ExtendedVoteInfo) : List (Bytes × Bytes) :=
  votes.filterMap fun vote =>
    if vote.BlockIdFlag = .absent ∨ vote.VoteExtension.length = 0 then none
    else match operatorAddress h vote.Validator.Address with
      | .ok valAddr => some (valAddr, vote.VoteExtension)
      | .error _ => none

theorem mem_voteSignatures {votes : List ExtendedVoteInfo} {sig : Bytes × Bytes} :
    sig ∈ voteSignatures h votes ↔
      ∃ vote ∈ votes, ¬(vote.BlockIdFlag = .absent ∨ vote.VoteExtension.length = 0) ∧
        operatorAddress h vote.Validator.Address = .ok sig.1 ∧ sig.2 = vote.VoteExtension := by
  unfold voteSignatures
  rw [List.mem_filterMap]
  refine exists_congr fun vote => and_congr_right fun _ => ?_
  by_cases hskip : vote.BlockIdFlag = .absent ∨ vote.VoteExtension.length = 0
  · rw [if_pos hskip]
    constructor
    · intro hnone
      cases hnone
    · rintro ⟨hn, -⟩
      exact absurd hskip hn
  · rw [if_neg hskip]
    cases hop : operatorAddress h vote.Validator.Address with
    | error err => simp
    | ok valAddr =>
      obtain ⟨a, b⟩ := sig
      simp only [Option.some.injEq, Prod.mk.injEq, Except.ok.injEq]
      constructor
      · rintro ⟨rfl, rfl⟩
        exact ⟨hskip, rfl, rfl⟩
      · rintro ⟨-, rfl, rfl⟩
        exact ⟨rfl, rfl⟩

/--
vote の loop は、書く vote の operator address がどれも引けるなら失敗せず、`voteSignatures` を
順に書いた store を返す。
-/
theorem foldlM_storeVoteExtension_eq {batchNum : Nat} :
    ∀ {votes : List ExtendedVoteInfo} {s : Store},
      (∀ vote ∈ votes, ¬(vote.BlockIdFlag = .absent ∨ vote.VoteExtension.length = 0) →
        ∃ valAddr, operatorAddress h vote.Validator.Address = .ok valAddr) →
      votes.foldlM (storeVoteExtension h batchNum) s =
        .ok ((voteSignatures h votes).foldl
          (fun s sig => s.SetBatchSigSecp256k1 batchNum sig.1 sig.2) s)
  | [], _, _ => rfl
  | vote :: votes, s, hops => by
    have hrest := fun v hv => hops v (List.mem_cons_of_mem vote hv)
    rw [List.foldlM_cons]
    unfold storeVoteExtension voteSignatures
    rw [List.filterMap_cons]
    by_cases hskip : vote.BlockIdFlag = .absent ∨ vote.VoteExtension.length = 0
    · simp only [hskip, ↓reduceIte, pure_eq_ok, ok_bind]
      exact foldlM_storeVoteExtension_eq hrest
    · obtain ⟨valAddr, hop⟩ := hops vote List.mem_cons_self hskip
      simp only [hskip, ↓reduceIte, hop, ok_bind, pure_eq_ok, List.foldl_cons]
      exact foldlM_storeVoteExtension_eq hrest

/-- batch が読める height での `storeBatchSignatures` は、その番号で署名を順に書く。 -/
theorem storeBatchSignatures_of_GetBatchForHeight {s : Store} {height : Int} {batch : Batch}
    (hbatch : s.GetBatchForHeight height = .ok batch) (sigs : List (Bytes × Bytes)) :
    storeBatchSignatures s height sigs =
      sigs.foldl (fun s sig => s.SetBatchSigSecp256k1 batch.BatchNumber sig.1 sig.2) s := by
  unfold storeBatchSignatures
  rw [hbatch]

/--
**`PreBlocker` は `storeBatchSignatures` である。** vote extension が有効で集める batch があり、
先頭の tx が読めて、書く vote の operator address がどれも引けるなら、`PreBlocker` は
batching の走りの `storeSignatures` と同じく、`voteSignatures` を書く。
-/
theorem PreBlocker_eq_storeBatchSignatures {ctx : Ctx} {s : Store} {batch : Batch} {tx : Tx}
    {rest : List Tx} {ec : ExtendedCommitInfo} (hen : IsVoteExtensionsEnabled ctx = true)
    (hbatch : s.GetBatchForHeight (addI64 ctx.BlockHeight BlockOffsetCollectPhase) = .ok batch)
    (hdec : codec.Unmarshal tx = .ok ec)
    (hops : ∀ vote ∈ ec.Votes, ¬(vote.BlockIdFlag = .absent ∨ vote.VoteExtension.length = 0) →
      ∃ valAddr, operatorAddress h vote.Validator.Address = .ok valAddr) :
    PreBlocker h codec ctx (tx :: rest) s =
      .ok (storeBatchSignatures s (addI64 ctx.BlockHeight BlockOffsetCollectPhase)
        (voteSignatures h ec.Votes)) := by
  unfold PreBlocker
  rw [storeBatchSignatures_of_GetBatchForHeight hbatch]
  simp only [hen, Bool.not_true, Bool.false_eq_true, ↓reduceIte, hbatch, hdec, ok_bind]
  exact foldlM_storeVoteExtension_eq hops

/-- vote extension が無効か集める batch が無ければ、`PreBlocker` は何も書かない。 -/
theorem PreBlocker_of_not_collecting {ctx : Ctx} {s : Store} {txs : List Tx}
    (hnot : IsVoteExtensionsEnabled ctx = true →
      ∀ batch, s.GetBatchForHeight (addI64 ctx.BlockHeight BlockOffsetCollectPhase) ≠ .ok batch) :
    PreBlocker h codec ctx txs s = .ok s := by
  unfold PreBlocker
  cases hen : IsVoteExtensionsEnabled ctx
  · rfl
  · simp only [Bool.not_true, Bool.false_eq_true, ↓reduceIte]
    cases hb : s.GetBatchForHeight (addI64 ctx.BlockHeight BlockOffsetCollectPhase) with
    | error err => simp [GetBatchForHeight_error hb]
    | ok batch => exact absurd hb (hnot hen batch)

/-- 何も書かない `storeBatchSignatures`。 -/
theorem storeBatchSignatures_nil (s : Store) (height : Int) : storeBatchSignatures s height [] = s := by
  unfold storeBatchSignatures
  split <;> rfl

/-- vote の loop の結果は、何かの署名の列を順に書いた store である。 -/
theorem foldlM_storeVoteExtension_shape {batchNum : Nat} :
    ∀ {votes : List ExtendedVoteInfo} {s s' : Store},
      votes.foldlM (storeVoteExtension h batchNum) s = .ok s' →
        ∃ sigs : List (Bytes × Bytes),
          s' = sigs.foldl (fun s sig => s.SetBatchSigSecp256k1 batchNum sig.1 sig.2) s
  | [], s, s', hfold => by
    cases hfold
    exact ⟨[], rfl⟩
  | vote :: votes, s, s', hfold => by
    rw [List.foldlM_cons] at hfold
    obtain ⟨s₁, hvote, hrest⟩ := bind_eq_ok.mp hfold
    obtain ⟨sigs, rfl⟩ := foldlM_storeVoteExtension_shape hrest
    unfold storeVoteExtension at hvote
    split at hvote
    · cases hvote
      exact ⟨sigs, rfl⟩
    · obtain ⟨valAddr, -, hset⟩ := bind_eq_ok.mp hvote
      cases hset
      exact ⟨(valAddr, vote.VoteExtension) :: sigs, rfl⟩

/-- 成功した `PreBlocker` の結果は、block height `H - 2` での `storeBatchSignatures` である。 -/
theorem PreBlocker_eq_ok {ctx : Ctx} {txs : List Tx} {s s' : Store}
    (hpre : PreBlocker h codec ctx txs s = .ok s') :
    ∃ sigs, s' = storeBatchSignatures s (addI64 ctx.BlockHeight BlockOffsetCollectPhase) sigs := by
  unfold PreBlocker at hpre
  cases hen : IsVoteExtensionsEnabled ctx
  · simp only [hen, Bool.not_false, ↓reduceIte, pure_eq_ok, Except.ok.injEq] at hpre
    exact ⟨[], by rw [storeBatchSignatures_nil, hpre]⟩
  simp only [hen, Bool.not_true, Bool.false_eq_true, ↓reduceIte] at hpre
  cases hb : s.GetBatchForHeight (addI64 ctx.BlockHeight BlockOffsetCollectPhase) with
  | error err =>
    simp only [hb, GetBatchForHeight_error hb, ↓reduceIte, pure_eq_ok, Except.ok.injEq] at hpre
    exact ⟨[], by rw [storeBatchSignatures_nil, hpre]⟩
  | ok batch =>
    rw [hb] at hpre
    match txs, hpre with
    | [], hpre => simp at hpre
    | tx :: _, hpre =>
      obtain ⟨ec, -, hfold⟩ := bind_eq_ok.mp hpre
      obtain ⟨sigs, rfl⟩ := foldlM_storeVoteExtension_shape hfold
      exact ⟨sigs, (storeBatchSignatures_of_GetBatchForHeight hb sigs).symm⟩

/--
**`PreBlocker` は batching の走りの一歩である。** 成功した `PreBlocker` は、block height
`H - 2` での `storeSignatures` の出来事と同じ状態に移る。よって届く状態から `PreBlocker` で
移った状態も届く。
-/
theorem Reachable.PreBlocker {keccak : Bytes → Bytes} {authority : String} {ctx : Ctx}
    {txs : List Tx} {σ : Sys} {s' : Store} (hr : Reachable keccak authority σ)
    (hpre : PreBlocker h codec ctx txs σ.store = .ok s') :
    Reachable keccak authority { σ with store := s' } := by
  obtain ⟨sigs, rfl⟩ := PreBlocker_eq_ok hpre
  exact hr.next (.storeSignatures (addI64 ctx.BlockHeight BlockOffsetCollectPhase) sigs) rfl

/-! ## `ProcessProposal` -/

/--
集める batch があるときに `ProcessProposal` が通れば、先頭の tx は読める commit で、検査を通り、
commit の vote の署名はどれも確かめられ、結果は残りの tx への既定の handler の結果である。
-/
theorem ProcessProposalHandler_eq_ok {ctx : Ctx} {s : Store} {batch : Batch} {txs : List Tx}
    {status : ProposalStatus} (hen : IsVoteExtensionsEnabled ctx = true)
    (hbatch : s.GetBatchForHeight (addI64 ctx.BlockHeight BlockOffsetCollectPhase) = .ok batch)
    (hproc : ProcessProposalHandler h crypto codec ctx s txs = .ok status) :
    ∃ tx rest ec, txs = tx :: rest ∧ codec.Unmarshal tx = .ok ec ∧
      ValidateVoteExtensions h crypto codec ctx ec = .ok () ∧
      (∀ vote ∈ ec.Votes, vote.BlockIdFlag = .commit →
        verifyBatchSignatures h crypto s batch.BatchNumber batch.BatchId vote.VoteExtension
          vote.Validator.Address = .ok ()) ∧
      h.defaultProcessProposal ctx rest = .ok status := by
  unfold ProcessProposalHandler at hproc
  simp only [hen, Bool.not_true, Bool.false_eq_true, ↓reduceIte, hbatch] at hproc
  match txs, hproc with
  | [], hproc => simp at hproc
  | tx :: rest, hproc =>
    obtain ⟨ec, hdec, hproc⟩ := bind_eq_ok.mp hproc
    obtain ⟨u, hval, hproc⟩ := bind_eq_ok.mp hproc
    obtain ⟨u', hverify, hdefault⟩ := bind_eq_ok.mp hproc
    refine ⟨tx, rest, ec, rfl, hdec, mapError_eq_ok.mp hval, fun vote hv hcommit => ?_, hdefault⟩
    have := forM_eq_ok_iff.mp hverify vote hv
    simpa [hcommit] using this

/-- 注入された commit が検査を通り署名が確かめられれば、`ProcessProposal` は既定の handler に渡す。 -/
theorem ProcessProposalHandler_injected {ctx : Ctx} {s : Store} {batch : Batch} {tx : Tx}
    {rest : List Tx} {ec : ExtendedCommitInfo} (hen : IsVoteExtensionsEnabled ctx = true)
    (hbatch : s.GetBatchForHeight (addI64 ctx.BlockHeight BlockOffsetCollectPhase) = .ok batch)
    (hdec : codec.Unmarshal tx = .ok ec)
    (hval : ValidateVoteExtensions h crypto codec ctx ec = .ok ())
    (hverify : ∀ vote ∈ ec.Votes, vote.BlockIdFlag = .commit →
      verifyBatchSignatures h crypto s batch.BatchNumber batch.BatchId vote.VoteExtension
        vote.Validator.Address = .ok ()) :
    ProcessProposalHandler h crypto codec ctx s (tx :: rest) = h.defaultProcessProposal ctx rest := by
  have hall : (ec.Votes.forM fun vote =>
      if vote.BlockIdFlag = .commit then
        verifyBatchSignatures h crypto s batch.BatchNumber batch.BatchId vote.VoteExtension
          vote.Validator.Address
      else pure ()) = .ok () := by
    refine forM_eq_ok_iff.mpr fun vote hv => ?_
    by_cases hcommit : vote.BlockIdFlag = .commit
    · simp [hcommit, hverify vote hv hcommit]
    · simp [hcommit]
  unfold ProcessProposalHandler
  simp only [hen, Bool.not_true, Bool.false_eq_true, ↓reduceIte, hbatch, hdec, ok_bind, hval,
    Except.mapError, hall]

/-- vote extension が無効か集める batch が無ければ、`ProcessProposal` は既定の handler である。 -/
theorem ProcessProposalHandler_of_not_collecting {ctx : Ctx} {s : Store} {txs : List Tx}
    (hnot : IsVoteExtensionsEnabled ctx = true →
      ∀ batch, s.GetBatchForHeight (addI64 ctx.BlockHeight BlockOffsetCollectPhase) ≠ .ok batch) :
    ProcessProposalHandler h crypto codec ctx s txs = h.defaultProcessProposal ctx txs := by
  unfold ProcessProposalHandler
  cases hen : IsVoteExtensionsEnabled ctx
  · rfl
  · simp only [Bool.not_true, Bool.false_eq_true, ↓reduceIte]
    cases hb : s.GetBatchForHeight (addI64 ctx.BlockHeight BlockOffsetCollectPhase) with
    | error err => simp [GetBatchForHeight_error hb]
    | ok batch => exact absurd hb (hnot hen batch)

end SedaChain.Abci
