import SedaChain.Abci.Handlers

/-!
# 書かれる batch 署名（`ProcessProposal` と `PreBlocker`）

`ProcessProposal` が受けた提案について、同じ状態での `PreBlocker` が書く batch 署名を調べる。
検査と書き込みは別の handler で、飛ばす vote の決め方も違う。`ProcessProposal` は commit の
vote だけを確かめ、`PreBlocker` は absent でなく extension のある vote をすべて書く。二つを
つなぐのは、commit でない vote の extension を `ValidateVoteExtensions` が拒むことと、どちらも
同じ consensus address から同じ operator address を引くことである。

* `Accepted` — 受けた注入について分かること
* `Accepted.stored_vote` — 書かれる vote は commit の vote で、その validator の正しい署名を持つ
* `Accepted.counted_covered` — power を数えた vote は、署名を書かれるか、新しく加わった
  validator の vote である
* **`PreBlocker_stores_valid_signatures`** — 受けた提案で `PreBlocker` が書くのは正しい署名だけ
* **`batch_signature_threshold`** — commit の vote はどれも署名が書かれるか新しく加わった
  validator のもので、その power は全体の三分の二を超える
-/

namespace SedaChain.Abci

open Infra Infra.Go SedaChain.Batching

variable {Tx : Type} (h : Handlers Tx) (crypto : Crypto) (codec : Codec Tx)

/-! ## 正しい署名と、受けた注入 -/

/-- batch `batch` への validator `valAddr` の正しい署名。 -/
def SignedBatch (s : Store) (batch : Batch) (valAddr sig : Bytes) : Prop :=
  ∃ expectedAddr, ExpectedSigner h crypto s valAddr batch.BatchNumber expectedAddr ∧
    ValidBatchSignature crypto batch.BatchId expectedAddr sig

/--
`ProcessProposal` の受けた注入について分かること。vote extension が有効で、commit が
`ValidateVoteExtensions` を通り、commit の vote の署名がどれも確かめられている。
-/
structure Accepted (ctx : Ctx) (s : Store) (batch : Batch) (ec : ExtendedCommitInfo) : Prop where
  enabled : IsVoteExtensionsEnabled ctx = true
  valid : ValidateVoteExtensions h crypto codec ctx ec = .ok ()
  verified : ∀ vote ∈ ec.Votes, vote.BlockIdFlag = .commit →
    verifyBatchSignatures h crypto s batch.BatchNumber batch.BatchId vote.VoteExtension
      vote.Validator.Address = .ok ()

/-- 新しく加わった validator の vote。最初の batch でなく、一つ前の木に無く、extension が空。 -/
def NewcomerVote (s : Store) (batchNum : Nat) (valAddr : Bytes) (vote : ExtendedVoteInfo) : Prop :=
  batchNum ≠ 0 ∧ s.validatorTreeEntries.get? (batchNum - 1, valAddr) = none ∧
    vote.VoteExtension = []

/-- commit の全体の voting power。 -/
def totalPower (ec : ExtendedCommitInfo) : Int := (ec.Votes.map (·.Validator.Power)).sum

/-- 署名の書かれる vote（commit で extension のある vote）の power。 -/
def signedPower (ec : ExtendedCommitInfo) : Int :=
  weightOf (·.Validator.Power)
    (fun vote => vote.BlockIdFlag = .commit && !vote.VoteExtension.isEmpty) ec.Votes

/-- 新しく加わった validator の commit の vote か。 -/
def isNewcomer (s : Store) (batchNum : Nat) (vote : ExtendedVoteInfo) : Bool :=
  batchNum ≠ 0 && vote.BlockIdFlag = .commit &&
    match operatorAddress h vote.Validator.Address with
    | .ok valAddr => (s.validatorTreeEntries.get? (batchNum - 1, valAddr)).isNone
    | .error _ => false

/-- 新しく加わった validator の commit の vote の power。 -/
def newcomerPower (s : Store) (batchNum : Nat) (ec : ExtendedCommitInfo) : Int :=
  weightOf (·.Validator.Power) (isNewcomer h s batchNum) ec.Votes

variable {h crypto codec}

section Accepted

variable {ctx : Ctx} {s : Store} {batch : Batch} {ec : ExtendedCommitInfo}

/-- 集める batch があるときに `ProcessProposal` が通れば、先頭の tx は受けた注入である。 -/
theorem accepted_of_ProcessProposal {txs : List Tx} {status : ProposalStatus}
    (hen : IsVoteExtensionsEnabled ctx = true)
    (hbatch : s.GetBatchForHeight (addI64 ctx.BlockHeight BlockOffsetCollectPhase) = .ok batch)
    (hproc : ProcessProposalHandler h crypto codec ctx s txs = .ok status) :
    ∃ tx rest ec, txs = tx :: rest ∧ codec.Unmarshal tx = .ok ec ∧
      Accepted h crypto codec ctx s batch ec := by
  obtain ⟨tx, rest, ec, htxs, hdec, hval, hverify, -⟩ := ProcessProposalHandler_eq_ok hen hbatch hproc
  exact ⟨tx, rest, ec, htxs, hdec, ⟨hen, hval, hverify⟩⟩

theorem Accepted.shaped (ha : Accepted h crypto codec ctx s batch ec) :
    ∀ vote ∈ ec.Votes, ExtensionShaped vote :=
  checkVoteExtensions_shaped ha.enabled (ValidateVoteExtensions_eq_ok_iff.mp ha.valid).2

/-- 受けた注入の vote の consensus address は重複しない。 -/
theorem Accepted.addresses_nodup (ha : Accepted h crypto codec ctx s batch ec) :
    (ec.Votes.map (·.Validator.Address)).Nodup :=
  (ValidateExtendedCommitAgainstLastCommit_eq_ok_iff.mp
    (ValidateVoteExtensions_eq_ok_iff.mp ha.valid).1).2.2.1

/-- extension が空でない vote を通したのなら、それは署名である。 -/
theorem BatchVote.signed_of_ne_nil {n : Nat} {batchID valOper ext : Bytes}
    (hv : BatchVote h crypto s n batchID valOper ext) (hne : ext ≠ []) :
    ∃ addr, ExpectedSigner h crypto s valOper n addr ∧ ValidBatchSignature crypto batchID addr ext := by
  cases hv with
  | signed addr hexp hsig => exact ⟨addr, hexp, hsig⟩
  | newcomer _ _ hempty => exact absurd hempty hne

/-- 最初の batch でなければ、正しい署名をした validator は一つ前の木にいる。 -/
theorem SignedBatch.tree_entry {valAddr sig : Bytes} (hs : SignedBatch h crypto s batch valAddr sig)
    (hn : batch.BatchNumber ≠ 0) :
    ∃ entry, s.validatorTreeEntries.get? (batch.BatchNumber - 1, valAddr) = some entry := by
  obtain ⟨addr, hexp, -⟩ := hs
  generalize batch.BatchNumber = n at hexp hn
  cases hexp with
  | registered => exact absurd rfl hn
  | member m entry hentry => exact ⟨entry, hentry⟩

/--
**書かれる vote。** absent でなく extension のある vote は commit の vote で、operator address が
引けて、その validator の正しい署名を extension に持つ。
-/
theorem Accepted.stored_vote (ha : Accepted h crypto codec ctx s batch ec) {vote : ExtendedVoteInfo}
    (hv : vote ∈ ec.Votes)
    (hstore : ¬(vote.BlockIdFlag = .absent ∨ vote.VoteExtension.length = 0)) :
    vote.BlockIdFlag = .commit ∧ vote.VoteExtension ≠ [] ∧
      ∃ valAddr, operatorAddress h vote.Validator.Address = .ok valAddr ∧
        SignedBatch h crypto s batch valAddr vote.VoteExtension := by
  have hne : vote.VoteExtension ≠ [] := fun he => hstore (.inr (by rw [he]; rfl))
  -- commit でない vote の extension は空なので、書かれる vote は commit の vote である
  have hcommit : vote.BlockIdFlag = .commit := by
    by_contra hc
    exact hne ((ha.shaped vote hv).2 hc).1
  obtain ⟨-, valAddr, hop, hbv⟩ := verifyBatchSignatures_eq_ok_iff.mp (ha.verified vote hv hcommit)
  exact ⟨hcommit, hne, valAddr, hop, hbv.signed_of_ne_nil hne⟩

/-- `PreBlocker` の書く署名はどれも、書かれる vote のものである。 -/
theorem Accepted.signature_of_mem (ha : Accepted h crypto codec ctx s batch ec) {sig : Bytes × Bytes}
    (hsig : sig ∈ voteSignatures h ec.Votes) :
    ∃ vote ∈ ec.Votes, vote.BlockIdFlag = .commit ∧ vote.VoteExtension ≠ [] ∧
      operatorAddress h vote.Validator.Address = .ok sig.1 ∧ sig.2 = vote.VoteExtension ∧
      SignedBatch h crypto s batch sig.1 sig.2 := by
  obtain ⟨vote, hv, hstore, hop, hext⟩ := mem_voteSignatures.mp hsig
  obtain ⟨hcommit, hne, valAddr, hop', hsigned⟩ := ha.stored_vote hv hstore
  rw [hop] at hop'
  cases hop'
  exact ⟨vote, hv, hcommit, hne, hop, hext, hext ▸ hsigned⟩

/-- 受けた注入の `PreBlocker` は失敗せず、`voteSignatures` を書く。 -/
theorem Accepted.PreBlocker_eq (ha : Accepted h crypto codec ctx s batch ec) {tx : Tx}
    {rest : List Tx}
    (hbatch : s.GetBatchForHeight (addI64 ctx.BlockHeight BlockOffsetCollectPhase) = .ok batch)
    (hdec : codec.Unmarshal tx = .ok ec) :
    PreBlocker h codec ctx (tx :: rest) s =
      .ok (storeBatchSignatures s (addI64 ctx.BlockHeight BlockOffsetCollectPhase)
        (voteSignatures h ec.Votes)) := by
  refine PreBlocker_eq_storeBatchSignatures ha.enabled hbatch hdec fun vote hv hstore => ?_
  obtain ⟨-, -, valAddr, hop, -⟩ := ha.stored_vote hv hstore
  exact ⟨valAddr, hop⟩

/-- 受けた注入の power は、last commit の power と同じ並びである。 -/
theorem Accepted.powers_eq (ha : Accepted h crypto codec ctx s batch ec) :
    ec.Votes.map (·.Validator.Power) = ctx.LastCommit.Votes.map (·.Validator.Power) :=
  powers_eq_of_forall₂ (ValidateExtendedCommitAgainstLastCommit_eq_ok_iff.mp
    (ValidateVoteExtensions_eq_ok_iff.mp ha.valid).1).2.2.2

/--
power を数えた vote は、署名の書かれる vote か、新しく加わった validator の vote である。
数えた vote は commit の vote なので、その署名は確かめられている。
-/
theorem Accepted.counted_covered (ha : Accepted h crypto codec ctx s batch ec) :
    ∀ vote ∈ ec.Votes, countedVote h crypto codec ctx ec.Round vote = true →
      (vote.BlockIdFlag = .commit && !vote.VoteExtension.isEmpty) = true ∨
        isNewcomer h s batch.BatchNumber vote = true := by
  intro vote hv hcounted
  have hcommit : vote.BlockIdFlag = .commit := by
    unfold countedVote at hcounted
    simp only [Bool.and_eq_true, decide_eq_true_eq] at hcounted
    exact hcounted.1
  obtain ⟨-, valAddr, hop, hbv⟩ := verifyBatchSignatures_eq_ok_iff.mp (ha.verified vote hv hcommit)
  cases hbv with
  | signed addr hexp hsig =>
    -- 署名は 65 byte 以上なので extension は空でない
    left
    have hne : vote.VoteExtension ≠ [] := fun he => by
      have := hsig.long
      rw [he] at this
      exact absurd this (by decide)
    simpa [hcommit] using hne
  | newcomer hn habsent hempty =>
    right
    simp [isNewcomer, hn, hcommit, hop, habsent]

end Accepted

/-! ## 書き込みの中身 -/

/-- 署名を順に書いた store の署名の表は、表に順に書いたものである。 -/
theorem foldl_SetBatchSigSecp256k1_batchSignatures (n : Nat) :
    ∀ (sigs : List (Bytes × Bytes)) (s : Store),
      (sigs.foldl (fun s sig => s.SetBatchSigSecp256k1 n sig.1 sig.2) s).batchSignatures =
        sigs.foldl (fun m sig => m.set (n, sig.1) ⟨sig.1, sig.2⟩) s.batchSignatures
  | [], _ => rfl
  | sig :: sigs, s => foldl_SetBatchSigSecp256k1_batchSignatures n sigs (s.SetBatchSigSecp256k1 n sig.1 sig.2)

/--
**受けた提案で `PreBlocker` が書くのは正しい署名だけである。** vote extension が有効で、
height `H - 2` に batch があり、`ProcessProposal` が提案を受けたなら、同じ状態の `PreBlocker` は
失敗せず、`storeSignatures` の署名の列 `sigs` を書く。その各々は、commit で extension のある
vote の、その validator の operator address への extension で、先頭 65 byte は期待する
address に戻る low-s の署名である。最初の batch でなければ、その validator は一つ前の木に
いる。vote の consensus address は重複しない。
-/
theorem PreBlocker_stores_valid_signatures {ctx : Ctx} {s : Store} {batch : Batch} {txs : List Tx}
    (hen : IsVoteExtensionsEnabled ctx = true)
    (hbatch : s.GetBatchForHeight (addI64 ctx.BlockHeight BlockOffsetCollectPhase) = .ok batch)
    (hproc : ProcessProposalHandler h crypto codec ctx s txs = .ok .accept) :
    ∃ ec sigs, (∃ tx rest, txs = tx :: rest ∧ codec.Unmarshal tx = .ok ec) ∧
      PreBlocker h codec ctx txs s =
        .ok (storeBatchSignatures s (addI64 ctx.BlockHeight BlockOffsetCollectPhase) sigs) ∧
      (ec.Votes.map (·.Validator.Address)).Nodup ∧
      ∀ sig ∈ sigs, ∃ vote ∈ ec.Votes, vote.BlockIdFlag = .commit ∧ vote.VoteExtension ≠ [] ∧
        operatorAddress h vote.Validator.Address = .ok sig.1 ∧ sig.2 = vote.VoteExtension ∧
        SignedBatch h crypto s batch sig.1 sig.2 ∧
        (batch.BatchNumber ≠ 0 →
          ∃ entry, s.validatorTreeEntries.get? (batch.BatchNumber - 1, sig.1) = some entry) := by
  obtain ⟨tx, rest, ec, rfl, hdec, ha⟩ := accepted_of_ProcessProposal hen hbatch hproc
  refine ⟨ec, voteSignatures h ec.Votes, ⟨tx, rest, rfl, hdec⟩, ha.PreBlocker_eq hbatch hdec,
    ha.addresses_nodup, fun sig hsig => ?_⟩
  obtain ⟨vote, hv, hcommit, hne, hop, hext, hsigned⟩ := ha.signature_of_mem hsig
  exact ⟨vote, hv, hcommit, hne, hop, hext, hsigned, hsigned.tree_entry⟩

/-! ## 例

四つの validator の commit。consensus address `[9]` と `[10]` の validator は一つ前の木にいて署名し、
`[11]` は新しく加わった validator で空の extension を出し、`[12]` は absent である。集める batch は
番号 1 である。
-/

/-- 例の公開鍵。非圧縮の 65 byte。 -/
def samplePubKey : Bytes := List.replicate 65 1

/-- 例の暗号。Keccak は恒等で、署名の先頭の byte `b` から公開鍵 `4 :: b …` を戻す。 -/
def sampleCrypto : Crypto :=
  { keccak := id, ValidateSignatureValues := fun _ _ _ _ => true,
    Ecrecover := fun _ sig => .ok (4 :: List.replicate 64 (sig.headD 0)), PubKeyFromProto := .ok,
    VerifySignature := fun _ _ _ => true }

/-- 例の符号化。tx は commit そのもの。 -/
def sampleCodec : Codec ExtendedCommitInfo :=
  { Marshal := id, Unmarshal := .ok, size := fun _ => 1, MarshalDelimited := fun _ => [],
    ValidatorString := fun _ => "" }

/-- 例の handler。consensus address `[9]`、`[10]`、`[11]`、`[12]` の operator address は `[7]`、`[8]`、`[6]`、`[5]`。 -/
def sampleHandlers : Handlers ExtendedCommitInfo :=
  { defaultPrepareProposal := fun _ req => .ok req.Txs,
    defaultProcessProposal := fun _ _ => .ok .accept,
    GetValidatorByConsAddr := fun c =>
      .ok (if c = [9] then "a" else if c = [10] then "b" else if c = [11] then "c" else "d"),
    GetPubKeyByConsAddr := fun _ => .ok [],
    StringToBytes := fun str =>
      .ok (if str = "a" then [7] else if str = "b" then [8] else if str = "c" then [6] else [5]),
    GetValidatorKeyAtIndex := fun _ => .ok samplePubKey }

/-- height 3 で作られた番号 1 の batch。 -/
def sampleBatch : Batch :=
  { BatchNumber := 1, BlockHeight := 3, CurrentDataResultRoot := "", DataResultRoot := "",
    ValidatorRoot := "", BatchId := [2], ProvingMetadata := [] }

/-- batch 1 があり、validator `[7]` と `[8]` が木 0 にいる store。 -/
def sampleStore : Store :=
  { Store.empty with
    batches := ⟨[(3, sampleBatch)], by decide⟩
    validatorTreeEntries := ⟨[((0, [7]), ⟨[7], 50, List.replicate 52 1⟩),
      ((0, [8]), ⟨[8], 50, List.replicate 52 2⟩)], by decide⟩ }

/-- 四つの validator の last commit。power は 50、20、20、10 で、最後の validator は absent。 -/
def sampleLastCommit : CommitInfo :=
  ⟨0, [⟨⟨[9], 50⟩, .commit⟩, ⟨⟨[10], 20⟩, .commit⟩, ⟨⟨[11], 20⟩, .commit⟩, ⟨⟨[12], 10⟩, .absent⟩]⟩

/-- height 5 の context。vote extension は height 1 から有効である。 -/
def sampleCtx : Ctx :=
  { BlockHeight := 5, ChainID := "", VoteExtensionsEnableHeight := some 1, LastCommit := sampleLastCommit }

/-- 先頭の byte が `b` の、65 byte の extension。 -/
def sampleExtension (b : UInt8) : Bytes := b :: List.replicate 64 0

/--
例の commit。`[9]` と `[10]` は木 0 の address に戻る署名を出し、新しく加わった `[11]` は空の
extension を出す。
-/
def sampleCommit : ExtendedCommitInfo :=
  ⟨0, [⟨⟨[9], 50⟩, sampleExtension 1, [1], .commit⟩, ⟨⟨[10], 20⟩, sampleExtension 2, [1], .commit⟩,
    ⟨⟨[11], 20⟩, [], [1], .commit⟩, ⟨⟨[12], 10⟩, [], [], .absent⟩]⟩

/--
例の提案は受けられ、`PreBlocker` は二つの署名を書き、新しく加わった validator と absent の
validator には書かない。書く署名はどれも正しい。
-/
theorem PreBlocker_stores_valid_signatures_sample :
    IsVoteExtensionsEnabled sampleCtx = true ∧
      sampleStore.GetBatchForHeight (addI64 sampleCtx.BlockHeight BlockOffsetCollectPhase) =
        .ok sampleBatch ∧
      ProcessProposalHandler sampleHandlers sampleCrypto sampleCodec sampleCtx sampleStore
        [sampleCommit] = .ok .accept ∧
      ∃ sigs : List (Bytes × Bytes),
        PreBlocker sampleHandlers sampleCodec sampleCtx [sampleCommit] sampleStore =
          .ok (storeBatchSignatures sampleStore
            (addI64 sampleCtx.BlockHeight BlockOffsetCollectPhase) sigs) ∧
        (∀ sig ∈ sigs, SignedBatch sampleHandlers sampleCrypto sampleStore sampleBatch sig.1 sig.2) ∧
        (PreBlocker sampleHandlers sampleCodec sampleCtx [sampleCommit] sampleStore).map
          (fun s' => ((s'.batchSignatures.get? (1, [7])).isSome, (s'.batchSignatures.get? (1, [8])).isSome,
            (s'.batchSignatures.get? (1, [6])).isSome)) = .ok (true, true, false) := by
  have hen : IsVoteExtensionsEnabled sampleCtx = true := by decide
  have hbatch : sampleStore.GetBatchForHeight (addI64 sampleCtx.BlockHeight BlockOffsetCollectPhase) =
      .ok sampleBatch := by decide
  have hproc : ProcessProposalHandler sampleHandlers sampleCrypto sampleCodec sampleCtx sampleStore
      [sampleCommit] = .ok .accept := by decide
  obtain ⟨ec, sigs, -, hpre, -, hall⟩ := PreBlocker_stores_valid_signatures hen hbatch hproc
  refine ⟨hen, hbatch, hproc, sigs, hpre, fun sig hsig => ?_, by decide⟩
  obtain ⟨-, -, -, -, -, -, hsigned, -⟩ := hall sig hsig
  exact hsigned

/--
**三分の二の署名。** last commit の power が CometBFT の範囲にあり、vote extension が有効で、
height `H - 2` に batch があり、`ProcessProposal` が提案を受けたなら、`PreBlocker` は失敗せず、
commit の vote はどれも、新しく加わった validator の空の vote か、その validator の正しい署名が
書かれる vote である。署名の書かれる vote と新しく加わった validator の vote の power の三倍は、
全体の power の二倍を超える。最初の batch では新しく加わった validator は無い。
-/
theorem batch_signature_threshold {ctx : Ctx} {s : Store} {batch : Batch} {txs : List Tx}
    (hbounded : ctx.LastCommit.PowerBounded) (hen : IsVoteExtensionsEnabled ctx = true)
    (hbatch : s.GetBatchForHeight (addI64 ctx.BlockHeight BlockOffsetCollectPhase) = .ok batch)
    (hproc : ProcessProposalHandler h crypto codec ctx s txs = .ok .accept) :
    ∃ ec s', (∃ tx rest, txs = tx :: rest ∧ codec.Unmarshal tx = .ok ec) ∧
      PreBlocker h codec ctx txs s = .ok s' ∧
      (∀ vote ∈ ec.Votes, vote.BlockIdFlag = .commit →
        ∃ valAddr, operatorAddress h vote.Validator.Address = .ok valAddr ∧
          (NewcomerVote s batch.BatchNumber valAddr vote ∨
            ∃ sig, s'.batchSignatures.get? (batch.BatchNumber, valAddr) = some ⟨valAddr, sig⟩ ∧
              SignedBatch h crypto s batch valAddr sig)) ∧
      2 * totalPower ec < 3 * (signedPower ec + newcomerPower h s batch.BatchNumber ec) := by
  obtain ⟨tx, rest, ec, rfl, hdec, ha⟩ := accepted_of_ProcessProposal hen hbatch hproc
  refine ⟨ec, _, ⟨tx, rest, rfl, hdec⟩, ha.PreBlocker_eq hbatch hdec, ?_, ?_⟩
  · intro vote hv hcommit
    obtain ⟨-, valAddr, hop, hbv⟩ := verifyBatchSignatures_eq_ok_iff.mp (ha.verified vote hv hcommit)
    refine ⟨valAddr, hop, ?_⟩
    cases hbv with
    | newcomer hn habsent hempty => exact .inl ⟨hn, habsent, hempty⟩
    | signed addr hexp hsig =>
      right
      have hne : vote.VoteExtension ≠ [] := fun he => by
        have := hsig.long
        rw [he] at this
        exact absurd this (by decide)
      have hstore : ¬(vote.BlockIdFlag = .absent ∨ vote.VoteExtension.length = 0) := by
        simp [hcommit, hne]
      have hmem : (valAddr, vote.VoteExtension) ∈ voteSignatures h ec.Votes :=
        mem_voteSignatures.mpr ⟨vote, hv, hstore, hop, rfl⟩
      -- この validator に最後に書いた署名が残り、それも書かれる vote の正しい署名である
      obtain ⟨sig, hsig', hkey, hget⟩ := KeyMap.get?_foldl_set_of_mem
        (fun sig : Bytes × Bytes => (batch.BatchNumber, sig.1))
        (fun sig : Bytes × Bytes => (⟨sig.1, sig.2⟩ : BatchSignatures))
        (voteSignatures h ec.Votes) s.batchSignatures (batch.BatchNumber, valAddr)
        ⟨_, hmem, rfl⟩
      obtain ⟨-, -, -, -, -, -, hsigned⟩ := ha.signature_of_mem hsig'
      simp only [Prod.mk.injEq, true_and] at hkey
      refine ⟨sig.2, ?_, hkey ▸ hsigned⟩
      rw [storeBatchSignatures_of_GetBatchForHeight hbatch,
        foldl_SetBatchSigSecp256k1_batchSignatures, hget, hkey]
  · -- 数えた power は、署名の書かれる vote と新しく加わった validator の vote の power で覆われる
    have hpowers := ha.powers_eq
    have hnonneg : ∀ vote ∈ ec.Votes, 0 ≤ vote.Validator.Power := by
      intro vote hv
      have hmem : vote.Validator.Power ∈ ctx.LastCommit.Votes.map (·.Validator.Power) := by
        rw [← hpowers]
        exact List.mem_map_of_mem hv
      obtain ⟨lcVote, hlc, heq⟩ := List.mem_map.mp hmem
      exact heq ▸ hbounded.nonneg lcVote hlc
    have hbound : (ec.Votes.map (·.Validator.Power)).sum ≤ MaxTotalVotingPower := by
      rw [hpowers]
      exact hbounded.total_le
    have hmajority := checkVoteExtensions_supermajority ha.enabled hnonneg hbound
      (ValidateVoteExtensions_eq_ok_iff.mp ha.valid).2
    have hcover := weightOf_le_add hnonneg ha.counted_covered
    unfold totalPower signedPower newcomerPower
    omega

/--
例の提案では、署名の書かれる二票の power 70 と、新しく加わった validator の power 20 を合わせて、
全体の power 100 の三分の二を超える。
-/
theorem batch_signature_threshold_sample :
    sampleCtx.LastCommit.PowerBounded ∧
      ProcessProposalHandler sampleHandlers sampleCrypto sampleCodec sampleCtx sampleStore
        [sampleCommit] = .ok .accept ∧
      ∃ s' : Store, PreBlocker sampleHandlers sampleCodec sampleCtx [sampleCommit] sampleStore = .ok s' ∧
        2 * totalPower sampleCommit <
          3 * (signedPower sampleCommit +
            newcomerPower sampleHandlers sampleStore sampleBatch.BatchNumber sampleCommit) ∧
        signedPower sampleCommit = 70 ∧
        newcomerPower sampleHandlers sampleStore sampleBatch.BatchNumber sampleCommit = 20 := by
  have hbounded : sampleCtx.LastCommit.PowerBounded := ⟨by decide, by decide⟩
  have hproc : ProcessProposalHandler sampleHandlers sampleCrypto sampleCodec sampleCtx sampleStore
      [sampleCommit] = .ok .accept := by decide
  have hbatch : sampleStore.GetBatchForHeight (addI64 sampleCtx.BlockHeight BlockOffsetCollectPhase) =
      .ok sampleBatch := by decide
  obtain ⟨ec, s', ⟨tx, rest, htx, hdec⟩, hpre, -, hpower⟩ :=
    batch_signature_threshold hbounded (by decide) hbatch hproc
  -- 注入された commit は例の commit そのものである
  obtain ⟨rfl, -⟩ := List.cons.inj htx
  obtain rfl : sampleCommit = ec := Except.ok.inj hdec
  exact ⟨hbounded, hproc, s', hpre, hpower, by decide, by decide⟩

end SedaChain.Abci
