import SedaChain.Abci.Signatures

/-!
# 提案者と validator の一致（`PrepareProposal` と `ProcessProposal`）

提案者の `PrepareProposal` が注入した commit を、同じ状態の `ProcessProposal` は拒まない。

`PrepareProposal` は確かめられない vote を absent にして extension と署名を消してから
`ValidateVoteExtensions` を呼ぶ。`ProcessProposal` はそれを context の last commit と突き合わせ
直す。刈り込まれた vote の flag は last commit と違いうるが、突き合わせは刈り込まれた形の vote
の flag を比べない。刈り込まれなかった vote は、提案者の受け取った commit の vote のままである。
提案者の context の last commit は何でもよい。

* `PrepareProposalHandler_collecting`、`PrepareProposalHandler_of_not_collecting` —
  `PrepareProposal` の結果
* `pruneVote_matches` — 刈り込んだ vote も last commit の vote に合う
* `prunedCommit_validates` — 刈り込んだ commit は、どの last commit の下で検査を通っても、
  受け取った commit と一致する last commit の下で検査を通る
* **`proposer_and_validators_agree`** — 注入は `ProcessProposal` と `PreBlocker` が読むときに限って
  置かれ、置かれた注入を `ProcessProposal` は既定の handler に渡す
-/

namespace SedaChain.Abci

open Infra Infra.Go SedaChain.Batching

variable {Tx : Type} (h : Handlers Tx) (crypto : Crypto) (codec : Codec Tx)

/-- 提案者の受け取った commit が last commit と一致すること。round と、vote の並び、validator、flag。 -/
structure ExtendedCommitInfo.ConsistentWith (ec : ExtendedCommitInfo) (lc : CommitInfo) : Prop where
  round : ec.Round = lc.Round
  votes : List.Forall₂ (fun vote lcVote => vote.Validator = lcVote.Validator ∧
    vote.BlockIdFlag = lcVote.BlockIdFlag) ec.Votes lc.Votes

/-- `ProcessProposal` と `PreBlocker` が注入を読むこと。vote extension が有効で、集める batch がある。 -/
def InjectionExpected (ctx : Ctx) (s : Store) : Prop :=
  IsVoteExtensionsEnabled ctx = true ∧
    ∃ batch, s.GetBatchForHeight (addI64 ctx.BlockHeight BlockOffsetCollectPhase) = .ok batch

/-- `PrepareProposal` が刈り込んだ commit。 -/
def prunedCommit (s : Store) (batch : Batch) (ec : ExtendedCommitInfo) : ExtendedCommitInfo :=
  { ec with Votes := ec.Votes.map (pruneVote h crypto s batch) }

variable {h crypto codec}

/-! ## `PrepareProposal` の結果 -/

section Prepare

variable {ctx : Ctx} {s : Store} {req : PrepareRequest Tx} {txs : List Tx}

/--
集めるときの `PrepareProposal`。刈り込んだ commit が検査を通り、その符号化を既定の handler の
tx の前に置く。
-/
theorem PrepareProposalHandler_collecting {batch : Batch} (hen : IsVoteExtensionsEnabled ctx = true)
    (hbatch : s.GetBatchForHeight (addI64 ctx.BlockHeight BlockOffsetCollectPhase) = .ok batch)
    (hprep : PrepareProposalHandler h crypto codec ctx s req = .ok txs) :
    ValidateVoteExtensions h crypto codec ctx (prunedCommit h crypto s batch req.LocalLastCommit) =
        .ok () ∧
      ∃ req' defaultTxs, h.defaultPrepareProposal ctx req' = .ok defaultTxs ∧
        txs = codec.Marshal (prunedCommit h crypto s batch req.LocalLastCommit) :: defaultTxs := by
  unfold PrepareProposalHandler at hprep
  simp only [hbatch, pure_eq_ok, ok_bind, hen] at hprep
  obtain ⟨u, hval, hrest⟩ := bind_eq_ok.mp hprep
  refine ⟨mapError_eq_ok.mp hval, ?_⟩
  by_cases hsize : codec.size (codec.Marshal (prunedCommit h crypto s batch req.LocalLastCommit)) >
      req.MaxTxBytes
  · simp [prunedCommit] at hsize
    simp [hsize] at hrest
  · simp only [prunedCommit] at hsize
    simp only [hsize, ↓reduceIte] at hrest
    obtain ⟨defaultTxs, hdefault, htxs⟩ := bind_eq_ok.mp hrest
    cases htxs
    exact ⟨_, defaultTxs, hdefault, rfl⟩

/-- 集めないときの `PrepareProposal` は、既定の handler そのものである。 -/
theorem PrepareProposalHandler_of_not_collecting (hnot : ¬InjectionExpected ctx s)
    (hprep : PrepareProposalHandler h crypto codec ctx s req = .ok txs) :
    h.defaultPrepareProposal ctx req = .ok txs := by
  unfold PrepareProposalHandler at hprep
  cases hb : s.GetBatchForHeight (addI64 ctx.BlockHeight BlockOffsetCollectPhase) with
  | error err =>
    simp only [hb, GetBatchForHeight_error hb, ↓reduceIte, pure_eq_ok, ok_bind] at hprep
    cases hen : IsVoteExtensionsEnabled ctx <;> simpa [hen] using hprep
  | ok batch =>
    -- batch があるなら、vote extension は無効である
    have hen : IsVoteExtensionsEnabled ctx = false := by
      cases hen : IsVoteExtensionsEnabled ctx
      · rfl
      · exact absurd ⟨hen, batch, hb⟩ hnot
    simpa [hb, hen] using hprep

end Prepare

/-! ## 刈り込んだ commit の検査 -/

/-- 刈り込んだ vote も、受け取った vote と一致する last commit の vote に合う。 -/
theorem pruneVote_matches {s : Store} {batch : Batch} {vote : ExtendedVoteInfo} {lcVote : VoteInfo}
    (hmatch : vote.Validator = lcVote.Validator ∧ vote.BlockIdFlag = lcVote.BlockIdFlag) :
    VoteMatches (pruneVote h crypto s batch vote) lcVote := by
  unfold pruneVote VoteMatches
  split
  · exact ⟨by rw [hmatch.1], by rw [hmatch.1], fun _ => hmatch.2⟩
  · -- 刈り込まれた vote は刈り込まれた形なので、flag は比べない
    refine ⟨by simp [hmatch.1], by simp [hmatch.1], fun hpruned => ?_⟩
    simp [ExtendedVoteInfo.prunedLooking] at hpruned

/-- 刈り込んで commit に残った vote は、署名が確かめられている。 -/
theorem pruneVote_commit {s : Store} {batch : Batch} {vote : ExtendedVoteInfo}
    (hcommit : (pruneVote h crypto s batch vote).BlockIdFlag = .commit) :
    verifyBatchSignatures h crypto s batch.BatchNumber batch.BatchId
      (pruneVote h crypto s batch vote).VoteExtension
      (pruneVote h crypto s batch vote).Validator.Address = .ok () := by
  unfold pruneVote at hcommit ⊢
  split
  · next hv => exact hv
  · next hv =>
    rw [hv] at hcommit
    cases hcommit

/--
刈り込んだ commit が、ある last commit の下で突き合わせを通れば、受け取った commit と一致する
last commit の下でも通る。並びと address の重複は commit だけで決まり、残りは一致から従う。
-/
theorem prunedCommit_validates {s : Store} {batch : Batch} {ec : ExtendedCommitInfo}
    {lc lcP : CommitInfo} (hcons : ec.ConsistentWith lc)
    (hP : ValidateExtendedCommitAgainstLastCommit (prunedCommit h crypto s batch ec) lcP = .ok ()) :
    ValidateExtendedCommitAgainstLastCommit (prunedCommit h crypto s batch ec) lc = .ok () := by
  obtain ⟨-, hsorted, hnodup, -⟩ := ValidateExtendedCommitAgainstLastCommit_eq_ok_iff.mp hP
  refine ValidateExtendedCommitAgainstLastCommit_eq_ok_iff.mpr ⟨hcons.round, hsorted, hnodup, ?_⟩
  exact List.forall₂_map_left_iff.mpr (hcons.votes.imp fun _ _ hmatch => pruneVote_matches hmatch)

/-! ## 一致 -/

/--
**提案者と validator は一致する。** JSON の符号化が往復し、提案者の受け取った commit が context の
last commit と一致するなら、どんな last commit を見た提案者の `PrepareProposal` の結果 `txs` も、
既定の handler の tx `defaultTxs` であるか、その前に注入を置いたものである。

* `ProcessProposal` と `PreBlocker` が注入を読むなら、`txs` は刈り込んだ commit の注入で始まり、
  その commit は同じ状態の `ValidateVoteExtensions` を通り、commit の vote の署名はどれも
  確かめられ、`ProcessProposal` の結果は `defaultTxs` への既定の handler の結果である
* 読まないなら、`txs` は `defaultTxs` のままで、`ProcessProposal` は既定の handler に渡し、
  `PreBlocker` は何も書かない
-/
theorem proposer_and_validators_agree {ctx : Ctx} {lcP : CommitInfo} {s : Store}
    {req : PrepareRequest Tx} {txs : List Tx}
    (hjson : ∀ ec, codec.Unmarshal (codec.Marshal ec) = .ok ec)
    (hcons : req.LocalLastCommit.ConsistentWith ctx.LastCommit)
    (hprep : PrepareProposalHandler h crypto codec { ctx with LastCommit := lcP } s req = .ok txs) :
    ∃ req' defaultTxs, h.defaultPrepareProposal { ctx with LastCommit := lcP } req' = .ok defaultTxs ∧
      (InjectionExpected ctx s →
        ∃ ec, txs = codec.Marshal ec :: defaultTxs ∧
          ValidateVoteExtensions h crypto codec ctx ec = .ok () ∧
          (∀ batch, s.GetBatchForHeight (addI64 ctx.BlockHeight BlockOffsetCollectPhase) = .ok batch →
            ∀ vote ∈ ec.Votes, vote.BlockIdFlag = .commit →
              verifyBatchSignatures h crypto s batch.BatchNumber batch.BatchId vote.VoteExtension
                vote.Validator.Address = .ok ()) ∧
          ProcessProposalHandler h crypto codec ctx s txs = h.defaultProcessProposal ctx defaultTxs) ∧
      (¬InjectionExpected ctx s →
        txs = defaultTxs ∧
          ProcessProposalHandler h crypto codec ctx s txs = h.defaultProcessProposal ctx txs ∧
          PreBlocker h codec ctx txs s = .ok s) := by
  by_cases hexp : InjectionExpected ctx s
  · obtain ⟨hen, batch, hbatch⟩ := hexp
    obtain ⟨hvalP, req', defaultTxs, hdefault, rfl⟩ :=
      PrepareProposalHandler_collecting
        (show IsVoteExtensionsEnabled { ctx with LastCommit := lcP } = true from hen) hbatch hprep
    -- 提案者の検査のうち、last commit との突き合わせだけを一致する last commit で取り直す
    obtain ⟨hlcP, hcheck⟩ := ValidateVoteExtensions_eq_ok_iff.mp hvalP
    have hval : ValidateVoteExtensions h crypto codec ctx
        (prunedCommit h crypto s batch req.LocalLastCommit) = .ok () :=
      ValidateVoteExtensions_eq_ok_iff.mpr ⟨prunedCommit_validates hcons hlcP,
        by rw [← checkVoteExtensions_withLastCommit h crypto codec ctx lcP]; exact hcheck⟩
    have hverify : ∀ batch', s.GetBatchForHeight (addI64 ctx.BlockHeight BlockOffsetCollectPhase) =
        .ok batch' → ∀ vote ∈ (prunedCommit h crypto s batch req.LocalLastCommit).Votes,
          vote.BlockIdFlag = .commit →
          verifyBatchSignatures h crypto s batch'.BatchNumber batch'.BatchId vote.VoteExtension
            vote.Validator.Address = .ok () := by
      intro batch' hbatch' vote hv hcommit
      rw [hbatch] at hbatch'
      cases hbatch'
      obtain ⟨vote₀, -, rfl⟩ := List.mem_map.mp hv
      exact pruneVote_commit hcommit
    refine ⟨req', defaultTxs, hdefault, fun _ => ⟨_, rfl, hval, hverify, ?_⟩, fun hnot => ?_⟩
    · exact ProcessProposalHandler_injected hen hbatch (hjson _) hval (hverify batch hbatch)
    · exact absurd ⟨hen, batch, hbatch⟩ hnot
  · have hdefault := PrepareProposalHandler_of_not_collecting
      (show ¬InjectionExpected { ctx with LastCommit := lcP } s from hexp) hprep
    have hnot : IsVoteExtensionsEnabled ctx = true →
        ∀ batch, s.GetBatchForHeight (addI64 ctx.BlockHeight BlockOffsetCollectPhase) ≠ .ok batch :=
      fun hen batch hb => hexp ⟨hen, batch, hb⟩
    exact ⟨req, txs, hdefault, fun hin => absurd hin hexp, fun _ =>
      ⟨rfl, ProcessProposalHandler_of_not_collecting hnot, PreBlocker_of_not_collecting hnot⟩⟩

/--
提案者の受け取った commit。`[10]` の extension は木 0 の address に戻らないので、提案者はその vote を
刈り込む。
-/
def sampleLocalCommit : ExtendedCommitInfo :=
  ⟨0, [⟨⟨[9], 50⟩, sampleExtension 1, [1], .commit⟩, ⟨⟨[10], 20⟩, sampleExtension 3, [1], .commit⟩,
    ⟨⟨[11], 20⟩, [], [1], .commit⟩, ⟨⟨[12], 10⟩, [], [], .absent⟩]⟩

/--
例の提案者は `[10]` の vote を刈り込んだ commit を注入し、その flag は last commit と違うが、validator は
それを既定の handler に渡す。
-/
theorem proposer_and_validators_agree_sample :
    sampleLocalCommit.ConsistentWith sampleCtx.LastCommit ∧
      PrepareProposalHandler sampleHandlers sampleCrypto sampleCodec
        { sampleCtx with LastCommit := sampleCtx.LastCommit } sampleStore ⟨sampleLocalCommit, 100, []⟩ =
        .ok [prunedCommit sampleHandlers sampleCrypto sampleStore sampleBatch sampleLocalCommit] ∧
      (prunedCommit sampleHandlers sampleCrypto sampleStore sampleBatch sampleLocalCommit).Votes.map
        (·.BlockIdFlag) = [.commit, .absent, .commit, .absent] ∧
      ∃ defaultTxs, ProcessProposalHandler sampleHandlers sampleCrypto sampleCodec sampleCtx sampleStore
        [prunedCommit sampleHandlers sampleCrypto sampleStore sampleBatch sampleLocalCommit] =
          sampleHandlers.defaultProcessProposal sampleCtx defaultTxs := by
  have hcons : sampleLocalCommit.ConsistentWith sampleCtx.LastCommit :=
    ⟨rfl, .cons ⟨rfl, rfl⟩ (.cons ⟨rfl, rfl⟩ (.cons ⟨rfl, rfl⟩ (.cons ⟨rfl, rfl⟩ .nil)))⟩
  have hprep : PrepareProposalHandler sampleHandlers sampleCrypto sampleCodec
      { sampleCtx with LastCommit := sampleCtx.LastCommit } sampleStore ⟨sampleLocalCommit, 100, []⟩ =
      .ok [prunedCommit sampleHandlers sampleCrypto sampleStore sampleBatch sampleLocalCommit] := by decide
  have hexp : InjectionExpected sampleCtx sampleStore := ⟨by decide, sampleBatch, by decide⟩
  obtain ⟨-, defaultTxs, -, hin, -⟩ :=
    proposer_and_validators_agree (fun _ => rfl) hcons hprep
  obtain ⟨ec, -, -, -, hproc⟩ := hin hexp
  exact ⟨hcons, hprep, by decide, defaultTxs, hproc⟩

end SedaChain.Abci
