import SedaChain.Abci.Types
import SedaChain.Infra.Weight

/-!
# vote extension の検査（`app/abci/utils.go`）

提案者が注入した `ExtendedCommitInfo` を、context の last commit と突き合わせ、vote extension
の CometBFT 署名と voting power を確かめる。

* `ValidateExtendedCommitAgainstLastCommit` — round と vote の数が同じで、vote が voting power
  の降順（同じなら address の昇順）に並び、address が重複せず、各 vote の address と power が
  last commit と同じであること。刈り込まれた形（absent で extension も署名も無い）の vote では
  flag を比べない
* `ValidateVoteExtensions` — 上の突き合わせの後、vote ごとに extension の形と署名を確かめ、
  署名の通った commit の vote の power が全体の三分の二を超えることを求める。
  power の和は `int64` で足す

次を示す。

* `ValidateExtendedCommitAgainstLastCommit_eq_ok_iff` — 突き合わせが通る条件
* `checkVoteExtensions_withLastCommit` — 突き合わせの後の検査は last commit を読まない
* `checkVoteExtensions_shaped` — 検査が通れば、どの vote も extension の形を守る
* **`checkVoteExtensions_supermajority`** — power が CometBFT の範囲にあれば、検査が通るとき、
  署名の通った commit の vote は全体の power の三分の二を真に超える
-/

namespace SedaChain.Abci

open Infra Infra.Go SedaChain.Batching

/-! ## last commit との突き合わせ -/

/-- 比べる関数。voting power の降順、同じなら address の昇順。power の差は `int64` で取る。 -/
def compareVotes (vote1 vote2 : ExtendedVoteInfo) : Int :=
  if vote1.Validator.Power = vote2.Validator.Power then
    bytesCompare vote1.Validator.Address vote2.Validator.Address
  else negI64 (subI64 vote1.Validator.Power vote2.Validator.Power)

/-- 刈り込まれたかもしれない vote。absent で、extension も署名も無い。 -/
def ExtendedVoteInfo.prunedLooking (vote : ExtendedVoteInfo) : Bool :=
  vote.BlockIdFlag = .absent && vote.VoteExtension.isEmpty && vote.ExtensionSignature.isEmpty

/-- 突き合わせの vote 一つ分。`addressCache` はそれまでの vote の address である。 -/
def checkLastCommitVote (addressCache : List Bytes) (vote : ExtendedVoteInfo) (lcVote : VoteInfo) :
    Except String Unit := do
  if vote.Validator.Address ∈ addressCache then
    throw s!"extended commit vote address {hexEncodeUpper vote.Validator.Address} is duplicated"
  if vote.Validator.Address ≠ lcVote.Validator.Address then
    throw s!"extended commit vote address {hexEncodeUpper vote.Validator.Address} does not match last commit vote address {hexEncodeUpper lcVote.Validator.Address}"
  if vote.Validator.Power ≠ lcVote.Validator.Power then
    throw s!"extended commit vote power {vote.Validator.Power} does not match last commit vote power {lcVote.Validator.Power}"
  if !vote.prunedLooking ∧ vote.BlockIdFlag ≠ lcVote.BlockIdFlag then
    throw s!"mismatched block ID flag between extended commit vote {vote.BlockIdFlag.code} and last proposed commit {lcVote.BlockIdFlag.code}"

/-- 突き合わせの loop。`i` 番目の vote を last commit の `i` 番目と比べる。 -/
def checkLastCommitVotes (addressCache : List Bytes) :
    List ExtendedVoteInfo → List VoteInfo → Except String Unit
  | vote :: votes, lcVote :: lcVotes => do
    checkLastCommitVote addressCache vote lcVote
    checkLastCommitVotes (vote.Validator.Address :: addressCache) votes lcVotes
  | _, _ => pure ()

/-- **`ValidateExtendedCommitAgainstLastCommit`**。 -/
def ValidateExtendedCommitAgainstLastCommit (ec : ExtendedCommitInfo) (lc : CommitInfo) :
    Except String Unit := do
  if ec.Round ≠ lc.Round then
    throw s!"extended commit round {ec.Round} does not match last commit round {lc.Round}"
  if ec.Votes.length ≠ lc.Votes.length then
    throw s!"extended commit votes length {ec.Votes.length} does not match last commit votes length {lc.Votes.length}"
  if !IsSortedFunc compareVotes ec.Votes then
    throw "extended commit votes are not sorted by voting power"
  checkLastCommitVotes [] ec.Votes lc.Votes

/-- 一つの vote が last commit の vote に合うこと。刈り込まれた形の vote は flag を問わない。 -/
def VoteMatches (vote : ExtendedVoteInfo) (lcVote : VoteInfo) : Prop :=
  vote.Validator.Address = lcVote.Validator.Address ∧
    vote.Validator.Power = lcVote.Validator.Power ∧
    (vote.prunedLooking = false → vote.BlockIdFlag = lcVote.BlockIdFlag)

theorem checkLastCommitVote_eq_ok_iff {addressCache : List Bytes} {vote : ExtendedVoteInfo}
    {lcVote : VoteInfo} :
    checkLastCommitVote addressCache vote lcVote = .ok () ↔
      vote.Validator.Address ∉ addressCache ∧ VoteMatches vote lcVote := by
  unfold checkLastCommitVote VoteMatches
  by_cases hdup : vote.Validator.Address ∈ addressCache
  · simp [hdup]
  simp only [hdup, ↓reduceIte, pure_eq_ok, not_false_eq_true, true_and]
  by_cases haddr : vote.Validator.Address = lcVote.Validator.Address
  swap
  · simp [haddr]
  by_cases hpower : vote.Validator.Power = lcVote.Validator.Power
  swap
  · simp [haddr, hpower]
  by_cases hflag : vote.prunedLooking = false ∧ vote.BlockIdFlag ≠ lcVote.BlockIdFlag
  · simp [haddr, hpower, hflag]
  · simp only [not_and, not_not] at hflag
    simp [haddr, hpower]

/--
loop が通るのは、どの vote の address もそれまでに無く、address が重複せず、どの vote も
last commit の同じ位置の vote に合うときに限る。
-/
theorem checkLastCommitVotes_eq_ok_iff :
    ∀ {addressCache : List Bytes} {votes : List ExtendedVoteInfo} {lcVotes : List VoteInfo},
      votes.length = lcVotes.length →
      (checkLastCommitVotes addressCache votes lcVotes = .ok () ↔
        (∀ v ∈ votes, v.Validator.Address ∉ addressCache) ∧
          (votes.map (·.Validator.Address)).Nodup ∧ List.Forall₂ VoteMatches votes lcVotes)
  | _, [], [], _ => by simp [checkLastCommitVotes]
  | addressCache, vote :: votes, lcVote :: lcVotes, hlen => by
    have ih := @checkLastCommitVotes_eq_ok_iff (vote.Validator.Address :: addressCache) votes lcVotes
      (by simpa using hlen)
    simp only [checkLastCommitVotes]
    rw [bind_eq_ok]
    constructor
    · rintro ⟨u, hvote, hrest⟩
      obtain ⟨hfresh, hmatch⟩ := checkLastCommitVote_eq_ok_iff.mp hvote
      obtain ⟨hnot, hnodup, hall⟩ := ih.mp hrest
      refine ⟨?_, ?_, .cons hmatch hall⟩
      · intro v hv
        rcases List.mem_cons.mp hv with rfl | hv
        · exact hfresh
        · exact fun hc => hnot v hv (List.mem_cons_of_mem _ hc)
      · refine List.nodup_cons.mpr ⟨fun hmem => ?_, hnodup⟩
        obtain ⟨v, hv, heq⟩ := List.mem_map.mp hmem
        exact hnot v hv (by rw [heq]; exact List.mem_cons_self)
    · rintro ⟨hfresh, hnodup, hall⟩
      obtain ⟨hnot, hnodup'⟩ := List.nodup_cons.mp hnodup
      cases hall with
      | cons hmatch hall =>
        refine ⟨(), checkLastCommitVote_eq_ok_iff.mpr ⟨hfresh vote List.mem_cons_self, hmatch⟩,
          ih.mpr ⟨fun v hv hc => ?_, hnodup', hall⟩⟩
        rcases List.mem_cons.mp hc with heq | hc
        · exact hnot (List.mem_map.mpr ⟨v, hv, heq⟩)
        · exact hfresh v (List.mem_cons_of_mem _ hv) hc
  | _, [], _ :: _, hlen => by simp at hlen
  | _, _ :: _, [], hlen => by simp at hlen

/-- last commit に合う vote の列は、同じ power の並びを持つ。 -/
theorem powers_eq_of_forall₂ {votes : List ExtendedVoteInfo} {lcVotes : List VoteInfo}
    (hall : List.Forall₂ VoteMatches votes lcVotes) :
    votes.map (·.Validator.Power) = lcVotes.map (·.Validator.Power) := by
  induction hall with
  | nil => rfl
  | cons hmatch _ ih => rw [List.map_cons, List.map_cons, hmatch.2.1, ih]

/--
**突き合わせが通る条件。** round が同じで、vote が並んでいて、address が重複せず、
どの vote も last commit の同じ位置の vote に合う。
-/
theorem ValidateExtendedCommitAgainstLastCommit_eq_ok_iff {ec : ExtendedCommitInfo}
    {lc : CommitInfo} :
    ValidateExtendedCommitAgainstLastCommit ec lc = .ok () ↔
      ec.Round = lc.Round ∧ IsSortedFunc compareVotes ec.Votes = true ∧
        (ec.Votes.map (·.Validator.Address)).Nodup ∧ List.Forall₂ VoteMatches ec.Votes lc.Votes := by
  unfold ValidateExtendedCommitAgainstLastCommit
  by_cases hround : ec.Round = lc.Round
  swap
  · simp [hround]
  by_cases hlen : ec.Votes.length = lc.Votes.length
  swap
  · simp only [hround, hlen, ne_eq, not_true_eq_false, ↓reduceIte, not_false_eq_true, true_and]
    refine ⟨fun h => (nomatch h), fun ⟨_, _, hall⟩ => absurd hall.length_eq hlen⟩
  by_cases hsorted : IsSortedFunc compareVotes ec.Votes = true
  swap
  · simp [hround, hlen, hsorted]
  simp only [hround, hlen, hsorted, ne_eq, not_true_eq_false, ↓reduceIte, Bool.not_true,
    Bool.false_eq_true, true_and]
  rw [checkLastCommitVotes_eq_ok_iff hlen]
  simp

/-! ## vote extension と voting power -/

variable {Tx : Type} (h : Handlers Tx) (crypto : Crypto) (codec : Codec Tx)

/-- vote の extension に CometBFT の署名が署名する内容。height は一つ前の block である。 -/
def canonicalExtension (ctx : Ctx) (round : Int) (vote : ExtendedVoteInfo) : CanonicalVoteExtension :=
  ⟨vote.VoteExtension, subI64 ctx.BlockHeight 1, round, ctx.ChainID⟩

/--
`ValidateVoteExtensions` の vote 一つ分。`acc` は `(totalVP, sumVP)` である。
-/
def validateVoteExtension (extensionsEnabled : Bool) (ctx : Ctx) (round : Int) (acc : Int × Int)
    (vote : ExtendedVoteInfo) : Except String (Int × Int) :=
  let totalVP := addI64 acc.1 vote.Validator.Power
  if extensionsEnabled then do
    if vote.BlockIdFlag = .commit ∧ vote.ExtensionSignature.length = 0 then
      throw s!"vote extension signature is missing; validator addr {codec.ValidatorString vote.Validator}"
    if vote.BlockIdFlag ≠ .commit ∧ vote.VoteExtension.length ≠ 0 then
      throw s!"non-commit vote extension present; validator addr {codec.ValidatorString vote.Validator}"
    if vote.BlockIdFlag ≠ .commit ∧ vote.ExtensionSignature.length ≠ 0 then
      throw s!"non-commit vote extension signature present; validator addr {codec.ValidatorString vote.Validator}"
    -- commit の vote だけが power を数える
    if vote.BlockIdFlag ≠ .commit then return (totalVP, acc.2)
    match h.GetPubKeyByConsAddr vote.Validator.Address with
    | .error _ => return (totalVP, acc.2)
    | .ok pubKeyProto =>
      let cmtPubKey ← (crypto.PubKeyFromProto pubKeyProto).mapError fun err =>
        s!"failed to convert validator {hexEncodeUpper vote.Validator.Address} public key: {err}"
      let extSignBytes := codec.MarshalDelimited (canonicalExtension ctx round vote)
      if !crypto.VerifySignature cmtPubKey extSignBytes vote.ExtensionSignature then
        throw s!"failed to verify validator {hexEncodeUpper vote.Validator.Address} vote extension signature"
      return (totalVP, addI64 acc.2 vote.Validator.Power)
  else do
    if vote.VoteExtension.length ≠ 0 then
      throw s!"vote extension present but extensions disabled; validator addr {codec.ValidatorString vote.Validator}"
    if vote.ExtensionSignature.length ≠ 0 then
      throw s!"vote extension signature present but extensions disabled; validator addr {codec.ValidatorString vote.Validator}"
    return (totalVP, acc.2)

/-- 突き合わせの後の検査。vote ごとの検査と、三分の二の power。 -/
def checkVoteExtensions (ctx : Ctx) (extCommit : ExtendedCommitInfo) : Except String Unit := do
  let extensionsEnabled := IsVoteExtensionsEnabled ctx
  let (totalVP, sumVP) ← extCommit.Votes.foldlM
    (validateVoteExtension h crypto codec extensionsEnabled ctx extCommit.Round) (0, 0)
  if totalVP ≤ 0 then
    throw s!"total voting power must be positive, got: {totalVP}"
  let requiredVP := addI64 (quoI64 (mulI64 totalVP 2) 3) 1
  if sumVP < requiredVP then
    throw s!"insufficient cumulative voting power received to verify vote extensions; got: {sumVP}, expected: >={requiredVP}"

/-- **`ValidateVoteExtensions`**。 -/
def ValidateVoteExtensions (ctx : Ctx) (extCommit : ExtendedCommitInfo) : Except String Unit := do
  ValidateExtendedCommitAgainstLastCommit extCommit ctx.LastCommit
  checkVoteExtensions h crypto codec ctx extCommit

/-! ## 検査の性質 -/

/-- 突き合わせの後の検査は、context の last commit を読まない。 -/
theorem checkVoteExtensions_withLastCommit (ctx : Ctx) (lc : CommitInfo) (ec : ExtendedCommitInfo) :
    checkVoteExtensions h crypto codec { ctx with LastCommit := lc } ec =
      checkVoteExtensions h crypto codec ctx ec := rfl

variable {h crypto codec} in
theorem ValidateVoteExtensions_eq_ok_iff {ctx : Ctx} {ec : ExtendedCommitInfo} :
    ValidateVoteExtensions h crypto codec ctx ec = .ok () ↔
      ValidateExtendedCommitAgainstLastCommit ec ctx.LastCommit = .ok () ∧
        checkVoteExtensions h crypto codec ctx ec = .ok () := by
  unfold ValidateVoteExtensions
  rw [bind_eq_ok]
  constructor
  · rintro ⟨u, hlc, hrest⟩
    exact ⟨hlc, hrest⟩
  · rintro ⟨hlc, hrest⟩
    exact ⟨(), hlc, hrest⟩

/--
vote extension の形。commit の vote には extension の署名があり、commit でない vote には
extension も署名も無い。
-/
def ExtensionShaped (vote : ExtendedVoteInfo) : Prop :=
  (vote.BlockIdFlag = .commit → vote.ExtensionSignature ≠ []) ∧
    (vote.BlockIdFlag ≠ .commit → vote.VoteExtension = [] ∧ vote.ExtensionSignature = [])

/-- power を数える vote。commit で、公開鍵が読めて、extension の署名が通る。 -/
def countedVote (ctx : Ctx) (round : Int) (vote : ExtendedVoteInfo) : Bool :=
  vote.BlockIdFlag = .commit &&
    match h.GetPubKeyByConsAddr vote.Validator.Address with
    | .error _ => false
    | .ok pubKeyProto =>
      match crypto.PubKeyFromProto pubKeyProto with
      | .error _ => false
      | .ok cmtPubKey => crypto.VerifySignature cmtPubKey
          (codec.MarshalDelimited (canonicalExtension ctx round vote)) vote.ExtensionSignature

variable {h crypto codec}

/-- 有効なときの vote 一つ分：power を足し、数える vote なら `sumVP` にも足す。 -/
theorem validateVoteExtension_eq_ok {ctx : Ctx} {round : Int} {acc acc' : Int × Int}
    {vote : ExtendedVoteInfo}
    (hstep : validateVoteExtension h crypto codec true ctx round acc vote = .ok acc') :
    acc' = (addI64 acc.1 vote.Validator.Power,
        if countedVote h crypto codec ctx round vote then addI64 acc.2 vote.Validator.Power
        else acc.2) ∧ ExtensionShaped vote := by
  unfold validateVoteExtension at hstep
  unfold countedVote ExtensionShaped
  by_cases hcommit : vote.BlockIdFlag = .commit
  · by_cases hsig : vote.ExtensionSignature.length = 0
    · simp [hcommit, hsig] at hstep
    have hsig' : vote.ExtensionSignature ≠ [] := fun he => hsig (by rw [he]; rfl)
    simp only [hcommit, hsig, and_false, ↓reduceIte, ne_eq, not_true_eq_false, false_and,
      pure_eq_ok, decide_true, Bool.true_and] at hstep ⊢
    refine ⟨?_, fun _ => hsig', fun hc => hc.elim⟩
    -- 公開鍵が読めなければ数えず、読めれば署名の検査を通ったときだけ数える
    cases hpk : h.GetPubKeyByConsAddr vote.Validator.Address with
    | error e =>
      rw [hpk] at hstep
      cases hstep
      simp
    | ok pubKeyProto =>
      rw [hpk] at hstep
      dsimp only at hstep
      obtain ⟨cmtPubKey, hkey, hrest⟩ := bind_eq_ok.mp hstep
      have hkey' := mapError_eq_ok.mp hkey
      by_cases hverify : crypto.VerifySignature cmtPubKey
          (codec.MarshalDelimited (canonicalExtension ctx round vote)) vote.ExtensionSignature = true
      · simp only [hverify, Bool.not_true, Bool.false_eq_true, ↓reduceIte,
          Except.ok.injEq] at hrest
        simp [hkey', hverify, ← hrest]
      · simp [hverify] at hrest
  · by_cases hext : vote.VoteExtension.length = 0
    swap
    · simp [hcommit, hext] at hstep
    by_cases hsig : vote.ExtensionSignature.length = 0
    swap
    · simp [hcommit, hext, hsig] at hstep
    simp [hcommit, hext, hsig] at hstep ⊢
    exact ⟨hstep.symm, List.length_eq_zero_iff.mp hext, List.length_eq_zero_iff.mp hsig⟩

/--
有効なときの loop：`totalVP` はすべての vote の power の和、`sumVP` は数える vote の power の
和で、どちらも `int64` で折り返した値である。どの vote も extension の形を守る。
-/
theorem foldlM_validateVoteExtension_eq_ok {ctx : Ctx} {round : Int} :
    ∀ {votes : List ExtendedVoteInfo} {t u T S : Int},
      votes.foldlM (validateVoteExtension h crypto codec true ctx round) (wrapI64 t, wrapI64 u) =
          .ok (T, S) →
        T = wrapI64 (t + (votes.map (·.Validator.Power)).sum) ∧
          S = wrapI64 (u + weightOf (·.Validator.Power) (countedVote h crypto codec ctx round) votes) ∧
          ∀ v ∈ votes, ExtensionShaped v
  | [], t, u, T, S, hfold => by
    simp only [List.foldlM_nil, pure_eq_ok, Except.ok.injEq, Prod.mk.injEq] at hfold
    obtain ⟨rfl, rfl⟩ := hfold
    simp
  | vote :: votes, t, u, T, S, hfold => by
    rw [List.foldlM_cons] at hfold
    obtain ⟨acc, hstep, hrest⟩ := bind_eq_ok.mp hfold
    obtain ⟨rfl, hshape⟩ := validateVoteExtension_eq_ok hstep
    -- 一歩進めた累積も、折り返す前の和を折り返した形に書ける
    have hacc : (addI64 (wrapI64 t) vote.Validator.Power,
        if countedVote h crypto codec ctx round vote then addI64 (wrapI64 u) vote.Validator.Power
        else wrapI64 u) =
        (wrapI64 (t + vote.Validator.Power),
          wrapI64 (u + if countedVote h crypto codec ctx round vote then vote.Validator.Power
            else 0)) := by
      split <;> simp
    rw [hacc] at hrest
    obtain ⟨hT, hS, hall⟩ := foldlM_validateVoteExtension_eq_ok hrest
    refine ⟨?_, ?_, List.forall_mem_cons.mpr ⟨hshape, hall⟩⟩
    · rw [hT, List.map_cons, List.sum_cons, Int.add_assoc]
    · rw [hS, weightOf_cons, Int.add_assoc]

/-- 有効なとき、検査が通れば、どの vote も extension の形を守る。 -/
theorem checkVoteExtensions_shaped {ctx : Ctx} {ec : ExtendedCommitInfo}
    (hen : IsVoteExtensionsEnabled ctx = true)
    (hcheck : checkVoteExtensions h crypto codec ctx ec = .ok ()) :
    ∀ v ∈ ec.Votes, ExtensionShaped v := by
  unfold checkVoteExtensions at hcheck
  rw [hen] at hcheck
  obtain ⟨⟨T, S⟩, hfold, -⟩ := bind_eq_ok.mp hcheck
  exact (foldlM_validateVoteExtension_eq_ok (t := 0) (u := 0) hfold).2.2

/--
**三分の二を超える power。** vote extension が有効で、power が負でなく和が
`MaxTotalVotingPower` 以下なら、検査が通るとき、数える vote の power の三倍は全体の power の
二倍を真に超える。`int64` の計算はこの範囲では折り返さない。
-/
theorem checkVoteExtensions_supermajority {ctx : Ctx} {ec : ExtendedCommitInfo}
    (hen : IsVoteExtensionsEnabled ctx = true)
    (hnonneg : ∀ v ∈ ec.Votes, 0 ≤ v.Validator.Power)
    (hbound : (ec.Votes.map (·.Validator.Power)).sum ≤ MaxTotalVotingPower)
    (hcheck : checkVoteExtensions h crypto codec ctx ec = .ok ()) :
    2 * (ec.Votes.map (·.Validator.Power)).sum <
      3 * weightOf (·.Validator.Power) (countedVote h crypto codec ctx ec.Round) ec.Votes := by
  unfold checkVoteExtensions at hcheck
  rw [hen] at hcheck
  obtain ⟨⟨T, S⟩, hfold, hfinal⟩ := bind_eq_ok.mp hcheck
  obtain ⟨hT, hS, -⟩ := foldlM_validateVoteExtension_eq_ok (t := 0) (u := 0) hfold
  set total := (ec.Votes.map (·.Validator.Power)).sum
  set counted := weightOf (·.Validator.Power) (countedVote h crypto codec ctx ec.Round) ec.Votes
  -- 和は `[0, MaxTotalVotingPower]` に収まるので、折り返しは起こらない
  have hmax : MaxTotalVotingPower < 2 ^ 60 := by decide
  have htotal0 : 0 ≤ total := List.sum_nonneg (by simpa using hnonneg)
  have hcounted0 : 0 ≤ counted := weightOf_nonneg _ hnonneg
  have hcounted : counted ≤ total := weightOf_le_sum _ hnonneg
  rw [Int.zero_add] at hT hS
  rw [wrapI64_of_mem (by omega) (by omega)] at hT hS
  subst hT hS
  have hmul : mulI64 total 2 = total * 2 := mulI64_of_mem (by omega) (by omega)
  have hquo0 : 0 ≤ (total * 2).tdiv 3 := Int.tdiv_nonneg (by omega) (by decide)
  have hquo : (total * 2).tdiv 3 ≤ total * 2 := Int.tdiv_le_self _ (by omega)
  have hrequired : addI64 (quoI64 (mulI64 total 2) 3) 1 = (total * 2).tdiv 3 + 1 := by
    rw [hmul, quoI64_of_mem (by omega) (by omega), addI64_of_mem (by omega) (by omega)]
  simp only [hrequired] at hfinal
  by_cases hpos : total ≤ 0
  · simp [hpos] at hfinal
  by_cases hlow : counted < (total * 2).tdiv 3 + 1
  · simp [hpos, hlow] at hfinal
  exact two_mul_lt_three_mul htotal0 (by omega)

end SedaChain.Abci
