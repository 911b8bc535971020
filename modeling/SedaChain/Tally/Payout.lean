import SedaChain.Tally.Conservation

/-!
# tally の支払いの表（`x/tally/README.md`）

`Keeper.ProcessTallies` が gas meter を持たせた要求は、README の表の七つの行のどれかに落ちる
（`TallyOutcome`）。行は filter の誤りで決まり、filter を通った要求では tally VM の準備ができたかで
決まる（`Keeper.tallyOutcome`）。どの行でも

* 使った tally gas は「基本料金 + filter の料金 + tally VM の gas」を上限で抑えたものである。
  filter の料金は基本合意に達した行でだけ、tally VM の gas は VM が走った行でだけ払う
* 基本合意に達しなかった行では、data proxy には払わず、executor には固定額を払う
* 基本合意に達した行では、proxy と executor への支払いは報告による計量がすべてである
* 減額の印が立つのは、filter 入力が不正、data の合意が無い、tally VM が走らなかった、の三行である

（`ProcessTallies_payout_table`）。filter の料金は constructor が入力を検査する前に払うので、
`FilterMode` の入力が短すぎて filter 入力が不正になった行でも払われる
（`ProcessTallies_charges_invalid_mode_input`）。

証明は要求の位置 `i` の結果を phase ごとに追う。

* phase 1：要求ごとの結果と、tally VM に渡す item（`tallyRequest_filtered`、`filterPhase_at`）
* phase 2：item の位置は相異なり、VM の結果はその位置の結果だけを書き換える（`execPhase_at`）
* phase 3：計量は tally gas と減額の印を変えず、支払いを記録するだけである（`finalizeTally_row`）
-/

namespace SedaChain.Tally

open Infra Infra.Go SedaChain.Batching

/-! ## 表の行 -/

/-- README の支払いの表の行。上から、誤りを見つける順である。 -/
inductive TallyOutcome where
  /-- commit が replication factor に足りない（filter は走らない）。 -/
  | notEnoughCommits
  /-- `ErrNoBasicConsensus`。 -/
  | noBasicConsensus
  /-- `ErrInvalidFilterInput`。 -/
  | invalidFilterInput
  /-- `ErrNoConsensus`。 -/
  | noConsensus
  /-- `ErrConsensusInError`。 -/
  | consensusInError
  /-- filter は通ったが、tally VM の準備ができなかった（`TallyExecErr`）。 -/
  | tallyExecError
  /-- tally VM が走った。 -/
  | executed
deriving DecidableEq, Repr

/-- filter の誤りの行。「走らなかった」は commit が足りない行である。 -/
def FilterError.outcome : FilterError → TallyOutcome
  | .filterDidNotRun => .notEnoughCommits
  | .noBasicConsensus => .noBasicConsensus
  | .invalidFilterInput _ => .invalidFilterInput
  | .noConsensus => .noConsensus
  | .consensusInError => .consensusInError

/-- 基本合意に達した行：filter を作り、proxy と executor を報告から計量する。 -/
def TallyOutcome.reachedBasicConsensus : TallyOutcome → Bool
  | .notEnoughCommits | .noBasicConsensus => false
  | _ => true

/-- 減額（executor には 80%）の行。 -/
def TallyOutcome.reducedPayout : TallyOutcome → Bool
  | .invalidFilterInput | .noConsensus | .tallyExecError => true
  | _ => false

/-- phase 2 の前の行。tally VM の準備ができるかは phase 2 で分かるので、それまでは VM が走る行である。 -/
def TallyOutcome.beforeVM : TallyOutcome → TallyOutcome
  | .tallyExecError => .executed
  | o => o

/--
位置 `i` の要求 `req` の、gas 価格 `price` での行。phase 1 と同じく commit の数を見て filter を
掛け、filter を通れば、phase 2 に渡すのと同じ item について tally VM の準備ができるかを見る。
-/
def Keeper.tallyOutcome (k : Keeper) (ctx : Context) (params : Params) (i : Nat) (req : Request)
    (price : Int) : TallyOutcome :=
  if req.Commits.size < req.ReplicationFactor.toNat then .notEnoughCommits
  else
    let reveals := (req.SanitizeReveals k.sha256 ctx.BlockHeight).1
    let filtered := ExecuteFilter k reveals req.ConsensusFilter req.ReplicationFactor params
      (NewGasMeter req.TallyGasLimit req.ExecGasLimit params.MaxTallyGasLimit price params.GasCostBase)
    match filtered.1.2 with
    | some e => e.outcome
    | none =>
      match k.prepareTallyExec ctx (NewTallyParallelExecItem i req filtered.2 reveals
          filtered.1.1.Outliers filtered.1.1.Consensus) with
      | .ok _ => .executed
      | .error _ => .tallyExecError

/-! ## 行ごとの gas meter -/

section Row

variable (params : Params) (req : Request)

/--
phase 3 の前の gas meter `g` が行 `o` に合っていること。`v` は tally VM の gas である。
基本合意に達した行では支払いはまだ無く、実行 gas は手つかずである。
-/
structure MeterRow (o : TallyOutcome) (v : Nat) (g : GasMeter) : Prop where
  tallyGasLimit : g.tallyGasLimit = min req.TallyGasLimit.toNat params.MaxTallyGasLimit.toNat
  tallyGasUsed : g.TallyGasUsed = min (min req.TallyGasLimit.toNat params.MaxTallyGasLimit.toNat)
    (params.GasCostBase.toNat + (if o.reachedBasicConsensus then
      filterCharge req.ConsensusFilter req.ReplicationFactor params else 0) + v)
  proxies : g.proxies = []
  executors : g.executors = if o.reachedBasicConsensus then []
    else fallbackPayments req params.ExecutionGasCostFallback req.ExecGasLimit.toNat
  execGasRemaining : o.reachedBasicConsensus = true → g.execGasRemaining = req.ExecGasLimit.toNat
  reducedPayout : g.ReducedPayout = o.reducedPayout

variable {params req} {price : Int}

/-- 新しい gas meter に固定額を払ったものは、基本合意に達しなかった行に合う。 -/
theorem meterRow_fallback {o : TallyOutcome} (ho : o.reachedBasicConsensus = false)
    (hr : o.reducedPayout = false) {g : GasMeter}
    (h : MeterExecutorGasFallback req params.ExecutionGasCostFallback
      (NewGasMeter req.TallyGasLimit req.ExecGasLimit params.MaxTallyGasLimit price
        params.GasCostBase) = .ok g) :
    MeterRow params req o 0 g := by
  obtain ⟨hex, hpx, hsame⟩ := MeterExecutorGasFallback_payments h
  refine ⟨?_, ?_, ?_, ?_, ?_, ?_⟩
  · rw [hsame.tallyGasLimit]; simp
  · rw [hsame.tallyGasUsed, GasMeter.NewGasMeter_TallyGasUsed, ho]; simp
  · rw [hpx]; simp
  · rw [hex, ho]; simp
  · rw [ho]; exact Bool.noConfusion
  · rw [hsame.ReducedPayout, hr]; simp

/-- 新しい gas meter に filter の料金を払ったものは、減額の無い基本合意の行に合う。 -/
theorem meterRow_charged {o : TallyOutcome} (ho : o.reachedBasicConsensus = true)
    (hr : o.reducedPayout = false) :
    MeterRow params req o 0 ((NewGasMeter req.TallyGasLimit req.ExecGasLimit
      params.MaxTallyGasLimit price params.GasCostBase).ConsumeTallyGas
        (filterCharge req.ConsensusFilter req.ReplicationFactor params)).2 where
  tallyGasLimit := by simp
  tallyGasUsed := by
    rw [GasMeter.tallyGasUsed_consumeTallyGas, GasMeter.NewGasMeter_TallyGasUsed, ho]
    simp only [GasMeter.NewGasMeter_tallyGasLimit, if_true, Nat.add_zero]
    omega
  proxies := by simp
  executors := by simp [ho]
  execGasRemaining := fun _ => by simp
  reducedPayout := by simp [hr]

/-- 減額の印を立てると、基本合意について同じで減額のある行に合う。 -/
theorem MeterRow.setReducedPayoutMode {o o' : TallyOutcome} {v : Nat} {g : GasMeter}
    (h : MeterRow params req o v g) (ho : o'.reachedBasicConsensus = o.reachedBasicConsensus)
    (hr : o'.reducedPayout = true) : MeterRow params req o' v g.SetReducedPayoutMode where
  tallyGasLimit := h.tallyGasLimit
  tallyGasUsed := by rw [ho]; exact h.tallyGasUsed
  proxies := h.proxies
  executors := by rw [ho]; exact h.executors
  execGasRemaining := fun h' => h.execGasRemaining (ho ▸ h')
  reducedPayout := by rw [hr]; rfl

/-- tally VM の gas を払うと、VM が走った行の tally gas の使用に合う。 -/
theorem MeterRow.consumeVM {g : GasMeter} (h : MeterRow params req .executed 0 g) (v : Nat) :
    MeterRow params req .executed v (g.ConsumeTallyGas v).2 where
  tallyGasLimit := by rw [GasMeter.consumeTallyGas_tallyGasLimit]; exact h.tallyGasLimit
  tallyGasUsed := by
    rw [GasMeter.tallyGasUsed_consumeTallyGas, h.tallyGasUsed, h.tallyGasLimit]
    omega
  proxies := by rw [GasMeter.consumeTallyGas_proxies]; exact h.proxies
  executors := by rw [GasMeter.consumeTallyGas_executors]; exact h.executors
  execGasRemaining := fun h' => by
    rw [GasMeter.consumeTallyGas_execGasRemaining]; exact h.execGasRemaining h'
  reducedPayout := by rw [GasMeter.consumeTallyGas_ReducedPayout]; exact h.reducedPayout

end Row

/-! ## phase 1 -/

section Phase1

variable {k : Keeper} {ctx : Context} {params : Params} {isPaused : Bool} {i : Nat}
  {req : Request}

/--
phase 1 の後の、位置 `i` の要求 `req` の結果 `tr` と tally VM に渡す item が、行 `o` に合って
いること。
-/
structure Filtered (k : Keeper) (ctx : Context) (params : Params) (i : Nat) (req : Request)
    (o : TallyOutcome) (tr : TallyResult) (item : Option TallyParallelExecItem) : Prop where
  meter : ∃ g, tr.GasMeter = some g ∧ MeterRow params req o.beforeVM 0 g
  error : (tr.FilterResult.Error = some .noBasicConsensus ∨
      tr.FilterResult.Error = some .filterDidNotRun) ↔ o.reachedBasicConsensus = false
  item_none : o ≠ .executed → o ≠ .tallyExecError → item = none
  item_some : o = .executed ∨ o = .tallyExecError → ∃ it, item = some it ∧ it.Index = i ∧
    it.TallyExecErr = none ∧ tr.GasMeter = some it.GasMeter ∧
    (o = .executed ↔ ∃ c, k.prepareTallyExec ctx it = .ok c)

/-- filter の誤りで終わった要求は、その誤りの行に合う。 -/
theorem filtered_of_error {tr : TallyResult} {e : FilterError} {g : GasMeter}
    (he : tr.FilterResult.Error = some e) (hg : tr.GasMeter = some g)
    (hrow : MeterRow params req e.outcome 0 g) :
    Filtered k ctx params i req e.outcome tr none where
  meter := by
    refine ⟨g, hg, ?_⟩
    cases e <;> exact hrow
  error := by
    rw [he]
    cases e <;> simp [FilterError.outcome, TallyOutcome.reachedBasicConsensus]
  item_none := fun _ _ => rfl
  item_some := by
    rintro (h | h) <;> cases e <;> simp [FilterError.outcome] at h

/--
**gas meter を作った後の phase 1 の結果は、要求の行に合う。** commit が足りなければ固定額を払い、
filter の誤りではその誤りに応じて扱い、filter を通れば filter の料金だけを払った meter で item を作る。
-/
theorem filterRequest_filtered {dr dr' : DataResult} {tr : TallyResult}
    {item : Option TallyParallelExecItem}
    (h : k.filterRequest ctx params i req (TallyResult.ofRequest req) dr
      (NewGasMeter req.TallyGasLimit req.ExecGasLimit params.MaxTallyGasLimit price
        params.GasCostBase) = .ok (.next tr dr' item)) :
    Filtered k ctx params i req (k.tallyOutcome ctx params i req price) tr item := by
  unfold Keeper.filterRequest at h
  unfold Keeper.tallyOutcome
  split at h
  · -- commit が足りない：固定額を払う
    next hc =>
    rw [if_pos hc]
    obtain ⟨g', hg', h⟩ := bind_eq_ok.mp h
    cases h
    exact filtered_of_error (e := .filterDidNotRun) rfl rfl (meterRow_fallback rfl rfl hg')
  · next hc =>
    rw [if_neg hc]
    dsimp only at h ⊢
    -- filter の meter は、基本合意があれば filter の料金を払ったもの
    have hmeter := ExecuteFilter_meter_eq k (req.SanitizeReveals k.sha256 ctx.BlockHeight).1
      req.ConsensusFilter req.ReplicationFactor params
      (NewGasMeter req.TallyGasLimit req.ExecGasLimit params.MaxTallyGasLimit price params.GasCostBase)
    have hdnr := ExecuteFilter_error_ne_filterDidNotRun k
      (req.SanitizeReveals k.sha256 ctx.BlockHeight).1 req.ConsensusFilter req.ReplicationFactor
      params
      (NewGasMeter req.TallyGasLimit req.ExecGasLimit params.MaxTallyGasLimit price params.GasCostBase)
    split at h
    · -- filter を通った：VM の準備ができるかで二つの行
      next he =>
      cases h
      rw [he, if_neg (by simp)] at hmeter
      simp only [he]
      have hrow := @meterRow_charged params req price .executed rfl rfl
      split
      · next c hc' =>
        exact ⟨⟨_, rfl, hmeter ▸ hrow⟩, by simp [TallyOutcome.reachedBasicConsensus],
          fun h _ => absurd rfl h,
          fun _ => ⟨_, rfl, rfl, rfl, rfl, by simp [hc']⟩⟩
      · next err hc' =>
        exact ⟨⟨_, rfl, hmeter ▸ hrow⟩, by simp [TallyOutcome.reachedBasicConsensus],
          fun _ h => absurd rfl h,
          fun _ => ⟨_, rfl, rfl, rfl, rfl, by simp [hc']⟩⟩
    · -- filter の誤り：誤りの種類ごとの扱い
      next e he =>
      obtain ⟨g', hg', h⟩ := bind_eq_ok.mp h
      cases h
      simp only [he]
      rw [he] at hmeter hdnr
      have hne : e ≠ .filterDidNotRun := fun h => hdnr (by rw [h])
      refine filtered_of_error rfl rfl ?_
      unfold meterFilterError at hg'
      cases e with
      | noBasicConsensus =>
        rw [if_pos rfl] at hmeter hg'
        rw [hmeter] at hg'
        exact meterRow_fallback rfl rfl hg'
      | invalidFilterInput msg =>
        simp [FilterError.isInvalidFilterInput] at hg' hmeter
        rw [← hg', hmeter]
        exact (meterRow_charged (o := .executed) rfl rfl).setReducedPayoutMode rfl rfl
      | noConsensus =>
        simp at hg' hmeter
        rw [← hg', hmeter]
        exact (meterRow_charged (o := .executed) rfl rfl).setReducedPayoutMode rfl rfl
      | consensusInError =>
        simp [FilterError.isInvalidFilterInput] at hg' hmeter
        rw [← hg', hmeter]
        exact meterRow_charged rfl rfl
      | filterDidNotRun => exact absurd rfl hne

/--
**phase 1 の一つの要求の結果。** 符号化の誤り、停止、gas 価格の誤りでは gas meter も item も無い。
gas meter を作ったなら、gas 価格は正で、結果は要求の行に合う。
-/
theorem tallyRequest_filtered {tr : TallyResult} {dr : DataResult}
    {item : Option TallyParallelExecItem}
    (h : k.tallyRequest ctx params isPaused i req = .ok (.next tr dr item)) :
    (tr.GasMeter = none ∧ item = none) ∨
      ∃ price, k.NewIntFromString req.PostedGasPrice = some price ∧ 0 < price ∧
        Filtered k ctx params i req (k.tallyOutcome ctx params i req price) tr item := by
  -- 印を付けただけの結果は gas meter を持たない
  have hmark : ∀ {keccak : Bytes → Bytes} {dr₀ : DataResult} {reason : String}
      {err : Option String},
      markFallback keccak dr₀ (TallyResult.ofRequest req) reason err = .next tr dr item →
      tr.GasMeter = none ∧ item = none := by
    intro keccak dr₀ reason err hm
    unfold markFallback at hm
    split at hm
    · next r hr =>
      cases hm
      rw [MarkResultAsFallback_snd hr]
      exact ⟨rfl, rfl⟩
    · cases hm
  simp only [Keeper.tallyRequest] at h
  obtain ⟨res, -, h⟩ := bind_eq_ok.mp h
  split at h
  · exact .inl (hmark (Except.ok.inj h))
  · split at h
    · split at h
      · next r hr =>
        cases h
        rw [MarkResultAsPaused_snd hr]
        exact .inl ⟨rfl, rfl⟩
      · cases h
    · split at h
      · exact .inl (hmark (Except.ok.inj h))
      · split at h
        · exact .inl (hmark (Except.ok.inj h))
        · next price hprice hpos =>
          exact .inr ⟨price, hprice, by omega, filterRequest_filtered h⟩

/-- tally VM に渡す item の位置は、それを作った要求の位置である。 -/
theorem tallyRequest_item_index {tr : TallyResult} {dr : DataResult} {it : TallyParallelExecItem}
    (h : k.tallyRequest ctx params isPaused i req = .ok (.next tr dr (some it))) : it.Index = i := by
  rcases tallyRequest_filtered h with ⟨-, hnone⟩ | ⟨price, -, -, hf⟩
  · cases hnone
  · by_cases ho : k.tallyOutcome ctx params i req price = .executed ∨
        k.tallyOutcome ctx params i req price = .tallyExecError
    · obtain ⟨it', hit', hidx, -⟩ := hf.item_some ho
      cases hit'
      exact hidx
    · cases hf.item_none (fun h => ho (.inl h)) (fun h => ho (.inr h))

/--
**phase 1 の loop。** item の位置は増えていき、位置 `p` の結果は `i + p` 番目の要求の phase 1 の
結果で、その item は item の列にあり、列のうちその位置の item はそれだけである。
-/
theorem filterPhase_at :
    ∀ (reqs : List Request) (i : Nat) {trs : List TallyResult} {drs : List DataResult}
      {items : List TallyParallelExecItem},
      k.filterPhase ctx params isPaused reqs i = .ok (.done trs drs items) →
      (∀ it ∈ items, i ≤ it.Index) ∧ (items.map (·.Index)).Pairwise (· < ·) ∧
      ∀ p tr, trs[p]? = some tr → ∃ req dr item, reqs[p]? = some req ∧
        k.tallyRequest ctx params isPaused (i + p) req = .ok (.next tr dr item) ∧
        (∀ it, item = some it → it ∈ items) ∧ (∀ it ∈ items, it.Index = i + p → item = some it)
  | [], _, _, _, _, h => by
    cases h; exact ⟨by simp, by simp, by simp⟩
  | req :: rest, i, trs, drs, items, h => by
    simp only [Keeper.filterPhase] at h
    obtain ⟨outcome, ho, h⟩ := bind_eq_ok.mp h
    split at h
    · cases h
    · next tr dr item =>
      obtain ⟨tail, ht, h⟩ := bind_eq_ok.mp h
      split at h
      · cases h
      · next trs' drs' items' =>
        cases h
        obtain ⟨hge, hpw, hat⟩ := filterPhase_at rest (i + 1) ht
        have hidx : ∀ it ∈ item.toList, it.Index = i := fun it hit =>
          tallyRequest_item_index (Option.mem_toList.mp hit ▸ ho)
        refine ⟨fun it hit => ?_, ?_, fun p tr' htr => ?_⟩
        · rcases List.mem_append.mp hit with hit | hit
          · exact (hidx it hit).ge
          · have := hge it hit; omega
        · -- 先頭の item の位置 `i` は、残りの item の位置より小さい
          rw [List.map_append, List.pairwise_append]
          refine ⟨?_, hpw, ?_⟩
          · cases item <;> simp
          · intro a ha b hb
            obtain ⟨it, hit, rfl⟩ := List.mem_map.mp ha
            obtain ⟨it', hit', rfl⟩ := List.mem_map.mp hb
            have := hge it' hit'
            rw [hidx it hit]; omega
        · cases p with
          | zero =>
            simp only [List.getElem?_cons_zero, Option.some.injEq] at htr
            subst htr
            refine ⟨req, dr, item, rfl, ho, fun it hit => by simp [hit], fun it hit hix => ?_⟩
            rcases List.mem_append.mp hit with hit | hit
            · exact Option.mem_toList.mp hit
            · have := hge it hit; omega
          | succ p =>
            simp only [List.getElem?_cons_succ] at htr
            obtain ⟨req', dr', item', hreq, hreq', hin, huniq⟩ := hat p tr' htr
            refine ⟨req', dr', item', hreq, by rw [show i + (p + 1) = i + 1 + p by omega]; exact hreq',
              fun it hit => List.mem_append_right _ (hin it hit), fun it hit hix => ?_⟩
            rcases List.mem_append.mp hit with hit | hit
            · have := hidx it hit; omega
            · exact huniq it hit (by omega)

end Phase1

/-! ## phase 2 -/

section Phase2

variable {vmResults : List VmResult}

/-- 準備に失敗した要求の結果：減額にする。 -/
def markNotExecuted (tr : TallyResult) : TallyResult :=
  { tr with GasMeter := tr.GasMeter.map GasMeter.SetReducedPayoutMode }

/--
phase 2 の loop の一歩：先頭の item の位置の結果を、VM が走ったなら一つの VM の結果で、走らなかった
なら減額にして書き換え、残りの item に進む。
-/
theorem applyVmResults_cons {it : TallyParallelExecItem} {rest : List TallyParallelExecItem}
    {idx : Nat} {trs : List TallyResult} {drs : List DataResult}
    {r : List TallyResult × List DataResult}
    (h : applyVmResults vmResults (it :: rest) idx trs drs = .ok r) :
    ∃ idx' f drs', applyVmResults vmResults rest idx' (trs.modify it.Index f) drs' = .ok r ∧
      (it.TallyExecErr = none → ∃ vr, f = applyVmResult vr) ∧
      (it.TallyExecErr ≠ none → f = markNotExecuted) := by
  simp only [applyVmResults] at h
  split at h
  · next he =>
    obtain ⟨vr, -, h⟩ := bind_eq_ok.mp h
    exact ⟨_, _, _, h, fun _ => ⟨vr, rfl⟩, fun hne => absurd he hne⟩
  · next e he =>
    exact ⟨_, _, _, h, fun hn => absurd (he.symm.trans hn) (by simp), fun _ => rfl⟩

theorem length_applyVmResults :
    ∀ (items : List TallyParallelExecItem) (idx : Nat) {trs : List TallyResult}
      {drs : List DataResult} {r : List TallyResult × List DataResult},
      applyVmResults vmResults items idx trs drs = .ok r → r.1.length = trs.length
  | [], _, _, _, _, h => by cases h; rfl
  | it :: rest, _, trs, _, _, h => by
    obtain ⟨idx', f, drs', h', -⟩ := applyVmResults_cons h
    rw [length_applyVmResults rest idx' h', List.length_modify]

/--
**phase 2 の loop は item の位置の結果だけを書き換える。** item の位置が相異なれば、どの item の
位置でもない結果は変わらず、item の位置の結果は、VM が走ったなら一つの VM の結果を、走らなかった
なら減額を受ける。
-/
theorem applyVmResults_at :
    ∀ (items : List TallyParallelExecItem) (idx : Nat) {trs : List TallyResult}
      {drs : List DataResult} {r : List TallyResult × List DataResult},
      applyVmResults vmResults items idx trs drs = .ok r → (items.map (·.Index)).Nodup →
      ∀ p tr, trs[p]? = some tr →
        ((∀ it ∈ items, it.Index ≠ p) → r.1[p]? = some tr) ∧
        ∀ it ∈ items, it.Index = p →
          (it.TallyExecErr = none → ∃ vr, r.1[p]? = some (applyVmResult vr tr)) ∧
          (it.TallyExecErr ≠ none → r.1[p]? = some (markNotExecuted tr))
  | [], _, _, _, _, h, _ => by
    cases h
    exact fun p tr htr => ⟨fun _ => htr, fun it hit => absurd hit List.not_mem_nil⟩
  | it₀ :: rest, idx, trs, drs, r, h, hnd => by
    intro p tr htr
    rw [List.map_cons, List.nodup_cons] at hnd
    obtain ⟨hnotin, hnd'⟩ := hnd
    obtain ⟨idx', f, drs', h', hexec, hnot⟩ := applyVmResults_cons h
    have hmod : (trs.modify it₀.Index f)[p]? = some (if it₀.Index = p then f tr else tr) := by
      rw [List.getElem?_modify, htr]; rfl
    by_cases hp : it₀.Index = p
    · -- 先頭の item の位置：残りの item はここを書き換えない
      rw [if_pos hp] at hmod
      have hrest := (applyVmResults_at rest idx' h' hnd' p (f tr) hmod).1
        (fun it hit hix => hnotin (hp ▸ hix ▸ List.mem_map_of_mem hit))
      refine ⟨fun hall => absurd hp (hall it₀ List.mem_cons_self), fun it hit hix => ?_⟩
      rcases List.mem_cons.mp hit with rfl | hit'
      · refine ⟨fun he => ?_, fun hne => ?_⟩
        · obtain ⟨vr, rfl⟩ := hexec he
          exact ⟨vr, hrest⟩
        · rw [← hnot hne]; exact hrest
      · exact absurd (hp ▸ hix ▸ List.mem_map_of_mem hit') hnotin
    · rw [if_neg hp] at hmod
      obtain ⟨hframe, heff⟩ := applyVmResults_at rest idx' h' hnd' p tr hmod
      refine ⟨fun hall => hframe fun it hit => hall it (List.mem_cons_of_mem _ hit),
        fun it hit hix => ?_⟩
      rcases List.mem_cons.mp hit with rfl | hit'
      · exact absurd hix hp
      · exact heff it hit' hix

@[simp] theorem markExecErr_Index (it : TallyParallelExecItem) (prepared : Except String VmCall) :
    (markExecErr it prepared).Index = it.Index := by
  unfold markExecErr; split <;> rfl

/-- 誤りの無い item は、準備ができたときに限って誤りの無いままである。 -/
theorem markExecErr_TallyExecErr {it : TallyParallelExecItem} (h : it.TallyExecErr = none)
    (prepared : Except String VmCall) :
    (markExecErr it prepared).TallyExecErr = none ↔ ∃ c, prepared = .ok c := by
  unfold markExecErr
  split <;> simp [h]

/--
**phase 2。** phase 1 の item の位置が相異なれば、どの item の位置でもない結果は変わらず、
誤りの無い item の位置の結果は、準備ができたなら一つの VM の結果を、できなかったなら減額を受ける。
-/
theorem execPhase_at {k : Keeper} {ctx : Context} {items : List TallyParallelExecItem}
    {trs : List TallyResult} {drs : List DataResult} {r : List TallyResult × List DataResult}
    (h : k.execPhase ctx items trs drs = .ok r) (hnd : (items.map (·.Index)).Nodup)
    {p : Nat} {tr : TallyResult} (htr : trs[p]? = some tr) :
    ((∀ it ∈ items, it.Index ≠ p) → r.1[p]? = some tr) ∧
    ∀ it ∈ items, it.Index = p → it.TallyExecErr = none →
      ((∃ c, k.prepareTallyExec ctx it = .ok c) → ∃ vr, r.1[p]? = some (applyVmResult vr tr)) ∧
      ((¬∃ c, k.prepareTallyExec ctx it = .ok c) → r.1[p]? = some (markNotExecuted tr)) := by
  unfold Keeper.execPhase at h
  split at h
  · next hnil =>
    cases h
    exact ⟨fun _ => htr, fun it hit => absurd (hnil ▸ hit) List.not_mem_nil⟩
  · -- VM に渡す item は、準備の結果を記した item である
    have hitems : (k.ExecuteTallyProgramsParallel ctx items).1 =
        items.map fun it => markExecErr it (k.prepareTallyExec ctx it) := by
      simp only [Keeper.ExecuteTallyProgramsParallel, List.zipWith_map_right, List.zipWith_self]
    dsimp only at h
    rw [hitems] at h
    have hnd' : ((items.map fun it => markExecErr it (k.prepareTallyExec ctx it)).map
        (·.Index)).Nodup := by
      simpa [List.map_map, Function.comp_def] using hnd
    obtain ⟨hframe, heff⟩ := applyVmResults_at _ 0 h hnd' p tr htr
    refine ⟨fun hall => hframe fun it' hit' => ?_,
      fun it hit hix hnone => ?_⟩
    · obtain ⟨it, hit, rfl⟩ := List.mem_map.mp hit'
      rw [markExecErr_Index]; exact hall it hit
    · have hmem := List.mem_map_of_mem (f := fun it => markExecErr it (k.prepareTallyExec ctx it)) hit
      obtain ⟨hran, hnot⟩ := heff _ hmem (by rw [markExecErr_Index]; exact hix)
      exact ⟨fun hc => hran ((markExecErr_TallyExecErr hnone _).mpr hc),
        fun hc => hnot fun hn => hc ((markExecErr_TallyExecErr hnone _).mp hn)⟩

/-- phase 2 は結果の数を変えない。 -/
theorem length_execPhase {k : Keeper} {ctx : Context} {items : List TallyParallelExecItem}
    {trs : List TallyResult} {drs : List DataResult} {r : List TallyResult × List DataResult}
    (h : k.execPhase ctx items trs drs = .ok r) : r.1.length = trs.length := by
  unfold Keeper.execPhase at h
  split at h
  · cases h; rfl
  · exact length_applyVmResults _ 0 h

end Phase2

/-! ## phase 2 の後の行 -/

section Executed

variable {k : Keeper} {ctx : Context} {params : Params} {i : Nat} {req : Request}

theorem TallyOutcome.beforeVM_of_ne {o : TallyOutcome} (h : o ≠ .tallyExecError) :
    o.beforeVM = o := by
  cases o <;> first | rfl | exact absurd rfl h

/-- phase 3 の前の結果 `tr` が、tally VM の gas `v` の行 `o` に合っていること。 -/
structure Executed (params : Params) (req : Request) (o : TallyOutcome) (v : Nat)
    (tr : TallyResult) : Prop where
  meter : ∃ g, tr.GasMeter = some g ∧ MeterRow params req o v g
  error : (tr.FilterResult.Error = some .noBasicConsensus ∨
      tr.FilterResult.Error = some .filterDidNotRun) ↔ o.reachedBasicConsensus = false
  vmGas : o ≠ .executed → v = 0
  vmResult : o = .executed → ∃ vr : VmResult, v = vr.GasUsed.toNat ∧
    tr.StdOut = (MapVMResult vr).Stdout

/-- tally VM に渡さなかった要求は、phase 1 の結果のまま行に合う。 -/
theorem Filtered.executed_of_skipped {o : TallyOutcome} {tr : TallyResult}
    {item : Option TallyParallelExecItem} (h : Filtered k ctx params i req o tr item)
    (ho₁ : o ≠ .executed) (ho₂ : o ≠ .tallyExecError) : Executed params req o 0 tr where
  meter := by
    obtain ⟨g, hg, hrow⟩ := h.meter
    rw [TallyOutcome.beforeVM_of_ne ho₂] at hrow
    exact ⟨g, hg, hrow⟩
  error := h.error
  vmGas := fun _ => rfl
  vmResult := fun h' => absurd h' ho₁

/-- tally VM が走った要求は、その VM の結果の gas の行に合う。 -/
theorem Filtered.executed_of_run {tr : TallyResult} {item : Option TallyParallelExecItem}
    (h : Filtered k ctx params i req .executed tr item) (vr : VmResult) :
    Executed params req .executed vr.GasUsed.toNat (applyVmResult vr tr) where
  meter := by
    obtain ⟨g, hg, hrow⟩ := h.meter
    exact ⟨_, by simp [applyVmResult, hg], hrow.consumeVM _⟩
  error := h.error
  vmGas := fun h' => absurd rfl h'
  vmResult := fun _ => ⟨vr, rfl, rfl⟩

/-- tally VM の準備ができなかった要求は、減額の行に合う。 -/
theorem Filtered.executed_of_notExecuted {tr : TallyResult} {item : Option TallyParallelExecItem}
    (h : Filtered k ctx params i req .tallyExecError tr item) :
    Executed params req .tallyExecError 0 (markNotExecuted tr) where
  meter := by
    obtain ⟨g, hg, hrow⟩ := h.meter
    exact ⟨_, by simp [markNotExecuted, hg], hrow.setReducedPayoutMode rfl rfl⟩
  error := h.error
  vmGas := fun _ => rfl
  vmResult := fun h' => by cases h'

end Executed

/-! ## phase 3 -/

section Phase3

variable {k : Keeper} {ctx : Context} {params : Params} {req : Request}

/--
最後の結果 `tr` と gas meter `g` が、tally VM の gas `v` の行 `o` に合っていること。README の表の
列の順に、tally gas（基本料金、filter の料金、tally VM の gas）、proxy と executor への支払い、
減額の印である。
-/
structure PayoutRow (k : Keeper) (params : Params) (req : Request) (o : TallyOutcome) (v : Nat)
    (tr : TallyResult) (g : GasMeter) : Prop where
  tallyGasUsed : tr.TallyGasUsed = min (min req.TallyGasLimit.toNat params.MaxTallyGasLimit.toNat)
    (params.GasCostBase.toNat + (if o.reachedBasicConsensus then
      filterCharge req.ConsensusFilter req.ReplicationFactor params else 0) + v)
  vmGas : o ≠ .executed → v = 0
  vmResult : o = .executed → ∃ vr : VmResult, v = vr.GasUsed.toNat ∧
    tr.StdOut = (MapVMResult vr).Stdout
  fallback : o.reachedBasicConsensus = false → g.proxies = [] ∧
    g.executors = fallbackPayments req params.ExecutionGasCostFallback req.ExecGasLimit.toNat
  metered : o.reachedBasicConsensus = true → ∃ g₂ g₃, g₂.proxies = [] ∧ g₂.executors = [] ∧
    g₂.execGasRemaining = req.ExecGasLimit.toNat ∧
    k.MeterProxyGas tr.FilterResult.ProxyPubKeys tr.ReplicationFactor g₂ = .ok g₃ ∧
    (if areGasReportsUniform tr.GasReports then { tr with GasMeter := some g₃ }.MeterExecutorGasUniform
      else { tr with GasMeter := some g₃ }.MeterExecutorGasDivergent) = .ok g
  reducedPayout : g.ReducedPayout = o.reducedPayout

/--
計量の一歩。基本合意に達した行では proxy と executor を報告から計量し、達しなかった行では何もしない。
どちらでも tally gas と減額の印は変わらない。
-/
theorem meterTally_row {o : TallyOutcome} {v : Nat} {tr tr₃ : TallyResult}
    (hex : Executed params req o v tr) (h : k.meterTally tr = .ok tr₃) :
    ∃ g₂ g, tr.GasMeter = some g₂ ∧ tr₃ = { tr with GasMeter := some g } ∧
      MeterRow params req o v g₂ ∧ g₂.SameTally g ∧ (o.reachedBasicConsensus = false → g = g₂) ∧
      (o.reachedBasicConsensus = true → ∃ g₃,
        k.MeterProxyGas tr.FilterResult.ProxyPubKeys tr.ReplicationFactor g₂ = .ok g₃ ∧
        (if areGasReportsUniform tr.GasReports then
            { tr with GasMeter := some g₃ }.MeterExecutorGasUniform
          else { tr with GasMeter := some g₃ }.MeterExecutorGasDivergent) = .ok g) := by
  obtain ⟨g₂, hg₂, hrow⟩ := hex.meter
  unfold Keeper.meterTally at h
  split at h
  · -- 基本合意に達した：proxy と executor を計量する
    next hreach =>
    have ho : o.reachedBasicConsensus = true := by
      cases hb : o.reachedBasicConsensus
      · exact absurd (hex.error.mpr hb) (by tauto)
      · rfl
    obtain ⟨g₀, hg₀, h⟩ := bind_eq_ok.mp h
    have hg₀₂ : g₀ = g₂ := by
      simp only [TallyResult.meter, hg₂] at hg₀
      exact (Except.ok.inj hg₀).symm
    subst hg₀₂
    obtain ⟨g₃, hg₃, h⟩ := bind_eq_ok.mp h
    dsimp only at h
    -- 報告が揃っていてもいなくても、executor の計量の後の meter を書く
    obtain ⟨g₄, hg₄, rfl⟩ : ∃ g₄, (if areGasReportsUniform tr.GasReports then
          { tr with GasMeter := some g₃ }.MeterExecutorGasUniform
        else { tr with GasMeter := some g₃ }.MeterExecutorGasDivergent) = .ok g₄ ∧
        tr₃ = { tr with GasMeter := some g₄ } := by
      split at h
      · next hu =>
        obtain ⟨g₄, hg₄, h⟩ := bind_eq_ok.mp h
        cases h
        exact ⟨g₄, by rw [if_pos hu]; exact hg₄, rfl⟩
      · next hu =>
        obtain ⟨g₄, hg₄, h⟩ := bind_eq_ok.mp h
        cases h
        exact ⟨g₄, by rw [if_neg hu]; exact hg₄, rfl⟩
    have hsame : g₃.SameTally g₄ := by
      split at hg₄
      · exact MeterExecutorGasUniform_sameTally rfl hg₄
      · exact MeterExecutorGasDivergent_sameTally rfl hg₄
    refine ⟨g₀, g₄, hg₂, rfl, hrow, (MeterProxyGas_sameTally hg₃).trans hsame,
      fun h' => absurd (ho.symm.trans h') Bool.noConfusion, fun _ => ⟨g₃, hg₃, hg₄⟩⟩
  · -- 基本合意に達しなかった：何もしない
    next hunreach =>
    cases h
    have ho : o.reachedBasicConsensus = false := hex.error.mp (by tauto)
    refine ⟨g₂, g₂, hg₂, ?_, hrow, .refl g₂, fun _ => rfl,
      fun h' => absurd (ho.symm.trans h') Bool.noConfusion⟩
    cases tr
    cases hg₂
    rfl

/-- gas meter の無い結果は、計量の後も gas meter を持たない。 -/
theorem finalizeTally_none {tr : TallyResult} {dr : DataResult}
    {r : TallyResult × DataResult × Option (List Distribution)}
    (h : k.finalizeTally ctx params tr dr = .ok r) (hg : tr.GasMeter = none) :
    r.1.GasMeter = none := by
  simp only [Keeper.finalizeTally] at h
  obtain ⟨tr₃, h₁, h⟩ := bind_eq_ok.mp h
  unfold Keeper.meterTally at h₁
  split at h₁
  · obtain ⟨g₀, hg₀, -⟩ := bind_eq_ok.mp h₁
    simp [TallyResult.meter, hg] at hg₀
  · cases h₁
    split at h
    · next g' hg' => rw [hg] at hg'; cases hg'
    · obtain ⟨dr', -, h⟩ := bind_eq_ok.mp h
      cases h
      exact hg

/--
**phase 3 の一つの要求の結果は、表の行に合う。** 使った tally gas は計量の前の meter のもので、
支払いは、基本合意に達しなかった行では固定額だけ、達した行では報告による計量だけである。
-/
theorem finalizeTally_row {o : TallyOutcome} {v : Nat} {tr : TallyResult} {dr : DataResult}
    {r : TallyResult × DataResult × Option (List Distribution)} {g : GasMeter}
    (hex : Executed params req o v tr) (h : k.finalizeTally ctx params tr dr = .ok r)
    (hg : r.1.GasMeter = some g) : PayoutRow k params req o v r.1 g := by
  simp only [Keeper.finalizeTally] at h
  obtain ⟨tr₃, h₁, h⟩ := bind_eq_ok.mp h
  obtain ⟨g₂, g₄, -, rfl, hrow, hsame, hunreach, hreach⟩ := meterTally_row hex h₁
  dsimp only at h
  obtain ⟨dists, -, h⟩ := bind_eq_ok.mp h
  obtain ⟨dr', -, h⟩ := bind_eq_ok.mp h
  cases h
  cases hg
  refine ⟨?_, hex.vmGas, hex.vmResult, fun ho => ?_, fun ho => ?_,
    hsame.ReducedPayout.trans hrow.reducedPayout⟩
  · exact hsame.tallyGasUsed.trans hrow.tallyGasUsed
  · rw [hunreach ho]
    refine ⟨hrow.proxies, ?_⟩
    rw [hrow.executors, ho]
    rfl
  · obtain ⟨g₃, hg₃, hg₄⟩ := hreach ho
    refine ⟨g₂, g₃, hrow.proxies, ?_, hrow.execGasRemaining ho, hg₃, hg₄⟩
    rw [hrow.executors, ho]
    rfl

/-- phase 3 の loop。最後の結果の位置 `p` には、phase 2 の位置 `p` の結果を計量したものがある。 -/
theorem meterPhase_at :
    ∀ (trs : List TallyResult) (drs : List DataResult)
      (processed : KeyMap String (List Distribution))
      {r : List TallyResult × List DataResult × KeyMap String (List Distribution)},
      k.meterPhase ctx params trs drs processed = .ok r →
      ∀ (p : Nat) (tr' : TallyResult), r.1[p]? = some tr' → ∃ tr dr r', trs[p]? = some tr ∧
        drs[p]? = some dr ∧ k.finalizeTally ctx params tr dr = .ok r' ∧ r'.1 = tr'
  | tr :: trs, dr :: drs, processed, r, h => by
    simp only [Keeper.meterPhase] at h
    obtain ⟨p₀, hp, h⟩ := bind_eq_ok.mp h
    obtain ⟨tail, ht, h⟩ := bind_eq_ok.mp h
    cases h
    intro p tr' htr
    cases p with
    | zero =>
      simp only [List.getElem?_cons_zero, Option.some.injEq] at htr
      exact ⟨tr, dr, p₀, rfl, rfl, hp, htr⟩
    | succ p =>
      simp only [List.getElem?_cons_succ] at htr ⊢
      exact meterPhase_at trs drs _ ht p tr' htr
  | [], _, _, r, h => by
    unfold Keeper.meterPhase at h
    cases h
    simp
  | _ :: _, [], _, r, h => by
    unfold Keeper.meterPhase at h
    cases h
    simp

end Phase3

/-! ## 支払いの表 -/

/--
**tally の支払いの表。** `ProcessTallies` が返したとき、位置 `i` の要求の結果が gas meter を持てば、
gas 価格は正で、結果は要求の行 `Keeper.tallyOutcome` に合う（`PayoutRow`）：

* 使った tally gas は、基本料金、基本合意に達した行での filter の料金、VM が走った行での tally VM
  の gas の和を、tally gas の上限で抑えたものである（VM の gas は結果に出力を書いた VM の結果のもの）
* 基本合意に達しなかった行では、data proxy には払わず、executor には commit した者
  （reveal があれば reveal もした者）ごとに `min(ExecGasLimit / RF, ExecutionGasCostFallback)` を払う
* 基本合意に達した行では、支払いは、支払いの無い meter から `MeterProxyGas` と executor の計量が
  記録したものだけである
* 減額の印は、filter 入力が不正、data の合意が無い、tally VM が走らなかった行でだけ立つ
-/
theorem ProcessTallies_payout_table (k : Keeper) (ctx : Context) (tallyList : List Request)
    (params : Params) (isPaused : Bool) {trs : List TallyResult} {drs : List DataResult}
    {processedReqs : KeyMap String (List Distribution)}
    (h : k.ProcessTallies ctx tallyList params isPaused = .ok (trs, drs, processedReqs))
    (i : Nat) {req : Request} {tr : TallyResult} {g : GasMeter}
    (hi : tallyList[i]? = some req) (htr : trs[i]? = some tr) (hg : tr.GasMeter = some g) :
    ∃ price v, k.NewIntFromString req.PostedGasPrice = some price ∧ 0 < price ∧
      PayoutRow k params req (k.tallyOutcome ctx params i req price) v tr g := by
  simp only [Keeper.ProcessTallies] at h
  obtain ⟨phase1, h₁, h⟩ := bind_eq_ok.mp h
  split at h
  · -- 途中で返った：結果は空
    cases h; simp at htr
  · cases h
  · next trs₁ drs₁ items =>
    obtain ⟨executed, h₂, h₃⟩ := bind_eq_ok.mp h
    -- phase 3：位置 `i` の最後の結果は、phase 2 の結果を計量したもの
    obtain ⟨tr₂, dr, r, htr₂, -, hfin, rfl⟩ := meterPhase_at _ _ _ h₃ i tr htr
    -- phase 2 は結果の数を変えないので、位置 `i` には phase 1 の結果がある
    obtain ⟨tr₁, htr₁⟩ : ∃ tr₁, trs₁[i]? = some tr₁ := by
      have hlt : i < executed.1.length := (List.getElem?_eq_some_iff.mp htr₂).1
      rw [length_execPhase h₂] at hlt
      exact ⟨_, List.getElem?_eq_getElem hlt⟩
    obtain ⟨-, hpw, hat⟩ := filterPhase_at tallyList 0 h₁
    obtain ⟨req', dr₁, item, hreq, hreq₁, hin, huniq⟩ := hat i tr₁ htr₁
    rw [hi, Option.some.injEq] at hreq
    subst hreq
    simp only [Nat.zero_add] at hreq₁ huniq
    obtain ⟨hframe, heff⟩ := execPhase_at h₂ hpw.nodup htr₁
    rcases tallyRequest_filtered hreq₁ with ⟨hnone, rfl⟩ | ⟨price, hprice, hpos, hf⟩
    · -- phase 1 で gas meter が無ければ、最後まで gas meter は無い
      have htr₂₁ := hframe fun it hit hix => absurd (huniq it hit hix) (by simp)
      rw [htr₂, Option.some.injEq] at htr₂₁
      subst htr₂₁
      rw [finalizeTally_none hfin hnone] at hg
      cases hg
    · refine ⟨price, ?_⟩
      -- phase 2 の後の結果は、要求の行に合う
      have hex : ∃ v, Executed params req (k.tallyOutcome ctx params i req price) v tr₂ := by
        by_cases hvm : k.tallyOutcome ctx params i req price = .executed ∨
            k.tallyOutcome ctx params i req price = .tallyExecError
        · obtain ⟨it, rfl, hidx, hnoerr, -, hprep⟩ := hf.item_some hvm
          obtain ⟨hran, hnot⟩ := heff it (hin it rfl) hidx hnoerr
          rcases hvm with hvm | hvm
          · obtain ⟨vr, hvr⟩ := hran (hprep.mp hvm)
            rw [htr₂, Option.some.injEq] at hvr
            subst hvr
            rw [hvm] at hf ⊢
            exact ⟨_, hf.executed_of_run vr⟩
          · have hvr := hnot fun hc => by have := hprep.mpr hc; rw [hvm] at this; cases this
            rw [htr₂, Option.some.injEq] at hvr
            subst hvr
            rw [hvm] at hf ⊢
            exact ⟨0, hf.executed_of_notExecuted⟩
        · have hnone := hf.item_none (fun h => hvm (.inl h)) (fun h => hvm (.inr h))
          subst hnone
          have htr₂₁ := hframe fun it hit hix => absurd (huniq it hit hix) (by simp)
          rw [htr₂, Option.some.injEq] at htr₂₁
          subst htr₂₁
          exact ⟨0, hf.executed_of_skipped (fun h => hvm (.inl h)) (fun h => hvm (.inr h))⟩
      obtain ⟨v, hv⟩ := hex
      exact ⟨v, hprice, hpos, finalizeTally_row hv hfin hg⟩

/--
二人の executor が reveal した `Request.twoReveals` は、filter を通って tally VM が走る行に落ち、
その行に合う。
-/
theorem ProcessTallies_payout_table_twoReveals :
    ∃ trs drs processedReqs,
      Keeper.sampleVm.ProcessTallies ⟨2, 1⟩ [Request.twoReveals] DefaultParams false =
        .ok (trs, drs, processedReqs) ∧
      Keeper.sampleVm.tallyOutcome ⟨2, 1⟩ DefaultParams 0 Request.twoReveals 1 = .executed ∧
      trs.map (·.GasMeter.isSome) = [true] ∧
      ∀ tr g, trs[0]? = some tr → tr.GasMeter = some g →
        ∃ price v, Keeper.sampleVm.NewIntFromString Request.twoReveals.PostedGasPrice = some price ∧
          0 < price ∧
          PayoutRow Keeper.sampleVm DefaultParams Request.twoReveals
            (Keeper.sampleVm.tallyOutcome ⟨2, 1⟩ DefaultParams 0 Request.twoReveals price) v tr g := by
  obtain ⟨⟨trs, drs, processedReqs⟩, hrun⟩ := exists_ok_of_isOk (by decide :
    (Keeper.sampleVm.ProcessTallies ⟨2, 1⟩ [Request.twoReveals] DefaultParams false).isOk = true)
  have hshape : (Keeper.sampleVm.ProcessTallies ⟨2, 1⟩ [Request.twoReveals] DefaultParams false).map
      (fun r => r.1.map (·.GasMeter.isSome)) = .ok [true] := by
    decide
  rw [hrun] at hshape
  simp only [Except.map, Except.ok.injEq] at hshape
  exact ⟨trs, drs, processedReqs, hrun, by decide, hshape, fun tr g htr hg =>
    ProcessTallies_payout_table Keeper.sampleVm ⟨2, 1⟩ [Request.twoReveals] DefaultParams false hrun
      0 rfl htr hg⟩

/-- reveal が一つで、filter 入力が `FilterMode` の種類の byte 1 だけの要求。 -/
def Request.shortModeInput : Request :=
  { Request.sample with
    TallyGasLimit := 2000000000000
    Commits := ⟨[("a", [])], by decide⟩
    Reveals := ⟨[("a", ⟨"00", 1, 0, 10, "", []⟩)], by decide⟩
    ConsensusFilter := "AQ==" }

/--
**filter 入力が不正な行でも filter の料金を払うことがある。** `FilterMode` の入力が 1 byte しか
無い要求は filter 入力が不正の行に落ちるが、`NewFilterMode` は入力の長さを見る前に
`100000 * RF` を払うので、使った tally gas は基本料金 `10^12` より `100000` 多い。
-/
theorem ProcessTallies_charges_invalid_mode_input :
    Keeper.offline.tallyOutcome ⟨1, 1⟩ DefaultParams 0 Request.shortModeInput 1 =
        .invalidFilterInput ∧
      filterCharge Request.shortModeInput.ConsensusFilter Request.shortModeInput.ReplicationFactor
        DefaultParams = 100000 ∧
      (Keeper.offline.ProcessTallies ⟨1, 1⟩ [Request.shortModeInput] DefaultParams false).map
          (fun r => r.1.map fun tr => tr.TallyGasUsed) = .ok [1000000100000] :=
  ⟨by decide +kernel, by decide +kernel, by decide +kernel⟩

end SedaChain.Tally
