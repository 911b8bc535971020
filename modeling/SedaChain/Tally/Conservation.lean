import SedaChain.Tally.EndBlock
import SedaChain.Infra.List

/-!
# tally の gas の保存

`Keeper.ProcessTallies` が返したとき、gas meter を持つどの要求についても

* 記録した proxy と executor の額の和と残りの実行 gas の和は、要求の実行 gas の上限に等しい
* 使った tally gas と残りの tally gas の和は、要求の上限と module の上限の小さい方に等しい
* 分配の額の和は、gas 価格と data result の gas の積に等しい（減額の有無に依らない）
* executor への報酬は負にならない

ことを示す（`ProcessTallies_gas_conservation`）。要求について仮定するのは、Core Contract が
保つ `1 ≤ RF`、`|Commits| ≤ RF`、`|Reveals| ≤ RF` だけである。

証明は phase ごとに、要求と結果の位置の揃い（`List.Forall₂`）の上で不変条件 `Ready` を運ぶ。

* phase 1：gas meter は作られた時点で保存則を満たし、filter は tally gas しか動かさず、
  commit した者への固定額は残りの範囲に収まる（`tallyRequest_ready`）
* phase 2：tally gas を払うことと減額にすることは保存則を保つ（`execPhase_ready`）
* phase 3：proxy と executor への割り当ては残りの範囲に収まり（`meterTally_meter`）、
  分配の和は使った gas の価格倍である（`finalizeTally_accounted`）
-/

namespace SedaChain.Tally

open Infra Infra.Go SedaChain.Batching

/-! ## gas meter の不変条件 -/

/-- 要求 `req` の gas meter として正しいこと：保存則、二つの上限、正の価格。 -/
structure MeterOK (params : Params) (req : Request) (g : GasMeter) : Prop where
  conserved : g.Conserved
  execGasLimit : g.execGasLimit = req.ExecGasLimit.toNat
  tallyGasLimit : g.tallyGasLimit = min req.TallyGasLimit.toNat params.MaxTallyGasLimit.toNat
  price_pos : 0 < g.GasPrice

section MeterOK

variable {params : Params} {req : Request} {g g' : GasMeter}

theorem MeterOK.spent (h : MeterOK params req g) {a : Nat} (hs : g.Spent g' a) :
    MeterOK params req g' where
  conserved := h.conserved.spent hs
  execGasLimit := hs.execGasLimit.trans h.execGasLimit
  tallyGasLimit := hs.tallyGasLimit.trans h.tallyGasLimit
  price_pos := by
    have := h.price_pos
    unfold GasMeter.GasPrice at *
    rw [hs.postedGasPrice]; exact this

theorem MeterOK.consumeTallyGas (h : MeterOK params req g) (a : Nat) :
    MeterOK params req (g.ConsumeTallyGas a).2 where
  conserved := h.conserved.consumeTallyGas a
  execGasLimit := by rw [GasMeter.consumeTallyGas_execGasLimit]; exact h.execGasLimit
  tallyGasLimit := by rw [GasMeter.consumeTallyGas_tallyGasLimit]; exact h.tallyGasLimit
  price_pos := by
    have := h.price_pos
    unfold GasMeter.GasPrice at *
    rw [GasMeter.consumeTallyGas_postedGasPrice]; exact this

theorem MeterOK.tallyCharged (h : MeterOK params req g) (hc : g.TallyCharged g') :
    MeterOK params req g' := by
  rcases hc with rfl | ⟨a, rfl⟩
  · exact h
  · exact h.consumeTallyGas a

theorem MeterOK.setReducedPayoutMode (h : MeterOK params req g) :
    MeterOK params req g.SetReducedPayoutMode :=
  ⟨h.conserved.setReducedPayoutMode, h.execGasLimit, h.tallyGasLimit, h.price_pos⟩

/-- 新しい gas meter は、価格が正なら要求の gas meter として正しい。 -/
theorem meterOK_NewGasMeter {price : Int} (hpos : 0 < price) :
    MeterOK params req (NewGasMeter req.TallyGasLimit req.ExecGasLimit params.MaxTallyGasLimit
      price params.GasCostBase) where
  conserved := GasMeter.conserved_NewGasMeter _ _ _ _ _
  execGasLimit := GasMeter.NewGasMeter_execGasLimit _ _ _ _ _
  tallyGasLimit := GasMeter.NewGasMeter_tallyGasLimit _ _ _ _ _
  price_pos := by unfold GasMeter.GasPrice; rw [GasMeter.NewGasMeter_postedGasPrice]; exact hpos

/-- filter の誤りの扱いは、commit の数が RF 以下なら gas meter の正しさを保つ。 -/
theorem MeterOK.of_meterFilterError (h : MeterOK params req g)
    (hc : req.Commits.size ≤ req.ReplicationFactor.toNat) {e : FilterError}
    (he : meterFilterError req params e g = .ok g') : MeterOK params req g' := by
  unfold meterFilterError at he
  split at he
  · obtain ⟨a, ha⟩ := MeterExecutorGasFallback_spent hc he
    exact h.spent ha
  · split at he
    · cases he; exact h.setReducedPayoutMode
    · cases he; exact h

end MeterOK

/-! ## phase 1 と phase 2 の不変条件 -/

/--
要求 `req` の結果 `tr` が phase 3 の前に満たすこと。replication factor は要求のもので、
reveal と報告は同じ数で reveal の数は要求の reveal の数以下、gas meter があれば正しい。
-/
structure Ready (params : Params) (req : Request) (tr : TallyResult) : Prop where
  replicationFactor : tr.ReplicationFactor = req.ReplicationFactor
  gasReports : tr.Reveals.length = tr.GasReports.length
  reveals : tr.Reveals.length ≤ req.Reveals.size
  meter : ∀ g, tr.GasMeter = some g → MeterOK params req g

/--
reveal と報告を変えずに gas meter を書き換えても、書き換えが gas meter の正しさを保つなら
`Ready` は保たれる。
-/
theorem Ready.mapMeter {params : Params} {req : Request} {tr tr' : TallyResult}
    (h : Ready params req tr) (hrf : tr'.ReplicationFactor = tr.ReplicationFactor)
    (hrev : tr'.Reveals = tr.Reveals) (hrep : tr'.GasReports = tr.GasReports)
    {f : GasMeter → GasMeter} (hm : tr'.GasMeter = tr.GasMeter.map f)
    (hf : ∀ g, MeterOK params req g → MeterOK params req (f g)) : Ready params req tr' where
  replicationFactor := hrf.trans h.replicationFactor
  gasReports := by rw [hrev, hrep]; exact h.gasReports
  reveals := by rw [hrev]; exact h.reveals
  meter := by
    intro g hg
    rw [hm] at hg
    obtain ⟨g₀, hg₀, rfl⟩ := Option.map_eq_some_iff.mp hg
    exact hf g₀ (h.meter g₀ hg₀)

/-- 印を付けただけの結果（全額返金、contract の停止）は gas meter を持たない。 -/
theorem ready_didNotRun (params : Params) (req : Request) :
    Ready params req { TallyResult.ofRequest req with FilterResult := FilterResult.didNotRun } :=
  ⟨rfl, rfl, Nat.zero_le _, fun _ hg => nomatch hg⟩

theorem MarkResultAsFallback_snd {keccak : Bytes → Bytes} {dr : DataResult} {tr : TallyResult}
    {reason : String} {r : DataResult × TallyResult}
    (h : MarkResultAsFallback keccak dr tr reason = .ok r) :
    r.2 = { tr with FilterResult := FilterResult.didNotRun } := by
  obtain ⟨id, -, h⟩ := bind_eq_ok.mp h
  cases h; rfl

theorem MarkResultAsPaused_snd {keccak : Bytes → Bytes} {dr : DataResult} {tr : TallyResult}
    {r : DataResult × TallyResult} (h : MarkResultAsPaused keccak dr tr = .ok r) :
    r.2 = { tr with FilterResult := FilterResult.didNotRun } := by
  obtain ⟨id, -, h⟩ := bind_eq_ok.mp h
  cases h; rfl

theorem markFallback_ready {params : Params} {req : Request} {keccak : Bytes → Bytes}
    {dr dr' : DataResult} {reason : String} {err : Option String} {tr : TallyResult}
    {item : Option TallyParallelExecItem}
    (h : markFallback keccak dr (TallyResult.ofRequest req) reason err = .next tr dr' item) :
    Ready params req tr := by
  unfold markFallback at h
  split at h
  · next r hr =>
    cases h
    rw [MarkResultAsFallback_snd hr]
    exact ready_didNotRun params req
  · cases h

/-- gas meter を作った後の phase 1 の結果は `Ready` である。 -/
theorem filterRequest_ready {k : Keeper} {ctx : Context} {params : Params} {i : Nat}
    {req : Request} {dr dr' : DataResult} {g : GasMeter} {tr : TallyResult}
    {item : Option TallyParallelExecItem} (hc : req.Commits.size ≤ req.ReplicationFactor.toNat)
    (hg : MeterOK params req g)
    (h : k.filterRequest ctx params i req (TallyResult.ofRequest req) dr g = .ok (.next tr dr' item)) :
    Ready params req tr := by
  unfold Keeper.filterRequest at h
  split at h
  · -- commit が足りない：固定額を払う
    obtain ⟨g', hg', h⟩ := bind_eq_ok.mp h
    cases h
    obtain ⟨a, ha⟩ := MeterExecutorGasFallback_spent hc hg'
    refine ⟨rfl, rfl, Nat.zero_le _, ?_⟩
    rintro g'' ⟨⟩
    exact hg.spent ha
  · -- filter を掛けた：reveal と報告は整形の結果
    have hcharged := hg.tallyCharged (ExecuteFilter_meter k
      (req.SanitizeReveals k.sha256 ctx.BlockHeight).1 req.ConsensusFilter req.ReplicationFactor
      params g)
    have hrev : (req.SanitizeReveals k.sha256 ctx.BlockHeight).1.length = req.Reveals.size :=
      length_SanitizeReveals_reveals _ _ _
    have hrep : (req.SanitizeReveals k.sha256 ctx.BlockHeight).2.2.length = req.Reveals.size :=
      length_SanitizeReveals_gasReports _ _ _
    dsimp only at h
    split at h
    · cases h
      refine ⟨rfl, hrev.trans hrep.symm, hrev.le, ?_⟩
      rintro g'' ⟨⟩
      exact hcharged
    · obtain ⟨g', hg', h⟩ := bind_eq_ok.mp h
      cases h
      refine ⟨rfl, hrev.trans hrep.symm, hrev.le, ?_⟩
      rintro g'' ⟨⟩
      exact hcharged.of_meterFilterError hc hg'

/-- **phase 1 の一つの要求の結果は `Ready` である。** -/
theorem tallyRequest_ready {k : Keeper} {ctx : Context} {params : Params} {isPaused : Bool}
    {i : Nat} {req : Request} {tr : TallyResult} {dr : DataResult}
    {item : Option TallyParallelExecItem} (hc : req.Commits.size ≤ req.ReplicationFactor.toNat)
    (h : k.tallyRequest ctx params isPaused i req = .ok (.next tr dr item)) :
    Ready params req tr := by
  simp only [Keeper.tallyRequest] at h
  obtain ⟨res, -, h⟩ := bind_eq_ok.mp h
  -- 符号化の誤り、停止、gas 価格の誤りでは印を付けるだけ
  split at h
  · exact markFallback_ready (Except.ok.inj h)
  · split at h
    · split at h
      · next r hr =>
        cases h
        rw [MarkResultAsPaused_snd hr]
        exact ready_didNotRun params req
      · cases h
    · split at h
      · exact markFallback_ready (Except.ok.inj h)
      · split at h
        · exact markFallback_ready (Except.ok.inj h)
        · next price _ hpos =>
          exact filterRequest_ready hc (meterOK_NewGasMeter (by omega)) h

/-- phase 1 の結果は要求と位置が揃い、どれも `Ready` である。 -/
theorem filterPhase_ready {k : Keeper} {ctx : Context} {params : Params} {isPaused : Bool} :
    ∀ (reqs : List Request) (i : Nat) {trs : List TallyResult} {drs : List DataResult}
      {items : List TallyParallelExecItem},
      (∀ req ∈ reqs, req.Commits.size ≤ req.ReplicationFactor.toNat) →
      k.filterPhase ctx params isPaused reqs i = .ok (.done trs drs items) →
      List.Forall₂ (Ready params) reqs trs ∧ drs.length = reqs.length
  | [], _, _, _, _, _, h => by
    cases h; exact ⟨.nil, rfl⟩
  | req :: rest, i, trs, drs, items, hc, h => by
    simp only [Keeper.filterPhase] at h
    obtain ⟨outcome, ho, h⟩ := bind_eq_ok.mp h
    split at h
    · cases h
    · next tr dr item =>
      obtain ⟨tail, ht, h⟩ := bind_eq_ok.mp h
      split at h
      · cases h
      · next trs' drs' items' =>
        cases h
        obtain ⟨hf, hl⟩ := filterPhase_ready rest (i + 1)
          (fun r hr => hc r (List.mem_cons_of_mem _ hr)) ht
        exact ⟨.cons (tallyRequest_ready (hc req List.mem_cons_self) ho) hf, by simp [hl]⟩

/-- phase 2 の loop は、結果を `Ready` のまま書き換える。 -/
theorem applyVmResults_ready {params : Params} {reqs : List Request} (vmResults : List VmResult) :
    ∀ (items : List TallyParallelExecItem) (idx : Nat) {trs : List TallyResult}
      {drs : List DataResult} {r : List TallyResult × List DataResult},
      List.Forall₂ (Ready params) reqs trs →
      applyVmResults vmResults items idx trs drs = .ok r →
      List.Forall₂ (Ready params) reqs r.1 ∧ r.2.length = drs.length
  | [], _, _, _, _, hf, h => by cases h; exact ⟨hf, rfl⟩
  | item :: rest, idx, trs, drs, r, hf, h => by
    simp only [applyVmResults] at h
    split at h
    · -- VM が走った：tally gas を払う
      obtain ⟨vmResult, -, h⟩ := bind_eq_ok.mp h
      have hf' := forall₂_modify (f := applyVmResult vmResult)
        (fun req tr htr => htr.mapMeter rfl rfl rfl rfl fun g hg => hg.consumeTallyGas _) item.Index hf
      obtain ⟨h₁, h₂⟩ := applyVmResults_ready vmResults rest (idx + 1) hf' h
      exact ⟨h₁, by simp [h₂]⟩
    · -- VM が走らなかった：減額にする
      have hf' := forall₂_modify
        (f := fun tr => { tr with GasMeter := tr.GasMeter.map GasMeter.SetReducedPayoutMode })
        (fun req tr htr => htr.mapMeter rfl rfl rfl rfl fun g hg => hg.setReducedPayoutMode) item.Index hf
      obtain ⟨h₁, h₂⟩ := applyVmResults_ready vmResults rest idx hf' h
      exact ⟨h₁, by simp [h₂]⟩

/-- **phase 2 は結果を `Ready` のまま書き換える。** -/
theorem execPhase_ready {k : Keeper} {ctx : Context} {params : Params} {reqs : List Request}
    {items : List TallyParallelExecItem} {trs : List TallyResult} {drs : List DataResult}
    {r : List TallyResult × List DataResult} (hf : List.Forall₂ (Ready params) reqs trs)
    (h : k.execPhase ctx items trs drs = .ok r) :
    List.Forall₂ (Ready params) reqs r.1 ∧ r.2.length = drs.length := by
  unfold Keeper.execPhase at h
  split at h
  · cases h; exact ⟨hf, rfl⟩
  · exact applyVmResults_ready _ _ 0 hf h

/-! ## phase 3 -/

/--
**計量は、計量の前の gas meter から残りの範囲で使うだけである。** RF が正で、要求の reveal の数が
RF 以下なら、proxy への支払いも executor への支払いも残りの範囲に収まる。
-/
theorem meterTally_spent {k : Keeper} {params : Params} {req : Request} {tr tr' : TallyResult}
    (hready : Ready params req tr) (hrev : req.Reveals.size ≤ req.ReplicationFactor.toNat)
    (h : k.meterTally tr = .ok tr') :
    ∀ g', tr'.GasMeter = some g' → ∃ g a, tr.GasMeter = some g ∧ g.Spent g' a := by
  unfold Keeper.meterTally at h
  split at h
  · obtain ⟨g₀, hg₀, h⟩ := bind_eq_ok.mp h
    obtain ⟨g₁, hg₁, h⟩ := bind_eq_ok.mp h
    have hm₀ : tr.GasMeter = some g₀ := by
      unfold TallyResult.meter at hg₀
      split at hg₀
      · next g hg => cases hg₀; exact hg
      · cases hg₀
    obtain ⟨a₁, ha₁⟩ := MeterProxyGas_spent hg₁
    -- 報告が揃っていてもいなくても、executor への支払いは残りの範囲に収まる
    have hn : tr.Reveals.length ≤ tr.ReplicationFactor.toNat := by
      rw [hready.replicationFactor]; exact hready.reveals.trans hrev
    dsimp only at h
    split at h
    · obtain ⟨g₂, hg₂, h⟩ := bind_eq_ok.mp h
      cases h
      obtain ⟨a, ha⟩ :=
        MeterExecutorGasUniform_spent (t := { tr with GasMeter := some g₁ }) rfl hn hg₂
      rintro g ⟨⟩
      exact ⟨g₀, a₁ + a, hm₀, ha₁.trans ha⟩
    · obtain ⟨g₂, hg₂, h⟩ := bind_eq_ok.mp h
      cases h
      obtain ⟨a, ha⟩ := MeterExecutorGasDivergent_spent (t := { tr with GasMeter := some g₁ }) rfl
        hn hready.gasReports hg₂
      rintro g ⟨⟩
      exact ⟨g₀, a₁ + a, hm₀, ha₁.trans ha⟩
  · cases h
    intro g' hg'
    exact ⟨g', 0, hg', .refl g'⟩

/-- **計量の後も gas meter は正しい。** 計量は残りの範囲で使うだけだからである（`meterTally_spent`）。 -/
theorem meterTally_meter {k : Keeper} {params : Params} {req : Request} {tr tr' : TallyResult}
    (hready : Ready params req tr) (hrev : req.Reveals.size ≤ req.ReplicationFactor.toNat)
    (h : k.meterTally tr = .ok tr') : ∀ g, tr'.GasMeter = some g → MeterOK params req g := by
  intro g' hg'
  obtain ⟨g, a, hg, hs⟩ := meterTally_spent hready hrev h g' hg'
  exact (hready.meter g hg).spent hs

/-- 一つの要求の最終の結果について、gas の勘定が合うこと。 -/
def GasAccounted (k : Keeper) (ctx : Context) (params : Params) (req : Request)
    (tr : TallyResult) (dr : DataResult) : Prop :=
  ∀ g, tr.GasMeter = some g →
    g.recordedExecGas + g.execGasRemaining = req.ExecGasLimit.toNat ∧
    g.TallyGasUsed + g.tallyGasRemaining = min req.TallyGasLimit.toNat params.MaxTallyGasLimit.toNat ∧
    dr.GasUsed = some g.TotalGasUsed ∧
    ∃ dists, k.DistributionsFromGasMeter ctx tr.ID tr.Height g params.BurnRatio = .ok dists ∧
      totalAmount dists = g.GasPrice * g.TotalGasUsed ∧
      ∀ d ∈ dists, d.isExecutorReward = true → 0 ≤ d.amount

theorem tryHashResult_gasUsed {keccak : Bytes → Bytes} {dr dr' : DataResult}
    (h : tryHashResult keccak dr = .ok dr') : dr'.GasUsed = dr.GasUsed := by
  unfold tryHashResult at h
  split at h
  · cases h; rfl
  · cases h

/--
**phase 3 の一つの要求の結果は、gas の勘定が合う。** 分配の和は使った tally gas と
記録した実行 gas の価格倍で、保存則により記録した実行 gas は使った実行 gas に等しい。
-/
theorem finalizeTally_accounted {k : Keeper} {ctx : Context} {params : Params} {req : Request}
    {tr : TallyResult} {dr : DataResult} {r : TallyResult × DataResult × Option (List Distribution)}
    (hparams : params.Validate = .ok ()) (hready : Ready params req tr)
    (hrev : req.Reveals.size ≤ req.ReplicationFactor.toNat)
    (h : k.finalizeTally ctx params tr dr = .ok r) : GasAccounted k ctx params req r.1 r.2.1 := by
  simp only [Keeper.finalizeTally] at h
  obtain ⟨tr₁, h₁, h⟩ := bind_eq_ok.mp h
  have hmeter := meterTally_meter hready hrev h₁
  split at h
  · next g hg =>
    obtain ⟨dists, hd, h⟩ := bind_eq_ok.mp h
    obtain ⟨dr', hdr', h⟩ := bind_eq_ok.mp h
    cases h
    intro g' hg'
    rw [hg] at hg'
    cases hg'
    have hok := hmeter g hg
    have hburn := Params.burnRatio_of_Validate hparams
    refine ⟨?_, ?_, ?_, dists, hd, ?_, ?_⟩
    · rw [← hok.execGasLimit]; exact hok.conserved
    · rw [← hok.tallyGasLimit]; exact GasMeter.tallyGasUsed_add_remaining g
    · exact tryHashResult_gasUsed hdr'
    · rw [sum_DistributionsFromGasMeter k ctx _ _ g _ hd, GasMeter.TotalGasUsed,
        ← hok.conserved.executionGasUsed]
    · exact executorReward_nonneg_DistributionsFromGasMeter k ctx _ _ hburn.1 hburn.2
        hok.price_pos hd
  · next hg =>
    obtain ⟨dr', -, h⟩ := bind_eq_ok.mp h
    cases h
    intro g' hg'
    rw [hg] at hg'
    cases hg'

/-- phase 3 の結果は、位置ごとに gas の勘定が合う。 -/
theorem meterPhase_accounted {k : Keeper} {ctx : Context} {params : Params}
    (hparams : params.Validate = .ok ()) :
    ∀ {reqs : List Request} {trs : List TallyResult} (drs : List DataResult)
      (processed : KeyMap String (List Distribution))
      {r : List TallyResult × List DataResult × KeyMap String (List Distribution)},
      List.Forall₂ (Ready params) reqs trs → drs.length = trs.length →
      (∀ req ∈ reqs, req.Reveals.size ≤ req.ReplicationFactor.toNat) →
      k.meterPhase ctx params trs drs processed = .ok r →
      ∀ (i : Nat) (req : Request) (tr : TallyResult) (dr : DataResult),
        reqs[i]? = some req → r.1[i]? = some tr → r.2.1[i]? = some dr →
        GasAccounted k ctx params req tr dr
  | _, _, _, _, _, .nil, _, _, h => by
    intro i req tr dr _ htr _
    unfold Keeper.meterPhase at h
    cases h; simp at htr
  | req :: reqs, tr :: trs, dr :: drs, processed, r, .cons hready hf, hlen, hrev, h => by
    simp only [Keeper.meterPhase] at h
    obtain ⟨p, hp, h⟩ := bind_eq_ok.mp h
    obtain ⟨tail, ht, h⟩ := bind_eq_ok.mp h
    cases h
    intro i req' tr' dr' hreq htr hdr
    cases i with
    | zero =>
      simp only [List.getElem?_cons_zero, Option.some.injEq] at hreq htr hdr
      subst hreq htr hdr
      exact finalizeTally_accounted hparams hready (hrev req List.mem_cons_self) hp
    | succ i =>
      simp only [List.getElem?_cons_succ] at hreq htr hdr
      exact meterPhase_accounted hparams drs _ hf (by simpa using hlen)
        (fun r hr => hrev r (List.mem_cons_of_mem _ hr)) ht i req' tr' dr' hreq htr hdr
  | _ :: _, _ :: _, [], _, _, _, hlen, _, _ => by simp at hlen

/--
**tally の gas の保存。** 検査を通る parameter と、`1 ≤ RF`、`|Commits| ≤ RF`、`|Reveals| ≤ RF`
を満たす要求の列について `ProcessTallies` が返したなら、`i` 番目の要求の結果が gas meter を
持つとき、その実行 gas の記録と残りの和は要求の上限に、tally gas の使用と残りの和は二つの上限の
小さい方に等しく、分配の額の和は gas 価格と data result の gas の積で、executor への報酬は
負にならない。
-/
theorem ProcessTallies_gas_conservation (k : Keeper) (ctx : Context) (tallyList : List Request)
    (params : Params) (isPaused : Bool) (hparams : params.Validate = .ok ())
    (hreq : ∀ req ∈ tallyList, 1 ≤ req.ReplicationFactor.toNat ∧
      req.Commits.size ≤ req.ReplicationFactor.toNat ∧ req.Reveals.size ≤ req.ReplicationFactor.toNat)
    {trs : List TallyResult} {drs : List DataResult}
    {processedReqs : KeyMap String (List Distribution)}
    (h : k.ProcessTallies ctx tallyList params isPaused = .ok (trs, drs, processedReqs))
    (i : Nat) {req : Request} {tr : TallyResult} {dr : DataResult}
    (hi : tallyList[i]? = some req) (htr : trs[i]? = some tr) (hdr : drs[i]? = some dr) :
    GasAccounted k ctx params req tr dr := by
  simp only [Keeper.ProcessTallies] at h
  obtain ⟨phase1, h₁, h⟩ := bind_eq_ok.mp h
  split at h
  · -- 途中で返った：結果は空
    cases h; simp at htr
  · cases h
  · next trs₁ drs₁ items =>
    obtain ⟨hf₁, hl₁⟩ := filterPhase_ready tallyList 0 (fun r hr => (hreq r hr).2.1) h₁
    obtain ⟨executed, h₂, h⟩ := bind_eq_ok.mp h
    obtain ⟨hf₂, hl₂⟩ := execPhase_ready hf₁ h₂
    exact meterPhase_accounted hparams executed.2 _ hf₂
      (by rw [hl₂, hl₁, hf₂.length_eq]) (fun r hr => (hreq r hr).2.2) h i req tr dr hi htr hdr

/--
二人の executor が reveal した要求の一例。filter は基本合意を見つけ、tally VM が走り、揃っていない
報告で executor の gas を計量する：基本料金と filter と VM の tally gas を燃やし、最小の報告者に 480、
他方に 320 を払う。
-/
theorem ProcessTallies_gas_conservation_twoReveals :
    ∃ trs drs processedReqs,
      Keeper.sampleVm.ProcessTallies ⟨2, 1⟩ [Request.twoReveals] DefaultParams false =
        .ok (trs, drs, processedReqs) ∧
      trs.length = 1 ∧ drs.length = 1 ∧
      processedReqs.get? "00" =
        some [.burn 1000000100007, .executorReward "e1" 480, .executorReward "e2" 320] ∧
      ∀ tr dr, trs[0]? = some tr → drs[0]? = some dr →
        GasAccounted Keeper.sampleVm ⟨2, 1⟩ DefaultParams Request.twoReveals tr dr := by
  obtain ⟨⟨trs, drs, processedReqs⟩, hrun⟩ := exists_ok_of_isOk (by decide :
    (Keeper.sampleVm.ProcessTallies ⟨2, 1⟩ [Request.twoReveals] DefaultParams false).isOk = true)
  have hshape : (Keeper.sampleVm.ProcessTallies ⟨2, 1⟩ [Request.twoReveals] DefaultParams false).map
      (fun r => (r.1.length, r.2.1.length, r.2.2.get? "00")) =
      .ok (1, 1, some [.burn 1000000100007, .executorReward "e1" 480, .executorReward "e2" 320]) := by
    decide
  rw [hrun] at hshape
  simp only [Except.map, Except.ok.injEq, Prod.mk.injEq] at hshape
  obtain ⟨htrs, hdrs, hdist⟩ := hshape
  exact ⟨trs, drs, processedReqs, hrun, htrs, hdrs, hdist, fun tr dr htr hdr =>
    ProcessTallies_gas_conservation Keeper.sampleVm ⟨2, 1⟩ [Request.twoReveals] DefaultParams false
      (by decide) (by decide) hrun 0 rfl htr hdr⟩

end SedaChain.Tally
