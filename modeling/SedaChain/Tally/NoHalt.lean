import SedaChain.Tally.VmMatching
import SedaChain.Tally.Divergent
import SedaChain.Tally.BasicConsensus

/-!
# tally の end-block は止まらない

`Keeper.ProcessTallies` は panic せず、誤りも返さずに終わり、どの data result の ID もその中身の
`TryHash` である（`ProcessTallies_completes`）。要求について仮定するのは、Core Contract が保つ
ことだけである（`Tallyable`）：ID は 16 進、`1 ≤ RF`、`|Commits| ≤ RF`、`|Reveals| ≤ RF`、
投稿された gas 価格は `u128` である。tally VM は呼び出しごとに一つの結果を返す。

gas 価格の上限が要るのは、分配が `math.Int` の積 `TallyGasUsed * gasPrice` を作り、256 bit を
超えると panic するからである。`u128` の価格と `uint64` の gas の積は 192 bit に収まる。

証明は phase ごとに、要求と位置の揃った二つの列の上で条件を運ぶ。

* `Hashable` — data result の ID を計算できる。phase 1 で作られ、phase 2 と 3 の書き換えで保たれる
* `Meterable` — phase 3 が panic せずに計量できる：`Ready` に加えて価格が `u128` に収まり、
  基本合意に達した結果は gas meter と reveal と、reveal の数だけの外れ値の印を持つ
* 各 phase について、条件のもとで成功し、条件を次の phase に渡す
  （`filterPhase_done`、`execPhase_meterable`、`meterPhase_isOk`）
-/

namespace SedaChain.Tally

open Infra Infra.Go SedaChain.Batching

/-! ## data result の ID -/

/-- data result の ID を計算できること：`TryHash` が読む四つの field が復号でき、gas が 128 bit に収まる。 -/
structure Hashable (dr : DataResult) : Prop where
  drId : ∃ b, decodeHex dr.DrId = .ok b
  gasUsed : ∀ x, dr.GasUsed = some x → x.natAbs < 2 ^ 128
  payback : ∃ b, decodeBase64 dr.PaybackAddress = .ok b
  payload : ∃ b, decodeBase64 dr.SedaPayload = .ok b

/-- 16 進として読める ID は `decodeHex` でも読める。 -/
theorem decodeHex_of_isSome {s : String} (h : (hexDecode s).isSome) : ∃ b, decodeHex s = .ok b := by
  unfold hexDecode at h
  unfold decodeHex
  split at h
  · next b hb => exact ⟨b, hb⟩
  · cases h

/-- 空の文字列は base64 として空の byte 列に読める。 -/
theorem decodeBase64_empty : decodeBase64 "" = .ok [] := by decide

theorem gasUsedBytes_isOk {g : Option Int} (h : ∀ x, g = some x → x.natAbs < 2 ^ 128) :
    ∃ b, gasUsedBytes g = .ok b := by
  cases g with
  | none => exact ⟨_, rfl⟩
  | some x => exact ⟨_, if_pos (h x rfl)⟩

/-- **ID を計算できる data result は、`TryHash` が成功する。** -/
theorem Hashable.TryHash_isOk (keccak : Bytes → Bytes) {dr : DataResult} (h : Hashable dr) :
    ∃ id, dr.TryHash keccak = .ok id := by
  obtain ⟨b₁, h₁⟩ := h.drId
  obtain ⟨b₂, h₂⟩ := gasUsedBytes_isOk h.gasUsed
  obtain ⟨b₃, h₃⟩ := h.payback
  obtain ⟨b₄, h₄⟩ := h.payload
  simp [DataResult.TryHash, hashContent, h₁, h₂, h₃, h₄, Except.map]

/-- `TryHash` は ID を読まない。 -/
theorem TryHash_setId (keccak : Bytes → Bytes) (dr : DataResult) (id : String) :
    ({ dr with Id := id } : DataResult).TryHash keccak = dr.TryHash keccak := rfl

/-- 四つの field が同じで、gas が 128 bit に収まるなら、ID を計算できる。 -/
theorem Hashable.of_fields {dr dr' : DataResult} (h : Hashable dr) (hid : dr'.DrId = dr.DrId)
    (hpb : dr'.PaybackAddress = dr.PaybackAddress) (hpl : dr'.SedaPayload = dr.SedaPayload)
    (hg : ∀ x, dr'.GasUsed = some x → x.natAbs < 2 ^ 128) : Hashable dr' where
  drId := hid ▸ h.drId
  gasUsed := hg
  payback := hpb ▸ h.payback
  payload := hpl ▸ h.payload

/-- gas も同じなら、なおさらである。 -/
theorem Hashable.congr {dr dr' : DataResult} (h : Hashable dr) (hid : dr'.DrId = dr.DrId)
    (hpb : dr'.PaybackAddress = dr.PaybackAddress) (hpl : dr'.SedaPayload = dr.SedaPayload)
    (hg : dr'.GasUsed = dr.GasUsed) : Hashable dr' :=
  h.of_fields hid hpb hpl (hg ▸ h.gasUsed)

/-- ID を付け直した data result は、その ID が自分の `TryHash` である。 -/
theorem tryHashResult_isOk (keccak : Bytes → Bytes) {dr : DataResult} (h : Hashable dr) :
    ∃ dr', tryHashResult keccak dr = .ok dr' ∧ dr'.TryHash keccak = .ok dr'.Id := by
  obtain ⟨id, hid⟩ := h.TryHash_isOk keccak
  refine ⟨{ dr with Id := id }, by simp [tryHashResult, hid], ?_⟩
  rw [TryHash_setId]
  exact hid

/-! ## phase 1 の data result -/

/--
**ID が 16 進なら、`ToResult` は data result の骨組みを作り、その ID は計算できる。** payback
address と SEDA payload は、読めなければ空にされ、空の文字列は base64 として読める。
-/
theorem ToResult_hashable (ctx : Context) {req : Request} (hid : (hexDecode req.ID).isSome) :
    ∃ dr err, req.ToResult ctx = .ok (dr, err) ∧ Hashable dr := by
  obtain ⟨b, hb⟩ := decodeHex_of_isSome hid
  simp only [Request.ToResult, Option.isNone_iff_eq_none, Option.ne_none_iff_isSome.mpr hid,
    ↓reduceIte]
  -- 二つの field の読めた／読めなかったで四通り。どれも読める文字列が残る
  cases hpb : decodeBase64 req.PaybackAddress <;> cases hpl : decodeBase64 req.SedaPayload <;>
    exact ⟨_, _, rfl, ⟨⟨b, hb⟩, (fun _ h => by cases h),
      by first | exact ⟨_, decodeBase64_empty⟩ | exact ⟨_, hpb⟩,
      by first | exact ⟨_, decodeBase64_empty⟩ | exact ⟨_, hpl⟩⟩⟩

/-- 印を付けた data result（gas は 0、合意は無い）は、もとが ID を計算できれば計算できる。 -/
theorem Hashable.marked {dr : DataResult} (h : Hashable dr) (exitCode : UInt32) (result : Bytes) :
    Hashable { dr with
      GasUsed := some 0, ExitCode := exitCode, Consensus := false, Result := result } :=
  h.of_fields rfl rfl rfl fun x hx => by cases hx; decide

/-- 全額返金の印は、ID を計算できる data result に付ければ成功し、ID を計算できるまま返す。 -/
theorem MarkResultAsFallback_hashable (keccak : Bytes → Bytes) {dr : DataResult} (h : Hashable dr)
    (tr : TallyResult) (reason : String) :
    ∃ r, MarkResultAsFallback keccak dr tr reason = .ok r ∧ Hashable r.1 := by
  have h₀ := h.marked TallyExitCodeInvalidRequest
    (strBytes s!"unable to process request. error: {reason}")
  obtain ⟨id, hid⟩ := h₀.TryHash_isOk keccak
  -- 印を付けた data result の ID の計算は成功する
  cases hm : MarkResultAsFallback keccak dr tr reason with
  | error e => simp [MarkResultAsFallback, hid] at hm
  | ok r =>
    obtain ⟨id', -, hr⟩ := bind_eq_ok.mp hm
    cases hr
    exact ⟨_, rfl, h₀.congr rfl rfl rfl rfl⟩

/-- contract の停止の印も同じである。 -/
theorem MarkResultAsPaused_hashable (keccak : Bytes → Bytes) {dr : DataResult} (h : Hashable dr)
    (tr : TallyResult) :
    ∃ r, MarkResultAsPaused keccak dr tr = .ok r ∧ Hashable r.1 := by
  have h₀ := h.marked TallyExitCodeContractPaused (strBytes "contract is paused")
  obtain ⟨id, hid⟩ := h₀.TryHash_isOk keccak
  cases hm : MarkResultAsPaused keccak dr tr with
  | error e => simp [MarkResultAsPaused, hid] at hm
  | ok r =>
    obtain ⟨id', -, hr⟩ := bind_eq_ok.mp hm
    cases hr
    exact ⟨_, rfl, h₀.congr rfl rfl rfl rfl⟩

/-- 全額返金にして次へ進む。結果は印を付けただけのもので、`ProcessTallies` から返ることはない。 -/
theorem markFallback_next (keccak : Bytes → Bytes) {dr : DataResult} (h : Hashable dr)
    (tr : TallyResult) (reason : String) (err : Option String) :
    ∃ dr', markFallback keccak dr tr reason err =
      .next { tr with FilterResult := FilterResult.didNotRun } dr' none ∧ Hashable dr' := by
  obtain ⟨r, hr, hr₁⟩ := MarkResultAsFallback_hashable keccak h tr reason
  refine ⟨r.1, ?_, hr₁⟩
  simp only [markFallback, hr, MarkResultAsFallback_snd hr]

/-! ## filter の結果 -/

theorem detectOutliersBigInt_length (dataList : List String) (sigma : Nat) (errors : List Bool)
    (rf : UInt16) (lo hi : Int) :
    (detectOutliersBigInt dataList sigma errors rf lo hi).1.length = dataList.length ∧
      (detectOutliersBigInt dataList sigma errors rf lo hi).2.2.length = errors.length := by
  unfold detectOutliersBigInt
  dsimp only
  split
  · simp
  · split <;> simp

/-- filter は reveal ごとに一つの外れ値の印を返し、誤りの印の数を変えない。 -/
theorem ApplyFilter_length (k : Keeper) (f : TallyFilter) (reveals : List Reveal)
    (errors : List Bool) :
    (f.ApplyFilter k reveals errors).1.length = reveals.length ∧
      (f.ApplyFilter k reveals errors).2.2.length = errors.length := by
  cases f with
  | none => simp [TallyFilter.ApplyFilter]
  | mode dataPath rf => simp [TallyFilter.ApplyFilter, parseReveals]
  | mad sigma dataPath rf lo hi =>
    simpa [TallyFilter.ApplyFilter, parseReveals] using
      detectOutliersBigInt_length ((reveals.map (revealData k dataPath)).map (·.getD "")) sigma
        (markErrors errors (reveals.map (revealData k dataPath))) rf lo hi

/-- **filter の外れ値の印は、あれば reveal の数だけある。** 誤りの合意のときは誤りの印を裏返したもの。 -/
theorem ExecuteFilter_outliers_length (k : Keeper) (reveals : List Reveal) (filterInput : String)
    (rf : UInt16) (params : Params) (g : GasMeter) :
    ∀ os, (ExecuteFilter k reveals filterInput rf params g).1.1.Outliers = some os →
      os.length = reveals.length := by
  intro os hos
  unfold ExecuteFilter at hos
  dsimp only at hos
  split at hos
  · cases hos
  · split at hos
    · cases hos
    · next filter _ =>
      obtain ⟨h₁, h₂⟩ := ApplyFilter_length k filter reveals (reveals.map fun r => r.ExitCode != 0)
      split at hos
      · cases hos; simp [invertErrors, h₂]
      · split at hos
        · cases hos
        · cases hos; exact h₁

/-- **基本合意に達したなら、RF が正である限り reveal は空でない。** 最大の類の数は reveal の数以下で、
その 3 倍は RF の 2 倍以上だからである。 -/
theorem ExecuteFilter_reveals_ne_nil (k : Keeper) {reveals : List Reveal} (filterInput : String)
    {rf : UInt16} (params : Params) (g : GasMeter) (hrf : 1 ≤ rf.toNat)
    (h : (ExecuteFilter k reveals filterInput rf params g).1.2 ≠ some .noBasicConsensus) :
    reveals ≠ [] := by
  have hreached := mt (ExecuteFilter_noBasicConsensus_iff k reveals filterInput rf params g).mpr h
  have hle := (counted_ofReveals reveals).maxFreq_le_length
  intro hnil
  subst hnil
  simp only [List.length_nil] at hle
  omega

/-! ## phase 3 が計量できる結果 -/

/--
phase 3 が panic せずに計量できる結果。`Ready` に加えて、gas meter の価格は `u128` に収まり、
基本合意に達した結果（filter の誤りが「基本合意が無い」でも「走らなかった」でもない）は
gas meter と空でない reveal を持ち、外れ値の印は reveal の数以上ある。
-/
structure Meterable (params : Params) (req : Request) (tr : TallyResult) : Prop
    extends Ready params req tr where
  price : ∀ g, tr.GasMeter = some g → g.GasPrice < 2 ^ 128
  agreed : tr.FilterResult.Error ≠ some .noBasicConsensus →
    tr.FilterResult.Error ≠ some .filterDidNotRun →
      tr.GasMeter.isSome ∧ tr.Reveals ≠ [] ∧
        ∀ os, tr.FilterResult.Outliers = some os → tr.Reveals.length ≤ os.length

section Meterable

variable {params : Params} {req : Request}

/--
filter の結果と reveal を変えずに gas meter を書き換えても、書き換えが gas meter の正しさと
価格を保つなら、計量できるままである。
-/
theorem Meterable.mapMeter {tr tr' : TallyResult} (h : Meterable params req tr)
    (hrf : tr'.ReplicationFactor = tr.ReplicationFactor) (hrev : tr'.Reveals = tr.Reveals)
    (hrep : tr'.GasReports = tr.GasReports) (hfr : tr'.FilterResult = tr.FilterResult)
    {f : GasMeter → GasMeter} (hm : tr'.GasMeter = tr.GasMeter.map f)
    (hf : ∀ g, MeterOK params req g → MeterOK params req (f g))
    (hp : ∀ g, (f g).GasPrice = g.GasPrice) : Meterable params req tr' where
  toReady := h.toReady.mapMeter hrf hrev hrep hm hf
  price g hg := by
    rw [hm] at hg
    obtain ⟨g₀, hg₀, rfl⟩ := Option.map_eq_some_iff.mp hg
    rw [hp]
    exact h.price g₀ hg₀
  agreed he hd := by
    rw [hfr] at he hd
    obtain ⟨hs, hne, hout⟩ := h.agreed he hd
    refine ⟨by rw [hm, Option.isSome_map]; exact hs, by rw [hrev]; exact hne, fun os hos => ?_⟩
    rw [hfr] at hos
    rw [hrev]
    exact hout os hos

/-- 印を付けただけの結果は、filter が走らなかったので計量されない。 -/
theorem meterable_didNotRun (params : Params) (req : Request) :
    Meterable params req
      { TallyResult.ofRequest req with FilterResult := FilterResult.didNotRun } where
  toReady := ready_didNotRun params req
  price _ hg := by cases hg
  agreed _ hd := absurd rfl hd

/--
**filter を掛けた結果は計量できる。** reveal と報告は整形の結果で同じ数あり、基本合意に達して
いれば reveal は空でなく、外れ値の印は reveal の数だけある。
-/
theorem meterable_filtered (k : Keeper) (ctx : Context) (g : GasMeter) {g' : GasMeter}
    (hrf : 1 ≤ req.ReplicationFactor.toNat) (hok : MeterOK params req g')
    (hprice : g'.GasPrice < 2 ^ 128) :
    Meterable params req { TallyResult.ofRequest req with
      Reveals := (req.SanitizeReveals k.sha256 ctx.BlockHeight).1
      GasReports := (req.SanitizeReveals k.sha256 ctx.BlockHeight).2.2
      FilterResult := { (ExecuteFilter k (req.SanitizeReveals k.sha256 ctx.BlockHeight).1
          req.ConsensusFilter req.ReplicationFactor params g).1.1 with
        Error := (ExecuteFilter k (req.SanitizeReveals k.sha256 ctx.BlockHeight).1
          req.ConsensusFilter req.ReplicationFactor params g).1.2
        Executors := (req.SanitizeReveals k.sha256 ctx.BlockHeight).2.1 }
      GasMeter := some g' } := by
  have hrev := length_SanitizeReveals_reveals k.sha256 req ctx.BlockHeight
  have hrep := length_SanitizeReveals_gasReports k.sha256 req ctx.BlockHeight
  refine ⟨⟨rfl, hrev.trans hrep.symm, hrev.le, ?_⟩, ?_, ?_⟩
  · rintro g'' ⟨⟩
    exact hok
  · rintro g'' ⟨⟩
    exact hprice
  · intro he _
    refine ⟨rfl, ExecuteFilter_reveals_ne_nil k _ params g hrf he, fun os hos => ?_⟩
    exact (ExecuteFilter_outliers_length k _ _ _ params g os hos).ge

end Meterable

/-! ## phase 1 -/

theorem GasMeter.Spent.gasPrice {g g' : GasMeter} {a : Nat} (h : g.Spent g' a) :
    g'.GasPrice = g.GasPrice :=
  h.postedGasPrice

theorem GasMeter.TallyCharged.gasPrice {g g' : GasMeter} (h : g.TallyCharged g') :
    g'.GasPrice = g.GasPrice := by
  rcases h with rfl | ⟨a, rfl⟩
  · rfl
  · exact GasMeter.consumeTallyGas_postedGasPrice g a

/-- RF が正なら、commit した者への固定額の支払いは panic しない。 -/
theorem MeterExecutorGasFallback_isOk {req : Request} (c : UInt64) (g : GasMeter)
    (hrf : 1 ≤ req.ReplicationFactor.toNat) :
    ∃ g', MeterExecutorGasFallback req c g = .ok g' := by
  unfold MeterExecutorGasFallback
  split
  · exact ⟨g, rfl⟩
  · simp only [quo_of_pos hrf, ok_bind]
    exact ⟨_, rfl⟩

/-- RF が正なら、filter の誤りの扱いは panic せず、gas 価格を変えない。 -/
theorem meterFilterError_isOk {req : Request} (params : Params) (e : FilterError) (g : GasMeter)
    (hrf : 1 ≤ req.ReplicationFactor.toNat) (hc : req.Commits.size ≤ req.ReplicationFactor.toNat) :
    ∃ g', meterFilterError req params e g = .ok g' ∧ g'.GasPrice = g.GasPrice := by
  unfold meterFilterError
  split
  · obtain ⟨g', hg'⟩ := MeterExecutorGasFallback_isOk params.ExecutionGasCostFallback g hrf
    exact ⟨g', hg', (MeterExecutorGasFallback_spent hc hg').choose_spec.gasPrice⟩
  · split
    · exact ⟨_, rfl, rfl⟩
    · exact ⟨_, rfl, rfl⟩

/--
要求について `ProcessTallies` が頼ること。どれも Core Contract が要求を受け付けるときに保つ：
ID は 16 進、RF は正、commit と reveal は RF 以下、投稿された gas 価格は読めれば `u128` に収まる。
-/
structure Tallyable (k : Keeper) (req : Request) : Prop where
  id : (hexDecode req.ID).isSome
  replicationFactor_pos : 1 ≤ req.ReplicationFactor.toNat
  commits : req.Commits.size ≤ req.ReplicationFactor.toNat
  reveals : req.Reveals.size ≤ req.ReplicationFactor.toNat
  price : ∀ p, k.NewIntFromString req.PostedGasPrice = some p → p < 2 ^ 128

section Phase1

variable {k : Keeper} {req : Request}

/--
gas meter を作った後の phase 1 は、RF が正で commit が RF 以下なら次へ進み、結果は計量でき、
data result の ID は計算できる。
-/
theorem filterRequest_meterable {ctx : Context} {params : Params} {i : Nat} {dr : DataResult}
    {g : GasMeter} (hreq : Tallyable k req)
    (hg : MeterOK params req g) (hprice : g.GasPrice < 2 ^ 128) (hdr : Hashable dr) :
    ∃ tr dr' item, k.filterRequest ctx params i req (TallyResult.ofRequest req) dr g =
      .ok (.next tr dr' item) ∧ Meterable params req tr ∧ Hashable dr' := by
  unfold Keeper.filterRequest
  split
  · -- commit が足りない：filter は走らず、commit した者に固定額を払う
    obtain ⟨g', hg'⟩ := MeterExecutorGasFallback_isOk params.ExecutionGasCostFallback g
      hreq.replicationFactor_pos
    obtain ⟨a, ha⟩ := MeterExecutorGasFallback_spent hreq.commits hg'
    simp only [hg', ok_bind, pure_eq_ok]
    refine ⟨_, _, _, rfl, ⟨⟨rfl, rfl, Nat.zero_le _, ?_⟩, ?_, fun _ hd => absurd rfl hd⟩,
      hdr.congr rfl rfl rfl rfl⟩
    · rintro g'' ⟨⟩
      exact hg.spent ha
    · rintro g'' ⟨⟩
      rw [ha.gasPrice]
      exact hprice
  · -- filter を掛けた：filter の払った tally gas は価格を変えない
    have hcharged := ExecuteFilter_meter k (req.SanitizeReveals k.sha256 ctx.BlockHeight).1
      req.ConsensusFilter req.ReplicationFactor params g
    dsimp only
    split
    · exact ⟨_, _, _, rfl, meterable_filtered k ctx g hreq.replicationFactor_pos
        (hg.tallyCharged hcharged) (hcharged.gasPrice ▸ hprice), hdr.congr rfl rfl rfl rfl⟩
    · next e _ =>
      obtain ⟨g', hg', hpg⟩ := meterFilterError_isOk params e (ExecuteFilter k
        (req.SanitizeReveals k.sha256 ctx.BlockHeight).1 req.ConsensusFilter req.ReplicationFactor
          params g).2 hreq.replicationFactor_pos hreq.commits
      simp only [hg', ok_bind, pure_eq_ok]
      exact ⟨_, _, _, rfl, meterable_filtered k ctx g hreq.replicationFactor_pos
        ((hg.tallyCharged hcharged).of_meterFilterError hreq.commits hg')
        (by rw [hpg, hcharged.gasPrice]; exact hprice), hdr.congr rfl rfl rfl rfl⟩

/--
**phase 1 の一つの要求は、Core Contract の保つ要求なら次へ進む。** 結果は計量でき、data result の
ID は計算できる。符号化の誤り、contract の停止、読めないか正でない gas 価格では印を付けるだけで、
残りは gas meter を作って filter に進む。
-/
theorem tallyRequest_meterable (ctx : Context) (params : Params) (isPaused : Bool) (i : Nat)
    (hreq : Tallyable k req) :
    ∃ tr dr item, k.tallyRequest ctx params isPaused i req = .ok (.next tr dr item) ∧
      Meterable params req tr ∧ Hashable dr := by
  obtain ⟨dr, err, hto, hdr⟩ := ToResult_hashable ctx hreq.id
  have hmark : ∀ reason err, ∃ tr dr' item,
      (pure (markFallback k.keccak256 dr (TallyResult.ofRequest req) reason err) :
        Except Fault Phase1Outcome) = .ok (.next tr dr' item) ∧
      Meterable params req tr ∧ Hashable dr' := by
    intro reason err
    obtain ⟨dr', hm, hdr'⟩ :=
      markFallback_next k.keccak256 hdr (TallyResult.ofRequest req) reason err
    exact ⟨_, _, _, by rw [hm]; rfl, meterable_didNotRun params req, hdr'⟩
  simp only [Keeper.tallyRequest, hto, ok_bind]
  cases err with
  | some e => exact hmark _ _
  | none =>
    cases isPaused with
    | true =>
      obtain ⟨r, hr, hr₁⟩ := MarkResultAsPaused_hashable k.keccak256 hdr (TallyResult.ofRequest req)
      simp only [↓reduceIte, hr, pure_eq_ok]
      refine ⟨_, _, _, rfl, ?_, hr₁⟩
      rw [MarkResultAsPaused_snd hr]
      exact meterable_didNotRun params req
    | false =>
      simp only [Bool.false_eq_true, ↓reduceIte]
      cases hp : k.NewIntFromString req.PostedGasPrice with
      | none => exact hmark _ _
      | some price =>
        dsimp only
        split
        · exact hmark _ _
        · next hpos =>
          refine filterRequest_meterable hreq (meterOK_NewGasMeter (by omega)) ?_ hdr
          simpa [GasMeter.GasPrice] using hreq.price price hp

/--
**phase 1 は、Core Contract の保つ要求の列なら最後まで進む。** 結果は要求と位置が揃って
計量でき、data result はどれも ID を計算できる。要求の列についての帰納法である。
-/
theorem filterPhase_done (ctx : Context) (params : Params) (isPaused : Bool) :
    ∀ (reqs : List Request) (i : Nat), (∀ req ∈ reqs, Tallyable k req) →
      ∃ trs drs items, k.filterPhase ctx params isPaused reqs i = .ok (.done trs drs items) ∧
        List.Forall₂ (Meterable params) reqs trs ∧ List.Forall₂ (fun _ dr => Hashable dr) reqs drs
  | [], _, _ => ⟨[], [], [], rfl, .nil, .nil⟩
  | req :: rest, i, hreqs => by
    obtain ⟨tr, dr, item, h, htr, hdr⟩ :=
      tallyRequest_meterable ctx params isPaused i (hreqs req List.mem_cons_self)
    obtain ⟨trs, drs, items, ht, htrs, hdrs⟩ :=
      filterPhase_done ctx params isPaused rest (i + 1) fun r hr =>
        hreqs r (List.mem_cons_of_mem _ hr)
    refine ⟨tr :: trs, dr :: drs, item.toList ++ items, ?_, .cons htr htrs, .cons hdr hdrs⟩
    simp only [Keeper.filterPhase, h, ht, ok_bind, pure_eq_ok]

end Phase1

/-! ## phase 2 -/

section Phase2

variable {params : Params} {req : Request}

theorem Meterable.applyVmResult {tr : TallyResult} (h : Meterable params req tr) (v : VmResult) :
    Meterable params req (applyVmResult v tr) :=
  h.mapMeter rfl rfl rfl rfl rfl (fun _ hg => hg.consumeTallyGas _)
    fun g => GasMeter.consumeTallyGas_postedGasPrice g _

theorem Meterable.markNotExecuted {tr : TallyResult} (h : Meterable params req tr) :
    Meterable params req (markNotExecuted tr) :=
  h.mapMeter rfl rfl rfl rfl rfl (fun _ hg => hg.setReducedPayoutMode) fun _ => rfl

variable {α : Type} {R : α → TallyResult → Prop} {S : α → DataResult → Prop}

/--
phase 2 の loop は、VM の結果を受けることと減額にすることが保つ関係を、要求との位置の揃いごと
保つ。item の列についての帰納法で、各段は一つの位置を書き換える（`forall₂_modify`）。
-/
theorem applyVmResults_forall₂ {as : List α} (vmResults : List VmResult)
    (hvm : ∀ v a tr, R a tr → R a (applyVmResult v tr))
    (hskip : ∀ a tr, R a tr → R a (markNotExecuted tr))
    (hvmd : ∀ v a dr, S a dr → S a (vmDataResult v dr))
    (hskipd : ∀ e a dr, S a dr → S a (execErrDataResult e dr)) :
    ∀ (items : List TallyParallelExecItem) (idx : Nat) {trs : List TallyResult}
      {drs : List DataResult} {r : List TallyResult × List DataResult},
      List.Forall₂ R as trs → List.Forall₂ S as drs →
      applyVmResults vmResults items idx trs drs = .ok r →
      List.Forall₂ R as r.1 ∧ List.Forall₂ S as r.2
  | [], _, _, _, _, htr, hdr, h => by
    cases h
    exact ⟨htr, hdr⟩
  | item :: rest, idx, trs, drs, r, htr, hdr, h => by
    simp only [applyVmResults] at h
    split at h
    · -- VM が走った：次の VM の結果を受ける
      obtain ⟨vmResult, -, h⟩ := bind_eq_ok.mp h
      exact applyVmResults_forall₂ vmResults hvm hskip hvmd hskipd rest (idx + 1)
        (forall₂_modify (hvm vmResult) item.Index htr)
        (forall₂_modify (hvmd vmResult) item.Index hdr) h
    · -- VM が走らなかった：減額にして誤りを書く
      next err _ =>
      exact applyVmResults_forall₂ vmResults hvm hskip hvmd hskipd rest idx
        (forall₂_modify hskip item.Index htr) (forall₂_modify (hskipd err) item.Index hdr) h

/--
**phase 2 は、phase 1 の item と、呼び出しごとに一つの結果を返す VM について panic しない。**
結果は計量でき、data result は ID を計算できるままである。
-/
theorem execPhase_meterable {k : Keeper} (ctx : Context) {reqs : List Request}
    {items : List TallyParallelExecItem} {trs : List TallyResult} {drs : List DataResult}
    (hfresh : ∀ it ∈ items, it.TallyExecErr = none) (hnd : (items.map (·.Index)).Nodup)
    (hvm : ∀ calls, (k.ExecuteMultipleFromCParallel calls).length = calls.length)
    (htr : List.Forall₂ (Meterable params) reqs trs)
    (hdr : List.Forall₂ (fun _ dr => Hashable dr) reqs drs) :
    ∃ r, k.execPhase ctx items trs drs = .ok r ∧
      List.Forall₂ (Meterable params) reqs r.1 ∧
        List.Forall₂ (fun _ dr => Hashable dr) reqs r.2 := by
  obtain ⟨r, hr, -⟩ := @execPhase_getElem? k ctx items trs drs hfresh hnd hvm
  refine ⟨r, hr, ?_⟩
  unfold Keeper.execPhase at hr
  split at hr
  · cases hr
    exact ⟨htr, hdr⟩
  · exact applyVmResults_forall₂ _ (fun v _ _ h => h.applyVmResult v)
      (fun _ _ h => h.markNotExecuted) (fun _ _ _ h => h.congr rfl rfl rfl rfl)
      (fun _ _ _ h => h.congr rfl rfl rfl rfl) _ 0 htr hdr hr

end Phase2

/-! ## phase 3：計量 -/

section Metering

/-- 価格と RF が正なら、proxy 一つの計量は panic しない。 -/
theorem meterProxy_isOk (k : Keeper) {rf : UInt16} {g : GasMeter} (pubKey : String)
    (hrf : 1 ≤ rf.toNat) (hp : g.GasPrice ≠ 0) : ∃ g', meterProxy k rf g pubKey = .ok g' := by
  unfold meterProxy
  split
  · exact ⟨g, rfl⟩
  · split
    · exact ⟨g, rfl⟩
    · simp only [intQuo_of_ne hp, quo_of_pos hrf, ok_bind, pure_eq_ok]
      exact ⟨_, rfl⟩

/-- 価格と RF が正なら、proxy の計量は panic しない。各段は価格を変えないので、価格は正のままである。 -/
theorem MeterProxyGas_isOk (k : Keeper) (keys : List String) {rf : UInt16} {g : GasMeter}
    (hrf : 1 ≤ rf.toNat) (hp : g.GasPrice ≠ 0) : ∃ g', k.MeterProxyGas keys rf g = .ok g' := by
  unfold Keeper.MeterProxyGas
  split
  · exact ⟨g, rfl⟩
  · obtain ⟨g', h, -⟩ := foldlM_eq_ok_of_step (fun g : GasMeter => g.GasPrice ≠ 0)
      (fun g key hp => by
        obtain ⟨g₁, h₁⟩ := meterProxy_isOk k key hrf hp
        exact ⟨g₁, h₁, (meterProxy_spent h₁).choose_spec.gasPrice ▸ hp⟩) keys g hp
    exact ⟨g', h⟩

/-- 印が reveal の数だけあれば、executor への支払いの loop は panic しない。 -/
theorem meterReveals_isOk (outliers : Option (List Bool)) (amount : Nat → Nat) :
    ∀ (rs : List Reveal) (i : Nat) (g : GasMeter),
      (∀ os, outliers = some os → i + rs.length ≤ os.length) →
      ∃ g', meterReveals outliers amount rs i g = .ok g'
  | [], _, g, _ => ⟨g, rfl⟩
  | r :: rs, i, g, hout => by
    have hout' : ∀ os, outliers = some os → i + 1 + rs.length ≤ os.length := by
      intro os hos
      have := hout os hos
      simp only [List.length_cons] at this
      omega
    have ho : outlierAt outliers i = .ok (isOutlierAt outliers i) :=
      outlierAt_of_lt fun os hos => by have := hout' os hos; omega
    simp only [meterReveals, ho, ok_bind]
    exact meterReveals_isOk outliers amount rs (i + 1) _ hout'

/-- 空でない列の中央値は panic しない。偶数個なら中央の二つの位置はどちらも範囲にある。 -/
theorem median_isOk {arr : List Nat} (h : arr ≠ []) : ∃ m, median arr = .ok m := by
  have hn : 0 < (sortAsc arr).length := by
    rw [length_sortAsc]; exact List.length_pos_iff.mpr h
  unfold median
  generalize sortAsc arr = s at hn
  dsimp only
  split
  · have h₁ : s.length / 2 - 1 < s.length := by omega
    have h₂ : s.length / 2 < s.length := by omega
    have hidx : ((s.length / 2 : Nat) : Int) - 1 = ((s.length / 2 - 1 : Nat) : Int) := by omega
    simp only [hidx, index_of_lt h₁, index_of_lt h₂, ok_bind, pure_eq_ok]
    exact ⟨_, rfl⟩
  · exact ⟨_, index_of_lt (by omega)⟩

/--
**総量が分母以下なら、取り分の計算は panic しない。** 二つの積は `uint64` の値どうしの積で、
商は比の値以下なので `uint64` に収まる（`share_le`）。
-/
theorem divergentShares_isOk (lowest : Nat) {m total shares : Nat} (hm : m < 2 ^ 64)
    (hT : total < 2 ^ 64) (hTS : total ≤ shares) :
    ∃ r, divergentShares lowest m total shares = .ok r := by
  unfold divergentShares
  split
  · exact ⟨_, rfl⟩
  · next hS =>
    have hS₀ : shares ≠ 0 := by exact_mod_cast hS
    have hq₁ := Nat.lt_of_le_of_lt (share_le (a := mulU64 lowest 2) hTS) (mulU64_lt lowest 2)
    have hq₂ := Nat.lt_of_le_of_lt (share_le (a := m) hTS) hm
    rw [intMul_natCast_of_lt (mulU64_lt lowest 2) hT, ok_bind, intQuo_natCast hS₀, ok_bind,
      intUint64_of_lt hq₁, ok_bind, intMul_natCast_of_lt hm hT, ok_bind, intQuo_natCast hS₀, ok_bind,
      intUint64_of_lt hq₂, ok_bind]
    exact ⟨_, rfl⟩

variable {t : TallyResult} {g : GasMeter}

/-- 報告が揃っているときの計量は、RF が正で報告があり、印が reveal の数だけあれば panic しない。 -/
theorem MeterExecutorGasUniform_isOk (hg : t.GasMeter = some g)
    (hrf : 1 ≤ t.ReplicationFactor.toNat) (hrep : t.GasReports ≠ [])
    (hout : ∀ os, t.FilterResult.Outliers = some os → t.Reveals.length ≤ os.length) :
    ∃ g', t.MeterExecutorGasUniform = .ok g' := by
  have h0 : 0 < t.GasReports.length := List.length_pos_iff.mpr hrep
  have hidx : index t.GasReports 0 = .ok (t.GasReports.get ⟨0, h0⟩) := index_of_lt h0
  simp only [TallyResult.MeterExecutorGasUniform, TallyResult.meter, hg, hidx, quo_of_pos hrf,
    ok_bind]
  exact meterReveals_isOk _ _ t.Reveals 0 g fun os hos => by rw [Nat.zero_add]; exact hout os hos

/--
**報告が揃っていないときの計量も panic しない。** 中央値は補正した報告の上限（残りの `1/RF`）以下で
`uint64` に収まり、総量は折り返しても分母以下なので、取り分の計算は panic しない。
-/
theorem MeterExecutorGasDivergent_isOk (hg : t.GasMeter = some g)
    (hrf : 1 ≤ t.ReplicationFactor.toNat) (hrep : t.GasReports ≠ [])
    (hout : ∀ os, t.FilterResult.Outliers = some os → t.Reveals.length ≤ os.length) :
    ∃ g', t.MeterExecutorGasDivergent = .ok g' := by
  have hne : t.adjustedGasReports g ≠ [] := by
    simpa [TallyResult.adjustedGasReports, adjustedReports] using hrep
  obtain ⟨m, hm⟩ := median_isOk hne
  have hm64 : m < 2 ^ 64 := by
    have hle := median_le (fun a ha => le_of_mem_adjustedGasReports ha) hm
    have hrem := g.execGasRemaining_le.trans_lt g.execGasLimit_lt
    exact Nat.lt_of_le_of_lt (hle.trans (Nat.div_le_self _ _)) hrem
  -- 総量 `addU64 regShares (min (2l) m)` は分母 `regShares + 2l` 以下
  have hTS : ∀ regShares l, addU64 regShares (min l m) ≤ regShares + l := fun regShares l =>
    (addU64_le_add _ _).trans (Nat.add_le_add_left (Nat.min_le_left _ _) _)
  obtain ⟨shares, hshares⟩ := divergentShares_isOk (lowestReport (t.adjustedGasReports g)).1
    hm64 (addU64_lt _ _) (hTS (mulU64 m (t.ReplicationFactor - 1).toNat)
      (mulU64 (lowestReport (t.adjustedGasReports g)).1 2))
  simp only [TallyResult.MeterExecutorGasDivergent, TallyResult.meter, hg, ok_bind,
    adjGasReports_eq hrf]
  rw [show adjustedReports g.RemainingExecGas t.ReplicationFactor.toNat g.totalProxyGasPerExec
      (t.GasReports.map UInt64.toNat) = t.adjustedGasReports g from rfl, hm, ok_bind,
    intAdd_natCast_of_lt (mulU64_lt _ _) (mulU64_lt _ _), ok_bind, hshares, ok_bind]
  exact meterReveals_isOk _ _ t.Reveals 0 g fun os hos => by rw [Nat.zero_add]; exact hout os hos

/--
**計量できる結果の計量は panic しない。** 基本合意に達した結果は gas meter と、reveal の数だけの
報告と外れ値の印を持つので、proxy の計量も、報告が揃っていてもいなくても executor の計量も進む。
-/
theorem meterTally_isOk (k : Keeper) {params : Params} {req : Request} {tr : TallyResult}
    (h : Meterable params req tr) (hrf : 1 ≤ req.ReplicationFactor.toNat) :
    ∃ tr', k.meterTally tr = .ok tr' := by
  unfold Keeper.meterTally
  split
  · next hagreed =>
    obtain ⟨hs, hne, hout⟩ := h.agreed hagreed.1 hagreed.2
    obtain ⟨g₀, hg₀⟩ := Option.isSome_iff_exists.mp hs
    have hrf' : 1 ≤ tr.ReplicationFactor.toNat := h.replicationFactor ▸ hrf
    have hrep : tr.GasReports ≠ [] := fun h0 =>
      hne (List.eq_nil_of_length_eq_zero (h.gasReports.trans (by rw [h0]; rfl)))
    obtain ⟨g₁, hg₁⟩ := MeterProxyGas_isOk k tr.FilterResult.ProxyPubKeys hrf'
      (h.meter g₀ hg₀).price_pos.ne'
    simp only [TallyResult.meter, hg₀, hg₁, ok_bind]
    split
    · obtain ⟨g₂, hg₂⟩ :=
        MeterExecutorGasUniform_isOk (t := { tr with GasMeter := some g₁ }) rfl hrf' hrep hout
      exact ⟨_, by rw [hg₂, ok_bind]; rfl⟩
    · obtain ⟨g₂, hg₂⟩ :=
        MeterExecutorGasDivergent_isOk (t := { tr with GasMeter := some g₁ }) rfl hrf' hrep hout
      exact ⟨_, by rw [hg₂, ok_bind]; rfl⟩
  · exact ⟨tr, rfl⟩


end Metering

/-! ## phase 3：分配 -/

section Distribution

variable {burnRatio : LegacyDec}

/-- 燃やす割合が 0 以上 1 以下なら、`uint64` の額の燃やす分の計算は panic しない。 -/
theorem reducedPayoutBurnOf_isOk (h₀ : 0 ≤ burnRatio.raw) (h₁ : burnRatio.raw ≤ LegacyDec.precision)
    {amount : Nat} (ha : amount < 2 ^ 64) : ∃ b, reducedPayoutBurnOf burnRatio amount = .ok b := by
  have hraw : burnRatio.raw.natAbs < 2 ^ 60 := by
    have : LegacyDec.precision < 2 ^ 60 := by decide
    omega
  have hamount : (amount : Int).natAbs < 2 ^ 64 := by omega
  -- `raw * amount` は `2^124` 未満で、`LegacyDec` の上限 `2^315` に届かない
  have hprod := natAbs_mul_lt hraw hamount
  unfold reducedPayoutBurnOf LegacyDec.MulIntTruncateInt
  rw [if_pos (hprod.trans (Nat.pow_lt_pow_right (by norm_num) (by decide)))]
  exact ⟨_, rfl⟩

/--
一人分の支払いは、額と足し上げた燃やす額の和が `uint64` に収まれば panic せず、燃やす額は
減らない。
-/
theorem executorPayout_isOk (h₀ : 0 ≤ burnRatio.raw) (h₁ : burnRatio.raw ≤ LegacyDec.precision)
    (reduced : Bool) {amount : Nat} {acc : Int} (hacc : 0 ≤ acc) (hsum : acc + amount < 2 ^ 64) :
    ∃ payout, executorPayout burnRatio reduced amount acc = .ok payout ∧ acc ≤ payout.2 := by
  unfold executorPayout
  split
  · obtain ⟨b, hb⟩ := reducedPayoutBurnOf_isOk h₀ h₁ (show amount < 2 ^ 64 by omega)
    obtain ⟨hb₀, hb₁⟩ := reducedPayoutBurnOf_le h₀ h₁ hb
    rw [hb, ok_bind, intSub_of_natAbs_lt (by omega) (by omega), ok_bind,
      intAdd_of_natAbs_lt (by omega) (by omega), ok_bind]
    exact ⟨_, rfl, by dsimp only; omega⟩
  · exact ⟨_, rfl, le_refl acc⟩

/--
**executor への分配の loop は、額の和が `uint64` に収まり価格が `u128` なら panic しない。**
払う額は額以下なので価格との積は 256 bit に収まり、足し上げた燃やす額は額の和を超えない。
-/
theorem executorDistributions_isOk (h₀ : 0 ≤ burnRatio.raw)
    (h₁ : burnRatio.raw ≤ LegacyDec.precision) (reduced : Bool) {price : Int}
    (hp : price.natAbs < 2 ^ 128) :
    ∀ (es : List ExecutorGasUsed) (acc : Int), 0 ≤ acc → acc + (es.map (·.Amount)).sum < 2 ^ 64 →
      ∃ r, executorDistributions burnRatio reduced price es acc = .ok r ∧ r.2.natAbs < 2 ^ 64
  | [], acc, hacc, hsum => ⟨_, rfl, by simp only [List.map_nil, List.sum_nil] at hsum; omega⟩
  | e :: es, acc, hacc, hsum => by
    simp only [List.map_cons, List.sum_cons, Nat.cast_add] at hsum
    obtain ⟨payout, hpay, hacc'⟩ := executorPayout_isOk h₀ h₁ reduced hacc
      (show acc + e.Amount < 2 ^ 64 by omega)
    have hsplit := executorPayout_add hpay
    have hnn := executorPayout_nonneg h₀ h₁ hpay
    obtain ⟨tail, ht, htail⟩ := executorDistributions_isOk h₀ h₁ reduced hp es payout.2
      (by omega) (by omega)
    simp only [executorDistributions, hpay, ok_bind,
      intMul_of_natAbs_lt (show payout.1.natAbs < 2 ^ 128 by omega) hp, ht, pure_eq_ok]
    exact ⟨_, rfl, htail⟩

/-- `uint64` の額の proxy への分配は、価格が `u128` なら panic しない。 -/
theorem proxyDistributions_isOk {price : Int} (hp : price.natAbs < 2 ^ 128) (ps : List ProxyGasUsed)
    (hps : ∀ p ∈ ps, p.Amount < 2 ^ 64) : ∃ ds, ps.mapM (proxyDistribution price) = .ok ds := by
  refine ⟨_, mapM_eq_ok_map (g := fun p => .dataProxyReward p.PayoutAddress p.PublicKey
    (p.Amount * price)) fun p hmem => ?_⟩
  have hamount : (p.Amount : Int).natAbs < 2 ^ 128 := by have := hps p hmem; omega
  rw [proxyDistribution, intMul_of_natAbs_lt hamount hp, ok_bind]
  rfl

/--
**分配は、保存則を満たし価格が正で `u128` に収まる gas meter なら panic しない。** 記録した額の和は
実行 gas の上限以下で `uint64` に収まり、燃やす額は二つの 192 bit 未満の値の和である。
-/
theorem DistributionsFromGasMeter_isOk (k : Keeper) (ctx : Context) (reqID : String)
    (reqHeight : UInt64) {g : GasMeter} (hc : g.Conserved) (hp₀ : 0 < g.GasPrice)
    (hp : g.GasPrice < 2 ^ 128) (h₀ : 0 ≤ burnRatio.raw)
    (h₁ : burnRatio.raw ≤ LegacyDec.precision) :
    ∃ dists, k.DistributionsFromGasMeter ctx reqID reqHeight g burnRatio = .ok dists := by
  have hpa : g.GasPrice.natAbs < 2 ^ 128 := by omega
  have hrec : g.recordedExecGas < 2 ^ 64 := by
    have := g.execGasLimit_lt
    unfold GasMeter.Conserved at hc
    omega
  have hproxy : ∀ p ∈ HashSort k.sha256 ProxyGasUsed.GetSortKey g.proxies
      (GetEntropy reqID ctx.BlockHeight), p.Amount < 2 ^ 64 := by
    intro p hmem
    have hle := List.le_sum_of_mem (List.mem_map_of_mem (f := (·.Amount))
      ((HashSort_perm _ _ _ _).mem_iff.mp hmem))
    unfold GasMeter.recordedExecGas at hrec
    omega
  obtain ⟨ds, hds⟩ := proxyDistributions_isOk hpa _ hproxy
  obtain ⟨r, hr, hr₂⟩ := executorDistributions_isOk h₀ h₁ g.ReducedPayout hpa g.executors 0 le_rfl
    (by unfold GasMeter.recordedExecGas at hrec; omega)
  have htally : ((g.TallyGasUsed : Nat) : Int).natAbs < 2 ^ 64 := by
    have := g.tallyGasLimit_lt
    unfold GasMeter.TallyGasUsed
    omega
  -- 燃やす額の二つの項はどれも `uint64` と `u128` の積で 192 bit 未満
  have hburn := natAbs_mul_lt htally hpa
  have hextra := natAbs_mul_lt hr₂ hpa
  simp only [Keeper.DistributionsFromGasMeter,
    intMul_of_natAbs_lt (htally.trans (by decide)) hpa, hds, hr,
    intMul_of_natAbs_lt (hr₂.trans (by decide)) hpa,
    intAdd_of_natAbs_lt (hburn.trans (by decide)) (hextra.trans (by decide)), ok_bind, pure_eq_ok]
  exact ⟨_, rfl⟩

end Distribution

/-! ## phase 3 と全体 -/

section Phase3

variable (k : Keeper) (ctx : Context) {params : Params}

/--
**phase 3 の一つの要求は panic しない。** 計量の後の gas meter は保存則を満たし（`meterTally_meter`）、
価格は計量の前と同じで `u128` に収まるので分配は panic せず、data result の gas は二つの `uint64` の
和で 128 bit に収まるので ID を計算できる。
-/
theorem finalizeTally_isOk {req : Request} {tr : TallyResult} {dr : DataResult}
    (hparams : params.Validate = .ok ()) (hreq : Tallyable k req) (htr : Meterable params req tr)
    (hdr : Hashable dr) :
    ∃ r, k.finalizeTally ctx params tr dr = .ok r ∧ r.2.1.TryHash k.keccak256 = .ok r.2.1.Id := by
  obtain ⟨tr₁, h₁⟩ := meterTally_isOk k htr hreq.replicationFactor_pos
  have hburn := Params.burnRatio_of_Validate hparams
  simp only [Keeper.finalizeTally, h₁, ok_bind]
  cases hg : tr₁.GasMeter with
  | some g =>
    obtain ⟨g₀, a, hg₀, hs⟩ := meterTally_spent htr.toReady hreq.reveals h₁ g hg
    have hok := meterTally_meter htr.toReady hreq.reveals h₁ g hg
    have hprice : g.GasPrice < 2 ^ 128 := hs.gasPrice ▸ htr.price g₀ hg₀
    obtain ⟨dists, hd⟩ := DistributionsFromGasMeter_isOk k ctx tr₁.ID tr₁.Height hok.conserved
      hok.price_pos hprice hburn.1 hburn.2
    have hgas : Hashable { dr with GasUsed := some g.TotalGasUsed } :=
      hdr.of_fields rfl rfl rfl fun x hx => by
        cases hx
        have := g.tallyGasLimit_lt
        have := g.execGasLimit_lt
        unfold GasMeter.TotalGasUsed GasMeter.TallyGasUsed GasMeter.ExecutionGasUsed
        omega
    obtain ⟨dr', hdr', hid⟩ := tryHashResult_isOk k.keccak256 hgas
    simp only [hd, hdr', ok_bind, pure_eq_ok]
    exact ⟨_, rfl, hid⟩
  | none =>
    obtain ⟨dr', hdr', hid⟩ := tryHashResult_isOk k.keccak256 hdr
    simp only [hdr', ok_bind, pure_eq_ok]
    exact ⟨_, rfl, hid⟩

/--
**phase 3 は、計量できる結果と ID を計算できる data result の列について panic しない。**
data result は要求ごとに一つで、どれもその ID が中身の `TryHash` である。要求の列についての帰納法で、
二つの列は要求と位置が揃っている。
-/
theorem meterPhase_isOk (hparams : params.Validate = .ok ()) {reqs : List Request}
    {trs : List TallyResult} {drs : List DataResult} (processed : KeyMap String (List Distribution))
    (hreq : ∀ req ∈ reqs, Tallyable k req) (htrs : List.Forall₂ (Meterable params) reqs trs)
    (hdrs : List.Forall₂ (fun _ dr => Hashable dr) reqs drs) :
    ∃ r, k.meterPhase ctx params trs drs processed = .ok r ∧ r.2.1.length = drs.length ∧
      ∀ dr ∈ r.2.1, dr.TryHash k.keccak256 = .ok dr.Id := by
  induction htrs generalizing drs processed with
  | nil =>
    cases hdrs
    exact ⟨([], [], processed), by simp [Keeper.meterPhase], rfl, by simp⟩
  | @cons req tr reqs trs htr htrs ih =>
    cases hdrs with
    | cons hdr hdrs =>
      obtain ⟨p, hp, hid⟩ := finalizeTally_isOk k ctx hparams (hreq req List.mem_cons_self) htr hdr
      -- 残りの要求は、分配を書き足した表で計量される
      obtain ⟨tail, ht, hlen, hids⟩ := ih _ (fun r hr => hreq r (List.mem_cons_of_mem _ hr)) hdrs
      refine ⟨(p.1 :: tail.1, p.2.1 :: tail.2.1, tail.2.2), ?_, by simp [hlen], ?_⟩
      · simp only [Keeper.meterPhase, hp, ok_bind]
        rw [ht]
        rfl
      · intro d hd
        rcases List.mem_cons.mp hd with rfl | hd
        · exact hid
        · exact hids d hd

end Phase3

/--
**tally の end-block は止まらない。** 検査を通る parameter と、呼び出しごとに一つの結果を返す
tally VM について、Core Contract の保つ要求の列なら、`ProcessTallies` は panic せず誤りも返さずに
終わり、要求ごとに一つの data result を返し、どの data result の ID もその中身の `TryHash` である。
-/
theorem ProcessTallies_completes (k : Keeper) (ctx : Context) (tallyList : List Request)
    (params : Params) (isPaused : Bool) (hparams : params.Validate = .ok ())
    (hvm : ∀ calls, (k.ExecuteMultipleFromCParallel calls).length = calls.length)
    (hreq : ∀ req ∈ tallyList, Tallyable k req) :
    ∃ trs drs processedReqs,
      k.ProcessTallies ctx tallyList params isPaused = .ok (trs, drs, processedReqs) ∧
      drs.length = tallyList.length ∧ ∀ dr ∈ drs, dr.TryHash k.keccak256 = .ok dr.Id := by
  -- phase 1 は最後まで進み、その item は誤りを持たず位置が相異なる
  obtain ⟨trs₁, drs₁, items, h₁, htr₁, hdr₁⟩ :=
    filterPhase_done ctx params isPaused tallyList 0 hreq
  obtain ⟨hfresh, hnd⟩ := filterPhase_fresh tallyList 0 h₁
  -- phase 2 は VM の結果を読み切らず、phase 3 は全要求を計量する
  obtain ⟨executed, h₂, htr₂, hdr₂⟩ := execPhase_meterable ctx hfresh hnd hvm htr₁ hdr₁
  obtain ⟨r, h₃, hlen, hid⟩ := meterPhase_isOk k ctx hparams
    (tallyList.foldl (fun m req => m.set req.ID []) KeyMap.empty) hreq htr₂ hdr₂
  refine ⟨r.1, r.2.1, r.2.2, ?_, by rw [hlen, ← hdr₂.length_eq], hid⟩
  simp only [Keeper.ProcessTallies, h₁, h₂, h₃, ok_bind]

/--
二人の executor が reveal した要求の一例。filter は基本合意を見つけ、tally VM が走り、揃っていない
報告で executor の gas を計量して、ID の付いた一つの data result を返す。
-/
theorem ProcessTallies_completes_twoReveals :
    ∃ trs drs processedReqs,
      Keeper.sampleVm.ProcessTallies ⟨2, 1⟩ [Request.twoReveals] DefaultParams false =
        .ok (trs, drs, processedReqs) ∧
      drs.length = 1 ∧ ∀ dr ∈ drs, dr.TryHash Keeper.sampleVm.keccak256 = .ok dr.Id :=
  ProcessTallies_completes Keeper.sampleVm ⟨2, 1⟩ [Request.twoReveals] DefaultParams false
    (by decide) (fun calls => List.length_map _) fun req hreq => by
      rw [List.mem_singleton.mp hreq]
      refine ⟨by decide, by decide, by decide, by decide, fun p hp => ?_⟩
      have hone : Keeper.sampleVm.NewIntFromString Request.twoReveals.PostedGasPrice = some 1 := by
        decide
      rw [hone] at hp
      cases hp
      decide

end SedaChain.Tally
