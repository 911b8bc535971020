import SedaChain.Tally.Metering

/-!
# 報告が揃っていないときの executor の gas と README の式

README（`x/tally/README.md`）は、報告が揃っていないときの executor の gas を自然数の式で書く。
補正した報告 `R_i = min(報告 - proxy の gas, 残り / RF)` の最小 `Low` と中央値 `Median` から

* `TotalUsedGas = Median * (RF - 1) + min(Low * 2, Median)`
* `TotalShares = Median * (RF - 1) + Low * 2`
* 最小の報告者は `Low * 2 * TotalUsedGas / TotalShares`、他の者は `Median * TotalUsedGas / TotalShares`

である。ここではこの式を折り返しの無い自然数で書き（`readmeGas`、`readmeRecords`）、`uint64` と
`math.Int` で計算する `TallyResult.MeterExecutorGasDivergent` がそれを記録することを示す。

* `median_eq_readmeMedian` — 報告の倍が `uint64` に収まれば、`median` は README の中央値を返す
* `divergentShares_eq` — 総量が分母以下なら、取り分の計算は panic せず、自然数の割り算になる
* `MeterExecutorGasDivergent_readme_of_wide` — 報告が RF 個以下で、RF が 2 以上か残りが `2^63`
  未満なら、どの補正した報告の倍も `uint64` に収まり、記録は README の式どおりで、記録の和は
  総量以下、総量は残り以下である
* **`MeterExecutorGasDivergent_readme`** — `ProcessTallies` が呼ぶ入力（揃っていない報告）では、
  報告が二つ以上あるので RF は 2 以上で、上が成り立つ。RF が 1 で残りが `2^63` だと `Low * 2` が
  折り返すが、報告が一つなら揃っているので、その入力で呼ばれることはない
-/

namespace SedaChain.Tally

open Infra Infra.Go

/-! ## README の式 -/

/-- 補正した報告 `R_i`。proxy の gas を引き（下限 0）、残りの `1/RF` で抑える。 -/
def adjustedReports (remaining rf proxyGas : Nat) (reports : List Nat) : List Nat :=
  reports.map fun r => min (r - proxyGas) (remaining / rf)

/-- 中央値。昇順に並べ、奇数個なら真ん中、偶数個なら中央の二つの平均の切り捨て。 -/
def readmeMedian (l : List Nat) : Nat :=
  let s := sortAsc l
  let n := s.length
  if n % 2 = 0 then (s.getD (n / 2 - 1) 0 + s.getD (n / 2) 0) / 2 else s.getD (n / 2) 0

/-- README の式の値。 -/
structure DivergentGas where
  low : Nat
  median : Nat
  total : Nat
  shares : Nat
  lowestGasUsed : Nat
  regGasUsed : Nat
deriving DecidableEq, Repr

/-- README の式。自然数の割り算は 0 で割ると 0 なので、`shares = 0` なら取り分も 0 である。 -/
def readmeGas (rf : Nat) (adj : List Nat) : DivergentGas :=
  let low := adj.min?.getD 0
  let m := readmeMedian adj
  let total := m * (rf - 1) + min (low * 2) m
  let shares := m * (rf - 1) + low * 2
  { low := low, median := m, total := total, shares := shares
    lowestGasUsed := low * 2 * total / shares
    regGasUsed := m * total / shares }

/--
README の記録。最小の報告者（最小の報告が最初に現れる位置）に `lowestGasUsed`、他の者に
`regGasUsed` を、外れ値でない reveal ごとに記録する。
-/
def readmeRecords (outliers : Option (List Bool)) (rs : List Reveal) (rf : Nat) (adj : List Nat) :
    List ExecutorGasUsed :=
  let d := readmeGas rf adj
  executorRecords outliers (fun i => if i = adj.idxOf d.low then d.lowestGasUsed else d.regGasUsed)
    rs 0

/-! ## README の式の性質 -/

section ReadmeGas

variable (rf : Nat) (adj : List Nat)

/-- 総量は分母以下である（`min(Low * 2, Median) ≤ Low * 2`）。 -/
theorem readmeGas_total_le_shares : (readmeGas rf adj).total ≤ (readmeGas rf adj).shares :=
  Nat.add_le_add_left (Nat.min_le_left _ _) _

/-- RF が 1 以上なら、総量は `Median * RF` 以下である（`min(Low * 2, Median) ≤ Median`）。 -/
theorem readmeGas_total_le_median_mul (hrf : 0 < rf) :
    (readmeGas rf adj).total ≤ (readmeGas rf adj).median * rf := by
  have hmr : readmeMedian adj * (rf - 1) + readmeMedian adj = readmeMedian adj * rf := by
    rw [← Nat.mul_add_one, Nat.sub_add_cancel hrf]
  have hmin := Nat.min_le_right (adj.min?.getD 0 * 2) (readmeMedian adj)
  show readmeMedian adj * (rf - 1) + min (adj.min?.getD 0 * 2) (readmeMedian adj) ≤
    readmeMedian adj * rf
  omega

/-- 最小の報告者の取り分と `RF - 1` 人の取り分の和は総量以下である（`shares_sum_le`）。 -/
theorem readmeGas_shares_sum_le :
    (readmeGas rf adj).lowestGasUsed + (rf - 1) * (readmeGas rf adj).regGasUsed ≤
      (readmeGas rf adj).total := by
  have h := shares_sum_le (adj.min?.getD 0 * 2) (readmeMedian adj) (rf - 1) (readmeGas rf adj).total
  rw [Nat.mul_comm (rf - 1)] at h
  exact h

end ReadmeGas

/-- 結果 `t` と meter `g` の補正した報告。 -/
def TallyResult.adjustedGasReports (t : TallyResult) (g : Tally.GasMeter) : List Nat :=
  adjustedReports g.RemainingExecGas t.ReplicationFactor.toNat g.totalProxyGasPerExec
    (t.GasReports.map UInt64.toNat)

/-- 結果 `t` と meter `g` についての README の式の値。 -/
def TallyResult.readmeDivergent (t : TallyResult) (g : Tally.GasMeter) : DivergentGas :=
  readmeGas t.ReplicationFactor.toNat (t.adjustedGasReports g)

/-- 結果 `t` と meter `g` についての README の記録。 -/
def TallyResult.readmeExecutorRecords (t : TallyResult) (g : Tally.GasMeter) :
    List ExecutorGasUsed :=
  readmeRecords t.FilterResult.Outliers t.Reveals t.ReplicationFactor.toNat (t.adjustedGasReports g)

/-! ## 途中の値 -/

/-- 最初の最小の位置は `idxOf` の位置である。 -/
theorem IsFirstMin.idxOf_eq {l : List Nat} {v i : Nat} (h : IsFirstMin l v i) : l.idxOf v = i := by
  have hi := h.lt_length
  have hv : l[i] = v := by simpa [List.getElem?_eq_getElem hi] using h.get
  unfold List.idxOf
  rw [List.findIdx_eq hi]
  refine ⟨by simp [hv], fun j hj => ?_⟩
  have := h.first j l[j] hj (List.getElem?_eq_getElem (by omega))
  simp only [beq_eq_false_iff_ne, ne_eq]
  omega

/-- 最初の最小の値は `min?` の値である。 -/
theorem IsFirstMin.min?_eq {l : List Nat} {v i : Nat} (h : IsFirstMin l v i) : l.min? = some v :=
  List.min?_eq_some_iff.mpr ⟨List.mem_of_getElem? h.get, h.le⟩

/-- `mapM` で補正した報告は README の補正した報告である。 -/
theorem adjGasReports_eq {g : GasMeter} {rf : UInt16} (hrf : 0 < rf.toNat) (reports : List UInt64) :
    reports.mapM (fun gasReport => do
      let perExecLimit ← quo g.RemainingExecGas rf.toNat
      pure (min (g.CorrectExecGasReportWithProxyGas gasReport.toNat) perExecLimit)) =
      .ok (adjustedReports g.RemainingExecGas rf.toNat g.totalProxyGasPerExec
        (reports.map UInt64.toNat)) := by
  have hcorrect : ∀ r, g.CorrectExecGasReportWithProxyGas r = r - g.totalProxyGasPerExec := by
    intro r
    unfold GasMeter.CorrectExecGasReportWithProxyGas
    split <;> omega
  simp only [quo_of_pos hrf, ok_bind, hcorrect]
  rw [List.mapM_pure]
  simp [adjustedReports, List.map_map, Function.comp_def]

/--
**報告の倍が `uint64` に収まれば、`median` は README の中央値を返す。** 偶数個のときの中央の
二つの和は、大きい方の倍以下なので折り返さない。
-/
theorem median_eq_readmeMedian {l : List Nat} (hne : l ≠ []) (h2 : ∀ a ∈ l, a * 2 < 2 ^ 64) :
    median l = .ok (readmeMedian l) := by
  have hs : ∀ a ∈ sortAsc l, a * 2 < 2 ^ 64 := fun a ha => h2 a (mem_sortAsc.mp ha)
  have hn : 0 < (sortAsc l).length := by
    rw [length_sortAsc]; exact List.length_pos_iff.mpr hne
  unfold median readmeMedian
  generalize sortAsc l = s at hs hn
  by_cases heven : s.length % 2 = 0
  · -- 偶数個：中央の二つは範囲にある
    have h₁ : s.length / 2 - 1 < s.length := by omega
    have h₂ : s.length / 2 < s.length := by omega
    have hidx : ((s.length / 2 : Nat) : Int) - 1 = ((s.length / 2 - 1 : Nat) : Int) := by omega
    have ha := hs _ (List.getElem_mem h₁)
    have hb := hs _ (List.getElem_mem h₂)
    simp only [heven, ↓reduceIte, hidx, index_of_lt h₁, index_of_lt h₂, ok_bind,
      List.get_eq_getElem]
    rw [addU64_of_lt (by omega)]
    simp [List.getD_eq_getElem?_getD, List.getElem?_eq_getElem h₁, List.getElem?_eq_getElem h₂]
  · have h₂ : s.length / 2 < s.length := by omega
    simp only [heven, ↓reduceIte, index_of_lt h₂, List.get_eq_getElem]
    simp [List.getD_eq_getElem?_getD, List.getElem?_eq_getElem h₂]

/-- 比 `a` の取り分 `a * T / S` は、`T ≤ S` なら `a` 以下である。 -/
theorem share_le {a total shares : Nat} (hTS : total ≤ shares) : a * total / shares ≤ a := by
  rcases Nat.eq_zero_or_pos shares with h0 | hS
  · simp [h0]
  exact Nat.div_le_of_le_mul (by rw [Nat.mul_comm shares]; exact Nat.mul_le_mul_left a hTS)

/--
**総量が分母以下なら、取り分の計算は panic せず、自然数の割り算になる。** 積は `uint64` の
二つの値の積なので 256 bit に収まり、商は比の値以下なので `Uint64()` も通る。
-/
theorem divergentShares_eq {lowest m total shares : Nat} (h2 : lowest * 2 < 2 ^ 64)
    (hm : m < 2 ^ 64) (hT : total < 2 ^ 64) (hTS : total ≤ shares) :
    divergentShares lowest m total shares =
      .ok (lowest * 2 * total / shares, m * total / shares) := by
  unfold divergentShares
  rcases Nat.eq_zero_or_pos shares with h0 | hS
  · subst h0
    simp
  have hS' : ((shares : Nat) : Int) ≠ 0 := by exact_mod_cast Nat.pos_iff_ne_zero.mp hS
  rw [if_neg hS', mulU64_of_lt h2]
  have hq₁ : lowest * 2 * total / shares < 2 ^ 64 := Nat.lt_of_le_of_lt (share_le hTS) h2
  have hq₂ : m * total / shares < 2 ^ 64 := Nat.lt_of_le_of_lt (share_le hTS) hm
  have hS₀ := Nat.pos_iff_ne_zero.mp hS
  -- 最小の報告者の取り分、次に他の者の取り分
  rw [intMul_natCast_of_lt h2 hT, ok_bind, intQuo_natCast hS₀, ok_bind, intUint64_of_lt hq₁, ok_bind,
    intMul_natCast_of_lt hm hT, ok_bind, intQuo_natCast hS₀, ok_bind, intUint64_of_lt hq₂, ok_bind]
  rfl

/-! ## 計量は README の式を記録する -/

section Readme

variable {t : TallyResult} {g : GasMeter}

/-- 補正した報告はどれも残りの `1/RF` 以下である。 -/
theorem le_of_mem_adjustedGasReports {a : Nat} (ha : a ∈ t.adjustedGasReports g) :
    a ≤ g.RemainingExecGas / t.ReplicationFactor.toNat := by
  obtain ⟨r, -, rfl⟩ := List.mem_map.mp ha
  exact Nat.min_le_right _ _

/-- RF が 2 以上か残りが `2^63` 未満なら、補正した報告の倍は `uint64` に収まる。 -/
theorem double_lt_of_mem_adjustedGasReports
    (hwide : 2 ≤ t.ReplicationFactor.toNat ∨ g.RemainingExecGas < 2 ^ 63) {a : Nat}
    (ha : a ∈ t.adjustedGasReports g) : a * 2 < 2 ^ 64 := by
  have hle := le_of_mem_adjustedGasReports ha
  have hR : g.RemainingExecGas < 2 ^ 64 := by
    have := g.execGasRemaining_le; have := g.execGasLimit_lt
    unfold GasMeter.RemainingExecGas; omega
  rcases hwide with hrf | hR'
  · -- 残りの `1/RF` の倍は残り以下
    calc a * 2 ≤ g.RemainingExecGas / t.ReplicationFactor.toNat * t.ReplicationFactor.toNat :=
          Nat.mul_le_mul hle hrf
      _ ≤ g.RemainingExecGas := Nat.div_mul_le_self _ _
      _ < 2 ^ 64 := hR
  · have := Nat.div_le_self g.RemainingExecGas t.ReplicationFactor.toNat
    omega

/--
報告が空でなく RF 個以下で、reveal が報告と同じ数、外れ値の印が無いか reveal の数だけあり、RF が
2 以上か残りが `2^63` 未満なら、計量は README の式を記録する。どの補正した報告の倍も `uint64` に
収まる（したがって `Low * 2`、偶数個の中央値の和、`Median * (RF - 1)`、総量のどれも折り返さない）。
外れ値でない reveal ごとの README の記録の和は総量以下で、総量は残り以下である。計量は panic せず、
README の記録を足し、その和を残りから引く。
-/
theorem MeterExecutorGasDivergent_readme_of_wide (hg : t.GasMeter = some g) (hne : t.GasReports ≠ [])
    (hrf : t.GasReports.length ≤ t.ReplicationFactor.toNat)
    (hlen : t.Reveals.length = t.GasReports.length)
    (hout : ∀ os, t.FilterResult.Outliers = some os → t.Reveals.length ≤ os.length)
    (hwide : 2 ≤ t.ReplicationFactor.toNat ∨ g.RemainingExecGas < 2 ^ 63) :
    (∀ a ∈ t.adjustedGasReports g, a * 2 < 2 ^ 64) ∧
      recordsSum (t.readmeExecutorRecords g) ≤ (t.readmeDivergent g).total ∧
      (t.readmeDivergent g).total ≤ g.RemainingExecGas ∧
      ∃ g', t.MeterExecutorGasDivergent = .ok g' ∧
        g'.executors = g.executors ++ t.readmeExecutorRecords g ∧
        g'.execGasRemaining = g.RemainingExecGas - recordsSum (t.readmeExecutorRecords g) := by
  set rf := t.ReplicationFactor.toNat with hrfdef
  set adj := t.adjustedGasReports g with hadjdef
  set d := t.readmeDivergent g with hddef
  have hrfpos : 0 < rf := Nat.lt_of_lt_of_le (List.length_pos_iff.mpr hne) hrf
  have hadjlen : adj.length = t.GasReports.length := by simp [hadjdef, TallyResult.adjustedGasReports, adjustedReports]
  have hadjne : adj ≠ [] := by
    have := List.length_pos_iff.mpr hne
    exact List.ne_nil_of_length_pos (by omega)
  have h2 : ∀ a ∈ adj, a * 2 < 2 ^ 64 := fun a ha => double_lt_of_mem_adjustedGasReports hwide ha
  -- 最小の報告者、最小の値、中央値
  have hmin := lowestReport_isFirstMin hadjne
  have hlow : d.low = (lowestReport adj).1 := by
    show adj.min?.getD 0 = _
    rw [hmin.min?_eq]
    rfl
  have hidx : adj.idxOf d.low = (lowestReport adj).2 := by rw [hlow]; exact hmin.idxOf_eq
  have hmed : median adj = .ok d.median := median_eq_readmeMedian hadjne h2
  have hmq : d.median ≤ g.RemainingExecGas / rf :=
    median_le (fun a ha => le_of_mem_adjustedGasReports ha) hmed
  have hL2 : d.low * 2 < 2 ^ 64 := h2 _ (by rw [hlow]; exact List.mem_of_getElem? hmin.get)
  -- 総量は `Median * RF` 以下、したがって残り以下
  have hR : g.RemainingExecGas < 2 ^ 64 := by
    have := g.execGasRemaining_le; have := g.execGasLimit_lt
    unfold GasMeter.RemainingExecGas; omega
  have hmrf : d.median * rf ≤ g.RemainingExecGas :=
    Nat.le_trans (Nat.mul_le_mul_right rf hmq) (Nat.div_mul_le_self _ _)
  have hTm : d.total ≤ d.median * rf := readmeGas_total_le_median_mul rf adj hrfpos
  have hTS : d.total ≤ d.shares := readmeGas_total_le_shares rf adj
  have hTR : d.total ≤ g.RemainingExecGas := Nat.le_trans hTm hmrf
  have htotal : d.total = d.median * (rf - 1) + min (d.low * 2) d.median := rfl
  have hshares : d.shares = d.median * (rf - 1) + d.low * 2 := rfl
  -- README の記録は、最小の報告者の位置で額を替える支払いの記録である
  set amount := fun i => if i = (lowestReport adj).2 then d.lowestGasUsed else d.regGasUsed
    with hamount
  have hrec : t.readmeExecutorRecords g = executorRecords t.FilterResult.Outliers amount t.Reveals 0 := by
    rw [hamount, ← hidx]
    rfl
  -- 記録の和は、最小の報告者の取り分と `RF - 1` 人の取り分の和以下
  have hsum : recordsSum (t.readmeExecutorRecords g) ≤ d.total := by
    have hli : (lowestReport adj).2 < t.Reveals.length := by
      have := hmin.lt_length; omega
    have hall := recordsSum_le_amountSum t.FilterResult.Outliers amount t.Reveals 0
    have hite : amountSum amount 0 t.Reveals.length + d.regGasUsed =
        d.lowestGasUsed + t.Reveals.length * d.regGasUsed :=
      amountSum_ite (lowestReport adj).2 d.lowestGasUsed d.regGasUsed 0
        t.Reveals.length (Nat.zero_le _) (by omega)
    have hle : d.lowestGasUsed + (rf - 1) * d.regGasUsed ≤ d.total := readmeGas_shares_sum_le rf adj
    have hnb : (t.Reveals.length - 1) * d.regGasUsed ≤ (rf - 1) * d.regGasUsed :=
      Nat.mul_le_mul_right _ (by omega)
    have hnb' : (t.Reveals.length - 1) * d.regGasUsed + d.regGasUsed =
        t.Reveals.length * d.regGasUsed := by
      rw [← Nat.succ_mul, Nat.succ_eq_add_one, Nat.sub_add_cancel (by omega)]
    rw [hrec]
    omega
  refine ⟨h2, hsum, hTR, ?_⟩
  -- `uint64` の積と和はどれも折り返さない
  have hrf1 : (t.ReplicationFactor - 1).toNat = rf - 1 :=
    UInt16.toNat_sub_of_le _ _ (by rw [UInt16.le_iff_toNat_le]; simp; omega)
  have hmr : d.median * (rf - 1) ≤ d.median * rf := Nat.mul_le_mul_left _ (Nat.sub_le _ _)
  have hm1 : d.median ≤ d.median * rf := Nat.le_mul_of_pos_right _ hrfpos
  have hreg : mulU64 d.median (t.ReplicationFactor - 1).toNat = d.median * (rf - 1) := by
    rw [hrf1]; exact mulU64_of_lt (by omega)
  have hlow2 : mulU64 (lowestReport adj).1 2 = d.low * 2 := by
    rw [← hlow]; exact mulU64_of_lt hL2
  have hT : addU64 (d.median * (rf - 1)) (min (d.low * 2) d.median) = d.total :=
    addU64_of_lt (by omega)
  have hS : intAdd (d.median * (rf - 1) : Nat) (d.low * 2 : Nat) = .ok (d.shares : Int) := by
    rw [intAdd_natCast_of_lt (by omega) hL2, hshares]
  have hsh : divergentShares (lowestReport adj).1 d.median d.total d.shares =
      .ok (d.lowestGasUsed, d.regGasUsed) := by
    rw [divergentShares_eq (by rw [← hlow]; exact hL2) (by omega) (by omega) hTS, ← hlow]
    rfl
  obtain ⟨g', hrun, hexec, hrem⟩ := meterReveals_eq t.FilterResult.Outliers amount t.Reveals 0 g
    (fun os hos => by have := hout os hos; omega)
    (by rw [← hrec]; unfold GasMeter.RemainingExecGas at hTR; omega)
  refine ⟨g', ?_, ?_, ?_⟩
  · have hmapM := adjGasReports_eq (g := g) hrfpos t.GasReports
    simp only [TallyResult.MeterExecutorGasDivergent, TallyResult.meter, hg, ok_bind]
    rw [hmapM, ok_bind, show adjustedReports g.RemainingExecGas t.ReplicationFactor.toNat
      g.totalProxyGasPerExec (t.GasReports.map UInt64.toNat) = adj from rfl, hmed, ok_bind, hreg,
      hlow2, hT, hS, ok_bind, hsh, ok_bind]
    exact hrun
  · rw [hrec]; exact hexec
  · rw [hrec]; exact hrem

/-- 揃っていない報告の列には、少なくとも二つの報告がある。 -/
theorem two_le_length_of_not_uniform {reports : List UInt64} (h : areGasReportsUniform reports = false) :
    2 ≤ reports.length := by
  match reports, h with
  | _ :: _ :: _, _ => simp

/--
**報告が揃っていないときの計量は README の式を記録する。** `ProcessTallies` は報告が揃っていない
ときだけ `MeterExecutorGasDivergent` を呼ぶ（`endblock.go:264-268`）。その時、報告は二つ以上あり、
RF 個以下なので RF は 2 以上である。reveal が報告と同じ数で、外れ値の印が無いか reveal の数だけ
あれば、どの補正した報告の倍も `uint64` に収まり、外れ値でない reveal ごとの README の記録の和は
総量以下で、総量は残り以下である。計量は panic せず、README の記録を足し、その和を残りから引く。
-/
theorem MeterExecutorGasDivergent_readme (hg : t.GasMeter = some g)
    (hnu : areGasReportsUniform t.GasReports = false)
    (hrf : t.GasReports.length ≤ t.ReplicationFactor.toNat)
    (hlen : t.Reveals.length = t.GasReports.length)
    (hout : ∀ os, t.FilterResult.Outliers = some os → t.Reveals.length ≤ os.length) :
    (∀ a ∈ t.adjustedGasReports g, a * 2 < 2 ^ 64) ∧
      recordsSum (t.readmeExecutorRecords g) ≤ (t.readmeDivergent g).total ∧
      (t.readmeDivergent g).total ≤ g.RemainingExecGas ∧
      ∃ g', t.MeterExecutorGasDivergent = .ok g' ∧
        g'.executors = g.executors ++ t.readmeExecutorRecords g ∧
        g'.execGasRemaining = g.RemainingExecGas - recordsSum (t.readmeExecutorRecords g) := by
  have htwo := two_le_length_of_not_uniform hnu
  have hne : t.GasReports ≠ [] := List.ne_nil_of_length_pos (by omega)
  exact MeterExecutorGasDivergent_readme_of_wide hg hne hrf hlen hout (.inl (by omega))

end Readme

/-! ## 例 -/

/-- 位置 `i` の executor `i` が `reports` の `i` 番目を報告した、RF `rf` で残り `remaining` の結果。 -/
def TallyResult.divergentSample (rf : UInt16) (remaining : UInt64) (reports : List UInt64) :
    TallyResult :=
  { TallyResult.ofRequest Request.sample with
    ReplicationFactor := rf
    Reveals := reports.zipIdx.map fun p =>
      { RequestID := "00", RequestBlockHeight := 1, ExitCode := 0, GasUsed := p.1, Reveal := ""
        ProxyPubKeys := [], Executor := toString p.2 }
    GasMeter := some (NewGasMeter 0 remaining 0 1 0)
    GasReports := reports }

/-- RF 3、残り 90 で、10、40、40 の報告。補正した報告は 10、30、30 である。 -/
theorem MeterExecutorGasDivergent_readme_sample :
    (TallyResult.divergentSample 3 90 [10, 40, 40]).GasMeter = some (NewGasMeter 0 90 0 1 0) ∧
      areGasReportsUniform (TallyResult.divergentSample 3 90 [10, 40, 40]).GasReports = false ∧
      (TallyResult.divergentSample 3 90 [10, 40, 40]).GasReports.length ≤ 3 ∧
      (TallyResult.divergentSample 3 90 [10, 40, 40]).Reveals.length =
        (TallyResult.divergentSample 3 90 [10, 40, 40]).GasReports.length ∧
      (TallyResult.divergentSample 3 90 [10, 40, 40]).FilterResult.Outliers = none ∧
      (∀ a ∈ (TallyResult.divergentSample 3 90 [10, 40, 40]).adjustedGasReports
          (NewGasMeter 0 90 0 1 0), a * 2 < 2 ^ 64) ∧
      recordsSum ((TallyResult.divergentSample 3 90 [10, 40, 40]).readmeExecutorRecords
          (NewGasMeter 0 90 0 1 0)) ≤
        ((TallyResult.divergentSample 3 90 [10, 40, 40]).readmeDivergent
          (NewGasMeter 0 90 0 1 0)).total ∧
      ((TallyResult.divergentSample 3 90 [10, 40, 40]).readmeDivergent
          (NewGasMeter 0 90 0 1 0)).total ≤ (NewGasMeter 0 90 0 1 0).RemainingExecGas ∧
      ∃ g', (TallyResult.divergentSample 3 90 [10, 40, 40]).MeterExecutorGasDivergent = .ok g' ∧
        g'.executors = (NewGasMeter 0 90 0 1 0).executors ++
          (TallyResult.divergentSample 3 90 [10, 40, 40]).readmeExecutorRecords
            (NewGasMeter 0 90 0 1 0) ∧
        g'.execGasRemaining = (NewGasMeter 0 90 0 1 0).RemainingExecGas -
          recordsSum ((TallyResult.divergentSample 3 90 [10, 40, 40]).readmeExecutorRecords
            (NewGasMeter 0 90 0 1 0)) :=
  ⟨rfl, by decide, by decide, by decide, rfl,
    MeterExecutorGasDivergent_readme rfl (by decide) (by decide) (by decide)
      (fun os hos => by cases hos)⟩

/-- 例の記録：最小の報告者に 20、他の二人に 30 ずつ、合わせて総量の 80 である。 -/
example : (TallyResult.divergentSample 3 90 [10, 40, 40]).readmeExecutorRecords
    (NewGasMeter 0 90 0 1 0) = [⟨"0", 20⟩, ⟨"1", 30⟩, ⟨"2", 30⟩] := by decide

/-
RF 1、残り `2^63` で一人が `2^63` を報告すると、`Low * 2 = 2^64` が `uint64` で 0 に折り返し、
総量も分母も 0 になって 0 が記録される（README の式では最小の報告者の取り分は `2^63`）。報告が
一つなら揃っているので、`ProcessTallies` はこの入力で `MeterExecutorGasDivergent` を呼ばない。
-/
example :
    ((TallyResult.divergentSample 1 9223372036854775808 [9223372036854775808]).MeterExecutorGasDivergent).map
        (·.executors) = .ok [⟨"0", 0⟩] ∧
      (TallyResult.divergentSample 1 9223372036854775808 [9223372036854775808]).readmeExecutorRecords
        (NewGasMeter 0 9223372036854775808 0 1 0) = [⟨"0", 2 ^ 63⟩] := by
  decide

end SedaChain.Tally
