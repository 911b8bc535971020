import SedaChain.Tally.Filter

/-!
# 実行 gas の計量（`tally_result.go`、`keeper/gas_meter.go` の計量）

基本合意に達した要求について、data proxy と executor に実行 gas を割り当てる。

* `Keeper.MeterProxyGas` — proxy ごとに手数料を gas 価格で割り、残りの `1/RF` で抑える
* `TallyResult.MeterExecutorGasUniform` — 報告が揃っていれば、全員に同じ額
* `TallyResult.MeterExecutorGasDivergent` — 揃っていなければ、中央値と最小の報告から按分する
* `MeterExecutorGasFallback` — 基本合意に達しなかったときの、commit した者への固定額

どの書き手も、呼ばれた時点の残りの範囲でしか頼まないことを示す（`Spent` を返す）。

* `MeterProxyGas_spent` — proxy は毎回、その時点の残りの `1/RF` の RF 倍以内
* `MeterExecutorGasUniform_spent` — reveal の数が RF 以下なら、合計は残り以内
* `MeterExecutorGasDivergent_spent` — 同じく。最小の報告者の取り分と残りの者の取り分の和が
  按分の総量を超えないことによる
* `MeterExecutorGasFallback_spent` — commit の数が RF 以下なら、合計は残り以内
-/

namespace SedaChain.Tally

open Infra Infra.Go

/-- Go の nil ポインタの参照。 -/
def nilDereference : Fault :=
  .panic "runtime error: invalid memory address or nil pointer dereference"

/-- 結果の gas meter（Go のポインタの参照）。 -/
def TallyResult.meter (t : TallyResult) : Except Fault Tally.GasMeter :=
  match t.GasMeter with
  | some g => .ok g
  | none => .error nilDereference

/-- `areGasReportsUniform`。二つ目以降がすべて最初と等しいか。 -/
def areGasReportsUniform (reports : List UInt64) : Bool :=
  match reports with
  | [] => true
  | firstGas :: rest => rest.all (· == firstGas)

/-! ## executor への支払いの loop -/

/--
`t.FilterResult.Outliers != nil && t.FilterResult.Outliers[i]`。印が `nil` でなければ、
その `i` 番目を読む（範囲外なら panic）。
-/
def outlierAt (outliers : Option (List Bool)) (i : Nat) : Except Fault Bool :=
  match outliers with
  | none => .ok false
  | some os => index os i

/--
二つの計量に共通の loop。位置 `i` の reveal が外れ値でなければ、その executor に `amount i` を払う。
-/
def meterReveals (outliers : Option (List Bool)) (amount : Nat → Nat) :
    List Reveal → Nat → GasMeter → Except Fault GasMeter
  | [], _, g => .ok g
  | r :: rs, i, g => do
    let isOutlier ← outlierAt outliers i
    let g := if isOutlier then g else g.ConsumeExecGasForExecutor r.Executor (amount i)
    meterReveals outliers amount rs (i + 1) g

/-- 位置 `s` から `n` 個の額の和。 -/
def amountSum (amount : Nat → Nat) (s n : Nat) : Nat :=
  ((List.range' s n).map amount).sum

theorem amountSum_succ (amount : Nat → Nat) (s n : Nat) :
    amountSum amount s (n + 1) = amount s + amountSum amount (s + 1) n := by
  simp [amountSum, List.range'_succ]

/--
**支払いの loop は、額の和が残りを超えない限り、使った分だけを記録する。**
各段で払う額は残りの和の一部なので、その時点の残りを超えない。
-/
theorem meterReveals_spent (outliers : Option (List Bool)) (amount : Nat → Nat) :
    ∀ (rs : List Reveal) (i : Nat) (g g' : GasMeter),
      meterReveals outliers amount rs i g = .ok g' →
      amountSum amount i rs.length ≤ g.execGasRemaining → ∃ a, g.Spent g' a
  | [], _, g, g', h, _ => by
    cases h; exact ⟨0, .refl g⟩
  | r :: rs, i, g, g', h, hsum => by
    simp only [meterReveals] at h
    obtain ⟨isOutlier, -, h⟩ := bind_eq_ok.mp h
    rw [List.length_cons, amountSum_succ] at hsum
    by_cases ho : isOutlier = true
    · -- 外れ値は飛ばす：残りは変わらない
      rw [if_pos ho] at h
      exact meterReveals_spent outliers amount rs (i + 1) g g' h (by omega)
    · rw [if_neg ho] at h
      have h₁ := GasMeter.spent_consumeExecGasForExecutor g r.Executor (show amount i ≤ _ by omega)
      obtain ⟨a, h₂⟩ := meterReveals_spent outliers amount rs (i + 1) _ g' h
        (by have := h₁.remaining; omega)
      exact ⟨_, h₁.trans h₂⟩

theorem amountSum_const (c s n : Nat) : amountSum (fun _ => c) s n = n * c := by
  simp [amountSum, List.map_const']

/-- 位置 `li` だけ額 `a`、他は `b` の和。`li` が範囲の外なら全部 `b`。 -/
theorem amountSum_ite_of_lt (li a b : Nat) :
    ∀ (s n : Nat), li < s → amountSum (fun j => if j = li then a else b) s n = n * b
  | _, 0, _ => by simp [amountSum]
  | s, n + 1, h => by
    rw [amountSum_succ, amountSum_ite_of_lt li a b (s + 1) n (by omega),
      if_neg (show s ≠ li by omega), Nat.succ_mul]
    omega

/-- 位置 `li` が範囲の中なら、和に `b` を足すと `a + n * b` になる。 -/
theorem amountSum_ite (li a b : Nat) :
    ∀ (s n : Nat), s ≤ li → li < s + n →
      amountSum (fun j => if j = li then a else b) s n + b = a + n * b
  | _, 0, h₁, h₂ => by omega
  | s, n + 1, h₁, h₂ => by
    rw [amountSum_succ, Nat.succ_mul]
    by_cases hs : s = li
    · subst hs
      rw [if_pos rfl, amountSum_ite_of_lt s a b (s + 1) n (by omega)]
      omega
    · rw [if_neg hs]
      have ih := amountSum_ite li a b (s + 1) n (by omega) (by omega)
      omega

/-! ## 支払いの記録 -/

/-- 位置 `i` の reveal が外れ値か。印が無ければ誰も外れ値でない。 -/
def isOutlierAt (outliers : Option (List Bool)) (i : Nat) : Bool :=
  match outliers with
  | none => false
  | some os => os.getD i false

/-- 位置 `i` から並ぶ reveal のうち、外れ値でないものへの記録。位置 `j` の額は `amount j`。 -/
def executorRecords (outliers : Option (List Bool)) (amount : Nat → Nat) (rs : List Reveal)
    (i : Nat) : List ExecutorGasUsed :=
  ((rs.zipIdx i).filter fun p => !isOutlierAt outliers p.2).map
    fun p => { PublicKey := p.1.Executor, Amount := amount p.2 }

/-- 記録の額の和。 -/
def recordsSum (records : List ExecutorGasUsed) : Nat :=
  (records.map (·.Amount)).sum

@[simp] theorem recordsSum_nil : recordsSum [] = 0 := rfl

@[simp] theorem recordsSum_append (r₁ r₂ : List ExecutorGasUsed) :
    recordsSum (r₁ ++ r₂) = recordsSum r₁ + recordsSum r₂ := by
  simp [recordsSum]

@[simp] theorem recordsSum_singleton (e : ExecutorGasUsed) : recordsSum [e] = e.Amount := by
  simp [recordsSum]

@[simp] theorem executorRecords_nil (outliers : Option (List Bool)) (amount : Nat → Nat) (i : Nat) :
    executorRecords outliers amount [] i = [] := rfl

theorem executorRecords_cons (outliers : Option (List Bool)) (amount : Nat → Nat) (r : Reveal)
    (rs : List Reveal) (i : Nat) :
    executorRecords outliers amount (r :: rs) i =
      (if isOutlierAt outliers i then [] else [{ PublicKey := r.Executor, Amount := amount i }]) ++
        executorRecords outliers amount rs (i + 1) := by
  by_cases h : isOutlierAt outliers i <;> simp [executorRecords, List.zipIdx_cons, h]

/-- 印の範囲の中では、印を読んでも panic しない。 -/
theorem outlierAt_of_lt {outliers : Option (List Bool)} {i : Nat}
    (h : ∀ os, outliers = some os → i < os.length) :
    outlierAt outliers i = .ok (isOutlierAt outliers i) := by
  cases outliers with
  | none => rfl
  | some os =>
    have hi := h os rfl
    simp [outlierAt, isOutlierAt, index_of_lt hi, List.getD_eq_getElem?_getD, hi]

/-- 記録の額の和は、位置の範囲の額の和以下である（外れ値の分だけ少ない）。 -/
theorem recordsSum_le_amountSum (outliers : Option (List Bool)) (amount : Nat → Nat) :
    ∀ (rs : List Reveal) (i : Nat),
      recordsSum (executorRecords outliers amount rs i) ≤ amountSum amount i rs.length
  | [], i => by simp [amountSum]
  | r :: rs, i => by
    rw [executorRecords_cons, List.length_cons, amountSum_succ, recordsSum_append]
    have ih := recordsSum_le_amountSum outliers amount rs (i + 1)
    split
    · simp only [recordsSum_nil]; omega
    · simp only [recordsSum_singleton]; omega

/--
**支払いの loop は、印が reveal の数だけあり、記録の和が残りを超えなければ、外れ値でない
reveal ごとの記録を足し、その和を残りから引く。** 帰納法は reveal の並びについてで、各段で
払う額は残りの和の一部なので、その時点の残りを超えない。
-/
theorem meterReveals_eq (outliers : Option (List Bool)) (amount : Nat → Nat) :
    ∀ (rs : List Reveal) (i : Nat) (g : GasMeter),
      (∀ os, outliers = some os → i + rs.length ≤ os.length) →
      recordsSum (executorRecords outliers amount rs i) ≤ g.execGasRemaining →
      ∃ g', meterReveals outliers amount rs i g = .ok g' ∧
        g'.executors = g.executors ++ executorRecords outliers amount rs i ∧
        g'.execGasRemaining =
          g.execGasRemaining - recordsSum (executorRecords outliers amount rs i)
  | [], i, g, _, _ => ⟨g, rfl, by simp, by simp⟩
  | r :: rs, i, g, hout, hsum => by
    have hout' : ∀ os, outliers = some os → i + 1 + rs.length ≤ os.length := by
      intro os hos
      have := hout os hos
      simp only [List.length_cons] at this
      omega
    have ho : outlierAt outliers i = .ok (isOutlierAt outliers i) :=
      outlierAt_of_lt fun os hos => by have := hout' os hos; omega
    rw [executorRecords_cons, recordsSum_append] at hsum ⊢
    simp only [meterReveals, ho, ok_bind]
    by_cases hr : isOutlierAt outliers i = true
    · -- 外れ値は飛ばす：記録も残りも変わらない
      simp only [hr, ↓reduceIte, List.nil_append, recordsSum_nil, Nat.zero_add] at hsum ⊢
      exact meterReveals_eq outliers amount rs (i + 1) g hout' hsum
    · simp only [hr, Bool.false_eq_true, ↓reduceIte, recordsSum_singleton] at hsum ⊢
      have hrem := GasMeter.consumeExecGasForExecutor_execGasRemaining (g := g) r.Executor
        (show amount i ≤ g.execGasRemaining by omega)
      obtain ⟨g', hrun, hexec, hrem'⟩ := meterReveals_eq outliers amount rs (i + 1)
        (g.ConsumeExecGasForExecutor r.Executor (amount i)) hout' (by rw [hrem]; omega)
      refine ⟨g', hrun, ?_, ?_⟩
      · rw [hexec, GasMeter.consumeExecGasForExecutor_executors, List.append_assoc]
      · rw [hrem', hrem]
        omega

/-! ## 報告が揃っているとき -/

/--
`MeterExecutorGasUniform`。最初の報告から proxy の分を引き、残りの `1/RF` で抑えた額を、
外れ値でない executor 全員に払う。
-/
def TallyResult.MeterExecutorGasUniform (t : TallyResult) : Except Fault Tally.GasMeter := do
  let g ← t.meter
  let gasReport ← index t.GasReports 0
  let executorGasReport := g.CorrectExecGasReportWithProxyGas gasReport.toNat
  let perExecLimit ← quo g.RemainingExecGas t.ReplicationFactor.toNat
  let gasUsed := min executorGasReport perExecLimit
  meterReveals t.FilterResult.Outliers (fun _ => gasUsed) t.Reveals 0 g

theorem MeterExecutorGasUniform_spent {t : TallyResult} {g g' : GasMeter}
    (hg : t.GasMeter = some g) (hn : t.Reveals.length ≤ t.ReplicationFactor.toNat)
    (h : t.MeterExecutorGasUniform = .ok g') : ∃ a, g.Spent g' a := by
  simp only [TallyResult.MeterExecutorGasUniform, TallyResult.meter, hg, ok_bind] at h
  obtain ⟨gasReport, -, h⟩ := bind_eq_ok.mp h
  obtain ⟨perExecLimit, hq, h⟩ := bind_eq_ok.mp h
  obtain ⟨hrf, rfl⟩ := quo_eq_ok.mp hq
  refine meterReveals_spent _ _ t.Reveals 0 g g' h ?_
  -- 全員に払っても `RF * (残り / RF)` を超えない
  rw [amountSum_const]
  calc t.Reveals.length * min _ (g.RemainingExecGas / t.ReplicationFactor.toNat)
      ≤ t.ReplicationFactor.toNat * (g.RemainingExecGas / t.ReplicationFactor.toNat) :=
        Nat.mul_le_mul hn (Nat.min_le_right _ _)
    _ ≤ g.execGasRemaining := Nat.mul_div_le _ _

/-! ## 報告が揃っていないとき -/

/-- 最小の報告を探す loop。最初の位置から始め、真に小さいものが来たら替える。 -/
def lowestReportLoop : List Nat → Nat → Nat × Nat → Nat × Nat
  | [], _, acc => acc
  | a :: as, i, acc => lowestReportLoop as (i + 1) (if i = 0 ∨ a < acc.1 then (a, i) else acc)

/-- 最小の報告と、その最初の位置（`lowestReport`、`lowestReporterIndex`）。 -/
def lowestReport (adjGasReports : List Nat) : Nat × Nat :=
  lowestReportLoop adjGasReports 0 (0, 0)

/-- `(v, i)` は `l` の最小の値 `v` と、それが最初に現れる位置 `i` である。 -/
structure IsFirstMin (l : List Nat) (v i : Nat) : Prop where
  get : l[i]? = some v
  le : ∀ b ∈ l, v ≤ b
  first : ∀ j b, j < i → l[j]? = some b → v < b

theorem IsFirstMin.lt_length {l : List Nat} {v i : Nat} (h : IsFirstMin l v i) : i < l.length :=
  (List.getElem?_eq_some_iff.mp h.get).1

/-- 末尾に `a` を足すと、`a` が真に小さいときに限り最小とその位置が `a` に替わる。 -/
theorem IsFirstMin.snoc {l : List Nat} {v i : Nat} (h : IsFirstMin l v i) (a : Nat) :
    IsFirstMin (l ++ [a]) (if a < v then a else v) (if a < v then l.length else i) := by
  by_cases ha : a < v
  · simp only [ha, ↓reduceIte]
    refine ⟨List.getElem?_concat_length, fun b hb => ?_, fun j b hj hb => ?_⟩
    · rcases List.mem_append.mp hb with hb | hb
      · exact Nat.le_of_lt (Nat.lt_of_lt_of_le ha (h.le b hb))
      · rw [List.mem_singleton.mp hb]
    · rw [List.getElem?_append_left hj] at hb
      exact Nat.lt_of_lt_of_le ha (h.le b (List.mem_of_getElem? hb))
  · simp only [ha, ↓reduceIte]
    have hi := h.lt_length
    refine ⟨by rw [List.getElem?_append_left hi]; exact h.get, fun b hb => ?_, fun j b hj hb => ?_⟩
    · rcases List.mem_append.mp hb with hb | hb
      · exact h.le b hb
      · rw [List.mem_singleton.mp hb]; omega
    · rw [List.getElem?_append_left (by omega)] at hb
      exact h.first j b hj hb

/--
loop の不変条件：`acc` が読み終えた前半 `p` の最小とその最初の位置なら、loop は全体の最小と
その最初の位置を返す。前半が空でなければ、位置 `0` の特別扱いは効かない。
-/
theorem lowestReportLoop_isFirstMin : ∀ (rest p : List Nat) (acc : Nat × Nat),
    0 < p.length → IsFirstMin p acc.1 acc.2 →
      IsFirstMin (p ++ rest) (lowestReportLoop rest p.length acc).1
        (lowestReportLoop rest p.length acc).2
  | [], p, acc, _, h => by simpa [lowestReportLoop] using h
  | a :: rest, p, acc, hp, h => by
    have hstep : (if p.length = 0 ∨ a < acc.1 then (a, p.length) else acc) =
        ((if a < acc.1 then a else acc.1), (if a < acc.1 then p.length else acc.2)) := by
      by_cases ha : a < acc.1 <;> simp [ha, Nat.pos_iff_ne_zero.mp hp]
    have ih := lowestReportLoop_isFirstMin rest (p ++ [a])
      ((if a < acc.1 then a else acc.1), (if a < acc.1 then p.length else acc.2)) (by simp)
      (h.snoc a)
    simp only [List.length_append, List.length_singleton, List.append_assoc,
      List.singleton_append] at ih
    simpa only [lowestReportLoop, hstep] using ih

/-- **最小を探す loop は、報告の最小の値と、それが最初に現れる位置を返す。** -/
theorem lowestReport_isFirstMin {l : List Nat} (h : l ≠ []) :
    IsFirstMin l (lowestReport l).1 (lowestReport l).2 := by
  obtain ⟨a, rest, rfl⟩ := List.exists_cons_of_ne_nil h
  -- 位置 `0` の報告で始め、残りを loop の不変条件で読む
  have h₀ : IsFirstMin [a] a 0 :=
    ⟨rfl, fun b hb => by rw [List.mem_singleton.mp hb], fun j b hj _ => absurd hj (Nat.not_lt_zero j)⟩
  simpa [lowestReport, lowestReportLoop] using lowestReportLoop_isFirstMin rest [a] (a, 0) (by simp) h₀

/-- 最小の報告の位置は報告の範囲にある。 -/
theorem lowestReport_snd_lt {l : List Nat} (h : l ≠ []) : (lowestReport l).2 < l.length :=
  (lowestReport_isFirstMin h).lt_length

/--
`median`。昇順に並べ、奇数個なら真ん中、偶数個なら中央の二つの `uint64` の和の半分。
0 個なら添字 `-1` で panic する。
-/
def median (arr : List Nat) : Except Fault Nat := do
  let s := sortAsc arr
  let n := s.length
  if n % 2 = 0 then
    let a ← index s (((n / 2 : Nat) : Int) - 1)
    let b ← index s (n / 2 : Nat)
    pure (addU64 a b / 2)
  else index s (n / 2 : Nat)

/-- どの報告も `q` 以下なら、中央値も `q` 以下である（和が折り返しても小さくなるだけ）。 -/
theorem median_le {arr : List Nat} {q m : Nat} (hq : ∀ a ∈ arr, a ≤ q)
    (h : median arr = .ok m) : m ≤ q := by
  have hs : ∀ a ∈ sortAsc arr, a ≤ q := fun a ha => hq a (mem_sortAsc.mp ha)
  simp only [median] at h
  split at h
  · obtain ⟨a, ha, h⟩ := bind_eq_ok.mp h
    obtain ⟨b, hb, h⟩ := bind_eq_ok.mp h
    cases h
    have h₁ := hs a (mem_of_index_eq_ok ha)
    have h₂ := hs b (mem_of_index_eq_ok hb)
    have h₃ := addU64_le_add a b
    omega
  · exact hs m (mem_of_index_eq_ok h)

/-- 最小の報告者と残りの者の取り分。分母が 0 なら両方 0。 -/
def divergentShares (lowest medianGasUsed totalGasUsed : Nat) (totalShares : Int) :
    Except Fault (Nat × Nat) :=
  if totalShares = 0 then .ok (0, 0)
  else do
    let lowestProduct ← intMul (mulU64 lowest 2) totalGasUsed
    let lowestGasUsed ← intUint64 (← intQuo lowestProduct totalShares)
    let regProduct ← intMul medianGasUsed totalGasUsed
    let regGasUsed ← intUint64 (← intQuo regProduct totalShares)
    pure (lowestGasUsed, regGasUsed)

/--
`MeterExecutorGasDivergent`。報告を補正して残りの `1/RF` で抑え、その中央値 `m` と最小 `l` から
総量 `m * (RF - 1) + min(2l, m)` を決め、最小の報告者に `2l`、他の者に `m` の比で按分する。
`uint64` の積と和は折り返す。
-/
def TallyResult.MeterExecutorGasDivergent (t : TallyResult) : Except Fault Tally.GasMeter := do
  let g ← t.meter
  let adjGasReports ← t.GasReports.mapM fun gasReport => do
    let perExecLimit ← quo g.RemainingExecGas t.ReplicationFactor.toNat
    pure (min (g.CorrectExecGasReportWithProxyGas gasReport.toNat) perExecLimit)
  let lowest := lowestReport adjGasReports
  let medianGasUsed ← median adjGasReports
  let regShares := mulU64 medianGasUsed (t.ReplicationFactor - 1).toNat
  let totalGasUsed := addU64 regShares (min (mulU64 lowest.1 2) medianGasUsed)
  let totalShares ← intAdd regShares (mulU64 lowest.1 2)
  let shares ← divergentShares lowest.1 medianGasUsed totalGasUsed totalShares
  meterReveals t.FilterResult.Outliers
    (fun i => if i = lowest.2 then shares.1 else shares.2) t.Reveals 0 g

/--
按分の取り分の和は総量を超えない。分母が `S = c * m + l` なら、比 `l` の取り分 `l * T / S` と
比 `m` の `c` 人の取り分 `c * (m * T / S)` の和は `T` 以下である（切り捨ての和は和の切り捨て以下）。
-/
theorem shares_sum_le (l m c total : Nat) :
    l * total / (c * m + l) + c * (m * total / (c * m + l)) ≤ total := by
  rcases Nat.eq_zero_or_pos (c * m + l) with h0 | hS
  · simp [h0]
  calc l * total / (c * m + l) + c * (m * total / (c * m + l))
      ≤ l * total / (c * m + l) + c * (m * total) / (c * m + l) :=
        Nat.add_le_add_left (Nat.mul_div_le_mul_div_assoc c (m * total) _) _
    _ ≤ (l * total + c * (m * total)) / (c * m + l) := Nat.div_add_div_le_add_div
    _ = total := by
      rw [← Nat.mul_assoc, ← Nat.add_mul, Nat.add_comm, Nat.mul_div_cancel_left _ hS]

/-- 最小の報告者の取り分と `c` 人の取り分の和は総量を超えない（`shares_sum_le`）。 -/
theorem divergentShares_le {lowest m total c : Nat} {shares : Int} {r : Nat × Nat}
    (hshares : shares = ((c * m + mulU64 lowest 2 : Nat) : Int))
    (h : divergentShares lowest m total shares = .ok r) : r.1 + c * r.2 ≤ total := by
  unfold divergentShares at h
  split at h
  · cases h; simp
  · next hS =>
    obtain ⟨p₁, hp₁, h⟩ := bind_eq_ok.mp h
    obtain ⟨x₁, hx₁, h⟩ := bind_eq_ok.mp h
    obtain ⟨l, hl, h⟩ := bind_eq_ok.mp h
    obtain ⟨p₂, hp₂, h⟩ := bind_eq_ok.mp h
    obtain ⟨x₂, hx₂, h⟩ := bind_eq_ok.mp h
    obtain ⟨g, hg, h⟩ := bind_eq_ok.mp h
    cases h
    -- 取り分を自然数の割り算で書く
    set S := c * m + mulU64 lowest 2 with hSdef
    have hl' : l = mulU64 lowest 2 * total / S := by
      obtain ⟨hl₁, -⟩ := intUint64_eq_ok hl
      rw [(intQuo_eq_ok hx₁).2, intMul_eq_ok hp₁, hshares] at hl₁
      exact_mod_cast hl₁.trans (Int.ofNat_tdiv _ _).symm
    have hg' : g = m * total / S := by
      obtain ⟨hg₁, -⟩ := intUint64_eq_ok hg
      rw [(intQuo_eq_ok hx₂).2, intMul_eq_ok hp₂, hshares] at hg₁
      exact_mod_cast hg₁.trans (Int.ofNat_tdiv _ _).symm
    dsimp only
    rw [hl', hg']
    exact shares_sum_le _ _ _ _

/-- `mapM` で補正した報告は、どれも残りの `1/RF` 以下である。 -/
theorem adjGasReports_le {g : GasMeter} {rf : UInt16} {reports : List UInt64} {adj : List Nat}
    (h : reports.mapM (fun gasReport => do
      let perExecLimit ← quo g.RemainingExecGas rf.toNat
      pure (min (g.CorrectExecGasReportWithProxyGas gasReport.toNat) perExecLimit)) = .ok adj) :
    adj.length = reports.length ∧ ∀ a ∈ adj, a ≤ g.execGasRemaining / rf.toNat := by
  refine ⟨(mapM_eq_ok h).length_eq.symm, fun a ha => ?_⟩
  obtain ⟨r, -, hr⟩ := exists_of_mapM_eq_ok h a ha
  obtain ⟨p, hp, hr⟩ := bind_eq_ok.mp hr
  cases hr
  rw [(quo_eq_ok.mp hp).2]
  exact Nat.min_le_right _ _

/--
**報告が揃っていないときの計量も、reveal の数が RF 以下で報告と同じ数なら、残りの範囲に収まる。**
中央値 `m` は残りの `1/RF` 以下なので、按分の総量 `m * (RF - 1) + min(2l, m)` は `m * RF` 以下、
したがって残り以下である。取り分の和は総量以下である（`divergentShares_le`）。
-/
theorem MeterExecutorGasDivergent_spent {t : TallyResult} {g g' : GasMeter}
    (hg : t.GasMeter = some g) (hn : t.Reveals.length ≤ t.ReplicationFactor.toNat)
    (hlen : t.Reveals.length = t.GasReports.length)
    (h : t.MeterExecutorGasDivergent = .ok g') : ∃ a, g.Spent g' a := by
  simp only [TallyResult.MeterExecutorGasDivergent, TallyResult.meter, hg, ok_bind] at h
  obtain ⟨adj, hadj, h⟩ := bind_eq_ok.mp h
  obtain ⟨m, hm, h⟩ := bind_eq_ok.mp h
  obtain ⟨S, hS, h⟩ := bind_eq_ok.mp h
  obtain ⟨shares, hsh, h⟩ := bind_eq_ok.mp h
  obtain ⟨hlen', hle⟩ := adjGasReports_le hadj
  refine meterReveals_spent _ _ t.Reveals 0 g g' h ?_
  rcases Nat.eq_zero_or_pos t.Reveals.length with h0 | hpos
  · -- reveal が無ければ何も払わない
    rw [h0]; simp [amountSum]
  set rf := t.ReplicationFactor.toNat
  set q := g.execGasRemaining / rf
  have hrf : 0 < rf := by omega
  have hq : q * rf ≤ g.execGasRemaining := Nat.div_mul_le_self _ _
  have hmq : m ≤ q := median_le hle hm
  have hrf1 : (t.ReplicationFactor - 1).toNat = rf - 1 :=
    UInt16.toNat_sub_of_le _ _ (by rw [UInt16.le_iff_toNat_le]; simp; omega)
  -- `m * (RF - 1)` は残り以下なので `uint64` の積は折り返さない
  have hmr : m * (rf - 1) + m = m * rf := by
    rw [← Nat.mul_add_one, Nat.sub_add_cancel hrf]
  have hmrf : m * rf ≤ g.execGasRemaining :=
    Nat.le_trans (Nat.mul_le_mul_right rf hmq) hq
  have hreg : mulU64 m (t.ReplicationFactor - 1).toNat = m * (rf - 1) := by
    rw [hrf1]
    exact mulU64_of_lt (by have := g.execGasRemaining_le; have := g.execGasLimit_lt; omega)
  -- 最小の報告者の位置は reveal の範囲にある
  have hli : (lowestReport adj).2 < t.Reveals.length := by
    have hne : adj ≠ [] := by
      intro hnil; simp [hnil] at hlen'; omega
    have := lowestReport_snd_lt hne
    omega
  have hsum := amountSum_ite (lowestReport adj).2 shares.1 shares.2 0 t.Reveals.length
    (Nat.zero_le _) (by omega)
  have hshares := divergentShares_le (c := rf - 1)
    (by rw [intAdd_eq_ok hS, hreg, Nat.mul_comm m]; push_cast; rfl) hsh
  have htotal := addU64_le_add (mulU64 m (t.ReplicationFactor - 1).toNat)
    (min (mulU64 (lowestReport adj).1 2) m)
  have hmin := Nat.min_le_right (mulU64 (lowestReport adj).1 2) m
  have hnb : (t.Reveals.length - 1) * shares.2 ≤ (rf - 1) * shares.2 :=
    Nat.mul_le_mul_right _ (by omega)
  have hnb' : (t.Reveals.length - 1) * shares.2 + shares.2 = t.Reveals.length * shares.2 := by
    rw [← Nat.succ_mul, Nat.succ_eq_add_one, Nat.sub_add_cancel hpos]
  omega

/-! ## data proxy -/

/--
`MeterProxyGas` の loop の本体。公開鍵が 16 進でない、または設定が無ければ飛ばす。
手数料を gas 価格で割った額を、その時点の残りの `1/RF` で抑える（`uint64` に収まらなければ
`MaxUint64` として抑える）。
-/
def meterProxy (k : Keeper) (replicationFactor : UInt16) (g : GasMeter) (pubKey : String) :
    Except Fault GasMeter :=
  match hexDecode pubKey with
  | none => .ok g
  | some pubKeyBytes =>
    match k.GetDataProxyConfig pubKeyBytes with
    | none => .ok g
    | some proxyConfig => do
      let gasUsedPerExecInt ← intQuo proxyConfig.FeeAmount g.GasPrice
      let perExecLimit ← quo g.RemainingExecGas replicationFactor.toNat
      let gasUsedPerExec :=
        if 0 ≤ gasUsedPerExecInt ∧ gasUsedPerExecInt < 2 ^ 64 then min gasUsedPerExecInt.toNat perExecLimit
        else min (2 ^ 64 - 1) perExecLimit
      pure (g.ConsumeExecGasForProxy pubKey proxyConfig.PayoutAddress gasUsedPerExec replicationFactor)

/-- `Keeper.MeterProxyGas`。公開鍵が無いか残りが 0 なら何もしない。 -/
def Keeper.MeterProxyGas (k : Keeper) (proxyPubKeys : List String) (replicationFactor : UInt16)
    (g : GasMeter) : Except Fault GasMeter :=
  if proxyPubKeys.isEmpty ∨ g.RemainingExecGas = 0 then .ok g
  else proxyPubKeys.foldlM (meterProxy k replicationFactor) g

theorem meterProxy_spent {k : Keeper} {rf : UInt16} {g g' : GasMeter} {pubKey : String}
    (h : meterProxy k rf g pubKey = .ok g') : ∃ a, g.Spent g' a := by
  unfold meterProxy at h
  split at h
  · cases h; exact ⟨0, .refl g⟩
  · split at h
    · cases h; exact ⟨0, .refl g⟩
    · obtain ⟨x, -, h⟩ := bind_eq_ok.mp h
      obtain ⟨limit, hq, h⟩ := bind_eq_ok.mp h
      cases h
      obtain ⟨hrf, rfl⟩ := quo_eq_ok.mp hq
      -- 一人分は残りの `1/RF` 以下なので、RF 倍しても残り以下
      refine ⟨_, GasMeter.spent_consumeExecGasForProxy g _ _ ?_⟩
      have hdiv : g.RemainingExecGas / rf.toNat * rf.toNat ≤ g.execGasRemaining :=
        Nat.div_mul_le_self _ _
      refine Nat.le_trans (Nat.mul_le_mul_right _ ?_) hdiv
      split <;> exact Nat.min_le_right _ _

theorem foldlM_meterProxy_spent {k : Keeper} {rf : UInt16} :
    ∀ (l : List String) (g g' : GasMeter), l.foldlM (meterProxy k rf) g = .ok g' →
      ∃ a, g.Spent g' a
  | [], g, g', h => by
    cases h; exact ⟨0, .refl g⟩
  | pubKey :: l, g, g', h => by
    rw [List.foldlM_cons] at h
    obtain ⟨g₁, h₁, h⟩ := bind_eq_ok.mp h
    obtain ⟨a, ha⟩ := meterProxy_spent h₁
    obtain ⟨b, hb⟩ := foldlM_meterProxy_spent l g₁ g' h
    exact ⟨a + b, ha.trans hb⟩

/-- **proxy への支払いは、毎回その時点の残りの範囲に収まる。** -/
theorem MeterProxyGas_spent {k : Keeper} {keys : List String} {rf : UInt16} {g g' : GasMeter}
    (h : k.MeterProxyGas keys rf g = .ok g') : ∃ a, g.Spent g' a := by
  unfold Keeper.MeterProxyGas at h
  split at h
  · cases h; exact ⟨0, .refl g⟩
  · exact foldlM_meterProxy_spent keys g g' h

/-! ## 基本合意に達しなかったとき -/

/--
`MeterExecutorGasFallback`。commit した者を整列し、reveal があれば reveal もした者だけに、
残りの `1/RF` と固定額の小さい方を払う。
-/
def MeterExecutorGasFallback (req : Request) (gasCostFallback : UInt64) (g : GasMeter) :
    Except Fault GasMeter :=
  if req.Commits.size = 0 ∨ g.RemainingExecGas = 0 then .ok g
  else do
    let committers := sortAsc req.Commits.keys
    let gasLimitPerExec ← quo g.RemainingExecGas req.ReplicationFactor.toNat
    let hasReveals := decide (req.Reveals.size > 0)
    pure (committers.foldl (fun g committer =>
      if hasReveals && !req.Reveals.contains committer then g
      else g.ConsumeExecGasForExecutor committer (min gasLimitPerExec gasCostFallback.toNat)) g)

/-- 飛ばす者のある支払いの loop は、支払う者だけの loop に等しい。 -/
theorem foldl_skip_eq (skip : String → Bool) (amount : Nat) :
    ∀ (l : List String) (g : GasMeter),
      l.foldl (fun g c => if skip c then g else g.ConsumeExecGasForExecutor c amount) g =
        ((l.filter (!skip ·)).map fun c => (c, amount)).foldl
          (fun g p => g.ConsumeExecGasForExecutor p.1 p.2) g
  | [], _ => rfl
  | c :: l, g => by
    by_cases hc : skip c
    · simp [hc, foldl_skip_eq skip amount l g]
    · simp [hc, foldl_skip_eq skip amount l]

/-- **commit の数が RF 以下なら、固定額の支払いは残りの範囲に収まる。** -/
theorem MeterExecutorGasFallback_spent {req : Request} {c : UInt64} {g g' : GasMeter}
    (hc : req.Commits.size ≤ req.ReplicationFactor.toNat)
    (h : MeterExecutorGasFallback req c g = .ok g') : ∃ a, g.Spent g' a := by
  unfold MeterExecutorGasFallback at h
  split at h
  · cases h; exact ⟨0, .refl g⟩
  · obtain ⟨limit, hq, h⟩ := bind_eq_ok.mp h
    cases h
    obtain ⟨hrf, rfl⟩ := quo_eq_ok.mp hq
    rw [foldl_skip_eq]
    refine ⟨_, GasMeter.spent_foldl_consumeExecGasForExecutor _ g ?_⟩
    -- 支払う者は commit した者の一部で、一人あたり残りの `1/RF` 以下
    set amount := min (g.RemainingExecGas / req.ReplicationFactor.toNat) c.toNat
    set payees := (sortAsc req.Commits.keys).filter fun x =>
      !(decide (req.Reveals.size > 0) && !req.Reveals.contains x)
    have hlen : payees.length ≤ req.ReplicationFactor.toNat := by
      have := List.length_filter_le (fun x => !(decide (req.Reveals.size > 0) &&
        !req.Reveals.contains x)) (sortAsc req.Commits.keys)
      simp only [length_sortAsc, KeyMap.keys, List.length_map] at this
      exact Nat.le_trans this hc
    have hsum : ((payees.map fun x => (x, amount)).map Prod.snd).sum = payees.length * amount := by
      simp [List.map_map, Function.comp_def]
    rw [hsum]
    calc payees.length * amount
        ≤ req.ReplicationFactor.toNat * (g.RemainingExecGas / req.ReplicationFactor.toNat) :=
          Nat.mul_le_mul hlen (Nat.min_le_left _ _)
      _ ≤ g.execGasRemaining := Nat.mul_div_le _ _

/--
固定額の支払いの列：commit した者を整列し、reveal があれば reveal もした者だけに、残り `remaining`
の `1/RF` と固定額の小さい方を払う。commit が無いか残りが 0 なら何も払わない。
-/
def fallbackPayments (req : Request) (gasCostFallback : UInt64) (remaining : Nat) :
    List ExecutorGasUsed :=
  if req.Commits.size = 0 ∨ remaining = 0 then []
  else ((sortAsc req.Commits.keys).filter fun c =>
      !(decide (req.Reveals.size > 0) && !req.Reveals.contains c)).map
    fun c => ⟨c, min (remaining / req.ReplicationFactor.toNat) gasCostFallback.toNat⟩

/--
**`MeterExecutorGasFallback` は固定額の支払いの列を記録する。** proxy の記録、tally gas、
減額の印は変わらない。
-/
theorem MeterExecutorGasFallback_payments {req : Request} {c : UInt64} {g g' : GasMeter}
    (h : MeterExecutorGasFallback req c g = .ok g') :
    g'.executors = g.executors ++ fallbackPayments req c g.execGasRemaining ∧
      g'.proxies = g.proxies ∧ g.SameTally g' := by
  unfold MeterExecutorGasFallback at h
  split at h
  · next hskip =>
    cases h
    have hskip' : req.Commits.size = 0 ∨ g.execGasRemaining = 0 := hskip
    exact ⟨by rw [fallbackPayments, if_pos hskip', List.append_nil], rfl, .refl g⟩
  · next hpay =>
    have hpay' : ¬(req.Commits.size = 0 ∨ g.execGasRemaining = 0) := hpay
    obtain ⟨limit, hq, h⟩ := bind_eq_ok.mp h
    cases h
    obtain ⟨-, rfl⟩ := quo_eq_ok.mp hq
    rw [foldl_skip_eq]
    obtain ⟨h₁, h₂, h₃⟩ := GasMeter.foldl_consumeExecGasForExecutor _ g
    refine ⟨?_, h₂, h₃⟩
    rw [h₁, fallbackPayments, if_neg hpay']
    simp [List.map_map, Function.comp_def, GasMeter.RemainingExecGas]

/-! ## 支払いは tally gas を変えない -/

theorem meterReveals_sameTally (outliers : Option (List Bool)) (amount : Nat → Nat) :
    ∀ (rs : List Reveal) (i : Nat) (g g' : GasMeter),
      meterReveals outliers amount rs i g = .ok g' → g.SameTally g'
  | [], _, g, g', h => by
    cases h; exact .refl g
  | r :: rs, i, g, g', h => by
    simp only [meterReveals] at h
    obtain ⟨isOutlier, -, h⟩ := bind_eq_ok.mp h
    have hstep : g.SameTally
        (if isOutlier then g else g.ConsumeExecGasForExecutor r.Executor (amount i)) := by
      split
      · exact .refl g
      · exact GasMeter.sameTally_consumeExecGasForExecutor g _ _
    exact hstep.trans (meterReveals_sameTally outliers amount rs (i + 1) _ g' h)

theorem MeterExecutorGasUniform_sameTally {t : TallyResult} {g g' : GasMeter}
    (hg : t.GasMeter = some g) (h : t.MeterExecutorGasUniform = .ok g') : g.SameTally g' := by
  simp only [TallyResult.MeterExecutorGasUniform, TallyResult.meter, hg, ok_bind] at h
  obtain ⟨gasReport, -, h⟩ := bind_eq_ok.mp h
  obtain ⟨perExecLimit, -, h⟩ := bind_eq_ok.mp h
  exact meterReveals_sameTally _ _ t.Reveals 0 g g' h

theorem MeterExecutorGasDivergent_sameTally {t : TallyResult} {g g' : GasMeter}
    (hg : t.GasMeter = some g) (h : t.MeterExecutorGasDivergent = .ok g') : g.SameTally g' := by
  simp only [TallyResult.MeterExecutorGasDivergent, TallyResult.meter, hg, ok_bind] at h
  obtain ⟨adj, -, h⟩ := bind_eq_ok.mp h
  obtain ⟨m, -, h⟩ := bind_eq_ok.mp h
  obtain ⟨S, -, h⟩ := bind_eq_ok.mp h
  obtain ⟨shares, -, h⟩ := bind_eq_ok.mp h
  exact meterReveals_sameTally _ _ t.Reveals 0 g g' h

theorem meterProxy_sameTally {k : Keeper} {rf : UInt16} {g g' : GasMeter} {pubKey : String}
    (h : meterProxy k rf g pubKey = .ok g') : g.SameTally g' := by
  unfold meterProxy at h
  split at h
  · cases h; exact .refl g
  · split at h
    · cases h; exact .refl g
    · obtain ⟨x, -, h⟩ := bind_eq_ok.mp h
      obtain ⟨limit, -, h⟩ := bind_eq_ok.mp h
      cases h
      exact GasMeter.sameTally_consumeExecGasForProxy g _ _ _ _

theorem foldlM_meterProxy_sameTally {k : Keeper} {rf : UInt16} :
    ∀ (l : List String) (g g' : GasMeter), l.foldlM (meterProxy k rf) g = .ok g' → g.SameTally g'
  | [], g, g', h => by
    cases h; exact .refl g
  | pubKey :: l, g, g', h => by
    rw [List.foldlM_cons] at h
    obtain ⟨g₁, h₁, h⟩ := bind_eq_ok.mp h
    exact (meterProxy_sameTally h₁).trans (foldlM_meterProxy_sameTally l g₁ g' h)

theorem MeterProxyGas_sameTally {k : Keeper} {keys : List String} {rf : UInt16} {g g' : GasMeter}
    (h : k.MeterProxyGas keys rf g = .ok g') : g.SameTally g' := by
  unfold Keeper.MeterProxyGas at h
  split at h
  · cases h; exact .refl g
  · exact foldlM_meterProxy_sameTally keys g g' h

end SedaChain.Tally
