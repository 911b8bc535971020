import SedaChain.Tally.Filter

/-!
# 中央絶対偏差の filter の二つの添字（`detectOutliersBigInt`）

Go の `detectOutliersBigInt` は、最初の loop で読めた数を `nums` に、読めなかった位置を
`corruptQueue` に積み、次の loop で位置 `i` ごとに queue の先頭と比べて、壊れていなければ
`nums[numsInd]` を読んで `numsInd` を進める。ここではその二つの loop をそのまま写し
（`collectNums`、`fillOutliers`、`detectOutliersBigIntIndexed`）、次を示す。

* 二つの添字はずれない：位置 `i` で queue の先頭が `i` であるのは `i` が壊れているときに限り、
  そうでなければ `nums[numsInd]` は位置 `i` の数である（`fillOutliers_aligned`）。したがって
  `nums` の外を読んで panic することはない
* 読めた数が一つでもあれば、結果は主張の基準（`madReference`）に等しい。一つも無ければ、外れ値の
  印はすべて偽で、合意は無い（`detectOutliersBigInt_matches_reference`）
* 添字を使わない `detectOutliersBigInt` も同じ値を返す（`detectOutliersBigIntIndexed_eq`）
-/

namespace SedaChain.Tally

open Infra Infra.Go

/-! ## Go の二つの loop -/

/-- 最初の loop。読めた数を順に、読めなかった位置（`i` から数える）を順に積む。 -/
def collectNums (minNumber maxNumber : Int) : List String → Nat → List Int × List Nat
  | [], _ => ([], [])
  | data :: rest, i =>
    let r := collectNums minNumber maxNumber rest (i + 1)
    match parseNumber minNumber maxNumber data with
    | none => (r.1, i :: r.2)
    | some num => (num :: r.1, r.2)

/--
次の loop。位置の列を順に見て、queue の先頭がその位置なら外れ値にして queue を進め、そうで
なければ `nums[numsInd]` を読み、許す幅に入れば数え、入らなければ外れ値にして `numsInd` を進める。
外れ値の印と、外れ値でない数の個数を返す。`nums` の外を読めば panic する。
-/
def fillOutliers (nums : List Int) (median maxDev : ℚ) :
    List Nat → List Nat → Nat → Nat → Except Fault (List Bool × Nat)
  | [], _, _, nonOutlierCount => .ok ([], nonOutlierCount)
  | i :: is, corruptQueue, numsInd, nonOutlierCount =>
    if corruptQueue.head? = some i then do
      let r ← fillOutliers nums median maxDev is corruptQueue.tail numsInd nonOutlierCount
      pure (true :: r.1, r.2)
    else do
      let num ← index nums numsInd
      let within := isWithinMaxDev num median maxDev
      let r ← fillOutliers nums median maxDev is corruptQueue (numsInd + 1)
        (if within then nonOutlierCount + 1 else nonOutlierCount)
      pure ((!within) :: r.1, r.2)

/--
`detectOutliersBigInt` を Go の二つの loop と添字のまま写したもの。誤りの印は壊れた位置で立てる
（`errors[i] = true`）。
-/
def detectOutliersBigIntIndexed (dataList : List String) (sigmaMultiplier : Nat) (errors : List Bool)
    (replicationFactor : UInt16) (minNumber maxNumber : Int) :
    Except Fault (List Bool × Bool × List Bool) :=
  let errors := markErrors errors (dataList.map (parseNumber minNumber maxNumber))
  let collected := collectNums minNumber maxNumber dataList 0
  let nums := collected.1
  if nums = [] then .ok (List.replicate dataList.length false, false, errors)
  else do
    let median := getMedian nums
    let mad := getMedianRat (nums.map fun (n : Int) => |(n : ℚ) - median|)
    let maxDev := (sigmaMultiplier : ℚ) / 10 ^ 6 * mad
    let filled ← fillOutliers nums median maxDev (List.range dataList.length) collected.2 0 0
    if filled.2 * 3 < replicationFactor.toNat * 2 then pure (filled.1, false, errors)
    else pure (filled.1, true, errors)

/-! ## 主張の基準 -/

/-- 外れ値の判定の基準：読めない data、または中央値からの距離が許す幅を超える data。 -/
def madOutlier (minNumber maxNumber : Int) (median maxDev : ℚ) (data : String) : Bool :=
  match parseNumber minNumber maxNumber data with
  | none => true
  | some x => decide (maxDev < |(x : ℚ) - median|)

/--
主張の基準の定義。`V` は読めた数の多重集合で、許す幅は `V` の中央絶対偏差の
`sigmaMultiplier / 10^6` 倍。合意は `V` が空でなく、外れ値でないものの 3 倍が replication factor
の 2 倍以上のとき。誤りの印は読めない data の位置で立てる。
-/
def madReference (dataList : List String) (sigmaMultiplier : Nat) (errors : List Bool)
    (replicationFactor : UInt16) (minNumber maxNumber : Int) : List Bool × Bool × List Bool :=
  let V := dataList.filterMap (parseNumber minNumber maxNumber)
  let median := getMedian V
  let maxDev := (sigmaMultiplier : ℚ) / 10 ^ 6 * getMedianRat (V.map fun (v : Int) => |(v : ℚ) - median|)
  let outliers := dataList.map (madOutlier minNumber maxNumber median maxDev)
  (outliers, decide (V ≠ [] ∧ replicationFactor.toNat * 2 ≤ 3 * outliers.count false),
    markErrors errors (dataList.map (parseNumber minNumber maxNumber)))

/-! ## 添字がずれないこと -/

/-- 列 `ps` の中で値の無い位置。`i` から数える。 -/
def corruptIndices : List (Option Int) → Nat → List Nat
  | [], _ => []
  | none :: ps, i => i :: corruptIndices ps (i + 1)
  | some _ :: ps, i => corruptIndices ps (i + 1)

theorem le_of_mem_corruptIndices : ∀ {ps : List (Option Int)} {i j : Nat},
    j ∈ corruptIndices ps i → i ≤ j
  | [], _, _, h => by simp [corruptIndices] at h
  | none :: ps, i, j, h => by
    rcases List.mem_cons.mp h with rfl | h
    · exact le_refl _
    · exact Nat.le_of_succ_le (le_of_mem_corruptIndices h)
  | some _ :: ps, i, j, h => Nat.le_of_succ_le (le_of_mem_corruptIndices h)

/-- 最初の loop は、読めた数を順に、読めない位置を順に積む。 -/
theorem collectNums_eq (minNumber maxNumber : Int) :
    ∀ (dataList : List String) (i : Nat),
      collectNums minNumber maxNumber dataList i =
        (dataList.filterMap (parseNumber minNumber maxNumber),
          corruptIndices (dataList.map (parseNumber minNumber maxNumber)) i)
  | [], _ => rfl
  | data :: rest, i => by
    simp only [collectNums, collectNums_eq minNumber maxNumber rest (i + 1), List.map_cons]
    cases h : parseNumber minNumber maxNumber data <;> simp [corruptIndices, h]

/--
**二つの添字はずれない。** 位置 `i` から先の値の列 `ps` について、queue が `ps` の値の無い位置で、
`nums` の `numsInd` から先が `ps` の値の列なら、次の loop は panic せず、各位置で値が無いか
許す幅を超えるときに外れ値にし、許す幅に入る値を数える。
-/
theorem fillOutliers_aligned (nums : List Int) (median maxDev : ℚ) :
    ∀ (ps : List (Option Int)) (i numsInd count : Nat),
      nums.drop numsInd = ps.filterMap id →
      fillOutliers nums median maxDev (List.range' i ps.length) (corruptIndices ps i) numsInd count =
        .ok (ps.map (fun p => match p with
            | none => true
            | some x => !isWithinMaxDev x median maxDev),
          count + ((ps.filterMap id).filter fun x => isWithinMaxDev x median maxDev).length)
  | [], _, _, _, _ => by simp [fillOutliers]
  | none :: ps, i, numsInd, count, hdrop => by
    -- 壊れた位置：queue の先頭がちょうど `i` で、`nums` は読まない
    have ih := fillOutliers_aligned nums median maxDev ps (i + 1) numsInd count (by simpa using hdrop)
    simp [fillOutliers, corruptIndices, List.range'_succ, ih]
  | some x :: ps, i, numsInd, count, hdrop => by
    -- 読めた位置：queue の位置はどれも `i` より後で、`nums[numsInd]` がこの位置の数である
    have hhead : (corruptIndices ps (i + 1)).head? ≠ some i := by
      intro h
      have := le_of_mem_corruptIndices (List.mem_of_mem_head? h)
      omega
    have hdrop' : nums.drop numsInd = x :: ps.filterMap id := by simpa using hdrop
    have hlt : numsInd < nums.length := by
      have := congrArg List.length hdrop'
      simp only [List.length_drop, List.length_cons] at this
      omega
    have hget : nums.get ⟨numsInd, hlt⟩ = x := by
      have := congrArg List.head? hdrop'
      rw [List.head?_drop, List.getElem?_eq_getElem hlt, List.head?_cons] at this
      exact Option.some.inj this
    have hrest : nums.drop (numsInd + 1) = ps.filterMap id := by
      rw [← List.drop_drop, hdrop', List.drop_one, List.tail_cons]
    have ih := fillOutliers_aligned nums median maxDev ps (i + 1) (numsInd + 1)
      (if isWithinMaxDev x median maxDev then count + 1 else count) hrest
    simp only [fillOutliers, corruptIndices, List.range'_succ, List.length_cons, if_neg hhead,
      index_of_lt hlt, hget, ok_bind, ih, pure_eq_ok, List.map_cons, List.filterMap_cons, id,
      List.filter_cons]
    -- 許す幅に入れば数が一つ増え、入らなければ外れ値になる
    cases hw : isWithinMaxDev x median maxDev
    · simp
    · simp only [↓reduceIte, Bool.not_true, List.length_cons]
      rw [Nat.add_assoc, Nat.add_comm 1]

/-- **Go の二つの loop は、添字を使わない `detectOutliersBigInt` と同じ値を返し、panic しない。** -/
theorem detectOutliersBigIntIndexed_eq (dataList : List String) (sigmaMultiplier : Nat)
    (errors : List Bool) (replicationFactor : UInt16) (minNumber maxNumber : Int) :
    detectOutliersBigIntIndexed dataList sigmaMultiplier errors replicationFactor minNumber maxNumber =
      .ok (detectOutliersBigInt dataList sigmaMultiplier errors replicationFactor minNumber
        maxNumber) := by
  have hnums : (dataList.map (parseNumber minNumber maxNumber)).filterMap id =
      dataList.filterMap (parseNumber minNumber maxNumber) := by
    simp [List.filterMap_map]
  unfold detectOutliersBigIntIndexed detectOutliersBigInt
  simp only [collectNums_eq, hnums]
  split
  · rfl
  · -- 位置 0 から、queue は値の無い位置、`nums` は値の列で、二つは揃っている
    have hfill := fillOutliers_aligned (dataList.filterMap (parseNumber minNumber maxNumber))
      (getMedian (dataList.filterMap (parseNumber minNumber maxNumber)))
      ((sigmaMultiplier : ℚ) / 10 ^ 6 * getMedianRat
        ((dataList.filterMap (parseNumber minNumber maxNumber)).map fun (n : Int) =>
          |(n : ℚ) - getMedian (dataList.filterMap (parseNumber minNumber maxNumber))|))
      (dataList.map (parseNumber minNumber maxNumber)) 0 0 0 (by rw [List.drop_zero, hnums])
    rw [List.length_map, ← List.range_eq_range'] at hfill
    rw [hfill, hnums, Nat.zero_add, ok_bind]
    split_ifs <;> rfl

/-- 外れ値でない印の数は、許す幅に入る値の数である。 -/
theorem count_false_map_outlier (w : Int → Bool) :
    ∀ ps : List (Option Int),
      (ps.map fun p => match p with
        | none => true
        | some x => !w x).count false = ((ps.filterMap id).filter w).length
  | [] => rfl
  | none :: ps => by simp [count_false_map_outlier w ps]
  | some x :: ps => by
    cases hw : w x <;> simp [hw, count_false_map_outlier w ps]

/-- 読めた数があれば、添字を使わない `detectOutliersBigInt` は主張の基準に等しい。 -/
theorem detectOutliersBigInt_eq_madReference (dataList : List String) (sigmaMultiplier : Nat)
    (errors : List Bool) (replicationFactor : UInt16) (minNumber maxNumber : Int)
    (hV : dataList.filterMap (parseNumber minNumber maxNumber) ≠ []) :
    detectOutliersBigInt dataList sigmaMultiplier errors replicationFactor minNumber maxNumber =
      madReference dataList sigmaMultiplier errors replicationFactor minNumber maxNumber := by
  have hnums : (dataList.map (parseNumber minNumber maxNumber)).filterMap id =
      dataList.filterMap (parseNumber minNumber maxNumber) := by
    simp [List.filterMap_map]
  -- 外れ値の印は位置ごとに同じ判定で、`!(|x - m| ≤ d)` は `d < |x - m|` である
  have houtliers : ∀ (median maxDev : ℚ),
      (dataList.map (parseNumber minNumber maxNumber)).map (fun p => match p with
        | none => true
        | some num => !isWithinMaxDev num median maxDev) =
        dataList.map (madOutlier minNumber maxNumber median maxDev) := by
    intro median maxDev
    rw [List.map_map]
    refine List.map_congr_left fun d _ => ?_
    simp only [Function.comp, madOutlier, isWithinMaxDev]
    cases parseNumber minNumber maxNumber d with
    | none => rfl
    | some x =>
      by_cases h : maxDev < |(x : ℚ) - median|
      · simp [h, not_le.mpr h]
      · simp [h, not_lt.mp h]
  -- 外れ値でない印の数は、Go が数える `nonOutlierCount` である
  have hcount : ∀ (median maxDev : ℚ),
      (dataList.map (madOutlier minNumber maxNumber median maxDev)).count false =
        ((dataList.filterMap (parseNumber minNumber maxNumber)).filter
          fun n => isWithinMaxDev n median maxDev).length := by
    intro median maxDev
    rw [← houtliers]
    exact (count_false_map_outlier _ _).trans (by rw [hnums])
  unfold detectOutliersBigInt madReference
  simp only [hnums, if_neg hV, hcount]
  -- 外れ値の印と誤りの印は同じで、合意の判定は同じ不等式の裏表である
  split
  · next hlt =>
    refine Prod.ext (houtliers _ _) (Prod.ext ?_ rfl)
    symm
    simp only [ne_eq, hV, not_false_eq_true, true_and, decide_eq_false_iff_not, not_le]
    omega
  · next hge =>
    refine Prod.ext (houtliers _ _) (Prod.ext ?_ rfl)
    symm
    simp only [ne_eq, hV, not_false_eq_true, true_and, decide_eq_true_eq]
    omega

/--
**中央絶対偏差の filter は、読めた数があれば主張の基準に等しい。** Go の二つの loop は panic
せず、読めた数 `V` が空でなければ、外れ値は読めない data と中央値からの距離が許す幅を超える data、
合意は外れ値でないものの 3 倍が replication factor の 2 倍以上のときで、誤りの印は読めない data
の位置で立つ。`V` が空なら、外れ値の印はすべて偽で合意は無い。
-/
theorem detectOutliersBigInt_matches_reference (dataList : List String) (sigmaMultiplier : Nat)
    (errors : List Bool) (replicationFactor : UInt16) (minNumber maxNumber : Int) :
    detectOutliersBigIntIndexed dataList sigmaMultiplier errors replicationFactor minNumber maxNumber =
      .ok (if dataList.filterMap (parseNumber minNumber maxNumber) = [] then
          (List.replicate dataList.length false, false,
            markErrors errors (dataList.map (parseNumber minNumber maxNumber)))
        else madReference dataList sigmaMultiplier errors replicationFactor minNumber maxNumber) := by
  rw [detectOutliersBigIntIndexed_eq]
  split
  · next hV =>
    have hnums : (dataList.map (parseNumber minNumber maxNumber)).filterMap id = [] := by
      simpa [List.filterMap_map] using hV
    simp only [detectOutliersBigInt, hnums, ↓reduceIte]
  · next hV => rw [detectOutliersBigInt_eq_madReference _ _ _ _ _ _ hV]

/--
**読めた数が一つも無いと、壊れた data も外れ値にならない。** `int64` の範囲（数の型 2）で、空の data と
範囲を一つ超える `2 ^ 63` の二つでは、基準はどちらも外れ値とするが、Go は外れ値の印をすべて偽のまま
返す（誤りの印は立つ）。
-/
theorem detectOutliersBigInt_all_corrupt :
    numberBounds 2 = some (-2 ^ 63, 2 ^ 63 - 1) ∧
      (madReference ["", "9223372036854775808"] 1500000 [false, false] 2 (-2 ^ 63) (2 ^ 63 - 1)).1 =
        [true, true] ∧
      detectOutliersBigIntIndexed ["", "9223372036854775808"] 1500000 [false, false] 2 (-2 ^ 63)
        (2 ^ 63 - 1) = .ok ([false, false], false, [true, true]) := by
  refine ⟨rfl, ?_, ?_⟩
  · decide
  · decide

end SedaChain.Tally
