import SedaChain.Tally.BasicConsensus
import SedaChain.Tally.Mad

/-!
# filter の結果の健全性（`ExecuteFilter`）

`ExecuteFilter` が誤り無しで終われば、合意があり、外れ値の印は reveal ごとに一つあり、外れ値で
ない reveal は filter の種類ごとに次を満たす（`FilterSound`）。

* `FilterNone`：どの reveal も外れ値でなく、基本合意から reveal は replication factor の 2/3 以上
* `FilterMode`：外れ値でない reveal は 2/3 以上で、誤りの無いものはどれも同じ data を持つ。誤りの
  ある reveal が外れ値でないのは、その data が空文字列で、空文字列を data に持つ reveal があるとき
  に限る
* `FilterMAD`：外れ値でない reveal は 2/3 以上で、どれも誤りが無く、範囲内の整数に読め、中央値
  からの距離が許す幅に収まる

誤りの合意（`ErrConsensusInError`）なら、reveal の 2/3 以上が誤りで、外れ値の印は誤りの印の否定で
ある（`ExecuteFilter_sound`）。`FilterNone` では誤りのある reveal も外れ値にならない
（`ExecuteFilter_none_keeps_errors`）。
-/

namespace SedaChain.Tally

open Infra Infra.Go

/-! ## `parseReveals` -/

/-- 誤りの印を立てるのは、reveal ごとに印と値の有無を見ることである。 -/
theorem markErrors_map {α β : Type} (f : α → Bool) (g : α → Option β) :
    ∀ l : List α, markErrors (l.map f) (l.map g) = l.map fun x => f x || (g x).isNone
  | [] => rfl
  | x :: l => by simp [markErrors, markErrors_map f g l]

/-- 終了コードが 0 でない reveal は data を持たない。 -/
theorem revealData_of_exitCode {k : Keeper} {dataPath : Bytes} {r : Reveal} (h : r.ExitCode ≠ 0) :
    revealData k dataPath r = none := by
  simp [revealData, h]

/-- `ExecuteFilter` の最初の誤りの印に `parseReveals` が立てた印は、data が無いことである。 -/
theorem markErrors_exitCode (k : Keeper) (dataPath : Bytes) (reveals : List Reveal) :
    markErrors (reveals.map fun r => r.ExitCode != 0) (reveals.map (revealData k dataPath)) =
      reveals.map fun r => (revealData k dataPath r).isNone := by
  rw [markErrors_map]
  refine List.map_congr_left fun r _ => ?_
  by_cases h : r.ExitCode = 0
  · simp [h]
  · simp [revealData_of_exitCode h]

/-- data の数え上げ `a` が data の列 `ds` を数え終えていること。 -/
structure Tallied (ds : List (Option String)) (a : DataAttributes) : Prop where
  freq : ∀ d, (a.freqMap.get? d).getD 0 = ds.count (some d)
  le_maxFreq : ∀ d, ds.count (some d) ≤ a.maxFreq
  attained : a.maxFreq = 0 ∨ ∃ d, ds.count (some d) = a.maxFreq

/-- `parseReveals` の数え上げの一歩。 -/
def tallyStep (a : DataAttributes) : Option String → DataAttributes
  | some data => a.add data
  | none => a

theorem tallied_nil : Tallied [] ⟨KeyMap.empty, 0⟩ where
  freq d := by simp
  le_maxFreq d := by simp
  attained := .inl rfl

/-- **数え上げの一歩は不変条件を保つ。** 値のある data はその数を一つ増やし、最大と比べる。 -/
theorem Tallied.step {ds : List (Option String)} {a : DataAttributes} (h : Tallied ds a)
    (x : Option String) : Tallied (ds ++ [x]) (tallyStep a x) := by
  cases x with
  | none =>
    refine ⟨fun d => ?_, fun d => ?_, ?_⟩
    · simp [tallyStep, h.freq d]
    · simpa [tallyStep] using h.le_maxFreq d
    · simpa [tallyStep] using h.attained
  | some data =>
    have hcount : ∀ d, (ds ++ [some data]).count (some d) = ds.count (some d) + if data = d then 1 else 0 := by
      intro d
      rw [List.count_append]
      by_cases hd : data = d
      · subst hd
        simp
      · simp [hd]
    have hfreq : ∀ d, ((a.freqMap.incr data).get? d).getD 0 = (ds ++ [some data]).count (some d) := by
      intro d
      by_cases hd : d = data
      · subst hd
        simp [hcount, ← h.freq d]
      · simp [KeyMap.get?_incr, hd, hcount, Ne.symm hd, h.freq d]
    refine ⟨hfreq, fun d => ?_, ?_⟩
    · simp only [tallyStep, DataAttributes.add]
      rw [hfreq]
      by_cases hd : d = data
      · subst hd
        exact le_max_left _ _
      · rw [hcount, if_neg (Ne.symm hd), Nat.add_zero]
        exact (h.le_maxFreq d).trans (le_max_right _ _)
    · simp only [tallyStep, DataAttributes.add]
      rw [hfreq]
      -- 新しい最大は今の data の数か、前の最大である
      rcases le_total ((ds ++ [some data]).count (some data)) a.maxFreq with hle | hle
      · rw [max_eq_right hle]
        rcases h.attained with h0 | ⟨d, hd⟩
        · exact .inl h0
        · by_cases hdd : d = data
          · subst hdd
            exact .inr ⟨d, le_antisymm hle (by rw [← hd, hcount]; omega)⟩
          · exact .inr ⟨d, by rw [hcount, if_neg (Ne.symm hdd), Nat.add_zero, hd]⟩
      · rw [max_eq_left hle]
        exact .inr ⟨data, rfl⟩

/-- **`parseReveals` の数え上げは、data の列を数え終えている。** -/
theorem tallied_parseReveals (k : Keeper) (reveals : List Reveal) (dataPath : Bytes)
    (errors : List Bool) :
    Tallied (reveals.map (revealData k dataPath)) (parseReveals k reveals dataPath errors).2.1 := by
  have hfold : (parseReveals k reveals dataPath errors).2.1 =
      (reveals.map (revealData k dataPath)).foldl tallyStep ⟨KeyMap.empty, 0⟩ := by
    simp only [parseReveals]
    congr 1
  rw [hfold]
  -- 後ろに一つずつ足す帰納法
  induction reveals.map (revealData k dataPath) using List.reverseRecOn with
  | nil => exact tallied_nil
  | append_singleton ds x ih =>
    rw [List.foldl_append, List.foldl_cons, List.foldl_nil]
    exact ih.step x

/-- 違う値の数の和は、列の長さを超えない。 -/
theorem count_add_count_le {α : Type} [BEq α] [LawfulBEq α] {x y : α} (hxy : x ≠ y) :
    ∀ l : List α, l.count x + l.count y ≤ l.length
  | [] => by simp
  | a :: l => by
    have ih := count_add_count_le hxy l
    rw [List.count_cons, List.count_cons, List.length_cons]
    by_cases hx : a = x <;> by_cases hy : a = y
    · exact absurd (hx.symm.trans hy) hxy
    · simp [hx, hxy]
      omega
    · simp [hy, Ne.symm hxy]
      omega
    · simp [hx, hy]
      omega

/-! ## filter の種類ごとの外れ値 -/

/-- 外れ値の印の列で `false` の数は、外れ値でない reveal の数である。 -/
theorem count_false_map (o : Reveal → Bool) (reveals : List Reveal) :
    (reveals.map o).count false = reveals.countP fun r => o r = false := by
  simp [List.count_eq_countP, List.countP_map]
  rfl

/-- 空白や空でない data の一致で数える `FilterMode` の外れ値の印。 -/
def modeOutlier (k : Keeper) (dataPath : Bytes) (a : DataAttributes) (r : Reveal) : Bool :=
  (a.freqMap.get? ((revealData k dataPath r).getD "")).getD 0 != a.maxFreq

theorem ApplyFilter_mode (k : Keeper) (dataPath : Bytes) (rf : UInt16) (reveals : List Reveal) :
    (TallyFilter.mode dataPath rf).ApplyFilter k reveals (reveals.map fun r => r.ExitCode != 0) =
      (reveals.map (modeOutlier k dataPath
          (parseReveals k reveals dataPath (reveals.map fun r => r.ExitCode != 0)).2.1),
        !((parseReveals k reveals dataPath (reveals.map fun r => r.ExitCode != 0)).2.1.maxFreq * 3 <
          rf.toNat * 2),
        reveals.map fun r => (revealData k dataPath r).isNone) := by
  simp only [TallyFilter.ApplyFilter, parseReveals, List.map_map, markErrors_exitCode]
  rfl

/--
**`FilterMode` の外れ値でない reveal。** reveal が replication factor を超えず、data の合意が
あれば、外れ値でない reveal は 2/3 以上あり、どれも同じ data を持つ。data の無い reveal が外れ値で
ないのは、その data が空文字列で、空文字列を data に持つ reveal があるときに限る。
-/
theorem mode_nonOutliers (k : Keeper) (dataPath : Bytes) {reveals : List Reveal} {rf : Nat}
    {a : DataAttributes} (ha : Tallied (reveals.map (revealData k dataPath)) a)
    (hlen : reveals.length ≤ rf) (hcons : ¬a.maxFreq * 3 < rf * 2) :
    2 * rf ≤ 3 * (reveals.map (modeOutlier k dataPath a)).count false ∧
      ∃ m, ∀ r ∈ reveals, modeOutlier k dataPath a r = false →
        ((revealData k dataPath r).isNone = false → revealData k dataPath r = some m) ∧
        ((revealData k dataPath r).isNone = true → m = "" ∧ ∃ r' ∈ reveals, revealData k dataPath r' = some "") := by
  -- replication factor が 0 なら reveal は無い
  rcases Nat.eq_zero_or_pos rf with rfl | hrf
  · have : reveals = [] := List.eq_nil_of_length_eq_zero (by omega)
    subst this
    exact ⟨by simp, "", by simp⟩
  -- 合意があるので最大の数は正で、ある data `m` の数として実現されている
  obtain ⟨m, hm⟩ : ∃ m, (reveals.map (revealData k dataPath)).count (some m) = a.maxFreq := by
    rcases ha.attained with h0 | hm
    · omega
    · exact hm
  have hlen' : (reveals.map (revealData k dataPath)).length ≤ rf := by simpa using hlen
  -- 最大の数に達する data は `m` だけである：二つあれば合わせて reveal の数を超える
  have hunique : ∀ d, (reveals.map (revealData k dataPath)).count (some d) = a.maxFreq → d = m := by
    intro d hd
    by_contra hne
    have := count_add_count_le (x := some d) (y := some m) (by simpa using hne)
      (reveals.map (revealData k dataPath))
    omega
  have hnon : ∀ r ∈ reveals, modeOutlier k dataPath a r = false →
      (revealData k dataPath r).getD "" = m ∧
        (reveals.map (revealData k dataPath)).count (some ((revealData k dataPath r).getD "")) = a.maxFreq := by
    intro r _ hr
    have hfreq : (reveals.map (revealData k dataPath)).count (some ((revealData k dataPath r).getD "")) =
        a.maxFreq := by
      rw [← ha.freq]
      simpa [modeOutlier] using hr
    exact ⟨hunique _ hfreq, hfreq⟩
  refine ⟨?_, m, fun r hr hout => ⟨fun hval => ?_, fun hnone => ?_⟩⟩
  · -- data が `m` の reveal はどれも外れ値でない
    have hm_le : (reveals.map (revealData k dataPath)).count (some m) ≤
        (reveals.map (modeOutlier k dataPath a)).count false := by
      rw [count_false_map, List.count_eq_countP, List.countP_map]
      refine List.countP_mono_left fun r _ hr => ?_
      simp only [Function.comp, beq_iff_eq, decide_eq_true_eq] at hr ⊢
      simp [modeOutlier, hr, ha.freq, hm]
    rw [hm] at hm_le
    omega
  · obtain ⟨hgetD, -⟩ := hnon r hr hout
    cases hd : revealData k dataPath r with
    | none => simp [hd] at hval
    | some d => rw [hd, Option.getD_some] at hgetD; rw [hgetD]
  · obtain ⟨hgetD, hfreq⟩ := hnon r hr hout
    have hd : revealData k dataPath r = none := Option.isNone_iff_eq_none.mp hnone
    rw [hd, Option.getD_none] at hgetD hfreq
    refine ⟨hgetD.symm, ?_⟩
    have hpos : 0 < (reveals.map (revealData k dataPath)).count (some "") := by omega
    obtain ⟨x, hx, hxe⟩ := List.mem_map.mp (List.count_pos_iff.mp hpos)
    exact ⟨x, hx, hxe⟩

@[simp] theorem parseNumber_empty (minNumber maxNumber : Int) :
    parseNumber minNumber maxNumber "" = none := rfl

/-- 数として読めた data は範囲の中にある。 -/
theorem parseNumber_bounds {minNumber maxNumber x : Int} {data : String}
    (h : parseNumber minNumber maxNumber data = some x) : minNumber ≤ x ∧ x ≤ maxNumber := by
  unfold parseNumber at h
  split at h
  · cases h
  · split at h
    · cases h
    · split at h
      · cases h
      · next hout =>
        cases h
        omega

/-- `FilterMAD` は `parseReveals` の data の列に中央絶対偏差の判定を掛ける。 -/
theorem ApplyFilter_mad (k : Keeper) (sigmaMultiplier : Nat) (dataPath : Bytes) (rf : UInt16)
    (minNumber maxNumber : Int) (reveals : List Reveal) :
    (TallyFilter.mad sigmaMultiplier dataPath rf minNumber maxNumber).ApplyFilter k reveals
        (reveals.map fun r => r.ExitCode != 0) =
      detectOutliersBigInt (reveals.map fun r => (revealData k dataPath r).getD "") sigmaMultiplier
        (reveals.map fun r => (revealData k dataPath r).isNone) rf minNumber maxNumber := by
  simp only [TallyFilter.ApplyFilter, parseReveals, List.map_map, markErrors_exitCode]
  rfl

/-! ## 外れ値でない reveal -/

/--
filter の種類ごとに、外れ値でない reveal について言えること。`o` は外れ値の印、`e` は誤りの印で、
どちらも reveal ごとに決まる。
-/
def FilterSound (k : Keeper) (reveals : List Reveal) (o e : Reveal → Bool) : TallyFilter → Prop
  | .none => ∀ r ∈ reveals, o r = false
  | .mode dataPath rf =>
    2 * rf.toNat ≤ 3 * (reveals.map o).count false ∧
      ∃ m, ∀ r ∈ reveals, o r = false →
        (e r = false → revealData k dataPath r = some m) ∧
        (e r = true → m = "" ∧ ∃ r' ∈ reveals, revealData k dataPath r' = some "")
  | .mad sigmaMultiplier dataPath rf minNumber maxNumber =>
    let V := reveals.filterMap fun r =>
      parseNumber minNumber maxNumber ((revealData k dataPath r).getD "")
    let median := getMedian V
    let maxDev := (sigmaMultiplier : ℚ) / 10 ^ 6 *
      getMedianRat (V.map fun (v : Int) => |(v : ℚ) - median|)
    2 * rf.toNat ≤ 3 * (reveals.map o).count false ∧
      ∀ r ∈ reveals, o r = false → e r = false ∧ ∃ x,
        parseNumber minNumber maxNumber ((revealData k dataPath r).getD "") = some x ∧
        minNumber ≤ x ∧ x ≤ maxNumber ∧ |(x : ℚ) - median| ≤ maxDev

/--
**filter が data の合意を言えば、外れ値でない reveal は `FilterSound` を満たす。** `FilterMode` では
reveal が replication factor を超えないとする。
-/
theorem ApplyFilter_sound (k : Keeper) (f : TallyFilter) (reveals : List Reveal)
    (hlen : ∀ dataPath rf, f = .mode dataPath rf → reveals.length ≤ rf.toNat)
    (hcons : (f.ApplyFilter k reveals (reveals.map fun r => r.ExitCode != 0)).2.1 = true) :
    ∃ o e, (f.ApplyFilter k reveals (reveals.map fun r => r.ExitCode != 0)).1 = reveals.map o ∧
      (f.ApplyFilter k reveals (reveals.map fun r => r.ExitCode != 0)).2.2 = reveals.map e ∧
      FilterSound k reveals o e f := by
  cases f with
  | none =>
    refine ⟨fun _ => false, fun r => r.ExitCode != 0, ?_, rfl, fun _ _ => rfl⟩
    simp [TallyFilter.ApplyFilter]
  | mode dataPath rf =>
    rw [ApplyFilter_mode] at hcons ⊢
    refine ⟨_, _, rfl, rfl, ?_⟩
    simp only [Bool.not_eq_true', decide_eq_false_iff_not] at hcons
    exact mode_nonOutliers k dataPath (tallied_parseReveals k reveals dataPath _)
      (hlen dataPath rf rfl) hcons
  | mad sigmaMultiplier dataPath rf minNumber maxNumber =>
    rw [ApplyFilter_mad] at hcons ⊢
    -- 合意があれば読めた数は空でないので、結果は主張の基準に等しい
    have hV : (reveals.map fun r => (revealData k dataPath r).getD "").filterMap
        (parseNumber minNumber maxNumber) ≠ [] := by
      intro hV
      have hnums : ((reveals.map fun r => (revealData k dataPath r).getD "").map
          (parseNumber minNumber maxNumber)).filterMap id = [] := by
        simpa [List.filterMap_map] using hV
      unfold detectOutliersBigInt at hcons
      dsimp only at hcons
      rw [if_pos hnums] at hcons
      cases hcons
    rw [detectOutliersBigInt_eq_madReference _ _ _ _ _ _ hV] at hcons ⊢
    have hVeq : (reveals.filterMap fun r =>
          parseNumber minNumber maxNumber ((revealData k dataPath r).getD "")) =
        (reveals.map fun r => (revealData k dataPath r).getD "").filterMap
          (parseNumber minNumber maxNumber) := by
      rw [List.filterMap_map]
      rfl
    simp only [madReference, decide_eq_true_eq] at hcons ⊢
    refine ⟨_, fun r => (parseNumber minNumber maxNumber ((revealData k dataPath r).getD "")).isNone,
      List.map_map, ?_, ?_⟩
    · -- data の無い reveal は空文字列になり、数としても読めない
      rw [List.map_map, markErrors_map]
      refine List.map_congr_left fun r _ => ?_
      cases h : revealData k dataPath r <;> simp [h]
    · simp only [FilterSound, hVeq]
      refine ⟨by rw [← List.map_map]; omega, fun r _ hout => ?_⟩
      simp only [Function.comp, madOutlier] at hout
      cases hx : parseNumber minNumber maxNumber ((revealData k dataPath r).getD "") with
      | none => simp [hx] at hout
      | some x =>
        simp only [hx, decide_eq_false_iff_not, not_lt] at hout
        exact ⟨by simp, x, rfl, (parseNumber_bounds hx).1, (parseNumber_bounds hx).2, hout⟩

/-! ## `ExecuteFilter` の二つの結末 -/

/-- 誤り無しで終わるのは、filter が作れ、基本合意と data の合意があるときである。 -/
theorem ExecuteFilter_of_none {k : Keeper} {reveals : List Reveal} {filterInput : String}
    {rf : UInt16} {params : Params} {g : GasMeter}
    (h : (ExecuteFilter k reveals filterInput rf params g).1.2 = none) :
    ∃ filter, (BuildFilter filterInput rf params g).2 = .ok filter ∧
      ¬(BasicConsensus.ofReveals reveals).maxFreq * 3 < rf.toNat * 2 ∧
      (filter.ApplyFilter k reveals (reveals.map fun r => r.ExitCode != 0)).2.1 = true ∧
      (ExecuteFilter k reveals filterInput rf params g).1.1.Consensus = true ∧
      (ExecuteFilter k reveals filterInput rf params g).1.1.Outliers =
        some (filter.ApplyFilter k reveals (reveals.map fun r => r.ExitCode != 0)).1 ∧
      (ExecuteFilter k reveals filterInput rf params g).1.1.Errors =
        (filter.ApplyFilter k reveals (reveals.map fun r => r.ExitCode != 0)).2.2 := by
  unfold ExecuteFilter at h ⊢
  dsimp only at h ⊢
  rw [← BasicConsensus.ofReveals] at h ⊢
  by_cases hbasic : (BasicConsensus.ofReveals reveals).maxFreq * 3 < rf.toNat * 2
  · rw [if_pos hbasic] at h
    cases h
  · rw [if_neg hbasic] at h ⊢
    rcases hb : BuildFilter filterInput rf params g with ⟨g', _ | filter⟩
    · rw [hb] at h
      cases h
    · rw [hb] at h
      dsimp only at h ⊢
      -- 誤りの合意でも data の合意が無いのでもない
      split at h
      · cases h
      · next herr =>
        rw [if_neg herr]
        split at h
        · cases h
        · next hcons =>
          rw [if_neg hcons]
          refine ⟨filter, rfl, hbasic, by simpa using hcons, rfl, rfl, rfl⟩

/-- 誤りの合意で終わるのは、reveal の 2/3 以上が誤りのときで、外れ値の印は誤りの印の否定である。 -/
theorem ExecuteFilter_of_consensusInError {k : Keeper} {reveals : List Reveal}
    {filterInput : String} {rf : UInt16} {params : Params} {g : GasMeter}
    (h : (ExecuteFilter k reveals filterInput rf params g).1.2 = some .consensusInError) :
    (ExecuteFilter k reveals filterInput rf params g).1.1.Consensus = true ∧
      reveals.length * 2 ≤ countErrors (ExecuteFilter k reveals filterInput rf params g).1.1.Errors * 3 ∧
      (ExecuteFilter k reveals filterInput rf params g).1.1.Outliers =
        some (invertErrors (ExecuteFilter k reveals filterInput rf params g).1.1.Errors) := by
  unfold ExecuteFilter at h ⊢
  dsimp only at h ⊢
  rw [← BasicConsensus.ofReveals] at h ⊢
  by_cases hbasic : (BasicConsensus.ofReveals reveals).maxFreq * 3 < rf.toNat * 2
  · rw [if_pos hbasic] at h
    cases h
  · rw [if_neg hbasic] at h ⊢
    rcases hb : BuildFilter filterInput rf params g with ⟨g', _ | filter⟩
    · rw [hb] at h
      cases h
    · rw [hb] at h
      dsimp only at h ⊢
      split at h
      · next herr =>
        rw [if_pos herr]
        exact ⟨rfl, herr, rfl⟩
      · split at h
        · cases h
        · cases h

/-! ## 作った filter の replication factor -/

theorem NewFilterNone_ok {c : UInt64} {g : GasMeter} {f : TallyFilter}
    (h : (NewFilterNone c g).2 = .ok f) : f = .none := by
  unfold NewFilterNone at h
  dsimp only at h
  split at h
  · cases h
  · cases h
    rfl

theorem NewFilterMode_ok {input : Bytes} {c : UInt64} {rf : UInt16} {g : GasMeter}
    {f : TallyFilter} (h : (NewFilterMode input c rf g).2 = .ok f) : ∃ dataPath, f = .mode dataPath rf := by
  unfold NewFilterMode at h
  dsimp only at h
  split_ifs at h
  cases hp : readDataPath (input.extract 1 9) (input.drop 9) with
  | error e => rw [hp] at h; cases h
  | ok path => rw [hp] at h; cases h; exact ⟨path, rfl⟩

theorem NewFilterMAD_ok {input : Bytes} {c : UInt64} {rf : UInt16} {g : GasMeter}
    {f : TallyFilter} (h : (NewFilterMAD input c rf g).2 = .ok f) :
    ∃ sigmaMultiplier dataPath minNumber maxNumber,
      f = .mad sigmaMultiplier dataPath rf minNumber maxNumber := by
  unfold NewFilterMAD at h
  dsimp only at h
  split_ifs at h
  split at h
  · cases h
  · next minNumber maxNumber _ =>
    cases hp : readDataPath (input.extract 10 18) (input.drop 18) with
    | error e => rw [hp] at h; cases h
    | ok path => rw [hp] at h; cases h; exact ⟨_, path, minNumber, maxNumber, rfl⟩

/-- `BuildFilter` の作る `FilterMode` と `FilterMAD` は、渡した replication factor を持つ。 -/
theorem BuildFilter_replicationFactor {filterInput : String} {rf : UInt16} {params : Params}
    {g : GasMeter} {f : TallyFilter} (h : (BuildFilter filterInput rf params g).2 = .ok f) :
    (∀ dataPath rf', f = .mode dataPath rf' → rf' = rf) ∧
      (∀ sigmaMultiplier dataPath rf' minNumber maxNumber,
        f = .mad sigmaMultiplier dataPath rf' minNumber maxNumber → rf' = rf) := by
  unfold BuildFilter at h
  split at h
  · cases h
  · cases h
  · split_ifs at h
    · obtain rfl := NewFilterNone_ok h
      exact ⟨(fun _ _ h => nomatch h), (fun _ _ _ _ _ h => nomatch h)⟩
    · obtain ⟨dataPath, rfl⟩ := NewFilterMode_ok h
      refine ⟨fun _ _ h => ?_, (fun _ _ _ _ _ h => nomatch h)⟩
      cases h
      rfl
    · obtain ⟨sigmaMultiplier, dataPath, minNumber, maxNumber, rfl⟩ := NewFilterMAD_ok h
      refine ⟨(fun _ _ h => nomatch h), fun _ _ _ _ _ h => ?_⟩
      cases h
      rfl

/-! ## 主定理 -/

/--
**filter の結果は健全である。** reveal が replication factor を超えなければ、`ExecuteFilter` が
誤り無しで終わるとき、合意があり、外れ値の印は reveal ごとに一つあり、外れ値でない reveal は
replication factor の 2/3 以上で、作った filter の種類ごとに `FilterSound` を満たす。誤りの合意で
終わるとき、reveal の 2/3 以上が誤りで、外れ値の印は誤りの印の否定である。
-/
theorem ExecuteFilter_sound (k : Keeper) (reveals : List Reveal) (filterInput : String)
    (rf : UInt16) (params : Params) (g : GasMeter) (hlen : reveals.length ≤ rf.toNat) :
    ((ExecuteFilter k reveals filterInput rf params g).1.2 = none →
      (ExecuteFilter k reveals filterInput rf params g).1.1.Consensus = true ∧
      ∃ filter o e, (BuildFilter filterInput rf params g).2 = .ok filter ∧
        (ExecuteFilter k reveals filterInput rf params g).1.1.Outliers = some (reveals.map o) ∧
        (ExecuteFilter k reveals filterInput rf params g).1.1.Errors = reveals.map e ∧
        2 * rf.toNat ≤ 3 * (reveals.map o).count false ∧
        FilterSound k reveals o e filter) ∧
    ((ExecuteFilter k reveals filterInput rf params g).1.2 = some .consensusInError →
      (ExecuteFilter k reveals filterInput rf params g).1.1.Consensus = true ∧
      reveals.length * 2 ≤ countErrors (ExecuteFilter k reveals filterInput rf params g).1.1.Errors * 3 ∧
      (ExecuteFilter k reveals filterInput rf params g).1.1.Outliers =
        some (invertErrors (ExecuteFilter k reveals filterInput rf params g).1.1.Errors)) := by
  refine ⟨fun h => ?_, ExecuteFilter_of_consensusInError⟩
  obtain ⟨filter, hb, hbasic, hcons, hconsensus, houtliers, herrors⟩ := ExecuteFilter_of_none h
  obtain ⟨hmode, hmad⟩ := BuildFilter_replicationFactor hb
  obtain ⟨o, e, ho, he, hsound⟩ := ApplyFilter_sound k filter reveals
    (fun dataPath rf' hf => (hmode dataPath rf' hf) ▸ hlen) hcons
  refine ⟨hconsensus, filter, o, e, hb, by rw [houtliers, ho], by rw [herrors, he], ?_, hsound⟩
  -- 外れ値でない reveal の数：`FilterNone` では基本合意から、他では filter の合意から
  cases filter with
  | none =>
    have hall : (reveals.map o).count false = reveals.length := by
      rw [count_false_map, List.countP_eq_length]
      exact fun r hr => by simpa using hsound r hr
    have hle := (counted_ofReveals reveals).maxFreq_le_length
    omega
  | mode dataPath rf' =>
    obtain rfl := hmode dataPath rf' rfl
    exact hsound.1
  | mad sigmaMultiplier dataPath rf' minNumber maxNumber =>
    obtain rfl := hmad sigmaMultiplier dataPath rf' minNumber maxNumber rfl
    exact hsound.1

/--
成功した二つと exit code 1 の一つの reveal を、十分な tally gas で `FilterNone` に通すと、filter は
誤り無しで終わり、`ExecuteFilter_sound` の最初の結論が成り立つ。
-/
theorem ExecuteFilter_sound_three :
    [keyReveal ["k"], keyReveal ["k"], { keyReveal ["k"] with ExitCode := 1 }].length ≤ (3 : UInt16).toNat ∧
      (ExecuteFilter Keeper.offline
        [keyReveal ["k"], keyReveal ["k"], { keyReveal ["k"] with ExitCode := 1 }] "AA==" 3
        DefaultParams (NewGasMeter 1000000 0 1000000 1 0)).1.2 = none ∧
      (ExecuteFilter Keeper.offline
        [keyReveal ["k"], keyReveal ["k"], { keyReveal ["k"] with ExitCode := 1 }] "AA==" 3
        DefaultParams (NewGasMeter 1000000 0 1000000 1 0)).1.1.Consensus = true ∧
      ∃ filter o e, (BuildFilter "AA==" 3 DefaultParams (NewGasMeter 1000000 0 1000000 1 0)).2 = .ok filter ∧
        (ExecuteFilter Keeper.offline
          [keyReveal ["k"], keyReveal ["k"], { keyReveal ["k"] with ExitCode := 1 }] "AA==" 3
          DefaultParams (NewGasMeter 1000000 0 1000000 1 0)).1.1.Outliers =
          some ([keyReveal ["k"], keyReveal ["k"], { keyReveal ["k"] with ExitCode := 1 }].map o) ∧
        (ExecuteFilter Keeper.offline
          [keyReveal ["k"], keyReveal ["k"], { keyReveal ["k"] with ExitCode := 1 }] "AA==" 3
          DefaultParams (NewGasMeter 1000000 0 1000000 1 0)).1.1.Errors =
          [keyReveal ["k"], keyReveal ["k"], { keyReveal ["k"] with ExitCode := 1 }].map e ∧
        2 * (3 : UInt16).toNat ≤
          3 * ([keyReveal ["k"], keyReveal ["k"], { keyReveal ["k"] with ExitCode := 1 }].map o).count false ∧
        FilterSound Keeper.offline
          [keyReveal ["k"], keyReveal ["k"], { keyReveal ["k"] with ExitCode := 1 }] o e filter := by
  have hnone : (ExecuteFilter Keeper.offline
      [keyReveal ["k"], keyReveal ["k"], { keyReveal ["k"] with ExitCode := 1 }] "AA==" 3
      DefaultParams (NewGasMeter 1000000 0 1000000 1 0)).1.2 = none := by
    decide
  exact ⟨by decide, hnone, (ExecuteFilter_sound Keeper.offline
    [keyReveal ["k"], keyReveal ["k"], { keyReveal ["k"] with ExitCode := 1 }] "AA==" 3 DefaultParams
    (NewGasMeter 1000000 0 1000000 1 0) (by decide)).1 hnone⟩

/--
**`FilterNone` は誤りの reveal も外れ値にしない。** 成功した二つと exit code 1 の一つで基本合意が
成り立ち、誤りは 1/3 で 2/3 に届かないので、`ExecuteFilter` は誤り無しで終わり、三つ目の誤りの
reveal も外れ値でないと印される。
-/
theorem ExecuteFilter_none_keeps_errors :
    (ExecuteFilter Keeper.offline
        [keyReveal ["k"], keyReveal ["k"], { keyReveal ["k"] with ExitCode := 1 }] "AA==" 3
        DefaultParams (NewGasMeter 1000000 0 1000000 1 0)).1.2 = none ∧
      (ExecuteFilter Keeper.offline
        [keyReveal ["k"], keyReveal ["k"], { keyReveal ["k"] with ExitCode := 1 }] "AA==" 3
        DefaultParams (NewGasMeter 1000000 0 1000000 1 0)).1.1.Outliers = some [false, false, false] ∧
      (ExecuteFilter Keeper.offline
        [keyReveal ["k"], keyReveal ["k"], { keyReveal ["k"] with ExitCode := 1 }] "AA==" 3
        DefaultParams (NewGasMeter 1000000 0 1000000 1 0)).1.1.Errors = [false, false, true] := by
  decide

end SedaChain.Tally
