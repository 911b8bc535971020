import SedaChain.Tally.Request

/-!
# filter（`filter_exec.go`、`filters.go`、`filters_util.go`、`sigma_multiplier.go`）

`ExecuteFilter` は整列済みの reveal について三段で判定する。

1. 基本合意：`(exit_code_success, proxy_pub_keys)` の組が replication factor の 2/3 以上で一致するか
2. filter の構築（`BuildFilter`）：要求の filter 入力を base64 として読み、種類ごとに tally gas を払う
3. filter の適用：外れ値の印と、data についての合意

この module の結果は次のとおり。

* `ExecuteFilter_meter` — filter は gas meter の tally gas しか動かさない
* `ExecuteFilter_error_ne_filterDidNotRun` — filter は「走らなかった」とは言わない

filter の誤りの印（`errors`）は Go では `ApplyFilter` の中で書き換えられ、その書き換えた後の
印で「誤りの合意」が判定される。ここでも `ApplyFilter` は書き換えた印を返す。
-/

namespace SedaChain.Tally

open Infra Infra.Go SedaChain.Batching

/-! ## reveal の data（`parseReveals`） -/

/-- `dataAttributes`。data ごとの数と、最も多い data の数。 -/
structure DataAttributes where
  freqMap : KeyMap String Nat
  maxFreq : Nat

/-- 数え上げに data を一つ足す（`freq[data]++` と `maxFreq = max(freq[data], maxFreq)`）。 -/
def DataAttributes.add (a : DataAttributes) (data : String) : DataAttributes :=
  let m := a.freqMap.incr data
  { freqMap := m, maxFreq := max ((m.get? data).getD 0) a.maxFreq }

/--
`parseReveals` の loop の本体。終了コードが 0 でない、base64 が読めない、JSON か path が
読めない、node が無い、のどれかなら `none`（その reveal は壊れている）。
node が複数なら文字列として最小のもの（`slices.Sort` の先頭）。
-/
def revealData (k : Keeper) (dataPath : Bytes) (r : Reveal) : Option String :=
  if r.ExitCode ≠ 0 then none
  else
    match decodeBase64 r.Reveal with
    | .error _ => none
    | .ok revealBytes =>
      match k.jsonNodes revealBytes dataPath with
      | none | some [] => none
      | some [e] => some e
      | some elems => (sortAsc elems).head?

/--
誤りの印に、値の取れなかった位置を足す（Go の `errors[i] = true`）。
二つの列は呼ぶ側で同じ長さに作られる。
-/
def markErrors {α : Type} : List Bool → List (Option α) → List Bool
  | e :: es, d :: ds => (e || d.isNone) :: markErrors es ds
  | es, _ => es

@[simp] theorem length_markErrors {α : Type} :
    ∀ (es : List Bool) (ds : List (Option α)), (markErrors es ds).length = es.length
  | _ :: es, _ :: ds => by simp [markErrors, length_markErrors es ds]
  | [], _ => by simp [markErrors]
  | _ :: _, [] => by simp [markErrors]

/--
`parseReveals`。data の列（壊れた reveal の位置は空文字列）、その数え上げ、
書き換えた誤りの印を返す。
-/
def parseReveals (k : Keeper) (reveals : List Reveal) (dataPath : Bytes) (errors : List Bool) :
    List String × DataAttributes × List Bool :=
  let datas := reveals.map (revealData k dataPath)
  (datas.map (·.getD ""),
   datas.foldl (fun a d => match d with
     | some data => a.add data
     | none => a) ⟨KeyMap.empty, 0⟩,
   markErrors errors datas)

/-! ## filter の種類 -/

/-- Go の interface `Filter` の値。三つの型 `FilterNone`、`FilterMode`、`FilterMAD` のどれか。 -/
inductive TallyFilter where
  /-- `FilterNone`。どの reveal も外れ値にしない。 -/
  | none
  /-- `FilterMode`。最頻の data と違うものを外れ値にする。 -/
  | mode (dataPath : Bytes) (replicationFactor : UInt16)
  /-- `FilterMAD`。中央値からの距離が中央絶対偏差の `sigmaMultiplier / 10^6` 倍を超えるものを外れ値にする。 -/
  | mad (sigmaMultiplier : Nat) (dataPath : Bytes) (replicationFactor : UInt16)
      (minNumber maxNumber : Int)
deriving DecidableEq

/-- `ErrOutOfTallyGas` の文言。 -/
def outOfTallyGas : String := "out of tally gas"

/-- `ErrInvalidFilterType` の文言。 -/
def invalidFilterType : String := "invalid filter type"

/-- `NewFilterNone`。固定の tally gas を払う。 -/
def NewFilterNone (gasCost : UInt64) (g : GasMeter) : GasMeter × Except String TallyFilter :=
  let charged := g.ConsumeTallyGas gasCost.toNat
  if charged.1 then (charged.2, .error outOfTallyGas) else (charged.2, .ok .none)

/--
長さ 8 byte の big-endian と、それに続く path。長さが合わなければ `ErrInvalidPathLen`。
Go は長さを `int` に直して比べ、その値を文言に書く。
-/
def readDataPath (lenBytes path : Bytes) : Except String Bytes :=
  let pathLen := getUintBE lenBytes
  if (path.length : Int) ≠ uint64ToInt pathLen then
    .error s!"expected: {uint64ToInt pathLen} got: {path.length}: invalid JSON path length"
  else .ok path

/--
`NewFilterMode`。入力は `filter_type(1) ‖ data_path_length(8) ‖ data_path`。
tally gas は `gasCostMultiplier * replicationFactor`（`uint64` の積）を先に払う。
-/
def NewFilterMode (input : Bytes) (gasCostMultiplier : UInt64) (replicationFactor : UInt16)
    (g : GasMeter) : GasMeter × Except String TallyFilter :=
  let charged := g.ConsumeTallyGas (mulU64 gasCostMultiplier.toNat replicationFactor.toNat)
  if charged.1 then (charged.2, .error outOfTallyGas)
  else if input.length < 9 then
    (charged.2, .error s!"{input.length} < 9: filter input length too short")
  else
    (charged.2, (readDataPath (input.extract 1 9) (input.drop 9)).map fun path =>
      .mode path replicationFactor)

/-- 数の型（`NewFilterMAD` の `input[9]`）ごとの最小値と最大値。 -/
def numberBounds (numberType : UInt8) : Option (Int × Int) :=
  match numberType.toNat with
  | 0 => some (-2 ^ 31, 2 ^ 31 - 1)
  | 1 => some (0, 2 ^ 32 - 1)
  | 2 => some (-2 ^ 63, 2 ^ 63 - 1)
  | 3 => some (0, 2 ^ 64 - 1)
  | 4 => some (-2 ^ 127, 2 ^ 127 - 1)
  | 5 => some (0, 2 ^ 128 - 1)
  | 6 => some (-2 ^ 255, 2 ^ 255 - 1)
  | 7 => some (0, 2 ^ 256 - 1)
  | _ => none

/--
`NewFilterMAD`。入力は `filter_type(1) ‖ max_sigma(8) ‖ number_type(1) ‖ json_path_length(8) ‖
json_path`。8 byte の `max_sigma` は `NewSigmaMultiplier` で必ず読める。
-/
def NewFilterMAD (input : Bytes) (gasCostMultiplier : UInt64) (replicationFactor : UInt16)
    (g : GasMeter) : GasMeter × Except String TallyFilter :=
  let charged := g.ConsumeTallyGas (mulU64 gasCostMultiplier.toNat replicationFactor.toNat)
  if charged.1 then (charged.2, .error outOfTallyGas)
  else if input.length < 18 then
    (charged.2, .error s!"{input.length} < 18: filter input length too short")
  else
    let sigmaMultiplier := getUintBE (input.extract 1 9)
    match numberBounds (input.getD 9 0) with
    | none => (charged.2, .error "invalid number type specified")
    | some (minNumber, maxNumber) =>
      (charged.2, (readDataPath (input.extract 10 18) (input.drop 18)).map fun path =>
        .mad sigmaMultiplier path replicationFactor minNumber maxNumber)

/-- `BuildFilter`。filter 入力を base64 として読み、先頭の byte で種類を選ぶ。 -/
def BuildFilter (filterInput : String) (replicationFactor : UInt16) (params : Params)
    (g : GasMeter) : GasMeter × Except String TallyFilter :=
  match decodeBase64 filterInput with
  | .error e => (g, .error e)
  | .ok [] => (g, .error invalidFilterType)
  | .ok (t :: rest) =>
    if t = 0 then NewFilterNone params.FilterGasCostNone g
    else if t = 1 then NewFilterMode (t :: rest) params.FilterGasCostMultiplierMode replicationFactor g
    else if t = 2 then NewFilterMAD (t :: rest) params.FilterGasCostMultiplierMAD replicationFactor g
    else (g, .error invalidFilterType)

/-! ## 中央絶対偏差（`detectOutliersBigInt`） -/

/-- data を数として読む。空、10 進でない、型の範囲の外なら `none`（壊れている）。 -/
def parseNumber (minNumber maxNumber : Int) (data : String) : Option Int :=
  if data = "" then none
  else
    match setString10 data with
    | none => none
    | some num => if num < minNumber ∨ num > maxNumber then none else some num

/-- `getMedian`。偶数個なら中央の二つの平均（有理数）。 -/
def getMedian (nums : List Int) : ℚ :=
  let s := sortAsc nums
  let l := s.length
  if l % 2 = 0 then ((s.getD (l / 2 - 1) 0 + s.getD (l / 2) 0 : Int) : ℚ) / 2
  else s.getD (l / 2) 0

/-- `getMedianRat`。 -/
def getMedianRat (nums : List ℚ) : ℚ :=
  let s := sortAsc nums
  let l := s.length
  if l % 2 = 0 then (s.getD (l / 2 - 1) 0 + s.getD (l / 2) 0) / 2 else s.getD (l / 2) 0

/-- `isWithinMaxDev`。中央値からの距離が `maxDev` 以下か。 -/
def isWithinMaxDev (num : Int) (median maxDev : ℚ) : Bool :=
  decide (|(num : ℚ) - median| ≤ maxDev)

/--
`detectOutliersBigInt`。壊れた data は外れ値で、誤りの印も立てる。残りの数について
中央値と中央絶対偏差を求め、距離が `sigmaMultiplier / 10^6` 倍を超えるものを外れ値にする。
Go は壊れた位置の queue と `nums` の添字を並行に進めるが、それは壊れていない位置を
順に `nums` の要素に対応させることに等しい。
-/
def detectOutliersBigInt (dataList : List String) (sigmaMultiplier : Nat) (errors : List Bool)
    (replicationFactor : UInt16) (minNumber maxNumber : Int) : List Bool × Bool × List Bool :=
  let parsed := dataList.map (parseNumber minNumber maxNumber)
  let errors := markErrors errors parsed
  let nums := parsed.filterMap id
  if nums = [] then (List.replicate dataList.length false, false, errors)
  else
    let median := getMedian nums
    let mad := getMedianRat (nums.map fun (n : Int) => |(n : ℚ) - median|)
    let maxDev := (sigmaMultiplier : ℚ) / 10 ^ 6 * mad
    let outliers := parsed.map fun p => match p with
      | none => true
      | some num => !isWithinMaxDev num median maxDev
    let nonOutlierCount := (nums.filter fun n => isWithinMaxDev n median maxDev).length
    if nonOutlierCount * 3 < replicationFactor.toNat * 2 then (outliers, false, errors)
    else (outliers, true, errors)

/-! ## filter の適用 -/

/-- `ApplyFilter`。外れ値の印、data の合意、書き換えた誤りの印を返す。 -/
def TallyFilter.ApplyFilter (k : Keeper) (f : TallyFilter) (reveals : List Reveal)
    (errors : List Bool) : List Bool × Bool × List Bool :=
  match f with
  | .none => (List.replicate reveals.length false, true, errors)
  | .mode dataPath replicationFactor =>
    let (dataList, dataAttrs, errors) := parseReveals k reveals dataPath errors
    let outliers := dataList.map fun r => (dataAttrs.freqMap.get? r).getD 0 != dataAttrs.maxFreq
    (outliers, !(dataAttrs.maxFreq * 3 < replicationFactor.toNat * 2), errors)
  | .mad sigmaMultiplier dataPath replicationFactor minNumber maxNumber =>
    let (dataList, _, errors) := parseReveals k reveals dataPath errors
    detectOutliersBigInt dataList sigmaMultiplier errors replicationFactor minNumber maxNumber

/-! ## `ExecuteFilter` -/

/-- 基本合意の組の表記（`fmt.Sprintf("%v%v", success, reveal.ProxyPubKeys)`）。 -/
def basicConsensusTuple (success : Bool) (proxyPubKeys : List String) : String :=
  toString success ++ fmtStrings proxyPubKeys

example : basicConsensusTuple true ["a b", "c"] = basicConsensusTuple true ["a", "b c"] := by decide

/-- 基本合意の数え上げ。最初に最大の数に達した組の proxy の公開鍵を覚える。 -/
structure BasicConsensus where
  freq : KeyMap String Nat
  maxFreq : Nat
  ProxyPubKeys : List String

/-- 数え上げに reveal を一つ足す（`ExecuteFilter` の最初の loop の本体）。 -/
def BasicConsensus.add (c : BasicConsensus) (r : Reveal) : BasicConsensus :=
  let tuple := basicConsensusTuple (r.ExitCode = 0) r.ProxyPubKeys
  let freq := c.freq.incr tuple
  let n := (freq.get? tuple).getD 0
  if n > c.maxFreq then { freq := freq, maxFreq := n, ProxyPubKeys := r.ProxyPubKeys }
  else { c with freq := freq }

/-- 空の数え上げ。 -/
def BasicConsensus.empty : BasicConsensus := ⟨KeyMap.empty, 0, []⟩

/-- `countErrors`。 -/
def countErrors (errors : List Bool) : Nat := errors.count true

/-- `invertErrors`。 -/
def invertErrors (errors : List Bool) : List Bool := errors.map (!·)

/--
`ExecuteFilter`。filter の結果と filter の誤りと、tally gas を払った後の gas meter を返す。
基本合意が無い、filter が作れない、誤りの合意（2/3 以上が誤り）、data の合意が無い、の順に判定する。
-/
def ExecuteFilter (k : Keeper) (reveals : List Reveal) (filterInput : String)
    (replicationFactor : UInt16) (params : Params) (g : GasMeter) :
    (FilterResult × Option FilterError) × GasMeter :=
  let errors := reveals.map fun r => r.ExitCode != 0
  let basic := reveals.foldl BasicConsensus.add BasicConsensus.empty
  let res : FilterResult := { FilterResult.zero with
    Errors := errors, ProxyPubKeys := basic.ProxyPubKeys }
  if basic.maxFreq * 3 < replicationFactor.toNat * 2 then
    (({ res with Consensus := false, Outliers := none }, some .noBasicConsensus), g)
  else
    match BuildFilter filterInput replicationFactor params g with
    | (g, .error e) => (({ res with Consensus := false, Outliers := none }, some (.invalidFilterInput e)), g)
    | (g, .ok filter) =>
      let (outliers, consensus, errors) := filter.ApplyFilter k reveals errors
      let res := { res with Errors := errors }
      if countErrors errors * 3 ≥ reveals.length * 2 then
        (({ res with Consensus := true, Outliers := some (invertErrors errors) }, some .consensusInError), g)
      else if !consensus then
        (({ res with Consensus := false, Outliers := none }, some .noConsensus), g)
      else (({ res with Consensus := true, Outliers := some outliers }, none), g)

/-! ## filter は tally gas しか動かさない -/

/-- `g'` は `g` から tally gas を払っただけのものである。 -/
def GasMeter.TallyCharged (g g' : GasMeter) : Prop :=
  g' = g ∨ ∃ a, g' = (g.ConsumeTallyGas a).2

theorem GasMeter.TallyCharged.refl (g : GasMeter) : g.TallyCharged g := .inl rfl

theorem GasMeter.TallyCharged.consume (g : GasMeter) (a : Nat) :
    g.TallyCharged (g.ConsumeTallyGas a).2 := .inr ⟨a, rfl⟩

theorem NewFilterNone_meter (c : UInt64) (g : GasMeter) :
    (NewFilterNone c g).1 = (g.ConsumeTallyGas c.toNat).2 := by
  unfold NewFilterNone
  dsimp only
  split <;> rfl

theorem NewFilterMode_meter (input : Bytes) (c : UInt64) (rf : UInt16) (g : GasMeter) :
    (NewFilterMode input c rf g).1 = (g.ConsumeTallyGas (mulU64 c.toNat rf.toNat)).2 := by
  unfold NewFilterMode
  dsimp only
  split_ifs <;> rfl

theorem NewFilterMAD_meter (input : Bytes) (c : UInt64) (rf : UInt16) (g : GasMeter) :
    (NewFilterMAD input c rf g).1 = (g.ConsumeTallyGas (mulU64 c.toNat rf.toNat)).2 := by
  unfold NewFilterMAD
  dsimp only
  split_ifs
  · rfl
  · rfl
  · split <;> rfl

theorem BuildFilter_meter (filterInput : String) (rf : UInt16) (params : Params) (g : GasMeter) :
    g.TallyCharged (BuildFilter filterInput rf params g).1 := by
  unfold BuildFilter
  split
  · exact .refl g
  · exact .refl g
  · -- 先頭の byte による四つの場合
    split
    · rw [NewFilterNone_meter]; exact .consume g _
    · split
      · rw [NewFilterMode_meter]; exact .consume g _
      · split
        · rw [NewFilterMAD_meter]; exact .consume g _
        · exact .refl g

/-- **filter は gas meter の tally gas しか動かさない。** -/
theorem ExecuteFilter_meter (k : Keeper) (reveals : List Reveal) (filterInput : String)
    (rf : UInt16) (params : Params) (g : GasMeter) :
    g.TallyCharged (ExecuteFilter k reveals filterInput rf params g).2 := by
  unfold ExecuteFilter
  dsimp only
  split
  · exact .refl g
  · have hb := BuildFilter_meter filterInput rf params g
    split
    · next g' e heq => rw [heq] at hb; exact hb
    · next g' f heq =>
      rw [heq] at hb
      split
      · exact hb
      · split <;> exact hb

/--
filter の構築で払う tally gas。filter 入力が base64 として読め、先頭の byte が既知の種類のとき、
その constructor が入力を検査する **前に** 払う額である。`FilterMode` と `FilterMAD` では入力が
短すぎても払う。
-/
def filterCharge (filterInput : String) (replicationFactor : UInt16) (params : Params) : Nat :=
  match decodeBase64 filterInput with
  | .ok (t :: _) =>
    if t = 0 then params.FilterGasCostNone.toNat
    else if t = 1 then mulU64 params.FilterGasCostMultiplierMode.toNat replicationFactor.toNat
    else if t = 2 then mulU64 params.FilterGasCostMultiplierMAD.toNat replicationFactor.toNat
    else 0
  | _ => 0

/-- `BuildFilter` は `filterCharge` だけ tally gas を払う（足りなければ残りを 0 にする）。 -/
theorem BuildFilter_meter_eq (filterInput : String) (rf : UInt16) (params : Params)
    (g : GasMeter) :
    (BuildFilter filterInput rf params g).1 = (g.ConsumeTallyGas (filterCharge filterInput rf params)).2 := by
  unfold BuildFilter filterCharge
  split
  · next e he => rw [he, GasMeter.consumeTallyGas_zero]
  · next he => rw [he, GasMeter.consumeTallyGas_zero]
  · next t rest he =>
    simp only [he]
    split
    · rw [NewFilterNone_meter]
    · split
      · rw [NewFilterMode_meter]
      · split
        · rw [NewFilterMAD_meter]
        · rw [GasMeter.consumeTallyGas_zero]

/--
**filter は、基本合意があれば filter の構築の料金だけを払い、無ければ何も払わない。**
-/
theorem ExecuteFilter_meter_eq (k : Keeper) (reveals : List Reveal) (filterInput : String)
    (rf : UInt16) (params : Params) (g : GasMeter) :
    (ExecuteFilter k reveals filterInput rf params g).2 =
      if (ExecuteFilter k reveals filterInput rf params g).1.2 = some .noBasicConsensus then g
      else (g.ConsumeTallyGas (filterCharge filterInput rf params)).2 := by
  unfold ExecuteFilter
  dsimp only
  split
  · simp
  · have hb := BuildFilter_meter_eq filterInput rf params g
    split
    · next g' e heq => rw [heq] at hb; simpa using hb
    · next g' f heq =>
      rw [heq] at hb
      split
      · simpa using hb
      · split <;> simpa using hb

/-! ## filter の誤りと外れ値の印 -/

theorem ExecuteFilter_error_ne_filterDidNotRun (k : Keeper) (reveals : List Reveal)
    (filterInput : String) (rf : UInt16) (params : Params) (g : GasMeter) :
    (ExecuteFilter k reveals filterInput rf params g).1.2 ≠ some .filterDidNotRun := by
  unfold ExecuteFilter
  dsimp only
  split
  · simp
  · split
    · simp
    · split
      · simp
      · split <;> simp

end SedaChain.Tally
