import SedaChain.Tally.Types

/-!
# tally を待つ要求の頁ごとの取り出し（`Keeper.queryContract`）

`queryContract` は core contract に `get_data_requests_by_status` を繰り返し問い、tally を待つ
要求を一度に高々 `MaxDataRequestsPerQuery` 個ずつ集める。各回の `limit` は 50 と、block の上限
`maxTalliesPerBlock` までの残り（`uint32` で引く）の小さい方で、集めた数が上限に届くか、頁が
`limit` に満たなければ抜ける。

contract への問い合わせと答えの JSON の読み取りは、問い合わせの中身を受けて答えを返す外の
関数とする。Go の `for` に回数の上限は無いので、問い合わせの回数を燃料で数え、燃料が
尽きれば `none` とする。

* `queryLoop_isSome` — どんな contract に対しても、ループは上限までの残りと 1 回のうちに抜ける
* `queryLoop_mono` — 抜けるのに足りる燃料は、増やしても答えを変えない
* `Pages.queryLoop_eq` — 固定された列を頁に分けて答える contract では、先頭から `i` 個を集めた
  所からのループは、残りを 50 で割って切り上げた回数と 1 回のうちに、列の先頭の上限個を返す
* **`queryContract_pages`** — そのような contract への `queryContract` は
  `⌈min N maxTalliesPerBlock / 50⌉ + 1` 回のうちに抜け、列の先頭の `min N maxTalliesPerBlock` 個を
  順にそのまま返す
-/

namespace SedaChain.Tally

open Infra Infra.Go

/-! ## 問い合わせ -/

/-- `MaxDataRequestsPerQuery`。一度の問い合わせで取り出す要求の数の上限。 -/
def MaxDataRequestsPerQuery : UInt32 := 50

/-- `EmptyLastSeenIndex`。まだ何も見ていない位置の鍵は JSON の `null` である。 -/
def EmptyLastSeenIndex : String := "null"

/--
core contract への問い合わせ `get_data_requests_by_status`。Go はこれを JSON に書いて
`QuerySmart` に渡す。
-/
structure GetDataRequestsByStatus where
  status : String
  last_seen_index : String
  limit : UInt32
deriving DecidableEq, Repr

/-- `ContractListResponse`。`LastSeenIndex` は contract の鍵を JSON のまま持つ。 -/
structure ContractListResponse where
  IsPaused : Bool
  DataRequests : List Request
  LastSeenIndex : String
deriving DecidableEq

/-- 問い合わせの失敗：`QuerySmart` の誤りか、答えを `ContractListResponse` に読めなかったか。 -/
inductive QueryError where
  | query (err : String)
  | unmarshal (err : String)

/-- `QuerySmart` と `json.Unmarshal` を合わせた、core contract への問い合わせ。 -/
abbrev ContractQuerier := GetDataRequestsByStatus → Except QueryError ContractListResponse

/-- 各回の `limit`：50 と、上限 `maxTalliesPerBlock` までの残りの小さい方。引き算は `uint32` である。 -/
def pageLimit (maxTalliesPerBlock : UInt32) (collected : Nat) : UInt32 :=
  min MaxDataRequestsPerQuery (maxTalliesPerBlock - UInt32.ofNat collected)

/--
`queryContract` の `for`。燃料 `fuel` は残りの問い合わせの回数、`tallyList` は集めた要求、
`lastSeenIndex` は最後の頁の鍵である。Go の `isPaused` は最後の答えのものなので、抜けるときの
答えから読む。返す `LastSeenIndex` は Go の零値の `""` である。
-/
def queryLoop (querySmart : ContractQuerier) (maxTalliesPerBlock : UInt32) :
    Nat → List Request → String → Option (Except String ContractListResponse)
  | 0, _, _ => none
  | fuel + 1, tallyList, lastSeenIndex =>
    let limit := pageLimit maxTalliesPerBlock tallyList.length
    match querySmart ⟨"tallying", lastSeenIndex, limit⟩ with
    | .error (.query err) => some (.error s!"failed to query contract: {err}")
    | .error (.unmarshal err) =>
      some (.error s!"failed to unmarshal data requests contract response: {err}")
    | .ok res =>
      let tallyList := tallyList ++ res.DataRequests
      if maxTalliesPerBlock.toNat ≤ tallyList.length ∨ res.DataRequests.length < limit.toNat then
        some (.ok ⟨res.IsPaused, tallyList, ""⟩)
      else queryLoop querySmart maxTalliesPerBlock fuel tallyList res.LastSeenIndex

/--
`queryContract`。ループは上限と 1 回のうちに必ず抜ける（`queryLoop_isSome`）ので、燃料の
尽きる枝には届かない。
-/
def queryContract (querySmart : ContractQuerier) (maxTalliesPerBlock : UInt32) :
    Except String ContractListResponse :=
  (queryLoop querySmart maxTalliesPerBlock (maxTalliesPerBlock.toNat + 1) []
    EmptyLastSeenIndex).getD (.ok ⟨false, [], ""⟩)

/-! ## 一回の問い合わせ -/

section Loop

variable {querySmart : ContractQuerier} {maxTalliesPerBlock : UInt32}

/-- 上限を超えない数だけ集めたとき、`limit` は 50 と残りの小さい方で、`uint32` で折り返さない。 -/
theorem pageLimit_toNat {collected : Nat} (h : collected ≤ maxTalliesPerBlock.toNat) :
    (pageLimit maxTalliesPerBlock collected).toNat = min 50 (maxTalliesPerBlock.toNat - collected) := by
  have hlt : collected < 2 ^ 32 := lt_of_le_of_lt h (UInt32.toNat_lt _)
  have hofNat : (UInt32.ofNat collected).toNat = collected := UInt32.toNat_ofNat_of_lt' hlt
  have hle : UInt32.ofNat collected ≤ maxTalliesPerBlock := by
    rw [UInt32.le_iff_toNat_le, hofNat]
    exact h
  unfold pageLimit
  rw [UInt32.toNat_min, UInt32.toNat_sub_of_le _ _ hle, hofNat]
  rfl

/-- 答えを得た一回の問い合わせ：抜けるか、集めた要求と鍵を持って次へ進む。 -/
theorem queryLoop_succ_ok {fuel : Nat} {tallyList : List Request} {lastSeenIndex : String}
    {res : ContractListResponse}
    (hq : querySmart ⟨"tallying", lastSeenIndex, pageLimit maxTalliesPerBlock tallyList.length⟩ =
      .ok res) :
    queryLoop querySmart maxTalliesPerBlock (fuel + 1) tallyList lastSeenIndex =
      if maxTalliesPerBlock.toNat ≤ (tallyList ++ res.DataRequests).length ∨
          res.DataRequests.length < (pageLimit maxTalliesPerBlock tallyList.length).toNat then
        some (.ok ⟨res.IsPaused, tallyList ++ res.DataRequests, ""⟩)
      else queryLoop querySmart maxTalliesPerBlock fuel (tallyList ++ res.DataRequests)
        res.LastSeenIndex := by
  simp only [queryLoop, hq]

/--
**ループはいつも抜ける。** 上限を超えずに集めた所から、上限までの残りより多い燃料があれば
ループは抜ける。抜けずに進む回は `limit` が 1 以上で、頁が `limit` 個あるから、集めた数が
増えて上限より小さいままである。燃料についての帰納法である。
-/
theorem queryLoop_isSome {fuel : Nat} {tallyList : List Request} {lastSeenIndex : String}
    (hn : tallyList.length ≤ maxTalliesPerBlock.toNat)
    (hfuel : maxTalliesPerBlock.toNat - tallyList.length < fuel) :
    (queryLoop querySmart maxTalliesPerBlock fuel tallyList lastSeenIndex).isSome := by
  induction fuel generalizing tallyList lastSeenIndex with
  | zero => omega
  | succ fuel ih =>
    cases hq : querySmart ⟨"tallying", lastSeenIndex, pageLimit maxTalliesPerBlock tallyList.length⟩ with
    | error e => cases e <;> simp [queryLoop, hq]
    | ok res =>
      rw [queryLoop_succ_ok hq]
      split
      · rfl
      · next hcont =>
        -- 進む回：集めた数は上限より小さく、頁は `limit ≥ 1` 個ある
        have hlimit := pageLimit_toNat hn
        rw [List.length_append] at hcont
        apply ih <;> rw [List.length_append] <;> omega

/-- 抜けるのに足りる燃料は、増やしても答えを変えない。 -/
theorem queryLoop_mono {fuel fuel' : Nat} {tallyList : List Request} {lastSeenIndex : String}
    {r : Except String ContractListResponse}
    (h : queryLoop querySmart maxTalliesPerBlock fuel tallyList lastSeenIndex = some r)
    (hle : fuel ≤ fuel') :
    queryLoop querySmart maxTalliesPerBlock fuel' tallyList lastSeenIndex = some r := by
  induction fuel generalizing fuel' tallyList lastSeenIndex with
  | zero => cases h
  | succ fuel ih =>
    obtain ⟨fuel', rfl⟩ : ∃ k, fuel' = k + 1 := ⟨fuel' - 1, by omega⟩
    cases hq : querySmart ⟨"tallying", lastSeenIndex, pageLimit maxTalliesPerBlock tallyList.length⟩ with
    | error e =>
      cases e <;> simp only [queryLoop, hq] at h ⊢ <;> exact h
    | ok res =>
      rw [queryLoop_succ_ok hq] at h ⊢
      split
      · next hbreak => rwa [if_pos hbreak] at h
      · next hcont =>
        rw [if_neg hcont] at h
        exact ih h (by omega)

end Loop

/-! ## 頁に分けて答える contract -/

/--
contract が、tally を待つ固定された要求の列 `reqs` を頁に分けて答えること。`key i` は先頭から
`i` 個を見た位置の鍵で、`key 0` は `EmptyLastSeenIndex`。位置 `i` の鍵と `limit` を問えば、続く
高々 `limit` 個の要求と、その後の位置の鍵を返す。
-/
structure Pages (querySmart : ContractQuerier) (reqs : List Request) (key : Nat → String) : Prop where
  start : key 0 = EmptyLastSeenIndex
  page : ∀ i limit, i ≤ reqs.length → ∃ isPaused,
    querySmart ⟨"tallying", key i, limit⟩ =
      .ok ⟨isPaused, (reqs.drop i).take limit.toNat, key (min (i + limit.toNat) reqs.length)⟩

section Pages

variable {querySmart : ContractQuerier} {reqs : List Request} {key : Nat → String}
  {maxTalliesPerBlock : UInt32}

/--
**頁ごとのループ。** 列の先頭から `i` 個（上限以下）を集め、位置 `i` の鍵を持つ所からの
ループは、残り `min N max - i` を 50 で割って切り上げた回数と 1 回の燃料で抜け、列の先頭の
上限個を返す。燃料についての帰納法で、進む回は `limit` がちょうど 50 で、頁が満ちている。
-/
theorem Pages.queryLoop_eq (hp : Pages querySmart reqs key) {fuel i : Nat}
    (hi : i ≤ min reqs.length maxTalliesPerBlock.toNat)
    (hfuel : (min reqs.length maxTalliesPerBlock.toNat - i + 49) / 50 < fuel) :
    ∃ isPaused, queryLoop querySmart maxTalliesPerBlock fuel (reqs.take i) (key i) =
      some (.ok ⟨isPaused, reqs.take maxTalliesPerBlock.toNat, ""⟩) := by
  induction fuel generalizing i with
  | zero => omega
  | succ fuel ih =>
    have hlen : (reqs.take i).length = i := List.length_take_of_le (by omega)
    have hlimit : (pageLimit maxTalliesPerBlock i).toNat = min 50 (maxTalliesPerBlock.toNat - i) :=
      pageLimit_toNat (by omega)
    obtain ⟨isPaused, hq⟩ := hp.page i (pageLimit maxTalliesPerBlock i) (by omega)
    have hq' : querySmart ⟨"tallying", key i, pageLimit maxTalliesPerBlock (reqs.take i).length⟩ =
        .ok ⟨isPaused, (reqs.drop i).take (pageLimit maxTalliesPerBlock i).toNat,
          key (min (i + (pageLimit maxTalliesPerBlock i).toNat) reqs.length)⟩ := by
      rw [hlen]
      exact hq
    rw [queryLoop_succ_ok hq', hlen]
    dsimp only
    -- 集めた要求は、いつも列の先頭の部分である
    rw [← List.take_add, List.length_take, List.length_take, List.length_drop]
    split
    · next hbreak =>
      -- 抜ける回：上限に届いたか、列を読み尽くした
      have hmin : min (i + (pageLimit maxTalliesPerBlock i).toNat) reqs.length =
          min maxTalliesPerBlock.toNat reqs.length := by
        omega
      exact ⟨isPaused, by rw [List.take_eq_take_iff.mpr hmin]⟩
    · next hcont =>
      -- 進む回：頁はちょうど 50 個で、次の位置も上限より前にある
      have hstep : i + (pageLimit maxTalliesPerBlock i).toNat ≤ reqs.length := by omega
      rw [Nat.min_eq_left hstep]
      exact ih (by omega) (by omega)

/--
**頁ごとの取り出し。** 固定された列 `reqs` を頁に分けて答える contract に対して、`queryContract`
は `⌈min N maxTalliesPerBlock / 50⌉ + 1` 回の問い合わせのうちに抜け、列の先頭の
`min N maxTalliesPerBlock` 個を、順に、抜かさず重ねずに返す。
-/
theorem queryContract_pages (hp : Pages querySmart reqs key) (maxTalliesPerBlock : UInt32) :
    ∃ isPaused,
      queryLoop querySmart maxTalliesPerBlock
          ((min reqs.length maxTalliesPerBlock.toNat + 49) / 50 + 1) [] EmptyLastSeenIndex =
        some (.ok ⟨isPaused, reqs.take maxTalliesPerBlock.toNat, ""⟩) ∧
      queryContract querySmart maxTalliesPerBlock =
        .ok ⟨isPaused, reqs.take maxTalliesPerBlock.toNat, ""⟩ := by
  have hloop : ∃ isPaused, queryLoop querySmart maxTalliesPerBlock
      ((min reqs.length maxTalliesPerBlock.toNat + 49) / 50 + 1) (reqs.take 0) (key 0) =
        some (.ok ⟨isPaused, reqs.take maxTalliesPerBlock.toNat, ""⟩) :=
    hp.queryLoop_eq (Nat.zero_le _) (by omega)
  obtain ⟨isPaused, h⟩ := hloop
  rw [List.take_zero, hp.start] at h
  refine ⟨isPaused, h, ?_⟩
  -- `queryContract` の燃料は、上限と 1 回で足りる分より多い
  have hmore : (min reqs.length maxTalliesPerBlock.toNat + 49) / 50 + 1 ≤
      maxTalliesPerBlock.toNat + 1 := by omega
  unfold queryContract
  rw [queryLoop_mono h hmore]
  rfl

end Pages

/-! ## 例の contract -/

/-- 例の contract の鍵：先頭から `i` 個を見た位置を、`null` の後ろに `x` を `i` 個付けて書く。 -/
def sampleKey (i : Nat) : String := EmptyLastSeenIndex ++ String.ofList (List.replicate i 'x')

theorem sampleKey_length (i : Nat) : (sampleKey i).length = i + 4 := by
  rw [sampleKey, String.length_append, String.length_ofList, List.length_replicate, Nat.add_comm]
  rfl

/-- 固定された列 `reqs` を頁に分けて答える例の contract。鍵の長さから位置を読む。 -/
def sampleContract (reqs : List Request) : ContractQuerier := fun q =>
  let i := q.last_seen_index.length - 4
  .ok ⟨false, (reqs.drop i).take q.limit.toNat, sampleKey (min (i + q.limit.toNat) reqs.length)⟩

theorem sampleContract_pages (reqs : List Request) : Pages (sampleContract reqs) reqs sampleKey where
  start := by simp [sampleKey]
  page := by
    intro i limit _
    refine ⟨false, ?_⟩
    simp only [sampleContract, sampleKey_length, Nat.add_sub_cancel]

/-- 120 個の要求を持つ contract から、上限 100 で二頁を取り出す。 -/
theorem queryContract_pages_sample :
    ∃ isPaused,
      queryLoop (sampleContract (List.replicate 120 Request.sample)) 100
          ((min (List.replicate 120 Request.sample).length (100 : UInt32).toNat + 49) / 50 + 1) []
          EmptyLastSeenIndex =
        some (.ok ⟨isPaused, (List.replicate 120 Request.sample).take (100 : UInt32).toNat, ""⟩) ∧
      queryContract (sampleContract (List.replicate 120 Request.sample)) 100 =
        .ok ⟨isPaused, (List.replicate 120 Request.sample).take (100 : UInt32).toNat, ""⟩ :=
  queryContract_pages (sampleContract_pages _) 100

example : queryContract (sampleContract (List.replicate 3 Request.sample)) 2 =
    .ok ⟨false, List.replicate 2 Request.sample, ""⟩ := by decide

end SedaChain.Tally
