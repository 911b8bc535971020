import SedaChain.Tally.GasMeter
import SedaChain.Batching.DataResult
import SedaChain.Infra.Sort

/-!
# 要求の検査と reveal の整形（`abci_types.go`、`hash_sort.go`、`data_result.go`）

* `HashSort` — 要素の sort key と entropy の連結の sha256 で並べる
* `Request.ToResult` — 要求から data result の骨組みを作る。ID が 16 進でなければ panic する
* `Request.SanitizeReveals` — reveal を map から取り出し、executor ごとの hash で並べる
* `MarkResultAsFallback`、`MarkResultAsPaused` — 処理できない要求の結果を埋める

`SanitizeReveals` の結果は map の列挙の順に依らない（`SanitizeReveals_eq_of_sameMap`）。
sha256 について仮定するのは、executor が違えば sort key も違うことだけである。
-/

namespace SedaChain.Tally

open Infra Infra.Go SedaChain.Batching

/-! ## `HashSort` -/

/-- `GetEntropy`。要求の ID の byte 列と高さの 8 byte big-endian の連結。 -/
def GetEntropy (drID : String) (height : UInt64) : Bytes :=
  strBytes drID ++ putUint64 height.toNat

/--
`HashSort`。各要素の `GetSortKey` と `entropy` の連結の sha256 を `bytes.Compare` の順に並べる。
Go の `slices.SortFunc` は安定でないので、同じ hash の要素の順は規定しない。
-/
def HashSort {α : Type} (sha256 : Bytes → Bytes) (GetSortKey : α → Bytes) (originalItems : List α)
    (entropy : Bytes) : List α :=
  sortByKey (fun x => sha256 (GetSortKey x ++ entropy)) originalItems

/-- `Reveal.GetSortKey`。 -/
def Reveal.GetSortKey (r : Reveal) : Bytes := strBytes r.Executor

/-- `ProxyGasUsed.GetSortKey`。 -/
def ProxyGasUsed.GetSortKey (p : ProxyGasUsed) : Bytes := strBytes p.PublicKey

theorem HashSort_perm {α : Type} (sha256 : Bytes → Bytes) (key : α → Bytes) (l : List α)
    (e : Bytes) : (HashSort sha256 key l e).Perm l :=
  sortByKey_perm _ l

@[simp] theorem HashSort_nil {α : Type} (sha256 : Bytes → Bytes) (key : α → Bytes) (e : Bytes) :
    HashSort sha256 key [] e = [] := by
  simp [HashSort, sortByKey]

@[simp] theorem length_HashSort {α : Type} (sha256 : Bytes → Bytes) (key : α → Bytes)
    (l : List α) (e : Bytes) : (HashSort sha256 key l e).length = l.length :=
  length_sortByKey _ l

/-! ## tally の結果 -/

/-- `TallyResult`。data result に入らない tally の経過。`GasMeter` は Go ではポインタである。 -/
structure TallyResult where
  ID : String
  Height : UInt64
  ReplicationFactor : UInt16
  Reveals : List Reveal
  GasMeter : Option GasMeter
  GasReports : List UInt64
  FilterResult : FilterResult
  StdOut : List String
  StdErr : List String
  ExecGasUsed : Nat
  TallyGasUsed : Nat
deriving DecidableEq

/-- 要求の ID、高さ、replication factor だけを入れた結果（phase 1 の初め）。 -/
def TallyResult.ofRequest (req : Request) : TallyResult :=
  { ID := req.ID, Height := req.Height, ReplicationFactor := req.ReplicationFactor, Reveals := []
    GasMeter := none, GasReports := [], FilterResult := FilterResult.zero, StdOut := []
    StdErr := [], ExecGasUsed := 0, TallyGasUsed := 0 }

/-- filter が走らなかったことだけを記した filter の結果。 -/
def FilterResult.didNotRun : FilterResult :=
  { FilterResult.zero with Error := some .filterDidNotRun }

/-! ## `ToResult` -/

/--
`Request.ToResult`。ID が 16 進でなければ panic する。payback address と SEDA payload は
base64 として読めなければ空にし、誤りを返す（両方が不正なら後の payload の誤りが残る）。
-/
def Request.ToResult (ctx : Context) (req : Request) : Except Fault (DataResult × Option String) :=
  if (hexDecode req.ID).isNone then .error (.panic s!"invalid request ID: {req.ID}")
  else
    let (paybackErr, payback) : Option String × String :=
      match decodeBase64 req.PaybackAddress with
      | .ok _ => (none, req.PaybackAddress)
      | .error e => (some s!"invalid payback address: {e}", "")
    let (payloadErr, payload) : Option String × String :=
      match decodeBase64 req.SedaPayload with
      | .ok _ => (none, req.SedaPayload)
      | .error e => (some s!"invalid seda payload: {e}", "")
    .ok ({ DataResult.zero with
            DrId := req.ID, DrBlockHeight := req.Height, Version := req.Version
            BlockHeight := ctx.BlockHeight, BlockTimestamp := ctx.BlockTime
            PaybackAddress := payback, SedaPayload := payload },
         payloadErr.or paybackErr)

/-- ID が 16 進で、payback address と SEDA payload が base64 なら、誤りなく骨組みができる。 -/
theorem ToResult_of_valid (ctx : Context) {req : Request} (hid : (hexDecode req.ID).isSome)
    {pb pl : Bytes} (hpb : decodeBase64 req.PaybackAddress = .ok pb)
    (hpl : decodeBase64 req.SedaPayload = .ok pl) :
    req.ToResult ctx = .ok ({ DataResult.zero with
      DrId := req.ID, DrBlockHeight := req.Height, Version := req.Version
      BlockHeight := ctx.BlockHeight, BlockTimestamp := ctx.BlockTime
      PaybackAddress := req.PaybackAddress, SedaPayload := req.SedaPayload }, none) := by
  simp [Request.ToResult, Option.ne_none_iff_isSome.mpr hid, hpb, hpl]

/-! ## `SanitizeReveals` -/

/-- map の一つの組を `Reveal` にする。報告された proxy の公開鍵は整列する（`sort.Strings`）。 -/
def Reveal.ofEntry (e : String × RevealBody) : Reveal :=
  { toRevealBody := { e.2 with ProxyPubKeys := sortAsc e.2.ProxyPubKeys }, Executor := e.1 }

/--
`Request.SanitizeReveals`。reveal を map の列挙の順に取り出して `HashSort` で並べ、
executor と gas の報告をその順に取り出す。
-/
def Request.SanitizeReveals (sha256 : Bytes → Bytes) (req : Request) (height : UInt64) :
    List Reveal × List String × List UInt64 :=
  let reveals := req.Reveals.entries.map Reveal.ofEntry
  let sortedReveals := HashSort sha256 Reveal.GetSortKey reveals (GetEntropy req.ID height)
  (sortedReveals, sortedReveals.map (·.Executor), sortedReveals.map (·.GasUsed))

/-- reveal が無ければ、整形の結果は空である。 -/
theorem SanitizeReveals_of_size_zero (sha256 : Bytes → Bytes) {req : Request}
    (h : req.Reveals.size = 0) (height : UInt64) :
    req.SanitizeReveals sha256 height = ([], [], []) := by
  have he : req.Reveals.entries = [] := List.eq_nil_of_length_eq_zero h
  simp [Request.SanitizeReveals, he]

@[simp] theorem length_SanitizeReveals_reveals (sha256 : Bytes → Bytes) (req : Request)
    (h : UInt64) : (req.SanitizeReveals sha256 h).1.length = req.Reveals.size := by
  simp [Request.SanitizeReveals, KeyMap.size]

@[simp] theorem length_SanitizeReveals_gasReports (sha256 : Bytes → Bytes) (req : Request)
    (h : UInt64) : (req.SanitizeReveals sha256 h).2.2.length = req.Reveals.size := by
  simp [Request.SanitizeReveals, KeyMap.size]

/--
**reveal の整形は map の列挙の順に依らない。**
同じ中身の二つの map から、executor ごとの sort key が互いに異なる限り、同じ列ができる。
-/
theorem SanitizeReveals_eq_of_sameMap (sha256 : Bytes → Bytes) {req req' : Request}
    (hid : req.ID = req'.ID) (hsame : req.Reveals.SameMap req'.Reveals) (height : UInt64)
    (hinj : ∀ e₁ ∈ req.Reveals.keys, ∀ e₂ ∈ req.Reveals.keys,
      sha256 (strBytes e₁ ++ GetEntropy req.ID height) =
        sha256 (strBytes e₂ ++ GetEntropy req.ID height) → e₁ = e₂) :
    req.SanitizeReveals sha256 height = req'.SanitizeReveals sha256 height := by
  have hperm : (req.Reveals.entries.map Reveal.ofEntry).Perm
      (req'.Reveals.entries.map Reveal.ofEntry) := hsame.map _
  have hsort : HashSort sha256 Reveal.GetSortKey (req.Reveals.entries.map Reveal.ofEntry)
      (GetEntropy req.ID height) = HashSort sha256 Reveal.GetSortKey
        (req'.Reveals.entries.map Reveal.ofEntry) (GetEntropy req'.ID height) := by
    rw [← hid]
    refine sortByKey_eq_of_perm ?_ hperm
    -- sort key が等しい二つの reveal は executor が等しく、map の鍵は重複しないので同じ組から来る
    intro a ha b hb hab
    obtain ⟨ea, hea, rfl⟩ := List.mem_map.mp ha
    obtain ⟨eb, heb, rfl⟩ := List.mem_map.mp hb
    have hk : ea.1 = eb.1 :=
      hinj ea.1 (List.mem_map_of_mem hea) eb.1 (List.mem_map_of_mem heb) hab
    have hv : ea = eb := by
      have hva : req.Reveals.get? ea.1 = some ea.2 := (KeyMap.get?_eq_some_iff _).mpr hea
      have hvb : req.Reveals.get? ea.1 = some eb.2 := by
        rw [hk]; exact (KeyMap.get?_eq_some_iff _).mpr heb
      rw [hva] at hvb
      exact Prod.ext hk (Option.some.inj hvb)
    rw [hv]
  simp only [Request.SanitizeReveals, hsort]

/-! ## 処理できない要求 -/

/--
`MarkResultAsFallback`。全額を返金する結果にする。ID の計算に失敗すればその誤りを返す。
-/
def MarkResultAsFallback (keccak : Bytes → Bytes) (dataResult : DataResult)
    (tallyResult : TallyResult) (encounteredError : String) :
    Except String (DataResult × TallyResult) := do
  let dr : DataResult := { dataResult with
    GasUsed := some 0, ExitCode := TallyExitCodeInvalidRequest, Consensus := false
    Result := strBytes s!"unable to process request. error: {encounteredError}" }
  let id ← dr.TryHash keccak
  pure ({ dr with Id := id }, { tallyResult with FilterResult := FilterResult.didNotRun })

/-- `MarkResultAsPaused`。contract が止まっているときの、全額を返金する結果にする。 -/
def MarkResultAsPaused (keccak : Bytes → Bytes) (dataResult : DataResult)
    (tallyResult : TallyResult) : Except String (DataResult × TallyResult) := do
  let dr : DataResult := { dataResult with
    GasUsed := some 0, ExitCode := TallyExitCodeContractPaused, Consensus := false
    Result := strBytes "contract is paused" }
  let id ← dr.TryHash keccak
  pure ({ dr with Id := id }, { tallyResult with FilterResult := FilterResult.didNotRun })

end SedaChain.Tally
