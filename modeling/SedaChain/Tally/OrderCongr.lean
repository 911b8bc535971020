import SedaChain.Tally.EndBlock

/-!
# tally の結果は map の列挙の順に依らない

Go の map は列挙の順を node ごとに乱す。要求の `Commits` と `Reveals` はその map で、
model では鍵の重複しない組の列（`KeyMap`）であり、列挙の順はその列の順である。

ここでは **congruence**「map の列挙の順だけが違う要求の列は、`ProcessTallies` に同じ答えを
返させる」を示す（`ProcessTallies_order_independent`）。答えは tally の結果、data result
（その ID を含む）、分配の表のすべてで、panic と誤りも含めて等しい。

map を読むのは次のところだけである。

* `Request.SanitizeReveals` — reveal を executor ごとの hash で並べる
* `MeterExecutorGasFallback` — commit した者を鍵の順に並べ、reveal の有無を引く
* commit と reveal の個数

phase 2 に渡す item は要求そのものを持つが、tally VM の呼び出しは map でない field しか
読まない。そこで item の要求から map を消したもの（`TallyParallelExecItem.eraseMaps`）を
観測とし、次の三段で示す。

1. phase 1 は、map の列挙の順だけが違う要求から、観測の等しい結果を作る（`filterPhase_eraseMaps`）
2. phase 2 は item の観測しか読まない（`execPhase_eraseMaps`）
3. phase 3 は要求を読まない

sha256 について仮定するのは、一つの要求の中で executor が違えば sort key も違うことだけである
（`Request.SortKeysDistinct`）。
-/

namespace SedaChain.Tally

open Infra Infra.Go SedaChain.Batching

/-! ## map の列挙の順だけが違うこと -/

/-- 要求から二つの map を消したもの。 -/
def Request.eraseMaps (req : Request) : Request :=
  { req with Commits := KeyMap.empty, Reveals := KeyMap.empty }

/-- 二つの要求が、commit と reveal の map の列挙の順を除いて等しいこと。 -/
structure Request.SameUpToOrder (r₁ r₂ : Request) : Prop where
  commits : r₁.Commits.SameMap r₂.Commits
  reveals : r₁.Reveals.SameMap r₂.Reveals
  eraseMaps : r₁.eraseMaps = r₂.eraseMaps

/-- 要求の中で、executor が違えば reveal の sort key も違うこと。 -/
def Request.SortKeysDistinct (sha256 : Bytes → Bytes) (height : UInt64) (req : Request) : Prop :=
  ∀ e₁ ∈ req.Reveals.keys, ∀ e₂ ∈ req.Reveals.keys,
    sha256 (strBytes e₁ ++ GetEntropy req.ID height) =
      sha256 (strBytes e₂ ++ GetEntropy req.ID height) → e₁ = e₂

instance (sha256 : Bytes → Bytes) (height : UInt64) (req : Request) :
    Decidable (req.SortKeysDistinct sha256 height) := by
  unfold Request.SortKeysDistinct; infer_instance

/-- map の列挙の順だけが違う要求は、一方の map を他方のものに差し替えたものである。 -/
theorem Request.SameUpToOrder.eq_update {r₁ r₂ : Request} (h : r₁.SameUpToOrder r₂) :
    r₂ = { r₁ with Commits := r₂.Commits, Reveals := r₂.Reveals } := by
  have he := h.eraseMaps
  cases r₁; cases r₂
  simp only [Request.eraseMaps] at he
  cases he
  rfl

theorem Request.SameUpToOrder.id_eq {r₁ r₂ : Request} (h : r₁.SameUpToOrder r₂) :
    r₁.ID = r₂.ID := by
  have he := congrArg Request.ID h.eraseMaps
  exact he

/-! ## phase 1 -/

/-- item の要求から map を消したもの。phase 2 が item から読むのはこれだけである。 -/
def TallyParallelExecItem.eraseMaps (item : TallyParallelExecItem) : TallyParallelExecItem :=
  { item with Request := item.Request.eraseMaps }

/-- phase 1 の一つの要求の結果の観測。 -/
def Phase1Outcome.eraseMaps : Phase1Outcome → Phase1Outcome
  | .next tr dr item => .next tr dr (item.map TallyParallelExecItem.eraseMaps)
  | .stop err => .stop err

/-- phase 1 の全体の結果の観測。 -/
def Phase1.eraseMaps : Phase1 → Phase1
  | .done trs drs items => .done trs drs (items.map TallyParallelExecItem.eraseMaps)
  | .stop err => .stop err

section Update

variable {req : Request} {commits : KeyMap String Bytes} {reveals : KeyMap String RevealBody}

theorem MeterExecutorGasFallback_update (hc : req.Commits.SameMap commits)
    (hv : req.Reveals.SameMap reveals) (gasCostFallback : UInt64) (g : GasMeter) :
    MeterExecutorGasFallback { req with Commits := commits, Reveals := reveals } gasCostFallback g =
      MeterExecutorGasFallback req gasCostFallback g := by
  -- 鍵は重複しないので、並べた committer の列は列挙の順に依らない
  have hsort : sortAsc commits.keys = sortAsc req.Commits.keys := sortAsc_eq_of_perm hc.keys_perm.symm
  simp only [MeterExecutorGasFallback, ← hc.size_eq, ← hv.size_eq, hsort, ← hv.contains_eq]

theorem meterFilterError_update (hc : req.Commits.SameMap commits)
    (hv : req.Reveals.SameMap reveals) (params : Params) (e : FilterError) (g : GasMeter) :
    meterFilterError { req with Commits := commits, Reveals := reveals } params e g =
      meterFilterError req params e g := by
  simp only [meterFilterError, MeterExecutorGasFallback_update hc hv]

theorem ToResult_update (ctx : Context) :
    Request.ToResult ctx { req with Commits := commits, Reveals := reveals } = req.ToResult ctx :=
  rfl

theorem ofRequest_update :
    TallyResult.ofRequest { req with Commits := commits, Reveals := reveals } =
      TallyResult.ofRequest req :=
  rfl

/--
**gas meter を作った後の phase 1 は、map の列挙の順に依らない。** 結果は item の要求を除いて
等しい。
-/
theorem filterRequest_update (k : Keeper) (ctx : Context) (params : Params) (i : Nat)
    (hc : req.Commits.SameMap commits) (hv : req.Reveals.SameMap reveals)
    (hinj : req.SortKeysDistinct k.sha256 ctx.BlockHeight) (tr : TallyResult) (dr : DataResult)
    (g : GasMeter) :
    (k.filterRequest ctx params i { req with Commits := commits, Reveals := reveals } tr dr g).map
        Phase1Outcome.eraseMaps =
      (k.filterRequest ctx params i req tr dr g).map Phase1Outcome.eraseMaps := by
  have hsan : Request.SanitizeReveals k.sha256 { req with Commits := commits, Reveals := reveals }
      ctx.BlockHeight = req.SanitizeReveals k.sha256 ctx.BlockHeight :=
    (@SanitizeReveals_eq_of_sameMap k.sha256 req { req with Commits := commits, Reveals := reveals }
      rfl hv ctx.BlockHeight hinj).symm
  simp only [Keeper.filterRequest, ← hc.size_eq, hsan, MeterExecutorGasFallback_update hc hv,
    meterFilterError_update hc hv]
  split_ifs
  · rfl
  · -- filter の誤りが無ければ item ができ、その要求だけが違う
    split <;> rfl

/-- **phase 1 の一つの要求の結果は、map の列挙の順に依らない。** -/
theorem tallyRequest_update (k : Keeper) (ctx : Context) (params : Params) (isPaused : Bool)
    (i : Nat) (hc : req.Commits.SameMap commits) (hv : req.Reveals.SameMap reveals)
    (hinj : req.SortKeysDistinct k.sha256 ctx.BlockHeight) :
    (k.tallyRequest ctx params isPaused i { req with Commits := commits, Reveals := reveals }).map
        Phase1Outcome.eraseMaps =
      (k.tallyRequest ctx params isPaused i req).map Phase1Outcome.eraseMaps := by
  simp only [Keeper.tallyRequest, ToResult_update, ofRequest_update]
  refine map_bind_eq_of_map_eq (f := id) rfl ?_
  rintro ⟨dr, err⟩ _ rfl
  -- 符号化の誤り、停止、gas 価格の誤りは要求の map を読まない
  cases err with
  | some err => rfl
  | none =>
    dsimp only
    split_ifs
    · rfl
    · cases k.NewIntFromString req.PostedGasPrice with
      | none => rfl
      | some price =>
        dsimp only
        split_ifs
        · rfl
        · exact filterRequest_update k ctx params i hc hv hinj _ _ _

end Update

/-- **phase 1 は、map の列挙の順だけが違う要求の列から、観測の等しい結果を作る。** -/
theorem filterPhase_eraseMaps (k : Keeper) (ctx : Context) (params : Params) (isPaused : Bool) :
    ∀ {reqs₁ reqs₂ : List Request}, List.Forall₂ Request.SameUpToOrder reqs₁ reqs₂ →
      (∀ req ∈ reqs₁, req.SortKeysDistinct k.sha256 ctx.BlockHeight) → ∀ i,
      (k.filterPhase ctx params isPaused reqs₁ i).map Phase1.eraseMaps =
        (k.filterPhase ctx params isPaused reqs₂ i).map Phase1.eraseMaps
  | _, _, .nil, _, _ => rfl
  | r₁ :: rest₁, r₂ :: rest₂, .cons h hs, hinj, i => by
    have hhead : (k.tallyRequest ctx params isPaused i r₁).map Phase1Outcome.eraseMaps =
        (k.tallyRequest ctx params isPaused i r₂).map Phase1Outcome.eraseMaps := by
      rw [h.eq_update, tallyRequest_update k ctx params isPaused i h.commits h.reveals
        (hinj r₁ List.mem_cons_self)]
    have htail := filterPhase_eraseMaps k ctx params isPaused hs
      (fun r hr => hinj r (List.mem_cons_of_mem _ hr)) (i + 1)
    simp only [Keeper.filterPhase]
    refine map_bind_eq_of_map_eq hhead ?_
    intro o₁ o₂ ho
    cases o₁ <;> cases o₂ <;> simp only [Phase1Outcome.eraseMaps, Phase1Outcome.stop.injEq,
      Phase1Outcome.next.injEq, reduceCtorEq] at ho
    case stop.stop => rw [ho]
    case next.next =>
      -- 次へ進む：残りの要求も観測の等しい結果を作る
      obtain ⟨rfl, rfl, hitem⟩ := ho
      refine map_bind_eq_of_map_eq htail ?_
      intro p₁ p₂ hp
      cases p₁ <;> cases p₂ <;> simp only [Phase1.eraseMaps, Phase1.stop.injEq,
        Phase1.done.injEq, reduceCtorEq] at hp
      case stop.stop => rw [hp]
      case done.done =>
        obtain ⟨rfl, rfl, hitems⟩ := hp
        simp only [pure_eq_ok, Except.map, Phase1.eraseMaps, List.map_append,
          ← Option.toList_map, hitem, hitems]

/-! ## phase 2 -/

theorem prepareTallyExec_eraseMaps (k : Keeper) (ctx : Context) (item : TallyParallelExecItem) :
    k.prepareTallyExec ctx item.eraseMaps = k.prepareTallyExec ctx item :=
  rfl

theorem markExecErr_eraseMaps (item : TallyParallelExecItem) (prepared : Except String VmCall) :
    markExecErr item.eraseMaps prepared = (markExecErr item prepared).eraseMaps := by
  cases prepared <;> rfl

theorem ExecuteTallyProgramsParallel_eraseMaps (k : Keeper) (ctx : Context)
    (items : List TallyParallelExecItem) :
    k.ExecuteTallyProgramsParallel ctx (items.map TallyParallelExecItem.eraseMaps) =
      ((k.ExecuteTallyProgramsParallel ctx items).1.map TallyParallelExecItem.eraseMaps,
        (k.ExecuteTallyProgramsParallel ctx items).2) := by
  simp only [Keeper.ExecuteTallyProgramsParallel, List.map_map, Function.comp_def,
    prepareTallyExec_eraseMaps, List.zipWith_map_left, markExecErr_eraseMaps, List.map_zipWith]

/-- phase 2 の loop は item の誤りと位置しか読まない。 -/
theorem applyVmResults_eraseMaps (vmResults : List VmResult) :
    ∀ (items : List TallyParallelExecItem) (idx : Nat) (trs : List TallyResult)
      (drs : List DataResult),
      applyVmResults vmResults (items.map TallyParallelExecItem.eraseMaps) idx trs drs =
        applyVmResults vmResults items idx trs drs
  | [], _, _, _ => rfl
  | item :: rest, idx, trs, drs => by
    simp only [List.map_cons, applyVmResults, TallyParallelExecItem.eraseMaps,
      applyVmResults_eraseMaps vmResults rest]

/-- **phase 2 は item の観測しか読まない。** -/
theorem execPhase_eraseMaps (k : Keeper) (ctx : Context) (items : List TallyParallelExecItem)
    (trs : List TallyResult) (drs : List DataResult) :
    k.execPhase ctx (items.map TallyParallelExecItem.eraseMaps) trs drs = k.execPhase ctx items trs drs := by
  simp only [Keeper.execPhase, List.map_eq_nil_iff, ExecuteTallyProgramsParallel_eraseMaps,
    applyVmResults_eraseMaps]

/-! ## 全体 -/

theorem foldl_set_ID {reqs₁ reqs₂ : List Request} (h : List.Forall₂ Request.SameUpToOrder reqs₁ reqs₂)
    (m : KeyMap String (List Distribution)) :
    reqs₁.foldl (fun m req => m.set req.ID []) m = reqs₂.foldl (fun m req => m.set req.ID []) m := by
  induction h generalizing m with
  | nil => rfl
  | cons hr _ ih => simp only [List.foldl_cons, hr.id_eq, ih]

/--
**tally の結果は map の列挙の順に依らない。** commit と reveal の map の列挙の順だけが違う
要求の列について、一つの要求の中で executor が違えば sort key も違う限り、`ProcessTallies` は
同じ tally の結果、data result、分配の表を返す（panic と誤りも同じである）。
-/
theorem ProcessTallies_order_independent (k : Keeper) (ctx : Context) (params : Params)
    (isPaused : Bool) {reqs₁ reqs₂ : List Request}
    (hsame : List.Forall₂ Request.SameUpToOrder reqs₁ reqs₂)
    (hinj : ∀ req ∈ reqs₁, req.SortKeysDistinct k.sha256 ctx.BlockHeight) :
    k.ProcessTallies ctx reqs₁ params isPaused = k.ProcessTallies ctx reqs₂ params isPaused := by
  simp only [Keeper.ProcessTallies]
  rw [foldl_set_ID hsame]
  refine bind_eq_of_map_eq (filterPhase_eraseMaps k ctx params isPaused hsame hinj 0) ?_
  intro p₁ p₂ hp
  cases p₁ <;> cases p₂ <;> simp only [Phase1.eraseMaps, Phase1.stop.injEq, Phase1.done.injEq,
    reduceCtorEq] at hp
  case stop.stop => rw [hp]
  case done.done =>
    -- phase 2 は item の観測しか読まず、phase 3 は要求を読まない
    obtain ⟨rfl, rfl, hitems⟩ := hp
    dsimp only
    rw [← execPhase_eraseMaps, hitems, execPhase_eraseMaps]

/--
二つの executor の commit と reveal を、列挙の順を入れ替えて持つ二つの要求。sha256 を恒等写像に
した keeper では sort key が executor ごとに違うので、結果は等しい。
-/
theorem ProcessTallies_order_independent_swap :
    ({ Keeper.offline with sha256 := id } : Keeper).ProcessTallies ⟨1, 1⟩
        [{ Request.sample with
          ReplicationFactor := 2
          Commits := ⟨[("a", []), ("b", [])], by decide⟩
          Reveals := ⟨[("a", ⟨"00", 1, 0, 10, "", []⟩), ("b", ⟨"00", 1, 0, 20, "", []⟩)], by decide⟩ }]
        DefaultParams false =
      ({ Keeper.offline with sha256 := id } : Keeper).ProcessTallies ⟨1, 1⟩
        [{ Request.sample with
          ReplicationFactor := 2
          Commits := ⟨[("b", []), ("a", [])], by decide⟩
          Reveals := ⟨[("b", ⟨"00", 1, 0, 20, "", []⟩), ("a", ⟨"00", 1, 0, 10, "", []⟩)], by decide⟩ }]
        DefaultParams false :=
  ProcessTallies_order_independent _ _ _ _
    (.cons ⟨.swap _ _ _, .swap _ _ _, rfl⟩ .nil) (by decide)

end SedaChain.Tally
