import SedaChain.Tally.Distribution

/-!
# tally の三つの phase（`keeper/endblock.go`、`keeper/tally_vm.go`）

`Keeper.ProcessTallies` は tally 可能な要求の列を三つの phase で処理する。

1. filter（`Keeper.filterPhase`）：要求を検査し、gas meter を作り、reveal を整形して filter を掛ける。
   commit が足りなければ filter は走らず、commit した者に固定額を払う
2. tally VM（`Keeper.execPhase`）：filter を通った要求の tally program をまとめて走らせる
3. 計量と分配（`Keeper.meterPhase`）：基本合意に達した要求について proxy と executor に gas を
   割り当て、分配の列と data result の gas と ID を決める

Go の `tallyResults[i].GasMeter` と `TallyParallelExecItem.GasMeter` は同じポインタである。
ここでは gas meter を `TallyResult` の側に持ち、phase 2 は結果の列の `Index` 番目を書き換える。
-/

namespace SedaChain.Tally

open Infra Infra.Go SedaChain.Batching

/-! ## phase 1：filter -/

/-- `TallyParallelExecItem`。tally VM に渡す要求と、その結果を書く位置。 -/
structure TallyParallelExecItem where
  Request : Request
  GasMeter : GasMeter
  Reveals : List Reveal
  Outliers : Option (List Bool)
  Consensus : Bool
  Index : Nat
  TallyExecErr : Option String

/-- `NewTallyParallelExecItem`。 -/
def NewTallyParallelExecItem (index : Nat) (req : Request) (gasMeter : GasMeter)
    (reveals : List Reveal) (outliers : Option (List Bool)) (consensus : Bool) :
    TallyParallelExecItem :=
  { Index := index, Request := req, GasMeter := gasMeter, Reveals := reveals, Outliers := outliers
    Consensus := consensus, TallyExecErr := none }

/-- `errors.Is(err, ErrInvalidFilterInput)`。 -/
def FilterError.isInvalidFilterInput : FilterError → Bool
  | .invalidFilterInput _ => true
  | _ => false

/-- 一つの要求の phase 1 の結果：次の要求へ進むか、`ProcessTallies` から返るか。 -/
inductive Phase1Outcome where
  /-- 結果を書いて次へ進む。tally VM に渡す item があれば添える。 -/
  | next (tr : TallyResult) (dr : DataResult) (item : Option TallyParallelExecItem)
  /-- `return nil, nil, nil, err`。 -/
  | stop (err : Option String)

/--
全額返金の結果にして次へ進む。印を付けられなければ `ProcessTallies` から `err` を返す
（Go はそこで、印の誤りではなく手元の `err` を返す）。
-/
def markFallback (keccak : Bytes → Bytes) (dr : DataResult) (tr : TallyResult) (reason : String)
    (err : Option String) : Phase1Outcome :=
  match MarkResultAsFallback keccak dr tr reason with
  | .ok r => .next r.2 r.1 none
  | .error _ => .stop err

/--
filter の誤りに応じた gas の扱い：基本合意が無ければ commit した者に固定額を払い、
filter 入力が不正か data の合意が無ければ減額にする。
-/
def meterFilterError (req : Request) (params : Params) (e : FilterError) (g : GasMeter) :
    Except Fault GasMeter :=
  if e = .noBasicConsensus then MeterExecutorGasFallback req params.ExecutionGasCostFallback g
  else if e.isInvalidFilterInput ∨ e = .noConsensus then .ok g.SetReducedPayoutMode
  else .ok g

/--
gas meter を作った後の phase 1：commit の数を確かめ、reveal を整形して filter を掛ける。
-/
def Keeper.filterRequest (k : Keeper) (ctx : Context) (params : Params) (i : Nat) (req : Request)
    (tr : TallyResult) (dr : DataResult) (gasMeter : GasMeter) : Except Fault Phase1Outcome :=
  if req.Commits.size < req.ReplicationFactor.toNat then do
    let tr := { tr with FilterResult := FilterResult.didNotRun }
    let dr := { dr with
      Result := strBytes s!"need {req.ReplicationFactor} commits; received {req.Commits.size}"
      ExitCode := TallyExitCodeNotEnoughCommits }
    let g ← MeterExecutorGasFallback req params.ExecutionGasCostFallback gasMeter
    pure (.next { tr with GasMeter := some g } dr none)
  else
    let sanitized := req.SanitizeReveals k.sha256 ctx.BlockHeight
    let filtered := ExecuteFilter k sanitized.1 req.ConsensusFilter req.ReplicationFactor params gasMeter
    let filterResult := { filtered.1.1 with Error := filtered.1.2, Executors := sanitized.2.1 }
    let tr := { tr with Reveals := sanitized.1, GasReports := sanitized.2.2, FilterResult := filterResult }
    let dr := { dr with Consensus := filterResult.Consensus }
    match filtered.1.2 with
    | none =>
      .ok (.next { tr with GasMeter := some filtered.2 } dr
        (some (NewTallyParallelExecItem i req filtered.2 sanitized.1 filterResult.Outliers
          filterResult.Consensus)))
    | some e => do
      let dr := { dr with
        Result := strBytes e.message
        ExitCode := if e.isInvalidFilterInput then TallyExitCodeInvalidFilterInput
          else TallyExitCodeFilterError }
      let g ← meterFilterError req params e filtered.2
      pure (.next { tr with GasMeter := some g } dr none)

/--
phase 1 の loop の本体。結果の骨組みを作り、符号化の誤り、contract の停止、gas 価格の誤りを
順に確かめてから gas meter を作る。
-/
def Keeper.tallyRequest (k : Keeper) (ctx : Context) (params : Params) (isPaused : Bool) (i : Nat)
    (req : Request) : Except Fault Phase1Outcome := do
  let tr := TallyResult.ofRequest req
  let toResult ← req.ToResult ctx
  let dr := toResult.1
  match toResult.2 with
  | some err => pure (markFallback k.keccak256 dr tr err (some err))
  | none =>
    if isPaused then
      match MarkResultAsPaused k.keccak256 dr tr with
      | .ok r => pure (.next r.2 r.1 none)
      | .error _ => pure (.stop none)
    else
      match k.NewIntFromString req.PostedGasPrice with
      | none => pure (markFallback k.keccak256 dr tr s!"invalid gas price: {req.PostedGasPrice}" none)
      | some postedGasPrice =>
        if postedGasPrice ≤ 0 then
          pure (markFallback k.keccak256 dr tr s!"invalid gas price: {req.PostedGasPrice}" none)
        else
          k.filterRequest ctx params i req tr dr
            (NewGasMeter req.TallyGasLimit req.ExecGasLimit params.MaxTallyGasLimit postedGasPrice
              params.GasCostBase)

/-- phase 1 の全体の結果。 -/
inductive Phase1 where
  | done (tallyResults : List TallyResult) (dataResults : List DataResult)
      (items : List TallyParallelExecItem)
  | stop (err : Option String)

/-- phase 1 の loop。`i` は要求の位置。 -/
def Keeper.filterPhase (k : Keeper) (ctx : Context) (params : Params) (isPaused : Bool) :
    List Request → Nat → Except Fault Phase1
  | [], _ => .ok (.done [] [] [])
  | req :: rest, i => do
    let outcome ← k.tallyRequest ctx params isPaused i req
    match outcome with
    | .stop err => pure (.stop err)
    | .next tr dr item => do
      let tail ← k.filterPhase ctx params isPaused rest (i + 1)
      match tail with
      | .stop err => pure (.stop err)
      | .done trs drs items => pure (.done (tr :: trs) (dr :: drs) (item.toList ++ items))

/-! ## phase 2：tally VM -/

/-- `json.Marshal` による `[]int` の表記。 -/
def jsonInts (xs : List Nat) : String := "[" ++ ",".intercalate (xs.map toString) ++ "]"

/-- `tallyVMArg`。入力の 16 進、reveal の JSON、外れ値の印の JSON（1 か 0）。 -/
def tallyVMArg (k : Keeper) (inputArgs : Bytes) (reveals : List Reveal)
    (outliers : Option (List Bool)) : Except String (List String) := do
  let r ← k.marshalReveals reveals
  let outliersArg := (outliers.getD []).map fun o => if o then 1 else 0
  pure [hexEncode inputArgs, r, jsonInts outliersArg]

/--
`ExecuteTallyProgramsParallel` の loop の本体。oracle program、tally 入力、payback address、
VM の引数のどれかが得られなければその誤り。環境変数は Go では `map` である。
-/
def Keeper.prepareTallyExec (k : Keeper) (ctx : Context) (item : TallyParallelExecItem) :
    Except String VmCall := do
  let program ← k.GetOracleProgram item.Request.TallyProgramID
  let input ← decodeBase64 item.Request.TallyInputs
  let paybackAddrBytes ← decodeBase64 item.Request.PaybackAddress
  let arg ← tallyVMArg k input item.Reveals item.Outliers
  pure { program := program, args := arg, env := [
    ("VM_MODE", "tally"),
    ("CONSENSUS", toString item.Consensus),
    ("BLOCK_HEIGHT", toString ctx.BlockHeight),
    ("DR_ID", item.Request.ID),
    ("DR_REPLICATION_FACTOR", toString item.Request.ReplicationFactor),
    ("EXEC_PROGRAM_ID", item.Request.ExecProgramID),
    ("EXEC_INPUTS", item.Request.ExecInputs),
    ("EXEC_GAS_LIMIT", toString item.Request.ExecGasLimit),
    ("TALLY_INPUTS", item.Request.TallyInputs),
    ("TALLY_PROGRAM_ID", item.Request.TallyProgramID),
    ("DR_TALLY_GAS_LIMIT", toString item.GasMeter.RemainingTallyGas),
    ("DR_GAS_PRICE", item.Request.PostedGasPrice),
    ("DR_MEMO", item.Request.Memo),
    ("DR_PAYBACK_ADDRESS", hexEncode paybackAddrBytes)] }

/-- 準備に失敗した item に誤りを記す。 -/
def markExecErr (item : TallyParallelExecItem) (prepared : Except String VmCall) :
    TallyParallelExecItem :=
  match prepared with
  | .ok _ => item
  | .error e => { item with TallyExecErr := some e }

/-- 準備できた呼び出し。 -/
def preparedCall (prepared : Except String VmCall) : Option VmCall :=
  match prepared with
  | .ok c => some c
  | .error _ => none

/--
`Keeper.ExecuteTallyProgramsParallel`。準備できた item の program を順にまとめて VM に渡し、
誤りを記した item の列と VM の結果の列を返す。一つも無ければ VM を呼ばない。
-/
def Keeper.ExecuteTallyProgramsParallel (k : Keeper) (ctx : Context)
    (items : List TallyParallelExecItem) : List TallyParallelExecItem × List VmResult :=
  let prepared := items.map (k.prepareTallyExec ctx)
  let calls := prepared.filterMap preparedCall
  (List.zipWith markExecErr items prepared,
   if calls = [] then [] else k.ExecuteMultipleFromCParallel calls)

/-- VM が走った要求の結果：tally gas を払い、出力と結果と終了コードを書く。 -/
def applyVmResult (vmResult : VmResult) (tr : TallyResult) : TallyResult :=
  let result := MapVMResult vmResult
  { tr with
    GasMeter := tr.GasMeter.map fun g => (g.ConsumeTallyGas vmResult.GasUsed.toNat).2
    StdOut := result.Stdout, StdErr := result.Stderr }

/--
phase 2 の loop。VM が走った item は次の VM の結果を読み（足りなければ panic）、
走らなかった item は減額にして誤りを結果に書く。
-/
def applyVmResults (vmResults : List VmResult) :
    List TallyParallelExecItem → Nat → List TallyResult → List DataResult →
      Except Fault (List TallyResult × List DataResult)
  | [], _, trs, drs => .ok (trs, drs)
  | item :: rest, vmResultIndex, trs, drs =>
    match item.TallyExecErr with
    | none => do
      let vmResult ← index vmResults vmResultIndex
      let result := MapVMResult vmResult
      applyVmResults vmResults rest (vmResultIndex + 1)
        (trs.modify item.Index (applyVmResult vmResult))
        (drs.modify item.Index fun dr => { dr with Result := result.Result, ExitCode := result.ExitCode })
    | some err =>
      applyVmResults vmResults rest vmResultIndex
        (trs.modify item.Index fun tr => { tr with GasMeter := tr.GasMeter.map GasMeter.SetReducedPayoutMode })
        (drs.modify item.Index fun dr => { dr with
          Result := strBytes err, ExitCode := TallyExitCodeExecError })

/-- phase 2。VM に渡す item が無ければ何もしない。 -/
def Keeper.execPhase (k : Keeper) (ctx : Context) (items : List TallyParallelExecItem)
    (trs : List TallyResult) (drs : List DataResult) :
    Except Fault (List TallyResult × List DataResult) :=
  if items = [] then .ok (trs, drs)
  else
    let executed := k.ExecuteTallyProgramsParallel ctx items
    applyVmResults executed.2 executed.1 0 trs drs

/-! ## phase 3：計量と分配 -/

/--
基本合意に達した要求（filter の誤りが「基本合意が無い」でも「走らなかった」でもない）について、
proxy と executor に gas を割り当てる。
-/
def Keeper.meterTally (k : Keeper) (tr : TallyResult) : Except Fault TallyResult :=
  if tr.FilterResult.Error ≠ some .noBasicConsensus ∧
      tr.FilterResult.Error ≠ some .filterDidNotRun then do
    let g ← tr.meter
    let g ← k.MeterProxyGas tr.FilterResult.ProxyPubKeys tr.ReplicationFactor g
    let tr := { tr with GasMeter := some g }
    let g ← if areGasReportsUniform tr.GasReports then tr.MeterExecutorGasUniform
      else tr.MeterExecutorGasDivergent
    pure { tr with GasMeter := some g }
  else .ok tr

/-- ID の計算の誤りは `ProcessTallies` の誤りになる。 -/
def tryHashResult (keccak : Bytes → Bytes) (dr : DataResult) : Except Fault DataResult :=
  match dr.TryHash keccak with
  | .ok id => .ok { dr with Id := id }
  | .error e => .error (.error e)

/--
phase 3 の loop の本体。gas meter があれば、使った gas を記し、分配を作り、data result の gas を
決める。最後に data result の ID を計算し直す。
-/
def Keeper.finalizeTally (k : Keeper) (ctx : Context) (params : Params) (tr : TallyResult)
    (dr : DataResult) : Except Fault (TallyResult × DataResult × Option (List Distribution)) := do
  let tr ← k.meterTally tr
  match tr.GasMeter with
  | some g => do
    let dists ← k.DistributionsFromGasMeter ctx tr.ID tr.Height g params.BurnRatio
    let dr ← tryHashResult k.keccak256 { dr with GasUsed := some g.TotalGasUsed }
    pure ({ tr with TallyGasUsed := g.TallyGasUsed, ExecGasUsed := g.ExecutionGasUsed }, dr,
      some dists)
  | none => do
    let dr ← tryHashResult k.keccak256 dr
    pure (tr, dr, none)

/-- phase 3 の loop。分配は要求の ID ごとの表に書く。 -/
def Keeper.meterPhase (k : Keeper) (ctx : Context) (params : Params) :
    List TallyResult → List DataResult → KeyMap String (List Distribution) →
      Except Fault (List TallyResult × List DataResult × KeyMap String (List Distribution))
  | tr :: trs, dr :: drs, processedReqs => do
    let r ← k.finalizeTally ctx params tr dr
    let processedReqs := match r.2.2 with
      | some dists => processedReqs.set r.1.ID dists
      | none => processedReqs
    let tail ← k.meterPhase ctx params trs drs processedReqs
    pure (r.1 :: tail.1, r.2.1 :: tail.2.1, tail.2.2)
  | _, _, processedReqs => .ok ([], [], processedReqs)

/--
**`Keeper.ProcessTallies`**。三つの phase を順に行い、tally の結果、data result、要求の ID ごとの
分配を返す。分配の表は最初に全要求を空（全額返金）で埋める。
-/
def Keeper.ProcessTallies (k : Keeper) (ctx : Context) (tallyList : List Request)
    (params : Params) (isPaused : Bool) :
    Except Fault (List TallyResult × List DataResult × KeyMap String (List Distribution)) := do
  let phase1 ← k.filterPhase ctx params isPaused tallyList 0
  match phase1 with
  | .stop none => pure ([], [], KeyMap.empty)
  | .stop (some err) => throw (.error err)
  | .done trs drs items => do
    let processedReqs := tallyList.foldl (fun m req => m.set req.ID []) KeyMap.empty
    let executed ← k.execPhase ctx items trs drs
    k.meterPhase ctx params executed.1 executed.2 processedReqs

end SedaChain.Tally
