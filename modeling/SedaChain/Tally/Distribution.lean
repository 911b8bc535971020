import SedaChain.Tally.Metering

/-!
# 分配（`DistributionsFromGasMeter`）

gas meter から Core Contract への分配の列を作る。最初が燃やす額、次に data proxy への報酬
（公開鍵と entropy の hash の順）、最後に executor への報酬である。減額のときは executor の額の
`burnRatio` の割合を燃やす側に回す。

* `sum_DistributionsFromGasMeter` — 分配の額の和は gas 価格と使った gas の積である。
  減額の有無は燃やす額と executor の額の分け方を変えるだけで、和を変えない
* `executorReward_nonneg_DistributionsFromGasMeter` — 燃やす割合が 0 以上 1 以下で価格が正なら、
  executor の額は負にならない
-/

namespace SedaChain.Tally

open Infra Infra.Go

/-- 減額のとき executor 一人について燃やす額（`burnRatio.MulInt(amount).TruncateInt()`）。 -/
def reducedPayoutBurnOf (burnRatio : LegacyDec) (amount : Nat) : Except Fault Int :=
  burnRatio.MulIntTruncateInt amount

/--
executor 一人に払う額と、足し上げた燃やす額。減額のときは燃やす額を引いて払い、
燃やす額に足す。
-/
def executorPayout (burnRatio : LegacyDec) (reducedPayout : Bool) (amount : Nat)
    (reducedPayoutBurn : Int) : Except Fault (Int × Int) :=
  if reducedPayout then do
    let burnAmt ← reducedPayoutBurnOf burnRatio amount
    let payoutAmt ← intSub amount burnAmt
    let reducedPayoutBurn ← intAdd reducedPayoutBurn burnAmt
    pure (payoutAmt, reducedPayoutBurn)
  else pure (amount, reducedPayoutBurn)

/-- executor への分配の loop（`GetExecutorGasUsed` の順）。 -/
def executorDistributions (burnRatio : LegacyDec) (reducedPayout : Bool) (gasPrice : Int) :
    List ExecutorGasUsed → Int → Except Fault (List Distribution × Int)
  | [], reducedPayoutBurn => .ok ([], reducedPayoutBurn)
  | executor :: rest, reducedPayoutBurn => do
    let payout ← executorPayout burnRatio reducedPayout executor.Amount reducedPayoutBurn
    let amount ← intMul payout.1 gasPrice
    let tail ← executorDistributions burnRatio reducedPayout gasPrice rest payout.2
    pure (.executorReward executor.PublicKey amount :: tail.1, tail.2)

/-- data proxy 一つへの分配（`NewDataProxyReward`）。 -/
def proxyDistribution (gasPrice : Int) (proxy : ProxyGasUsed) : Except Fault Distribution := do
  let amount ← intMul proxy.Amount gasPrice
  pure (.dataProxyReward proxy.PayoutAddress proxy.PublicKey amount)

/--
`Keeper.DistributionsFromGasMeter`。要求の高さは event にだけ使われる。
`math.Int` の積と和は 256 bit を超えると panic する。
-/
def Keeper.DistributionsFromGasMeter (k : Keeper) (ctx : Context) (reqID : String)
    (_reqHeight : UInt64) (gasMeter : GasMeter) (burnRatio : LegacyDec) :
    Except Fault (List Distribution) := do
  let burn ← intMul gasMeter.TallyGasUsed gasMeter.GasPrice
  let proxyDists ← (HashSort k.sha256 ProxyGasUsed.GetSortKey gasMeter.proxies
    (GetEntropy reqID ctx.BlockHeight)).mapM (proxyDistribution gasMeter.GasPrice)
  let executorDists ← executorDistributions burnRatio gasMeter.ReducedPayout gasMeter.GasPrice
    gasMeter.executors 0
  let extraBurn ← intMul executorDists.2 gasMeter.GasPrice
  let burnTotal ← intAdd burn extraBurn
  pure (.burn burnTotal :: proxyDists ++ executorDists.1)

/-! ## 和 -/

/-- 分配の額の和。 -/
def totalAmount (dists : List Distribution) : Int := (dists.map Distribution.amount).sum

theorem totalAmount_cons (d : Distribution) (ds : List Distribution) :
    totalAmount (d :: ds) = d.amount + totalAmount ds := by
  simp [totalAmount]

theorem totalAmount_append (ds ds' : List Distribution) :
    totalAmount (ds ++ ds') = totalAmount ds + totalAmount ds' := by
  simp [totalAmount]

/-- 一人分について、払う額と燃やす額の増分の和はもとの額である。 -/
theorem executorPayout_add {burnRatio : LegacyDec} {reduced : Bool} {amount : Nat} {acc : Int}
    {payout : Int × Int} (h : executorPayout burnRatio reduced amount acc = .ok payout) :
    payout.1 + payout.2 = amount + acc := by
  unfold executorPayout at h
  split at h
  · obtain ⟨b, -, h⟩ := bind_eq_ok.mp h
    obtain ⟨p, hsub, h⟩ := bind_eq_ok.mp h
    obtain ⟨a, hadd, h⟩ := bind_eq_ok.mp h
    cases h
    rw [intSub_eq_ok hsub, intAdd_eq_ok hadd]
    omega
  · cases h; rfl

/--
executor への分配の額と、燃やす額の増分の価格倍の和は、価格と額の和の積である。
減額で引いた額は燃やす額に足されるので、和は減額に依らない。
-/
theorem executorDistributions_sum (burnRatio : LegacyDec) (reduced : Bool) (price : Int) :
    ∀ (es : List ExecutorGasUsed) (acc : Int) (r : List Distribution × Int),
      executorDistributions burnRatio reduced price es acc = .ok r →
      totalAmount r.1 + price * r.2 = price * ((es.map (·.Amount)).sum + acc)
  | [], acc, r, h => by
    cases h; simp [totalAmount]
  | e :: es, acc, r, h => by
    simp only [executorDistributions] at h
    obtain ⟨payout, hp, h⟩ := bind_eq_ok.mp h
    obtain ⟨amount, ha, h⟩ := bind_eq_ok.mp h
    obtain ⟨tail, ht, h⟩ := bind_eq_ok.mp h
    cases h
    have ih := executorDistributions_sum burnRatio reduced price es payout.2 tail ht
    have hsplit := executorPayout_add hp
    rw [totalAmount_cons, intMul_eq_ok ha]
    simp only [Distribution.amount, List.map_cons, List.sum_cons, Nat.cast_add]
    linear_combination ih + price * hsplit

/-- proxy への分配の額の和は、価格と額の和の積である。 -/
theorem proxyDistributions_sum (price : Int) :
    ∀ (ps : List ProxyGasUsed) (ds : List Distribution),
      ps.mapM (proxyDistribution price) = .ok ds → totalAmount ds = price * (ps.map (·.Amount)).sum
  | [], ds, h => by cases h; simp [totalAmount]
  | p :: ps, ds, h => by
    simp only [List.mapM_cons] at h
    obtain ⟨d, hd, h⟩ := bind_eq_ok.mp h
    obtain ⟨rest, hrest, h⟩ := bind_eq_ok.mp h
    cases h
    obtain ⟨a, ha, hd⟩ := bind_eq_ok.mp hd
    cases hd
    rw [totalAmount_cons, proxyDistributions_sum price ps rest hrest, intMul_eq_ok ha]
    simp only [Distribution.amount, List.map_cons, List.sum_cons]
    push_cast
    rw [Int.mul_add, Int.mul_comm]

/--
**分配の額の和は、gas 価格と使った gas（tally gas と記録した実行 gas）の積である。**
減額のときに executor から引いた額は燃やす額に価格倍で足されるので、和は減額の有無に依らない。
-/
theorem sum_DistributionsFromGasMeter (k : Keeper) (ctx : Context) (reqID : String)
    (reqHeight : UInt64) (g : GasMeter) (burnRatio : LegacyDec) {dists : List Distribution}
    (h : k.DistributionsFromGasMeter ctx reqID reqHeight g burnRatio = .ok dists) :
    totalAmount dists = g.GasPrice * (g.TallyGasUsed + g.recordedExecGas) := by
  simp only [Keeper.DistributionsFromGasMeter] at h
  obtain ⟨burn, hburn, h⟩ := bind_eq_ok.mp h
  obtain ⟨proxyDists, hp, h⟩ := bind_eq_ok.mp h
  obtain ⟨execDists, he, h⟩ := bind_eq_ok.mp h
  obtain ⟨extra, hextra, h⟩ := bind_eq_ok.mp h
  obtain ⟨total, htotal, h⟩ := bind_eq_ok.mp h
  cases h
  have hps := proxyDistributions_sum g.GasPrice _ proxyDists hp
  -- proxy の並べ替えは額の和を変えない
  have hperm : ((HashSort k.sha256 ProxyGasUsed.GetSortKey g.proxies
      (GetEntropy reqID ctx.BlockHeight)).map (·.Amount)).sum = (g.proxies.map (·.Amount)).sum :=
    ((HashSort_perm _ _ _ _).map _).sum_eq
  have hes := executorDistributions_sum burnRatio g.ReducedPayout g.GasPrice g.executors 0 execDists he
  rw [totalAmount_append, totalAmount_cons, hps, hperm]
  simp only [Distribution.amount]
  rw [intAdd_eq_ok htotal, intMul_eq_ok hextra, intMul_eq_ok hburn]
  simp only [GasMeter.recordedExecGas] at hes ⊢
  push_cast at hes ⊢
  linear_combination hes

/-! ## executor の額は負にならない -/

/-- 燃やす割合が 0 以上 1 以下なら、燃やす額は 0 以上で額以下である。 -/
theorem reducedPayoutBurnOf_le {burnRatio : LegacyDec} (h₀ : 0 ≤ burnRatio.raw)
    (h₁ : burnRatio.raw ≤ LegacyDec.precision) {amount : Nat} {b : Int}
    (h : reducedPayoutBurnOf burnRatio amount = .ok b) : 0 ≤ b ∧ b ≤ amount := by
  unfold reducedPayoutBurnOf LegacyDec.MulIntTruncateInt at h
  split at h
  · cases h
    have hp : (0 : Int) < LegacyDec.precision := by decide
    have hnn : 0 ≤ burnRatio.raw * amount := Int.mul_nonneg h₀ (Int.natCast_nonneg _)
    rw [Int.tdiv_eq_ediv_of_nonneg hnn]
    refine ⟨Int.ediv_nonneg hnn hp.le, ?_⟩
    -- `raw * amount ≤ 10^18 * amount`
    have hle : burnRatio.raw * amount ≤ LegacyDec.precision * amount :=
      Int.mul_le_mul_of_nonneg_right h₁ (Int.natCast_nonneg _)
    exact Int.ediv_le_of_le_mul hp (by rw [Int.mul_comm (amount : Int)]; exact hle)
  · cases h

/-- 燃やす割合が 0 以上 1 以下なら、一人に払う額は負にならない。 -/
theorem executorPayout_nonneg {burnRatio : LegacyDec} (h₀ : 0 ≤ burnRatio.raw)
    (h₁ : burnRatio.raw ≤ LegacyDec.precision) {reduced : Bool} {amount : Nat} {acc : Int}
    {payout : Int × Int} (h : executorPayout burnRatio reduced amount acc = .ok payout) :
    0 ≤ payout.1 := by
  unfold executorPayout at h
  split at h
  · obtain ⟨b, hb, h⟩ := bind_eq_ok.mp h
    obtain ⟨p, hsub, h⟩ := bind_eq_ok.mp h
    obtain ⟨a, -, h⟩ := bind_eq_ok.mp h
    cases h
    rw [intSub_eq_ok hsub]
    have := (reducedPayoutBurnOf_le h₀ h₁ hb).2
    omega
  · cases h; exact Int.natCast_nonneg _

/-- executor の分配はどれも、価格と負でない額の積である。 -/
theorem executorDistributions_nonneg (burnRatio : LegacyDec) (h₀ : 0 ≤ burnRatio.raw)
    (h₁ : burnRatio.raw ≤ LegacyDec.precision) (reduced : Bool) {price : Int} (hprice : 0 < price) :
    ∀ (es : List ExecutorGasUsed) (acc : Int) (r : List Distribution × Int),
      executorDistributions burnRatio reduced price es acc = .ok r →
      ∀ d ∈ r.1, 0 ≤ d.amount
  | [], acc, r, h => by cases h; simp
  | e :: es, acc, r, h => by
    simp only [executorDistributions] at h
    obtain ⟨payout, hp, h⟩ := bind_eq_ok.mp h
    obtain ⟨amount, ha, h⟩ := bind_eq_ok.mp h
    obtain ⟨tail, ht, h⟩ := bind_eq_ok.mp h
    cases h
    have hpay := executorPayout_nonneg h₀ h₁ hp
    intro d hd
    rcases List.mem_cons.mp hd with rfl | hd
    · rw [Distribution.amount, intMul_eq_ok ha]
      exact Int.mul_nonneg hpay hprice.le
    · exact executorDistributions_nonneg burnRatio h₀ h₁ reduced hprice es _ tail ht d hd

/-- proxy への分配は proxy への報酬である。 -/
theorem proxyDistributions_not_executor (price : Int) :
    ∀ (ps : List ProxyGasUsed) (ds : List Distribution),
      ps.mapM (proxyDistribution price) = .ok ds → ∀ d ∈ ds, d.isExecutorReward = false := by
  intro ps ds h d hd
  obtain ⟨p, -, hp⟩ := exists_of_mapM_eq_ok h d hd
  obtain ⟨a, -, hp⟩ := bind_eq_ok.mp hp
  cases hp
  rfl

/--
**executor への報酬は負にならない。** 燃やす割合が 0 以上 1 以下で gas 価格が正なら、
減額の有無に依らず、分配の列の executor への報酬はどれも 0 以上である。
-/
theorem executorReward_nonneg_DistributionsFromGasMeter (k : Keeper) (ctx : Context)
    (reqID : String) (reqHeight : UInt64) {g : GasMeter} {burnRatio : LegacyDec}
    (h₀ : 0 ≤ burnRatio.raw) (h₁ : burnRatio.raw ≤ LegacyDec.precision) (hprice : 0 < g.GasPrice)
    {dists : List Distribution}
    (h : k.DistributionsFromGasMeter ctx reqID reqHeight g burnRatio = .ok dists) :
    ∀ d ∈ dists, d.isExecutorReward = true → 0 ≤ d.amount := by
  simp only [Keeper.DistributionsFromGasMeter] at h
  obtain ⟨burn, -, h⟩ := bind_eq_ok.mp h
  obtain ⟨proxyDists, hp, h⟩ := bind_eq_ok.mp h
  obtain ⟨execDists, he, h⟩ := bind_eq_ok.mp h
  obtain ⟨extra, -, h⟩ := bind_eq_ok.mp h
  obtain ⟨total, -, h⟩ := bind_eq_ok.mp h
  cases h
  intro d hd hexec
  -- 燃やす額でも proxy への報酬でもないので、executor の分配の列にある
  rcases List.mem_append.mp hd with hd | hd
  · rcases List.mem_cons.mp hd with rfl | hd
    · cases hexec
    · rw [proxyDistributions_not_executor _ _ _ hp d hd] at hexec
      cases hexec
  · exact executorDistributions_nonneg burnRatio h₀ h₁ g.ReducedPayout hprice _ 0 _ he d hd

end SedaChain.Tally
