import SedaChain.Tally.Types
import SedaChain.Infra.Go

/-!
# gas meter（`x/tally/types/gas_meter.go`）

一つの要求の tally gas と実行 gas を数える。書き手は五つある。

* 基本料金と filter の料金、tally VM の gas（`ConsumeTallyGas`）
* data proxy への支払い（`ConsumeExecGasForProxy`）
* executor への支払い（`ConsumeExecGasForExecutor`）

`ConsumeExecGasFor*` は **記録する額は減らさずに**、残りが足りなければ残りを 0 にする。
したがって「記録した額の和 + 残り = 上限」（`Conserved`）は、書き手が毎回
残りの範囲で頼む限りでしか保たれない。この module は、残りの範囲で頼んだ書き手が
使った分だけを記録すること（`Spent`）を書き手ごとに示し、`Spent` が保存則を運ぶこと
（`Conserved.spent`）を示す。

残りが上限を超えないことは構造体の field として持つ。したがって
`TallyGasUsed` と `ExecutionGasUsed` の引き算は Go でも折り返さない。
-/

namespace SedaChain.Tally

open Infra Infra.Go

/-- `ProxyGasUsed`。額は Go では `math.Int` だが、つねに `NewIntFromUint64` で作られる。 -/
structure ProxyGasUsed where
  PayoutAddress : String
  PublicKey : String
  Amount : Nat
deriving DecidableEq, Repr

/-- `ExecutorGasUsed`。額は `ProxyGasUsed` と同じく `uint64` から作られる。 -/
structure ExecutorGasUsed where
  PublicKey : String
  Amount : Nat
deriving DecidableEq, Repr

/-- `GasMeter`。残りが上限を超えないこと、上限が `uint64` に収まることを field として持つ。 -/
structure GasMeter where
  proxies : List ProxyGasUsed
  executors : List ExecutorGasUsed
  ReducedPayout : Bool
  tallyGasLimit : Nat
  tallyGasRemaining : Nat
  execGasLimit : Nat
  execGasRemaining : Nat
  totalProxyGasPerExec : Nat
  postedGasPrice : Int
  tallyGasRemaining_le : tallyGasRemaining ≤ tallyGasLimit
  execGasRemaining_le : execGasRemaining ≤ execGasLimit
  tallyGasLimit_lt : tallyGasLimit < 2 ^ 64
  execGasLimit_lt : execGasLimit < 2 ^ 64
deriving DecidableEq

namespace GasMeter

/-! ## 読む -/

/-- `TallyGasUsed`。 -/
def TallyGasUsed (g : GasMeter) : Nat := g.tallyGasLimit - g.tallyGasRemaining

/-- `ExecutionGasUsed`。 -/
def ExecutionGasUsed (g : GasMeter) : Nat := g.execGasLimit - g.execGasRemaining

/-- `TotalGasUsed`。`math.Int` の和なので折り返さない。 -/
def TotalGasUsed (g : GasMeter) : Int := (g.TallyGasUsed : Int) + g.ExecutionGasUsed

/-- `CorrectExecGasReportWithProxyGas`。報告から proxy の分を引く（下限 0）。 -/
def CorrectExecGasReportWithProxyGas (g : GasMeter) (gasReport : Nat) : Nat :=
  if gasReport ≤ g.totalProxyGasPerExec then 0 else gasReport - g.totalProxyGasPerExec

/-- `RemainingTallyGas`。 -/
def RemainingTallyGas (g : GasMeter) : Nat := g.tallyGasRemaining

/-- `RemainingExecGas`。 -/
def RemainingExecGas (g : GasMeter) : Nat := g.execGasRemaining

/-- `GasPrice`。要求に投稿された gas 価格。 -/
def GasPrice (g : GasMeter) : Int := g.postedGasPrice

/-- `SetReducedPayoutMode`。 -/
def SetReducedPayoutMode (g : GasMeter) : GasMeter := { g with ReducedPayout := true }

/-! ## 書く -/

/-- `ConsumeTallyGas`。足りなければ残りを 0 にして `true`（gas 切れ）を返す。 -/
def ConsumeTallyGas (g : GasMeter) (amount : Nat) : Bool × GasMeter :=
  if amount > g.tallyGasRemaining then
    (true, { g with tallyGasRemaining := 0, tallyGasRemaining_le := Nat.zero_le _ })
  else
    (false, { g with tallyGasRemaining := g.tallyGasRemaining - amount
                     tallyGasRemaining_le := by have := g.tallyGasRemaining_le; omega })

/-- 二つの `ConsumeExecGasFor*` に共通の部分。足りなければ残りを 0 にする。 -/
def subExecGas (g : GasMeter) (amount : Nat) : GasMeter :=
  if amount > g.execGasRemaining then
    { g with execGasRemaining := 0, execGasRemaining_le := Nat.zero_le _ }
  else
    { g with execGasRemaining := g.execGasRemaining - amount
             execGasRemaining_le := by have := g.execGasRemaining_le; omega }

/--
`ConsumeExecGasForProxy`。記録する額は `gasUsedPerExec * replicationFactor`
（`uint64` の積）で、残りが足りなくても減らさない。
-/
def ConsumeExecGasForProxy (g : GasMeter) (proxyPubkey payoutAddr : String) (gasUsedPerExec : Nat)
    (replicationFactor : UInt16) : GasMeter :=
  let amount := mulU64 gasUsedPerExec replicationFactor.toNat
  let g1 : GasMeter := { g with
    proxies := g.proxies ++ [{ PayoutAddress := payoutAddr, PublicKey := proxyPubkey, Amount := amount }] }
  let g2 := g1.subExecGas amount
  { g2 with totalProxyGasPerExec := addU64 g2.totalProxyGasPerExec gasUsedPerExec }

/-- `ConsumeExecGasForExecutor`。記録する額は残りが足りなくても減らさない。 -/
def ConsumeExecGasForExecutor (g : GasMeter) (executorPubKey : String) (amount : Nat) : GasMeter :=
  (({ g with executors := g.executors ++ [{ PublicKey := executorPubKey, Amount := amount }] } :
    GasMeter)).subExecGas amount

end GasMeter

/--
`NewGasMeter`。tally gas の上限は要求の上限と module の上限の小さい方である。
基本料金は足りなくても必ず取る（足りなければ残りを 0 にする）。
-/
def NewGasMeter (tallyGasLimit execGasLimit maxTallyGasLimit : UInt64) (postedGasPrice : Int)
    (baseGasCost : UInt64) : GasMeter :=
  let g : GasMeter :=
    { proxies := [], executors := [], ReducedPayout := false
      tallyGasLimit := min tallyGasLimit.toNat maxTallyGasLimit.toNat
      tallyGasRemaining := min tallyGasLimit.toNat maxTallyGasLimit.toNat
      execGasLimit := execGasLimit.toNat
      execGasRemaining := execGasLimit.toNat
      totalProxyGasPerExec := 0
      postedGasPrice := postedGasPrice
      tallyGasRemaining_le := Nat.le_refl _
      execGasRemaining_le := Nat.le_refl _
      tallyGasLimit_lt := Nat.lt_of_le_of_lt (Nat.min_le_left _ _) tallyGasLimit.toNat_lt
      execGasLimit_lt := execGasLimit.toNat_lt }
  if baseGasCost.toNat > g.tallyGasLimit then
    { g with tallyGasRemaining := 0, tallyGasRemaining_le := Nat.zero_le _ }
  else (g.ConsumeTallyGas baseGasCost.toNat).2

namespace GasMeter

/-! ## field ごとの補題 -/

section Fields

variable (g : GasMeter)

@[simp] theorem consumeTallyGas_execGasRemaining (a : Nat) :
    (g.ConsumeTallyGas a).2.execGasRemaining = g.execGasRemaining := by
  unfold ConsumeTallyGas; split <;> rfl

@[simp] theorem consumeTallyGas_execGasLimit (a : Nat) :
    (g.ConsumeTallyGas a).2.execGasLimit = g.execGasLimit := by
  unfold ConsumeTallyGas; split <;> rfl

@[simp] theorem consumeTallyGas_tallyGasLimit (a : Nat) :
    (g.ConsumeTallyGas a).2.tallyGasLimit = g.tallyGasLimit := by
  unfold ConsumeTallyGas; split <;> rfl

@[simp] theorem consumeTallyGas_proxies (a : Nat) :
    (g.ConsumeTallyGas a).2.proxies = g.proxies := by
  unfold ConsumeTallyGas; split <;> rfl

@[simp] theorem consumeTallyGas_executors (a : Nat) :
    (g.ConsumeTallyGas a).2.executors = g.executors := by
  unfold ConsumeTallyGas; split <;> rfl

@[simp] theorem consumeTallyGas_totalProxyGasPerExec (a : Nat) :
    (g.ConsumeTallyGas a).2.totalProxyGasPerExec = g.totalProxyGasPerExec := by
  unfold ConsumeTallyGas; split <;> rfl

@[simp] theorem consumeTallyGas_postedGasPrice (a : Nat) :
    (g.ConsumeTallyGas a).2.postedGasPrice = g.postedGasPrice := by
  unfold ConsumeTallyGas; split <;> rfl

@[simp] theorem consumeTallyGas_ReducedPayout (a : Nat) :
    (g.ConsumeTallyGas a).2.ReducedPayout = g.ReducedPayout := by
  unfold ConsumeTallyGas; split <;> rfl

theorem subExecGas_of_le {a : Nat} (h : a ≤ g.execGasRemaining) :
    (g.subExecGas a).execGasRemaining = g.execGasRemaining - a := by
  unfold subExecGas; rw [if_neg (by omega)]

@[simp] theorem subExecGas_execGasLimit (a : Nat) :
    (g.subExecGas a).execGasLimit = g.execGasLimit := by
  unfold subExecGas; split <;> rfl

@[simp] theorem subExecGas_proxies (a : Nat) : (g.subExecGas a).proxies = g.proxies := by
  unfold subExecGas; split <;> rfl

@[simp] theorem subExecGas_executors (a : Nat) : (g.subExecGas a).executors = g.executors := by
  unfold subExecGas; split <;> rfl

@[simp] theorem subExecGas_tallyGasLimit (a : Nat) :
    (g.subExecGas a).tallyGasLimit = g.tallyGasLimit := by
  unfold subExecGas; split <;> rfl

@[simp] theorem subExecGas_tallyGasRemaining (a : Nat) :
    (g.subExecGas a).tallyGasRemaining = g.tallyGasRemaining := by
  unfold subExecGas; split <;> rfl

@[simp] theorem subExecGas_totalProxyGasPerExec (a : Nat) :
    (g.subExecGas a).totalProxyGasPerExec = g.totalProxyGasPerExec := by
  unfold subExecGas; split <;> rfl

@[simp] theorem subExecGas_postedGasPrice (a : Nat) :
    (g.subExecGas a).postedGasPrice = g.postedGasPrice := by
  unfold subExecGas; split <;> rfl

@[simp] theorem subExecGas_ReducedPayout (a : Nat) :
    (g.subExecGas a).ReducedPayout = g.ReducedPayout := by
  unfold subExecGas; split <;> rfl

theorem subExecGas_execGasRemaining_le (a : Nat) :
    (g.subExecGas a).execGasRemaining ≤ g.execGasRemaining := by
  unfold subExecGas; split <;> simp

@[simp] theorem consumeExecGasForExecutor_proxies (pk : String) (a : Nat) :
    (g.ConsumeExecGasForExecutor pk a).proxies = g.proxies :=
  subExecGas_proxies _ a

@[simp] theorem consumeExecGasForExecutor_executors (pk : String) (a : Nat) :
    (g.ConsumeExecGasForExecutor pk a).executors = g.executors ++ [⟨pk, a⟩] :=
  subExecGas_executors _ a

@[simp] theorem consumeExecGasForExecutor_execGasLimit (pk : String) (a : Nat) :
    (g.ConsumeExecGasForExecutor pk a).execGasLimit = g.execGasLimit :=
  subExecGas_execGasLimit _ a

@[simp] theorem consumeExecGasForExecutor_tallyGasLimit (pk : String) (a : Nat) :
    (g.ConsumeExecGasForExecutor pk a).tallyGasLimit = g.tallyGasLimit :=
  subExecGas_tallyGasLimit _ a

@[simp] theorem consumeExecGasForExecutor_tallyGasRemaining (pk : String) (a : Nat) :
    (g.ConsumeExecGasForExecutor pk a).tallyGasRemaining = g.tallyGasRemaining :=
  subExecGas_tallyGasRemaining _ a

@[simp] theorem consumeExecGasForExecutor_totalProxyGasPerExec (pk : String) (a : Nat) :
    (g.ConsumeExecGasForExecutor pk a).totalProxyGasPerExec = g.totalProxyGasPerExec :=
  subExecGas_totalProxyGasPerExec _ a

@[simp] theorem consumeExecGasForExecutor_postedGasPrice (pk : String) (a : Nat) :
    (g.ConsumeExecGasForExecutor pk a).postedGasPrice = g.postedGasPrice :=
  subExecGas_postedGasPrice _ a

@[simp] theorem consumeExecGasForExecutor_ReducedPayout (pk : String) (a : Nat) :
    (g.ConsumeExecGasForExecutor pk a).ReducedPayout = g.ReducedPayout :=
  subExecGas_ReducedPayout _ a

theorem consumeExecGasForExecutor_execGasRemaining (pk : String) {a : Nat}
    (h : a ≤ g.execGasRemaining) :
    (g.ConsumeExecGasForExecutor pk a).execGasRemaining = g.execGasRemaining - a :=
  subExecGas_of_le _ h

theorem consumeExecGasForExecutor_execGasRemaining_le (pk : String) (a : Nat) :
    (g.ConsumeExecGasForExecutor pk a).execGasRemaining ≤ g.execGasRemaining :=
  subExecGas_execGasRemaining_le _ a

@[simp] theorem consumeExecGasForProxy_proxies (pk addr : String) (perExec : Nat) (rf : UInt16) :
    (g.ConsumeExecGasForProxy pk addr perExec rf).proxies
      = g.proxies ++ [⟨addr, pk, mulU64 perExec rf.toNat⟩] :=
  subExecGas_proxies _ _

@[simp] theorem consumeExecGasForProxy_executors (pk addr : String) (perExec : Nat) (rf : UInt16) :
    (g.ConsumeExecGasForProxy pk addr perExec rf).executors = g.executors :=
  subExecGas_executors _ _

@[simp] theorem consumeExecGasForProxy_execGasLimit (pk addr : String) (perExec : Nat)
    (rf : UInt16) : (g.ConsumeExecGasForProxy pk addr perExec rf).execGasLimit = g.execGasLimit :=
  subExecGas_execGasLimit _ _

@[simp] theorem consumeExecGasForProxy_tallyGasLimit (pk addr : String) (perExec : Nat)
    (rf : UInt16) :
    (g.ConsumeExecGasForProxy pk addr perExec rf).tallyGasLimit = g.tallyGasLimit :=
  subExecGas_tallyGasLimit _ _

@[simp] theorem consumeExecGasForProxy_tallyGasRemaining (pk addr : String) (perExec : Nat)
    (rf : UInt16) :
    (g.ConsumeExecGasForProxy pk addr perExec rf).tallyGasRemaining = g.tallyGasRemaining :=
  subExecGas_tallyGasRemaining _ _

@[simp] theorem consumeExecGasForProxy_postedGasPrice (pk addr : String) (perExec : Nat)
    (rf : UInt16) :
    (g.ConsumeExecGasForProxy pk addr perExec rf).postedGasPrice = g.postedGasPrice :=
  subExecGas_postedGasPrice _ _

@[simp] theorem consumeExecGasForProxy_ReducedPayout (pk addr : String) (perExec : Nat)
    (rf : UInt16) :
    (g.ConsumeExecGasForProxy pk addr perExec rf).ReducedPayout = g.ReducedPayout :=
  subExecGas_ReducedPayout _ _

theorem consumeExecGasForProxy_execGasRemaining (pk addr : String) {perExec : Nat} {rf : UInt16}
    (h : perExec * rf.toNat ≤ g.execGasRemaining) :
    (g.ConsumeExecGasForProxy pk addr perExec rf).execGasRemaining
      = g.execGasRemaining - perExec * rf.toNat := by
  have hlt : perExec * rf.toNat < 2 ^ 64 :=
    Nat.lt_of_le_of_lt (Nat.le_trans h g.execGasRemaining_le) g.execGasLimit_lt
  show (subExecGas _ (mulU64 perExec rf.toNat)).execGasRemaining = _
  rw [mulU64_of_lt hlt]
  exact subExecGas_of_le _ h

theorem consumeExecGasForProxy_execGasRemaining_le (pk addr : String) (perExec : Nat)
    (rf : UInt16) :
    (g.ConsumeExecGasForProxy pk addr perExec rf).execGasRemaining ≤ g.execGasRemaining :=
  subExecGas_execGasRemaining_le _ _

end Fields

/-! ## 実行 gas の保存 -/

/-- 記録した実行 gas の和（proxy と executor）。 -/
def recordedExecGas (g : GasMeter) : Nat :=
  (g.proxies.map (·.Amount)).sum + (g.executors.map (·.Amount)).sum

/-- **実行 gas の保存**：記録した額の和と残りの和が上限に等しい。 -/
def Conserved (g : GasMeter) : Prop :=
  g.recordedExecGas + g.execGasRemaining = g.execGasLimit

theorem Conserved.consumeTallyGas {g : GasMeter} (h : g.Conserved) (a : Nat) :
    (g.ConsumeTallyGas a).2.Conserved := by
  unfold Conserved recordedExecGas at *
  simpa using h

theorem Conserved.setReducedPayoutMode {g : GasMeter} (h : g.Conserved) :
    g.SetReducedPayoutMode.Conserved := h

/-! ## 使った分だけ記録する -/

/--
`g'` は `g` から実行 gas を `a` だけ使い、ちょうど `a` を記録したものである。
上限、tally gas、価格、減額の印は変わらない。保存則はこの関係で運ばれる（`Conserved.spent`）。
-/
structure Spent (g g' : GasMeter) (a : Nat) : Prop where
  recorded : g'.recordedExecGas = g.recordedExecGas + a
  remaining : g'.execGasRemaining + a = g.execGasRemaining
  execGasLimit : g'.execGasLimit = g.execGasLimit
  tallyGasLimit : g'.tallyGasLimit = g.tallyGasLimit
  tallyGasRemaining : g'.tallyGasRemaining = g.tallyGasRemaining
  postedGasPrice : g'.postedGasPrice = g.postedGasPrice
  ReducedPayout : g'.ReducedPayout = g.ReducedPayout

theorem Spent.refl (g : GasMeter) : g.Spent g 0 :=
  ⟨by simp, rfl, rfl, rfl, rfl, rfl, rfl⟩

theorem Spent.trans {g₁ g₂ g₃ : GasMeter} {a b : Nat} (h₁ : g₁.Spent g₂ a) (h₂ : g₂.Spent g₃ b) :
    g₁.Spent g₃ (a + b) where
  recorded := by rw [h₂.recorded, h₁.recorded]; omega
  remaining := by have := h₁.remaining; have := h₂.remaining; omega
  execGasLimit := h₂.execGasLimit.trans h₁.execGasLimit
  tallyGasLimit := h₂.tallyGasLimit.trans h₁.tallyGasLimit
  tallyGasRemaining := h₂.tallyGasRemaining.trans h₁.tallyGasRemaining
  postedGasPrice := h₂.postedGasPrice.trans h₁.postedGasPrice
  ReducedPayout := h₂.ReducedPayout.trans h₁.ReducedPayout

/-- 記録した額だけ残りが減るなら、保存則は保たれる。 -/
theorem Conserved.spent {g g' : GasMeter} {a : Nat} (hc : g.Conserved) (h : g.Spent g' a) :
    g'.Conserved := by
  unfold Conserved at *
  have hr := h.remaining
  rw [h.recorded, h.execGasLimit]
  omega

theorem spent_consumeExecGasForExecutor (g : GasMeter) (pk : String) {a : Nat}
    (ha : a ≤ g.execGasRemaining) : g.Spent (g.ConsumeExecGasForExecutor pk a) a where
  recorded := by simp [recordedExecGas]; omega
  remaining := by rw [consumeExecGasForExecutor_execGasRemaining g pk ha]; omega
  execGasLimit := by simp
  tallyGasLimit := by simp
  tallyGasRemaining := by simp
  postedGasPrice := by simp
  ReducedPayout := by simp

theorem spent_consumeExecGasForProxy (g : GasMeter) (pk addr : String) {perExec : Nat}
    {rf : UInt16} (h : perExec * rf.toNat ≤ g.execGasRemaining) :
    g.Spent (g.ConsumeExecGasForProxy pk addr perExec rf) (perExec * rf.toNat) where
  recorded := by
    have hlt : perExec * rf.toNat < 2 ^ 64 :=
      Nat.lt_of_le_of_lt (Nat.le_trans h g.execGasRemaining_le) g.execGasLimit_lt
    simp [recordedExecGas, mulU64_of_lt hlt]; omega
  remaining := by rw [consumeExecGasForProxy_execGasRemaining g pk addr h]; omega
  execGasLimit := by simp
  tallyGasLimit := by simp
  tallyGasRemaining := by simp
  postedGasPrice := by simp
  ReducedPayout := by simp

/--
executor への支払いを順に行う。額の和が残りを超えなければ、全体でその和だけ使う。
-/
theorem spent_foldl_consumeExecGasForExecutor :
    ∀ (l : List (String × Nat)) (g : GasMeter), (l.map Prod.snd).sum ≤ g.execGasRemaining →
      g.Spent (l.foldl (fun g p => g.ConsumeExecGasForExecutor p.1 p.2) g) (l.map Prod.snd).sum
  | [], g, _ => Spent.refl g
  | p :: l, g, h => by
    simp only [List.map_cons, List.sum_cons] at h ⊢
    have hp : p.2 ≤ g.execGasRemaining := by omega
    have h₁ := spent_consumeExecGasForExecutor g p.1 hp
    have h₂ := spent_foldl_consumeExecGasForExecutor l (g.ConsumeExecGasForExecutor p.1 p.2)
      (by have := h₁.remaining; omega)
    exact h₁.trans h₂

/-- 新しい meter は何も記録しておらず、残りは上限に等しい。 -/
theorem conserved_NewGasMeter (tl el ml : UInt64) (p : Int) (b : UInt64) :
    (NewGasMeter tl el ml p b).Conserved := by
  unfold NewGasMeter
  dsimp only
  split
  · simp [Conserved, recordedExecGas]
  · exact Conserved.consumeTallyGas (by simp [Conserved, recordedExecGas]) _

/-- tally gas は使った分と残りの和が上限である（残りが上限を超えないことから）。 -/
theorem tallyGasUsed_add_remaining (g : GasMeter) :
    g.TallyGasUsed + g.tallyGasRemaining = g.tallyGasLimit := by
  have := g.tallyGasRemaining_le
  unfold TallyGasUsed; omega

/-- 保存則のもとでは、使った実行 gas は記録した額の和である。 -/
theorem Conserved.executionGasUsed {g : GasMeter} (h : g.Conserved) :
    g.ExecutionGasUsed = g.recordedExecGas := by
  unfold Conserved at h
  unfold ExecutionGasUsed
  omega

@[simp] theorem NewGasMeter_tallyGasLimit (tl el ml : UInt64) (p : Int) (b : UInt64) :
    (NewGasMeter tl el ml p b).tallyGasLimit = min tl.toNat ml.toNat := by
  unfold NewGasMeter; dsimp only; split <;> simp

@[simp] theorem NewGasMeter_execGasLimit (tl el ml : UInt64) (p : Int) (b : UInt64) :
    (NewGasMeter tl el ml p b).execGasLimit = el.toNat := by
  unfold NewGasMeter; dsimp only; split <;> simp

@[simp] theorem NewGasMeter_postedGasPrice (tl el ml : UInt64) (p : Int) (b : UInt64) :
    (NewGasMeter tl el ml p b).postedGasPrice = p := by
  unfold NewGasMeter; dsimp only; split <;> simp

@[simp] theorem NewGasMeter_proxies (tl el ml : UInt64) (p : Int) (b : UInt64) :
    (NewGasMeter tl el ml p b).proxies = [] := by
  unfold NewGasMeter; dsimp only; split <;> simp

@[simp] theorem NewGasMeter_executors (tl el ml : UInt64) (p : Int) (b : UInt64) :
    (NewGasMeter tl el ml p b).executors = [] := by
  unfold NewGasMeter; dsimp only; split <;> simp

@[simp] theorem NewGasMeter_ReducedPayout (tl el ml : UInt64) (p : Int) (b : UInt64) :
    (NewGasMeter tl el ml p b).ReducedPayout = false := by
  unfold NewGasMeter; dsimp only; split <;> simp

@[simp] theorem NewGasMeter_execGasRemaining (tl el ml : UInt64) (p : Int) (b : UInt64) :
    (NewGasMeter tl el ml p b).execGasRemaining = el.toNat := by
  unfold NewGasMeter; dsimp only; split <;> simp

/-! ## 使った tally gas -/

/-- `ConsumeTallyGas` は使った tally gas を `amount` だけ増やし、上限で抑える。 -/
theorem tallyGasUsed_consumeTallyGas (g : GasMeter) (a : Nat) :
    (g.ConsumeTallyGas a).2.TallyGasUsed = min g.tallyGasLimit (g.TallyGasUsed + a) := by
  have := g.tallyGasRemaining_le
  unfold ConsumeTallyGas TallyGasUsed
  split <;> dsimp only <;> omega

/-- 0 を払っても gas meter は変わらない。 -/
theorem consumeTallyGas_zero (g : GasMeter) : (g.ConsumeTallyGas 0).2 = g := by
  cases g; simp [ConsumeTallyGas]

/-- 新しい meter は、基本料金を上限で抑えた分だけ tally gas を使っている。 -/
theorem NewGasMeter_TallyGasUsed (tl el ml : UInt64) (p : Int) (b : UInt64) :
    (NewGasMeter tl el ml p b).TallyGasUsed = min (min tl.toNat ml.toNat) b.toNat := by
  unfold NewGasMeter
  dsimp only
  split
  · simp only [TallyGasUsed]; omega
  · rw [tallyGasUsed_consumeTallyGas]; simp [TallyGasUsed]

/-! ## 実行 gas だけを動かす -/

/--
`g'` は `g` と tally gas も減額の印も同じである。実行 gas の支払い（proxy と executor）は
これしか動かさない。`Spent` と違って、支払いが残りに収まることは求めない。
-/
structure SameTally (g g' : GasMeter) : Prop where
  tallyGasLimit : g'.tallyGasLimit = g.tallyGasLimit
  tallyGasRemaining : g'.tallyGasRemaining = g.tallyGasRemaining
  ReducedPayout : g'.ReducedPayout = g.ReducedPayout

theorem SameTally.refl (g : GasMeter) : g.SameTally g := ⟨rfl, rfl, rfl⟩

theorem SameTally.trans {g₁ g₂ g₃ : GasMeter} (h₁ : g₁.SameTally g₂) (h₂ : g₂.SameTally g₃) :
    g₁.SameTally g₃ :=
  ⟨h₂.tallyGasLimit.trans h₁.tallyGasLimit, h₂.tallyGasRemaining.trans h₁.tallyGasRemaining,
    h₂.ReducedPayout.trans h₁.ReducedPayout⟩

theorem SameTally.tallyGasUsed {g g' : GasMeter} (h : g.SameTally g') :
    g'.TallyGasUsed = g.TallyGasUsed := by
  unfold TallyGasUsed; rw [h.tallyGasLimit, h.tallyGasRemaining]

theorem sameTally_consumeExecGasForExecutor (g : GasMeter) (pk : String) (a : Nat) :
    g.SameTally (g.ConsumeExecGasForExecutor pk a) := ⟨by simp, by simp, by simp⟩

theorem sameTally_consumeExecGasForProxy (g : GasMeter) (pk addr : String) (perExec : Nat)
    (rf : UInt16) : g.SameTally (g.ConsumeExecGasForProxy pk addr perExec rf) :=
  ⟨by simp, by simp, by simp⟩

/-- executor への支払いを順に行うと、executor の記録は支払いの列だけ伸び、他は変わらない。 -/
theorem foldl_consumeExecGasForExecutor :
    ∀ (l : List (String × Nat)) (g : GasMeter),
      (l.foldl (fun g p => g.ConsumeExecGasForExecutor p.1 p.2) g).executors =
          g.executors ++ l.map (fun p => ⟨p.1, p.2⟩) ∧
        (l.foldl (fun g p => g.ConsumeExecGasForExecutor p.1 p.2) g).proxies = g.proxies ∧
        g.SameTally (l.foldl (fun g p => g.ConsumeExecGasForExecutor p.1 p.2) g)
  | [], g => ⟨by simp, rfl, .refl g⟩
  | p :: l, g => by
    obtain ⟨h₁, h₂, h₃⟩ := foldl_consumeExecGasForExecutor l (g.ConsumeExecGasForExecutor p.1 p.2)
    simp only [List.foldl_cons]
    exact ⟨by simp [h₁], by simp [h₂], (sameTally_consumeExecGasForExecutor g _ _).trans h₃⟩

end GasMeter

end SedaChain.Tally
