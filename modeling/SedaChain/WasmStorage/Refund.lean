import SedaChain.App.CommitReveal
import SedaChain.Batching.Types
import SedaChain.Infra.List

/-!
# 手数料の返金（`x/wasm-storage/keeper/msg_server.go`）

Core Contract は commit と reveal を実行しながら `MsgRefundTxFee` を送り、tx の手数料を支払者に
返させる。`RefundTxFee` は request の三つ組の文字列を tx の最後の message の文字列と比べるだけで、
どの message の実行中に呼ばれたかを知らない。それでも返金が一度に限られるのは、ante handler が
commit と reveal の文字列を相異なるものにしているからである。

* `RefundTxFee_spec`：返金するのは、authority が登録された Core Contract で、request の文字列が
  最後の message の文字列と等しく、gas limit が消費量の 3 倍未満のときで、送金は fee collector
  から支払者へ、手数料の全額である
* **`RefundTxFee_at_most_once`**：ante handler を通った tx の message ごとに Core Contract が
  その message の三つ組で高々一度呼ぶなら、返金は高々一度で、最後の message の実行中に限る

tx は `ctx.TxBytes()` を復号した `FeeTx` そのものとし、tx の間 Core Contract の登録は変わらない。
-/

namespace SedaChain.WasmStorage

open Infra Infra.Go SedaChain.App

/-- `MsgRefundTxFee`。 -/
structure MsgRefundTxFee where
  Authority : String
  DrId : String
  PublicKey : String
  IsReveal : Bool
deriving DecidableEq, Repr

/-- `SendCoinsFromModuleToAccount(ctx, module, recipient, amount)` の送金。 -/
structure Refund where
  Module : String
  Recipient : String
  Amount : List Coin
deriving DecidableEq, Repr

/--
返金が読む keeper。`AccAddressFromBech32` は bech32 の文字列を読み、その address の正規の
文字列（`AccAddress.String()`）を返す。
-/
structure Keeper where
  CoreContractRegistry : Option String
  AccAddressFromBech32 : String → Except String String
  unmarshal : Bytes → Except String ContractMsgFields
  SendCoinsFromModuleToAccount : String → String → List Coin → Except String Unit
  feeCollectorName : String

namespace Keeper

/-- `CoreContractRegistry.Get`。 -/
def getCoreContractRegistry (k : Keeper) : Except Fault String :=
  match k.CoreContractRegistry with
  | some s => .ok s
  | none => .error Batching.errNotFound

/-- `GetCoreContractAddr`。登録が空文字列なら Core Contract は無い。 -/
def GetCoreContractAddr (k : Keeper) : Except Fault (Option String) := do
  let contractAddrBech32 ← k.getCoreContractRegistry
  if contractAddrBech32 = "" then return none
  let contractAddr ← (k.AccAddressFromBech32 contractAddrBech32).mapError Fault.error
  return some contractAddr

/-- `sdk.Coins.IsZero`。 -/
def feeIsZero (fee : List Coin) : Bool := fee.all (·.Amount = 0)

/--
`RefundTxFee`。`gasLimit` と `gasConsumed` は呼ばれた時点の tx の gas meter で、結果は行った
送金である。
-/
def RefundTxFee (k : Keeper) (tx : Tx) (gasLimit gasConsumed : Nat) (req : MsgRefundTxFee) :
    Except Fault (Option Refund) := do
  let _ ← (k.AccAddressFromBech32 req.Authority).mapError Fault.error
  let coreContract ← k.getCoreContractRegistry
  if coreContract ≠ req.Authority then
    throw (.error s!"expected {coreContract}, got {req.Authority}: invalid authority")
  -- simulation では手数料が 0 でありうる
  if feeIsZero tx.Fee then return none
  let lastMsg ← index tx.Msgs ((tx.Msgs.length : Int) - 1)
  let extracted := ExtractCommitRevealMsgInfo k.unmarshal coreContract lastMsg
  if !extracted.2 then
    throw (.error (invalidRequest "last message in tx is not a commit or reveal"))
  if extracted.1 = msgInfo req.DrId req.PublicKey req.IsReveal then
    -- gas limit が大きすぎる tx には返さない（block の gas を使い切らせる攻撃を防ぐ）
    if gasLimit < mulU64 gasConsumed 3 then
      (k.SendCoinsFromModuleToAccount k.feeCollectorName tx.FeePayer tx.Fee).mapError
        (fun e => .error (e ++ ": insufficient funds"))
      return some ⟨k.feeCollectorName, tx.FeePayer, tx.Fee⟩
    else return none
  else return none

theorem getCoreContractRegistry_eq_ok {k : Keeper} {s : String} :
    k.getCoreContractRegistry = .ok s ↔ k.CoreContractRegistry = some s := by
  unfold getCoreContractRegistry
  split <;> simp_all

/-- 返金の送金の前半：送金の前に通る検査と、読んだ最後の message。 -/
theorem RefundTxFee_spec {k : Keeper} {tx : Tx} {gasLimit gasConsumed : Nat}
    {req : MsgRefundTxFee} {r : Refund}
    (h : k.RefundTxFee tx gasLimit gasConsumed req = .ok (some r)) :
    k.CoreContractRegistry = some req.Authority ∧
      (∃ lastMsg, tx.Msgs[tx.Msgs.length - 1]? = some lastMsg ∧
        ExtractCommitRevealMsgInfo k.unmarshal req.Authority lastMsg =
          (msgInfo req.DrId req.PublicKey req.IsReveal, true)) ∧
      gasLimit < mulU64 gasConsumed 3 ∧
      r = ⟨k.feeCollectorName, tx.FeePayer, tx.Fee⟩ := by
  unfold RefundTxFee at h
  obtain ⟨_, -, h⟩ := bind_eq_ok.mp h
  obtain ⟨coreContract, hreg, h⟩ := bind_eq_ok.mp h
  -- Go の早い return を一つずつ外す
  by_cases hauth : coreContract = req.Authority
  swap
  · simp [hauth] at h
  subst hauth
  by_cases hzero : feeIsZero tx.Fee = true
  · simp [hzero] at h
  simp only [ne_eq, not_true_eq_false, ↓reduceIte, hzero, Bool.false_eq_true, pure_eq_ok] at h
  obtain ⟨lastMsg, hlast, h⟩ := bind_eq_ok.mp h
  by_cases hok : (ExtractCommitRevealMsgInfo k.unmarshal req.Authority lastMsg).2 = true
  swap
  · simp [hok] at h
  by_cases hinfo : (ExtractCommitRevealMsgInfo k.unmarshal req.Authority lastMsg).1 =
      msgInfo req.DrId req.PublicKey req.IsReveal
  swap
  · simp [hok, hinfo] at h
  by_cases hgas : gasLimit < mulU64 gasConsumed 3
  swap
  · simp [hok, hinfo, hgas] at h
  simp only [hok, hinfo, hgas, Bool.not_true, Bool.false_eq_true, ↓reduceIte] at h
  obtain ⟨_, -, h⟩ := bind_eq_ok.mp h
  obtain ⟨-, hidx⟩ := getElem?_of_index_eq_ok hlast
  have hpos : ((tx.Msgs.length : Int) - 1).toNat = tx.Msgs.length - 1 := by omega
  refine ⟨getCoreContractRegistry_eq_ok.mp hreg, ⟨lastMsg, hpos ▸ hidx, Prod.ext hinfo hok⟩,
    hgas, ?_⟩
  simpa using h.symm

end Keeper

/-! ## 一つの tx の中の返金 -/

/-- tx の `msgIndex` 番目の message の実行中に Core Contract が送った `MsgRefundTxFee`。 -/
structure RefundCall where
  msgIndex : Nat
  gasLimit : Nat
  gasConsumed : Nat
  req : MsgRefundTxFee
deriving DecidableEq, Repr

/-- 呼び出し `call` が行った送金。失敗した呼び出しは何も送らない。 -/
def RefundCall.refund (k : Keeper) (tx : Tx) (call : RefundCall) : Option Refund :=
  match k.RefundTxFee tx call.gasLimit call.gasConsumed call.req with
  | .ok r => r
  | .error _ => none

theorem RefundCall.refund_eq_some {k : Keeper} {tx : Tx} {call : RefundCall} {r : Refund} :
    call.refund k tx = some r ↔
      k.RefundTxFee tx call.gasLimit call.gasConsumed call.req = .ok (some r) := by
  unfold RefundCall.refund
  split <;> simp_all

section AtMostOnce

variable {k : Keeper} {tx : Tx} {next : Except String Unit} {c : String}

/--
ante handler を通った tx で、message の三つ組で呼ばれた返金が送金するなら、その message は最後の
message である。ante handler の文字列の一意性が、返金の最後の message との照合を位置の一致に
変える。
-/
theorem refund_at_last {call : RefundCall} {msg : Msg} {r : Refund}
    (hcore : k.GetCoreContractAddr = .ok (some c))
    (hante : CommitRevealDecorator.AnteHandle k.unmarshal k.GetCoreContractAddr tx next = .ok ())
    (hauth : call.req.Authority = c) (hmsg : tx.Msgs[call.msgIndex]? = some msg)
    (htriple : commitRevealTriple k.unmarshal c msg =
      some (call.req.DrId, call.req.PublicKey, call.req.IsReveal))
    (hr : call.refund k tx = some r) :
    call.msgIndex + 1 = tx.Msgs.length ∧ r = ⟨k.feeCollectorName, tx.FeePayer, tx.Fee⟩ := by
  obtain ⟨-, ⟨lastMsg, hlast, hextract⟩, -, rfl⟩ :=
    Keeper.RefundTxFee_spec (RefundCall.refund_eq_some.mp hr)
  rw [hauth] at hextract
  have hinfo := ExtractCommitRevealMsgInfo_of_triple k.unmarshal htriple
  -- ante handler は登録された Core Contract の正規の address で検査した
  rw [hcore] at hante
  obtain ⟨-, hnodup⟩ := AnteHandle_exclusive_unique k.unmarshal hante
    ⟨msg, List.mem_of_getElem? hmsg, by rw [hinfo]⟩
  have hsame : call.msgIndex = tx.Msgs.length - 1 :=
    eq_of_getElem?_of_nodup_map hnodup hmsg hlast (by rw [hinfo, hextract])
  have hlt : call.msgIndex < tx.Msgs.length := (List.getElem?_eq_some_iff.mp hmsg).1
  exact ⟨by omega, rfl⟩

/--
**返金は高々一度。** ante handler を通った tx の message ごとに、登録された Core Contract が
その message から `ExtractCommitRevealMsgInfo` の読む三つ組で高々一度 `MsgRefundTxFee` を送るなら、
送金する呼び出しは高々一つで、それは最後の message の実行中の呼び出しであり、fee collector から
手数料の支払者へ手数料の全額を送る。
-/
theorem RefundTxFee_at_most_once (hcore : k.GetCoreContractAddr = .ok (some c))
    (hante : CommitRevealDecorator.AnteHandle k.unmarshal k.GetCoreContractAddr tx next = .ok ())
    (calls : List RefundCall) (hnodup : (calls.map (·.msgIndex)).Nodup)
    (hcalls : ∀ call ∈ calls, call.req.Authority = c ∧ ∃ msg, tx.Msgs[call.msgIndex]? = some msg ∧
      commitRevealTriple k.unmarshal c msg =
        some (call.req.DrId, call.req.PublicKey, call.req.IsReveal)) :
    (calls.filter fun call => (call.refund k tx).isSome).length ≤ 1 ∧
      ∀ call ∈ calls, ∀ r, call.refund k tx = some r →
        call.msgIndex + 1 = tx.Msgs.length ∧ r = ⟨k.feeCollectorName, tx.FeePayer, tx.Fee⟩ := by
  have hlast : ∀ call ∈ calls, ∀ r, call.refund k tx = some r →
      call.msgIndex + 1 = tx.Msgs.length ∧ r = ⟨k.feeCollectorName, tx.FeePayer, tx.Fee⟩ := by
    intro call hcall r hr
    obtain ⟨hauth, msg, hmsg, htriple⟩ := hcalls call hcall
    exact refund_at_last hcore hante hauth hmsg htriple hr
  refine ⟨?_, hlast⟩
  -- 送金した呼び出しはどれも最後の message の位置を持ち、位置は呼び出しごとに相異なる
  apply length_le_one_of_nodup_map (f := (·.msgIndex)) (c := tx.Msgs.length - 1)
  · exact hnodup.sublist (List.filter_sublist.map _)
  · intro call hcall
    obtain ⟨hmem, hsome⟩ := List.mem_filter.mp hcall
    obtain ⟨r, hr⟩ := Option.isSome_iff_exists.mp hsome
    have := (hlast call hmem r hr).1
    omega

/--
`"core"` を登録し、JSON `[1]` を commit `("dr", "pk")` と、`[2]` を同じ鍵の reveal と読む keeper。
-/
def Keeper.sample : Keeper where
  CoreContractRegistry := some "core"
  AccAddressFromBech32 := fun s => .ok s
  unmarshal := fun b =>
    if b = [1] then .ok ⟨some ⟨"dr", "pk"⟩, none⟩
    else if b = [2] then .ok ⟨none, some ⟨"dr", "pk"⟩⟩
    else .error "invalid character"
  SendCoinsFromModuleToAccount := fun _ _ _ => .ok ()
  feeCollectorName := "fee_collector"

/-- commit と reveal の二つの message の tx と、message ごとの返金の呼び出し。 -/
def Tx.sample : Tx := ⟨[.executeContract "core" [1], .executeContract "core" [2]], [⟨"aseda", 10⟩], "payer"⟩

def RefundCall.samples : List RefundCall :=
  [⟨0, 100, 50, ⟨"core", "dr", "pk", false⟩⟩, ⟨1, 100, 50, ⟨"core", "dr", "pk", true⟩⟩]

theorem RefundTxFee_at_most_once_sample :
    Keeper.sample.GetCoreContractAddr = .ok (some "core") ∧
      CommitRevealDecorator.AnteHandle Keeper.sample.unmarshal Keeper.sample.GetCoreContractAddr
        Tx.sample (.ok ()) = .ok () ∧
      (RefundCall.samples.map (·.msgIndex)).Nodup ∧
      (∀ call ∈ RefundCall.samples, call.req.Authority = "core" ∧
        ∃ msg, Tx.sample.Msgs[call.msgIndex]? = some msg ∧
          commitRevealTriple Keeper.sample.unmarshal "core" msg =
            some (call.req.DrId, call.req.PublicKey, call.req.IsReveal)) ∧
      (RefundCall.samples.filter fun call => (call.refund Keeper.sample Tx.sample).isSome).length ≤ 1 ∧
      ∀ call ∈ RefundCall.samples, ∀ r, call.refund Keeper.sample Tx.sample = some r →
        call.msgIndex + 1 = Tx.sample.Msgs.length ∧
          r = ⟨Keeper.sample.feeCollectorName, Tx.sample.FeePayer, Tx.sample.Fee⟩ := by
  have hcore : Keeper.sample.GetCoreContractAddr = .ok (some "core") := by decide
  have hante : CommitRevealDecorator.AnteHandle Keeper.sample.unmarshal
      Keeper.sample.GetCoreContractAddr Tx.sample (.ok ()) = .ok () := by decide
  have hnodup : (RefundCall.samples.map (·.msgIndex)).Nodup := by decide
  have hcalls : ∀ call ∈ RefundCall.samples, call.req.Authority = "core" ∧
      ∃ msg, Tx.sample.Msgs[call.msgIndex]? = some msg ∧
        commitRevealTriple Keeper.sample.unmarshal "core" msg =
          some (call.req.DrId, call.req.PublicKey, call.req.IsReveal) := by
    intro call hcall
    simp only [RefundCall.samples, List.mem_cons, List.not_mem_nil, or_false] at hcall
    rcases hcall with rfl | rfl
    · exact ⟨rfl, _, rfl, by decide⟩
    · exact ⟨rfl, _, rfl, by decide⟩
  exact ⟨hcore, hante, hnodup, hcalls,
    RefundTxFee_at_most_once hcore hante RefundCall.samples hnodup hcalls⟩

/-- 例の二つの呼び出しのうち、送金するのは最後の message の reveal の呼び出しだけである。 -/
example : RefundCall.samples.filterMap (·.refund Keeper.sample Tx.sample) =
    [⟨"fee_collector", "payer", [⟨"aseda", 10⟩]⟩] := by decide

end AtMostOnce

end SedaChain.WasmStorage
