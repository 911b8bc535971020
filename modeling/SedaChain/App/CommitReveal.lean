import SedaChain.Infra.Bytes
import SedaChain.Infra.Go

/-!
# commit と reveal の tx（`app/ante.go`、`types/commit_reveal_msgs.go`）

executor は Core Contract への commit と reveal を tx で送り、手数料は Core Contract が
`MsgRefundTxFee` で返させる。返金は tx の最後の message についてだけ行うので、ante handler
（`CommitRevealDecorator.AnteHandle`）は tx について二つを保証する。

* 排他性：commit と reveal の message を他の message と混ぜない
* 一意性：commit と reveal の message はどれも相異なる

どちらも message を `ExtractCommitRevealMsgInfo` の文字列 `"drID,publicKey,isReveal"` で
見分ける。この文字列は三つ組について単射でない（ID や鍵が `,` を含めば違う三つ組が同じ文字列に
なる）が、一意性の検査も返金の照合も同じ文字列で行うので、検査は文字列が相異なることを保証する
（`AnteHandle_exclusive_unique`）。
-/

namespace SedaChain.App

open Infra Infra.Go

/-! ## Core Contract への message -/

/-- `CommitDataResult`。 -/
structure CommitDataResult where
  DrID : String
  PublicKey : String
deriving DecidableEq, Repr

/-- `RevealDataResult`。reveal の本体からは data request の ID だけを読む。 -/
structure RevealDataResult where
  RevealBodyDrID : String
  PublicKey : String
deriving DecidableEq, Repr

/-- `unmarshalMsg` が `json.Unmarshal` で読む二つの field（`commit_data_result`、`reveal_data_result`）。 -/
structure ContractMsgFields where
  CommitDataResult : Option CommitDataResult
  RevealDataResult : Option RevealDataResult
deriving DecidableEq, Repr

/-- Core Contract の message のうち commit か reveal のもの。 -/
inductive ContractMsg where
  | commit (msg : CommitDataResult)
  | reveal (msg : RevealDataResult)
deriving DecidableEq, Repr

/-- tx の message：contract を呼ぶ `MsgExecuteContract`（宛先と JSON）と、それ以外。 -/
inductive Msg where
  | executeContract (Contract : String) (Msg : Bytes)
  | other
deriving DecidableEq, Repr

/-- `sdk.Coin`。 -/
structure Coin where
  Denom : String
  Amount : Nat
deriving DecidableEq, Repr

/-- tx のうち、ante handler と返金が読むもの：message の列、手数料、手数料の支払者。 -/
structure Tx where
  Msgs : List Msg
  Fee : List Coin
  FeePayer : String
deriving DecidableEq, Repr

/-- `errorsmod.Wrapf(sdkerrors.ErrInvalidRequest, ...)` の文言。 -/
def invalidRequest (msg : String) : String := msg ++ ": invalid request"

section Extract

variable (unmarshal : Bytes → Except String ContractMsgFields)

/-- `unmarshalMsg`。commit が先に見られる。どちらも無ければ `nil`。 -/
def unmarshalMsg (msg : Bytes) : Except String (Option ContractMsg) := do
  let msgData ← unmarshal msg
  match msgData.CommitDataResult, msgData.RevealDataResult with
  | some c, _ => pure (some (.commit c))
  | none, some r => pure (some (.reveal r))
  | none, none => pure none

/--
`ExtractCommitRevealMsgInfo` の `switch` が読む三つ組 `(drID, publicKey, isReveal)`。Core Contract
への commit か reveal でなければ無い。
-/
def commitRevealTriple (coreContract : String) : Msg → Option (String × String × Bool)
  | .executeContract contract raw =>
    if contract ≠ coreContract then none
    else
      match unmarshalMsg unmarshal raw with
      | .ok (some (.commit c)) => some (c.DrID, c.PublicKey, false)
      | .ok (some (.reveal r)) => some (r.RevealBodyDrID, r.PublicKey, true)
      | _ => none
  | .other => none

/-- `fmt.Sprintf("%s,%s,%t", drID, publicKey, isReveal)`。 -/
def msgInfo (drID publicKey : String) (isReveal : Bool) : String :=
  drID ++ "," ++ publicKey ++ "," ++ toString isReveal

/-- `ExtractCommitRevealMsgInfo`。commit か reveal なら三つ組の文字列と `true`、でなければ `("", false)`。 -/
def ExtractCommitRevealMsgInfo (coreContract : String) (msg : Msg) : String × Bool :=
  match commitRevealTriple unmarshal coreContract msg with
  | some (drID, publicKey, isReveal) => (msgInfo drID publicKey isReveal, true)
  | none => ("", false)

theorem ExtractCommitRevealMsgInfo_of_triple {coreContract : String} {msg : Msg}
    {drID publicKey : String} {isReveal : Bool}
    (h : commitRevealTriple unmarshal coreContract msg = some (drID, publicKey, isReveal)) :
    ExtractCommitRevealMsgInfo unmarshal coreContract msg = (msgInfo drID publicKey isReveal, true) := by
  simp [ExtractCommitRevealMsgInfo, h]

/-- `true` を返すのは、三つ組を読めたときである。 -/
theorem ExtractCommitRevealMsgInfo_snd_eq_true {coreContract : String} {msg : Msg} :
    (ExtractCommitRevealMsgInfo unmarshal coreContract msg).2 = true ↔
      (commitRevealTriple unmarshal coreContract msg).isSome := by
  unfold ExtractCommitRevealMsgInfo
  split <;> simp_all

end Extract

/-! ## ante handler -/

section Ante

variable (unmarshal : Bytes → Except String ContractMsgFields)

/--
`AnteHandle` の loop。`i` は message の位置、`seen` は見た commit と reveal の文字列
（Go の `map[string]bool`）、`commitRevealTx` は最初の message が決めた tx の種類である。
-/
def anteLoop (coreContract : String) : List Msg → Nat → List String → Bool → Except String Unit
  | [], _, _, _ => .ok ()
  | msg :: rest, i, seen, commitRevealTx =>
    let extracted := ExtractCommitRevealMsgInfo unmarshal coreContract msg
    -- 最初の message が tx の種類を決める
    let commitRevealTx := if i = 0 then extracted.2 else commitRevealTx
    if commitRevealTx ≠ extracted.2 then
      .error (invalidRequest "commit or reveal message cannot be mixed with other messages")
    else if !commitRevealTx then anteLoop coreContract rest (i + 1) seen commitRevealTx
    else if extracted.1 ∈ seen then
      .error (invalidRequest s!"duplicate commit or reveal message detected: {extracted.1}")
    else anteLoop coreContract rest (i + 1) (extracted.1 :: seen) commitRevealTx

/--
`CommitRevealDecorator.AnteHandle`。`coreContract` は `GetCoreContractAddr` の結果で、Core
Contract が登録されていなければ検査をせずに次の ante handler `next` へ進む。
-/
def CommitRevealDecorator.AnteHandle {ε : Type} (coreContract : Except ε (Option String)) (tx : Tx)
    (next : Except String Unit) : Except String Unit :=
  match coreContract with
  | .ok (some c) => do
    anteLoop unmarshal c tx.Msgs 0 [] false
    next
  | _ => next

/--
最初の message の後の loop は、どの message も tx の種類と同じで、commit と reveal の tx なら
文字列は相異なり、見た文字列のどれとも違う。
-/
theorem anteLoop_spec (coreContract : String) :
    ∀ (msgs : List Msg) {i : Nat} {seen : List String} {commitRevealTx : Bool}, i ≠ 0 →
      anteLoop unmarshal coreContract msgs i seen commitRevealTx = .ok () →
      (∀ m ∈ msgs, (ExtractCommitRevealMsgInfo unmarshal coreContract m).2 = commitRevealTx) ∧
      (commitRevealTx = true →
        (msgs.map (ExtractCommitRevealMsgInfo unmarshal coreContract · |>.1)).Nodup ∧
        ∀ m ∈ msgs, (ExtractCommitRevealMsgInfo unmarshal coreContract m).1 ∉ seen)
  | [], _, _, _, _, _ => by simp
  | msg :: rest, i, seen, commitRevealTx, hi, h => by
    simp only [anteLoop, if_neg hi] at h
    split at h
    · cases h
    · next hsame =>
      have hflag : (ExtractCommitRevealMsgInfo unmarshal coreContract msg).2 = commitRevealTx := by
        simpa using (not_not.mp hsame).symm
      split at h
      · -- commit でも reveal でもない tx：残りも同じ種類
        next hnot =>
        obtain ⟨hall, -⟩ := anteLoop_spec coreContract rest (by omega) h
        refine ⟨fun m hm => ?_, fun htrue => by simp [htrue] at hnot⟩
        rcases List.mem_cons.mp hm with rfl | hm
        · exact hflag
        · exact hall m hm
      · next htrue =>
        have htrue' : commitRevealTx = true := by simpa using htrue
        split at h
        · cases h
        · -- 先頭の文字列は見ておらず、残りは先頭を見た後の loop
          next hunseen =>
          obtain ⟨hall, huniq⟩ := anteLoop_spec coreContract rest (by omega) h
          obtain ⟨hnd, hnot⟩ := huniq htrue'
          refine ⟨fun m hm => ?_, fun _ => ⟨?_, fun m hm => ?_⟩⟩
          · rcases List.mem_cons.mp hm with rfl | hm
            · exact hflag
            · exact hall m hm
          · rw [List.map_cons, List.nodup_cons]
            refine ⟨fun hmem => ?_, hnd⟩
            obtain ⟨m, hm, heq⟩ := List.mem_map.mp hmem
            exact hnot m hm (by rw [heq]; exact List.mem_cons_self)
          · rcases List.mem_cons.mp hm with rfl | hm
            · exact hunseen
            · exact fun hs => hnot m hm (List.mem_cons_of_mem _ hs)

/--
位置 0 からの loop：commit か reveal の message が一つでもあれば、どの message もそうで、
文字列は相異なる。最初の message が tx の種類を決めるので、種類の検査は最初には必ず通る。
-/
theorem anteLoop_zero_spec (coreContract : String) :
    ∀ (msgs : List Msg), anteLoop unmarshal coreContract msgs 0 [] false = .ok () →
      (∃ m ∈ msgs, (ExtractCommitRevealMsgInfo unmarshal coreContract m).2 = true) →
      (∀ m ∈ msgs, (ExtractCommitRevealMsgInfo unmarshal coreContract m).2 = true) ∧
        (msgs.map (ExtractCommitRevealMsgInfo unmarshal coreContract · |>.1)).Nodup
  | [], _, ⟨_, hm, _⟩ => absurd hm List.not_mem_nil
  | msg :: rest, h, ⟨m₀, hm₀, hcr₀⟩ => by
    by_cases hfirst : (ExtractCommitRevealMsgInfo unmarshal coreContract msg).2 = true
    · simp only [anteLoop, ↓reduceIte, hfirst, ne_eq, not_true_eq_false, Bool.not_true,
        Bool.false_eq_true, List.not_mem_nil] at h
      obtain ⟨hall, huniq⟩ := anteLoop_spec unmarshal coreContract rest (by omega) h
      obtain ⟨hnd, hnot⟩ := huniq rfl
      refine ⟨fun m hm => ?_, ?_⟩
      · rcases List.mem_cons.mp hm with rfl | hm
        · exact hfirst
        · exact hall m hm
      · rw [List.map_cons, List.nodup_cons]
        refine ⟨fun hmem => ?_, hnd⟩
        obtain ⟨m, hm, heq⟩ := List.mem_map.mp hmem
        exact hnot m hm (by rw [heq]; exact List.mem_cons_self)
    · -- 最初の message が commit でも reveal でもなければ、どれもそうでない
      simp only [Bool.not_eq_true] at hfirst
      simp only [anteLoop, ↓reduceIte, hfirst, ne_eq, not_true_eq_false, Bool.not_false] at h
      obtain ⟨hall, -⟩ := anteLoop_spec unmarshal coreContract rest (by omega) h
      exfalso
      rcases List.mem_cons.mp hm₀ with rfl | hm
      · rw [hfirst] at hcr₀
        cases hcr₀
      · rw [hall m₀ hm] at hcr₀
        cases hcr₀

/--
**ante handler の保証。** Core Contract が登録されていて ante handler が tx を通したなら、
commit か reveal の message が一つでもあれば、どの message も commit か reveal で、それらの
文字列は相異なる。
-/
theorem AnteHandle_exclusive_unique {ε : Type} {c : String} {tx : Tx} {next : Except String Unit}
    (h : CommitRevealDecorator.AnteHandle unmarshal (.ok (some c) : Except ε (Option String)) tx next
      = .ok ())
    (hcr : ∃ m ∈ tx.Msgs, (ExtractCommitRevealMsgInfo unmarshal c m).2 = true) :
    (∀ m ∈ tx.Msgs, (ExtractCommitRevealMsgInfo unmarshal c m).2 = true) ∧
      (tx.Msgs.map (ExtractCommitRevealMsgInfo unmarshal c · |>.1)).Nodup := by
  simp only [CommitRevealDecorator.AnteHandle] at h
  obtain ⟨⟨⟩, hloop, -⟩ := bind_eq_ok.mp h
  exact anteLoop_zero_spec unmarshal c tx.Msgs hloop hcr

end Ante

end SedaChain.App
