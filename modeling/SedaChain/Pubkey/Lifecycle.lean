import SedaChain.Pubkey.MsgServer
import SedaChain.Infra.Trace

/-!
# proving scheme の一生

chain の上で pubkey の状態を動かす出来事を `Event` に並べ、一つの出来事の効果を `apply` に書く。
tx の失敗は書き込みを取り消し（`State.commit`）、end block は誤りを握りつぶして次の高さに進む。
SDK の側の出来事（downtime の jail、voting power の更新、validator の削除）は、どの順にどれだけ
起きてもよい。SDK の関数は `Sdk.Lawful` を満たす限り何でもよい。

抽象の層は scheme の相 `SchemePhase`（待機・準備中・有効）と、end block での相の移り
`SchemePhase.next` である。

* **`apply_refines_phase`** — 整った状態からのどの出来事も、scheme の相を、end block なら
  `SchemePhase.next` のとおりに動かし、ほかの出来事では動かさない。具体の遷移は抽象の相の機械を
  詳細化する
* `EndBlock_activates` — 高さの届いた準備中の end block は、scheme を有効にし、鍵の無い validator を
  すべて jail し、ほかは変えない
* `Valid` — 整った状態で、高さと遅れが負でない。どの出来事もこれを保つ
* `run_height` — 高さは end block ごとに一つ進む
* **`run_keysCover`** — どの走りの後でも、scheme が有効なら jail されていない validator はみな鍵を持つ
* **`activation_lifecycle`** — 待機から始まる走りで、有効になった scheme は有効なままであり、有効に
  する end block の前には、割合が閾値に届いて準備に入った end block があり、その後の end block では
  割合が閾値に届いていた。有効にする end block は鍵の無い validator をすべて jail する
* **`PubKeyRegistrationInvariant_run`** — 走りのどこでも、staking の invariant は壊れない
-/

namespace SedaChain.Pubkey

open Infra Infra.Go

/-! ## 出来事 -/

/-- chain の上で pubkey の状態を動かす出来事。 -/
inductive Event where
  /-- pubkey の `EndBlock` を走らせ、次の block に進む。 -/
  | endBlock
  /-- `MsgAddKey` の tx。 -/
  | addKey (msg : MsgAddKey)
  /-- `MsgCreateSEDAValidator` の tx。 -/
  | createSEDAValidator (msg : MsgCreateSEDAValidator)
  /-- slashing の `MsgUnjail` の tx。 -/
  | unjail (valAddr : String)
  /-- `MsgUpdateParams` の tx。 -/
  | updateParams (msgAuthority : String) (params : Params)
  /-- slashing が downtime や二重署名で validator を jail する（`Jail`）。 -/
  | slash (consAddr : Bytes)
  /-- staking の end block が、前の block の voting power を書き換える。 -/
  | updatePowers (powers : List (Bytes × Int)) (totalPower : Int)
  /-- staking が validator を消す（`RemoveValidator`）。 -/
  | removeValidator (valAddr : Bytes)
deriving DecidableEq, Repr

/-- tx の結果を書き込む。失敗した tx の書き込みは取り消されるので、状態は前のままである。 -/
def State.commit (s : State) : Except Fault State → State
  | .ok s' => s'
  | .error _ => s

/-- 前の状態で成り立ち、tx が成功した時の状態でも成り立つ性質は、書き込んだ後も成り立つ。 -/
theorem State.commit_of {P : State → Prop} {s : State} {r : Except Fault State} (hs : P s)
    (hok : ∀ s', r = .ok s' → P s') : P (s.commit r) := by
  cases r with
  | error e => exact hs
  | ok s' => exact hok s' rfl

/-- scheme と引数と高さを変えない tx は、書き込んでも取り消しても、それらを変えない。 -/
theorem State.commit_frame {s : State} {r : Except Fault State} (hf : ∀ s', r = .ok s' → Frame s s') :
    Frame s (s.commit r) :=
  State.commit_of ⟨rfl, rfl, rfl⟩ hf

section Apply

variable (sdk : Sdk) (authority : String)

/-- 一つの出来事の効果。`authority` は gov の module の address である。 -/
def apply (s : State) : Event → State
  | .endBlock => { s.EndBlock sdk with height := s.height + 1 }
  | .addKey msg => s.commit (AddKey sdk s msg)
  | .createSEDAValidator msg => s.commit (CreateSEDAValidator sdk s msg)
  | .unjail valAddr => s.commit (Unjail sdk s valAddr)
  | .updateParams msgAuthority params => s.commit (UpdateParams authority s msgAuthority params)
  | .slash consAddr => s.commit (sdk.Jail s consAddr)
  | .updatePowers powers totalPower =>
    { s with lastValidatorPowers := powers, lastTotalPower := totalPower }
  | .removeValidator valAddr => { s with validators := s.validators.erase valAddr }

end Apply

/-! ## 抽象の層：scheme の相 -/

/-- proving scheme の相。 -/
inductive SchemePhase where
  /-- 待機中。登録の割合が閾値に届くのを待つ。 -/
  | idle
  /-- 準備中。高さが `activationHeight` に届いた end block で有効になる。 -/
  | pending (activationHeight : Int)
  /-- 有効。 -/
  | activated
deriving DecidableEq, Repr

/--
end block での相の移り。block の高さ `height`、遅れ `delay` と、登録の割合が閾値に届いたか `met` で
決まる。待機中なら割合が届いた時に準備に入り、準備中なら高さが届けば有効になり、届かないうちに割合を
割れば待機に戻る。
-/
def SchemePhase.next (height delay : Int) (met : Bool) : SchemePhase → SchemePhase
  | .idle => if met then .pending (height + delay) else .idle
  | .pending a => if a ≤ height then .activated else if met then .pending a else .idle
  | .activated => .activated

/-- proving scheme の相。有効の印が先で、そうでなければ `ActivationHeight` が準備中かを表す。 -/
def ProvingScheme.phase (p : ProvingScheme) : SchemePhase :=
  if p.IsActivated then .activated
  else if p.ActivationHeight = DefaultActivationHeight then .idle
  else .pending p.ActivationHeight

/-- secp256k1 の proving scheme の相。scheme が無ければ `none` である。 -/
def State.phase (s : State) : Option SchemePhase :=
  (s.provingSchemes.get? SEDAKeyIndexSecp256k1).map ProvingScheme.phase

theorem ProvingScheme.phase_eq_pending {p : ProvingScheme} {a : Int} :
    p.phase = .pending a ↔
      p.IsActivated = false ∧ p.ActivationHeight ≠ DefaultActivationHeight ∧ p.ActivationHeight = a := by
  unfold ProvingScheme.phase
  cases hp : p.IsActivated
  · by_cases h : p.ActivationHeight = DefaultActivationHeight <;> simp [h]
  · simp

/-- 走りの間ずっと成り立つ、構造の不変量。 -/
structure Valid (sdk : Sdk) (s : State) : Prop where
  wellFormed : s.WellFormed sdk
  heightNonneg : 0 ≤ s.height
  delayNonneg : 0 ≤ s.params.ActivationBlockDelay

/-- 整った状態へ、scheme と引数と高さを変えずに移れば、構造の不変量は保たれる。 -/
theorem Valid.of_frame {sdk : Sdk} {s s' : State} (hv : Valid sdk s) (hw : s'.WellFormed sdk)
    (hf : Frame s s') : Valid sdk s' :=
  ⟨hw, hf.height ▸ hv.heightNonneg, hf.params ▸ hv.delayNonneg⟩

namespace State

variable {sdk : Sdk} {s s' : State}

/-! ## end block の道の性質 -/

/-- 整った状態の `JailValidators` は、鍵を登録していない validator をすべて jail した状態を返す。 -/
theorem jailedKeyless_of_ok (hsdk : sdk.Lawful) (hw : s.WellFormed sdk) {keyIndex : UInt32} {s₁ : State}
    (h : s.JailValidators sdk keyIndex = .ok s₁) : JailedKeyless sdk keyIndex s s₁ := by
  obtain ⟨s₂, h₂, hk⟩ := JailValidators_eq hsdk hw keyIndex
  rw [h] at h₂
  cases h₂
  exact hk

theorem JailValidators_ne_error (hsdk : sdk.Lawful) (hw : s.WellFormed sdk) (keyIndex : UInt32)
    (s₁ : State) : s.JailValidators sdk keyIndex ≠ .error s₁ := by
  obtain ⟨s₂, h₂, -⟩ := JailValidators_eq hsdk hw keyIndex
  rw [h₂]
  intro h
  cases h

/-- 相は proving scheme の表だけで決まる。 -/
theorem phase_eq_of_provingSchemes (h : s'.provingSchemes = s.provingSchemes) : s'.phase = s.phase := by
  simp [State.phase, h]

/-- scheme を変えない tx は、書き込んでも取り消しても相を変えない。 -/
theorem phase_commit_of_frame {r : Except Fault State} (hf : ∀ s', r = .ok s' → Frame s s') :
    (s.commit r).phase = s.phase :=
  phase_eq_of_provingSchemes (commit_frame hf).provingSchemes

/-- 整った状態では、secp256k1 の scheme は自分の番号を持つ。 -/
theorem index_of_get? (hw : s.WellFormed sdk) {scheme : ProvingScheme}
    (hget : s.provingSchemes.get? SEDAKeyIndexSecp256k1 = some scheme) :
    scheme.Index = SEDAKeyIndexSecp256k1 :=
  hw.schemesKeyed _ scheme hget

section Path

variable (hsdk : sdk.Lawful) (hw : s.WellFormed sdk)
include hsdk hw

theorem EndBlockPath.wellFormed (h : EndBlockPath sdk s s') : s'.WellFormed sdk := by
  cases h with
  | noScheme => exact hw
  | activated => exact hw
  | jailFailed _ _ _ _ hj => exact absurd hj (JailValidators_ne_error hsdk hw _ _)
  | activate _ _ _ _ hj => exact (jailedKeyless_of_ok hsdk hw hj).wellFormed.SetProvingScheme _
  | start => exact hw.SetProvingScheme _
  | cancel => exact hw.SetProvingScheme _
  | idle => exact hw

theorem EndBlockPath.params (h : EndBlockPath sdk s s') : s'.params = s.params := by
  cases h with
  | jailFailed _ _ _ _ hj => exact absurd hj (JailValidators_ne_error hsdk hw _ _)
  | activate _ _ _ _ hj => simp [(jailedKeyless_of_ok hsdk hw hj).params]
  | _ => simp

/-- **end block の道は、相を `SchemePhase.next` のとおりに動かす。** -/
theorem EndBlockPath.phase (hh : 0 ≤ s.height) (hd : 0 ≤ s.params.ActivationBlockDelay)
    (h : EndBlockPath sdk s s') :
    s'.phase = s.phase.map
      (SchemePhase.next s.height s.params.ActivationBlockDelay (s.CheckKeyRegistrationRate SEDAKeyIndexSecp256k1)) := by
  cases h with
  | noScheme hget => simp [State.phase, hget]
  | activated hget hact => simp [State.phase, hget, ProvingScheme.phase, hact, SchemePhase.next]
  | jailFailed _ _ _ _ hj => exact absurd hj (JailValidators_ne_error hsdk hw _ _)
  | activate hget hact hne hle _ =>
    simp [State.phase, hget, index_of_get? hw hget, ProvingScheme.phase, hact, hne, hle, SchemePhase.next]
  | start hget hact hdef hmet =>
    -- 準備に入った高さに遅れを足しても、`DefaultActivationHeight` の -1 にはならない
    have hne : s.height + s.params.ActivationBlockDelay ≠ DefaultActivationHeight := by
      simp only [DefaultActivationHeight]
      omega
    simp [State.phase, hget, index_of_get? hw hget, ProvingScheme.phase, hact, hdef, hne, hmet,
      SchemePhase.next]
  | cancel hget hact hne hlt hmet =>
    simp [State.phase, hget, index_of_get? hw hget, ProvingScheme.phase, hact, hne, not_le.mpr hlt, hmet,
      SchemePhase.next]
  | idle hget hact hcase =>
    rcases hcase with ⟨hdef, hmet⟩ | ⟨hne, hlt, hmet⟩
    · simp [State.phase, hget, ProvingScheme.phase, hact, hdef, hmet, SchemePhase.next]
    · simp [State.phase, hget, ProvingScheme.phase, hact, hne, not_le.mpr hlt, hmet, SchemePhase.next]

/--
**end block の道は鍵の整合を保つ。** 有効にする道では、鍵の無い validator がすべて jail されている。
準備に入る道とやめる道では、scheme は有効でない。
-/
theorem EndBlockPath.keysCover (hc : KeysCover s) (h : EndBlockPath sdk s s') : KeysCover s' := by
  cases h with
  | noScheme => exact hc
  | activated => exact hc
  | idle => exact hc
  | jailFailed _ _ _ _ hj => exact absurd hj (JailValidators_ne_error hsdk hw _ _)
  | activate _ _ _ _ hj =>
    have hk := jailedKeyless_of_ok hsdk hw hj
    intro _ k v hv hjail
    simp only [SetProvingScheme_validators, hk.validators k] at hv
    obtain ⟨w, -, rfl⟩ := Option.map_eq_some_iff.mp hv
    simp only [Bool.or_eq_false_iff, Bool.not_eq_false'] at hjail
    simp only [HasRegisteredKey, SetProvingScheme_pubKeys, hk.pubKeys]
    exact hjail.2
  | start hget hact =>
    intro hact'
    rw [IsProvingSchemeActivated_eq_ok] at hact'
    obtain ⟨p, hp, hpa⟩ := hact'
    simp [KeyMap.get?_set, index_of_get? hw hget] at hp
    rw [← hp] at hpa
    simp [hact] at hpa
  | cancel hget hact =>
    intro hact'
    rw [IsProvingSchemeActivated_eq_ok] at hact'
    obtain ⟨p, hp, hpa⟩ := hact'
    simp [KeyMap.get?_set, index_of_get? hw hget] at hp
    rw [← hp] at hpa
    simp [hact] at hpa

end Path

end State

/-! ## 見本 -/

/-- 見本の codec。空でない address を、その文字の byte 列に復号する。 -/
def pkSampleStringToBytes (a : String) : Except String Bytes :=
  if a = "" then .error "empty address string is not allowed" else .ok (strBytes a)

/-- 見本の `Jail`。consensus address の最初の validator を、jail されていなければ jail する。 -/
def pkSampleJail (s : State) (consAddr : Bytes) : Except Fault State :=
  match s.validators.entries.find? (fun e => e.2.ConsAddr = some consAddr) with
  | none => .error (.panic "validator does not exist")
  | some (k, v) =>
    if v.Jailed then .error (.error "validator for this address is currently jailed")
    else .ok { s with validators := s.validators.set k { v with Jailed := true } }

/-- 見本の `CreateValidator`。operator address も consensus の公開鍵も新しければ、validator を足す。 -/
def pkSampleCreateValidator (s : State) (msg : MsgCreateSEDAValidator) : Except Fault State := do
  let valAddr ← (pkSampleStringToBytes msg.ValidatorAddress).mapError Fault.error
  if (s.validators.get? valAddr).isSome then
    throw (.error "validator already exist for this operator address; must use new validator operator address")
  if s.validators.entries.any (fun e => e.2.ConsAddr = msg.Pubkey) then
    throw (.error "validator already exist for this pubkey; must use new validator pubkey")
  pure { s with validators := s.validators.set valAddr ⟨msg.ValidatorAddress, msg.Pubkey, false⟩ }

/-- 見本の `Unjail`。jail された validator を戻す。 -/
def pkSampleUnjail (s : State) (valAddr : String) : Except Fault State := do
  let a ← (pkSampleStringToBytes valAddr).mapError Fault.error
  match s.validators.get? a with
  | none => throw (.error "validator does not exist")
  | some v =>
    if !v.Jailed then throw (.error "validator not jailed; cannot be unjailed")
    else pure { s with validators := s.validators.set a { v with Jailed := false } }

/-- 見本の SDK。どの公開鍵も読め、`MsgCreateValidator` の検査はどれも通る。 -/
def pkSampleSdk : Sdk where
  UnmarshalPubkey _ := true
  StringToBytes := pkSampleStringToBytes
  ValidateMsgCreateValidator _ := .ok ()
  CreateValidator := pkSampleCreateValidator
  Jail := pkSampleJail
  Unjail := pkSampleUnjail
  FormatInvariant module name msg := module ++ ": " ++ name ++ " invariant\n" ++ msg ++ "\n"

theorem pkSampleJail_eq_ok {s s' : State} {consAddr : Bytes} (h : pkSampleJail s consAddr = .ok s') :
    ∃ k v, s.validators.get? k = some v ∧ v.ConsAddr = some consAddr ∧
      s' = { s with validators := s.validators.set k { v with Jailed := true } } := by
  unfold pkSampleJail at h
  split at h
  · cases h
  · next k v hfind =>
    cases hj : v.Jailed
    · simp only [hj, Bool.false_eq_true, ↓reduceIte, Except.ok.injEq] at h
      have hget : s.validators.get? k = some v :=
        (KeyMap.get?_eq_some_iff _).mpr (List.mem_of_find?_eq_some hfind)
      exact ⟨k, v, hget, by simpa using List.find?_some hfind, h.symm⟩
    · simp [hj] at h

theorem pkSampleCreateValidator_eq_ok {s s' : State} {msg : MsgCreateSEDAValidator}
    (h : pkSampleCreateValidator s msg = .ok s') :
    ∃ valAddr, pkSampleStringToBytes msg.ValidatorAddress = .ok valAddr ∧ s.validators.get? valAddr = none ∧
      (∀ k v, s.validators.get? k = some v → v.ConsAddr ≠ msg.Pubkey) ∧
      s' = { s with validators := s.validators.set valAddr ⟨msg.ValidatorAddress, msg.Pubkey, false⟩ } := by
  unfold pkSampleCreateValidator at h
  cases hb : pkSampleStringToBytes msg.ValidatorAddress with
  | error e => simp [hb, Except.mapError] at h
  | ok valAddr =>
    cases hget : s.validators.get? valAddr with
    | some v => simp [hb, hget, Except.mapError] at h
    | none =>
      cases hany : s.validators.entries.any (fun e => e.2.ConsAddr = msg.Pubkey)
      · simp [hb, hget, hany, Except.mapError] at h
        refine ⟨valAddr, rfl, hget, fun k v hv hc => ?_, h.symm⟩
        have := List.any_eq_false.mp hany (k, v) ((KeyMap.get?_eq_some_iff _).mp hv)
        simp [hc] at this
      · simp [hb, hget, hany, Except.mapError] at h

theorem pkSampleUnjail_eq_ok {s s' : State} {valAddr : String} (h : pkSampleUnjail s valAddr = .ok s') :
    ∃ a v, pkSampleStringToBytes valAddr = .ok a ∧ s.validators.get? a = some v ∧
      s' = { s with validators := s.validators.set a { v with Jailed := false } } := by
  unfold pkSampleUnjail at h
  cases hb : pkSampleStringToBytes valAddr with
  | error e => simp [hb, Except.mapError] at h
  | ok a =>
    cases hget : s.validators.get? a with
    | none => simp [hb, hget, Except.mapError] at h
    | some v =>
      cases hj : v.Jailed
      · simp [hb, hget, hj, Except.mapError] at h
      · simp [hb, hget, hj, Except.mapError] at h
        exact ⟨a, v, rfl, hget, h.symm⟩

/-- 見本の SDK は、証明が頼る SDK の振る舞いを満たす。 -/
theorem pkSampleSdk_lawful : pkSampleSdk.Lawful where
  jail_eq_ok _ _ _ h := pkSampleJail_eq_ok h
  jail_ok s k v consAddr hv hc hj huniq := by
    -- consensus address の validator はただ一つなので、探して見つかるのは `k` の validator である
    have hfind : s.validators.entries.find? (fun e => e.2.ConsAddr = some consAddr) = some (k, v) :=
      KeyMap.find?_entries_eq_some s.validators hv (by simp [hc])
        (fun k' v' hv' hc' => huniq k' v' hv' (by simpa using hc'))
    refine ⟨{ s with validators := s.validators.set k { v with Jailed := true } }, ?_⟩
    show pkSampleJail s consAddr = _
    unfold pkSampleJail
    rw [hfind]
    simp only [hj, Bool.false_eq_true, ↓reduceIte]
  createValidator_eq_ok _ _ _ h := pkSampleCreateValidator_eq_ok h
  unjail_eq_ok _ _ _ h := pkSampleUnjail_eq_ok h

/--
見本の状態。`"a"` は鍵を登録し、`"b"` は登録していない。scheme は待機中で、準備に入ってから二つ目の
block で有効になる。
-/
def pkSampleState : State where
  pubKeys := KeyMap.empty.set ([97], SEDAKeyIndexSecp256k1) [2]
  provingSchemes := KeyMap.empty.set SEDAKeyIndexSecp256k1 ⟨SEDAKeyIndexSecp256k1, false, DefaultActivationHeight⟩
  params := ⟨2, 80⟩
  validators := (KeyMap.empty.set [97] ⟨"a", some [1], false⟩).set [98] ⟨"b", some [3], false⟩
  lastValidatorPowers := [([97], 90), ([98], 10)]
  lastTotalPower := 100
  height := 0

theorem pkSampleState_get? {k : Bytes} {v : Validator} (h : pkSampleState.validators.get? k = some v) :
    (k = [98] ∧ v = ⟨"b", some [3], false⟩) ∨ (k = [97] ∧ v = ⟨"a", some [1], false⟩) := by
  simp only [pkSampleState, KeyMap.get?_set, KeyMap.get?_empty] at h
  split at h
  · exact .inl ⟨‹_›, (Option.some.inj h).symm⟩
  · split at h
    · exact .inr ⟨‹_›, (Option.some.inj h).symm⟩
    · cases h

theorem pkSampleState_wellFormed : pkSampleState.WellFormed pkSampleSdk where
  validatorsKeyed k v h := by
    rcases pkSampleState_get? h with ⟨rfl, rfl⟩ | ⟨rfl, rfl⟩ <;> decide
  consAddrIsSome k v h := by
    rcases pkSampleState_get? h with ⟨rfl, rfl⟩ | ⟨rfl, rfl⟩ <;> rfl
  consAddrUnique k₁ v₁ k₂ v₂ h₁ h₂ hc := by
    rcases pkSampleState_get? h₁ with ⟨rfl, rfl⟩ | ⟨rfl, rfl⟩ <;>
      rcases pkSampleState_get? h₂ with ⟨rfl, rfl⟩ | ⟨rfl, rfl⟩ <;> simp_all
  schemesKeyed k p h := by
    simp only [pkSampleState, KeyMap.get?_set, KeyMap.get?_empty] at h
    split at h
    · next hk => cases h; exact hk.symm
    · cases h

/--
見本の走り。準備に入る end block、`"a"` の鍵の書き直し、jail されていない `"b"` の `Unjail`（断られる）、
割合を見る end block、有効にする end block。
-/
def pkSampleRun : List Event :=
  [.endBlock, .addKey ⟨"a", [⟨SEDAKeyIndexSecp256k1, [5]⟩]⟩, .unjail "b", .endBlock, .endBlock]

theorem pkSampleState_valid : Valid pkSampleSdk pkSampleState :=
  ⟨pkSampleState_wellFormed, by decide, by decide⟩

theorem pkSampleState_keysCover : KeysCover pkSampleState := by
  intro h
  have hf : pkSampleState.IsProvingSchemeActivated SEDAKeyIndexSecp256k1 = .ok false := rfl
  rw [hf] at h
  cases h

/-! ## 一歩 -/

section Step

variable (sdk : Sdk) (authority : String) {s : State} (hsdk : sdk.Lawful)
include hsdk

/-- **どの出来事も構造の不変量を保つ。** -/
theorem apply_valid (hv : Valid sdk s) (e : Event) : Valid sdk (apply sdk authority s e) := by
  have hw := hv.wellFormed
  cases e with
  | endBlock =>
    refine ⟨((s.EndBlock_path sdk).wellFormed hsdk hw).of_eq rfl rfl, ?_, ?_⟩
    · simp only [apply]
      have := hv.heightNonneg
      omega
    · simp only [apply, (s.EndBlock_path sdk).params hsdk hw]
      exact hv.delayNonneg
  | addKey msg =>
    exact State.commit_of hv fun s' h => hv.of_frame (AddKey_wellFormed hw h) (AddKey_frame h)
  | createSEDAValidator msg =>
    exact State.commit_of hv fun s' h =>
      hv.of_frame (CreateSEDAValidator_wellFormed hsdk hw h) (CreateSEDAValidator_frame hsdk h)
  | unjail valAddr =>
    exact State.commit_of hv fun s' h => hv.of_frame (Unjail_wellFormed hsdk hw h) (Unjail_frame hsdk h)
  | updateParams msgAuthority params =>
    refine State.commit_of hv fun s' h => ?_
    obtain ⟨-, hp, rfl⟩ := UpdateParams_eq_ok.mp h
    exact ⟨UpdateParams_wellFormed hw h, hv.heightNonneg, (Params.Validate_eq_ok.mp hp).1⟩
  | slash consAddr =>
    exact State.commit_of hv fun s' h => hv.of_frame (Jail_wellFormed hsdk hw h) (Jail_frame hsdk h)
  | updatePowers powers totalPower => exact ⟨hw.of_eq rfl rfl, hv.heightNonneg, hv.delayNonneg⟩
  | removeValidator valAddr => exact ⟨hw.eraseValidator valAddr, hv.heightNonneg, hv.delayNonneg⟩

/-- 構造の不変量の下で、どの出来事も鍵の整合を保つ。 -/
theorem apply_keysCover (hv : Valid sdk s) (hc : KeysCover s) (e : Event) :
    KeysCover (apply sdk authority s e) := by
  have hw := hv.wellFormed
  cases e with
  | endBlock =>
    -- end block の後の高さは鍵の整合に効かない
    have h := (s.EndBlock_path sdk).keysCover hsdk hw hc
    exact h
  | addKey msg => exact State.commit_of hc fun s' h => AddKey_keysCover hc h
  | createSEDAValidator msg => exact State.commit_of hc fun s' h => CreateSEDAValidator_keysCover hsdk hc h
  | unjail valAddr => exact State.commit_of hc fun s' h => Unjail_keysCover hsdk hc h
  | updateParams msgAuthority params => exact State.commit_of hc fun s' h => UpdateParams_keysCover hc h
  | slash consAddr => exact State.commit_of hc fun s' h => Jail_keysCover hsdk hc h
  | updatePowers powers totalPower => exact hc
  | removeValidator valAddr =>
    refine hc.of_le rfl (fun _ hk => hk) (fun k v hv hj => ⟨v, ?_, hj⟩)
    simp only [apply, KeyMap.get?_erase] at hv
    split at hv
    · cases hv
    · exact hv

/-- end block の後、高さは一つ進む。ほかの出来事は高さを変えない。 -/
theorem apply_height (e : Event) :
    (apply sdk authority s e).height = if e = .endBlock then s.height + 1 else s.height := by
  cases e with
  | endBlock => rfl
  | addKey msg => exact (State.commit_frame fun _ h => AddKey_frame h).height
  | createSEDAValidator msg => exact (State.commit_frame fun _ h => CreateSEDAValidator_frame hsdk h).height
  | unjail valAddr => exact (State.commit_frame fun _ h => Unjail_frame hsdk h).height
  | updateParams msgAuthority params =>
    refine State.commit_of (P := fun t => t.height = s.height) rfl fun s' h => ?_
    obtain ⟨-, -, rfl⟩ := UpdateParams_eq_ok.mp h
    rfl
  | slash consAddr => exact (State.commit_frame fun _ h => Jail_frame hsdk h).height
  | updatePowers powers totalPower => rfl
  | removeValidator valAddr => rfl

/-- **scheme の相を動かすのは end block だけである。** message も SDK の出来事も scheme を書かない。 -/
theorem phase_apply_of_ne_endBlock {e : Event} (he : e ≠ .endBlock) :
    (apply sdk authority s e).phase = s.phase := by
  cases e with
  | endBlock => exact absurd rfl he
  | addKey msg => exact State.phase_commit_of_frame fun _ h => AddKey_frame h
  | createSEDAValidator msg => exact State.phase_commit_of_frame fun _ h => CreateSEDAValidator_frame hsdk h
  | unjail valAddr => exact State.phase_commit_of_frame fun _ h => Unjail_frame hsdk h
  | updateParams msgAuthority params =>
    refine State.commit_of (P := fun t => t.phase = s.phase) rfl fun s' h => ?_
    obtain ⟨-, -, rfl⟩ := UpdateParams_eq_ok.mp h
    rfl
  | slash consAddr => exact State.phase_commit_of_frame fun _ h => Jail_frame hsdk h
  | updatePowers powers totalPower => rfl
  | removeValidator valAddr => rfl

/--
**end block は相を `SchemePhase.next` のとおりに動かす。** 整った状態の pubkey の `EndBlock` は、
抽象の相の機械の一歩を詳細化する。`JailValidators` の失敗の道は通らない。
-/
theorem phase_apply_endBlock (hv : Valid sdk s) :
    (apply sdk authority s .endBlock).phase = s.phase.map
      (SchemePhase.next s.height s.params.ActivationBlockDelay (s.CheckKeyRegistrationRate SEDAKeyIndexSecp256k1)) := by
  -- end block の後の高さは相に効かない
  have h := (s.EndBlock_path sdk).phase hsdk hv.wellFormed hv.heightNonneg hv.delayNonneg
  exact h

/-- 有効な scheme は有効なままである。 -/
theorem phase_apply_of_activated (hv : Valid sdk s) (ha : s.phase = some .activated) (e : Event) :
    (apply sdk authority s e).phase = some .activated := by
  by_cases he : e = .endBlock
  · subst he
    rw [phase_apply_endBlock sdk authority hsdk hv, ha]
    rfl
  · rw [phase_apply_of_ne_endBlock sdk authority hsdk he, ha]

/-- 準備中の状態からの一歩。end block なら `SchemePhase.next` で動き、ほかの出来事では動かない。 -/
theorem phase_apply_of_pending (hv : Valid sdk s) {a : Int} (ha : s.phase = some (.pending a)) (e : Event) :
    (apply sdk authority s e).phase =
      if e = .endBlock then
        some (if a ≤ s.height then .activated
          else if s.CheckKeyRegistrationRate SEDAKeyIndexSecp256k1 then .pending a else .idle)
      else some (.pending a) := by
  split
  · next he =>
    subst he
    rw [phase_apply_endBlock sdk authority hsdk hv, ha]
    rfl
  · next he => rw [phase_apply_of_ne_endBlock sdk authority hsdk he, ha]

/--
**具体の一歩は抽象の相の機械を詳細化する。** 整った状態からのどの出来事も、scheme の相を、end block
なら `SchemePhase.next` のとおりに動かし、ほかの出来事では動かさない。
-/
theorem apply_refines_phase (hv : Valid sdk s) (e : Event) :
    (apply sdk authority s e).phase =
      if e = .endBlock then
        s.phase.map (SchemePhase.next s.height s.params.ActivationBlockDelay
          (s.CheckKeyRegistrationRate SEDAKeyIndexSecp256k1))
      else s.phase := by
  split
  · next he =>
    subst he
    exact phase_apply_endBlock sdk authority hsdk hv
  · next he => exact phase_apply_of_ne_endBlock sdk authority hsdk he

/-- 待機中の状態から待機でなくなる一歩は、割合が閾値に届いた end block で、準備に入る。 -/
theorem leave_idle (hv : Valid sdk s) (hi : s.phase = some .idle) {e : Event}
    (h : (apply sdk authority s e).phase ≠ some .idle) :
    e = .endBlock ∧ s.CheckKeyRegistrationRate SEDAKeyIndexSecp256k1 = true ∧
      (apply sdk authority s e).phase = some (.pending (s.height + s.params.ActivationBlockDelay)) := by
  have he : e = .endBlock := by
    by_contra hne
    rw [phase_apply_of_ne_endBlock sdk authority hsdk hne, hi] at h
    exact h rfl
  subst he
  rw [phase_apply_endBlock sdk authority hsdk hv, hi] at h ⊢
  cases hmet : s.CheckKeyRegistrationRate SEDAKeyIndexSecp256k1
  · simp [SchemePhase.next, hmet] at h
  · simp [SchemePhase.next]

/--
準備中の状態からの一歩で、待機にも有効にもならなければ、同じ高さを待つ準備中のままで、end block なら
高さは届いておらず、割合は閾値に届いている。
-/
theorem pending_step (hv : Valid sdk s) {a : Int} (hp : s.phase = some (.pending a)) {e : Event}
    (hni : (apply sdk authority s e).phase ≠ some .idle)
    (hna : (apply sdk authority s e).phase ≠ some .activated) :
    (apply sdk authority s e).phase = some (.pending a) ∧
      (e = .endBlock → s.height < a ∧ s.CheckKeyRegistrationRate SEDAKeyIndexSecp256k1 = true) := by
  have hstep := phase_apply_of_pending sdk authority hsdk hv hp e
  by_cases he : e = .endBlock
  · rw [if_pos he] at hstep
    by_cases hle : a ≤ s.height
    · rw [if_pos hle] at hstep
      exact absurd hstep hna
    · cases hmet : s.CheckKeyRegistrationRate SEDAKeyIndexSecp256k1
      · rw [if_neg hle, hmet] at hstep
        exact absurd hstep hni
      · rw [if_neg hle, hmet] at hstep
        exact ⟨hstep, fun _ => ⟨not_le.mp hle, rfl⟩⟩
  · rw [if_neg he] at hstep
    exact ⟨hstep, fun h => absurd h he⟩

/-- 準備中の状態から有効になる一歩は、高さが届いた end block である。 -/
theorem activate_of_pending (hv : Valid sdk s) {a : Int} (hp : s.phase = some (.pending a)) {e : Event}
    (h : (apply sdk authority s e).phase = some .activated) : e = .endBlock ∧ a ≤ s.height := by
  rw [phase_apply_of_pending sdk authority hsdk hv hp] at h
  by_cases he : e = .endBlock
  · rw [if_pos he] at h
    refine ⟨he, ?_⟩
    by_contra hlt
    rw [if_neg hlt] at h
    split at h <;> cases h
  · rw [if_neg he] at h
    cases h

end Step

/-- 見本の状態の end block は、割合が閾値に届いているので準備に入り、有効にする高さを 2 とする。 -/
theorem apply_refines_phase_sample :
    pkSampleSdk.Lawful ∧ Valid pkSampleSdk pkSampleState ∧
      (apply pkSampleSdk "gov" pkSampleState .endBlock).phase = some (.pending 2) := by
  refine ⟨pkSampleSdk_lawful, pkSampleState_valid, ?_⟩
  rw [apply_refines_phase pkSampleSdk "gov" pkSampleSdk_lawful pkSampleState_valid]
  decide

section Activate

variable {sdk : Sdk} {authority : String} {s : State} (hsdk : sdk.Lawful)
include hsdk

/--
**有効にする end block。** 整った状態で scheme が準備中で、高さが有効にする高さに届いていれば、
`EndBlock` は scheme を有効にし、鍵を登録していない validator をすべて jail し、ほかの validator と
鍵と voting power は変えない。`JailValidators` の失敗の道は通らない。
-/
theorem EndBlock_activates (hv : Valid sdk s) {a : Int} (hp : s.phase = some (.pending a))
    (ha : a ≤ s.height) :
    (s.EndBlock sdk).phase = some .activated ∧
      (∀ k, (s.EndBlock sdk).validators.get? k = (s.validators.get? k).map fun v =>
        { v with Jailed := v.Jailed || !s.HasRegisteredKey k SEDAKeyIndexSecp256k1 }) ∧
      (s.EndBlock sdk).pubKeys = s.pubKeys ∧ (s.EndBlock sdk).lastValidatorPowers = s.lastValidatorPowers := by
  obtain ⟨scheme, hget, hph⟩ := Option.map_eq_some_iff.mp hp
  obtain ⟨hact, hne, rfl⟩ := ProvingScheme.phase_eq_pending.mp hph
  have hphase : (s.EndBlock sdk).phase = some .activated := by
    rw [(s.EndBlock_path sdk).phase hsdk hv.wellFormed hv.heightNonneg hv.delayNonneg, hp]
    simp [SchemePhase.next, ha]
  refine ⟨hphase, ?_⟩
  -- 高さが届いているので、通ったのは有効にする道である
  have hpath := s.EndBlock_path sdk
  generalize s.EndBlock sdk = s' at hpath hphase ⊢
  cases hpath with
  | activate _ _ _ _ hj =>
    have hk := State.jailedKeyless_of_ok hsdk hv.wellFormed hj
    exact ⟨fun k => by simp [hk.validators k], by simp [hk.pubKeys], by simp [hk.lastValidatorPowers]⟩
  | jailFailed _ _ _ _ hj => exact absurd hj (State.JailValidators_ne_error hsdk hv.wellFormed _ _)
  | noScheme => rw [hp] at hphase; cases hphase
  | activated => rw [hp] at hphase; cases hphase
  | idle => rw [hp] at hphase; cases hphase
  | start hget' _ hdef _ =>
    rw [hget] at hget'
    cases hget'
    exact absurd hdef hne
  | cancel hget' _ _ hlt _ =>
    rw [hget] at hget'
    cases hget'
    exact absurd ha (not_le.mpr hlt)

/--
有効にする一歩の後の状態では、鍵の無い validator はどれも jail されている。`EndBlock_activates` の
validator の式と、鍵の表が変わらないことからである。
-/
theorem keyless_jailed_of_activates (hv : Valid sdk s) {a : Int} (hp : s.phase = some (.pending a))
    (ha : a ≤ s.height) {k : Bytes} {v : Validator}
    (hk : (apply sdk authority s .endBlock).validators.get? k = some v)
    (hreg : (apply sdk authority s .endBlock).HasRegisteredKey k SEDAKeyIndexSecp256k1 = false) :
    v.Jailed = true := by
  obtain ⟨-, hval, hpk, -⟩ := EndBlock_activates hsdk hv hp ha
  have hreg' : s.HasRegisteredKey k SEDAKeyIndexSecp256k1 = false := by
    simpa [apply, State.HasRegisteredKey, hpk] using hreg
  simp only [apply, hval k] at hk
  obtain ⟨w, -, rfl⟩ := Option.map_eq_some_iff.mp hk
  simp [hreg']

end Activate

/-! ## 走り -/

section Run

variable (sdk : Sdk) (authority : String) {s : State} (hsdk : sdk.Lawful)
include hsdk

/-- どの走りも構造の不変量を保つ。 -/
theorem run_valid (hv : Valid sdk s) (es : List Event) : Valid sdk (run (apply sdk authority) s es) :=
  run_invariant (P := Valid sdk) (fun _ e ht => apply_valid sdk authority hsdk ht e) es hv

/-- 構造の不変量と鍵の整合は、合わせて走り全体で保たれる。 -/
theorem run_valid_keysCover (hv : Valid sdk s) (hc : KeysCover s) (es : List Event) :
    Valid sdk (run (apply sdk authority) s es) ∧ KeysCover (run (apply sdk authority) s es) :=
  run_invariant (P := fun t => Valid sdk t ∧ KeysCover t)
    (fun _ e ht => ⟨apply_valid sdk authority hsdk ht.1 e, apply_keysCover sdk authority hsdk ht.1 ht.2 e⟩)
    es ⟨hv, hc⟩

/--
**鍵の整合は走り全体で保たれる。** 整った状態から始めれば、どの出来事の列の後でも、secp256k1 の
scheme が有効なら、jail されていない validator はどれも secp256k1 の鍵を登録している。
-/
theorem run_keysCover (hv : Valid sdk s) (hc : KeysCover s) (es : List Event) :
    KeysCover (run (apply sdk authority) s es) :=
  (run_valid_keysCover sdk authority hsdk hv hc es).2

/-- scheme は消えない。 -/
theorem run_phase_isSome (hv : Valid sdk s) (hs : s.phase.isSome) (es : List Event) :
    (run (apply sdk authority) s es).phase.isSome :=
  run_invariant_of (I := Valid sdk) (P := fun (t : State) => t.phase.isSome)
    (fun _ e ht => apply_valid sdk authority hsdk ht e)
    (fun t e ht hst => by
    by_cases he : e = .endBlock
    · subst he
      rw [phase_apply_endBlock sdk authority hsdk ht, Option.isSome_map]
      exact hst
    · rw [phase_apply_of_ne_endBlock sdk authority hsdk he]
      exact hst) es hv hs

/-- **高さは end block ごとに一つ進む。** 走りの後の高さは、初めの高さに end block の数を足したものである。 -/
theorem run_height (es : List Event) :
    (run (apply sdk authority) s es).height = s.height + es.count .endBlock := by
  induction es generalizing s with
  | nil => simp
  | cons e es ih =>
    rw [run_cons, ih, apply_height sdk authority hsdk, List.count_cons]
    by_cases he : e = .endBlock <;> simp [he]
    omega

/-- 有効になった scheme は、その後のどの走りでも有効なままである。 -/
theorem run_activated (hv : Valid sdk s) (ha : s.phase = some .activated) (es : List Event) :
    (run (apply sdk authority) s es).phase = some .activated :=
  run_invariant_of (I := Valid sdk) (P := fun (t : State) => t.phase = some .activated)
    (fun _ e ht => apply_valid sdk authority hsdk ht e)
    (fun _ e ht hst => phase_apply_of_activated sdk authority hsdk ht hst e) es hv ha

/--
**準備中の走り。** 準備中の状態からの走りが、途中で待機に戻らず、終わりで有効になっていなければ、
終わりでも同じ高さを待つ準備中であり、途中のどの end block も、高さが届く前で、割合が閾値に届いて
いた。列についての帰納法で、先頭の一歩を `phase_apply_of_pending` で分ける。高さが届いた end block は
有効にし、有効な scheme は有効なままなので、終わりで有効でないことに反する。
-/
theorem run_pending {t : State} (hv : Valid sdk t) {a : Int} (hp : t.phase = some (.pending a)) :
    ∀ (L : List Event), (∀ j ≤ L.length, (run (apply sdk authority) t (L.take j)).phase ≠ some .idle) →
      (run (apply sdk authority) t L).phase ≠ some .activated →
      (run (apply sdk authority) t L).phase = some (.pending a) ∧
        ∀ k (hk : k < L.length), L[k] = .endBlock →
          (run (apply sdk authority) t (L.take k)).height < a ∧
          (run (apply sdk authority) t (L.take k)).CheckKeyRegistrationRate SEDAKeyIndexSecp256k1 = true := by
  intro L
  induction L generalizing t with
  | nil => intro _ _; exact ⟨hp, fun k hk => absurd hk (Nat.not_lt_zero k)⟩
  | cons e L ih =>
    intro hall hna
    have hv' := apply_valid sdk authority hsdk hv e
    rw [run_cons] at hna
    -- 先頭の一歩で有効になれば、その後も有効なままなので、終わりで有効でないことに反する
    have hna₁ : (apply sdk authority t e).phase ≠ some .activated := fun ha =>
      hna (run_activated sdk authority hsdk hv' ha L)
    have hfirst := pending_step sdk authority hsdk hv hp (hall 1 (by simp)) hna₁
    have hall' : ∀ j ≤ L.length, (run (apply sdk authority) (apply sdk authority t e) (L.take j)).phase ≠
        some .idle := fun j hj => hall (j + 1) (by simpa using hj)
    obtain ⟨hend, hmid⟩ := ih hv' hfirst.1 hall' hna
    refine ⟨by rwa [run_cons], fun k hk he => ?_⟩
    cases k with
    | zero => exact hfirst.2 he
    | succ k => exact hmid k (by simpa using hk) he

end Run

/-- 見本の走りは scheme を有効にし、その後も鍵の整合は成り立つ。 -/
theorem run_keysCover_sample :
    pkSampleSdk.Lawful ∧ Valid pkSampleSdk pkSampleState ∧ KeysCover pkSampleState ∧
      (run (apply pkSampleSdk "gov") pkSampleState pkSampleRun).phase = some .activated ∧
      KeysCover (run (apply pkSampleSdk "gov") pkSampleState pkSampleRun) :=
  ⟨pkSampleSdk_lawful, pkSampleState_valid, pkSampleState_keysCover, by decide,
    run_keysCover pkSampleSdk "gov" pkSampleSdk_lawful pkSampleState_valid pkSampleState_keysCover pkSampleRun⟩

/-! ## 有効になるまで -/

section Activation

variable {sdk : Sdk} {authority : String} {s : State}

/--
**proving scheme の一生。** 整っており scheme が待機中の状態からの走りで、

* 有効になった scheme は、その後のどの出来事の後でも有効なままである
* 有効になる一歩は end block で、その後の状態では鍵の無い validator はどれも jail されている
* その前に、最後に準備に入った end block がある。そこで scheme は待機中で、登録の割合は閾値に届いて
  いた。有効になる end block の高さは、準備に入った高さより大きく、準備に入った高さに遅れを足した
  高さ以上で、その直前に scheme はこの高さを待つ準備中である。その間の end block はどれも、高さが
  届く前で、割合は閾値に届いていた
-/
theorem activation_lifecycle (hsdk : sdk.Lawful) (hv : Valid sdk s) (hidle : s.phase = some .idle) :
    (∀ es es', (run (apply sdk authority) s es).phase = some .activated →
      (run (apply sdk authority) s (es ++ es')).phase = some .activated) ∧
    ∀ pre e, (run (apply sdk authority) s pre).phase ≠ some .activated →
      (run (apply sdk authority) s (pre ++ [e])).phase = some .activated →
      e = .endBlock ∧
      (∀ k v, (run (apply sdk authority) s (pre ++ [e])).validators.get? k = some v →
        (run (apply sdk authority) s (pre ++ [e])).HasRegisteredKey k SEDAKeyIndexSecp256k1 = false →
        v.Jailed = true) ∧
      ∃ pre₀ mid, pre = pre₀ ++ .endBlock :: mid ∧
        (run (apply sdk authority) s pre₀).phase = some .idle ∧
        (run (apply sdk authority) s pre₀).CheckKeyRegistrationRate SEDAKeyIndexSecp256k1 = true ∧
        (run (apply sdk authority) s pre₀).height < (run (apply sdk authority) s pre).height ∧
        (run (apply sdk authority) s pre₀).height + (run (apply sdk authority) s pre₀).params.ActivationBlockDelay ≤
          (run (apply sdk authority) s pre).height ∧
        (run (apply sdk authority) s pre).phase = some (.pending
          ((run (apply sdk authority) s pre₀).height + (run (apply sdk authority) s pre₀).params.ActivationBlockDelay)) ∧
        ∀ k (hk : k < mid.length), mid[k] = .endBlock →
          (run (apply sdk authority) s (pre₀ ++ .endBlock :: mid.take k)).height <
              (run (apply sdk authority) s pre₀).height +
                (run (apply sdk authority) s pre₀).params.ActivationBlockDelay ∧
            (run (apply sdk authority) s (pre₀ ++ .endBlock :: mid.take k)).CheckKeyRegistrationRate
              SEDAKeyIndexSecp256k1 = true := by
  refine ⟨fun es es' ha => ?_, fun pre e hna hact => ?_⟩
  · rw [run_append]
    exact run_activated sdk authority hsdk (run_valid sdk authority hsdk hv es) ha es'
  have hvpre := run_valid sdk authority hsdk hv pre
  rw [run_concat] at hact ⊢
  -- 待機から一つの一歩では有効にならないので、直前は待機でない
  have hni : (run (apply sdk authority) s pre).phase ≠ some .idle := by
    intro hi
    have h := (leave_idle sdk authority hsdk hvpre hi (by rw [hact]; simp)).2.2
    rw [hact] at h
    cases h
  -- 相が待機でなくなった最後の一歩が、準備に入った end block である
  obtain ⟨pre₀, e₀, mid, rfl, hpre₀, hall⟩ :=
    exists_last_entry (P := fun (t : State) => t.phase ≠ some SchemePhase.idle) pre (by simpa using hidle) hni
  have hidle₀ : (run (apply sdk authority) s pre₀).phase = some .idle := by simpa using hpre₀
  have hv₀ := run_valid sdk authority hsdk hv pre₀
  obtain ⟨rfl, hmet, hstart⟩ := leave_idle sdk authority hsdk hv₀ hidle₀ (hall 0 (Nat.zero_le _))
  set t₀ := run (apply sdk authority) s pre₀ with ht₀
  -- 準備に入った後の走りは、有効にする end block の直前まで同じ高さを待つ準備中である
  have hrun : ∀ L, run (apply sdk authority) s (pre₀ ++ .endBlock :: L) =
      run (apply sdk authority) (apply sdk authority t₀ .endBlock) L := fun L => by
    rw [run_append, run_cons]
  rw [hrun] at hna hvpre hact ⊢
  obtain ⟨hpend, hmid⟩ :=
    run_pending sdk authority hsdk (apply_valid sdk authority hsdk hv₀ .endBlock) hstart mid hall hna
  obtain ⟨he, hle⟩ := activate_of_pending sdk authority hsdk hvpre hpend hact
  have hheight : t₀.height < (run (apply sdk authority) (apply sdk authority t₀ .endBlock) mid).height := by
    have h₁ := run_height sdk authority hsdk (s := apply sdk authority t₀ .endBlock) mid
    have h₂ := apply_height sdk authority hsdk (s := t₀) .endBlock
    rw [if_pos rfl] at h₂
    omega
  refine ⟨he, fun k v hk hreg => keyless_jailed_of_activates hsdk hvpre hpend hle (he ▸ hk) (he ▸ hreg),
    pre₀, mid, rfl, hidle₀, hmet, hheight, hle, hpend, fun k hk hek => ?_⟩
  rw [hrun]
  exact hmid k hk hek

end Activation

/-- 見本の走りでは、最初の end block で準備に入り、三つ目の end block で有効になり、鍵の無い `"b"` を jail する。 -/
theorem activation_lifecycle_sample :
    pkSampleSdk.Lawful ∧ Valid pkSampleSdk pkSampleState ∧ pkSampleState.phase = some .idle ∧
      (run (apply pkSampleSdk "gov") pkSampleState (pkSampleRun.take 4)).phase ≠ some .activated ∧
      (run (apply pkSampleSdk "gov") pkSampleState (pkSampleRun.take 4 ++ [.endBlock])).phase = some .activated ∧
      ∀ v, (run (apply pkSampleSdk "gov") pkSampleState pkSampleRun).validators.get? [98] = some v →
        v.Jailed = true := by
  have hidle : pkSampleState.phase = some .idle := by decide
  have hna : (run (apply pkSampleSdk "gov") pkSampleState (pkSampleRun.take 4)).phase ≠ some .activated := by
    decide
  have hact : (run (apply pkSampleSdk "gov") pkSampleState (pkSampleRun.take 4 ++ [.endBlock])).phase =
      some .activated := by decide
  obtain ⟨-, hjail, -⟩ := (activation_lifecycle pkSampleSdk_lawful pkSampleState_valid hidle).2 _ _ hna hact
  refine ⟨pkSampleSdk_lawful, pkSampleState_valid, hidle, hna, hact, fun v hv => hjail [98] v hv ?_⟩
  decide

/-! ## staking の invariant -/

section Invariant

variable {sdk : Sdk} {s : State}

/-- bonded な validator の address がどれも復号でき、その byte 列の下に鍵があれば、loop は何も見つけない。 -/
theorem firstViolator_eq_none {L : List String}
    (h : ∀ a ∈ L, ∃ k, sdk.StringToBytes a = .ok k ∧ s.HasRegisteredKey k SEDAKeyIndexSecp256k1 = true) :
    firstViolator sdk s L = .ok none := by
  induction L with
  | nil => rfl
  | cons a L ih =>
    obtain ⟨k, hk, hreg⟩ := h a List.mem_cons_self
    have hrest := ih fun b hb => h b (List.mem_cons_of_mem _ hb)
    simp [firstViolator, hk, hreg, Except.mapError, hrest]

/-- invariant が壊れていない時の報告。 -/
def invariantOk (sdk : Sdk) : String × Bool :=
  let violator := ""
  (sdk.FormatInvariant "staking" "SEDA public key registration"
    s!"\tViolator, if any (may not be the only violator): {violator}\n", false)

/--
鍵の整合が成り立ち、scheme があり、bonded な validator がどれも、address を復号した byte 列の下の
jail されていない validator なら、staking の invariant は壊れていない。
-/
theorem PubKeyRegistrationInvariant_of_keysCover (hc : KeysCover s) (hs : s.phase.isSome)
    {bonded : List String}
    (hbonded : ∀ a ∈ bonded, ∃ k v, sdk.StringToBytes a = .ok k ∧ s.validators.get? k = some v ∧
      v.Jailed = false) :
    PubKeyRegistrationInvariant sdk s bonded = .ok (invariantOk sdk) := by
  obtain ⟨scheme, hget⟩ : ∃ scheme, s.provingSchemes.get? SEDAKeyIndexSecp256k1 = some scheme := by
    simpa [State.phase, Option.isSome_iff_exists] using hs
  have hact : s.IsProvingSchemeActivated SEDAKeyIndexSecp256k1 = .ok scheme.IsActivated :=
    IsProvingSchemeActivated_eq_ok.mpr ⟨scheme, hget, rfl⟩
  unfold PubKeyRegistrationInvariant
  rw [hact]
  cases hsa : scheme.IsActivated
  · rfl
  · -- 有効なら、bonded な validator はどれも鍵を持つので、loop は何も見つけない
    have hnone : firstViolator sdk s bonded = .ok none := by
      apply firstViolator_eq_none
      intro a ha
      obtain ⟨k, v, hk, hv, hj⟩ := hbonded a ha
      exact ⟨k, hk, hc (hsa ▸ hact) k v hv hj⟩
    simp [Except.mapError, hnone, invariantOk]

/--
**staking の invariant は走りのどこでも壊れない。** 整っており鍵の整合の成り立つ、scheme のある状態から
始めれば、どの出来事の列の後でも、bonded な validator が jail されていない validator である限り、
`PubKeyRegistrationInvariant` は壊れていないと報告する。
-/
theorem PubKeyRegistrationInvariant_run (authority : String) (hsdk : sdk.Lawful) (hv : Valid sdk s)
    (hc : KeysCover s) (hs : s.phase.isSome) (es : List Event) {bonded : List String}
    (hbonded : ∀ a ∈ bonded, ∃ k v, sdk.StringToBytes a = .ok k ∧
      (run (apply sdk authority) s es).validators.get? k = some v ∧ v.Jailed = false) :
    PubKeyRegistrationInvariant sdk (run (apply sdk authority) s es) bonded = .ok (invariantOk sdk) :=
  PubKeyRegistrationInvariant_of_keysCover (run_valid_keysCover sdk authority hsdk hv hc es).2
    (run_phase_isSome sdk authority hsdk hv hs es) hbonded

end Invariant

/-- 見本の走りの後、鍵を持つ `"a"` だけが bonded なら、invariant は壊れていない。 -/
theorem PubKeyRegistrationInvariant_run_sample :
    pkSampleSdk.Lawful ∧ Valid pkSampleSdk pkSampleState ∧ KeysCover pkSampleState ∧ pkSampleState.phase.isSome ∧
      (∀ a ∈ ["a"], ∃ k v, pkSampleSdk.StringToBytes a = .ok k ∧
        (run (apply pkSampleSdk "gov") pkSampleState pkSampleRun).validators.get? k = some v ∧ v.Jailed = false) ∧
      PubKeyRegistrationInvariant pkSampleSdk (run (apply pkSampleSdk "gov") pkSampleState pkSampleRun) ["a"] =
        .ok (invariantOk pkSampleSdk) := by
  have hb : ∀ a ∈ ["a"], ∃ k v, pkSampleSdk.StringToBytes a = .ok k ∧
      (run (apply pkSampleSdk "gov") pkSampleState pkSampleRun).validators.get? k = some v ∧ v.Jailed = false := by
    intro a ha
    rw [List.mem_singleton] at ha
    subst ha
    exact ⟨[97], ⟨"a", some [1], false⟩, by decide, by decide, rfl⟩
  exact ⟨pkSampleSdk_lawful, pkSampleState_valid, pkSampleState_keysCover, rfl, hb,
    PubKeyRegistrationInvariant_run "gov" pkSampleSdk_lawful pkSampleState_valid pkSampleState_keysCover rfl
      pkSampleRun hb⟩

end SedaChain.Pubkey
