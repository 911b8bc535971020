import SedaChain.DataProxy.Keeper
import SedaChain.Infra.Index

/-!
# 手数料の変更の queue

proxy の設定の `FeeUpdate` と queue `feeUpdateQueue` は同じ予約の二つの写しである。queue は
予約の高さの索引（`Infra.IsIndex`）であり続け、一つの高さの予約は `MaxUpdatesPerBlock` を
超えず、parameter は検査を通ったものである（`Inv`）。

やり方は三段である。

1. **spec**：message と EndBlock のそれぞれについて、成功したときに store に何をしたかを
   一つの lemma で言う（`RegisterDataProxy_spec` など）。
2. **一歩**：spec から、一歩が不変条件を保つこと（`Inv.scheduleFeeUpdate`、
   `processFeeUpdates_spec`）と、予約が次の EndBlock より前に取り残されないこと。
3. **run**：`Sys.run` の長さについての帰納法（`run_good`）。

* **`run_feeUpdateQueue`**：不変条件を満たす genesis からのどの run も止まらず、着いた状態で
  不変条件が成り立ち、次の EndBlock は予約をその高さで適用して消す。高さに `2^32` を足しても
  `int64` に収まる間は、どの予約も次の EndBlock の高さより前にない
* `feeUpdate_stranded_near_int64_max`：高さが `int64` の上限に近いと、適用の高さが折り返して
  負になり、予約は次の EndBlock より前に取り残される
-/

namespace SedaChain.DataProxy

open Infra Infra.Go SedaChain.App

/-! ## 予約の高さ -/

namespace State

/-- proxy `pk` の設定が予約している適用の高さ。 -/
def scheduledHeight (s : State) (pk : Bytes) : Option Int :=
  (s.dataProxyConfigs.get? pk).bind fun c => c.FeeUpdate.map (·.UpdateHeight)

@[simp] theorem scheduledHeight_SetDataProxyConfig (s : State) (pk : Bytes) (c : ProxyConfig)
    (pk' : Bytes) :
    (s.SetDataProxyConfig pk c).scheduledHeight pk' =
      if pk' = pk then c.FeeUpdate.map (·.UpdateHeight) else s.scheduledHeight pk' := by
  by_cases h : pk' = pk <;> simp [scheduledHeight, SetDataProxyConfig, h]

@[simp] theorem scheduledHeight_SetFeeUpdate (s : State) (h : Int) (pk pk' : Bytes) :
    (s.SetFeeUpdate h pk).scheduledHeight pk' = s.scheduledHeight pk' := rfl

@[simp] theorem scheduledHeight_RemoveFeeUpdate (s : State) (h : Int) (pk pk' : Bytes) :
    (s.RemoveFeeUpdate h pk).scheduledHeight pk' = s.scheduledHeight pk' := rfl

theorem scheduledHeight_eq_some {s : State} {pk : Bytes} {h : Int} :
    s.scheduledHeight pk = some h ↔
      ∃ c fu, s.dataProxyConfigs.get? pk = some c ∧ c.FeeUpdate = some fu ∧ fu.UpdateHeight = h := by
  cases hc : s.dataProxyConfigs.get? pk <;> simp [scheduledHeight, hc]

theorem length_getFeeUpdateKeys_SetFeeUpdate_le (s : State) (h h' : Int) (pk : Bytes) :
    ((s.SetFeeUpdate h pk).getFeeUpdateKeys h').length ≤ (s.getFeeUpdateKeys h').length + 1 :=
  KeyMap.length_filter_keys_set_le _ _ _ _

theorem length_getFeeUpdateKeys_SetFeeUpdate_of_ne (s : State) {h h' : Int} (pk : Bytes)
    (hne : h ≠ h') :
    ((s.SetFeeUpdate h pk).getFeeUpdateKeys h').length ≤ (s.getFeeUpdateKeys h').length :=
  KeyMap.length_filter_keys_set_of_not _ _ (by simpa using hne)

theorem length_getFeeUpdateKeys_RemoveFeeUpdate_le (s : State) (h h' : Int) (pk : Bytes) :
    ((s.RemoveFeeUpdate h pk).getFeeUpdateKeys h').length ≤ (s.getFeeUpdateKeys h').length :=
  KeyMap.length_filter_keys_erase_le _ _ _

end State

/-! ## 不変条件 -/

/-- store の不変条件。 -/
structure Inv (s : State) : Prop where
  /-- `(h, pk)` が queue にあるのは、`pk` の設定が高さ `h` の予約を持つときに限る -/
  index : IsIndex s.feeUpdateQueue s.scheduledHeight
  /-- 一つの高さの予約は `MaxUpdatesPerBlock` を超えない -/
  capacity : ∀ h, (s.getFeeUpdateKeys h).length ≤ MaxUpdatesPerBlock
  /-- parameter は検査を通ったもの -/
  params_valid : s.params.Validate = .ok ()

/-- 予約はどれも高さ `height` より前にない。 -/
def NoStranded (height : Int) (s : State) : Prop :=
  ∀ h pk, s.HasFeeUpdate h pk = true → height ≤ h

theorem Inv.queued_iff {s : State} (hi : Inv s) (h : Int) (pk : Bytes) :
    s.HasFeeUpdate h pk = true ↔ s.scheduledHeight pk = some h :=
  hi.index h pk

/-- 最小の遅れは 1 以上である。 -/
theorem Inv.one_le_minDelay {s : State} (hi : Inv s) : 1 ≤ s.params.MinFeeUpdateDelay.toNat :=
  UInt32.le_iff_toNat_le.mp (Params.Validate_eq_ok.mp hi.params_valid)

/-- 予約の高さを変えずに設定を書いても、不変条件は保たれる。 -/
theorem Inv.SetDataProxyConfig {s : State} {pk : Bytes} {c : ProxyConfig} (hi : Inv s)
    (hc : c.FeeUpdate.map (·.UpdateHeight) = s.scheduledHeight pk) :
    Inv (s.SetDataProxyConfig pk c) where
  index := hi.index.congr fun pk' => by
    rw [State.scheduledHeight_SetDataProxyConfig]
    split
    · next h => rw [h, hc]
    · rfl
  capacity := hi.capacity
  params_valid := hi.params_valid

/-! ## message の spec -/

section Specs

variable {env : Env} {ctx : Context} {s s' : State}

/-- 登録は、まだ無い公開鍵に予約の無い設定を書く。 -/
theorem RegisterDataProxy_spec {msg : MsgRegisterDataProxy}
    (h : RegisterDataProxy env ctx s msg = .ok s') :
    ∃ pk c, s.dataProxyConfigs.get? pk = none ∧ c.FeeUpdate = none ∧
      s' = s.SetDataProxyConfig pk c := by
  unfold RegisterDataProxy at h
  obtain ⟨_, -, h⟩ := bind_eq_ok.mp h
  obtain ⟨adminAddr, -, h⟩ := bind_eq_ok.mp h
  obtain ⟨_, -, h⟩ := bind_eq_ok.mp h
  obtain ⟨_, -, h⟩ := bind_eq_ok.mp h
  obtain ⟨pk, -, h⟩ := bind_eq_ok.mp h
  obtain ⟨sig, -, h⟩ := bind_eq_ok.mp h
  -- 登録済みの公開鍵は断られる
  by_cases hhas : s.HasDataProxy pk = true
  · simp [hhas] at h
  simp only [hhas, Bool.false_eq_true, ↓reduceIte] at h
  split at h
  · split at h
    · simp at h
    · obtain ⟨_, -, h⟩ := bind_eq_ok.mp h
      refine ⟨pk, _, ?_, rfl, (Except.ok.inj h).symm⟩
      simpa [State.HasDataProxy, KeyMap.contains] using hhas
  · cases h

/--
予約は、適用の高さ `H'` の予約が `MaxUpdatesPerBlock` に満たないときに限り、前の予約の組を消して
`(H', pk)` を足し、設定の予約を書く。
-/
theorem scheduleFeeUpdate_spec {pk : Bytes} {c : ProxyConfig} {newFee : Coin} {d : UInt32}
    {H' : Int} (h : scheduleFeeUpdate ctx s pk c newFee d = .ok (s', H')) :
    H' = addI64 ctx.BlockHeight d.toNat ∧
      (s.getFeeUpdateKeys H').length < MaxUpdatesPerBlock ∧
      s' = ((match c.FeeUpdate with
          | some old => s.RemoveFeeUpdate old.UpdateHeight pk
          | none => s).SetFeeUpdate H' pk).SetDataProxyConfig pk
        { c with FeeUpdate := some { NewFee := some newFee, UpdateHeight := H' } } := by
  unfold scheduleFeeUpdate at h
  by_cases hcap : (s.getFeeUpdateKeys (addI64 ctx.BlockHeight d.toNat)).length ≥ MaxUpdatesPerBlock
  · simp [hcap] at h
  simp only [hcap, ↓reduceIte] at h
  obtain ⟨rfl, rfl⟩ := Prod.mk.inj (Except.ok.inj h).symm
  exact ⟨rfl, Nat.lt_of_not_le hcap, rfl⟩

/--
編集は、登録された設定 `c` を読み、予約を変えない設定 `c'` を書くか、`c'` に新しい手数料を
最小の遅れ以上の遅れで予約する。
-/
theorem EditDataProxy_spec {msg : MsgEditDataProxy} {r : Int}
    (h : EditDataProxy env ctx s msg = .ok (s', r)) :
    ∃ pk c c', s.dataProxyConfigs.get? pk = some c ∧ c'.FeeUpdate = c.FeeUpdate ∧
      ((msg.NewFee = none ∧ s' = s.SetDataProxyConfig pk c') ∨
        ∃ newFee d, msg.NewFee = some newFee ∧ s.params.MinFeeUpdateDelay ≤ d ∧
          scheduleFeeUpdate ctx s pk c' newFee d = .ok (s', r)) := by
  unfold EditDataProxy at h
  obtain ⟨_, -, h⟩ := bind_eq_ok.mp h
  obtain ⟨pk, -, h⟩ := bind_eq_ok.mp h
  obtain ⟨c, hc, h⟩ := bind_eq_ok.mp h
  have hget : s.dataProxyConfigs.get? pk = some c :=
    State.GetDataProxyConfig_eq_ok.mp (mapError_eq_ok.mp hc)
  -- admin でない送り手は断られる
  by_cases hsender : msg.Sender = c.AdminAddress
  swap
  · simp [hsender] at h
  simp only [hsender, ne_eq, not_true_eq_false, ↓reduceIte] at h
  obtain ⟨c', hc', h⟩ := bind_eq_ok.mp h
  have hfu : c'.FeeUpdate = c.FeeUpdate := (ProxyConfig.UpdateBasic_fields hc').2.1
  refine ⟨pk, c, c', hget, hfu, ?_⟩
  split at h
  · next hnone =>
    obtain ⟨rfl, -⟩ := Prod.mk.inj (Except.ok.inj h).symm
    exact .inl ⟨hnone, rfl⟩
  · next newFee hsome =>
    obtain ⟨d, hd, h⟩ := bind_eq_ok.mp h
    exact .inr ⟨newFee, d, hsome, le_of_updateDelayOf_eq_ok hd, h⟩

/-- admin の移譲は、登録された設定の admin だけを書く。 -/
theorem TransferAdmin_spec {msg : MsgTransferAdmin} (h : TransferAdmin env s msg = .ok s') :
    ∃ pk c, s.dataProxyConfigs.get? pk = some c ∧
      s' = s.SetDataProxyConfig pk { c with AdminAddress := msg.NewAdminAddress } := by
  unfold TransferAdmin at h
  obtain ⟨_, -, h⟩ := bind_eq_ok.mp h
  obtain ⟨pk, -, h⟩ := bind_eq_ok.mp h
  obtain ⟨c, hc, h⟩ := bind_eq_ok.mp h
  by_cases hsender : msg.Sender = c.AdminAddress
  swap
  · simp [hsender] at h
  simp only [hsender, ne_eq, not_true_eq_false, ↓reduceIte] at h
  exact ⟨pk, c, State.GetDataProxyConfig_eq_ok.mp (mapError_eq_ok.mp hc),
    (Except.ok.inj h).symm⟩

/-- parameter の更新は、検査を通った parameter だけを書く。 -/
theorem UpdateParams_spec {msg : MsgUpdateParams} (h : UpdateParams env s msg = .ok s') :
    msg.Params.Validate = .ok () ∧ s' = { s with params := msg.Params } := by
  unfold UpdateParams at h
  obtain ⟨_, -, h⟩ := bind_eq_ok.mp h
  by_cases hauth : env.authority = msg.Authority
  swap
  · simp [hauth] at h
  simp only [hauth, ne_eq, not_true_eq_false, ↓reduceIte] at h
  obtain ⟨_, hv, h⟩ := bind_eq_ok.mp h
  exact ⟨hv, (Except.ok.inj h).symm⟩

end Specs

/-! ## message は不変条件を保つ -/

section Steps

variable {env : Env} {ctx : Context} {s s' : State}

theorem Inv.RegisterDataProxy (hi : Inv s) {msg : MsgRegisterDataProxy}
    (h : RegisterDataProxy env ctx s msg = .ok s') : Inv s' := by
  obtain ⟨pk, c, hnone, hfu, rfl⟩ := RegisterDataProxy_spec h
  exact hi.SetDataProxyConfig (by simp [hfu, State.scheduledHeight, hnone])

theorem Inv.TransferAdmin (hi : Inv s) {msg : MsgTransferAdmin}
    (h : TransferAdmin env s msg = .ok s') : Inv s' := by
  obtain ⟨pk, c, hget, rfl⟩ := TransferAdmin_spec h
  exact hi.SetDataProxyConfig (by simp [State.scheduledHeight, hget])

theorem Inv.UpdateParams (hi : Inv s) {msg : MsgUpdateParams}
    (h : UpdateParams env s msg = .ok s') : Inv s' := by
  obtain ⟨hv, rfl⟩ := UpdateParams_spec h
  exact ⟨hi.index, hi.capacity, hv⟩

/--
予約の前後の queue：前の予約の組を消した queue は、`pk` の予約を消した属性の索引である。
-/
theorem Inv.index_removeOld (hi : Inv s) {pk : Bytes} {c : ProxyConfig}
    (hc : c.FeeUpdate.map (·.UpdateHeight) = s.scheduledHeight pk) :
    IsIndex (match c.FeeUpdate with
        | some old => s.RemoveFeeUpdate old.UpdateHeight pk
        | none => s).feeUpdateQueue (Function.update s.scheduledHeight pk none) := by
  cases hfu : c.FeeUpdate with
  | none =>
    rw [hfu] at hc
    exact hi.index.congr fun pk' => by
      by_cases h : pk' = pk
      · subst h
        simp [← hc]
      · simp [h]
  | some old =>
    rw [hfu] at hc
    exact hi.index.erase hc.symm (by simp) fun pk' h => by simp [h]

/-- 予約は不変条件を保つ。 -/
theorem Inv.scheduleFeeUpdate (hi : Inv s) {pk : Bytes} {c : ProxyConfig} {newFee : Coin}
    {d : UInt32} {H' : Int} (hc : c.FeeUpdate.map (·.UpdateHeight) = s.scheduledHeight pk)
    (h : scheduleFeeUpdate ctx s pk c newFee d = .ok (s', H')) : Inv s' := by
  obtain ⟨-, hcap, rfl⟩ := scheduleFeeUpdate_spec h
  -- 前の予約を消した store
  set s₁ := match c.FeeUpdate with
    | some old => s.RemoveFeeUpdate old.UpdateHeight pk
    | none => s with hs₁
  have hidx₁ : IsIndex s₁.feeUpdateQueue (Function.update s.scheduledHeight pk none) :=
    hi.index_removeOld hc
  have hcount₁ : ∀ h, (s₁.getFeeUpdateKeys h).length ≤ (s.getFeeUpdateKeys h).length := by
    intro h
    rw [hs₁]
    split
    · exact State.length_getFeeUpdateKeys_RemoveFeeUpdate_le _ _ _ _
    · exact le_refl _
  have hparams₁ : s₁.params = s.params := by
    rw [hs₁]
    split <;> rfl
  have hsched₁ : ∀ pk', s₁.scheduledHeight pk' = s.scheduledHeight pk' := by
    intro pk'
    rw [hs₁]
    split <;> rfl
  refine ⟨?_, fun h => ?_, ?_⟩
  · -- 新しい組 `(H', pk)` は、予約の無くなった `pk` に足す
    refine hidx₁.set (by simp) (by simp) fun pk' hne => ?_
    simp [hne, hsched₁]
  · -- 一つの高さの数は、`H'` で高々一つ増え、他の高さでは増えない
    change ((s₁.SetFeeUpdate H' pk).getFeeUpdateKeys h).length ≤ MaxUpdatesPerBlock
    by_cases hh : H' = h
    · subst hh
      have := State.length_getFeeUpdateKeys_SetFeeUpdate_le s₁ H' H' pk
      have := hcount₁ H'
      omega
    · exact (State.length_getFeeUpdateKeys_SetFeeUpdate_of_ne s₁ pk hh).trans
        ((hcount₁ h).trans (hi.capacity h))
  · change s₁.params.Validate = .ok ()
    rw [hparams₁]
    exact hi.params_valid

theorem Inv.EditDataProxy (hi : Inv s) {msg : MsgEditDataProxy} {r : Int}
    (h : EditDataProxy env ctx s msg = .ok (s', r)) : Inv s' := by
  obtain ⟨pk, c, c', hget, hfu, ⟨-, rfl⟩ | ⟨newFee, d, -, -, hsched⟩⟩ := EditDataProxy_spec h
  · exact hi.SetDataProxyConfig (by simp [State.scheduledHeight, hget, hfu])
  · exact hi.scheduleFeeUpdate (by simp [State.scheduledHeight, hget, hfu]) hsched

end Steps

/-! ## 予約は取り残されない -/

section Stranded

variable {ctx : Context} {s s' : State}

/-- queue を変えない書き込みは、予約を取り残さない。 -/
theorem NoStranded.of_feeUpdateQueue_eq {height : Int} (hns : NoStranded height s)
    (hq : s'.feeUpdateQueue = s.feeUpdateQueue) : NoStranded height s' := by
  intro h pk hmem
  exact hns h pk (by rw [State.HasFeeUpdate, ← hq]; exact hmem)

/--
予約は、最小の遅れが 1 以上で、高さに遅れを足しても `int64` に収まるなら、予約を次の EndBlock
より前に置かない。
-/
theorem NoStranded.scheduleFeeUpdate (hns : NoStranded ctx.BlockHeight s)
    (h0 : 0 ≤ ctx.BlockHeight) (hb : ctx.BlockHeight + 2 ^ 32 ≤ 2 ^ 63) {pk : Bytes}
    {c : ProxyConfig} {newFee : Coin} {d : UInt32} {H' : Int} (hd : 1 ≤ d.toNat)
    (h : scheduleFeeUpdate ctx s pk c newFee d = .ok (s', H')) :
    NoStranded ctx.BlockHeight s' := by
  obtain ⟨rfl, -, rfl⟩ := scheduleFeeUpdate_spec h
  -- 遅れは `uint32` なので、足しても折り返さない
  have hlt : (d.toNat : Int) < 2 ^ 32 := by exact_mod_cast d.toNat_lt
  have hadd : addI64 ctx.BlockHeight d.toNat = ctx.BlockHeight + d.toNat :=
    addI64_of_mem (by omega) (by omega)
  intro h' pk' hmem
  simp only [State.HasFeeUpdate_SetDataProxyConfig, State.HasFeeUpdate_SetFeeUpdate] at hmem
  rcases hmem with ⟨rfl, -⟩ | hmem
  · rw [hadd]
    omega
  · -- 残った組は、もとの queue の組である
    apply hns h' pk'
    split at hmem
    · simp only [State.HasFeeUpdate_RemoveFeeUpdate] at hmem
      exact hmem.1
    · exact hmem

end Stranded

/-! ## EndBlock -/

/-- 高さ `height` の EndBlock が設定に行うこと：その高さの予約の手数料を手数料にし、予約を消す。 -/
def ProxyConfig.applyFeeUpdateAt (height : Int) (c : ProxyConfig) : ProxyConfig :=
  match c.FeeUpdate with
  | some fu => if fu.UpdateHeight = height then { c with Fee := fu.NewFee, FeeUpdate := none } else c
  | none => c

/-- 高さ `height` の予約が無ければ、EndBlock は設定を変えない。 -/
theorem ProxyConfig.applyFeeUpdateAt_eq_self {c : ProxyConfig} {height : Int}
    (h : c.FeeUpdate.map (·.UpdateHeight) ≠ some height) : c.applyFeeUpdateAt height = c := by
  unfold ProxyConfig.applyFeeUpdateAt
  split
  · next fu hfu =>
    rw [hfu] at h
    simp only [Option.map_some, ne_eq, Option.some.injEq] at h
    simp [h]
  · rfl

section EndBlock

variable {s : State}

theorem processFeeUpdates_cons_of_get {height : Int} {pk : Bytes} {pks : List Bytes}
    {c : ProxyConfig} {fu : FeeUpdate} (hget : s.dataProxyConfigs.get? pk = some c)
    (hfu : c.FeeUpdate = some fu) :
    processFeeUpdates height (pk :: pks) s =
      processFeeUpdates height pks
        ((s.SetDataProxyConfig pk { c with Fee := fu.NewFee, FeeUpdate := none }).RemoveFeeUpdate
          height pk) := by
  simp [processFeeUpdates, State.GetDataProxyConfig, hget, hfu]

/-- 予約を適用して組を消しても、不変条件は保たれる。 -/
theorem Inv.applyFeeUpdate (hi : Inv s) {height : Int} {pk : Bytes} {c : ProxyConfig}
    {fu : FeeUpdate} (hget : s.dataProxyConfigs.get? pk = some c) (hfu : c.FeeUpdate = some fu)
    (hh : fu.UpdateHeight = height) :
    Inv ((s.SetDataProxyConfig pk { c with Fee := fu.NewFee, FeeUpdate := none }).RemoveFeeUpdate
      height pk) where
  index := hi.index.erase (by simp [State.scheduledHeight, hget, hfu, hh]) (by simp)
    fun pk' hne => by simp [hne]
  capacity := fun h =>
    (State.length_getFeeUpdateKeys_RemoveFeeUpdate_le _ _ _ _).trans (hi.capacity h)
  params_valid := hi.params_valid

/--
`ProcessFeeUpdates` の loop：queue にある相異なる公開鍵を順に処理すると、失敗せず、
それらの設定に予約を適用し、それらの組だけを queue から消す。帰納法は公開鍵の列についてで、
不変条件が各段の設定の読み出しと予約の参照を支える。
-/
theorem processFeeUpdates_spec (height : Int) :
    ∀ (pks : List Bytes) (s : State), Inv s → pks.Nodup →
      (∀ pk ∈ pks, s.HasFeeUpdate height pk = true) →
      ∃ s', processFeeUpdates height pks s = .ok s' ∧ Inv s' ∧ s'.params = s.params ∧
        (∀ pk, s'.dataProxyConfigs.get? pk =
          if pk ∈ pks then (s.dataProxyConfigs.get? pk).map (·.applyFeeUpdateAt height)
          else s.dataProxyConfigs.get? pk) ∧
        (∀ h pk, s'.HasFeeUpdate h pk = true ↔
          s.HasFeeUpdate h pk = true ∧ ¬(h = height ∧ pk ∈ pks))
  | [], s, hi, _, _ => ⟨s, rfl, hi, rfl, fun pk => by simp, fun h pk => by simp⟩
  | pk :: pks, s, hi, hnd, hq => by
    obtain ⟨hpk, hnd'⟩ := List.nodup_cons.mp hnd
    -- queue の組は、設定の予約を指す
    obtain ⟨c, fu, hget, hfu, hh⟩ := State.scheduledHeight_eq_some.mp
      ((hi.queued_iff height pk).mp (hq pk List.mem_cons_self))
    set s₁ := (s.SetDataProxyConfig pk { c with Fee := fu.NewFee, FeeUpdate := none }).RemoveFeeUpdate
      height pk with hs₁
    have hq₁ : ∀ pk' ∈ pks, s₁.HasFeeUpdate height pk' = true := by
      intro pk' hmem
      have hne : pk' ≠ pk := fun e => hpk (e ▸ hmem)
      simp [hs₁, hne, hq pk' (List.mem_cons_of_mem _ hmem)]
    obtain ⟨s', hrun, hi', hparams, hget', hhas'⟩ :=
      processFeeUpdates_spec height pks s₁ (hi.applyFeeUpdate hget hfu hh) hnd' hq₁
    refine ⟨s', by rw [processFeeUpdates_cons_of_get hget hfu]; exact hrun, hi', hparams,
      fun pk' => ?_, fun h pk' => ?_⟩
    · rw [hget' pk']
      by_cases hp : pk' = pk
      · subst hp
        simp [hpk, hs₁, hget, State.SetDataProxyConfig, ProxyConfig.applyFeeUpdateAt, hfu, hh]
      · by_cases hm : pk' ∈ pks <;> simp [hm, hp, hs₁, State.SetDataProxyConfig]
    · rw [hhas' h pk']
      simp only [hs₁, State.HasFeeUpdate_RemoveFeeUpdate, State.HasFeeUpdate_SetDataProxyConfig,
        List.mem_cons]
      tauto

/--
**EndBlock の spec。** 不変条件の下で EndBlock は失敗せず（nil の予約を参照しない）、どの設定にも
その高さの予約を適用し、queue からその高さの組だけを消し、不変条件を保つ。
-/
theorem EndBlock_spec (hi : Inv s) (ctx : Context) :
    ∃ s', EndBlock ctx s = .ok s' ∧ Inv s' ∧ s'.params = s.params ∧
      (∀ pk, s'.dataProxyConfigs.get? pk =
        (s.dataProxyConfigs.get? pk).map (·.applyFeeUpdateAt ctx.BlockHeight)) ∧
      (∀ h pk, s'.HasFeeUpdate h pk = true ↔ s.HasFeeUpdate h pk = true ∧ h ≠ ctx.BlockHeight) := by
  obtain ⟨s', hrun, hi', hparams, hget', hhas'⟩ :=
    processFeeUpdates_spec ctx.BlockHeight (s.GetFeeUpdatePubKeys ctx.BlockHeight) s hi
      (State.nodup_GetFeeUpdatePubKeys s ctx.BlockHeight)
      (fun pk hm => State.mem_GetFeeUpdatePubKeys.mp hm)
  refine ⟨s', hrun, hi', hparams, fun pk => ?_, fun h pk => ?_⟩
  · rw [hget' pk]
    split
    · rfl
    · -- 処理しなかった proxy はこの高さの予約を持たない
      next hm =>
      rw [State.mem_GetFeeUpdatePubKeys, hi.queued_iff] at hm
      cases hc : s.dataProxyConfigs.get? pk with
      | none => rfl
      | some c =>
        rw [Option.map_some, ProxyConfig.applyFeeUpdateAt_eq_self]
        simpa [State.scheduledHeight, hc] using hm
  · rw [hhas' h pk, State.mem_GetFeeUpdatePubKeys]
    constructor
    · rintro ⟨hmem, hnot⟩
      exact ⟨hmem, fun e => hnot ⟨e, e ▸ hmem⟩⟩
    · rintro ⟨hmem, hne⟩
      exact ⟨hmem, fun e => hne e.1⟩

/-- EndBlock の後、残った予約はどれも次の高さより前にない。 -/
theorem NoStranded.EndBlock {ctx : Context} {s' : State} (hns : NoStranded ctx.BlockHeight s)
    (hhas : ∀ h pk, s'.HasFeeUpdate h pk = true ↔
      s.HasFeeUpdate h pk = true ∧ h ≠ ctx.BlockHeight) :
    NoStranded (ctx.BlockHeight + 1) s' := by
  intro h pk hmem
  obtain ⟨hmem, hne⟩ := (hhas h pk).mp hmem
  have := hns h pk hmem
  omega

end EndBlock

/-! ## genesis -/

/-- 予約の無い genesis は不変条件を満たし、どの予約も取り残していない。 -/
theorem InitGenesis_inv {gs : GenesisState} (hq : gs.FeeUpdateQueue = [])
    (hc : ∀ r ∈ gs.DataProxyConfigs, r.Config.FeeUpdate = none)
    (hp : gs.Params.Validate = .ok ()) :
    Inv (InitGenesis gs) ∧ ∀ height, NoStranded height (InitGenesis gs) := by
  -- どの設定も genesis の記録から来るので、予約を持たない
  have hnone : ∀ pk, (InitGenesis gs).scheduledHeight pk = none := by
    intro pk
    by_cases hmem : ∃ r ∈ gs.DataProxyConfigs, r.DataProxyPubkey = pk
    · obtain ⟨r, hr, -, hget⟩ :=
        KeyMap.get?_foldl_set_of_mem (·.DataProxyPubkey) (·.Config) gs.DataProxyConfigs
          KeyMap.empty pk hmem
      simp [State.scheduledHeight, InitGenesis, hget, hc r hr]
    · have hget := KeyMap.get?_foldl_set_of_not_mem (·.DataProxyPubkey) (·.Config)
        gs.DataProxyConfigs KeyMap.empty pk fun r hr he => hmem ⟨r, hr, he⟩
      simp [State.scheduledHeight, InitGenesis, hget]
  have hempty : ∀ h pk, (InitGenesis gs).HasFeeUpdate h pk = false := by
    intro h pk
    simp [State.HasFeeUpdate, InitGenesis, hq, KeyMap.contains]
  refine ⟨⟨fun h pk => ?_, fun h => ?_, hp⟩, fun height h pk hmem => ?_⟩
  · change (InitGenesis gs).HasFeeUpdate h pk = true ↔ _
    simp [hempty, hnone]
  · simp [State.getFeeUpdateKeys, InitGenesis, hq, KeyMap.keys, KeyMap.empty]
  · rw [hempty] at hmem
    cases hmem

/-! ## run -/

/-- chain の状態：data proxy の store と、いまの block の高さ。 -/
structure Sys where
  state : State
  height : Nat

/-- chain に起こること：tx の message か、block の終わり。 -/
inductive Action where
  | registerDataProxy (msg : MsgRegisterDataProxy)
  | editDataProxy (msg : MsgEditDataProxy)
  | transferAdmin (msg : MsgTransferAdmin)
  | updateParams (msg : MsgUpdateParams)
  | endBlock
deriving DecidableEq, Repr

/-- tx の message の結果。失敗した message の書き込みは捨てられる。 -/
def deliver (s : State) : Except Fault State → State
  | .ok s' => s'
  | .error _ => s

section Run

variable (env : Env) (chainID : String)

/-- block の文脈。 -/
def Sys.ctx (sys : Sys) : Context := ⟨sys.height, chainID⟩

/-- 一歩。message は失敗しても chain を止めないが、EndBlock の失敗は chain を止める。 -/
def Sys.step (sys : Sys) : Action → Except Fault Sys
  | .registerDataProxy msg =>
    .ok { sys with state := deliver sys.state (RegisterDataProxy env (sys.ctx chainID) sys.state msg) }
  | .editDataProxy msg =>
    .ok { sys with
      state := deliver sys.state ((EditDataProxy env (sys.ctx chainID) sys.state msg).map (·.1)) }
  | .transferAdmin msg =>
    .ok { sys with state := deliver sys.state (TransferAdmin env sys.state msg) }
  | .updateParams msg =>
    .ok { sys with state := deliver sys.state (UpdateParams env sys.state msg) }
  | .endBlock => do
    let s' ← EndBlock (sys.ctx chainID) sys.state
    pure ⟨s', sys.height + 1⟩

/-- 続けて起こること。 -/
def Sys.run : Sys → List Action → Except Fault Sys
  | sys, [] => .ok sys
  | sys, a :: as => do
    let sys' ← sys.step env chainID a
    sys'.run as

/--
chain の状態の不変条件：store の不変条件と、高さに `2^32` を足しても `int64` に収まる間は
予約が取り残されないこと。
-/
def Good (sys : Sys) : Prop :=
  Inv sys.state ∧ ((sys.height : Int) + 2 ^ 32 ≤ 2 ^ 63 → NoStranded sys.height sys.state)

/-- message の一歩：成功した書き込みが不変条件を保てば、その結果を届けても保たれる。 -/
theorem Good.deliver {sys : Sys} (hg : Good sys) {r : Except Fault State}
    (hok : ∀ s', r = .ok s' → Inv s' ∧
      ((sys.height : Int) + 2 ^ 32 ≤ 2 ^ 63 → NoStranded sys.height sys.state →
        NoStranded sys.height s')) :
    Good { sys with state := DataProxy.deliver sys.state r } := by
  cases r with
  | error e => exact hg
  | ok s' =>
    obtain ⟨hi, hns⟩ := hok s' rfl
    exact ⟨hi, fun hb => hns hb (hg.2 hb)⟩

/-- **一歩。** どの一歩も失敗せず、不変条件を保ち、高さを下げない。 -/
theorem step_good {sys : Sys} (hg : Good sys) (a : Action) :
    ∃ sys', sys.step env chainID a = .ok sys' ∧ Good sys' ∧ sys.height ≤ sys'.height := by
  cases a with
  | registerDataProxy msg =>
    refine ⟨_, rfl, hg.deliver fun s' h => ⟨hg.1.RegisterDataProxy h, fun _ hns => ?_⟩, le_refl _⟩
    obtain ⟨pk, c, -, -, rfl⟩ := RegisterDataProxy_spec h
    exact hns.of_feeUpdateQueue_eq rfl
  | editDataProxy msg =>
    refine ⟨_, rfl, hg.deliver fun s' h => ?_, le_refl _⟩
    obtain ⟨⟨s'', r⟩, hedit, rfl⟩ : ∃ p, EditDataProxy env (sys.ctx chainID) sys.state msg = .ok p ∧
        p.1 = s' := by
      cases he : EditDataProxy env (sys.ctx chainID) sys.state msg with
      | error e => rw [he] at h; cases h
      | ok p => rw [he] at h; exact ⟨p, rfl, Except.ok.inj h⟩
    refine ⟨hg.1.EditDataProxy hedit, fun hb hns => ?_⟩
    obtain ⟨pk, c, c', -, -, ⟨-, rfl⟩ | ⟨newFee, d, -, hd, hsched⟩⟩ := EditDataProxy_spec hedit
    · exact hns.of_feeUpdateQueue_eq rfl
    · -- 遅れは最小の遅れ以上で、最小の遅れは 1 以上である
      have hmin := hg.1.one_le_minDelay
      have hd' : 1 ≤ d.toNat := by
        have := UInt32.le_iff_toNat_le.mp hd
        omega
      have h0 : 0 ≤ (sys.ctx chainID).BlockHeight := Int.natCast_nonneg _
      exact hns.scheduleFeeUpdate h0 hb hd' hsched
  | transferAdmin msg =>
    refine ⟨_, rfl, hg.deliver fun s' h => ⟨hg.1.TransferAdmin h, fun _ hns => ?_⟩, le_refl _⟩
    obtain ⟨pk, c, -, rfl⟩ := TransferAdmin_spec h
    exact hns.of_feeUpdateQueue_eq rfl
  | updateParams msg =>
    refine ⟨_, rfl, hg.deliver fun s' h => ⟨hg.1.UpdateParams h, fun _ hns => ?_⟩, le_refl _⟩
    obtain ⟨-, rfl⟩ := UpdateParams_spec h
    exact hns.of_feeUpdateQueue_eq rfl
  | endBlock =>
    obtain ⟨s', hend, hi', -, -, hhas⟩ := EndBlock_spec hg.1 (sys.ctx chainID)
    refine ⟨⟨s', sys.height + 1⟩, by simp [Sys.step, hend], ⟨hi', fun hb => ?_⟩, by simp⟩
    -- 次の高さで境界を満たせば、いまの高さでも満たす
    have hb' : (sys.height : Int) + 2 ^ 32 ≤ 2 ^ 63 := by push_cast at hb; omega
    have := (hg.2 hb').EndBlock hhas
    simpa [Sys.ctx] using this

/-- **run。** 不変条件を満たす状態からのどの run も止まらず、不変条件を保つ。 -/
theorem run_good : ∀ (actions : List Action) {sys : Sys}, Good sys →
    ∃ sys', sys.run env chainID actions = .ok sys' ∧ Good sys'
  | [], sys, hg => ⟨sys, rfl, hg⟩
  | a :: as, sys, hg => by
    obtain ⟨sys₁, hstep, hg₁, -⟩ := step_good env chainID hg a
    obtain ⟨sys', hrun, hg'⟩ := run_good as hg₁
    exact ⟨sys', by simp [Sys.run, hstep, hrun], hg'⟩

/--
**手数料の変更の queue の不変条件。** 不変条件を満たし予約を取り残していない genesis から、
message と EndBlock をどう並べた run も止まらない。着いた状態では、queue が予約の高さの索引で
（`(h, pk)` があるのは `pk` の設定が高さ `h` の予約を持つときに限る）、一つの高さの予約は
`MaxUpdatesPerBlock` を超えない。次の EndBlock は失敗せず、どの設定にもその高さの予約を適用して
予約を消し、queue からはその高さの組だけを消す。高さに `2^32` を足しても `int64` に収まる間は、
どの予約も次の EndBlock の高さより前にない。
-/
theorem run_feeUpdateQueue {init : Sys} (hinit : Inv init.state)
    (hfresh : NoStranded init.height init.state) (actions : List Action) :
    ∃ sys, init.run env chainID actions = .ok sys ∧ Inv sys.state ∧
      ((sys.height : Int) + 2 ^ 32 ≤ 2 ^ 63 → NoStranded sys.height sys.state) ∧
      ∃ s', EndBlock (sys.ctx chainID) sys.state = .ok s' ∧
        (∀ pk, s'.dataProxyConfigs.get? pk =
          (sys.state.dataProxyConfigs.get? pk).map (·.applyFeeUpdateAt sys.height)) ∧
        (∀ h pk, s'.HasFeeUpdate h pk = true ↔
          sys.state.HasFeeUpdate h pk = true ∧ h ≠ sys.height) := by
  obtain ⟨sys, hrun, hi, hns⟩ := run_good env chainID actions ⟨hinit, fun _ => hfresh⟩
  obtain ⟨s', hend, -, -, hcfg, hhas⟩ := EndBlock_spec hi (sys.ctx chainID)
  exact ⟨sys, hrun, hi, hns, s', hend, hcfg, hhas⟩

end Run

/-! ## 例 -/

/-- 例の外の関数：どの address も読め、送金と焼却と署名の検証はいつも通る。 -/
def Env.sample : Env where
  authority := "gov"
  AccAddressFromBech32 := fun _ => .ok []
  SendCoinsFromAccountToModule := fun _ _ _ => .ok ()
  BurnCoins := fun _ _ => .ok ()
  VerifySignature := fun _ _ _ => true
  Keccak256 := id

/-- 公開鍵 `01` の proxy が一つ、予約なしで登録された genesis。 -/
def GenesisState.sample : GenesisState :=
  { Params := DefaultParams,
    DataProxyConfigs :=
      [⟨[1],
        { PayoutAddress := "payout", Fee := some ⟨DefaultBondDenom, 10⟩, Memo := "",
          AdminAddress := "admin", FeeUpdate := none }⟩],
    FeeUpdateQueue := [] }

/-- admin が手数料を 20 に変え、最小の遅れで予約する編集。 -/
def MsgEditDataProxy.sample : MsgEditDataProxy :=
  { Sender := "admin", NewPayoutAddress := DoNotModifyField, NewMemo := DoNotModifyField,
    NewFee := some ⟨DefaultBondDenom, 20⟩, FeeUpdateDelay := UseMinimumDelay, PubKey := "01" }

theorem InitGenesis_sample_inv :
    Inv (InitGenesis GenesisState.sample) ∧
      ∀ height, NoStranded height (InitGenesis GenesisState.sample) :=
  InitGenesis_inv rfl (by decide) (by decide)

theorem run_feeUpdateQueue_sample :
    Inv (InitGenesis GenesisState.sample) ∧ NoStranded 1 (InitGenesis GenesisState.sample) ∧
      ∃ sys, (⟨InitGenesis GenesisState.sample, 1⟩ : Sys).run Env.sample "seda-1"
          [.editDataProxy MsgEditDataProxy.sample, .endBlock] = .ok sys ∧ Inv sys.state ∧
        ((sys.height : Int) + 2 ^ 32 ≤ 2 ^ 63 → NoStranded sys.height sys.state) ∧
        ∃ s', EndBlock (sys.ctx "seda-1") sys.state = .ok s' ∧
          (∀ pk, s'.dataProxyConfigs.get? pk =
            (sys.state.dataProxyConfigs.get? pk).map (·.applyFeeUpdateAt sys.height)) ∧
          (∀ h pk, s'.HasFeeUpdate h pk = true ↔
            sys.state.HasFeeUpdate h pk = true ∧ h ≠ sys.height) :=
  ⟨InitGenesis_sample_inv.1, InitGenesis_sample_inv.2 1,
    run_feeUpdateQueue Env.sample "seda-1" InitGenesis_sample_inv.1 (InitGenesis_sample_inv.2 1) _⟩

/-- 例の編集は、高さ 1 では高さ 73751 に予約する。 -/
example : ((⟨InitGenesis GenesisState.sample, 1⟩ : Sys).run Env.sample "seda-1"
    [.editDataProxy MsgEditDataProxy.sample]).map
      (fun sys => sys.state.GetFeeUpdatePubKeys 73751) = .ok [[1]] := by decide

/--
高さ `2^63 - 2` で同じ編集をすると、適用の高さ `2^63 - 2 + 73750` は `int64` で折り返して
`-2^63 + 73748` になる。予約は次の EndBlock の高さより前に置かれ、以後どの EndBlock もその高さに
届かない。genesis は不変条件を満たす。
-/
theorem feeUpdate_stranded_near_int64_max :
    Inv (InitGenesis GenesisState.sample) ∧
      NoStranded (2 ^ 63 - 2 : Nat) (InitGenesis GenesisState.sample) ∧
      ((⟨InitGenesis GenesisState.sample, 2 ^ 63 - 2⟩ : Sys).run Env.sample "seda-1"
          [.editDataProxy MsgEditDataProxy.sample]).map
        (fun sys => (sys.height, sys.state.GetFeeUpdatePubKeys (-2 ^ 63 + 73748))) =
        .ok (2 ^ 63 - 2, [[1]]) ∧
      -2 ^ 63 + 73748 < ((2 ^ 63 - 2 : Nat) : Int) :=
  ⟨InitGenesis_sample_inv.1, InitGenesis_sample_inv.2 _, by decide, by decide⟩

end SedaChain.DataProxy
