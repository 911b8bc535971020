import SedaChain.Staking.Redelegation

/-!
# `TransferDelegation` の性質

`TransferDelegation` が早く返さない場合（`Proceeds`）について、移す share、hook が失敗した時に
返す値、entry の上限の判定を調べる。

* `TransferDelegation_moves_shares` — hook がどれも成功すれば、`wantShares` と持っている share の
  小さい方 `t` を移す。移し元は `t` を失い、移し先は `t` を得て、ほかの delegation と unbonding は
  変わらない。移し元と移し先が同じなら、その delegation は `D - t` になり、`t` の share を失う
* `TransferDelegation_redelegations` — 移し元の `valAddr` への redelegation は、残った share を
  cover として `RecordsSplit` のとおりに分けられる
* `TransferDelegation_hook_failure` — 移し先の側の hook が失敗すると、誤り無しで `t` を返すのに、
  移し元の share は減らない。移し元の側の手前の hook が失敗すると、移し先は `t` を得たのに移し元は
  減らない
* `TransferDelegation_exceeds_MaxEntries` — 上限の判定（`mightExceedLimit`）は移し元の記録しか数えない
  ので、全部を移すと、移し先の redelegation の記録は `MaxEntries` を超えうる
-/

namespace SedaChain.Staking

open Infra Infra.Go LegacyDec

/-! ## hook -/

/-- どの hook も失敗しない。 -/
structure Hooks.Succeed (h : Hooks) : Prop where
  created : ∀ s a b, h.BeforeDelegationCreated s a b = .ok ()
  sharesModified : ∀ s a b, h.BeforeDelegationSharesModified s a b = .ok ()
  modified : ∀ s a b, h.AfterDelegationModified s a b = .ok ()
  removed : ∀ s a b, h.BeforeDelegationRemoved s a b = .ok ()

/-- 何もしない hook（hook を設定していない keeper の `MultiStakingHooks{}`）。 -/
def Hooks.noop : Hooks := ⟨fun _ _ _ => .ok (), fun _ _ _ => .ok (), fun _ _ _ => .ok (),
  fun _ _ _ => .ok ()⟩

theorem Hooks.noop_succeed : Hooks.noop.Succeed :=
  ⟨fun _ _ _ => rfl, fun _ _ _ => rfl, fun _ _ _ => rfl, fun _ _ _ => rfl⟩

/-! ## 早く返さない場合 -/

/-- `TransferDelegation` が早く返さない。`wantShares` が正で、validator と移し元の delegation があり、
entry の上限の判定が立たない。 -/
structure Proceeds (s : Store) (fromAddr valAddr : String) (wantShares : LegacyDec)
    (validator : Validator) (delFrom : Delegation) : Prop where
  positive : 0 < wantShares.i
  validator : s.GetValidator valAddr = .ok validator
  delegation : s.GetDelegation fromAddr valAddr = .ok delFrom
  withinLimit : mightExceedLimit s fromAddr valAddr = false

/-! ## 見本 -/

/--
見本の store。delegator `"a"` が validator `"v"` に 3.0 の share を持ち、`"u"` から `"v"` への
redelegation の entry が一つ（3.0 の share、`InitialBalance` 3）ある。
-/
def sampleStore : Store where
  validators := KeyMap.empty.set "v" ⟨"v"⟩
  delegations := KeyMap.empty.set ("a", "v") ⟨"a", "v", ⟨3 * 10 ^ 18⟩⟩
  redelegations := KeyMap.empty.set ("a", "u", "v") ⟨"a", "u", "v", [⟨1, 100, 3, ⟨3 * 10 ^ 18⟩⟩]⟩
  unbondingDelegations := KeyMap.empty
  redelegationQueue := []
  ubdQueue := []
  MaxEntries := 7

theorem sampleStore_wellKeyed : sampleStore.WellKeyed where
  validators k v hk := by
    simp only [sampleStore, KeyMap.get?_set, KeyMap.get?_empty] at hk
    split at hk
    · next hkv => cases hk; exact hkv.symm
    · cases hk
  delegations k d hk := by
    simp only [sampleStore, KeyMap.get?_set, KeyMap.get?_empty] at hk
    split at hk
    · next hkv => cases hk; exact hkv.symm
    · cases hk
  redelegations k r hk := by
    simp only [sampleStore, KeyMap.get?_set, KeyMap.get?_empty] at hk
    split at hk
    · next hkv => cases hk; exact hkv.symm
    · cases hk
  unbondingDelegations k u hk := by simp [sampleStore] at hk

/-- 見本の store で `"a"` から 1.0 の share を移す時は、早く返さない。 -/
theorem sampleStore_proceeds :
    Proceeds sampleStore "a" "v" ⟨10 ^ 18⟩ ⟨"v"⟩ ⟨"a", "v", ⟨3 * 10 ^ 18⟩⟩ where
  positive := by norm_num
  validator := rfl
  delegation := rfl
  withinLimit := by decide

variable {h : Hooks} {sdk : Sdk} {s : Store} {fromAddr toAddr valAddr : String} {wantShares : LegacyDec}
  {validator : Validator} {delFrom : Delegation}

/-- 移す share は、持っている share と `wantShares` の小さい方である。 -/
@[simp] theorem transferAmount_i (shares wantShares : LegacyDec) :
    (transferAmount shares wantShares).i = min shares.i wantShares.i := by
  unfold transferAmount
  split
  · next hgt => simp at hgt; omega
  · next hgt => simp at hgt; omega

/-- 早く返さずに hook の失敗で打ち切れば、その時の store と移す share を、誤り無しで返す。 -/
theorem TransferDelegation_of_stop (hp : Proceeds s fromAddr valAddr wantShares validator delFrom)
    {s₁ : Store}
    (hstop : (updateDestination h s toAddr valAddr validator (transferAmount delFrom.Shares wantShares) >>=
        fun s => updateSource h s fromAddr valAddr delFrom
          (delFrom.Shares.Sub (transferAmount delFrom.Shares wantShares))) = .error s₁) :
    TransferDelegation h sdk s fromAddr toAddr valAddr wantShares =
      .ok (s₁, transferAmount delFrom.Shares wantShares) := by
  have hpos : wantShares.IsPositive = true := by simpa using hp.positive
  simp only [TransferDelegation, hpos, Bool.not_true, Bool.false_eq_true, if_false, hp.validator,
    hp.delegation, hp.withinLimit, hstop]
  rfl

/-- 早く返さずに二つの delegation を書き換えれば、続けて redelegation を分ける。 -/
theorem TransferDelegation_of_continue (hp : Proceeds s fromAddr valAddr wantShares validator delFrom)
    {s₁ : Store}
    (hcont : (updateDestination h s toAddr valAddr validator (transferAmount delFrom.Shares wantShares) >>=
        fun s => updateSource h s fromAddr valAddr delFrom
          (delFrom.Shares.Sub (transferAmount delFrom.Shares wantShares))) = .ok s₁) :
    TransferDelegation h sdk s fromAddr toAddr valAddr wantShares =
      (transferRedelegations sdk s₁ fromAddr toAddr valAddr
        (delFrom.Shares.Sub (transferAmount delFrom.Shares wantShares))) >>=
        fun s => pure (s, transferAmount delFrom.Shares wantShares) := by
  have hpos : wantShares.IsPositive = true := by simpa using hp.positive
  simp only [TransferDelegation, hpos, Bool.not_true, Bool.false_eq_true, if_false, hp.validator,
    hp.delegation, hp.withinLimit, hcont]

/-- 移し元に残る share は負にならない。 -/
theorem remaining_nonneg (shares wantShares : LegacyDec) :
    0 ≤ (shares.Sub (transferAmount shares wantShares)).i := by
  simp only [Sub_i, transferAmount_i]
  omega

/-! ## 移し先の delegation -/

/-- 移し先の delegation は `(toAddr, valAddr)` の下にあり、もとの share を持つ（無ければ 0）。 -/
theorem delTo_spec (hw : s.WellKeyed) (hv : s.GetValidator valAddr = .ok validator) :
    (delTo h s toAddr valAddr validator).1.key = (toAddr, valAddr) ∧
      (delTo h s toAddr valAddr validator).1.Shares = s.sharesOf (toAddr, valAddr) := by
  have hop : validator.OperatorAddress = valAddr :=
    hw.validators _ _ (Store.GetValidator_eq_ok.mp hv)
  unfold delTo
  cases hd : s.GetDelegation toAddr valAddr with
  | error e => simp [Delegation.key, hop, Store.sharesOf, Store.GetDelegation_error hd]
  | ok d =>
    have hget := Store.GetDelegation_eq_ok.mp hd
    exact ⟨hw.delegations _ _ hget, by simp [Store.sharesOf, hget]⟩

/-- 移し先の段は、hook が成功すれば移し先の delegation に `t` を足す。 -/
theorem updateDestination_of_succeed (hh : h.Succeed) (t : LegacyDec) :
    updateDestination h s toAddr valAddr validator t =
      .ok (s.SetDelegation { (delTo h s toAddr valAddr validator).1 with
        Shares := (delTo h s toAddr valAddr validator).1.Shares.Add t }) := by
  unfold updateDestination delTo
  cases s.GetDelegation toAddr valAddr <;> simp [hh.created, hh.sharesModified, hh.modified]

/-- 移し元の段は、hook が成功すれば移し元の delegation を残りの share にする。 -/
theorem updateSource_of_succeed (hh : h.Succeed) (remaining : LegacyDec) :
    updateSource h s fromAddr valAddr delFrom remaining =
      .ok (if remaining.IsZero then s.RemoveDelegation delFrom
        else s.SetDelegation { delFrom with Shares := remaining }) := by
  unfold updateSource
  split <;> simp [hh.removed, hh.sharesModified, hh.modified]

/-- 移し先の段が返す store は、打ち切っても続けても、もとの store か、移し先に `t` を足した store である。 -/
theorem updateDestination_store {t : LegacyDec} {s₁ : Store}
    (h₁ : updateDestination h s toAddr valAddr validator t = .error s₁ ∨
      updateDestination h s toAddr valAddr validator t = .ok s₁) :
    s₁ = s ∨ s₁ = s.SetDelegation { (delTo h s toAddr valAddr validator).1 with
      Shares := (delTo h s toAddr valAddr validator).1.Shares.Add t } := by
  unfold updateDestination at h₁
  rcases hdt : delTo h s toAddr valAddr validator with ⟨d, _ | _⟩
  · rw [hdt] at h₁
    rcases h₁ with h₁ | h₁ <;> cases h₁
    exact .inl rfl
  · rw [hdt] at h₁
    dsimp only at h₁
    right
    split at h₁ <;> rcases h₁ with h₁ | h₁ <;> cases h₁ <;> rfl

/-- 移し先の段が続けば、移し先に `t` を足した store を渡す。 -/
theorem updateDestination_ok {t : LegacyDec} {s₁ : Store}
    (h₁ : updateDestination h s toAddr valAddr validator t = .ok s₁) :
    s₁ = s.SetDelegation { (delTo h s toAddr valAddr validator).1 with
      Shares := (delTo h s toAddr valAddr validator).1.Shares.Add t } := by
  unfold updateDestination at h₁
  rcases hdt : delTo h s toAddr valAddr validator with ⟨d, _ | _⟩
  · rw [hdt] at h₁
    cases h₁
  · rw [hdt] at h₁
    dsimp only at h₁
    split at h₁ <;> cases h₁
    rfl

/-- 移し元の段が打ち切れば、何も書いていないか、移し元を残りの share に書いた後である。 -/
theorem updateSource_error {remaining : LegacyDec} {s₁ : Store}
    (h₁ : updateSource h s fromAddr valAddr delFrom remaining = .error s₁) :
    s₁ = s ∨ s₁ = s.SetDelegation { delFrom with Shares := remaining } := by
  unfold updateSource at h₁
  split at h₁
  · split at h₁ <;> cases h₁
    exact .inl rfl
  · split at h₁
    · cases h₁
      exact .inl rfl
    · dsimp only at h₁
      split at h₁ <;> cases h₁
      exact .inr rfl

/-- 移し先の段が打ち切っても続けても、移し先のほかの delegation は変わらない。 -/
theorem updateDestination_sharesOf (hw : s.WellKeyed) (hv : s.GetValidator valAddr = .ok validator)
    {t : LegacyDec} {s₁ : Store}
    (h₁ : updateDestination h s toAddr valAddr validator t = .error s₁ ∨
      updateDestination h s toAddr valAddr validator t = .ok s₁)
    {k : String × String} (hk : k ≠ (toAddr, valAddr)) : s₁.sharesOf k = s.sharesOf k := by
  have hkey : (delTo h s toAddr valAddr validator).1.key = (toAddr, valAddr) := (delTo_spec hw hv).1
  rcases updateDestination_store h₁ with rfl | rfl
  · rfl
  · rw [Store.sharesOf_SetDelegation]
    exact if_neg (by simpa [← hkey] using hk)

/-! ## 移し元の redelegation -/

/-- delegator の redelegation の記録は、その delegator のもので、自分の鍵の下にある。 -/
theorem Store.mem_delegatorRedelegations (hw : s.WellKeyed) {a : String} {r : Redelegation}
    (hr : r ∈ s.delegatorRedelegations a) :
    r.DelegatorAddress = a ∧ s.redelegations.get? r.key = some r := by
  simp only [Store.delegatorRedelegations, List.mem_map, List.mem_filter, decide_eq_true_eq] at hr
  obtain ⟨⟨k, r'⟩, ⟨hmem, hka⟩, rfl⟩ := hr
  have hget := (KeyMap.get?_eq_some_iff s.redelegations).mpr hmem
  have hkey := hw.redelegations _ _ hget
  refine ⟨?_, by rw [hkey]; exact hget⟩
  rw [← hka, ← hkey]
  rfl

/-- 読み出した移し元の redelegation は、鍵が重ならず、どれも移し元のもので、store にあるとおりである。 -/
theorem Store.GetRedelegations_spec (hw : s.WellKeyed) (a : String) (n : Nat) :
    ((s.GetRedelegations a n).map Redelegation.key).Nodup ∧
      ∀ r ∈ s.GetRedelegations a n, r.DelegatorAddress = a ∧ s.redEntries r.key = r.Entries := by
  set F := s.redelegations.entries.filter fun e => e.1.1 = a
  -- 表の組は、値の鍵の下にある
  have hkeys : (F.map Prod.snd).map Redelegation.key = F.map Prod.fst := by
    rw [List.map_map]
    refine List.map_congr_left fun p hp => ?_
    have hmem : p ∈ s.redelegations.entries := (List.mem_filter.mp hp).1
    exact hw.redelegations _ _ ((KeyMap.get?_eq_some_iff s.redelegations).mpr hmem)
  have hnodup : (F.map Prod.fst).Nodup :=
    s.redelegations.nodup.sublist (List.filter_sublist.map _)
  refine ⟨?_, fun r hr => ?_⟩
  · have : ((F.map Prod.snd).map Redelegation.key).Nodup := hkeys ▸ hnodup
    exact this.sublist ((List.take_sublist _ _).map _)
  · obtain ⟨hd, hget⟩ := Store.mem_delegatorRedelegations hw (List.mem_of_mem_take hr)
    exact ⟨hd, Store.redEntries_of_get hget⟩

/--
移し元の redelegation の処理は、cover が負でなければ失敗せず、鍵の整合を保ち、delegation と
unbonding に触れない。移し元と移し先が違えば、記録は `RecordsSplit` のとおりに分けられる。
-/
theorem transferRedelegations_spec (hsdk : sdk.Lawful) (fromAddr toAddr valAddr : String)
    (hw : s.WellKeyed) {c : LegacyDec} (hc : 0 ≤ c.i) :
    ∃ s', transferRedelegations sdk s fromAddr toAddr valAddr c = .ok s' ∧ s'.WellKeyed ∧
      s'.delegations = s.delegations ∧ s'.unbondingDelegations = s.unbondingDelegations ∧
      (fromAddr ≠ toAddr → RecordsSplit toAddr valAddr (s.GetRedelegations fromAddr MaxUint16) s s' c) := by
  obtain ⟨s', c', hfold, hw', hd, hu⟩ :=
    foldlM_redelegationStep_ok hsdk toAddr valAddr (s.GetRedelegations fromAddr MaxUint16) s c hw hc
  refine ⟨s', by simp [transferRedelegations, hfold], hw', hd, hu, fun hne => ?_⟩
  obtain ⟨hnd, hrec⟩ := Store.GetRedelegations_spec hw fromAddr MaxUint16
  obtain ⟨s'', c'', hfold', hsplit⟩ :=
    foldlM_redelegationStep hsdk hne (s.GetRedelegations fromAddr MaxUint16) s c hw hc hnd hrec
  rw [hfold] at hfold'
  cases hfold'
  exact hsplit

/-! ## hook が成功する場合 -/

/--
hook がどれも成功すれば、二つの段は、移し先に `t` を足し、移し元を残りの share にする。移し元と
移し先が同じなら、後に書く移し元の値が残る。
-/
theorem stages_of_succeed (toAddr : String) (hw : s.WellKeyed) (hh : h.Succeed)
    (hp : Proceeds s fromAddr valAddr wantShares validator delFrom) :
    ∃ s₂, (updateDestination h s toAddr valAddr validator (transferAmount delFrom.Shares wantShares) >>=
        fun s => updateSource h s fromAddr valAddr delFrom
          (delFrom.Shares.Sub (transferAmount delFrom.Shares wantShares))) = .ok s₂ ∧
      s₂.WellKeyed ∧ s₂.redelegations = s.redelegations ∧
      s₂.unbondingDelegations = s.unbondingDelegations ∧
      ∀ k, (s₂.sharesOf k).i =
        if k = (fromAddr, valAddr) then delFrom.Shares.i - (transferAmount delFrom.Shares wantShares).i
        else if k = (toAddr, valAddr) then
          (s.sharesOf k).i + (transferAmount delFrom.Shares wantShares).i
        else (s.sharesOf k).i := by
  set t := transferAmount delFrom.Shares wantShares
  set d := (delTo h s toAddr valAddr validator).1
  have hkeyFrom : delFrom.key = (fromAddr, valAddr) :=
    hw.delegations _ _ (Store.GetDelegation_eq_ok.mp hp.delegation)
  have hkeyTo : d.key = (toAddr, valAddr) := (delTo_spec hw hp.validator).1
  have hsharesTo : d.Shares = s.sharesOf (toAddr, valAddr) := (delTo_spec hw hp.validator).2
  set s₁ := s.SetDelegation { d with Shares := d.Shares.Add t }
  refine ⟨if (delFrom.Shares.Sub t).IsZero then s₁.RemoveDelegation delFrom
      else s₁.SetDelegation { delFrom with Shares := delFrom.Shares.Sub t }, ?_, ?_, ?_, ?_, ?_⟩
  · rw [updateDestination_of_succeed hh, ok_bind, updateSource_of_succeed hh]
  · have hw₁ : s₁.WellKeyed := hw.SetDelegation _
    split
    · exact hw₁.RemoveDelegation _
    · exact hw₁.SetDelegation _
  · split <;> rfl
  · split <;> rfl
  · -- 移し先の値を書いた後に、移し元の値を書く
    intro k
    have hs₁ : (s₁.sharesOf k).i =
        if k = (toAddr, valAddr) then (s.sharesOf k).i + t.i else (s.sharesOf k).i := by
      rw [Store.sharesOf_SetDelegation, Delegation.key_shares, hkeyTo]
      split
      · next hk => rw [hk, Add_i, hsharesTo]
      · rfl
    by_cases hk : k = (fromAddr, valAddr)
    · rw [if_pos hk]
      split
      · next hz =>
        rw [Store.sharesOf_RemoveDelegation, hkeyFrom, if_pos hk]
        simp only [IsZero_iff, Sub_i] at hz
        simp [hz]
      · rw [Store.sharesOf_SetDelegation, Delegation.key_shares, hkeyFrom, if_pos hk, Sub_i]
    · rw [if_neg hk, ← hs₁]
      split
      · rw [Store.sharesOf_RemoveDelegation, hkeyFrom, if_neg hk]
      · rw [Store.sharesOf_SetDelegation, Delegation.key_shares, hkeyFrom, if_neg hk]

/--
**hook が失敗した時に返す値。** 早く返さず、二つの delegation の段のどこかで hook が失敗すると、
`TransferDelegation` は誤り無しで `t` を返す（移し元に share があれば `t` は正）。その時の store は、
失敗した hook の位置により、次のどれかである：

* 移し先の手前の hook：何も書いていない
* 移し先の後の hook か、移し元の手前の hook：移し先は `t` を得たが、移し元は `D` のまま
* 移し元の後の hook：移し元は `D - t`、移し先は `t` を得た

前の二つでは、返した `t` の分だけ移し元の share が減っていない。
-/
theorem TransferDelegation_hook_failure (hw : s.WellKeyed) (hne : fromAddr ≠ toAddr)
    (hp : Proceeds s fromAddr valAddr wantShares validator delFrom) {s₁ : Store}
    (hstop : (updateDestination h s toAddr valAddr validator (transferAmount delFrom.Shares wantShares) >>=
        fun s => updateSource h s fromAddr valAddr delFrom
          (delFrom.Shares.Sub (transferAmount delFrom.Shares wantShares))) = .error s₁) :
    let t := transferAmount delFrom.Shares wantShares
    TransferDelegation h sdk s fromAddr toAddr valAddr wantShares = .ok (s₁, t) ∧
      (0 < delFrom.Shares.i → 0 < t.i) ∧
      ((s₁.sharesOf (fromAddr, valAddr) = delFrom.Shares ∧
          s₁.sharesOf (toAddr, valAddr) = s.sharesOf (toAddr, valAddr)) ∨
        (s₁.sharesOf (fromAddr, valAddr) = delFrom.Shares ∧
          (s₁.sharesOf (toAddr, valAddr)).i = (s.sharesOf (toAddr, valAddr)).i + t.i) ∨
        ((s₁.sharesOf (fromAddr, valAddr)).i = delFrom.Shares.i - t.i ∧
          (s₁.sharesOf (toAddr, valAddr)).i = (s.sharesOf (toAddr, valAddr)).i + t.i)) := by
  intro t
  have hkeyFrom : delFrom.key = (fromAddr, valAddr) :=
    hw.delegations _ _ (Store.GetDelegation_eq_ok.mp hp.delegation)
  have hD : s.sharesOf (fromAddr, valAddr) = delFrom.Shares := by
    simp [Store.sharesOf, Store.GetDelegation_eq_ok.mp hp.delegation]
  have hkeyTo : (delTo h s toAddr valAddr validator).1.key = (toAddr, valAddr) :=
    (delTo_spec hw hp.validator).1
  have hsharesTo : (delTo h s toAddr valAddr validator).1.Shares = s.sharesOf (toAddr, valAddr) :=
    (delTo_spec hw hp.validator).2
  have hft : (fromAddr, valAddr) ≠ (toAddr, valAddr) := fun hk => hne (congrArg Prod.fst hk)
  -- 移し先に `t` を足した store
  have hdest : ∀ k, ((s.SetDelegation { (delTo h s toAddr valAddr validator).1 with
      Shares := (delTo h s toAddr valAddr validator).1.Shares.Add t }).sharesOf k) =
      if k = (toAddr, valAddr) then ⟨(s.sharesOf (toAddr, valAddr)).i + t.i⟩ else s.sharesOf k := by
    intro k
    rw [Store.sharesOf_SetDelegation, Delegation.key_shares, hkeyTo]
    split
    · rw [← hsharesTo]
      rfl
    · rfl
  refine ⟨TransferDelegation_of_stop hp hstop, fun hpos => by have := hp.positive; simp only [t, transferAmount_i]; omega, ?_⟩
  cases hd : updateDestination h s toAddr valAddr validator t with
  | error s₀ =>
    rw [hd] at hstop
    cases hstop
    rcases updateDestination_store (.inl hd) with rfl | rfl
    · exact .inl ⟨hD, rfl⟩
    · refine .inr (.inl ⟨by rw [hdest, if_neg hft, hD], by rw [hdest, if_pos rfl]⟩)
  | ok s₀ =>
    rw [hd, ok_bind] at hstop
    have hs₀ := updateDestination_ok hd
    rcases updateSource_error hstop with rfl | rfl
    · subst hs₀
      exact .inr (.inl ⟨by rw [hdest, if_neg hft, hD], by rw [hdest, if_pos rfl]⟩)
    · subst hs₀
      refine .inr (.inr ⟨?_, ?_⟩)
      · rw [Store.sharesOf_SetDelegation, Delegation.key_shares, hkeyFrom, if_pos rfl, Sub_i]
      · rw [Store.sharesOf_SetDelegation, Delegation.key_shares, hkeyFrom, if_neg hft.symm, hdest,
          if_pos rfl]

/-- 新しい delegation を作る前の hook だけが失敗する hook。 -/
def Hooks.failCreate : Hooks := { Hooks.noop with BeforeDelegationCreated := fun _ _ _ => .error "hook" }

/--
見本の store で `"b"` への delegation を作る前の hook が失敗すると、store は変わらないのに、
`TransferDelegation` は誤り無しで 1.0 の share を返す。
-/
theorem TransferDelegation_hook_failure_sample :
    sampleStore.WellKeyed ∧ "a" ≠ "b" ∧
      Proceeds sampleStore "a" "v" ⟨10 ^ 18⟩ ⟨"v"⟩ ⟨"a", "v", ⟨3 * 10 ^ 18⟩⟩ ∧
      (updateDestination Hooks.failCreate sampleStore "b" "v" ⟨"v"⟩
          (transferAmount ⟨3 * 10 ^ 18⟩ ⟨10 ^ 18⟩) >>= fun s =>
        updateSource Hooks.failCreate s "a" "v" ⟨"a", "v", ⟨3 * 10 ^ 18⟩⟩
          ((⟨3 * 10 ^ 18⟩ : LegacyDec).Sub (transferAmount ⟨3 * 10 ^ 18⟩ ⟨10 ^ 18⟩))) =
        .error sampleStore ∧
      TransferDelegation Hooks.failCreate sampleSdk sampleStore "a" "b" "v" ⟨10 ^ 18⟩ =
        .ok (sampleStore, transferAmount ⟨3 * 10 ^ 18⟩ ⟨10 ^ 18⟩) ∧
      0 < (transferAmount ⟨3 * 10 ^ 18⟩ ⟨10 ^ 18⟩).i := by
  have hstop : (updateDestination Hooks.failCreate sampleStore "b" "v" ⟨"v"⟩
      (transferAmount ⟨3 * 10 ^ 18⟩ ⟨10 ^ 18⟩) >>= fun s =>
        updateSource Hooks.failCreate s "a" "v" ⟨"a", "v", ⟨3 * 10 ^ 18⟩⟩
          ((⟨3 * 10 ^ 18⟩ : LegacyDec).Sub (transferAmount ⟨3 * 10 ^ 18⟩ ⟨10 ^ 18⟩))) =
        .error sampleStore := by decide
  obtain ⟨hrun, hpos, -⟩ := @TransferDelegation_hook_failure Hooks.failCreate sampleSdk sampleStore "a" "b"
    "v" ⟨10 ^ 18⟩ ⟨"v"⟩ ⟨"a", "v", ⟨3 * 10 ^ 18⟩⟩ sampleStore_wellKeyed (by decide) sampleStore_proceeds _ hstop
  exact ⟨sampleStore_wellKeyed, by decide, sampleStore_proceeds, hstop, hrun, hpos (by norm_num)⟩

/--
**移さずに返す share。** 早く返さず、移し先に `valAddr` への delegation が無く、それを作る前の hook
（`BeforeDelegationCreated`）が失敗すると、`TransferDelegation` は何も書かないのに、誤り無しで
`t` を返す。移し元に share があれば `t` は正である。
-/
theorem TransferDelegation_returns_untransferred {e e' : String}
    (hp : Proceeds s fromAddr valAddr wantShares validator delFrom)
    (hnone : s.GetDelegation toAddr valAddr = .error e)
    (hfail : h.BeforeDelegationCreated s toAddr valAddr = .error e') :
    TransferDelegation h sdk s fromAddr toAddr valAddr wantShares =
        .ok (s, transferAmount delFrom.Shares wantShares) ∧
      (0 < delFrom.Shares.i → 0 < (transferAmount delFrom.Shares wantShares).i) := by
  -- 移し先の段は、作る前の hook で打ち切り、もとの store を返す
  have hdest : updateDestination h s toAddr valAddr validator
      (transferAmount delFrom.Shares wantShares) = .error s := by
    simp [updateDestination, delTo, hnone, hfail]
  refine ⟨TransferDelegation_of_stop hp (by rw [hdest]; rfl), fun hpos => ?_⟩
  have := hp.positive
  simp only [transferAmount_i]
  omega

/--
見本の store で、`"b"` への delegation を作る前の hook が失敗すると、store は見本のままなのに、
`TransferDelegation` は 1.0 の share を返す。
-/
theorem TransferDelegation_returns_untransferred_sample :
    Proceeds sampleStore "a" "v" ⟨10 ^ 18⟩ ⟨"v"⟩ ⟨"a", "v", ⟨3 * 10 ^ 18⟩⟩ ∧
      sampleStore.GetDelegation "b" "v" = .error ErrNoDelegation ∧
      Hooks.failCreate.BeforeDelegationCreated sampleStore "b" "v" = .error "hook" ∧
      TransferDelegation Hooks.failCreate sampleSdk sampleStore "a" "b" "v" ⟨10 ^ 18⟩ =
        .ok (sampleStore, ⟨10 ^ 18⟩) := by
  have hnone : sampleStore.GetDelegation "b" "v" = .error ErrNoDelegation := by decide
  obtain ⟨hrun, -⟩ := @TransferDelegation_returns_untransferred Hooks.failCreate sampleSdk sampleStore "a" "b" "v"
    ⟨10 ^ 18⟩ ⟨"v"⟩ ⟨"a", "v", ⟨3 * 10 ^ 18⟩⟩ ErrNoDelegation "hook" sampleStore_proceeds hnone rfl
  exact ⟨sampleStore_proceeds, hnone, rfl, hrun⟩

/-! ## entry の上限の判定 -/

/--
移し元の share を全部移す時（cover が 0）、entry の share が負でない記録では、残る share の和は 0 である。
`liabilities` の和が 0 で、一つ一つの記録に残る share は負でないからである。
-/
theorem RecordsSplit.kept_zero {toAddr valAddr : String} {L : List Redelegation} {s s' : Store}
    {c : LegacyDec} (h : RecordsSplit toAddr valAddr L s s' c) (hc : c.i = 0)
    (hSD : ∀ r ∈ toValidator valAddr L, ∀ e ∈ r.Entries, 0 ≤ e.SharesDst.i) {r : Redelegation}
    (hr : r ∈ toValidator valAddr L) : totalSharesDst (s'.redEntries r.key) = 0 := by
  -- 一つ一つの記録に残る share は、負でない和と負でない cover の小さい方である
  have hnonneg : ∀ x ∈ (toValidator valAddr L).map fun r => totalSharesDst (s'.redEntries r.key),
      0 ≤ x := by
    intro x hx
    obtain ⟨r', hr', rfl⟩ := List.mem_map.mp hx
    obtain ⟨_, c₁, _, _, hc₁, hsplit⟩ := h.record r' hr'
    rw [hsplit.keptShares (hSD r' hr')]
    exact le_min (totalSharesDst_nonneg (hSD r' hr')) hc₁
  have hsum : ((toValidator valAddr L).map fun r => totalSharesDst (s'.redEntries r.key)).sum = 0 := by
    rw [h.liabilities hSD, hc]
    exact min_eq_right (sum_toValidator_nonneg hSD)
  exact List.all_zero_of_le_zero_le_of_sum_eq_zero hnonneg hsum (List.mem_map_of_mem hr)

/--
**上限の判定は移し先の記録を見ない。** 早く返さず、hook がどれも成功し、移し元と移し先が違い、移し元の
share を全部移す（`D ≤ wantShares`）とする。移し元の `valAddr` への記録の entry の share が負でなければ、
share の和が正の記録 `r` の entry は移し先の同じ validator の組の記録に送られ、その記録には空でない列が
足される。`mightExceedLimit` は移し元の記録しか数えないので、移し先の記録が既に `MaxEntries` 個の entry を
持っていても、`TransferDelegation` はそれを `MaxEntries` より多くする。
-/
theorem TransferDelegation_exceeds_MaxEntries (hsdk : sdk.Lawful) (hw : s.WellKeyed)
    (hne : fromAddr ≠ toAddr) (hh : h.Succeed) (hp : Proceeds s fromAddr valAddr wantShares validator delFrom)
    (hall : delFrom.Shares.i ≤ wantShares.i)
    (hSD : ∀ r ∈ toValidator valAddr (s.GetRedelegations fromAddr MaxUint16), ∀ e ∈ r.Entries,
      0 ≤ e.SharesDst.i)
    {r : Redelegation} (hr : r ∈ toValidator valAddr (s.GetRedelegations fromAddr MaxUint16))
    (hpos : 0 < totalSharesDst r.Entries) :
    ∃ s' t sent, TransferDelegation h sdk s fromAddr toAddr valAddr wantShares = .ok (s', t) ∧ sent ≠ [] ∧
      s'.redEntries (toAddr, r.ValidatorSrcAddress, valAddr) =
        s.redEntries (toAddr, r.ValidatorSrcAddress, valAddr) ++ sent ∧
      (s.MaxEntries ≤ (s.redEntries (toAddr, r.ValidatorSrcAddress, valAddr)).length →
        s.MaxEntries < (s'.redEntries (toAddr, r.ValidatorSrcAddress, valAddr)).length) := by
  obtain ⟨s₂, hstages, hw₂, hr₂, -, -⟩ := stages_of_succeed toAddr hw hh hp
  obtain ⟨s', htr, -, -, -, hsplit⟩ :=
    transferRedelegations_spec hsdk fromAddr toAddr valAddr hw₂ (remaining_nonneg delFrom.Shares wantShares)
  have hrun : TransferDelegation h sdk s fromAddr toAddr valAddr wantShares =
      .ok (s', transferAmount delFrom.Shares wantShares) := by
    rw [TransferDelegation_of_continue hp hstages, htr]
    rfl
  -- 記録の分け方を、二つの delegation を書く前の store の記録で読む
  have hrec := (hsplit hne).congr_left (Store.redEntries_congr hr₂)
  rw [Store.GetRedelegations_congr hr₂] at hrec
  -- 全部移すので、cover は 0 である
  have hc : (delFrom.Shares.Sub (transferAmount delFrom.Shares wantShares)).i = 0 := by
    simp only [Sub_i, transferAmount_i]
    omega
  obtain ⟨sent, c₁, c₂, hto, -, hsplitr⟩ := hrec.record r hr
  have hkept := hrec.kept_zero hc hSD hr
  -- 残る share が 0 で、記録の share の和は正なので、送る列は空でない
  have hsent : sent ≠ [] := by
    rintro rfl
    have := hsplitr.shares
    rw [hkept, totalSharesDst_nil] at this
    omega
  refine ⟨s', _, sent, hrun, hsent, hto, fun hfull => ?_⟩
  rw [hto, List.length_append]
  have : 0 < sent.length := List.length_pos_of_ne_nil hsent
  omega

/--
見本の store に、`"b"` の `"u"` から `"v"` への redelegation の記録を、上限の 7 個の entry で置いた store。
-/
def fullStore : Store :=
  { sampleStore with
    redelegations := sampleStore.redelegations.set ("b", "u", "v")
      ⟨"b", "u", "v", List.replicate 7 ⟨1, 100, 1, ⟨10 ^ 18⟩⟩⟩ }

theorem fullStore_wellKeyed : fullStore.WellKeyed where
  validators := sampleStore_wellKeyed.validators
  delegations := sampleStore_wellKeyed.delegations
  redelegations k r hk := by
    simp only [fullStore, KeyMap.get?_set] at hk
    split at hk
    · next hkv => cases hk; exact hkv.symm
    · exact sampleStore_wellKeyed.redelegations k r hk
  unbondingDelegations := sampleStore_wellKeyed.unbondingDelegations

/--
`"a"` が 3.0 の share を全部 `"b"` に移すと、`"a"` の記録の entry が、既に 7 個の entry を持つ `"b"` の
記録に足され、8 個になる。
-/
theorem TransferDelegation_exceeds_MaxEntries_sample :
    sampleSdk.Lawful ∧ fullStore.WellKeyed ∧ "a" ≠ "b" ∧ Hooks.noop.Succeed ∧
      Proceeds fullStore "a" "v" ⟨3 * 10 ^ 18⟩ ⟨"v"⟩ ⟨"a", "v", ⟨3 * 10 ^ 18⟩⟩ ∧
      (∀ r ∈ toValidator "v" (fullStore.GetRedelegations "a" MaxUint16), ∀ e ∈ r.Entries,
        0 ≤ e.SharesDst.i) ∧
      ⟨"a", "u", "v", [⟨1, 100, 3, ⟨3 * 10 ^ 18⟩⟩]⟩ ∈
        toValidator "v" (fullStore.GetRedelegations "a" MaxUint16) ∧
      fullStore.MaxEntries ≤ (fullStore.redEntries ("b", "u", "v")).length ∧
      ∃ s' t, TransferDelegation Hooks.noop sampleSdk fullStore "a" "b" "v" ⟨3 * 10 ^ 18⟩ = .ok (s', t) ∧
        fullStore.MaxEntries < (s'.redEntries ("b", "u", "v")).length := by
  have hp : Proceeds fullStore "a" "v" ⟨3 * 10 ^ 18⟩ ⟨"v"⟩ ⟨"a", "v", ⟨3 * 10 ^ 18⟩⟩ :=
    ⟨by norm_num, rfl, rfl, by decide⟩
  have hSD : ∀ r ∈ toValidator "v" (fullStore.GetRedelegations "a" MaxUint16), ∀ e ∈ r.Entries,
      0 ≤ e.SharesDst.i := by
    decide
  have hr : (⟨"a", "u", "v", [⟨1, 100, 3, ⟨3 * 10 ^ 18⟩⟩]⟩ : Redelegation) ∈
      toValidator "v" (fullStore.GetRedelegations "a" MaxUint16) := by
    decide
  have hfull : fullStore.MaxEntries ≤ (fullStore.redEntries ("b", "u", "v")).length := by decide
  obtain ⟨s', t, sent, hrun, -, -, hmore⟩ :=
    @TransferDelegation_exceeds_MaxEntries Hooks.noop sampleSdk fullStore "a" "b" "v" ⟨3 * 10 ^ 18⟩ ⟨"v"⟩
      ⟨"a", "v", ⟨3 * 10 ^ 18⟩⟩ sampleSdk_lawful fullStore_wellKeyed (by decide) Hooks.noop_succeed hp
      (by norm_num) hSD _ hr (by decide)
  exact ⟨sampleSdk_lawful, fullStore_wellKeyed, by decide, Hooks.noop_succeed, hp, hSD, hr, hfull, s', t,
    hrun, hmore hfull⟩

end SedaChain.Staking
