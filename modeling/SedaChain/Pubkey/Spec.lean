import SedaChain.Pubkey.Keeper

/-!
# pubkey の end block の一歩

`EndBlock` とそれが呼ぶ `JailValidators` が何をするかを言う。

* `State.WellFormed` — validator はどれも、自分の operator address を codec で復号した byte 列の下に
  あり、consensus address を持ち、consensus address は相異なる。proving scheme は自分の番号の下にある
* `Jail_eq` — SDK の `Jail` は、整った状態で jail されていない validator を、`Sdk.Lawful` により必ず
  jail する
* `jailStep_eq` — 整った状態で、写しのとおりに store にある validator についての一回の繰り返しは
  失敗せず、鍵が無く jail されていなければ jail する（`jailIfKeyless`）
* **`JailValidators_eq`** — 整った状態の `JailValidators` は失敗せず、鍵を登録していない validator を
  すべて jail し、ほかは何も変えない（`JailedKeyless`）
* **`EndBlock_path`** — `EndBlock` の道は七つある（`EndBlockPath`）
-/

namespace SedaChain.Pubkey

open Infra Infra.Go

namespace State

variable {sdk : Sdk} {s : State}

/-! ## 書き込みが変えない欄 -/

section Fields

variable (s : State)

@[simp] theorem SetProvingScheme_validators (p : ProvingScheme) :
    (s.SetProvingScheme p).validators = s.validators := rfl
@[simp] theorem SetProvingScheme_pubKeys (p : ProvingScheme) : (s.SetProvingScheme p).pubKeys = s.pubKeys :=
  rfl
@[simp] theorem SetProvingScheme_params (p : ProvingScheme) : (s.SetProvingScheme p).params = s.params := rfl
@[simp] theorem SetProvingScheme_height (p : ProvingScheme) : (s.SetProvingScheme p).height = s.height := rfl
@[simp] theorem SetProvingScheme_lastValidatorPowers (p : ProvingScheme) :
    (s.SetProvingScheme p).lastValidatorPowers = s.lastValidatorPowers := rfl
@[simp] theorem SetProvingScheme_provingSchemes (p : ProvingScheme) :
    (s.SetProvingScheme p).provingSchemes = s.provingSchemes.set p.Index p := rfl

/-- 鍵を順に書くことは、鍵の表だけを書き換える。 -/
theorem StoreIndexedPubKeys_eq (a : Bytes) :
    ∀ pks : List IndexedPubKey, s.StoreIndexedPubKeys a pks =
      { s with pubKeys := pks.foldl (fun m pk => m.set (a, pk.Index) pk.PubKey) s.pubKeys } := by
  intro pks
  induction pks generalizing s with
  | nil => rfl
  | cons pk pks ih => exact ih (s.SetValidatorKeyAtIndex a pk.Index pk.PubKey)

@[simp] theorem StoreIndexedPubKeys_validators (a : Bytes) (pks : List IndexedPubKey) :
    (s.StoreIndexedPubKeys a pks).validators = s.validators := by rw [StoreIndexedPubKeys_eq]
@[simp] theorem StoreIndexedPubKeys_provingSchemes (a : Bytes) (pks : List IndexedPubKey) :
    (s.StoreIndexedPubKeys a pks).provingSchemes = s.provingSchemes := by rw [StoreIndexedPubKeys_eq]
@[simp] theorem StoreIndexedPubKeys_params (a : Bytes) (pks : List IndexedPubKey) :
    (s.StoreIndexedPubKeys a pks).params = s.params := by rw [StoreIndexedPubKeys_eq]
@[simp] theorem StoreIndexedPubKeys_height (a : Bytes) (pks : List IndexedPubKey) :
    (s.StoreIndexedPubKeys a pks).height = s.height := by rw [StoreIndexedPubKeys_eq]

/-- 鍵を一つ書けば、その鍵は登録され、登録されていた鍵は登録されたままである。 -/
theorem HasRegisteredKey_SetValidatorKeyAtIndex (a : Bytes) (i : UInt32) (pk : Bytes) (b : Bytes)
    (j : UInt32) :
    (s.SetValidatorKeyAtIndex a i pk).HasRegisteredKey b j = true ↔
      (b = a ∧ i = j) ∨ s.HasRegisteredKey b j = true := by
  simp only [HasRegisteredKey, SetValidatorKeyAtIndex, KeyMap.contains_set, Prod.mk.injEq,
    Bool.or_eq_true, decide_eq_true_eq]
  constructor
  · rintro (⟨rfl, rfl⟩ | h)
    · exact .inl ⟨rfl, rfl⟩
    · exact .inr h
  · rintro (⟨rfl, rfl⟩ | h)
    · exact .inl ⟨rfl, rfl⟩
    · exact .inr h

/-- 鍵を書けば、書いた鍵は登録され、登録されていた鍵は登録されたままである。 -/
theorem HasRegisteredKey_StoreIndexedPubKeys (a : Bytes) :
    ∀ (pks : List IndexedPubKey) (b : Bytes) (i : UInt32),
      (s.StoreIndexedPubKeys a pks).HasRegisteredKey b i = true ↔
        (b = a ∧ ∃ pk ∈ pks, pk.Index = i) ∨ s.HasRegisteredKey b i = true := by
  intro pks
  induction pks generalizing s with
  | nil => simp [StoreIndexedPubKeys]
  | cons pk pks ih =>
    intro b i
    have hstep := ih (s.SetValidatorKeyAtIndex a pk.Index pk.PubKey) b i
    simp only [StoreIndexedPubKeys, List.foldl_cons] at hstep ⊢
    rw [hstep, HasRegisteredKey_SetValidatorKeyAtIndex]
    simp only [List.mem_cons, exists_eq_or_imp]
    constructor
    · rintro (⟨rfl, h⟩ | ⟨rfl, h⟩ | h)
      · exact .inl ⟨rfl, .inr h⟩
      · exact .inl ⟨rfl, .inl h⟩
      · exact .inr h
    · rintro (⟨rfl, h | h⟩ | h)
      · exact .inr (.inl ⟨rfl, h⟩)
      · exact .inl ⟨rfl, h⟩
      · exact .inr (.inr h)

end Fields

/-! ## 整った状態 -/

/--
整った状態。SDK の staking の collection と pubkey の collection が保つ鍵の整合である。validator は、
自分の operator address を codec で復号した byte 列の下にある。
-/
structure WellFormed (sdk : Sdk) (s : State) : Prop where
  validatorsKeyed : ∀ k v, s.validators.get? k = some v → sdk.StringToBytes v.OperatorAddress = .ok k
  consAddrIsSome : ∀ k v, s.validators.get? k = some v → v.ConsAddr.isSome
  consAddrUnique : ∀ k₁ v₁ k₂ v₂, s.validators.get? k₁ = some v₁ → s.validators.get? k₂ = some v₂ →
    v₁.ConsAddr = v₂.ConsAddr → k₁ = k₂
  schemesKeyed : ∀ k p, s.provingSchemes.get? k = some p → p.Index = k

/-- validator と proving scheme の表が同じ状態は、整っていることも同じである。 -/
theorem WellFormed.of_eq (hw : s.WellFormed sdk) {s' : State} (hv : s'.validators = s.validators)
    (hp : s'.provingSchemes = s.provingSchemes) : s'.WellFormed sdk :=
  ⟨hv ▸ hw.validatorsKeyed, hv ▸ hw.consAddrIsSome, hv ▸ hw.consAddrUnique, hp ▸ hw.schemesKeyed⟩

/-- validator の jail の印だけを書き換えても、状態は整ったままである。 -/
theorem WellFormed.setJailed (hw : s.WellFormed sdk) {k : Bytes} {v : Validator}
    (hv : s.validators.get? k = some v) (b : Bool) :
    ({ s with validators := s.validators.set k { v with Jailed := b } } : State).WellFormed sdk where
  validatorsKeyed k' w h := by
    simp only [KeyMap.get?_set] at h
    split at h
    · next hk => cases h; rw [hk]; exact hw.validatorsKeyed k v hv
    · exact hw.validatorsKeyed k' w h
  consAddrIsSome k' w h := by
    simp only [KeyMap.get?_set] at h
    split at h
    · cases h; exact hw.consAddrIsSome k v hv
    · exact hw.consAddrIsSome k' w h
  consAddrUnique k₁ w₁ k₂ w₂ h₁ h₂ hc := by
    simp only [KeyMap.get?_set] at h₁ h₂
    -- 書き換えた validator は、consensus address も鍵も前と同じである
    have hlift : ∀ k' w, (if k' = k then some { v with Jailed := b } else s.validators.get? k') =
        some w → ∃ w', s.validators.get? k' = some w' ∧ w'.ConsAddr = w.ConsAddr := by
      intro k' w h
      split at h
      · next hk => cases h; exact ⟨v, hk ▸ hv, rfl⟩
      · exact ⟨w, h, rfl⟩
    obtain ⟨w₁', h₁', hc₁⟩ := hlift k₁ w₁ h₁
    obtain ⟨w₂', h₂', hc₂⟩ := hlift k₂ w₂ h₂
    exact hw.consAddrUnique k₁ w₁' k₂ w₂' h₁' h₂' (by rw [hc₁, hc₂, hc])
  schemesKeyed := hw.schemesKeyed

/-- proving scheme を自分の番号の下に書いても、状態は整ったままである。 -/
theorem WellFormed.SetProvingScheme (hw : s.WellFormed sdk) (p : ProvingScheme) :
    (s.SetProvingScheme p).WellFormed sdk where
  validatorsKeyed := hw.validatorsKeyed
  consAddrIsSome := hw.consAddrIsSome
  consAddrUnique := hw.consAddrUnique
  schemesKeyed k q h := by
    simp only [SetProvingScheme_provingSchemes, KeyMap.get?_set] at h
    split at h
    · next hk => cases h; exact hk.symm
    · exact hw.schemesKeyed k q h

/-! ## `JailValidators` -/

/-- 鍵を登録しておらず jail されていない、鍵 `k` の validator `v` を jail した状態。 -/
def jailIfKeyless (keyIndex : UInt32) (s : State) (k : Bytes) (v : Validator) : State :=
  if s.HasRegisteredKey k keyIndex = true ∨ v.Jailed = true then s
  else { s with validators := s.validators.set k { v with Jailed := true } }

/--
整った状態の SDK の `Jail` は、consensus address の validator を jail する。整った状態では consensus
address の validator はただ一つなので、`Sdk.Lawful` の二つの欄から、通ることと書く状態が決まる。
-/
theorem Jail_eq (hsdk : sdk.Lawful) (hw : s.WellFormed sdk) {k : Bytes} {v : Validator} {consAddr : Bytes}
    (hv : s.validators.get? k = some v) (hc : v.ConsAddr = some consAddr) (hj : v.Jailed = false) :
    sdk.Jail s consAddr = .ok { s with validators := s.validators.set k { v with Jailed := true } } := by
  have huniq : ∀ k' v', s.validators.get? k' = some v' → v'.ConsAddr = some consAddr → k' = k :=
    fun k' v' hv' hc' => hw.consAddrUnique k' v' k v hv' hv (by rw [hc, hc'])
  obtain ⟨s', hs'⟩ := hsdk.jail_ok s k v consAddr hv hc hj huniq
  obtain ⟨k', v', hv', hc', rfl⟩ := hsdk.jail_eq_ok s consAddr s' hs'
  -- jail したのは、同じ consensus address を持つ唯一の validator である
  obtain rfl := huniq k' v' hv' hc'
  rw [hv] at hv'
  cases hv'
  exact hs'

/--
**一回の繰り返し。** 整った状態で、写しの `v` が鍵 `k` の下にそのままあれば、`jailStep` は失敗せず、
`jailIfKeyless` の状態を返す。
-/
theorem jailStep_eq (hsdk : sdk.Lawful) (hw : s.WellFormed sdk) (keyIndex : UInt32) {k : Bytes}
    {v : Validator} (hv : s.validators.get? k = some v) :
    jailStep sdk keyIndex s v = .ok (jailIfKeyless keyIndex s k v) := by
  have hk : sdk.StringToBytes v.OperatorAddress = .ok k := hw.validatorsKeyed k v hv
  unfold jailStep jailIfKeyless
  rw [hk]
  by_cases hreg : s.HasRegisteredKey k keyIndex = true
  · simp [hreg]
  · obtain ⟨consAddr, hc⟩ := Option.isSome_iff_exists.mp (hw.consAddrIsSome _ _ hv)
    cases hj : v.Jailed
    · simp only [hreg, hc, Jail_eq hsdk hw hv hc hj]
      rfl
    · simp [hreg, hc]

@[simp] theorem jailIfKeyless_pubKeys (keyIndex : UInt32) (k : Bytes) (v : Validator) :
    (jailIfKeyless keyIndex s k v).pubKeys = s.pubKeys := by
  unfold jailIfKeyless; split <;> rfl

theorem jailIfKeyless_wellFormed (hw : s.WellFormed sdk) (keyIndex : UInt32) {k : Bytes} {v : Validator}
    (hv : s.validators.get? k = some v) : (jailIfKeyless keyIndex s k v).WellFormed sdk := by
  unfold jailIfKeyless
  split
  · exact hw
  · exact hw.setJailed hv true

/-- `jailIfKeyless` は鍵 `k` の validator だけを書き換える。 -/
theorem jailIfKeyless_get? (keyIndex : UInt32) {k : Bytes} {v : Validator}
    (hv : s.validators.get? k = some v) (k' : Bytes) :
    (jailIfKeyless keyIndex s k v).validators.get? k' =
      if k' = k then some { v with Jailed := v.Jailed || !s.HasRegisteredKey k keyIndex }
      else s.validators.get? k' := by
  unfold jailIfKeyless
  split
  · next h =>
    split
    · next hk =>
      have hj : (v.Jailed || !s.HasRegisteredKey k keyIndex) = v.Jailed := by
        rcases h with h | h <;> simp [h]
      rw [hk, hv, hj]
    · rfl
  · next h =>
    simp only [not_or, Bool.not_eq_true] at h
    simp [KeyMap.get?_set, h.1, h.2]

/--
写しの列を順に `jailIfKeyless` した状態。列は validator の表の（鍵、validator）の組で、鍵は相異なり、
どの組もそのまま表にある。列についての帰納法で、一つ目を書き換えた後も、残りの組は表にそのままある。
-/
theorem foldl_jailIfKeyless (hsdk : sdk.Lawful) (keyIndex : UInt32) :
    ∀ (L : List (Bytes × Validator)) (s : State), s.WellFormed sdk → (L.map (·.1)).Nodup →
      (∀ e ∈ L, s.validators.get? e.1 = some e.2) →
      (L.map (·.2)).foldlM (jailStep sdk keyIndex) s =
          .ok (L.foldl (fun s e => jailIfKeyless keyIndex s e.1 e.2) s) ∧
        (L.foldl (fun s e => jailIfKeyless keyIndex s e.1 e.2) s).WellFormed sdk ∧
        (L.foldl (fun s e => jailIfKeyless keyIndex s e.1 e.2) s).pubKeys = s.pubKeys ∧
        ∀ k, (L.foldl (fun s e => jailIfKeyless keyIndex s e.1 e.2) s).validators.get? k =
          (s.validators.get? k).map fun v =>
            if k ∈ L.map (·.1) then { v with Jailed := v.Jailed || !s.HasRegisteredKey k keyIndex }
            else v := by
  intro L
  induction L with
  | nil => intro s hw _ _; simp [hw]
  | cons e L ih =>
    intro s hw hnd hL
    obtain ⟨k, v⟩ := e
    simp only [List.map_cons, List.nodup_cons, List.mem_map, not_exists, not_and] at hnd
    have hv : s.validators.get? k = some v := hL (k, v) List.mem_cons_self
    -- 後ろの組は、`k` を書き換えた後もそのまま表にある
    have hL' : ∀ e ∈ L, (jailIfKeyless keyIndex s k v).validators.get? e.1 = some e.2 := by
      intro e he
      rw [jailIfKeyless_get? keyIndex hv, if_neg (fun h => hnd.1 e he h)]
      exact hL e (List.mem_cons_of_mem _ he)
    obtain ⟨hrun, hwf, hpk, hget⟩ :=
      ih (jailIfKeyless keyIndex s k v) (jailIfKeyless_wellFormed hw keyIndex hv) hnd.2 hL'
    refine ⟨?_, hwf, by rw [List.foldl_cons, hpk, jailIfKeyless_pubKeys], fun k' => ?_⟩
    · rw [List.map_cons, List.foldlM_cons, jailStep_eq hsdk hw keyIndex hv]
      exact hrun
    · rw [List.foldl_cons, hget k', jailIfKeyless_get? keyIndex hv]
      have hreg : (jailIfKeyless keyIndex s k v).HasRegisteredKey k' keyIndex = s.HasRegisteredKey k' keyIndex := by
        simp [HasRegisteredKey]
      by_cases hk : k' = k
      · subst hk
        have hnot : k' ∉ L.map (·.1) := fun hm => by
          obtain ⟨e, he, hek⟩ := List.mem_map.mp hm
          exact hnd.1 e he hek
        simp [hv, hnot]
      · rw [if_neg hk, hreg]
        simp only [List.map_cons, List.mem_cons, hk, false_or]

/-- `JailValidators` がしたこと：鍵を登録していない validator をすべて jail し、ほかは何も変えない。 -/
structure JailedKeyless (sdk : Sdk) (keyIndex : UInt32) (s s' : State) : Prop where
  wellFormed : s'.WellFormed sdk
  pubKeys : s'.pubKeys = s.pubKeys
  provingSchemes : s'.provingSchemes = s.provingSchemes
  params : s'.params = s.params
  lastValidatorPowers : s'.lastValidatorPowers = s.lastValidatorPowers
  lastTotalPower : s'.lastTotalPower = s.lastTotalPower
  height : s'.height = s.height
  validators : ∀ k, s'.validators.get? k =
    (s.validators.get? k).map fun v => { v with Jailed := v.Jailed || !s.HasRegisteredKey k keyIndex }

/-- `jailIfKeyless` は validator のほかの欄を変えない。 -/
theorem foldl_jailIfKeyless_fields (keyIndex : UInt32) :
    ∀ (L : List (Bytes × Validator)) (s : State),
      (L.foldl (fun s e => jailIfKeyless keyIndex s e.1 e.2) s).provingSchemes = s.provingSchemes ∧
      (L.foldl (fun s e => jailIfKeyless keyIndex s e.1 e.2) s).params = s.params ∧
      (L.foldl (fun s e => jailIfKeyless keyIndex s e.1 e.2) s).lastValidatorPowers = s.lastValidatorPowers ∧
      (L.foldl (fun s e => jailIfKeyless keyIndex s e.1 e.2) s).lastTotalPower = s.lastTotalPower ∧
      (L.foldl (fun s e => jailIfKeyless keyIndex s e.1 e.2) s).height = s.height := by
  intro L
  induction L with
  | nil => intro s; exact ⟨rfl, rfl, rfl, rfl, rfl⟩
  | cons e L ih =>
    intro s
    obtain ⟨h₁, h₂, h₃, h₄, h₅⟩ := ih (jailIfKeyless keyIndex s e.1 e.2)
    simp only [List.foldl_cons, h₁, h₂, h₃, h₄, h₅]
    unfold jailIfKeyless
    split <;> exact ⟨rfl, rfl, rfl, rfl, rfl⟩

/--
**`JailValidators` は鍵の無い validator をすべて jail する。** 整った状態では、`GetAllValidators` の
写しのどの validator も、その address を復号した鍵の下にそのままあり、consensus address は相異なるので、
SDK の `Jail` はいつもその validator を jail し、失敗しない。
-/
theorem JailValidators_eq (hsdk : sdk.Lawful) (hw : s.WellFormed sdk) (keyIndex : UInt32) :
    ∃ s', s.JailValidators sdk keyIndex = .ok s' ∧ JailedKeyless sdk keyIndex s s' := by
  have hL : ∀ e ∈ s.validators.entries, s.validators.get? e.1 = some e.2 :=
    fun e he => (KeyMap.get?_eq_some_iff _).mpr he
  obtain ⟨hrun, hwf, hpk, hget⟩ := foldl_jailIfKeyless hsdk keyIndex s.validators.entries s hw
    s.validators.nodup hL
  obtain ⟨h₁, h₂, h₃, h₄, h₅⟩ := foldl_jailIfKeyless_fields keyIndex s.validators.entries s
  refine ⟨_, hrun, ⟨hwf, hpk, h₁, h₂, h₃, h₄, h₅, fun k => ?_⟩⟩
  rw [hget k]
  cases hk : s.validators.get? k with
  | none => rfl
  | some v =>
    have hmem : k ∈ s.validators.entries.map (·.1) :=
      List.mem_map.mpr ⟨(k, v), (KeyMap.get?_eq_some_iff _).mp hk, rfl⟩
    simp [hmem]

/-! ## `EndBlock` の道 -/

/-- `EndBlock` の七つの道と、それぞれの道を通る条件。 -/
inductive EndBlockPath (sdk : Sdk) (s : State) : State → Prop where
  /-- proving scheme が無い。 -/
  | noScheme : s.provingSchemes.get? SEDAKeyIndexSecp256k1 = none → EndBlockPath sdk s s
  /-- 既に有効である。 -/
  | activated {scheme : ProvingScheme} : s.provingSchemes.get? SEDAKeyIndexSecp256k1 = some scheme →
      scheme.IsActivated = true → EndBlockPath sdk s s
  /-- 有効にする高さに届いたが、`JailValidators` が途中で失敗した。 -/
  | jailFailed {scheme : ProvingScheme} {s₁ : State} :
      s.provingSchemes.get? SEDAKeyIndexSecp256k1 = some scheme → scheme.IsActivated = false →
      scheme.ActivationHeight ≠ DefaultActivationHeight → scheme.ActivationHeight ≤ s.height →
      s.JailValidators sdk SEDAKeyIndexSecp256k1 = .error s₁ → EndBlockPath sdk s s₁
  /-- 有効にする高さに届き、鍵の無い validator を jail して有効にする。 -/
  | activate {scheme : ProvingScheme} {s₁ : State} :
      s.provingSchemes.get? SEDAKeyIndexSecp256k1 = some scheme → scheme.IsActivated = false →
      scheme.ActivationHeight ≠ DefaultActivationHeight → scheme.ActivationHeight ≤ s.height →
      s.JailValidators sdk SEDAKeyIndexSecp256k1 = .ok s₁ →
      EndBlockPath sdk s (s₁.SetProvingScheme
        { scheme with IsActivated := true, ActivationHeight := DefaultActivationHeight })
  /-- 待機中に割合が閾値に届き、準備に入る。 -/
  | start {scheme : ProvingScheme} :
      s.provingSchemes.get? SEDAKeyIndexSecp256k1 = some scheme → scheme.IsActivated = false →
      scheme.ActivationHeight = DefaultActivationHeight →
      s.CheckKeyRegistrationRate SEDAKeyIndexSecp256k1 = true →
      EndBlockPath sdk s (s.SetProvingScheme
        { scheme with ActivationHeight := s.height + s.params.ActivationBlockDelay })
  /-- 準備中に割合が閾値を割り、準備をやめる。 -/
  | cancel {scheme : ProvingScheme} :
      s.provingSchemes.get? SEDAKeyIndexSecp256k1 = some scheme → scheme.IsActivated = false →
      scheme.ActivationHeight ≠ DefaultActivationHeight → s.height < scheme.ActivationHeight →
      s.CheckKeyRegistrationRate SEDAKeyIndexSecp256k1 = false →
      EndBlockPath sdk s (s.SetProvingScheme { scheme with ActivationHeight := DefaultActivationHeight })
  /-- 待機中で割合が届かないか、準備中で割合が保たれている。 -/
  | idle {scheme : ProvingScheme} :
      s.provingSchemes.get? SEDAKeyIndexSecp256k1 = some scheme → scheme.IsActivated = false →
      (scheme.ActivationHeight = DefaultActivationHeight ∧
          s.CheckKeyRegistrationRate SEDAKeyIndexSecp256k1 = false) ∨
        (scheme.ActivationHeight ≠ DefaultActivationHeight ∧ s.height < scheme.ActivationHeight ∧
          s.CheckKeyRegistrationRate SEDAKeyIndexSecp256k1 = true) →
      EndBlockPath sdk s s

theorem GetProvingScheme_eq_ok {index : UInt32} {scheme : ProvingScheme} :
    s.GetProvingScheme index = .ok scheme ↔ s.provingSchemes.get? index = some scheme := by
  unfold GetProvingScheme
  split <;> simp_all

/-- **`EndBlock` の道。** `EndBlock` はどの状態でも、七つの道のどれかを通る。 -/
theorem EndBlock_path (sdk : Sdk) (s : State) : EndBlockPath sdk s (s.EndBlock sdk) := by
  unfold EndBlock
  cases hget : s.provingSchemes.get? SEDAKeyIndexSecp256k1 with
  | none =>
    have : s.GetProvingScheme SEDAKeyIndexSecp256k1 = .error (.error errCollectionsNotFound) := by
      simp [GetProvingScheme, hget]
    rw [this]
    exact .noScheme hget
  | some scheme =>
    rw [GetProvingScheme_eq_ok.mpr hget]
    dsimp only
    cases hact : scheme.IsActivated
    · simp only [Bool.false_eq_true, ↓reduceIte]
      by_cases hreach : scheme.ActivationHeight ≠ DefaultActivationHeight ∧ scheme.ActivationHeight ≤ s.height
      · rw [if_pos hreach]
        cases hjail : s.JailValidators sdk SEDAKeyIndexSecp256k1 with
        | error s₁ => exact .jailFailed hget hact hreach.1 hreach.2 hjail
        | ok s₁ => exact .activate hget hact hreach.1 hreach.2 hjail
      · rw [if_neg hreach]
        have hstart : s.StartProvingSchemeActivation SEDAKeyIndexSecp256k1 =
            .ok (s.SetProvingScheme { scheme with ActivationHeight := s.height + s.params.ActivationBlockDelay }) := by
          simp [StartProvingSchemeActivation, GetProvingScheme_eq_ok.mpr hget]
        have hcancel : s.CancelProvingSchemeActivation SEDAKeyIndexSecp256k1 =
            .ok (s.SetProvingScheme { scheme with ActivationHeight := DefaultActivationHeight }) := by
          simp [CancelProvingSchemeActivation, GetProvingScheme_eq_ok.mpr hget]
        by_cases hdef : scheme.ActivationHeight = DefaultActivationHeight
        · cases hmet : s.CheckKeyRegistrationRate SEDAKeyIndexSecp256k1
          · simp only [hdef, ne_eq, not_true_eq_false, not_false_eq_true, Bool.false_eq_true,
              and_false, ↓reduceIte, false_and]
            exact .idle hget hact (.inl ⟨hdef, hmet⟩)
          · simp only [hdef, ne_eq, not_true_eq_false, not_false_eq_true, and_self, ↓reduceIte, hstart]
            exact .start hget hact hdef hmet
        · have hlt : s.height < scheme.ActivationHeight := by
            simp only [not_and, not_le] at hreach
            exact hreach hdef
          cases hmet : s.CheckKeyRegistrationRate SEDAKeyIndexSecp256k1
          · simp only [hdef, ne_eq, not_false_eq_true, not_true_eq_false, false_and, ↓reduceIte, and_self,
              hcancel]
            exact .cancel hget hact hdef hlt hmet
          · simp only [hdef, ne_eq, not_false_eq_true, not_true_eq_false, false_and, ↓reduceIte]
            exact .idle hget hact (.inr ⟨hdef, hlt, hmet⟩)
    · simp only [↓reduceIte]
      exact .activated hget hact

end State

end SedaChain.Pubkey
