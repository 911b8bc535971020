import SedaChain.Pubkey.Spec

/-!
# pubkey の message と、SDK の validator への書き込み

message server の関数と、それが呼ぶ SDK の書き込み（validator を作る、jail する、戻す）が、
通る条件と書くものを言い、`WellFormed` と、scheme が有効な時の鍵の整合 `KeysCover` を保つことを示す。
SDK の書き込みについては `Sdk.Lawful` の欄だけを使う。

* `ValidateSEDAPubKeys_eq_ok` — 鍵の検査が通るのは、secp256k1 の番号の、読める鍵がちょうど一つの
  時に限る（Go の並べ替えは結果に効かない）
* `AddKey_eq_ok`、`UpdateParams_eq_ok`、`Unjail_eq_ok` — 通る条件と書く状態。address は codec で
  復号した byte 列で引く
* `CreateSEDAValidator_eq_ok` — 鍵があれば検査して復号した address の下に書き、無ければ scheme は
  有効でない。その後で SDK の `CreateValidator` が通った
* `KeysCover` — scheme が有効なら、jail されていない validator はどれも鍵を登録している
* **各 message と SDK の `Jail` は `WellFormed` と `KeysCover` を保ち、proving scheme を変えない**
-/

namespace SedaChain.Pubkey

open Infra Infra.Go

variable {sdk : Sdk} {s s' : State}

/-! ## 鍵の検査 -/

/--
**鍵の検査。** `ValidateSEDAPubKeys` が通るのは、鍵がちょうど一つで、その番号が secp256k1 のもので、
公開鍵が読める時に限る。
-/
theorem ValidateSEDAPubKeys_eq_ok {pks : List IndexedPubKey} :
    ValidateSEDAPubKeys sdk pks = .ok () ↔
      ∃ pk, pks = [pk] ∧ pk.Index = SEDAKeyIndexSecp256k1 ∧ sdk.UnmarshalPubkey pk.PubKey = true := by
  unfold ValidateSEDAPubKeys
  match pks with
  | [] => simp [sedaPubKeyValidatorsLength]
  | [pk] =>
    simp only [sedaPubKeyValidatorsLength, List.length_singleton, ne_eq, not_true_eq_false, ↓reduceIte,
      forM_eq_ok_iff, List.mem_singleton, forall_eq, List.cons.injEq, and_true, exists_eq_left']
    unfold sedaPubKeyValidators
    by_cases hi : pk.Index = SEDAKeyIndexSecp256k1
    · cases hu : sdk.UnmarshalPubkey pk.PubKey <;> simp [hi, hu]
    · simp [hi]
  | _ :: _ :: _ => simp [sedaPubKeyValidatorsLength]

theorem checkSEDAPubKeys_eq_ok {pks : List IndexedPubKey} :
    checkSEDAPubKeys sdk pks = .ok () ↔ ValidateSEDAPubKeys sdk pks = .ok () := by
  unfold checkSEDAPubKeys
  split <;> simp_all

/-- 検査を通った鍵の列には、secp256k1 の番号の鍵がある。 -/
theorem exists_index_of_ValidateSEDAPubKeys {pks : List IndexedPubKey}
    (h : ValidateSEDAPubKeys sdk pks = .ok ()) : ∃ pk ∈ pks, pk.Index = SEDAKeyIndexSecp256k1 := by
  obtain ⟨pk, rfl, hi, -⟩ := ValidateSEDAPubKeys_eq_ok.mp h
  exact ⟨pk, List.mem_singleton_self pk, hi⟩

/-! ## 通る条件と書く状態 -/

theorem IsProvingSchemeActivated_eq_ok {index : UInt32} {b : Bool} :
    s.IsProvingSchemeActivated index = .ok b ↔
      ∃ scheme, s.provingSchemes.get? index = some scheme ∧ scheme.IsActivated = b := by
  unfold State.IsProvingSchemeActivated
  rw [bind_eq_ok]
  simp [State.GetProvingScheme_eq_ok]

/-- operator address の復号が通るのは、codec の `StringToBytes` が通る時に限る。 -/
theorem validatorAddressBytes_eq_ok {a : String} {b : Bytes} :
    validatorAddressBytes sdk a = .ok b ↔ sdk.StringToBytes a = .ok b := by
  unfold validatorAddressBytes
  cases sdk.StringToBytes a <;> simp [Except.mapError]

/--
`AddKey` が通るのは、address が空でなく、鍵の検査が通り、address を復号でき、その byte 列の下に validator
が在る時に限り、その byte 列の下に鍵を書く。
-/
theorem AddKey_eq_ok {msg : MsgAddKey} :
    AddKey sdk s msg = .ok s' ↔
      msg.ValidatorAddr ≠ "" ∧ ValidateSEDAPubKeys sdk msg.IndexedPubKeys = .ok () ∧
        ∃ valAddr, sdk.StringToBytes msg.ValidatorAddr = .ok valAddr ∧
          (s.validators.get? valAddr).isSome ∧ s' = s.StoreIndexedPubKeys valAddr msg.IndexedPubKeys := by
  unfold AddKey MsgAddKey.ValidateBasic
  by_cases ha : msg.ValidatorAddr = ""
  · simp [ha]
  · cases hc : checkSEDAPubKeys sdk msg.IndexedPubKeys with
    | error e =>
      have hv : ValidateSEDAPubKeys sdk msg.IndexedPubKeys ≠ .ok () := fun hv => by
        rw [checkSEDAPubKeys_eq_ok.mpr hv] at hc
        cases hc
      simp [ha, hv]
    | ok u =>
      have hv := checkSEDAPubKeys_eq_ok.mp hc
      cases hb : sdk.StringToBytes msg.ValidatorAddr with
      | error e => simp [ha, hv, validatorAddressBytes, hb, Except.mapError]
      | ok valAddr =>
        cases hget : s.validators.get? valAddr
        · simp [ha, hv, validatorAddressBytes, hb, Except.mapError, hget]
        · simp [ha, hv, validatorAddressBytes, hb, Except.mapError, hget]
          exact eq_comm

/-- 引数の検査が通るのは、遅れが負でなく、閾値が 67 から 100 の間にある時に限る。 -/
theorem Params.Validate_eq_ok {p : Params} :
    p.Validate = .ok () ↔ 0 ≤ p.ActivationBlockDelay ∧ 67 ≤ p.ActivationThresholdPercent ∧
      p.ActivationThresholdPercent ≤ 100 := by
  unfold Params.Validate
  by_cases hd : p.ActivationBlockDelay < 0
  · simp only [hd, ↓reduceIte, throw_eq_error, reduceCtorEq, false_iff, not_and]
    intro h
    omega
  · have hd' : 0 ≤ p.ActivationBlockDelay := by omega
    simp only [hd, hd', ↓reduceIte, true_and, ← UInt32.not_lt, ← not_or]
    split <;> simp_all

theorem UpdateParams_eq_ok {authority msgAuthority : String} {params : Params} :
    UpdateParams authority s msgAuthority params = .ok s' ↔
      authority = msgAuthority ∧ params.Validate = .ok () ∧ s' = { s with params := params } := by
  unfold UpdateParams
  by_cases ha : authority = msgAuthority
  · simp only [ha, ne_eq, not_true_eq_false, ↓reduceIte, pure_eq_ok, true_and, bind_eq_ok]
    constructor
    · rintro ⟨⟨⟩, h, h'⟩
      exact ⟨h, (Except.ok.inj h').symm⟩
    · rintro ⟨h, rfl⟩
      exact ⟨(), h, rfl⟩
  · simp [ha]

/--
`CreateSEDAValidator` が通った時の道。address を復号し、鍵があれば検査してその byte 列の下に書き、無ければ
scheme は有効でない。その後で SDK の `CreateValidator` が通った。
-/
theorem CreateSEDAValidator_eq_ok {msg : MsgCreateSEDAValidator}
    (h : CreateSEDAValidator sdk s msg = .ok s') :
    ∃ consAddr valAddr activated s₁, msg.Pubkey = some consAddr ∧
      sdk.StringToBytes msg.ValidatorAddress = .ok valAddr ∧
      s.IsProvingSchemeActivated SEDAKeyIndexSecp256k1 = .ok activated ∧
      ((ValidateSEDAPubKeys sdk msg.IndexedPubKeys = .ok () ∧
          s₁ = s.StoreIndexedPubKeys valAddr msg.IndexedPubKeys) ∨
        (msg.IndexedPubKeys = [] ∧ activated = false ∧ s₁ = s)) ∧
      sdk.CreateValidator s₁ msg = .ok s' := by
  unfold CreateSEDAValidator at h
  obtain ⟨⟨⟩, hval, h⟩ := bind_eq_ok.mp h
  obtain ⟨valAddr, haddr, h⟩ := bind_eq_ok.mp h
  have hdec := validatorAddressBytes_eq_ok.mp haddr
  obtain ⟨activated, hact, h⟩ := bind_eq_ok.mp h
  -- `Validate` は公開鍵の無い message を断る
  obtain ⟨consAddr, hc⟩ : ∃ c, msg.Pubkey = some c := by
    unfold MsgCreateSEDAValidator.Validate at hval
    cases hp : msg.Pubkey with
    | none => simp [hp] at hval
    | some c => exact ⟨c, rfl⟩
  dsimp only at h
  split at h
  · obtain ⟨⟨⟩, hk, h⟩ := bind_eq_ok.mp h
    exact ⟨consAddr, valAddr, activated, _, hc, hdec, hact, .inl ⟨checkSEDAPubKeys_eq_ok.mp hk, rfl⟩, h⟩
  · next hlen =>
    have hnil : msg.IndexedPubKeys = [] := List.eq_nil_of_length_eq_zero (by omega)
    cases activated
    · exact ⟨consAddr, valAddr, false, s, hc, hdec, hact, .inr ⟨hnil, rfl, rfl⟩, h⟩
    · simp at h

/--
`Unjail` が通るのは、scheme が読め、有効なら address を復号できてその byte 列の下に鍵を登録しており、SDK の
`Unjail` が通る時に限る。
-/
theorem Unjail_eq_ok {valAddr : String} :
    Unjail sdk s valAddr = .ok s' ↔
      ∃ activated, s.IsProvingSchemeActivated SEDAKeyIndexSecp256k1 = .ok activated ∧
        (activated = true → ∃ a, sdk.StringToBytes valAddr = .ok a ∧
          s.HasRegisteredKey a SEDAKeyIndexSecp256k1 = true) ∧
        sdk.Unjail s valAddr = .ok s' := by
  unfold Unjail
  rw [bind_eq_ok]
  refine exists_congr fun activated => and_congr_right fun _ => ?_
  cases activated
  · simp
  · cases hb : sdk.StringToBytes valAddr with
    | error e => simp [Except.mapError]
    | ok a => cases hk : s.HasRegisteredKey a SEDAKeyIndexSecp256k1 <;> simp [hk, Except.mapError]

/-! ## 整った状態は保たれる -/

namespace State

/--
復号すると `valAddr` になる operator address の validator を、使われていない consensus の公開鍵で
`valAddr` の下に足しても、状態は整ったままである。
-/
theorem WellFormed.addValidator (hw : s.WellFormed sdk) {valAddr : Bytes} {operator : String}
    {consAddr : Bytes} (hkey : sdk.StringToBytes operator = .ok valAddr)
    (hfresh : ∀ k v, s.validators.get? k = some v → v.ConsAddr ≠ some consAddr) :
    ({ s with validators := s.validators.set valAddr ⟨operator, some consAddr, false⟩ } : State).WellFormed sdk where
  validatorsKeyed k v h := by
    simp only [KeyMap.get?_set] at h
    split at h
    · next hk => cases h; rw [hk]; exact hkey
    · exact hw.validatorsKeyed k v h
  consAddrIsSome k v h := by
    simp only [KeyMap.get?_set] at h
    split at h
    · cases h; rfl
    · exact hw.consAddrIsSome k v h
  consAddrUnique k₁ v₁ k₂ v₂ h₁ h₂ hc := by
    simp only [KeyMap.get?_set] at h₁ h₂
    -- 足した validator の consensus の公開鍵は、前からある validator のどれとも違う
    split at h₁ <;> split at h₂
    · next hk₁ hk₂ => rw [hk₁, hk₂]
    · next hk₁ _ => cases h₁; exact absurd hc.symm (hfresh k₂ v₂ h₂)
    · next hk₂ => cases h₂; exact absurd hc (hfresh k₁ v₁ h₁)
    · exact hw.consAddrUnique k₁ v₁ k₂ v₂ h₁ h₂ hc
  schemesKeyed := hw.schemesKeyed

/-- 鍵を書いても、状態は整ったままである。 -/
theorem WellFormed.StoreIndexedPubKeys (hw : s.WellFormed sdk) (a : Bytes) (pks : List IndexedPubKey) :
    (s.StoreIndexedPubKeys a pks).WellFormed sdk :=
  hw.of_eq (s.StoreIndexedPubKeys_validators a pks) (s.StoreIndexedPubKeys_provingSchemes a pks)

/-- validator を消しても、状態は整ったままである。 -/
theorem WellFormed.eraseValidator (hw : s.WellFormed sdk) (valAddr : Bytes) :
    ({ s with validators := s.validators.erase valAddr } : State).WellFormed sdk where
  validatorsKeyed k v h := by
    simp only [KeyMap.get?_erase] at h
    split at h
    · cases h
    · exact hw.validatorsKeyed k v h
  consAddrIsSome k v h := by
    simp only [KeyMap.get?_erase] at h
    split at h
    · cases h
    · exact hw.consAddrIsSome k v h
  consAddrUnique k₁ v₁ k₂ v₂ h₁ h₂ hc := by
    simp only [KeyMap.get?_erase] at h₁ h₂
    split at h₁
    · cases h₁
    · split at h₂
      · cases h₂
      · exact hw.consAddrUnique k₁ v₁ k₂ v₂ h₁ h₂ hc
  schemesKeyed := hw.schemesKeyed

end State

/--
鍵を書く前の状態と、書いた後の状態。鍵を書いても書かなくても、validator と scheme と引数と高さは変わらず、
登録した鍵は残る。
-/
theorem keysWritten_cases {valAddr : Bytes} {pks : List IndexedPubKey} {s₁ : State}
    (h : s₁ = s.StoreIndexedPubKeys valAddr pks ∨ s₁ = s) :
    s₁.validators = s.validators ∧ s₁.provingSchemes = s.provingSchemes ∧ s₁.params = s.params ∧
      s₁.height = s.height ∧ ∀ k, s.HasRegisteredKey k SEDAKeyIndexSecp256k1 = true →
        s₁.HasRegisteredKey k SEDAKeyIndexSecp256k1 = true := by
  rcases h with rfl | rfl
  · exact ⟨by simp, by simp, by simp, by simp,
      fun k hk => (s.HasRegisteredKey_StoreIndexedPubKeys _ _ k _).mpr (.inr hk)⟩
  · exact ⟨rfl, rfl, rfl, rfl, fun _ hk => hk⟩

/-- `CreateSEDAValidator` の二つの道の、鍵を書いた後の状態。 -/
theorem CreateSEDAValidator_written {msg : MsgCreateSEDAValidator} {valAddr : Bytes} {activated : Bool}
    {s₁ : State} (hs₁ : (ValidateSEDAPubKeys sdk msg.IndexedPubKeys = .ok () ∧
        s₁ = s.StoreIndexedPubKeys valAddr msg.IndexedPubKeys) ∨
      (msg.IndexedPubKeys = [] ∧ activated = false ∧ s₁ = s)) :
    s₁ = s.StoreIndexedPubKeys valAddr msg.IndexedPubKeys ∨ s₁ = s := by
  rcases hs₁ with ⟨-, h⟩ | ⟨-, -, h⟩
  · exact .inl h
  · exact .inr h

theorem AddKey_wellFormed {msg : MsgAddKey} (hw : s.WellFormed sdk) (h : AddKey sdk s msg = .ok s') :
    s'.WellFormed sdk := by
  obtain ⟨-, -, valAddr, -, -, rfl⟩ := AddKey_eq_ok.mp h
  exact hw.StoreIndexedPubKeys _ _

theorem CreateSEDAValidator_wellFormed (hsdk : sdk.Lawful) {msg : MsgCreateSEDAValidator}
    (hw : s.WellFormed sdk) (h : CreateSEDAValidator sdk s msg = .ok s') : s'.WellFormed sdk := by
  obtain ⟨consAddr, _, _, s₁, hc, _, _, hs₁, hcreate⟩ := CreateSEDAValidator_eq_ok h
  obtain ⟨hv₁, hp₁, -, -, -⟩ := keysWritten_cases (CreateSEDAValidator_written hs₁)
  obtain ⟨valAddr', hdec', -, hfresh, rfl⟩ := hsdk.createValidator_eq_ok s₁ msg s' hcreate
  rw [hc] at hfresh ⊢
  exact (hw.of_eq hv₁ hp₁).addValidator hdec' hfresh

theorem Unjail_wellFormed (hsdk : sdk.Lawful) {valAddr : String} (hw : s.WellFormed sdk)
    (h : Unjail sdk s valAddr = .ok s') : s'.WellFormed sdk := by
  obtain ⟨-, -, -, hunjail⟩ := Unjail_eq_ok.mp h
  obtain ⟨a, v, -, hv, rfl⟩ := hsdk.unjail_eq_ok s valAddr s' hunjail
  exact hw.setJailed hv false

theorem UpdateParams_wellFormed {authority msgAuthority : String} {params : Params} (hw : s.WellFormed sdk)
    (h : UpdateParams authority s msgAuthority params = .ok s') : s'.WellFormed sdk := by
  obtain ⟨-, -, rfl⟩ := UpdateParams_eq_ok.mp h
  exact hw.of_eq rfl rfl

theorem Jail_wellFormed (hsdk : sdk.Lawful) {consAddr : Bytes} (hw : s.WellFormed sdk)
    (h : sdk.Jail s consAddr = .ok s') : s'.WellFormed sdk := by
  obtain ⟨k, v, hv, -, rfl⟩ := hsdk.jail_eq_ok s consAddr s' h
  exact hw.setJailed hv true

/-! ## message が変えないもの -/

/-- message と `Jail` が変えないもの。proving scheme と引数と高さである。 -/
structure Frame (s s' : State) : Prop where
  provingSchemes : s'.provingSchemes = s.provingSchemes
  params : s'.params = s.params
  height : s'.height = s.height

theorem AddKey_frame {msg : MsgAddKey} (h : AddKey sdk s msg = .ok s') : Frame s s' := by
  obtain ⟨-, -, valAddr, -, -, rfl⟩ := AddKey_eq_ok.mp h
  exact ⟨by simp, by simp, by simp⟩

theorem CreateSEDAValidator_frame (hsdk : sdk.Lawful) {msg : MsgCreateSEDAValidator}
    (h : CreateSEDAValidator sdk s msg = .ok s') : Frame s s' := by
  obtain ⟨_, _, _, s₁, _, _, _, hs₁, hcreate⟩ := CreateSEDAValidator_eq_ok h
  obtain ⟨-, hp, hq, hh, -⟩ := keysWritten_cases (CreateSEDAValidator_written hs₁)
  obtain ⟨_, -, -, -, rfl⟩ := hsdk.createValidator_eq_ok s₁ msg s' hcreate
  exact ⟨hp, hq, hh⟩

theorem Unjail_frame (hsdk : sdk.Lawful) {valAddr : String} (h : Unjail sdk s valAddr = .ok s') :
    Frame s s' := by
  obtain ⟨-, -, -, hunjail⟩ := Unjail_eq_ok.mp h
  obtain ⟨a, v, -, -, rfl⟩ := hsdk.unjail_eq_ok s valAddr s' hunjail
  exact ⟨rfl, rfl, rfl⟩

theorem Jail_frame (hsdk : sdk.Lawful) {consAddr : Bytes} (h : sdk.Jail s consAddr = .ok s') :
    Frame s s' := by
  obtain ⟨k, v, -, -, rfl⟩ := hsdk.jail_eq_ok s consAddr s' h
  exact ⟨rfl, rfl, rfl⟩

/-! ## 鍵の整合 -/

/-- scheme が有効なら、jail されていない validator はどれも secp256k1 の鍵を登録している。 -/
def KeysCover (s : State) : Prop :=
  s.IsProvingSchemeActivated SEDAKeyIndexSecp256k1 = .ok true →
    ∀ k v, s.validators.get? k = some v → v.Jailed = false →
      s.HasRegisteredKey k SEDAKeyIndexSecp256k1 = true

/--
鍵を減らさず、scheme を変えず、jail されていない validator を増やさない書き込みは、鍵の整合を保つ。
-/
theorem KeysCover.of_le (hc : KeysCover s) (hp : s'.provingSchemes = s.provingSchemes)
    (hk : ∀ k, s.HasRegisteredKey k SEDAKeyIndexSecp256k1 = true →
      s'.HasRegisteredKey k SEDAKeyIndexSecp256k1 = true)
    (hv : ∀ k v', s'.validators.get? k = some v' → v'.Jailed = false →
      ∃ v, s.validators.get? k = some v ∧ v.Jailed = false) : KeysCover s' := by
  intro hact k v' hv' hj
  have hact' : s.IsProvingSchemeActivated SEDAKeyIndexSecp256k1 = .ok true := by
    rw [IsProvingSchemeActivated_eq_ok] at hact ⊢
    rwa [hp] at hact
  obtain ⟨v, hv, hjv⟩ := hv k v' hv' hj
  exact hk k (hc hact' k v hv hjv)

theorem AddKey_keysCover {msg : MsgAddKey} (hc : KeysCover s) (h : AddKey sdk s msg = .ok s') :
    KeysCover s' := by
  obtain ⟨-, -, valAddr, -, -, rfl⟩ := AddKey_eq_ok.mp h
  obtain ⟨hv, hp, -, -, hk⟩ := keysWritten_cases (.inl rfl : _ = s.StoreIndexedPubKeys valAddr _ ∨ _)
  exact hc.of_le hp hk (fun k v' h' hj => ⟨v', hv ▸ h', hj⟩)

/--
`CreateSEDAValidator` は鍵の整合を保つ。scheme が有効なら鍵の無い message は断られ、鍵のある message は
secp256k1 の鍵を、新しい validator の address を復号した byte 列の下に書く。SDK の `CreateValidator` は
同じ byte 列の下に validator を足す。
-/
theorem CreateSEDAValidator_keysCover (hsdk : sdk.Lawful) {msg : MsgCreateSEDAValidator} (hc : KeysCover s)
    (h : CreateSEDAValidator sdk s msg = .ok s') : KeysCover s' := by
  obtain ⟨consAddr, valAddr, activated, s₁, _, hdec, hact, hs₁, hcreate⟩ := CreateSEDAValidator_eq_ok h
  obtain ⟨hv₁, hp₁, -, -, hkeep⟩ := keysWritten_cases (CreateSEDAValidator_written hs₁)
  obtain ⟨valAddr', hdec', -, -, rfl⟩ := hsdk.createValidator_eq_ok s₁ msg s' hcreate
  -- SDK が validator を足す byte 列は、鍵を書いた byte 列と同じである
  obtain rfl : valAddr' = valAddr := Except.ok.inj (hdec'.symm.trans hdec)
  intro hact' k v hv hj
  simp only [KeyMap.get?_set] at hv
  have hactS : s.IsProvingSchemeActivated SEDAKeyIndexSecp256k1 = .ok true := by
    rw [IsProvingSchemeActivated_eq_ok] at hact' ⊢
    simpa [hp₁] using hact'
  split at hv
  · next hk =>
    -- 新しい validator：scheme が有効なので、鍵を書いた道を通った
    subst hk
    rw [hactS] at hact
    cases hact
    rcases hs₁ with ⟨hkeys, rfl⟩ | ⟨-, hfalse, -⟩
    · obtain ⟨pk, hpk, hi⟩ := exists_index_of_ValidateSEDAPubKeys hkeys
      exact (s.HasRegisteredKey_StoreIndexedPubKeys _ _ _ _).mpr (.inl ⟨rfl, pk, hpk, hi⟩)
    · cases hfalse
  · rw [hv₁] at hv
    exact hkeep k (hc hactS k v hv hj)

/--
`Unjail` は鍵の整合を保つ。scheme が有効なら、address を復号した byte 列の下に鍵を登録した validator
しか戻さず、SDK の `Unjail` が戻すのは同じ byte 列の下の validator である。
-/
theorem Unjail_keysCover (hsdk : sdk.Lawful) {valAddr : String} (hc : KeysCover s)
    (h : Unjail sdk s valAddr = .ok s') : KeysCover s' := by
  obtain ⟨activated, hact, hreg, hunjail⟩ := Unjail_eq_ok.mp h
  obtain ⟨a, w, hdec, -, rfl⟩ := hsdk.unjail_eq_ok s valAddr s' hunjail
  intro hact' k v hv hj
  have hactS : s.IsProvingSchemeActivated SEDAKeyIndexSecp256k1 = .ok true := hact'
  simp only [KeyMap.get?_set] at hv
  split at hv
  · next hk =>
    rw [hactS] at hact
    cases hact
    obtain ⟨a', hdec', hk'⟩ := hreg rfl
    obtain rfl : a' = a := Except.ok.inj (hdec'.symm.trans hdec)
    rw [hk]
    exact hk'
  · exact hc hactS k v hv hj

theorem UpdateParams_keysCover {authority msgAuthority : String} {params : Params} (hc : KeysCover s)
    (h : UpdateParams authority s msgAuthority params = .ok s') : KeysCover s' := by
  obtain ⟨-, -, rfl⟩ := UpdateParams_eq_ok.mp h
  exact hc

/-- SDK の `Jail` は、jail されていない validator を増やさないので、鍵の整合を保つ。 -/
theorem Jail_keysCover (hsdk : sdk.Lawful) {consAddr : Bytes} (hc : KeysCover s)
    (h : sdk.Jail s consAddr = .ok s') : KeysCover s' := by
  obtain ⟨k, v, -, -, rfl⟩ := hsdk.jail_eq_ok s consAddr s' h
  refine hc.of_le rfl (fun _ hk => hk) (fun k' v' hv' hj => ?_)
  simp only [KeyMap.get?_set] at hv'
  split at hv'
  · cases hv'
    cases hj
  · exact ⟨v', hv', hj⟩

end SedaChain.Pubkey
