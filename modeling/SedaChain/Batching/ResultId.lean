import SedaChain.Batching.DataResult
import SedaChain.Infra.Go

/-!
# data result の ID が束縛するもの

`TryHash` が hash する byte 列は、復号した field の組（`IdFields`）を固定の並びに書いたもの
（`IdFields.encode`）であり（`hashContent_eq_map`）、ID はその Keccak-256 の 16 進である。

* Keccak の出力が 32 byte で、二つの data result について hash に渡す byte 列の間に衝突が
  無ければ、ID が等しいことと `IdFields` が等しいことは同値である（`TryHash_eq_iff_idFields`）
* `IdFields` が読むのは version、`DrId` の復号、consensus、**終了コードの下 8 bit**、result、
  block height、timestamp、**gas の絶対値**（nil は 0）、payback address と payload の復号である
* したがって終了コードが 256 の倍数だけ違う二つの data result は同じ ID を持つ
  （`TryHash_exitCode_collision`）

Keccak-256 は全域で単射ではありえない（出力が 32 byte）ので、衝突が無いことは hash に渡す
有限個の byte 列（`hashedInputs`）の上でだけ仮定する。
-/

namespace SedaChain.Batching

open Infra Infra.Go

/-! ## ID が読む field -/

/-- gas の表記に書かれる値。`big.Int.Bytes()` は絶対値を書き、nil は 0 になる。 -/
def gasMagnitude (g : Option Int) : Nat :=
  (g.map Int.natAbs).getD 0

/-- gas を 128 bit に収まる値として読む。収まらなければ `gasUsedBytes` と同じ誤りになる。 -/
def gasUsedValue (g : Option Int) : Except String { n : Nat // n < 2 ^ 128 } :=
  if h : gasMagnitude g < 2 ^ 128 then .ok ⟨gasMagnitude g, h⟩
  else .error "math.Int too large for u128"

/-- ID が読む field の組。gas は 128 bit に収まる。 -/
@[ext] structure IdFields where
  Version : String
  DrId : Bytes
  Consensus : Bool
  ExitCode : UInt8
  Result : Bytes
  BlockHeight : UInt64
  BlockTimestamp : UInt64
  GasUsed : Nat
  gasUsed_lt : GasUsed < 2 ^ 128
  PaybackAddress : Bytes
  SedaPayload : Bytes

/-- data result から ID が読む field を、`TryHash` と同じ順に復号して取り出す。 -/
def DataResult.idFields (dr : DataResult) : Except String IdFields := do
  let drIDBytes ← decodeHex dr.DrId
  let gas ← gasUsedValue dr.GasUsed
  let paybackAddrBytes ← decodeBase64 dr.PaybackAddress
  let payloadBytes ← decodeBase64 dr.SedaPayload
  pure
    { Version := dr.Version
      DrId := drIDBytes
      Consensus := dr.Consensus
      ExitCode := UInt8.ofNat dr.ExitCode.toNat
      Result := dr.Result
      BlockHeight := dr.BlockHeight
      BlockTimestamp := dr.BlockTimestamp
      GasUsed := gas.1
      gasUsed_lt := gas.2
      PaybackAddress := paybackAddrBytes
      SedaPayload := payloadBytes }

variable (keccak : Bytes → Bytes)

/-- field の組を hash する並びに書く。 -/
def IdFields.encode (f : IdFields) : Bytes :=
  keccak (strBytes f.Version) ++ f.DrId ++ [if f.Consensus then 1 else 0] ++ [f.ExitCode] ++
    keccak f.Result ++ putUint64 f.BlockHeight.toNat ++ putUint64 f.BlockTimestamp.toNat ++
    putUintBE 16 f.GasUsed ++ keccak f.PaybackAddress ++ keccak f.SedaPayload

/-- ID を計算するときに Keccak に渡す byte 列。 -/
def IdFields.hashed (f : IdFields) : List Bytes :=
  [strBytes f.Version, f.Result, f.PaybackAddress, f.SedaPayload, f.encode keccak]

/-- data result の ID を計算するときに Keccak に渡す byte 列。復号に失敗すれば何も渡さない。 -/
def DataResult.hashedInputs (dr : DataResult) : List Bytes :=
  match dr.idFields with
  | .ok f => f.hashed keccak
  | .error _ => []

/--
二つの data result が、ID の読む field で一致すること。終了コードは下 8 bit で、gas は絶対値で
比べ、`DrId`、payback address、payload は復号した byte 列で比べる。
-/
def SameIdFields (dr₁ dr₂ : DataResult) : Prop :=
  dr₁.Version = dr₂.Version ∧ decodeHex dr₁.DrId = decodeHex dr₂.DrId ∧
    dr₁.Consensus = dr₂.Consensus ∧ dr₁.ExitCode.toNat % 256 = dr₂.ExitCode.toNat % 256 ∧
    dr₁.Result = dr₂.Result ∧ dr₁.BlockHeight = dr₂.BlockHeight ∧
    dr₁.BlockTimestamp = dr₂.BlockTimestamp ∧ gasMagnitude dr₁.GasUsed = gasMagnitude dr₂.GasUsed ∧
    decodeBase64 dr₁.PaybackAddress = decodeBase64 dr₂.PaybackAddress ∧
    decodeBase64 dr₁.SedaPayload = decodeBase64 dr₂.SedaPayload

/-! ## 復号と hash する byte 列 -/

theorem gasUsedBytes_eq_map (g : Option Int) :
    gasUsedBytes g = (gasUsedValue g).map fun n => putUintBE 16 n.1 := by
  unfold gasUsedValue
  cases g with
  | none => simp [gasUsedBytes, gasMagnitude, Except.map]
  | some g =>
    have hm : gasMagnitude (some g) = g.natAbs := rfl
    rw [gasUsedBytes, hm]
    by_cases hg : g.natAbs < 2 ^ 128
    · rw [if_pos hg, dif_pos hg]
      rfl
    · rw [if_neg hg, dif_neg hg]
      rfl

/-- **`TryHash` が hash する byte 列は、`IdFields` を並びに書いたものである。** -/
theorem hashContent_eq_map (dr : DataResult) :
    hashContent keccak dr = dr.idFields.map (IdFields.encode keccak) := by
  unfold hashContent DataResult.idFields
  rw [gasUsedBytes_eq_map]
  -- 四つの復号の成否で場合を分ける。どれかが失敗すれば両辺とも同じ誤りになる
  cases decodeHex dr.DrId with
  | error e => rfl
  | ok drID =>
    cases gasUsedValue dr.GasUsed with
    | error e => rfl
    | ok gas =>
      cases decodeBase64 dr.PaybackAddress with
      | error e => rfl
      | ok pay =>
        cases decodeBase64 dr.SedaPayload with
        | error e => rfl
        | ok payload => rfl

theorem TryHash_eq_ok {dr : DataResult} {id : String} :
    dr.TryHash keccak = .ok id ↔
      ∃ f, dr.idFields = .ok f ∧ id = hexEncode (keccak (f.encode keccak)) := by
  unfold DataResult.TryHash
  rw [hashContent_eq_map]
  cases dr.idFields with
  | error e => simp [Except.map]
  | ok f =>
    simp only [Except.map, Except.ok.injEq, exists_eq_left']
    exact eq_comm

theorem idFields_eq_ok {dr : DataResult} {f : IdFields} (h : dr.idFields = .ok f) :
    f.Version = dr.Version ∧ decodeHex dr.DrId = .ok f.DrId ∧ f.Consensus = dr.Consensus ∧
      f.ExitCode = UInt8.ofNat dr.ExitCode.toNat ∧ f.Result = dr.Result ∧
      f.BlockHeight = dr.BlockHeight ∧ f.BlockTimestamp = dr.BlockTimestamp ∧
      f.GasUsed = gasMagnitude dr.GasUsed ∧ decodeBase64 dr.PaybackAddress = .ok f.PaybackAddress ∧
      decodeBase64 dr.SedaPayload = .ok f.SedaPayload := by
  unfold DataResult.idFields at h
  obtain ⟨drID, hid, h⟩ := bind_eq_ok.mp h
  obtain ⟨gas, hgas, h⟩ := bind_eq_ok.mp h
  obtain ⟨pay, hpay, h⟩ := bind_eq_ok.mp h
  obtain ⟨payload, hpayload, h⟩ := bind_eq_ok.mp h
  cases h
  unfold gasUsedValue at hgas
  split at hgas
  · cases hgas
    exact ⟨rfl, hid, rfl, rfl, rfl, rfl, rfl, rfl, hpay, hpayload⟩
  · cases hgas

/-! ## 並びの単射性 -/

section Binding

variable {keccak}

/--
**出力が 32 byte の hash が field の hash の間で衝突しなければ、並びは単射である。**
`DrId` だけが可変長で、その後ろの field はどれも固定幅なので、後ろから剥がすと一意に読める。
-/
theorem IdFields.encode_inj (hlen : ∀ b, (keccak b).length = 32) {f g : IdFields}
    (hinj : Set.InjOn keccak {b | b ∈ f.hashed keccak ∨ b ∈ g.hashed keccak})
    (h : f.encode keccak = g.encode keccak) : f = g := by
  unfold IdFields.encode at h
  obtain ⟨h, hPayload⟩ := List.append_inj' h (by simp [hlen])
  obtain ⟨h, hPayback⟩ := List.append_inj' h (by simp [hlen])
  obtain ⟨h, hGas⟩ := List.append_inj' h (by simp)
  obtain ⟨h, hTimestamp⟩ := List.append_inj' h (by simp [putUint64])
  obtain ⟨h, hHeight⟩ := List.append_inj' h (by simp [putUint64])
  obtain ⟨h, hResult⟩ := List.append_inj' h (by simp [hlen])
  obtain ⟨h, hExit⟩ := List.append_inj' h rfl
  obtain ⟨h, hConsensus⟩ := List.append_inj' h rfl
  -- 残るのは version の hash と `DrId` で、前の hash が 32 byte なので境目が決まる
  obtain ⟨hVersion, hDrId⟩ := List.append_inj h (by simp [hlen])
  -- hash の等しさを衝突の無いことで中身の等しさに戻す
  have unhash : ∀ {x y}, x ∈ f.hashed keccak → y ∈ g.hashed keccak → keccak x = keccak y → x = y :=
    fun hx hy hxy => hinj (Or.inl hx) (Or.inr hy) hxy
  have eVersion := strBytes_injective (unhash (by simp [IdFields.hashed]) (by simp [IdFields.hashed])
    hVersion)
  have eResult := unhash (by simp [IdFields.hashed]) (by simp [IdFields.hashed]) hResult
  have ePayback := unhash (by simp [IdFields.hashed]) (by simp [IdFields.hashed]) hPayback
  have ePayload := unhash (by simp [IdFields.hashed]) (by simp [IdFields.hashed]) hPayload
  have eHeight := putUint64_inj hHeight
  have eTimestamp := putUint64_inj hTimestamp
  have eGas := putUintBE_inj (by simpa using f.gasUsed_lt) (by simpa using g.gasUsed_lt) hGas
  have eExit : f.ExitCode = g.ExitCode := List.singleton_inj.mp hExit
  have eConsensus : f.Consensus = g.Consensus := by
    have hc := List.singleton_inj.mp hConsensus
    revert hc
    cases f.Consensus <;> cases g.Consensus <;> decide
  exact IdFields.ext eVersion hDrId eConsensus eExit eResult eHeight eTimestamp eGas ePayback
    ePayload

/-- 復号した field の組が等しいことは、data result が ID の読む field で一致することである。 -/
theorem idFields_eq_iff {dr₁ dr₂ : DataResult} {f₁ f₂ : IdFields} (h₁ : dr₁.idFields = .ok f₁)
    (h₂ : dr₂.idFields = .ok f₂) : f₁ = f₂ ↔ SameIdFields dr₁ dr₂ := by
  obtain ⟨v₁, d₁, c₁, e₁, r₁, bh₁, bt₁, g₁, p₁, s₁⟩ := idFields_eq_ok h₁
  obtain ⟨v₂, d₂, c₂, e₂, r₂, bh₂, bt₂, g₂, p₂, s₂⟩ := idFields_eq_ok h₂
  -- 終了コードは `UInt8.ofNat` を通るので、等しいのは 256 で割った余りが等しいときである
  have hexit : f₁.ExitCode = f₂.ExitCode ↔ dr₁.ExitCode.toNat % 256 = dr₂.ExitCode.toNat % 256 := by
    rw [e₁, e₂, ← UInt8.toNat_inj, UInt8.toNat_ofNat', UInt8.toNat_ofNat']
  rw [SameIdFields, IdFields.ext_iff, hexit, d₁, d₂, p₁, p₂, s₁, s₂, v₁, v₂, c₁, c₂, r₁, r₂, bh₁, bh₂,
    bt₁, bt₂, g₁, g₂]
  simp only [Except.ok.injEq]

/-- 復号に成功すれば、Keccak に渡すのは field の組の hash する byte 列である。 -/
theorem hashedInputs_of_idFields {dr : DataResult} {f : IdFields} (h : dr.idFields = .ok f) :
    dr.hashedInputs keccak = f.hashed keccak := by
  rw [DataResult.hashedInputs, h]

/--
ID が等しいことは、復号した field の組が等しいことと同値である。ID の 16 進表記と最後の hash を
外し、並びの単射性（`IdFields.encode_inj`）に帰着する。
-/
theorem TryHash_eq_iff_idFields (hlen : ∀ b, (keccak b).length = 32) {dr₁ dr₂ : DataResult}
    {f₁ f₂ : IdFields} (h₁ : dr₁.idFields = .ok f₁) (h₂ : dr₂.idFields = .ok f₂)
    (hinj : Set.InjOn keccak {b | b ∈ f₁.hashed keccak ∨ b ∈ f₂.hashed keccak}) :
    dr₁.TryHash keccak = dr₂.TryHash keccak ↔ f₁ = f₂ := by
  have ht₁ := (TryHash_eq_ok keccak).mpr ⟨f₁, h₁, rfl⟩
  have ht₂ := (TryHash_eq_ok keccak).mpr ⟨f₂, h₂, rfl⟩
  rw [ht₁, ht₂, Except.ok.injEq]
  constructor
  · intro hid
    have hk := hexEncode_injective hid
    have henc : f₁.encode keccak = f₂.encode keccak :=
      hinj (Or.inl (by simp [IdFields.hashed])) (Or.inr (by simp [IdFields.hashed])) hk
    exact IdFields.encode_inj hlen hinj henc
  · rintro rfl
    rfl

/--
**data result の ID は、ID の読む field を束縛する。** Keccak の出力が 32 byte で、二つの
data result の ID を計算するときに Keccak に渡す byte 列の間に衝突が無ければ、`TryHash` が
成功した二つの data result の ID が等しいのは、version、`DrId` の byte 列、consensus、
終了コードの下 8 bit、result、block height、timestamp、gas の絶対値、payback address と
payload の byte 列が一致するときに限る。
-/
theorem data_result_id_binds (hlen : ∀ b, (keccak b).length = 32) {dr₁ dr₂ : DataResult}
    {id₁ id₂ : String} (h₁ : dr₁.TryHash keccak = .ok id₁) (h₂ : dr₂.TryHash keccak = .ok id₂)
    (hinj : Set.InjOn keccak {b | b ∈ dr₁.hashedInputs keccak ∨ b ∈ dr₂.hashedInputs keccak}) :
    id₁ = id₂ ↔ SameIdFields dr₁ dr₂ := by
  obtain ⟨f₁, hf₁, -⟩ := (TryHash_eq_ok keccak).mp h₁
  obtain ⟨f₂, hf₂, -⟩ := (TryHash_eq_ok keccak).mp h₂
  rw [hashedInputs_of_idFields hf₁, hashedInputs_of_idFields hf₂] at hinj
  have hid : id₁ = id₂ ↔ dr₁.TryHash keccak = dr₂.TryHash keccak := by
    rw [h₁, h₂, Except.ok.injEq]
  rw [hid, TryHash_eq_iff_idFields hlen hf₁ hf₂ hinj, idFields_eq_iff hf₁ hf₂]

end Binding

/-! ## 終了コードの上位の bit -/

/-- 32 byte の出力を持つ見本の hash。入力の長さだけを読む。 -/
def lengthDigest (b : Bytes) : Bytes := List.replicate 32 (UInt8.ofNat b.length)

/--
`data_result_id_binds` の仮定は満たせる：見本の hash で、終了コード 1 と 257 の data result は
ID が等しく、ID の読む field でも一致する。
-/
theorem data_result_id_binds_exitCode :
    ∃ id₁ id₂, ({ DataResult.zero with ExitCode := 1 }).TryHash lengthDigest = .ok id₁ ∧
      ({ DataResult.zero with ExitCode := 257 }).TryHash lengthDigest = .ok id₂ ∧
      (id₁ = id₂ ↔ SameIdFields { DataResult.zero with ExitCode := 1 }
        { DataResult.zero with ExitCode := 257 }) := by
  have hlen : ∀ b, (lengthDigest b).length = 32 := fun b => List.length_replicate
  -- 二つの data result は同じ field の組に復号される
  let f : IdFields :=
    { Version := "", DrId := [], Consensus := false, ExitCode := 1, Result := [], BlockHeight := 0,
      BlockTimestamp := 0, GasUsed := 0, gasUsed_lt := by decide, PaybackAddress := [],
      SedaPayload := [] }
  have h₁ : ({ DataResult.zero with ExitCode := 1 }).idFields = .ok f := rfl
  have h₂ : ({ DataResult.zero with ExitCode := 257 }).idFields = .ok f := rfl
  -- hash に渡すのは空の byte 列と長さ 162 の並びだけなので、見本の hash は長さで区別する
  have hmem : ∀ b ∈ f.hashed lengthDigest, b = [] ∨ b = f.encode lengthDigest := by
    simp [IdFields.hashed, f, strBytes]
  have henc : (f.encode lengthDigest).length = 162 := by
    simp [IdFields.encode, hlen, f, putUint64]
  have hne : lengthDigest [] ≠ lengthDigest (f.encode lengthDigest) := by
    rw [lengthDigest, lengthDigest, henc]
    decide
  have hinj : Set.InjOn lengthDigest {b | b ∈ ({ DataResult.zero with ExitCode := 1 }).hashedInputs
      lengthDigest ∨ b ∈ ({ DataResult.zero with ExitCode := 257 }).hashedInputs lengthDigest} := by
    rw [hashedInputs_of_idFields h₁, hashedInputs_of_idFields h₂]
    simp only [or_self]
    intro a ha b hb hab
    rcases hmem a ha with rfl | rfl <;> rcases hmem b hb with rfl | rfl
    · rfl
    · exact absurd hab hne
    · exact absurd hab.symm hne
    · rfl
  exact ⟨_, _, rfl, rfl, data_result_id_binds hlen rfl rfl hinj⟩

/-- `TryHash` は終了コードを 256 で割った余りしか見ない（1 byte に切り詰める）。 -/
theorem TryHash_exitCode_mod (dr : DataResult) {e₁ e₂ : UInt32}
    (h : e₁.toNat % 256 = e₂.toNat % 256) :
    ({ dr with ExitCode := e₁ }).TryHash keccak = ({ dr with ExitCode := e₂ }).TryHash keccak := by
  have hb : UInt8.ofNat e₁.toNat = UInt8.ofNat e₂.toNat := by
    apply UInt8.toNat_inj.mp
    simpa [UInt8.toNat_ofNat] using h
  unfold DataResult.TryHash hashContent
  simp only [hb]

/--
**終了コードの上位の bit は ID に入らない。** `TryHash` は `uint32` の終了コードを 1 byte に
切り詰めるので、hash を恒等写像にしても、終了コード 1 と 257 の data result は `TryHash` に成功し、
同じ ID を持つ。衝突は hash ではなく、hash に渡す byte 列で起きている。
-/
theorem TryHash_exitCode_collision :
    ({ DataResult.zero with ExitCode := 1 }).ExitCode ≠
        ({ DataResult.zero with ExitCode := 257 }).ExitCode ∧
      (∃ i, ({ DataResult.zero with ExitCode := 1 }).TryHash (fun b => b) = .ok i) ∧
      ({ DataResult.zero with ExitCode := 1 }).TryHash (fun b => b) =
        ({ DataResult.zero with ExitCode := 257 }).TryHash (fun b => b) :=
  ⟨by decide, ⟨_, rfl⟩, TryHash_exitCode_mod (fun b => b) _ (by decide)⟩

end SedaChain.Batching
