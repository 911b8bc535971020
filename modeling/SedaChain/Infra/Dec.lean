import SedaChain.Infra.Go

/-!
# 固定小数点の十進数（`math.LegacyDec`）

`LegacyDec` は整数 `i` で `i / 10¹⁸` を表す。足し算、引き算、比べることと `MulInt` は `i` の上で
正確である。割り算 `Quo` は `10³⁶` を掛けてから 0 に向けて切り捨てて割り、最後の 18 桁を
偶数への丸め（`chopPrecisionAndRound`）で落とす。`TruncateInt` は `10¹⁸` で 0 に向けて切り捨てる。
`big.Int` の桁あふれ（315 bit を超えると panic）は扱わない。

* `chopNat_mono`、`chopNat_mul` — 丸めは単調で、`10¹⁸` の倍数はそのまま割る
* `Quo_nonneg`、`Quo_le_one` — `0 ≤ a ≤ b`、`0 < b` なら、`a / b` は 0 と 1 の間にある
* `TruncateInt_MulInt_le` — 0 と 1 の間の比を掛けて切り捨てた量は、もとの量を超えない
-/

namespace Infra

open Infra.Go

/-- `math.LegacyDec`。値は `i / 10¹⁸` である。 -/
structure LegacyDec where
  i : Int
deriving DecidableEq, Repr

namespace LegacyDec

/-- `LegacyZeroDec`。 -/
def LegacyZeroDec : LegacyDec := ⟨0⟩

/-- `LegacyNewDecFromInt`。 -/
def NewDecFromInt (n : Int) : LegacyDec := ⟨n * 10 ^ 18⟩

def Add (d d2 : LegacyDec) : LegacyDec := ⟨d.i + d2.i⟩

def Sub (d d2 : LegacyDec) : LegacyDec := ⟨d.i - d2.i⟩

def GT (d d2 : LegacyDec) : Bool := decide (d2.i < d.i)

def IsZero (d : LegacyDec) : Bool := decide (d.i = 0)

def IsPositive (d : LegacyDec) : Bool := decide (0 < d.i)

/--
`chopPrecisionAndRound` の非負の場合。`10¹⁸` で割った商と余りを取り、余りが半分より小さければ
切り捨て、大きければ切り上げ、ちょうど半分なら偶数の方へ丸める。
-/
def chopNat (d : Nat) : Nat :=
  let quo := d / 10 ^ 18
  let rem := d % 10 ^ 18
  if rem = 0 then quo
  else if rem < 5 * 10 ^ 17 then quo
  else if 5 * 10 ^ 17 < rem then quo + 1
  else if quo % 2 = 0 then quo else quo + 1

/-- `chopPrecisionAndRound`。負の数は符号を外して丸め、符号を戻す。 -/
def chopPrecisionAndRound (d : Int) : Int :=
  if d < 0 then -((chopNat d.natAbs : Nat) : Int) else (chopNat d.natAbs : Nat)

/-- `Quo`。`10³⁶` を掛けて 0 に向けて切り捨てて割り、18 桁を丸めて落とす。0 で割れば panic する。 -/
def Quo (d d2 : LegacyDec) : Except Fault LegacyDec :=
  if d2.i = 0 then .error (.panic "division by zero")
  else .ok ⟨chopPrecisionAndRound ((d.i * 10 ^ 36).tdiv d2.i)⟩

/-- `MulInt`。 -/
def MulInt (d : LegacyDec) (n : Int) : LegacyDec := ⟨d.i * n⟩

/-- `TruncateInt`。`10¹⁸` で 0 に向けて切り捨てる。 -/
def TruncateInt (d : LegacyDec) : Int := d.i.tdiv (10 ^ 18)

/-! ## 整数の上の計算 -/

@[simp] theorem LegacyZeroDec_i : LegacyZeroDec.i = 0 := rfl
@[simp] theorem Add_i (d d2 : LegacyDec) : (d.Add d2).i = d.i + d2.i := rfl
@[simp] theorem Sub_i (d d2 : LegacyDec) : (d.Sub d2).i = d.i - d2.i := rfl
@[simp] theorem MulInt_i (d : LegacyDec) (n : Int) : (d.MulInt n).i = d.i * n := rfl
@[simp] theorem GT_iff (d d2 : LegacyDec) : d.GT d2 = true ↔ d2.i < d.i := by simp [GT]
@[simp] theorem IsZero_iff (d : LegacyDec) : d.IsZero = true ↔ d.i = 0 := by simp [IsZero]
@[simp] theorem IsPositive_iff (d : LegacyDec) : d.IsPositive = true ↔ 0 < d.i := by simp [IsPositive]
@[simp] theorem GT_eq_false_iff (d d2 : LegacyDec) : d.GT d2 = false ↔ d.i ≤ d2.i := by simp [GT]
@[simp] theorem IsZero_eq_false_iff (d : LegacyDec) : d.IsZero = false ↔ d.i ≠ 0 := by simp [IsZero]
@[simp] theorem IsPositive_eq_false_iff (d : LegacyDec) : d.IsPositive = false ↔ d.i ≤ 0 := by
  simp [IsPositive]

/-! ## 丸め -/

/-- 丸めは切り捨てた商か、それに 1 を足したものである。 -/
theorem chopNat_cases (d : Nat) : chopNat d = d / 10 ^ 18 ∨ chopNat d = d / 10 ^ 18 + 1 := by
  unfold chopNat
  dsimp only
  split_ifs <;> simp

/-- 丸めは単調である。商が違えば切り上げても届かず、商が同じなら余りの大きい方が切り上がる。 -/
theorem chopNat_mono {a b : Nat} (h : a ≤ b) : chopNat a ≤ chopNat b := by
  have hdiv : a / 10 ^ 18 ≤ b / 10 ^ 18 := Nat.div_le_div_right h
  rcases Nat.lt_or_eq_of_le hdiv with hlt | heq
  · rcases chopNat_cases a with ha | ha <;> rcases chopNat_cases b with hb | hb <;> omega
  · -- 商が同じ：余りは `b` の方が大きい
    have hrem : a % 10 ^ 18 ≤ b % 10 ^ 18 := by
      have h₁ := Nat.div_add_mod a (10 ^ 18)
      have h₂ := Nat.div_add_mod b (10 ^ 18)
      rw [heq] at h₁
      omega
    unfold chopNat
    dsimp only
    rw [heq]
    split_ifs <;> omega

/-- `10¹⁸` の倍数は丸めずに割る。 -/
theorem chopNat_mul (n : Nat) : chopNat (n * 10 ^ 18) = n := by
  unfold chopNat
  simp

theorem chopPrecisionAndRound_of_nonneg {d : Int} (h : 0 ≤ d) :
    chopPrecisionAndRound d = (chopNat d.toNat : Nat) := by
  have habs : d.natAbs = d.toNat := by omega
  unfold chopPrecisionAndRound
  rw [if_neg (not_lt.mpr h), habs]

/-! ## 比 -/

/-- 0 以上の量を正の量で割った比は 0 以上である。 -/
theorem Quo_nonneg {a b c : LegacyDec} (ha : 0 ≤ a.i) (hb : 0 < b.i) (h : a.Quo b = .ok c) :
    0 ≤ c.i := by
  unfold Quo at h
  rw [if_neg (by omega)] at h
  cases h
  have hq : 0 ≤ (a.i * 10 ^ 36).tdiv b.i := Int.tdiv_nonneg (by positivity) hb.le
  rw [chopPrecisionAndRound_of_nonneg hq]
  exact Int.natCast_nonneg _

/--
**比は 1 を超えない。** `0 ≤ a ≤ b`、`0 < b` なら `a / b` は `1.0` 以下である。切り捨てた
割り算は `10³⁶` 以下で、丸めは単調で `10³⁶` を `10¹⁸` に写す。
-/
theorem Quo_le_one {a b c : LegacyDec} (ha : 0 ≤ a.i) (hab : a.i ≤ b.i) (hb : 0 < b.i)
    (h : a.Quo b = .ok c) : c.i ≤ 10 ^ 18 := by
  unfold Quo at h
  rw [if_neg (by omega)] at h
  cases h
  have hq₀ : 0 ≤ (a.i * 10 ^ 36).tdiv b.i := Int.tdiv_nonneg (by positivity) hb.le
  -- 切り捨てた割り算は `10³⁶` を超えない
  have hq : (a.i * 10 ^ 36).tdiv b.i ≤ 10 ^ 36 := by
    rw [Int.tdiv_eq_ediv_of_nonneg (by positivity)]
    refine Int.ediv_le_of_le_mul hb ?_
    calc a.i * 10 ^ 36 ≤ b.i * 10 ^ 36 := by gcongr
      _ = 10 ^ 36 * b.i := by ring
  rw [chopPrecisionAndRound_of_nonneg hq₀]
  have hmono := chopNat_mono (show ((a.i * 10 ^ 36).tdiv b.i).toNat ≤ 10 ^ 18 * 10 ^ 18 by omega)
  rw [chopNat_mul] at hmono
  dsimp only
  exact_mod_cast hmono

/-- 0 と `1.0` の間の比を 0 以上の量に掛けて切り捨てると、0 以上で、もとの量を超えない。 -/
theorem TruncateInt_MulInt_le {f : LegacyDec} {n : Int} (hf₀ : 0 ≤ f.i) (hf₁ : f.i ≤ 10 ^ 18)
    (hn : 0 ≤ n) : 0 ≤ (f.MulInt n).TruncateInt ∧ (f.MulInt n).TruncateInt ≤ n := by
  unfold TruncateInt MulInt
  dsimp only
  have hprod : 0 ≤ f.i * n := Int.mul_nonneg hf₀ hn
  rw [Int.tdiv_eq_ediv_of_nonneg hprod]
  refine ⟨Int.ediv_nonneg hprod (by positivity), Int.ediv_le_of_le_mul (by positivity) ?_⟩
  calc f.i * n ≤ 10 ^ 18 * n := Int.mul_le_mul_of_nonneg_right hf₁ hn
    _ = n * 10 ^ 18 := by ring

end LegacyDec

end Infra
