import Mathlib

/-!
# Go の実行時の意味

Go の整数演算と実行時 panic を、Lean の全域関数として表す道具である。

* `uint64` の掛け算と足し算は 2⁶⁴ で折り返す（`mulU64`、`addU64`）。`int64` も同じく
  2⁶⁴ を法として符号付きの範囲に戻す（`addI64` など）
* 0 での割り算と範囲外の添字は panic する（`quo`、`index`）
* panic と返された `error` は `Fault` の二つの構成子で区別する
* `cosmossdk.io/math` の `Int` は 256 bit を超えると panic する（`intMul` など）
* `big.Int.SetString(s, 10)` と、`fmt` の `%v` による表記

失敗しうる計算は `Except Fault` に書き、`bind` の簡約と逆向きの分解
（`bind_eq_ok`）をここで一度だけ示しておく。
-/

namespace Infra.Go

variable {α β ε : Type}

/-! ## 折り返す算術 -/

/-- `uint64` の掛け算。 -/
def mulU64 (a b : Nat) : Nat := a * b % 2 ^ 64

/-- `uint64` の足し算。 -/
def addU64 (a b : Nat) : Nat := (a + b) % 2 ^ 64

theorem mulU64_of_lt {a b : Nat} (h : a * b < 2 ^ 64) : mulU64 a b = a * b :=
  Nat.mod_eq_of_lt h

theorem addU64_of_lt {a b : Nat} (h : a + b < 2 ^ 64) : addU64 a b = a + b :=
  Nat.mod_eq_of_lt h

theorem mulU64_le_mul (a b : Nat) : mulU64 a b ≤ a * b :=
  Nat.mod_le _ _

theorem mulU64_lt (a b : Nat) : mulU64 a b < 2 ^ 64 :=
  Nat.mod_lt _ (Nat.two_pow_pos 64)

theorem addU64_le_add (a b : Nat) : addU64 a b ≤ a + b :=
  Nat.mod_le _ _

theorem addU64_lt (a b : Nat) : addU64 a b < 2 ^ 64 :=
  Nat.mod_lt _ (Nat.two_pow_pos 64)

/-- `uint64` の引き算。引く数の方が大きければ 2⁶⁴ で折り返す。 -/
def subU64 (a b : Nat) : Nat := (a + (2 ^ 64 - b % 2 ^ 64)) % 2 ^ 64

theorem subU64_of_le {a b : Nat} (h : b ≤ a) (ha : a < 2 ^ 64) : subU64 a b = a - b := by
  unfold subU64
  rw [Nat.mod_eq_of_lt (by omega : b < 2 ^ 64)]
  rw [show a + (2 ^ 64 - b) = (a - b) + 2 ^ 64 by omega, Nat.add_mod_right,
    Nat.mod_eq_of_lt (by omega)]

/-- `int(x)`：`uint64` の値を `int`（64 bit）として読む。2⁶³ 以上は負になる。 -/
def uint64ToInt (n : Nat) : Int := if n < 2 ^ 63 then n else (n : Int) - 2 ^ 64

/-! ## `int64` の算術 -/

/-- `int64` への折り返し。2⁶⁴ を法として `[-2⁶³, 2⁶³)` の代表を取る。 -/
def wrapI64 (x : Int) : Int := x.bmod (2 ^ 64)

/-- `int64` の足し算。 -/
def addI64 (a b : Int) : Int := wrapI64 (a + b)

/-- `int64` の掛け算。 -/
def mulI64 (a b : Int) : Int := wrapI64 (a * b)

/-- `int64` の割り算。0 に向けて切り捨てる。折り返すのは `-2⁶³ / -1` だけである。 -/
def quoI64 (a b : Int) : Int := wrapI64 (a.tdiv b)

/-- `int64` の引き算。 -/
def subI64 (a b : Int) : Int := wrapI64 (a - b)

/-- `int64` の符号の反転。`-(-2⁶³)` は折り返して `-2⁶³` に戻る。 -/
def negI64 (a : Int) : Int := wrapI64 (-a)

/-- 範囲に収まる値は折り返しても変わらない。 -/
theorem wrapI64_of_mem {x : Int} (h₁ : -2 ^ 63 ≤ x) (h₂ : x < 2 ^ 63) : wrapI64 x = x := by
  unfold wrapI64
  rw [Int.bmod_def]
  have hmod : x % ((2 ^ 64 : Nat) : Int) = if 0 ≤ x then x else x + 2 ^ 64 := by
    split <;> omega
  omega

/-- 足し算の途中で折り返しても、最後に一度折り返すのと同じである。 -/
@[simp] theorem addI64_wrapI64 (a b : Int) : addI64 (wrapI64 a) b = wrapI64 (a + b) :=
  Int.bmod_add_bmod

theorem addI64_of_mem {a b : Int} (h₁ : -2 ^ 63 ≤ a + b) (h₂ : a + b < 2 ^ 63) :
    addI64 a b = a + b :=
  wrapI64_of_mem h₁ h₂

theorem mulI64_of_mem {a b : Int} (h₁ : -2 ^ 63 ≤ a * b) (h₂ : a * b < 2 ^ 63) :
    mulI64 a b = a * b :=
  wrapI64_of_mem h₁ h₂

theorem quoI64_of_mem {a b : Int} (h₁ : -2 ^ 63 ≤ a.tdiv b) (h₂ : a.tdiv b < 2 ^ 63) :
    quoI64 a b = a.tdiv b :=
  wrapI64_of_mem h₁ h₂

/-! ## 失敗 -/

/-- 実行時 panic か、関数が返した `error` か。 -/
inductive Fault where
  | panic (msg : String)
  | error (msg : String)
deriving DecidableEq, Repr

/-! ## `Except` の `bind` -/

@[simp] theorem ok_bind (a : α) (f : α → Except ε β) : (Except.ok a >>= f) = f a := rfl

@[simp] theorem error_bind (e : ε) (f : α → Except ε β) :
    (Except.error e >>= f : Except ε β) = .error e := rfl

@[simp] theorem mapError_ok {ε' : Type} (f : ε → ε') (a : α) :
    (Except.ok a : Except ε α).mapError f = .ok a := rfl

@[simp] theorem mapError_error {ε' : Type} (f : ε → ε') (e : ε) :
    (Except.error e : Except ε α).mapError f = .error (f e) := rfl

theorem mapError_eq_ok {ε' : Type} {f : ε → ε'} {x : Except ε α} {a : α} :
    x.mapError f = .ok a ↔ x = .ok a := by
  cases x <;> simp [Except.mapError]

@[simp] theorem throw_eq_error (e : ε) : (throw e : Except ε α) = .error e := rfl

@[simp] theorem pure_eq_ok (a : α) : (pure a : Except ε α) = .ok a := rfl

/-- 成功と判定できる計算は、ある値を返す。具体的な入力の計算を `decide` で確かめ、その値に名前を付ける。 -/
theorem exists_ok_of_isOk {x : Except ε α} (h : x.isOk = true) : ∃ a, x = .ok a := by
  cases x with
  | error e => cases h
  | ok a => exact ⟨a, rfl⟩

/-- 成功した `bind` は、前半の成功と後半の成功に分かれる。 -/
theorem bind_eq_ok {x : Except ε α} {f : α → Except ε β} {b : β} :
    x >>= f = .ok b ↔ ∃ a, x = .ok a ∧ f a = .ok b := by
  cases x with
  | error e => simp
  | ok a => simp

/--
観測 `f` の下で等しい二つの計算に、観測の等しい値から等しい結果を作る続きを繋げば、
結果は等しい。
-/
theorem bind_eq_of_map_eq {γ : Type} {f : α → γ} {x y : Except ε α} {g g' : α → Except ε β}
    (hxy : x.map f = y.map f) (hg : ∀ a b, f a = f b → g a = g' b) : x >>= g = y >>= g' := by
  cases x with
  | error e =>
    cases y with
    | error e' => cases hxy; rfl
    | ok b => cases hxy
  | ok a =>
    cases y with
    | error e' => cases hxy
    | ok b => exact hg a b (Except.ok.inj hxy)

/-- `bind_eq_of_map_eq` の、結果も観測 `h` で比べる形。 -/
theorem map_bind_eq_of_map_eq {γ δ : Type} {f : α → γ} {h : β → δ} {x y : Except ε α}
    {g g' : α → Except ε β} (hxy : x.map f = y.map f)
    (hg : ∀ a b, f a = f b → (g a).map h = (g' b).map h) : (x >>= g).map h = (y >>= g').map h := by
  cases x with
  | error e =>
    cases y with
    | error e' => cases hxy; rfl
    | ok b => cases hxy
  | ok a =>
    cases y with
    | error e' => cases hxy
    | ok b => exact hg a b (Except.ok.inj hxy)

/-- 整数の割り算。0 で割ると panic する。 -/
def quo (a b : Nat) : Except Fault Nat :=
  if b = 0 then .error (.panic "runtime error: integer divide by zero") else .ok (a / b)

/-- 添字 `xs[i]`。範囲外（負を含む）は panic する。 -/
def index (xs : List α) (i : Int) : Except Fault α :=
  if h : 0 ≤ i ∧ i.toNat < xs.length then .ok (xs.get ⟨i.toNat, h.2⟩)
  -- 負の添字の panic は長さを書かない（Go の `boundsNegErrorFmt`）
  else if i < 0 then .error (.panic s!"runtime error: index out of range [{i}]")
  else .error (.panic s!"runtime error: index out of range [{i}] with length {xs.length}")

/-- `math.Int.Uint64()`。`uint64` に収まらなければ panic する。 -/
def intUint64 (x : Int) : Except Fault Nat :=
  if 0 ≤ x ∧ x < 2 ^ 64 then .ok x.toNat else .error (.panic "Uint64() out of bounds")

theorem quo_of_pos {a b : Nat} (h : 0 < b) : quo a b = .ok (a / b) := by
  simp [quo, Nat.pos_iff_ne_zero.mp h]

theorem quo_zero (a : Nat) : quo a 0 = .error (.panic "runtime error: integer divide by zero") := by
  simp [quo]

theorem index_of_lt {xs : List α} {i : Nat} (h : i < xs.length) :
    index xs i = .ok (xs.get ⟨i, h⟩) := by
  simp [index, h]

theorem intUint64_of_lt {x : Nat} (h : x < 2 ^ 64) : intUint64 x = .ok x := by
  have h' : (x : Int) < 2 ^ 64 := by exact_mod_cast h
  rw [intUint64, if_pos ⟨Int.natCast_nonneg x, h'⟩, Int.toNat_natCast]

theorem quo_eq_ok {a b c : Nat} : quo a b = .ok c ↔ 0 < b ∧ c = a / b := by
  unfold quo
  split
  · next h => simp [h]
  · next h => simp [Nat.pos_iff_ne_zero.mpr h, eq_comm]

theorem mem_of_index_eq_ok {xs : List α} {i : Int} {x : α} (h : index xs i = .ok x) : x ∈ xs := by
  unfold index at h
  split at h
  · cases h; exact List.get_mem _ _
  · split at h <;> cases h

/-- 成功した添字は非負で、列のその位置を読む。 -/
theorem getElem?_of_index_eq_ok {xs : List α} {i : Int} {x : α} (h : index xs i = .ok x) :
    0 ≤ i ∧ xs[i.toNat]? = some x := by
  unfold index at h
  split at h
  · next hi =>
    cases h
    exact ⟨hi.1, List.getElem?_eq_getElem hi.2⟩
  · split at h <;> cases h

theorem intUint64_eq_ok {x : Int} {n : Nat} (h : intUint64 x = .ok n) : (n : Int) = x ∧ n < 2 ^ 64 := by
  unfold intUint64 at h
  split at h
  · next hx =>
    cases h
    exact ⟨Int.toNat_of_nonneg hx.1, by omega⟩
  · cases h

/-- `mapM` が成功すれば、結果は入力と同じ長さで、各要素は対応する入力の像である。 -/
theorem mapM_eq_ok {f : α → Except ε β} :
    ∀ {l : List α} {l' : List β}, l.mapM f = .ok l' → List.Forall₂ (fun a b => f a = .ok b) l l'
  | [], l', h => by
    simp only [List.mapM_nil] at h
    cases h; exact .nil
  | a :: l, l', h => by
    simp only [List.mapM_cons] at h
    obtain ⟨b, hb, h⟩ := bind_eq_ok.mp h
    obtain ⟨bs, hbs, h⟩ := bind_eq_ok.mp h
    cases h
    exact .cons hb (mapM_eq_ok hbs)

/-- `mapM` の結果の各要素は、入力のどれかの像である。 -/
theorem exists_of_mapM_eq_ok {f : α → Except ε β} {l : List α} {l' : List β}
    (h : l.mapM f = .ok l') : ∀ b ∈ l', ∃ a ∈ l, f a = .ok b := by
  have hf := mapM_eq_ok h
  clear h
  induction hf with
  | nil => intro b hb; cases hb
  | cons hab _ ih =>
    intro b hb
    rcases List.mem_cons.mp hb with rfl | hb
    · exact ⟨_, List.mem_cons_self, hab⟩
    · obtain ⟨a, ha, hfa⟩ := ih b hb
      exact ⟨a, List.mem_cons_of_mem _ ha, hfa⟩

/-- 各要素で `g` の値を返す関数の `mapM` は、`g` で写した列を返す。 -/
theorem mapM_eq_ok_map {f : α → Except ε β} {g : α → β} :
    ∀ {l : List α}, (∀ a ∈ l, f a = .ok (g a)) → l.mapM f = .ok (l.map g)
  | [], _ => rfl
  | a :: l, h => by
    simp only [List.mapM_cons, List.map_cons, h a List.mem_cons_self,
      mapM_eq_ok_map (fun a' ha' => h a' (List.mem_cons_of_mem _ ha'))]
    rfl

/-- 各段が不変条件 `P` のもとで成功して `P` を保つなら、`foldlM` は最後まで成功し、`P` を保つ。 -/
theorem foldlM_eq_ok_of_step {f : β → α → Except ε β} (P : β → Prop)
    (hstep : ∀ b a, P b → ∃ b', f b a = .ok b' ∧ P b') :
    ∀ (l : List α) (b : β), P b → ∃ b', l.foldlM f b = .ok b' ∧ P b'
  | [], b, hb => ⟨b, rfl, hb⟩
  | a :: l, b, hb => by
    obtain ⟨b₁, h₁, hb₁⟩ := hstep b a hb
    obtain ⟨b', h', hb'⟩ := foldlM_eq_ok_of_step P hstep l b₁ hb₁
    exact ⟨b', by rw [List.foldlM_cons, h₁, ok_bind, h'], hb'⟩

/-! ## 列の走査 -/

/-- `slices.IsSortedFunc`。隣り合う二つで、後ろを前と比べた値が負になることがない。 -/
def IsSortedFunc (cmp : α → α → Int) : List α → Bool
  | a :: b :: l => !decide (cmp b a < 0) && IsSortedFunc cmp (b :: l)
  | _ => true

/-- `Except` の `forM` は、どの要素でも成功するときに限り成功する。 -/
theorem forM_eq_ok_iff {f : α → Except ε Unit} :
    ∀ {l : List α}, l.forM f = .ok () ↔ ∀ a ∈ l, f a = .ok ()
  | [] => by simp
  | a :: l => by
    show (f a >>= fun _ => l.forM f) = .ok () ↔ _
    rw [List.forall_mem_cons]
    cases hf : f a with
    | error e => simp only [error_bind, reduceCtorEq, false_and]
    | ok u => simpa using forM_eq_ok_iff

/-! ## `math.Int`

`cosmossdk.io/math` の `Int` は `big.Int` の包みで、演算の結果の bit 長が 256 を超えると
panic する（`ErrIntOverflow`）。割り算は 0 に向けて切り捨て、0 で割ると panic する。
-/

/-- `math.Int` の bit 長の上限 `MaxBitLen`。 -/
def intMaxBitLen : Nat := 256

/-- 結果が 256 bit に収まれば返し、そうでなければ panic する。 -/
def intChecked (x : Int) : Except Fault Int :=
  if x.natAbs < 2 ^ intMaxBitLen then .ok x else .error (.panic "integer overflow")

/-- `Int.Mul`。 -/
def intMul (a b : Int) : Except Fault Int := intChecked (a * b)

/-- `Int.Add`。 -/
def intAdd (a b : Int) : Except Fault Int := intChecked (a + b)

/-- `Int.Sub`。 -/
def intSub (a b : Int) : Except Fault Int := intChecked (a - b)

/-- `Int.Quo`。0 に向けて切り捨てる。 -/
def intQuo (a b : Int) : Except Fault Int :=
  if b = 0 then .error (.panic "Division by zero") else .ok (a.tdiv b)

theorem intChecked_of_lt {x : Int} (h : x.natAbs < 2 ^ intMaxBitLen) : intChecked x = .ok x :=
  if_pos h

theorem intChecked_eq_ok {x y : Int} : intChecked x = .ok y ↔ x = y ∧ x.natAbs < 2 ^ intMaxBitLen := by
  unfold intChecked
  split
  · next h => simp [h]
  · next h => simp [h]

theorem intQuo_of_ne {a b : Int} (h : b ≠ 0) : intQuo a b = .ok (a.tdiv b) := if_neg h

theorem intMul_eq_ok {a b x : Int} (h : intMul a b = .ok x) : x = a * b :=
  (intChecked_eq_ok.mp h).1.symm

theorem intAdd_eq_ok {a b x : Int} (h : intAdd a b = .ok x) : x = a + b :=
  (intChecked_eq_ok.mp h).1.symm

theorem intSub_eq_ok {a b x : Int} (h : intSub a b = .ok x) : x = a - b :=
  (intChecked_eq_ok.mp h).1.symm

theorem intQuo_eq_ok {a b x : Int} (h : intQuo a b = .ok x) : b ≠ 0 ∧ x = a.tdiv b := by
  unfold intQuo at h
  split at h
  · cases h
  · next hb => cases h; exact ⟨hb, rfl⟩

/-- 積の絶対値の bit 長は、二つの bit 長の和以下である。 -/
theorem natAbs_mul_lt {a b : Int} {m n : Nat} (ha : a.natAbs < 2 ^ m) (hb : b.natAbs < 2 ^ n) :
    (a * b).natAbs < 2 ^ (m + n) := by
  rw [Int.natAbs_mul, Nat.pow_add]
  exact Nat.mul_lt_mul'' ha hb

/-- 絶対値が `2^128` 未満の二つの値の積は 256 bit に収まる。 -/
theorem intMul_of_natAbs_lt {a b : Int} (ha : a.natAbs < 2 ^ 128) (hb : b.natAbs < 2 ^ 128) :
    intMul a b = .ok (a * b) :=
  intChecked_of_lt (natAbs_mul_lt ha hb)

/-- 絶対値が `2^255` 未満の二つの値の和と差は 256 bit に収まる。 -/
theorem intAdd_of_natAbs_lt {a b : Int} (ha : a.natAbs < 2 ^ 255) (hb : b.natAbs < 2 ^ 255) :
    intAdd a b = .ok (a + b) :=
  intChecked_of_lt (by rw [intMaxBitLen]; omega)

theorem intSub_of_natAbs_lt {a b : Int} (ha : a.natAbs < 2 ^ 255) (hb : b.natAbs < 2 ^ 255) :
    intSub a b = .ok (a - b) :=
  intChecked_of_lt (by rw [intMaxBitLen]; omega)

/-- `uint64` から作った二つの値の積と和は 256 bit に収まる。 -/
theorem intMul_natCast_of_lt {a b : Nat} (ha : a < 2 ^ 64) (hb : b < 2 ^ 64) :
    intMul a b = .ok ((a * b : Nat) : Int) := by
  rw [intMul_of_natAbs_lt (by omega) (by omega)]
  push_cast
  rfl

theorem intAdd_natCast_of_lt {a b : Nat} (ha : a < 2 ^ 64) (hb : b < 2 ^ 64) :
    intAdd a b = .ok ((a + b : Nat) : Int) := by
  rw [intAdd_of_natAbs_lt (by omega) (by omega)]
  push_cast
  rfl

/-- 自然数どうしの `Quo` は自然数の割り算である。 -/
theorem intQuo_natCast {a c : Nat} (hc : c ≠ 0) : intQuo a c = .ok ((a / c : Nat) : Int) := by
  rw [intQuo_of_ne (by exact_mod_cast hc), Int.ofNat_tdiv]

/-! ## 文字列との変換 -/

/-- 10 進数字の列を左から読む。数字でない文字があれば `none`。 -/
def decimalDigits : List Char → Nat → Option Nat
  | [], acc => some acc
  | c :: cs, acc => if c.isDigit then decimalDigits cs (acc * 10 + (c.toNat - 48)) else none

/-- 符号の後の数字の列。空なら `none`（`errNoDigits`）。 -/
def decimalValue (ds : List Char) : Option Nat :=
  if ds = [] then none else decimalDigits ds 0

/--
`big.Int.SetString(s, 10)`。符号 `+` か `-` を一つ前に置けて、残りは全部 10 進数字。
基数が 10 と決まっているので接頭辞も `_` も受けない。
-/
def setString10 (s : String) : Option Int :=
  match s.toList with
  | '+' :: ds => (decimalValue ds).map Int.ofNat
  | '-' :: ds => (decimalValue ds).map fun n => -(n : Int)
  | ds => (decimalValue ds).map Int.ofNat

example : setString10 "-120" = some (-120) := by decide
example : setString10 "1_0" = none := by decide

/-- `fmt` の `%v` による `[]string` の表記。要素を空白で区切り角括弧で囲む。 -/
def fmtStrings (xs : List String) : String := "[" ++ " ".intercalate xs ++ "]"

theorem intercalate_cons_ne_nil {α : Type} (sep m : List α) (rest : List (List α)) (hm : m ≠ []) :
    sep.intercalate (m :: rest) ≠ [] := by
  cases rest with
  | nil => simpa using hm
  | cons n rest => simp [List.intercalate_cons_cons, hm]

/-- 区切りを含まない空でない列を、一つの区切りで繋いだものは、元の列の列を決める。 -/
theorem intercalate_singleton_inj {α : Type} [DecidableEq α] {x : α} {ls ms : List (List α)}
    (hl : ∀ l ∈ ls, l ≠ [] ∧ x ∉ l) (hm : ∀ m ∈ ms, m ≠ [] ∧ x ∉ m)
    (h : [x].intercalate ls = [x].intercalate ms) : ls = ms := by
  -- 空の列は空に繋がるので、片方だけ空なら先頭の要素が空でないことに反する
  cases ls with
  | nil =>
    cases ms with
    | nil => rfl
    | cons m ms =>
      exact absurd h.symm (intercalate_cons_ne_nil _ m ms (hm m List.mem_cons_self).1)
  | cons l ls =>
    cases ms with
    | nil => exact absurd h (intercalate_cons_ne_nil _ l ls (hl l List.mem_cons_self).1)
    | cons m ms =>
      have := congrArg (List.splitOn x) h
      rwa [List.splitOn_intercalate x (fun l hl' => (hl l hl').2) (List.cons_ne_nil _ _),
        List.splitOn_intercalate x (fun m hm' => (hm m hm').2) (List.cons_ne_nil _ _)] at this

/--
空白を含まない空でない文字列の列なら、`%v` の表記は列を決める。空の文字列や空白を含む文字列が
あると決まらない（`[]` と `[""]`、`["a b"]` と `["a", "b"]` は同じ表記になる）。
-/
theorem fmtStrings_inj {xs ys : List String} (hx : ∀ x ∈ xs, x ≠ "" ∧ ' ' ∉ x.toList)
    (hy : ∀ y ∈ ys, y ≠ "" ∧ ' ' ∉ y.toList) (h : fmtStrings xs = fmtStrings ys) : xs = ys := by
  have hsp : " ".toList = [' '] := rfl
  have hl := congrArg String.toList h
  rw [fmtStrings, fmtStrings, String.toList_append, String.toList_append, String.toList_append,
    String.toList_append, String.toList_intercalate, String.toList_intercalate, hsp,
    List.append_cancel_right_eq, List.append_cancel_left_eq] at hl
  have hmap := intercalate_singleton_inj
    (fun l hl' => by
      obtain ⟨x, hx', rfl⟩ := List.mem_map.mp hl'
      exact ⟨fun h => (hx x hx').1 (String.toList_eq_nil_iff.mp h), (hx x hx').2⟩)
    (fun l hl' => by
      obtain ⟨y, hy', rfl⟩ := List.mem_map.mp hl'
      exact ⟨fun h => (hy y hy').1 (String.toList_eq_nil_iff.mp h), (hy y hy').2⟩) hl
  exact List.map_injective_iff.mpr (fun a b h => String.toList_inj.mp h) hmap

example : fmtStrings ["a b"] = fmtStrings ["a", "b"] := by decide

end Infra.Go
