import Mathlib

/-!
# byte 列

Go の `[]byte` を `List UInt8` で表す。

* 16 進表記（`encoding/hex`）の符号化と復号、およびその往復。`%X` の大文字の表記
* 8 byte の big-endian 表記（`binary.BigEndian.PutUint64` と、読み戻す `getUintBE`）。
  読み戻すと `256 ^ w` で割った余りになり（`getUintBE_putUintBE`）、幅に収まる値の上で単射である
* 文字列の UTF-8 表記（`[]byte(s)`、単射）と、辞書式の比較（`bytes.Compare`）

`hex.DecodeString` は Go と同じく、文字列の UTF-8 の byte を二つずつ読む。失敗の文面も Go の
`InvalidByteError`（`%#U` の表記）と `ErrLength` のとおりである。
-/

namespace Infra

/-- byte 列。 -/
abbrev Bytes := List UInt8

/-- Go の文字列から byte 列へ（`[]byte(s)`）。 -/
def strBytes (s : String) : Bytes :=
  s.toList.flatMap String.utf8EncodeChar

/-! ## 16 進表記 -/

/-- 0 から 15 を小文字の 16 進数字にする。`hex.EncodeToString` は小文字を使う。 -/
def hexDigit (n : Nat) : Char :=
  if n < 10 then Char.ofNat (0x30 + n) else Char.ofNat (0x61 + n - 10)

/-- 16 進数字の値。大文字も受ける（Go の `fromHexChar`）。 -/
def fromHexChar (c : Char) : Option Nat :=
  let n := c.toNat
  if 0x30 ≤ n ∧ n ≤ 0x39 then some (n - 0x30)
  else if 0x61 ≤ n ∧ n ≤ 0x66 then some (n - 0x61 + 10)
  else if 0x41 ≤ n ∧ n ≤ 0x46 then some (n - 0x41 + 10)
  else none

/-- 1 byte を二つの 16 進数字にする。 -/
def hexByte (b : UInt8) : List Char :=
  [hexDigit (b.toNat / 16), hexDigit (b.toNat % 16)]

/-- `hex.EncodeToString` である。 -/
def hexEncode (b : Bytes) : String :=
  String.ofList (b.flatMap hexByte)

/-- `fmt` の `%X` による byte 列の表記。大文字の 16 進数字を使う。 -/
def hexEncodeUpper (b : Bytes) : String :=
  (hexEncode b).toUpper

/-- `reverseHexTable`。16 進数字の byte の値。 -/
def fromHexByte (b : UInt8) : Option Nat := fromHexChar (Char.ofNat b.toNat)

/--
`%#U` で印字される rune か（`strconv.IsPrint`）。byte の値の rune では、ASCII の印字文字と、
Latin-1 の後半のうち改行しない空白（U+00A0）と soft hyphen（U+00AD）を除くものである。
-/
def isPrintLatin1 (b : UInt8) : Bool :=
  (0x20 ≤ b && b ≤ 0x7E) || (0xA1 ≤ b && b != 0xAD)

/-- `InvalidByteError` の文面。`%#U` は `U+` と 4 桁の大文字の 16 進、印字できれば引用した文字を続ける。 -/
def invalidByteMessage (b : UInt8) : String :=
  let code := String.ofList [(hexDigit (b.toNat / 16)).toUpper, (hexDigit (b.toNat % 16)).toUpper]
  let c := Char.ofNat b.toNat
  if isPrintLatin1 b then s!"encoding/hex: invalid byte: U+00{code} \x27{c}\x27"
  else s!"encoding/hex: invalid byte: U+00{code}"

/-- `hex.ErrLength` の文面。 -/
def errLengthMessage : String := "encoding/hex: odd length hex string"

/--
`hex.Decode`。byte を二つずつ読み、不正な byte があればそれを、無くて奇数個なら `ErrLength` を返す。
最後の一つの byte は、長さの誤りより先に確かめる。
-/
def hexDecodeBytes : Bytes → Except String Bytes
  | [] => .ok []
  | [p] => if (fromHexByte p).isNone then .error (invalidByteMessage p) else .error errLengthMessage
  | p :: q :: rest =>
    match fromHexByte p, fromHexByte q with
    | none, _ => .error (invalidByteMessage p)
    | some _, none => .error (invalidByteMessage q)
    | some a, some b => (hexDecodeBytes rest).map (UInt8.ofNat (a * 16 + b) :: ·)

/-- `hex.DecodeString` である。 -/
def hexDecodeString (s : String) : Except String Bytes :=
  hexDecodeBytes (strBytes s)

/-- 復号の成否だけを見る `hex.DecodeString`。失敗は `none`。 -/
def hexDecode (s : String) : Option Bytes :=
  match hexDecodeString s with
  | .ok b => some b
  | .error _ => none

example : hexDecodeString "0aFf" = .ok [10, 255] := by decide
example : hexDecodeString "0g" = .error "encoding/hex: invalid byte: U+0067 \x27g\x27" := by decide
example : hexDecodeString "abc" = .error "encoding/hex: odd length hex string" := by decide

/-- 16 進数字は 1 byte の ASCII で、その byte は数字の値に読める。 -/
theorem utf8EncodeChar_hexDigit : ∀ n : Nat, n < 16 →
    ∃ b, String.utf8EncodeChar (hexDigit n) = [b] ∧ fromHexByte b = some n
  | 0, _ | 1, _ | 2, _ | 3, _ | 4, _ | 5, _ | 6, _ | 7, _ | 8, _ | 9, _ | 10, _ | 11, _
  | 12, _ | 13, _ | 14, _ | 15, _ => ⟨_, rfl, by decide⟩
  | _ + 16, h => absurd h (by omega)

theorem hexDecodeBytes_hexByte (b : UInt8) (rest : Bytes) :
    hexDecodeBytes ((hexByte b).flatMap String.utf8EncodeChar ++ rest) =
      (hexDecodeBytes rest).map (b :: ·) := by
  have hb : b.toNat < 256 := UInt8.toNat_lt_size b
  obtain ⟨hi, hhi, hhiv⟩ := utf8EncodeChar_hexDigit (b.toNat / 16) (by omega)
  obtain ⟨lo, hlo, hlov⟩ := utf8EncodeChar_hexDigit (b.toNat % 16) (by omega)
  have hval : UInt8.ofNat (b.toNat / 16 * 16 + b.toNat % 16) = b := by
    rw [show b.toNat / 16 * 16 + b.toNat % 16 = b.toNat by omega, UInt8.ofNat_toNat]
  simp only [hexByte, List.flatMap_cons, List.flatMap_nil, hhi, hlo, List.append_nil,
    List.cons_append, List.nil_append, hexDecodeBytes, hhiv, hlov, hval]

/-- **16 進表記は復号で元に戻る。** -/
theorem hexDecodeString_hexEncode (b : Bytes) : hexDecodeString (hexEncode b) = .ok b := by
  unfold hexDecodeString hexEncode strBytes
  rw [String.toList_ofList]
  induction b with
  | nil => rfl
  | cons x xs ih =>
    rw [List.flatMap_cons, List.flatMap_append, hexDecodeBytes_hexByte, ih]
    rfl

theorem hexDecode_hexEncode (b : Bytes) : hexDecode (hexEncode b) = some b := by
  simp [hexDecode, hexDecodeString_hexEncode]

theorem hexEncode_injective : Function.Injective hexEncode := by
  intro a b h
  have := congrArg hexDecode h
  rwa [hexDecode_hexEncode, hexDecode_hexEncode, Option.some.injEq] at this

/-! ## 固定長の表記 -/

/-- `w` byte の big-endian 表記。値は `256 ^ w` で割った余りとして書かれる。 -/
def putUintBE (w n : Nat) : Bytes :=
  (List.range w).reverse.map fun i => UInt8.ofNat (n / 256 ^ i)

/-- `binary.BigEndian.PutUint64`。 -/
def putUint64 (n : Nat) : Bytes := putUintBE 8 n

/-- `binary.BigEndian.PutUint32`。 -/
def putUint32 (n : Nat) : Bytes := putUintBE 4 n

@[simp] theorem length_putUintBE (w n : Nat) : (putUintBE w n).length = w := by
  simp [putUintBE]

/-- big-endian 表記の値（`binary.BigEndian.Uint64` を任意の長さで）。 -/
def getUintBE (b : Bytes) : Nat :=
  b.foldl (fun acc x => acc * 256 + x.toNat) 0

example : getUintBE (putUint64 300) = 300 := by decide

/-- 途中の値から読み進めると、その値は残りの長さだけ桁が上がる。 -/
theorem foldl_getUintBE (xs : Bytes) (acc : Nat) :
    xs.foldl (fun acc x => acc * 256 + x.toNat) acc = acc * 256 ^ xs.length + getUintBE xs := by
  -- 始めの値を一般にした帰納法で、一桁読むごとに `acc` が 256 倍になる
  induction xs generalizing acc with
  | nil => simp [getUintBE]
  | cons x xs ih =>
    simp only [getUintBE, List.foldl_cons] at ih ⊢
    rw [ih, ih (0 * 256 + x.toNat), List.length_cons, Nat.pow_succ]
    ring

theorem getUintBE_cons (x : UInt8) (xs : Bytes) :
    getUintBE (x :: xs) = x.toNat * 256 ^ xs.length + getUintBE xs := by
  simp only [getUintBE, List.foldl_cons]
  rw [foldl_getUintBE]
  simp [getUintBE]

theorem putUintBE_succ (w n : Nat) :
    putUintBE (w + 1) n = UInt8.ofNat (n / 256 ^ w) :: putUintBE w n := by
  simp [putUintBE, List.range_succ]

/-- big-endian 表記を読み戻すと、`256 ^ w` で割った余りになる。 -/
theorem getUintBE_putUintBE (w n : Nat) : getUintBE (putUintBE w n) = n % 256 ^ w := by
  induction w with
  | zero => simp [putUintBE, getUintBE, Nat.mod_one]
  | succ w ih =>
    -- 先頭の byte は `n / 256 ^ w` の下 8 bit で、残りは帰納法の仮定による
    rw [putUintBE_succ, getUintBE_cons, ih, length_putUintBE, Nat.pow_succ, Nat.mod_mul,
      UInt8.toNat_ofNat']
    ring

/-- 幅に収まる値の big-endian 表記は単射である。 -/
theorem putUintBE_inj {w a b : Nat} (ha : a < 256 ^ w) (hb : b < 256 ^ w)
    (h : putUintBE w a = putUintBE w b) : a = b := by
  have := congrArg getUintBE h
  rwa [getUintBE_putUintBE, getUintBE_putUintBE, Nat.mod_eq_of_lt ha, Nat.mod_eq_of_lt hb] at this

theorem putUint64_inj {a b : UInt64} (h : putUint64 a.toNat = putUint64 b.toNat) : a = b := by
  have ha : a.toNat < 256 ^ 8 := a.toNat_lt
  have hb : b.toNat < 256 ^ 8 := b.toNat_lt
  exact UInt64.toNat_inj.mp (putUintBE_inj ha hb h)

/-- `bytes.Compare`。辞書式に比べて -1、0、1 を返す。 -/
def bytesCompare : Bytes → Bytes → Int
  | [], [] => 0
  | [], _ :: _ => -1
  | _ :: _, [] => 1
  | a :: as, b :: bs => if a < b then -1 else if b < a then 1 else bytesCompare as bs

/-- UTF-8 の表記は単射である。 -/
theorem strBytes_injective : Function.Injective strBytes := by
  intro s t h
  have : s.toList.utf8Encode = t.toList.utf8Encode := congrArg List.toByteArray h
  rwa [String.utf8Encode_toList, String.utf8Encode_toList, String.toByteArray_inj] at this

end Infra
