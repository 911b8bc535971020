import SedaChain.Infra.Bytes

/-!
# base64 の復号（`encoding/base64` の `StdEncoding`）

Go の `StdEncoding.DecodeString` を、一文字ずつ進む状態機械として写す。
Go は四文字の組（`decodeQuantum`）ごとに読むが、規則は次のとおりで、どれも一文字ずつ判定できる。

* 改行（`\n`、`\r`）はどこにあっても読み飛ばす
* `=` による詰め物は組の三文字目か四文字目からしか始められず、三文字目からなら `==` が要る
* 詰め物の後ろに改行以外が残れば「後ろのごみ」として失敗する
* 組の途中で入力が終われば失敗する（`StdEncoding` は詰め物を要求する）

失敗は `CorruptInputError` の位置（入力の何 byte 目か）で返す。位置の決め方も Go に合わせる。
`StdEncoding` は strict ではないので、最後の組の余りの bit が 0 でなくても受け入れる。
-/

namespace Infra.Base64

/-- `decodeMap`。英大文字、英小文字、数字、`+`、`/` の順に 0 から 63。 -/
def decodeMap (c : UInt8) : Option Nat :=
  let n := c.toNat
  if 0x41 ≤ n ∧ n ≤ 0x5A then some (n - 0x41)
  else if 0x61 ≤ n ∧ n ≤ 0x7A then some (n - 0x61 + 26)
  else if 0x30 ≤ n ∧ n ≤ 0x39 then some (n - 0x30 + 52)
  else if n = 0x2B then some 62
  else if n = 0x2F then some 63
  else none

/-- 改行（`\n` と `\r`）。 -/
def isNewline (c : UInt8) : Bool := c = 10 || c = 13

/-- 詰め物の文字 `=`。 -/
def padChar : UInt8 := 0x3D

/-- 6 bit 値の組を byte にする。値が `k` 個なら `k - 1` byte になる。 -/
def sextetBytes (sx : List Nat) : Bytes :=
  let v := sx.foldl (fun a x => a * 64 + x) 0 * 64 ^ (4 - sx.length)
  let b := [UInt8.ofNat (v / 65536), UInt8.ofNat (v / 256), UInt8.ofNat v]
  b.take (sx.length - 1)

/-- 復号の途中の状態。 -/
inductive State where
  /-- 組の途中で、6 bit 値を `acc` だけ読んだ。 -/
  | reading (acc : List Nat)
  /-- 組の三文字目の `=` を読み、二つ目の `=` を待っている。 -/
  | needPad (acc : List Nat)
  /-- 詰め物を読み終えた。後ろには改行しか許されない。 -/
  | afterPad (acc : List Nat)

/--
一文字ずつ読む。`si` は読む文字の位置、`out` はここまでに書いた byte 列である。
入力の終わりでの判定は `[]` の場合にまとめてある。
-/
def run : List UInt8 → Nat → State → Bytes → Except Nat Bytes
  | [], si, .reading acc, out => if acc = [] then .ok out else .error (si - acc.length)
  | [], si, .needPad _, _ => .error si
  | [], _, .afterPad acc, out => .ok (out ++ sextetBytes acc)
  | c :: rest, si, .reading acc, out =>
    match decodeMap c with
    | some v =>
      if acc.length = 3 then run rest (si + 1) (.reading []) (out ++ sextetBytes (acc ++ [v]))
      else run rest (si + 1) (.reading (acc ++ [v])) out
    | none =>
      if isNewline c then run rest (si + 1) (.reading acc) out
      else if c ≠ padChar then .error si
      else if acc.length < 2 then .error si
      else if acc.length = 2 then run rest (si + 1) (.needPad acc) out
      else run rest (si + 1) (.afterPad acc) out
  | c :: rest, si, .needPad acc, out =>
    if isNewline c then run rest (si + 1) (.needPad acc) out
    else if c ≠ padChar then .error (si - 1)
    else run rest (si + 1) (.afterPad acc) out
  | c :: rest, si, .afterPad acc, out =>
    if isNewline c then run rest (si + 1) (.afterPad acc) out
    else .error si

/-- `base64.StdEncoding.DecodeString`。失敗は `CorruptInputError` の位置。 -/
def decodeString (s : String) : Except Nat Bytes :=
  run (strBytes s) 0 (.reading []) []

/-- `CorruptInputError.Error()`。 -/
def corruptInputMessage (offset : Nat) : String :=
  s!"illegal base64 data at input byte {offset}"

example : decodeString "" = .ok [] := by decide
example : decodeString "AQID" = .ok [1, 2, 3] := by decide
example : decodeString "AQI=" = .ok [1, 2] := by decide
example : decodeString "AQ==\n" = .ok [1] := by decide
example : decodeString "AQ=" = .error 3 := by decide
example : decodeString "AQ==x" = .error 4 := by decide

end Infra.Base64
