import SedaChain.Infra.Bytes
import SedaChain.Infra.HeapTree
import SedaChain.Infra.Sort

/-!
# Merkle 木（`app/utils/merkle.go`）

batch の data result 木と validator 木の根を計算する関数群である。

* 葉は entry の hash を昇順に並べたもの（`RootFromEntries`）
* 親は二つの子を昇順に並べてから連結して hash する（`parentHash`）
* 木は長さ `2n-1` の配列で、葉は後ろから逆順に置かれ、内部節点は添字の大きい順に作られる
  （`buildTree`）

hash 関数 `keccak` は任意の関数として引数に取る。衝突困難性などは仮定しない。

`parentHash` が二つの子について対称であることと、`buildTree` の結果が
`Infra.HeapTree` の意味で閉じていることが、Merkle 証明の完全性の足場になる。
-/

namespace SedaChain.Utils

open Infra

variable (keccak : Bytes → Bytes)

/-! ## hash -/

/-- `hash(<empty>)`。 -/
def emptyHash : Bytes := keccak []

/-- `hash(leaf)`。 -/
def leafHash (leaf : Bytes) : Bytes := keccak leaf

/-- `hash(left || right)`。 -/
def nodeHash (left right : Bytes) : Bytes := keccak (left ++ right)

/-- 二つの子を `bytes.Compare` の昇順に並べてから hash する。 -/
def parentHash (a b : Bytes) : Bytes :=
  if a < b then nodeHash keccak a b else nodeHash keccak b a

/-- 子の並びを入れ替えても親は変わらない。 -/
theorem parentHash_comm (a b : Bytes) : parentHash keccak a b = parentHash keccak b a := by
  unfold parentHash
  by_cases hab : a < b
  · rw [if_pos hab, if_neg (Std.not_lt.mpr (Std.le_of_lt hab))]
  · by_cases hba : b < a
    · rw [if_neg hab, if_pos hba]
    · have heq : a = b := Std.le_antisymm (Std.not_lt.mp hba) (Std.not_lt.mp hab)
      rw [heq]

/-! ## 木 -/

/--
`buildTree`。葉が無ければ空の hash だけの木を返す。

葉が `n` 個なら長さ `2n-1` の配列を作り、葉 `i` を添字 `2n-2-i` に置く
（前の `n-1` 個は Go の `nil`、すなわち空の byte 列）。
内部節点は添字 `n-2` から `0` へ順に `parentHash` で埋める。
-/
def buildTree (leaves : List Bytes) : List Bytes :=
  if leaves = [] then [emptyHash keccak]
  else
    HeapTree.fill (parentHash keccak) []
      (List.replicate (leaves.length - 1) [] ++ leaves.reverse) (leaves.length - 1)

theorem buildTree_nil : buildTree keccak [] = [emptyHash keccak] := by
  simp [buildTree]

theorem length_buildTree {leaves : List Bytes} (h : leaves ≠ []) :
    (buildTree keccak leaves).length = 2 * (leaves.length - 1) + 1 := by
  have hpos : 0 < leaves.length := List.length_pos_iff.mpr h
  simp only [buildTree, if_neg h, HeapTree.length_fill, List.length_append,
    List.length_replicate, List.length_reverse]
  omega

theorem buildTree_ne_nil (leaves : List Bytes) : buildTree keccak leaves ≠ [] := by
  by_cases h : leaves = []
  · simp [h, buildTree_nil]
  · intro he
    have := length_buildTree keccak h
    rw [he] at this
    simp at this

/-- 木の添字 `i` の値。Go の `tree[i]` である（範囲外は起こらない）。 -/
def treeAt (tree : List Bytes) (i : Nat) : Bytes := tree.getD i []

/-- **`buildTree` の内部節点は、すべて二つの子の `parentHash` である。** -/
theorem buildTree_closed {leaves : List Bytes} (h : leaves ≠ []) :
    HeapTree.ClosedFrom (parentHash keccak) (treeAt (buildTree keccak leaves)) 0
      (leaves.length - 1) := by
  have hpos : 0 < leaves.length := List.length_pos_iff.mpr h
  unfold treeAt
  simp only [buildTree, if_neg h]
  refine HeapTree.fill_closed _ _ _ _ (by simp; omega) (Nat.le_refl _) ?_
  intro k hk hkm
  omega

/-- **葉はすべて木に現れる。** 内部節点を作るときに葉の位置は書き換えられない。 -/
theorem mem_buildTree_of_mem {leaves : List Bytes} {x : Bytes} (hx : x ∈ leaves) :
    ∃ j, j < (buildTree keccak leaves).length ∧ treeAt (buildTree keccak leaves) j = x := by
  have hne : leaves ≠ [] := List.ne_nil_of_mem hx
  obtain ⟨r, hr, hrx⟩ := List.getElem_of_mem (List.mem_reverse.mpr hx)
  have hlen := length_buildTree keccak hne
  have hrl : r < leaves.length := by simpa using hr
  refine ⟨leaves.length - 1 + r, by omega, ?_⟩
  unfold treeAt
  simp only [buildTree, if_neg hne]
  rw [HeapTree.getD_fill_of_le _ _ _ _ _ (by omega), List.getD_eq_getElem?_getD,
    List.getElem?_append_right (by simp)]
  simp only [List.length_replicate, Nat.add_sub_cancel_left]
  rw [List.getElem?_eq_getElem hr, Option.getD_some, hrx]

/-! ## 根 -/

/-- entry を hash して昇順に並べた葉。`sort.Slice` の順は `sortAsc` の順と一致する。 -/
def entryLeaves (entries : List Bytes) : List Bytes :=
  sortAsc (entries.map (leafHash keccak))

/-- `RootFromEntries`。entry の hash を葉とする木の根。 -/
def RootFromEntries (entries : List Bytes) : Bytes :=
  (buildTree keccak (entryLeaves keccak entries)).head (buildTree_ne_nil keccak _)

/-- `RootFromLeaves`。空の葉は空の hash に置き換えてから並べる。 -/
def RootFromLeaves (leaves : List Bytes) : Bytes :=
  (buildTree keccak (sortAsc (leaves.map fun l => if l = [] then emptyHash keccak else l))).head
    (buildTree_ne_nil keccak _)

theorem head_eq_treeAt_zero (tree : List Bytes) (h : tree ≠ []) :
    tree.head h = treeAt tree 0 := by
  cases tree with
  | nil => exact absurd rfl h
  | cons x xs => rfl

end SedaChain.Utils
