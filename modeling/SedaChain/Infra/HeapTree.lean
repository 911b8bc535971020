import Mathlib

/-!
# 配列に埋め込んだ二分木

根を添字 `0` に置き、添字 `k` の子を `2k+1` と `2k+2` に置く配列表現である。
内部節点が `m` 個あれば、配列の長さは `2m+1` で、葉は添字 `m .. 2m` に並ぶ。

* `fill` — 葉だけを置いた配列から、内部節点を添字の大きい順に作る
* `fill_closed` — その結果、すべての内部節点が子から作られている
* `foldl_path` — 任意の添字から根まで兄弟を順に畳み込むと根の値になる

最後のものが Merkle 証明の完全性の核である。畳み込む演算が可換でさえあれば、
どの節点から出発したか（葉か内部節点か、左の子か右の子か）に依らない。
-/

namespace Infra.HeapTree

variable {α : Type}

/-! ## 添字の算術 -/

/-- 親の添字。 -/
def parent (i : Nat) : Nat := (i - 1) / 2

/-- 兄弟の添字。左の子（奇数）の兄弟は右隣、右の子（偶数）の兄弟は左隣である。 -/
def sibling (i : Nat) : Nat := if i % 2 = 0 then i - 1 else i + 1

theorem parent_lt {i : Nat} (h : 0 < i) : parent i < i := by
  unfold parent; omega

/-- 根でない節点とその兄弟は、親の二つの子である。 -/
theorem children_of_parent {i : Nat} (h : 0 < i) :
    (i = 2 * parent i + 1 ∧ sibling i = 2 * parent i + 2) ∨
      (i = 2 * parent i + 2 ∧ sibling i = 2 * parent i + 1) := by
  unfold parent sibling
  split <;> omega

/-! ## 閉じた配列 -/

/-- 添字 `lo ≤ k < m` の節点が、それぞれ二つの子から `f` で作られていること。 -/
def ClosedFrom (f : α → α → α) (t : Nat → α) (lo m : Nat) : Prop :=
  ∀ k, lo ≤ k → k < m → t k = f (t (2 * k + 1)) (t (2 * k + 2))

/-- 根までの兄弟の並び。Merkle 証明そのものである。 -/
def path (t : Nat → α) (j : Nat) : List α :=
  if j = 0 then [] else t (sibling j) :: path t (parent j)
termination_by j
decreasing_by exact parent_lt (by omega)

theorem path_zero (t : Nat → α) : path t 0 = [] := by
  rw [path]; simp

theorem path_pos (t : Nat → α) {j : Nat} (h : 0 < j) :
    path t j = t (sibling j) :: path t (parent j) := by
  rw [path, if_neg (by omega)]

/--
**兄弟を畳み込むと根に着く。**

`j ≤ 2m` の節点から始めて、`f` で兄弟と合わせるたびに親の値になる。
`f` が可換なので、自分が左右どちらの子かは問わない。帰納法は `j` の強帰納法で、
一段ごとに `children_of_parent` で二つの場合に分ける。
-/
theorem foldl_path {f : α → α → α} (hcomm : ∀ a b, f a b = f b a) {t : Nat → α} {m : Nat}
    (hc : ClosedFrom f t 0 m) : ∀ j, j ≤ 2 * m → (path t j).foldl f (t j) = t 0 := by
  intro j
  induction j using Nat.strongRecOn with
  | _ j ih =>
    intro hj
    rcases Nat.eq_zero_or_pos j with rfl | hpos
    · simp [path_zero]
    · have hp : parent j < m := by unfold parent; omega
      have hstep : f (t j) (t (sibling j)) = t (parent j) := by
        rw [hc (parent j) (Nat.zero_le _) hp]
        rcases children_of_parent hpos with ⟨h1, h2⟩ | ⟨h1, h2⟩
        · rw [h2, ← h1]
        · rw [h2, hcomm, ← h1]
      rw [path_pos t hpos, List.foldl_cons, hstep]
      exact ih (parent j) (parent_lt hpos) (by unfold parent; omega)

/-! ## 内部節点を作る -/

section Fill

variable (f : α → α → α) (d : α)

/-- 添字 `k-1, k-2, …, 0` の順に、子の二つから節点を作る。 -/
def fill (t : List α) : Nat → List α
  | 0 => t
  | k + 1 => fill (t.set k (f (t.getD (2 * k + 1) d) (t.getD (2 * k + 2) d))) k

@[simp] theorem length_fill : ∀ (t : List α) (k : Nat), (fill f d t k).length = t.length
  | _, 0 => rfl
  | t, k + 1 => by rw [fill, length_fill, List.length_set]

theorem getD_set_self {t : List α} {i : Nat} {a : α} (h : i < t.length) :
    (t.set i a).getD i d = a := by
  simp [List.getD_eq_getElem?_getD, h]

theorem getD_set_ne {t : List α} {i j : Nat} {a : α} (h : i ≠ j) :
    (t.set i a).getD j d = t.getD j d := by
  simp [List.getD_eq_getElem?_getD, List.getElem?_set_ne h]

/-- `fill` が書くのは添字 `k` 未満だけである。 -/
theorem getD_fill_of_le : ∀ (t : List α) (k i : Nat), k ≤ i → (fill f d t k).getD i d = t.getD i d
  | _, 0, _, _ => rfl
  | t, k + 1, i, h => by
    rw [fill, getD_fill_of_le _ k i (by omega), getD_set_ne d (by omega)]

/--
**`fill` は配列を閉じる。**

ループ不変条件は「添字 `k` 以上の内部節点はすでに子から作られている」である。
添字 `k-1` に書いても、その子（`2k-1` と `2k`）と `k` 以上の節点は動かないので、
不変条件は `k-1` まで広がる。
-/
theorem fill_closed {m : Nat} :
    ∀ (t : List α) (k : Nat), t.length = 2 * m + 1 → k ≤ m →
      ClosedFrom f (fun i => t.getD i d) k m →
      ClosedFrom f (fun i => (fill f d t k).getD i d) 0 m
  | _, 0, _, _, hc => hc
  | t, k + 1, hlen, hk, hc => by
    rw [fill]
    refine fill_closed _ k (by rw [List.length_set, hlen]) (by omega) ?_
    intro i hi him
    dsimp only
    rcases Nat.eq_or_lt_of_le hi with rfl | hlt
    · rw [getD_set_self d (by omega), getD_set_ne d (by omega), getD_set_ne d (by omega)]
    · rw [getD_set_ne d (by omega), getD_set_ne d (by omega), getD_set_ne d (by omega)]
      exact hc i hlt him

end Fill

end Infra.HeapTree
