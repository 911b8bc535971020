import Mathlib

/-!
# 重みの和

列の要素に整数の重みを付け、条件を満たす要素の重みを足す。投票の voting power を
足し合わせる検査に使う。

* `weightOf_le_add` — 重みが負でなければ、`p` か `q` を満たす要素だけが `r` を満たすとき、
  `r` の重みは `p` の重みと `q` の重みの和を超えない
* `weightOf_le_sum` — 条件付きの重みは全体の和を超えない
* `two_mul_lt_three_mul` — 切り捨ての割り算で書いた「三分の二より一つ多い」は、
  三分の二を真に超えることである
-/

namespace Infra

variable {α : Type} (w : α → Int)

/-- 条件 `p` を満たす要素の重みの和。 -/
def weightOf (p : α → Bool) (l : List α) : Int := ((l.filter p).map w).sum

@[simp] theorem weightOf_nil (p : α → Bool) : weightOf w p [] = 0 := rfl

@[simp] theorem weightOf_cons (p : α → Bool) (a : α) (l : List α) :
    weightOf w p (a :: l) = (if p a then w a else 0) + weightOf w p l := by
  unfold weightOf
  by_cases hp : p a <;> simp [hp]

variable {w}

theorem weightOf_nonneg (p : α → Bool) {l : List α} (hw : ∀ a ∈ l, 0 ≤ w a) :
    0 ≤ weightOf w p l := by
  induction l with
  | nil => rfl
  | cons a l ih =>
    rw [weightOf_cons]
    have ha := hw a List.mem_cons_self
    have hl := ih fun b hb => hw b (List.mem_cons_of_mem a hb)
    split <;> omega

/--
**被覆による上界。** 重みが負でなく、`r` を満たす要素がどれも `p` か `q` を満たすなら、
`r` の重みは `p` と `q` の重みの和以下である。
-/
theorem weightOf_le_add {p q r : α → Bool} {l : List α} (hw : ∀ a ∈ l, 0 ≤ w a)
    (hcover : ∀ a ∈ l, r a = true → p a = true ∨ q a = true) :
    weightOf w r l ≤ weightOf w p l + weightOf w q l := by
  induction l with
  | nil => simp
  | cons a l ih =>
    simp only [weightOf_cons]
    have ha := hw a List.mem_cons_self
    have hl := ih (fun b hb => hw b (List.mem_cons_of_mem a hb))
      (fun b hb => hcover b (List.mem_cons_of_mem a hb))
    -- 先頭の要素は、`r` を満たすなら `p` か `q` の側でも数えられている
    have hhead := hcover a List.mem_cons_self
    cases hr : r a <;> cases hp : p a <;> cases hq : q a <;> simp_all <;> omega

theorem weightOf_le_sum (p : α → Bool) {l : List α} (hw : ∀ a ∈ l, 0 ≤ w a) :
    weightOf w p l ≤ (l.map w).sum := by
  induction l with
  | nil => rfl
  | cons a l ih =>
    rw [weightOf_cons, List.map_cons, List.sum_cons]
    have ha := hw a List.mem_cons_self
    have hl := ih fun b hb => hw b (List.mem_cons_of_mem a hb)
    split <;> omega

/-- `s ≥ t * 2 / 3 + 1`（0 に向けて切り捨てる割り算）は `3 * s > 2 * t` である。 -/
theorem two_mul_lt_three_mul {s t : Int} (ht : 0 ≤ t) (h : (t * 2).tdiv 3 + 1 ≤ s) :
    2 * t < 3 * s := by
  rw [Int.tdiv_eq_ediv_of_nonneg (by omega)] at h
  omega

end Infra
