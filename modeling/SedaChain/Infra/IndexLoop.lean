import Mathlib.Algebra.Order.Group.MinMax

/-!
# 消しながら進む添字の loop

Go でよく書く

```
for i := 0; i < len(xs); i++ {
    ... xs[i] = x ...             // 置き換えて進む
    ... xs = remove(xs, i); i-- ... // 消して、同じ添字で次の要素を見る
    ... break ...
}
```

を `indexLoop` に書く。一回の繰り返しは位置 `i` の要素について `LoopStep` のどれかを決める。
fuel は繰り返しの上限で、要素の数だけあれば足りる。

* `indexLoop_eq_walk` — 添字の loop は、列の先頭から一つずつ決めていく再帰 `walk` と同じである
* `indexLoop_length` — 要素の数の fuel で、`walk` と同じ結果になる
* `walk_cons_of_ne_stop`、`walk_cons_of_stop` — `walk` の一歩
* `min_add_min_sub` — 貪欲な割り当て：予算 `c` から `a` に取れるだけ取り、残りから `b` に取ると、
  `b` が負でなければ合わせて `a + b` に取れるだけ取ったのと同じである
-/

namespace Infra

/-- 添字の loop の一回の繰り返しが、位置 `i` の要素について決めること。 -/
inductive LoopStep (α : Type) where
  /-- 位置 `i` を `a` に置き換えて `i` を進める。 -/
  | keep (a : α)
  /-- 位置 `i` を消す。`i--` と `i++` で、同じ添字が次の要素を指す。 -/
  | drop
  /-- loop を抜ける。残りの要素はそのまま残る。 -/
  | stop
deriving DecidableEq, Repr

/-- 繰り返しが残す要素。置き換えればその要素で、消せば何も残さない。 -/
def LoopStep.kept {α : Type} : LoopStep α → List α
  | .keep a => [a]
  | .drop => []
  | .stop => []

section

variable {m : Type → Type} [Monad m] {σ α : Type}

/-- 添字の loop。`body` が持ち回りの値 `s` と位置 `i` の要素から次の値と `LoopStep` を決める。 -/
def indexLoop (body : σ → α → m (σ × LoopStep α)) : Nat → σ → List α → Nat → m (σ × List α)
  | 0, s, xs, _ => pure (s, xs)
  | fuel + 1, s, xs, i =>
    match xs[i]? with
    | none => pure (s, xs)
    | some a => do
      let (s, step) ← body s a
      match step with
      | .keep a' => indexLoop body fuel s (xs.set i a') (i + 1)
      | .drop => indexLoop body fuel s (xs.eraseIdx i) i
      | .stop => pure (s, xs)

/-- 同じ loop を、列の先頭から一つずつ決めていく再帰で書いたもの。 -/
def walk (body : σ → α → m (σ × LoopStep α)) : σ → List α → m (σ × List α)
  | s, [] => pure (s, [])
  | s, a :: l => do
    let (s, step) ← body s a
    match step with
    | .keep a' => do
      let (s, l) ← walk body s l
      pure (s, a' :: l)
    | .drop => walk body s l
    | .stop => pure (s, a :: l)

@[simp] theorem walk_nil (body : σ → α → m (σ × LoopStep α)) (s : σ) : walk body s [] = pure (s, []) :=
  rfl

variable [LawfulMonad m]

/-- 抜けない繰り返しの後の `walk` は、残した要素を前に付けて続きを回す。 -/
theorem walk_cons_of_ne_stop {body : σ → α → m (σ × LoopStep α)} {s s' : σ} {a : α}
    {step : LoopStep α} (hbody : body s a = pure (s', step)) (hstep : step ≠ .stop) (l : List α) :
    walk body s (a :: l) = (fun r => (r.1, step.kept ++ r.2)) <$> walk body s' l := by
  cases step with
  | keep a' => simp [walk, hbody, LoopStep.kept]
  | drop => simp [walk, hbody, LoopStep.kept]
  | stop => exact absurd rfl hstep

/-- 抜ける繰り返しの後の `walk` は、その要素から後ろをそのまま返す。 -/
theorem walk_cons_of_stop {body : σ → α → m (σ × LoopStep α)} {s s' : σ} {a : α}
    (hbody : body s a = pure (s', .stop)) (l : List α) :
    walk body s (a :: l) = pure (s', a :: l) := by
  simp [walk, hbody]

/--
**添字の loop は `walk` である。** 位置 `pre.length` から先の要素 `l` を見る loop は、
`l` の上の `walk` の結果の前に `pre` を付けたものを返す。`l` の長さについての帰納法で、
置き換えは `pre` を一つ伸ばし、消すことは `pre` をそのままにする。
-/
theorem indexLoop_eq_walk (body : σ → α → m (σ × LoopStep α)) :
    ∀ (l pre : List α) (s : σ) (fuel : Nat), l.length ≤ fuel →
      indexLoop body fuel s (pre ++ l) pre.length =
        (fun r => (r.1, pre ++ r.2)) <$> walk body s l := by
  intro l
  induction l with
  | nil =>
    intro pre s fuel _
    cases fuel with
    | zero => simp [indexLoop]
    | succ fuel => simp [indexLoop]
  | cons a l ih =>
    intro pre s fuel hfuel
    obtain ⟨fuel, rfl⟩ : ∃ f, fuel = f + 1 := ⟨fuel - 1, by simp at hfuel; omega⟩
    have hget : (pre ++ a :: l)[pre.length]? = some a := by simp
    have herase : (pre ++ a :: l).eraseIdx pre.length = pre ++ l := by
      simp [List.eraseIdx_append_of_length_le]
    have hfuel' : l.length ≤ fuel := by simp at hfuel; omega
    simp only [indexLoop, hget, walk, map_bind]
    congr 1
    funext r
    obtain ⟨s', step⟩ := r
    cases step with
    | keep a' =>
      -- 置き換えた要素は `pre` の後ろに移る
      have := ih (pre ++ [a']) s' fuel hfuel'
      simp only [List.length_append, List.length_singleton, List.append_assoc,
        List.singleton_append] at this
      simp [this]
    | drop => simp [herase, ih pre s' fuel hfuel']
    | stop => simp

/-- 要素の数の fuel で位置 0 から回す loop は、列全体の上の `walk` である。 -/
theorem indexLoop_length (body : σ → α → m (σ × LoopStep α)) (s : σ) (xs : List α) :
    indexLoop body xs.length s xs 0 = walk body s xs := by
  have := indexLoop_eq_walk body xs [] s xs.length le_rfl
  simpa using this

end

/-! ## 貪欲な割り当て -/

/--
予算 `c` から `a` に取れるだけ（`min a c`）取り、残りから `b` に取れるだけ取ると、`b` が負で
なければ合わせて `a + b` に取れるだけ取ったことになる。`a` が予算に収まれば残りは `c - a` で、
収まらなければ予算は尽き、`b` の分は 0 である。
-/
theorem min_add_min_sub {α : Type} [AddCommGroup α] [LinearOrder α] [IsOrderedAddMonoid α]
    {a b c : α} (hb : 0 ≤ b) : min (a + b) c = min a c + min b (c - min a c) := by
  rcases le_total a c with hac | hca
  · rw [min_eq_left hac, ← min_add_add_left, add_sub_cancel]
  · have hc : c ≤ a + b := le_add_of_le_of_nonneg hca hb
    rw [min_eq_right hca, min_eq_right hc, sub_self, min_eq_right hb, add_zero]

end Infra
