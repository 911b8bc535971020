import Mathlib

/-!
# 位置の揃った二つの列

二つの列の同じ位置の要素が関係 `R` にあること（`List.Forall₂`）を、列の書き換えの後にも
保つための補題である。

* `forall₂_modify` — 一つの位置を `R` を保つ関数で書き換えても、位置の揃いは保たれる
* `Forall₂.getElem?` — 同じ位置の要素は関係にある
* `Forall₂.exists_pairs` — 揃った二つの列は、関係にある組の列の二つの成分である

鍵 `f` の相異なる列では、鍵は位置を決める（`eq_of_getElem?_of_nodup_map`）。どれも同じ鍵を持つ
部分の列は、高々一つの要素しか持たない（`length_le_one_of_nodup_map`）。

`filterMap` で残る要素は、その前に残る要素の数の位置に移る（`getElem?_filterMap_countP`）。
-/

namespace Infra

variable {α β : Type} {R : α → β → Prop}

/-- 一つの位置を、関係を保つ関数で書き換える。 -/
theorem forall₂_modify {f : β → β} (hf : ∀ a b, R a b → R a (f b)) :
    ∀ {l₁ : List α} {l₂ : List β} (i : Nat), List.Forall₂ R l₁ l₂ →
      List.Forall₂ R l₁ (l₂.modify i f)
  | _, _, _, .nil => by simp
  | _, _, 0, .cons hab h => by
    simpa [List.modify_zero_cons] using List.Forall₂.cons (hf _ _ hab) h
  | _, _, i + 1, .cons hab h => by
    simpa [List.modify_succ_cons] using List.Forall₂.cons hab (forall₂_modify hf i h)

/-- 同じ位置の要素は関係にある。 -/
theorem Forall₂.getElem? {l₁ : List α} {l₂ : List β} (h : List.Forall₂ R l₁ l₂) {i : Nat}
    {a : α} {b : β} (ha : l₁[i]? = some a) (hb : l₂[i]? = some b) : R a b := by
  induction h generalizing i with
  | nil => simp at ha
  | cons hab _ ih =>
    cases i with
    | zero => simp at ha hb; subst ha hb; exact hab
    | succ i => exact ih (by simpa using ha) (by simpa using hb)

/-- 揃った二つの列は、関係にある組の列を二つの成分に分けたものである。 -/
theorem Forall₂.exists_pairs {l₁ : List α} {l₂ : List β} (h : List.Forall₂ R l₁ l₂) :
    ∃ l : List (α × β), l.map Prod.fst = l₁ ∧ l.map Prod.snd = l₂ ∧ ∀ p ∈ l, R p.1 p.2 := by
  induction h with
  | nil => exact ⟨[], rfl, rfl, by simp⟩
  | @cons a b _ _ hab _ ih =>
    obtain ⟨l, h₁, h₂, hl⟩ := ih
    refine ⟨(a, b) :: l, by rw [List.map_cons, h₁], by rw [List.map_cons, h₂], ?_⟩
    intro p hp
    rcases List.mem_cons.mp hp with rfl | hp
    · exact hab
    · exact hl p hp

/-! ## 鍵の相異なる列 -/

section Keys

variable {γ : Type} {f : α → γ}

/-- 鍵の相異なる列では、同じ鍵を持つ二つの位置は等しい。 -/
theorem eq_of_getElem?_of_nodup_map {l : List α} (hl : (l.map f).Nodup) {i j : Nat} {a b : α}
    (ha : l[i]? = some a) (hb : l[j]? = some b) (hab : f a = f b) : i = j := by
  obtain ⟨hi, rfl⟩ := List.getElem?_eq_some_iff.mp ha
  obtain ⟨hj, rfl⟩ := List.getElem?_eq_some_iff.mp hb
  have hi' : i < (l.map f).length := by simpa using hi
  have hj' : j < (l.map f).length := by simpa using hj
  exact (@List.Nodup.getElem_inj_iff _ _ hl i hi' j hj').mp (by simpa using hab)

/-- 鍵の相異なる列のうち、どれも同じ鍵 `c` を持つものは高々一つである。 -/
theorem length_le_one_of_nodup_map {c : γ} :
    ∀ {l : List α}, (l.map f).Nodup → (∀ x ∈ l, f x = c) → l.length ≤ 1
  | [], _, _ => by simp
  | [_], _, _ => by simp
  | x :: y :: _, hl, hc => by
    have hxy : f x ≠ f y := by
      intro h
      simp only [List.map_cons, List.nodup_cons, List.mem_cons] at hl
      exact hl.1 (.inl h)
    exact absurd ((hc x (by simp)).trans (hc y (by simp)).symm) hxy

end Keys

/-! ## `filterMap` の位置 -/

/--
位置 `j` の要素が `f` で残るなら、`filterMap` の後は、先頭 `j` 個のうち残る要素の数の位置にある。
列についての帰納法で、先頭の要素が残れば位置が一つずれる。
-/
theorem getElem?_filterMap_countP {f : α → Option β} :
    ∀ {l : List α} {j : Nat} {a : α} {b : β}, l[j]? = some a → f a = some b →
      (l.filterMap f)[(l.take j).countP fun x => (f x).isSome]? = some b
  | a' :: l, 0, a, b, ha, hb => by
    simp only [List.getElem?_cons_zero, Option.some.injEq] at ha
    subst ha
    simp [hb]
  | a' :: l, j + 1, a, b, ha, hb => by
    have ih := getElem?_filterMap_countP (l := l) (by simpa using ha) hb
    cases hf : f a' with
    | none => simpa [List.filterMap_cons, hf] using ih
    | some c => simpa [List.filterMap_cons, hf, List.countP_cons] using ih

end Infra
