import Mathlib

/-!
# 番号の続く窓

番号 `first, first + 1, …` の付いた要素の列で、後ろに足し（`push`）、前から捨てる
（`dropTo`）もの。古いものから消していく記録の抽象である。

窓の中身は番号から要素への部分関数 `get?` として読む。二つの操作の意味は

* `get?_push` — 足した要素は次の番号に入り、ほかの番号は変わらない
* `get?_dropTo` — `m` より前の番号は消え、ほかの番号は変わらない

の二つで言い尽くされ、使う側はこれだけを引く。番号が窓の中にあることは
`isSome_get?_iff` で言う。
-/

namespace Infra

/-- 番号 `first` から続く要素の列。 -/
structure Window (α : Type) where
  first : Nat
  items : List α
deriving DecidableEq, Repr

namespace Window

variable {α : Type} (w : Window α)

/-- 次に足す要素の番号。 -/
def next : Nat := w.first + w.items.length

/-- 番号 `n` の要素。 -/
def get? (n : Nat) : Option α := if w.first ≤ n then w.items[n - w.first]? else none

/-- 要素を次の番号に足す。 -/
def push (a : α) : Window α := ⟨w.first, w.items ++ [a]⟩

/-- 番号 `m` より前の要素を捨てる。`m` が窓の先頭より前なら何もしない。 -/
def dropTo (m : Nat) : Window α :=
  if m ≤ w.first then w else ⟨m, w.items.drop (m - w.first)⟩

/-- 最後の要素。 -/
def last : Option α := w.get? (w.next - 1)

/-- 空の窓。 -/
def empty (first : Nat) : Window α := ⟨first, []⟩

variable {w}

@[simp] theorem next_push (a : α) : (w.push a).next = w.next + 1 := by
  simp [push, next, Nat.add_assoc]

@[simp] theorem first_push (a : α) : (w.push a).first = w.first := rfl

@[simp] theorem next_empty (first : Nat) : (empty first : Window α).next = first := by
  simp [empty, next]

@[simp] theorem get?_empty (first n : Nat) : (empty first : Window α).get? n = none := by
  simp [empty, get?]

theorem first_le_next : w.first ≤ w.next := Nat.le_add_right _ _

/-- 番号が窓の中にあること。 -/
theorem isSome_get?_iff {n : Nat} : (w.get? n).isSome ↔ w.first ≤ n ∧ n < w.next := by
  unfold get? next
  split
  · next h =>
    rw [Option.isSome_iff_ne_none, Ne, List.getElem?_eq_none_iff]
    omega
  · next h => simp only [Option.isSome_none, Bool.false_eq_true, false_iff]; omega

/-- 窓の要素は、どれかの番号に置かれている。 -/
theorem mem_items_iff {a : α} : a ∈ w.items ↔ ∃ n, w.get? n = some a := by
  unfold get?
  constructor
  · intro ha
    obtain ⟨i, hi, rfl⟩ := List.getElem_of_mem ha
    refine ⟨w.first + i, ?_⟩
    rw [if_pos (Nat.le_add_right _ _), Nat.add_sub_cancel_left, List.getElem?_eq_getElem hi]
  · rintro ⟨n, hn⟩
    split at hn
    · exact List.mem_of_getElem? hn
    · cases hn

theorem length_items : w.items.length = w.next - w.first := by
  unfold next
  omega

/-- 各要素から自分の番号が読めるなら、窓の要素は互いに異なる。 -/
theorem nodup_items {f : α → Nat} (hf : ∀ n a, w.get? n = some a → f a = n) : w.items.Nodup := by
  -- 要素の番号の列は `first` から一つずつ増える列である
  have hmap : w.items.map f = List.range' w.first w.items.length := by
    refine List.ext_getElem (by simp) (fun i h₁ h₂ => ?_)
    rw [List.getElem_map, List.getElem_range', Nat.one_mul]
    apply hf
    unfold get?
    rw [if_pos (Nat.le_add_right _ _), Nat.add_sub_cancel_left,
      List.getElem?_eq_getElem (by simpa using h₁)]
  exact List.Nodup.of_map f (hmap ▸ List.nodup_range')

theorem get?_eq_none_of_lt_first {n : Nat} (h : n < w.first) : w.get? n = none := by
  simp [get?, Nat.not_le.mpr h]

theorem get?_eq_none_of_next_le {n : Nat} (h : w.next ≤ n) : w.get? n = none := by
  have : ¬ (w.get? n).isSome := fun hs => by have := (isSome_get?_iff.mp hs).2; omega
  simpa using this

theorem get?_push (a : α) (n : Nat) :
    (w.push a).get? n = if n = w.next then some a else w.get? n := by
  unfold get? push next
  dsimp only
  by_cases hf : w.first ≤ n
  · rw [if_pos hf, List.getElem?_append]
    by_cases hlt : n - w.first < w.items.length
    · rw [if_pos hlt, if_neg (by omega), if_pos hf]
    · rw [if_neg hlt, List.getElem?_singleton]
      by_cases hn : n = w.first + w.items.length
      · rw [if_pos (by omega), if_pos hn]
      · rw [if_neg (by omega), if_neg hn, if_pos hf, List.getElem?_eq_none (by omega)]
  · rw [if_neg hf, if_neg (by omega), if_neg hf]

theorem isSome_get?_push {n : Nat} (a : α) (h : (w.get? n).isSome) : ((w.push a).get? n).isSome := by
  rw [isSome_get?_iff] at h ⊢
  rw [next_push, first_push]
  omega

@[simp] theorem last_push (a : α) : (w.push a).last = some a := by
  simp [last, get?_push]

theorem get?_dropTo (m n : Nat) : (w.dropTo m).get? n = if n < m then none else w.get? n := by
  unfold dropTo
  split
  · next hm =>
    split
    · next hn => exact get?_eq_none_of_lt_first (by omega)
    · rfl
  · next hm =>
    unfold get?
    simp only [List.getElem?_drop]
    by_cases hn : n < m
    · simp [hn, Nat.not_le.mpr hn]
    · have h₁ : m ≤ n := by omega
      have h₂ : w.first ≤ n := by omega
      simp only [hn, h₁, h₂, if_true, if_false]
      congr 1
      omega

/-- 前を捨てたとき、消えるのは `[first, m)` の番号である。 -/
theorem get?_dropTo_eq (m n : Nat) :
    (w.dropTo m).get? n = if w.first ≤ n ∧ n < m then none else w.get? n := by
  rw [get?_dropTo]
  by_cases hn : n < m
  · by_cases hf : w.first ≤ n
    · rw [if_pos hn, if_pos ⟨hf, hn⟩]
    · rw [if_pos hn, if_neg (fun h => hf h.1), get?_eq_none_of_lt_first (by omega)]
  · rw [if_neg hn, if_neg (fun h => hn h.2)]

theorem dropTo_of_le {m : Nat} (h : m ≤ w.first) : w.dropTo m = w := by
  simp [dropTo, h]

@[simp] theorem first_dropTo_of_le {m : Nat} (h : w.first ≤ m) : (w.dropTo m).first = m := by
  unfold dropTo
  split
  · omega
  · rfl

theorem next_dropTo {m : Nat} (h : m ≤ w.next) : (w.dropTo m).next = w.next := by
  unfold dropTo next
  split
  · rfl
  · simp only [List.length_drop]
    unfold next at h
    omega

theorem last_dropTo {m : Nat} (h : m < w.next) : (w.dropTo m).last = w.last := by
  unfold last
  rw [next_dropTo (by omega), get?_dropTo, if_neg (by omega)]

/-! ## 空の窓 -/

/-- 窓が空なのは、まだ何も足していないときだけであること。 -/
def Settled : Prop := 0 < w.next → w.first < w.next

theorem settled_empty : (empty 0 : Window α).Settled := by
  simp [Settled, empty, next]

theorem Settled.push (a : α) : (w.push a).Settled := by
  simp only [Settled, next_push, first_push]
  have := w.first_le_next
  omega

theorem Settled.dropTo (hne : w.Settled) {m : Nat} (hm : m < w.next) : (w.dropTo m).Settled := by
  unfold Settled Window.dropTo
  split
  · exact hne
  · intro _
    simp only [next, List.length_drop]
    unfold next at hm
    omega

theorem next_eq_zero_of_last_eq_none (hne : w.Settled) (h : w.last = none) : w.next = 0 := by
  by_contra h0
  have hs : (w.get? (w.next - 1)).isSome := isSome_get?_iff.mpr (by have := hne (by omega); omega)
  simp only [last] at h
  simp [h] at hs

/-! ## 窓の深さ -/

/--
窓が番号 0 から始まるか、`k` 個以上の要素を持つこと。前から捨てる側が、最後の `k` 個を
残す限り保たれる。
-/
def Deep (w : Window α) (k : Nat) : Prop := w.first = 0 ∨ w.first + k ≤ w.next

theorem deep_empty (k : Nat) : (empty 0 : Window α).Deep k := Or.inl rfl

theorem Deep.push {k : Nat} (h : w.Deep k) (a : α) : (w.push a).Deep k := by
  unfold Deep at *
  rw [first_push, next_push]
  omega

/-- 先頭を `m` へ進めても、`m` から数えて `k` 個が窓に残れば深さは保たれる。 -/
theorem Deep.dropTo_of_le {k m : Nat} (hm : w.first ≤ m) (hmk : m + k ≤ w.next) :
    (w.dropTo m).Deep k := by
  right
  rw [first_dropTo_of_le hm, next_dropTo (by omega)]
  exact hmk

/-! ## 窓の中の順序 -/

/-- 番号の順に、鍵 `key` が狭義に増えること。 -/
def Increasing {β : Type} [LT β] (key : α → β) (w : Window α) : Prop :=
  ∀ m n a b, w.get? m = some a → w.get? n = some b → m < n → key a < key b

/-- 隣り合う番号の要素が関係 `R` にあること。 -/
def Chained (R : α → α → Prop) (w : Window α) : Prop :=
  ∀ n a b, w.get? n = some a → w.get? (n + 1) = some b → R a b

section Order

variable {β : Type} [LT β] {key : α → β} {R : α → α → Prop}

theorem Increasing.push (h : w.Increasing key) {a : α}
    (ha : ∀ n b, w.get? n = some b → key b < key a) : (w.push a).Increasing key := by
  intro m n x y hx hy hmn
  rw [get?_push] at hx hy
  have hm : m ≠ w.next := by
    rintro rfl
    rw [get?_eq_none_of_next_le (by omega)] at hy
    split at hy <;> simp_all
  rw [if_neg hm] at hx
  split at hy
  · cases hy; exact ha m x hx
  · exact h m n x y hx hy hmn

theorem Increasing.dropTo (h : w.Increasing key) (m : Nat) : (w.dropTo m).Increasing key := by
  intro i j x y hx hy hij
  rw [get?_dropTo] at hx hy
  split at hx
  · cases hx
  · split at hy
    · cases hy
    · exact h i j x y hx hy hij

theorem Chained.push (h : w.Chained R) {a : α}
    (ha : ∀ b, w.get? (w.next - 1) = some b → R b a) : (w.push a).Chained R := by
  intro n x y hx hy
  rw [get?_push] at hx hy
  have hn : n ≠ w.next := by
    rintro rfl
    simp at hy
    rw [get?_eq_none_of_next_le (by omega)] at hy
    cases hy
  rw [if_neg hn] at hx
  split at hy
  · next he =>
    cases hy
    have : n = w.next - 1 := by omega
    subst this
    exact ha x hx
  · exact h n x y hx hy

theorem Chained.dropTo (h : w.Chained R) (m : Nat) : (w.dropTo m).Chained R := by
  intro n x y hx hy
  rw [get?_dropTo] at hx hy
  split at hx
  · cases hx
  · split at hy
    · cases hy
    · exact h n x y hx hy

end Order

section Linear

variable {β : Type} [LinearOrder β] {key : α → β}

/-- 鍵が狭義に増える窓では、鍵の大小は番号の大小と同じである。 -/
theorem Increasing.lt_iff (h : w.Increasing key) {m n : Nat} {a b : α} (ha : w.get? m = some a)
    (hb : w.get? n = some b) : key a < key b ↔ m < n := by
  constructor
  · intro hlt
    by_contra hge
    rcases Nat.lt_or_eq_of_le (Nat.le_of_not_lt hge) with hnm | rfl
    · exact lt_asymm hlt (h n m b a hb ha hnm)
    · rw [ha] at hb
      cases hb
      exact lt_irrefl _ hlt
  · exact h m n a b ha hb

theorem Increasing.le_iff (h : w.Increasing key) {m n : Nat} {a b : α} (ha : w.get? m = some a)
    (hb : w.get? n = some b) : key a ≤ key b ↔ m ≤ n := by
  rw [← not_lt, ← Nat.not_lt, h.lt_iff hb ha]

end Linear

section IntKey

variable {key : α → Int}

/--
鍵が整数で狭義に増える窓では、番号が離れた分だけ鍵も離れる。間の番号はみな窓の中に
あるからである。
-/
theorem Increasing.add_sub_le (h : w.Increasing key) {m n : Nat} {a b : α}
    (ha : w.get? m = some a) (hb : w.get? n = some b) (hmn : m ≤ n) :
    key a + (n - m : Nat) ≤ key b := by
  induction n generalizing b with
  | zero =>
    obtain rfl : m = 0 := by omega
    rw [ha] at hb
    cases hb
    simp
  | succ n ih =>
    rcases Nat.lt_or_eq_of_le hmn with hlt | rfl
    · -- 一つ前の番号 `n` の要素を経て数える
      have hma := isSome_get?_iff.mp (show (w.get? m).isSome by rw [ha]; rfl)
      have hnb := isSome_get?_iff.mp (show (w.get? (n + 1)).isSome by rw [hb]; rfl)
      obtain ⟨c, hc⟩ := Option.isSome_iff_exists.mp
        (isSome_get?_iff.mpr ⟨by omega, by omega⟩ : (w.get? n).isSome)
      have hac := ih hc (by omega)
      have hcb := h n (n + 1) c b hc hb (by omega)
      have hsub : ((n + 1 - m : Nat) : Int) = (n - m : Nat) + 1 := by omega
      rw [hsub]
      omega
    · rw [ha] at hb
      cases hb
      simp

end IntKey

end Window

end Infra
