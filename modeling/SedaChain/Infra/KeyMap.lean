import Mathlib

/-!
# 鍵の重複しない対応表

鍵と値の組の列で、鍵が重複しないもの。二つの使い道がある。

* Go の `map`。`range` で列挙する順は実行ごとに変わるので、列挙の順を `entries` の並びとして
  持ち、同じ内容の二つの列挙を `SameMap`（並べ替え）で表す。
* KV store の collection。中身だけが意味を持つ。`get?` で読み、`set`、`erase`、`filter`
  （範囲の `Clear`）で書く。

中身が同じであることは `get?` が一致することで言う（`get?_eq_of_perm`）。値を持たない
collection（`KeySet`）は値を `Unit` とし、条件を満たす鍵の数が書き込みでどれだけ変わるかを
`length_filter_keys_set_le` と `length_filter_keys_erase_le` で言う。
-/

namespace Infra

/-- 鍵の重複しない対応表。 -/
structure KeyMap (κ ν : Type) where
  entries : List (κ × ν)
  nodup : (entries.map Prod.fst).Nodup
deriving DecidableEq

namespace KeyMap

variable {κ ν : Type} [DecidableEq κ]

/-! ## 読む -/

/-- 空の表。 -/
def empty : KeyMap κ ν := ⟨[], List.nodup_nil⟩

/-- 鍵 `k` の値。 -/
def get? (m : KeyMap κ ν) (k : κ) : Option ν := m.entries.lookup k

/-- 鍵 `k` を持つか。 -/
def contains (m : KeyMap κ ν) (k : κ) : Bool := (m.get? k).isSome

/-- 組の個数（Go の `len`）。 -/
def size (m : KeyMap κ ν) : Nat := m.entries.length

/-- 鍵の列（列挙の順）。 -/
def keys (m : KeyMap κ ν) : List κ := m.entries.map Prod.fst

@[simp] theorem get?_empty (k : κ) : (empty : KeyMap κ ν).get? k = none := rfl

theorem lookup_eq_some_iff_mem {l : List (κ × ν)} (hd : (l.map Prod.fst).Nodup) {k : κ} {v : ν} :
    l.lookup k = some v ↔ (k, v) ∈ l := by
  induction l with
  | nil => simp
  | cons p l ih =>
    obtain ⟨k', v'⟩ := p
    simp only [List.map_cons, List.nodup_cons, List.mem_map] at hd
    rw [List.lookup_cons, List.mem_cons]
    by_cases hk : k = k'
    · subst hk
      have hnot : (k, v) ∉ l := fun hm => hd.1 ⟨(k, v), hm, rfl⟩
      simp [hnot, eq_comm]
    · have hne : (k == k') = false := by simpa using hk
      rw [hne, ih hd.2]
      simp [hk]

/-- 中身は `get?` で決まる：組が表にあることと `get?` が値を返すことは同じである。 -/
theorem get?_eq_some_iff (m : KeyMap κ ν) {k : κ} {v : ν} : m.get? k = some v ↔ (k, v) ∈ m.entries :=
  lookup_eq_some_iff_mem m.nodup

theorem contains_iff (m : KeyMap κ ν) {k : κ} : m.contains k = true ↔ k ∈ m.keys := by
  simp only [contains, get?, keys, List.lookup_isSome_iff, List.mem_map, beq_iff_eq]
  exact ⟨fun ⟨p, hp, h⟩ => ⟨p, hp, h.symm⟩, fun ⟨p, hp, h⟩ => ⟨p, hp, h.symm⟩⟩

/-! ## 二つの列挙 -/

/-- 同じ map の二つの列挙（Go の `range` の順の違い）。 -/
def SameMap (m₁ m₂ : KeyMap κ ν) : Prop := m₁.entries.Perm m₂.entries

omit [DecidableEq κ] in
theorem SameMap.symm {m₁ m₂ : KeyMap κ ν} (h : m₁.SameMap m₂) : m₂.SameMap m₁ :=
  List.Perm.symm h

omit [DecidableEq κ] in
theorem SameMap.size_eq {m₁ m₂ : KeyMap κ ν} (h : m₁.SameMap m₂) : m₁.size = m₂.size :=
  h.length_eq

omit [DecidableEq κ] in
theorem SameMap.keys_perm {m₁ m₂ : KeyMap κ ν} (h : m₁.SameMap m₂) : m₁.keys.Perm m₂.keys :=
  h.map _

/-- 鍵が重複しなければ、並べ替えても `get?` は変わらない。 -/
theorem SameMap.get?_eq {m₁ m₂ : KeyMap κ ν} (h : m₁.SameMap m₂) (k : κ) :
    m₁.get? k = m₂.get? k := by
  unfold get?
  cases h₁ : m₁.entries.lookup k with
  | none =>
    cases h₂ : m₂.entries.lookup k with
    | none => rfl
    | some v =>
      rw [lookup_eq_some_iff_mem m₂.nodup] at h₂
      have := (lookup_eq_some_iff_mem m₁.nodup).mpr (List.Perm.mem_iff h |>.mpr h₂)
      rw [h₁] at this; cases this
  | some v =>
    rw [lookup_eq_some_iff_mem m₁.nodup] at h₁
    exact ((lookup_eq_some_iff_mem m₂.nodup).mpr (List.Perm.mem_iff h |>.mp h₁)).symm

theorem SameMap.contains_eq {m₁ m₂ : KeyMap κ ν} (h : m₁.SameMap m₂) (k : κ) :
    m₁.contains k = m₂.contains k := by
  simp [contains, h.get?_eq k]

/-! ## 書く -/

/-- 鍵 `k` を値 `v` にする。あれば置き換え、無ければ末尾に足す。 -/
def set (m : KeyMap κ ν) (k : κ) (v : ν) : KeyMap κ ν :=
  if hk : m.contains k then
    ⟨m.entries.map (fun p => if p.1 = k then (k, v) else p), by
      rw [List.map_map]
      have : (Prod.fst ∘ fun p : κ × ν => if p.1 = k then (k, v) else p) = Prod.fst := by
        funext p; by_cases h : p.1 = k <;> simp [h]
      rw [this]; exact m.nodup⟩
  else
    ⟨m.entries ++ [(k, v)], by
      rw [List.map_append, List.nodup_append]
      refine ⟨m.nodup, by simp, ?_⟩
      intro a ha b hb hab
      simp only [List.map_cons, List.map_nil, List.mem_singleton] at hb
      subst hb hab
      exact hk ((contains_iff m).mpr ha)⟩

/-- 鍵の条件 `p` を満たす組だけを残す。 -/
def filter (m : KeyMap κ ν) (p : κ → Bool) : KeyMap κ ν :=
  ⟨m.entries.filter (fun e => p e.1), by
    have hs : ((m.entries.filter fun e => p e.1).map Prod.fst).Sublist (m.entries.map Prod.fst) :=
      List.filter_sublist.map _
    exact hs.nodup m.nodup⟩

/-- 鍵 `k` を消す。無ければ何もしない。 -/
def erase (m : KeyMap κ ν) (k : κ) : KeyMap κ ν :=
  m.filter (fun k' => k' ≠ k)

theorem lookup_filter {l : List (κ × ν)} (p : κ → Bool) (k : κ) :
    (l.filter fun e => p e.1).lookup k = if p k then l.lookup k else none := by
  induction l with
  | nil => simp
  | cons e l ih =>
    obtain ⟨k', v'⟩ := e
    rw [List.filter_cons]
    by_cases hk : k = k'
    · subst hk
      by_cases hp : p k <;> simp [hp, ih]
    · have hne : (k == k') = false := by simpa using hk
      split <;> simp [List.lookup_cons, hne, ih]

@[simp] theorem get?_filter (m : KeyMap κ ν) (p : κ → Bool) (k : κ) :
    (m.filter p).get? k = if p k then m.get? k else none :=
  lookup_filter p k

/--
鍵が組 `(b, k)` の表で、前の成分が `b` の組の後ろの成分は重複しない。collection の鍵の
前の部分で絞って読むときに使う。
-/
theorem nodup_map_snd_filter {β κ' : Type} [DecidableEq β] [DecidableEq κ'] (m : KeyMap (β × κ') ν)
    (b : β) : ((m.entries.filter fun e => decide (e.1.1 = b)).map fun e => e.1.2).Nodup := by
  have hkeys : ((m.entries.filter fun e => decide (e.1.1 = b)).map Prod.fst).Nodup :=
    m.nodup.sublist (List.filter_sublist.map _)
  -- 前の成分がどれも `b` なので、後ろの成分だけで鍵が分かる
  have hinj : ∀ x ∈ (m.entries.filter fun e => decide (e.1.1 = b)).map Prod.fst,
      ∀ y ∈ (m.entries.filter fun e => decide (e.1.1 = b)).map Prod.fst, x.2 = y.2 → x = y := by
    intro x hx y hy hxy
    simp only [List.mem_map, List.mem_filter, decide_eq_true_eq] at hx hy
    obtain ⟨ex, ⟨-, hex⟩, rfl⟩ := hx
    obtain ⟨ey, ⟨-, hey⟩, rfl⟩ := hy
    exact Prod.ext (hex.trans hey.symm) hxy
  have := hkeys.map_on hinj
  rwa [List.map_map] at this

/-- 範囲を消す `filter` の形。 -/
theorem get?_filter_not (m : KeyMap κ ν) (p : κ → Prop) [DecidablePred p] (k : κ) :
    (m.filter fun k => !decide (p k)).get? k = if p k then none else m.get? k := by
  rw [get?_filter]
  by_cases h : p k <;> simp [h]

@[simp] theorem get?_erase (m : KeyMap κ ν) (k k' : κ) :
    (m.erase k).get? k' = if k' = k then none else m.get? k' := by
  simp [erase]

theorem lookup_map_replace {l : List (κ × ν)} {k k' : κ} (v : ν) (hk' : k' ≠ k) :
    (l.map fun p => if p.1 = k then (k, v) else p).lookup k' = l.lookup k' := by
  induction l with
  | nil => rfl
  | cons e l ih =>
    obtain ⟨k₀, v₀⟩ := e
    by_cases h0 : k₀ = k
    · subst h0
      have hne : (k' == k₀) = false := by simpa using hk'
      simp [List.lookup_cons, hne, ih]
    · simp only [List.map_cons, h0, if_false, List.lookup_cons]
      split <;> simp_all

@[simp] theorem get?_set (m : KeyMap κ ν) (k k' : κ) (v : ν) :
    (m.set k v).get? k' = if k' = k then some v else m.get? k' := by
  by_cases hk' : k' = k
  · subst hk'
    rw [if_pos rfl, get?_eq_some_iff]
    unfold set
    split
    · next hc =>
      obtain ⟨v₀, hv₀⟩ := Option.isSome_iff_exists.mp hc
      rw [get?_eq_some_iff] at hv₀
      exact List.mem_map.mpr ⟨(k', v₀), hv₀, by simp⟩
    · simp
  · rw [if_neg hk']
    unfold set get?
    split
    · exact lookup_map_replace v hk'
    · rw [List.lookup_append]
      cases m.entries.lookup k' <;> simp [hk']

/-- 続けて書いた後にある鍵は、書いた鍵か、もとからあった鍵である。 -/
theorem isSome_get?_foldl_set {α : Type} (f : α → κ) (g : α → ν) :
    ∀ (l : List α) (m : KeyMap κ ν) (k : κ),
      ((l.foldl (fun m x => m.set (f x) (g x)) m).get? k).isSome →
        (∃ x ∈ l, f x = k) ∨ (m.get? k).isSome
  | [], _, _, h => .inr h
  | x :: l, m, k, h => by
    rcases isSome_get?_foldl_set f g l _ k h with ⟨y, hy, hyk⟩ | h'
    · exact .inl ⟨y, List.mem_cons_of_mem _ hy, hyk⟩
    · rw [get?_set] at h'
      split at h'
      · next hk => exact .inl ⟨x, List.mem_cons_self, hk.symm⟩
      · exact .inr h'

/-- 続けて書いたどれも鍵 `k` に書かなければ、`k` の値は変わらない。 -/
theorem get?_foldl_set_of_not_mem {α : Type} (f : α → κ) (g : α → ν) :
    ∀ (l : List α) (m : KeyMap κ ν) (k : κ), (∀ x ∈ l, f x ≠ k) →
      (l.foldl (fun m x => m.set (f x) (g x)) m).get? k = m.get? k
  | [], _, _, _ => rfl
  | x :: l, m, k, h => by
    rw [List.foldl_cons, get?_foldl_set_of_not_mem f g l _ k
      (fun y hy => h y (List.mem_cons_of_mem _ hy)), get?_set,
      if_neg (Ne.symm (h x List.mem_cons_self))]

/-- 続けて書いたどれかが鍵 `k` に書けば、`k` の値は `k` に書いたどれか（最後のもの）の値である。 -/
theorem get?_foldl_set_of_mem {α : Type} (f : α → κ) (g : α → ν) :
    ∀ (l : List α) (m : KeyMap κ ν) (k : κ), (∃ x ∈ l, f x = k) →
      ∃ x ∈ l, f x = k ∧ (l.foldl (fun m x => m.set (f x) (g x)) m).get? k = some (g x)
  | [], _, _, ⟨_, hx, _⟩ => absurd hx List.not_mem_nil
  | x :: l, m, k, hk => by
    by_cases hl : ∃ y ∈ l, f y = k
    · obtain ⟨y, hy, hyk, hget⟩ := get?_foldl_set_of_mem f g l (m.set (f x) (g x)) k hl
      exact ⟨y, List.mem_cons_of_mem _ hy, hyk, hget⟩
    · -- 後ろのどれも `k` に書かないので、先頭の書き込みが残る
      have hrest : ∀ y ∈ l, f y ≠ k := fun y hy hyk => hl ⟨y, hy, hyk⟩
      have hxk : f x = k := by
        obtain ⟨y, hy, hyk⟩ := hk
        rcases List.mem_cons.mp hy with rfl | hy
        · exact hyk
        · exact absurd hyk (hrest y hy)
      refine ⟨x, List.mem_cons_self, hxk, ?_⟩
      rw [List.foldl_cons, get?_foldl_set_of_not_mem f g l _ k hrest, get?_set, if_pos hxk.symm]

/-! ## 鍵の集まり -/

@[simp] theorem contains_set (m : KeyMap κ ν) (k k' : κ) (v : ν) :
    (m.set k v).contains k' = (decide (k' = k) || m.contains k') := by
  by_cases hk : k' = k <;> simp [contains, hk]

@[simp] theorem contains_erase (m : KeyMap κ ν) (k k' : κ) :
    (m.erase k).contains k' = (!decide (k' = k) && m.contains k') := by
  by_cases hk : k' = k <;> simp [contains, hk]

@[simp] theorem mem_keys_set (m : KeyMap κ ν) (k k' : κ) (v : ν) :
    k' ∈ (m.set k v).keys ↔ k' = k ∨ k' ∈ m.keys := by
  rw [← contains_iff, ← contains_iff, contains_set]
  simp

@[simp] theorem mem_keys_erase (m : KeyMap κ ν) (k k' : κ) :
    k' ∈ (m.erase k).keys ↔ k' ∈ m.keys ∧ k' ≠ k := by
  rw [← contains_iff, ← contains_iff, contains_erase]
  simp [and_comm]

omit [DecidableEq κ] in
/-- 条件 `p` を満たす鍵がどれも列 `l` にあれば、その鍵の数は `l` の長さを超えない。 -/
theorem length_filter_keys_le (m : KeyMap κ ν) (p : κ → Bool) {l : List κ}
    (h : ∀ x ∈ m.keys, p x = true → x ∈ l) : (m.keys.filter p).length ≤ l.length := by
  have hsub : m.keys.filter p ⊆ l := fun x hx => h x (List.mem_filter.mp hx).1 (List.mem_filter.mp hx).2
  exact ((m.nodup.filter p).subperm hsub).length_le

/-- 鍵を一つ書けば、条件を満たす鍵は高々一つ増える。 -/
theorem length_filter_keys_set_le (m : KeyMap κ ν) (k : κ) (v : ν) (p : κ → Bool) :
    ((m.set k v).keys.filter p).length ≤ (m.keys.filter p).length + 1 := by
  have := length_filter_keys_le (m.set k v) p (l := k :: m.keys.filter p) fun x hx hp => by
    rcases (mem_keys_set m k x v).mp hx with rfl | hx
    · exact List.mem_cons_self
    · exact List.mem_cons_of_mem _ (List.mem_filter.mpr ⟨hx, hp⟩)
  simpa using this

/-- 条件を満たさない鍵を書いても、条件を満たす鍵は増えない。 -/
theorem length_filter_keys_set_of_not (m : KeyMap κ ν) {k : κ} (v : ν) {p : κ → Bool}
    (hk : p k = false) : ((m.set k v).keys.filter p).length ≤ (m.keys.filter p).length :=
  length_filter_keys_le (m.set k v) p fun x hx hp => by
    rcases (mem_keys_set m k x v).mp hx with rfl | hx
    · rw [hk] at hp
      cases hp
    · exact List.mem_filter.mpr ⟨hx, hp⟩

/-- 鍵を消しても、条件を満たす鍵は増えない。 -/
theorem length_filter_keys_erase_le (m : KeyMap κ ν) (k : κ) (p : κ → Bool) :
    ((m.erase k).keys.filter p).length ≤ (m.keys.filter p).length :=
  length_filter_keys_le (m.erase k) p fun x hx hp =>
    List.mem_filter.mpr ⟨((mem_keys_erase m k x).mp hx).1, hp⟩

/-- 数え上げの表で鍵 `k` の数を一つ増やす（Go の `m[k]++`）。 -/
def incr (m : KeyMap κ Nat) (k : κ) : KeyMap κ Nat :=
  m.set k ((m.get? k).getD 0 + 1)

@[simp] theorem get?_incr (m : KeyMap κ Nat) (k k' : κ) :
    (m.incr k).get? k' = if k' = k then some ((m.get? k).getD 0 + 1) else m.get? k' := by
  simp [incr]

/-! ## 条件で探す -/

/-- 条件を満たす組が一つだけなら、列挙の順に探した最初の組はその組である。 -/
theorem find?_entries_eq_some (m : KeyMap κ ν) {p : κ × ν → Bool} {k : κ} {v : ν}
    (hkv : m.get? k = some v) (hp : p (k, v) = true)
    (huniq : ∀ k' v', m.get? k' = some v' → p (k', v') = true → k' = k) :
    m.entries.find? p = some (k, v) := by
  cases hfind : m.entries.find? p with
  | none =>
    have := List.find?_eq_none.mp hfind (k, v) ((get?_eq_some_iff m).mp hkv)
    exact absurd hp this
  | some x =>
    obtain ⟨k', v'⟩ := x
    have hget' : m.get? k' = some v' := (get?_eq_some_iff m).mpr (List.mem_of_find?_eq_some hfind)
    obtain rfl := huniq k' v' hget' (List.find?_some hfind)
    rw [hkv, Option.some.injEq] at hget'
    rw [hget']

end KeyMap

end Infra
