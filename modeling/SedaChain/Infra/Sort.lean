import Mathlib

/-!
# 鍵による整列

Go の `sort.Slice`、`sort.Strings`、`slices.SortFunc` はどれも安定ではない。
同じ鍵を持つ要素どうしの順は実装任せである。

それでも、鍵の全順序で並べた結果は **鍵が要素ごとに異なる限り** 一つに決まる。
ここでは整列を `List.insertionSort` で表し、その一意性を示す。挿入整列は構造的な再帰
なので、具体的な入力での走りをそのまま評価できる。

* `sortByKey_eq_of_perm` — 入力をどう並べ替えても結果は同じ
* `sortAsc_eq_of_perm` — 値そのもので並べるときは鍵の単射性が要らない

使う側では「Go の整列が返す並び」と「`insertionSort` の返す並び」が、整列済みで
元の並べ替えであることだけから一致する（`List.Perm.eq_of_pairwise`）。
-/

namespace Infra

variable {α β : Type}

/-! ## 定義 -/

section Defs

variable [LE β] [DecidableLE β]

/-- 鍵 `key` の昇順に並べる。同じ鍵の要素の順は規定しない。 -/
def sortByKey (key : α → β) (l : List α) : List α :=
  l.insertionSort (fun a b => key a ≤ key b)

/-- 値そのものの昇順に並べる。Go の `sort.Strings` や byte 列の `sort.Slice` にあたる。 -/
def sortAsc (l : List β) : List β :=
  sortByKey id l

theorem sortByKey_perm (key : α → β) (l : List α) : (sortByKey key l).Perm l :=
  List.perm_insertionSort _ _

@[simp] theorem mem_sortByKey {key : α → β} {l : List α} {a : α} :
    a ∈ sortByKey key l ↔ a ∈ l :=
  (sortByKey_perm key l).mem_iff

@[simp] theorem length_sortByKey (key : α → β) (l : List α) :
    (sortByKey key l).length = l.length :=
  (sortByKey_perm key l).length_eq

theorem sortAsc_perm (l : List β) : (sortAsc l).Perm l :=
  sortByKey_perm id l

@[simp] theorem mem_sortAsc {l : List β} {b : β} : b ∈ sortAsc l ↔ b ∈ l :=
  (sortAsc_perm l).mem_iff

@[simp] theorem length_sortAsc (l : List β) : (sortAsc l).length = l.length :=
  (sortAsc_perm l).length_eq

end Defs

/-! ## 一意性 -/

section Unique

variable [LE β] [DecidableLE β] [Std.IsLinearOrder β]

/-- 整列の結果は鍵について昇順である。 -/
theorem pairwise_sortByKey (key : α → β) (l : List α) :
    (sortByKey key l).Pairwise (fun a b => key a ≤ key b) := by
  -- 鍵で引き戻した順序も全順序で推移的である
  have : Std.Total (fun a b : α => key a ≤ key b) := ⟨fun a b => Std.le_total⟩
  have : IsTrans α (fun a b : α => key a ≤ key b) := ⟨fun a b c => Std.le_trans⟩
  exact List.pairwise_insertionSort _ l

/--
**鍵が要素ごとに異なれば、整列の結果は入力の並びに依らない。**

二つの入力が互いの並べ替えなら、どちらの結果も同じ要素の昇順の並びである。
鍵の等しい二要素は同じ要素なので、昇順の並びはただ一つに決まる。
-/
theorem sortByKey_eq_of_perm {key : α → β} {l₁ l₂ : List α}
    (hinj : ∀ a ∈ l₁, ∀ b ∈ l₁, key a = key b → a = b) (h : l₁.Perm l₂) :
    sortByKey key l₁ = sortByKey key l₂ := by
  have hp : (sortByKey key l₁).Perm (sortByKey key l₂) :=
    (sortByKey_perm key l₁).trans (h.trans (sortByKey_perm key l₂).symm)
  refine hp.eq_of_pairwise ?_ (pairwise_sortByKey key l₁) (pairwise_sortByKey key l₂)
  intro a b ha hb hab hba
  have ha₁ : a ∈ l₁ := by simpa using ha
  have hb₁ : b ∈ l₁ := by simpa using hp.symm.subset hb
  exact hinj a ha₁ b hb₁ (Std.le_antisymm hab hba)

/-- 値そのもので並べるなら、入力の並びに依らない。 -/
theorem sortAsc_eq_of_perm {l₁ l₂ : List β} (h : l₁.Perm l₂) : sortAsc l₁ = sortAsc l₂ :=
  sortByKey_eq_of_perm (fun _ _ _ _ hab => hab) h

end Unique

end Infra
