import SedaChain.Merkle.Tree

/-!
# Merkle 証明（`app/utils/merkle_proof.go`）

`GetProof` は `RootFromEntries` と同じ木を作り、欲しい entry の hash を
**木全体の中で最初に** 見つけた位置から根まで兄弟を集める。

hash を任意の関数とすると、entry の hash が内部節点の値と偶然一致することも、
重複した entry が別の位置で見つかることもある。それでも証明は通る。
`Infra.HeapTree.foldl_path` は出発点を問わないからである。

* `proofLoop_eq_path` — 証明を作るループは `HeapTree.path` を返す
* `processProof_path` — その兄弟を畳み込むと根に戻る
* `VerifyProof_GetProof` — **完全性**：どの添字の entry の証明も検証を通る
-/

namespace SedaChain.Utils

open Infra

variable (keccak : Bytes → Bytes)

/-! ## 添字 -/

/-- `parentIndex`。根には親が無い。 -/
def parentIndex (i : Nat) : Except String Nat :=
  if i = 0 then .error "root has no parent" else .ok ((i - 1) / 2)

/-- `siblingIndex`。根には兄弟が無い。 -/
def siblingIndex (i : Nat) : Except String Nat :=
  if i = 0 then .error "root has no siblings"
  else if i % 2 = 0 then .ok (i - 1) else .ok (i + 1)

theorem parentIndex_pos {i : Nat} (h : 0 < i) : parentIndex i = .ok (HeapTree.parent i) := by
  simp [parentIndex, HeapTree.parent, Nat.pos_iff_ne_zero.mp h]

theorem siblingIndex_pos {i : Nat} (h : 0 < i) : siblingIndex i = .ok (HeapTree.sibling i) := by
  unfold siblingIndex HeapTree.sibling
  rw [if_neg (by omega)]
  split <;> rfl

theorem lt_of_parentIndex {i p : Nat} (h : parentIndex i = .ok p) : p < i := by
  unfold parentIndex at h
  split at h
  · cases h
  · cases h; omega

/-! ## 証明の生成 -/

/-- `for treeIndex > 0 { … }`。兄弟を集めながら親へ上る。 -/
def proofLoop (tree : List Bytes) (treeIndex : Nat) : Except String (List Bytes) :=
  if treeIndex > 0 then
    match siblingIndex treeIndex with
    | .error e => .error e
    | .ok s =>
      match _hp : parentIndex treeIndex with
      | .error e => .error e
      | .ok p => (proofLoop tree p).map (treeAt tree s :: ·)
  else .ok []
termination_by treeIndex
decreasing_by exact lt_of_parentIndex _hp

/-- `GetProof`。`index` の entry の Merkle 証明。 -/
def GetProof (entries : List Bytes) (index : Int) : Except String (List Bytes) :=
  if index < 0 ∨ index ≥ entries.length then .error s!"index {index} is out of bounds"
  else if entries.length = 1 then .ok []
  else
    let tree := buildTree keccak (entryLeaves keccak entries)
    let want := leafHash keccak (entries.getD index.toNat [])
    match tree.findIdx? (fun x => x == want) with
    | none => .error "entry not found in tree"
    | some treeIndex => proofLoop tree treeIndex

/-- `processProof`。entry の hash から始めて、証明の兄弟と順に `parentHash` する。 -/
def processProof (proof : List Bytes) (entry : Bytes) : Bytes :=
  proof.foldl (parentHash keccak) (leafHash keccak entry)

/-- `VerifyProof`。 -/
def VerifyProof (proof : List Bytes) (root entry : Bytes) : Bool :=
  processProof keccak proof entry == root

/-- ループは根まで上り切り、`HeapTree.path` をそのまま返す。 -/
theorem proofLoop_eq_path (tree : List Bytes) :
    ∀ j, proofLoop tree j = .ok (HeapTree.path (treeAt tree) j) := by
  intro j
  induction j using Nat.strongRecOn with
  | _ j ih =>
    rcases Nat.eq_zero_or_pos j with rfl | hpos
    · rw [proofLoop, HeapTree.path_zero]; rfl
    · rw [proofLoop, if_pos hpos, HeapTree.path_pos _ hpos]
      simp only [siblingIndex_pos hpos]
      split
      · next e he => rw [parentIndex_pos hpos] at he; cases he
      · next p hp =>
        rw [parentIndex_pos hpos] at hp
        cases hp
        rw [ih _ (HeapTree.parent_lt hpos)]
        rfl

/-! ## 完全性 -/

/-- 木の中の値 `tree[j]` から根まで兄弟を畳み込むと、木の根に戻る。 -/
theorem processProof_path {entries : List Bytes} (hne : entries ≠ []) {j : Nat}
    (hj : j < (buildTree keccak (entryLeaves keccak entries)).length) :
    (HeapTree.path (treeAt (buildTree keccak (entryLeaves keccak entries))) j).foldl
        (parentHash keccak) (treeAt (buildTree keccak (entryLeaves keccak entries)) j)
      = RootFromEntries keccak entries := by
  have hl : entryLeaves keccak entries ≠ [] := by
    simpa [entryLeaves, ← List.length_pos_iff] using List.length_pos_iff.mpr hne
  have hlen := length_buildTree keccak hl
  rw [HeapTree.foldl_path (parentHash_comm keccak) (buildTree_closed keccak hl) j (by omega),
    RootFromEntries, head_eq_treeAt_zero]

/-- 欲しい hash は木の中で見つかり、見つかった位置の値はその hash である。 -/
theorem findIdx_want {entries : List Bytes} {i : Nat} (hi : i < entries.length) :
    ∃ j, (buildTree keccak (entryLeaves keccak entries)).findIdx?
        (fun x => x == leafHash keccak (entries.getD i [])) = some j ∧
      j < (buildTree keccak (entryLeaves keccak entries)).length ∧
      treeAt (buildTree keccak (entryLeaves keccak entries)) j
        = leafHash keccak (entries.getD i []) := by
  have hmem : leafHash keccak (entries.getD i []) ∈ entryLeaves keccak entries := by
    rw [entryLeaves, mem_sortAsc]
    exact List.mem_map_of_mem (by rw [List.getD_eq_getElem _ _ hi]; exact List.getElem_mem hi)
  obtain ⟨j₀, hj₀, hv⟩ := mem_buildTree_of_mem keccak hmem
  rw [treeAt, List.getD_eq_getElem _ _ hj₀] at hv
  have hex : ∃ x, x ∈ buildTree keccak (entryLeaves keccak entries) ∧
      (x == leafHash keccak (entries.getD i [])) = true :=
    ⟨_, List.getElem_mem hj₀, by rw [hv]; exact beq_self_eq_true _⟩
  obtain ⟨hlt, hp, -⟩ := List.findIdx?_eq_some_iff_getElem.mp (List.findIdx?_eq_some_of_exists hex)
  refine ⟨_, List.findIdx?_eq_some_of_exists hex, hlt, ?_⟩
  rw [treeAt, List.getD_eq_getElem _ _ hlt]
  exact beq_iff_eq.mp hp

/--
**Merkle 証明の完全性。**

空でない entry の列（重複を許す）と添字 `i < len(entries)` について、
`GetProof` は失敗せず、その証明は `RootFromEntries` の根に対して `entries[i]` を検証する。
hash は任意の関数でよい。
-/
theorem VerifyProof_GetProof (entries : List Bytes) (i : Nat) (hi : i < entries.length) :
    ∃ proof, GetProof keccak entries i = .ok proof ∧
      VerifyProof keccak proof (RootFromEntries keccak entries) (entries.get ⟨i, hi⟩) = true := by
  have hne : entries ≠ [] := List.ne_nil_of_length_pos (by omega)
  have hget : entries.getD i [] = entries.get ⟨i, hi⟩ := List.getD_eq_getElem _ _ hi
  by_cases h1 : entries.length = 1
  · -- entry が一つなら証明は空で、根はその entry の hash そのものである。
    have hi0 : i = 0 := by omega
    subst hi0
    refine ⟨[], by simp [GetProof, h1], ?_⟩
    obtain ⟨e, rfl⟩ := List.length_eq_one_iff.mp h1
    simp [VerifyProof, processProof, RootFromEntries, entryLeaves, sortAsc, sortByKey,
      buildTree, HeapTree.fill]
  · obtain ⟨j, hfind, hj, hval⟩ := findIdx_want keccak hi
    refine ⟨HeapTree.path (treeAt (buildTree keccak (entryLeaves keccak entries))) j, ?_, ?_⟩
    · have hrange : ¬((i : Int) < 0 ∨ (i : Int) ≥ entries.length) := by omega
      simp only [GetProof, if_neg hrange, if_neg h1, Int.toNat_natCast, hfind]
      exact proofLoop_eq_path _ j
    · rw [VerifyProof, processProof, ← hget, ← hval, processProof_path keccak hne hj]
      simp

/-- 三つの entry の真ん中について、`keccak` を恒等関数にしても証明が通る。 -/
theorem VerifyProof_GetProof_three :
    1 < ([[1], [2], [3]] : List Bytes).length ∧
      ∃ proof, GetProof id [[1], [2], [3]] 1 = .ok proof ∧
        VerifyProof id proof (RootFromEntries id [[1], [2], [3]]) [2] = true :=
  ⟨by decide, VerifyProof_GetProof id [[1], [2], [3]] 1 (by decide)⟩

end SedaChain.Utils
