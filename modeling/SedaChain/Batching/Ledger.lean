import SedaChain.Batching.Run
import SedaChain.Infra.List

/-!
# data result はちょうど一度 batch に入る

batching の store の data result を、未 batch と batch 済みの二つの状態と、batch 番号の
割り当てで読む。genesis から、新しい data result だけを渡す走りで

* data result は二つの状態に同時には無く、未 batch のものには割り当てが無い
* batch 済みの data result には、それまでに作った batch の番号が割り当てられている
* 番号で読める batch `n` の木の entry は、`n` を割り当てた batch 済みの data result の ID
  ちょうどで、batch の `CurrentDataResultRoot` はその木の根である

が保たれ（`Ledger`、`freshReachable_ledger`）、一歩ごとに data result は変わらないか、
batch を作った一歩で未 batch のものがすべてその batch に移る（`ResultsStep`）ことを示す。
ここから、一つの ID が二つの batch の木に入らないことが出る（`Ledger.tree_ids_unique`）。

それには、ID の byte 列が data result ごとに違うことが要る。data result の鍵は
`(DrId, DrBlockHeight)` だが、ID（`TryHash`）は `DrBlockHeight` を含まず、16 進の大文字と
小文字は同じ byte 列になるので、鍵が違っても ID の byte 列は同じになりうる。新しい data
result に課すのは、鍵と ID の byte 列がどちらも store に無いことである（`Fresh`）。

* `markedStore_unbatched`, `markedStore_batched`, `markedStore_assignment` — end block が
  未 batch の data result をすべて batch 済みにした後の読み出し
* `Ledger.step` — 一歩は `Ledger` を保ち、data result を `ResultsStep` で動かす
* **`data_results_batched_once`**
-/

namespace SedaChain.Batching

open Infra Infra.Go SedaChain.Utils

/-- data result の collection の鍵の、状態を除いた部分。 -/
def DataResult.key (r : DataResult) : String × UInt64 := (r.DrId, r.DrBlockHeight)

/-! ## 未 batch の data result を並べる -/

section GetDataResults

variable {s : Store}

theorem Store.mem_GetDataResults {batched : Bool} {r : DataResult} :
    r ∈ s.GetDataResults batched ↔ ∃ k, s.dataResults.get? (batched, k) = some r := by
  simp only [Store.GetDataResults, List.mem_map, mem_sortByKey, List.mem_filter,
    KeyMap.get?_eq_some_iff]
  constructor
  · rintro ⟨⟨⟨b, k⟩, r'⟩, ⟨hmem, hb⟩, rfl⟩
    simp only [decide_eq_true_eq] at hb
    subst hb
    exact ⟨k, hmem⟩
  · rintro ⟨k, hk⟩
    exact ⟨((batched, k), r), ⟨hk, by simp⟩, rfl⟩

section Keyed

variable (hkeyed : ∀ b k r, s.dataResults.get? (b, k) = some r → r.key = k)
include hkeyed

/-- 値がその鍵を持つ store では、並べた data result はそれぞれ自分の鍵に置かれている。 -/
theorem Store.mem_GetDataResults_iff {batched : Bool} {r : DataResult} :
    r ∈ s.GetDataResults batched ↔ s.dataResults.get? (batched, r.key) = some r := by
  rw [Store.mem_GetDataResults]
  constructor
  · rintro ⟨k, hk⟩
    rw [hkeyed _ _ _ hk]
    exact hk
  · intro h
    exact ⟨_, h⟩

theorem Store.nodup_GetDataResults_key {batched : Bool} :
    ((s.GetDataResults batched).map DataResult.key).Nodup := by
  unfold Store.GetDataResults
  rw [List.map_map]
  -- 並べた組の data result の鍵は、組の鍵の後ろの部分である
  have hcongr : ∀ e ∈ sortByKey (fun e => Store.dataResultKeyBytes e.1)
      (s.dataResults.entries.filter fun e => e.1.1 = batched),
      (DataResult.key ∘ fun e => e.2) e = e.1.2 := by
    intro e he
    rw [mem_sortByKey] at he
    exact hkeyed e.1.1 e.1.2 e.2 ((KeyMap.get?_eq_some_iff _).mpr (List.mem_of_mem_filter he))
  rw [List.map_congr_left hcongr]
  exact ((sortByKey_perm _ _).map _).nodup_iff.mpr (KeyMap.nodup_map_snd_filter _ _)

theorem Store.mem_GetDataResults_key {batched : Bool} {k : String × UInt64} :
    k ∈ (s.GetDataResults batched).map DataResult.key ↔ (s.dataResults.get? (batched, k)).isSome := by
  constructor
  · intro hk
    obtain ⟨r, hr, rfl⟩ := List.mem_map.mp hk
    rw [(Store.mem_GetDataResults_iff hkeyed).mp hr]
    rfl
  · intro hk
    obtain ⟨r, hr⟩ := Option.isSome_iff_exists.mp hk
    have hrk := hkeyed _ _ _ hr
    subst hrk
    exact List.mem_map_of_mem ((Store.mem_GetDataResults_iff hkeyed).mpr hr)

end Keyed

end GetDataResults

/-! ## batch 済みにする -/

section Mark

variable {s : Store}

@[simp] theorem MarkDataResultAsBatched_unbatched (res : DataResult) (n : Nat) (k : String × UInt64) :
    (s.MarkDataResultAsBatched res n).dataResults.get? (false, k) =
      if k = res.key then none else s.dataResults.get? (false, k) := by
  unfold Store.MarkDataResultAsBatched Store.SetBatchAssignment
  rw [KeyMap.get?_set, if_neg (by simp), KeyMap.get?_erase]
  by_cases hk : k = res.key
  · rw [if_pos (by simp [hk, DataResult.key]), if_pos hk]
  · rw [if_neg (by simpa [DataResult.key] using hk), if_neg hk]

@[simp] theorem MarkDataResultAsBatched_batched (res : DataResult) (n : Nat) (k : String × UInt64) :
    (s.MarkDataResultAsBatched res n).dataResults.get? (true, k) =
      if k = res.key then some res else s.dataResults.get? (true, k) := by
  unfold Store.MarkDataResultAsBatched Store.SetBatchAssignment
  rw [KeyMap.get?_set, KeyMap.get?_erase]
  by_cases hk : k = res.key
  · rw [if_pos (by simp [hk, DataResult.key]), if_pos hk]
  · rw [if_neg (by simpa [DataResult.key] using hk), if_neg (by simp), if_neg hk]

@[simp] theorem MarkDataResultAsBatched_assignment (res : DataResult) (n : Nat) (k : String × UInt64) :
    (s.MarkDataResultAsBatched res n).batchAssignments.get? k =
      if k = res.key then some n else s.batchAssignments.get? k := by
  unfold Store.MarkDataResultAsBatched Store.SetBatchAssignment
  rw [KeyMap.get?_set]
  rfl

variable (n : Nat)

theorem foldl_MarkDataResultAsBatched_unbatched :
    ∀ (l : List DataResult) (s : Store) (k : String × UInt64),
      (l.foldl (fun s res => s.MarkDataResultAsBatched res n) s).dataResults.get? (false, k) =
        if k ∈ l.map DataResult.key then none else s.dataResults.get? (false, k)
  | [], s, k => by simp
  | res :: rest, s, k => by
    rw [List.foldl_cons, foldl_MarkDataResultAsBatched_unbatched rest, MarkDataResultAsBatched_unbatched]
    by_cases hrest : k ∈ rest.map DataResult.key
    · simp [hrest]
    · by_cases hk : k = res.key <;> simp [hrest, hk]

theorem foldl_MarkDataResultAsBatched_assignment :
    ∀ (l : List DataResult) (s : Store) (k : String × UInt64),
      (l.foldl (fun s res => s.MarkDataResultAsBatched res n) s).batchAssignments.get? k =
        if k ∈ l.map DataResult.key then some n else s.batchAssignments.get? k
  | [], s, k => by simp
  | res :: rest, s, k => by
    rw [List.foldl_cons, foldl_MarkDataResultAsBatched_assignment rest, MarkDataResultAsBatched_assignment]
    by_cases hrest : k ∈ rest.map DataResult.key
    · simp [hrest]
    · by_cases hk : k = res.key <;> simp [hrest, hk]

/--
鍵の重複しない、未 batch の data result の列を順に batch 済みにすると、列の鍵の batch 済みの
値は未 batch だったときの値になる。
-/
theorem foldl_MarkDataResultAsBatched_batched :
    ∀ (l : List DataResult) (s : Store), (l.map DataResult.key).Nodup →
      (∀ res ∈ l, s.dataResults.get? (false, res.key) = some res) → ∀ k : String × UInt64,
        (l.foldl (fun s res => s.MarkDataResultAsBatched res n) s).dataResults.get? (true, k) =
          if k ∈ l.map DataResult.key then s.dataResults.get? (false, k)
          else s.dataResults.get? (true, k)
  | [], s, _, _, k => by simp
  | res :: rest, s, hnodup, hl, k => by
    rw [List.map_cons, List.nodup_cons] at hnodup
    -- 後ろの data result は、前のものを batch 済みにしても未 batch のまま残る
    have hl' : ∀ r ∈ rest, (s.MarkDataResultAsBatched res n).dataResults.get? (false, r.key) = some r := by
      intro r hr
      rw [MarkDataResultAsBatched_unbatched,
        if_neg (fun he : r.key = res.key => hnodup.1 (he ▸ List.mem_map_of_mem hr))]
      exact hl r (List.mem_cons_of_mem _ hr)
    rw [List.foldl_cons, foldl_MarkDataResultAsBatched_batched rest _ hnodup.2 hl' k,
      MarkDataResultAsBatched_unbatched, MarkDataResultAsBatched_batched]
    by_cases hrest : k ∈ rest.map DataResult.key
    · have hk : k ≠ res.key := fun he => hnodup.1 (he ▸ hrest)
      simp [hrest, hk]
    · by_cases hk : k = res.key
      · subst hk
        simp [hrest, hl res List.mem_cons_self]
      · simp [hrest, hk]

section Keyed

variable {n} (hkeyed : ∀ b k r, s.dataResults.get? (b, k) = some r → r.key = k)
include hkeyed

/-- end block の後、未 batch の data result は一つも無い。 -/
theorem markedStore_unbatched (k : String × UInt64) :
    (markedStore s n).dataResults.get? (false, k) = none := by
  unfold markedStore
  rw [foldl_MarkDataResultAsBatched_unbatched]
  split
  · rfl
  · next hk =>
    rw [Store.mem_GetDataResults_key hkeyed, Option.not_isSome_iff_eq_none] at hk
    exact hk

/-- end block の後の batch 済みの値は、未 batch だった値か、もとから batch 済みの値である。 -/
theorem markedStore_batched (k : String × UInt64) :
    (markedStore s n).dataResults.get? (true, k) =
      (s.dataResults.get? (false, k)).or (s.dataResults.get? (true, k)) := by
  unfold markedStore
  rw [foldl_MarkDataResultAsBatched_batched n _ s (Store.nodup_GetDataResults_key hkeyed)
    (fun res hres => (Store.mem_GetDataResults_iff hkeyed).mp hres)]
  simp only [Store.mem_GetDataResults_key hkeyed]
  cases s.dataResults.get? (false, k) <;> rfl

/-- end block は、未 batch だった data result にだけ新しい番号を割り当てる。 -/
theorem markedStore_assignment (k : String × UInt64) :
    (markedStore s n).batchAssignments.get? k =
      if (s.dataResults.get? (false, k)).isSome then some n else s.batchAssignments.get? k := by
  unfold markedStore
  rw [foldl_MarkDataResultAsBatched_assignment]
  simp only [Store.mem_GetDataResults_key hkeyed]

theorem markedStore_get?_some {b : Bool} {k : String × UInt64} {r : DataResult}
    (h : (markedStore s n).dataResults.get? (b, k) = some r) :
    ∃ b', s.dataResults.get? (b', k) = some r := by
  cases b with
  | false =>
    rw [markedStore_unbatched hkeyed] at h
    cases h
  | true =>
    rw [markedStore_batched hkeyed] at h
    cases hf : s.dataResults.get? (false, k) with
    | none =>
      rw [hf] at h
      exact ⟨true, h⟩
    | some r' =>
      rw [hf] at h
      exact ⟨false, by rw [hf]; exact h⟩

end Keyed

end Mark

/-! ## 帳簿 -/

variable (keccak : Bytes → Bytes)

/--
batch `n` の木が data result の列 `l` のものであること：`l` は ID とその byte 列の組で、
`n` を割り当てた batch 済みの data result ちょうどを並べ、その ID が木の entry で、batch の
`CurrentDataResultRoot` は区切りを付けた ID の木の根である。
-/
structure TreeOf (s : Store) (n : Nat) (b : Batch) (l : List (DataResult × Bytes)) : Prop where
  decoded : ∀ p ∈ l, decodeHexString p.1.Id = .ok p.2
  members : ∀ r, (∃ id, (r, id) ∈ l) ↔
    s.dataResults.get? (true, r.key) = some r ∧ s.batchAssignments.get? r.key = some n
  entries : s.dataResultTreeEntries.get? n = some ⟨l.map Prod.snd⟩
  root : b.CurrentDataResultRoot =
    hexEncode (RootFromEntries keccak (l.map fun p => SEDASeparatorDataResult :: p.2))

/-- batching の store の data result の帳簿が正しいこと。 -/
structure Ledger (s : Store) : Prop where
  keyed : ∀ b k r, s.dataResults.get? (b, k) = some r → r.key = k
  exclusive : ∀ k, s.dataResults.get? (false, k) = none ∨ s.dataResults.get? (true, k) = none
  pending : ∀ k, (s.dataResults.get? (false, k)).isSome → s.batchAssignments.get? k = none
  assigned : ∀ k n, s.batchAssignments.get? k = some n →
    (s.dataResults.get? (true, k)).isSome ∧ n < s.currentBatchNumber
  batched : ∀ k, (s.dataResults.get? (true, k)).isSome → (s.batchAssignments.get? k).isSome
  ids : ∀ b₁ k₁ r₁ b₂ k₂ r₂ id, s.dataResults.get? (b₁, k₁) = some r₁ →
    s.dataResults.get? (b₂, k₂) = some r₂ → decodeHexString r₁.Id = .ok id →
      decodeHexString r₂.Id = .ok id → k₁ = k₂
  trees : ∀ n b, s.GetBatchByBatchNumber n = .ok b → ∃ l, TreeOf keccak s n b l

/-- 新しい data result：鍵はどちらの状態にも無く、ID の byte 列は store のどの data result とも違う。 -/
def Fresh (s : Store) (r : DataResult) : Prop :=
  (∀ b, s.dataResults.get? (b, r.key) = none) ∧
    ∀ k r' id, s.dataResults.get? k = some r' → decodeHexString r.Id = .ok id →
      decodeHexString r'.Id ≠ .ok id

/--
鍵が store に無く、ID の byte 列が store のどの data result の ID とも違えば、新しい。store の
data result の列を一つずつ見るので、具体的な store では `decide` で確かめられる。
-/
theorem fresh_of_entries {s : Store} {r : DataResult}
    (hkey : ∀ b, s.dataResults.get? (b, r.key) = none)
    (hid : ∀ p ∈ s.dataResults.entries, (decodeHexString p.2.Id).toOption ≠ (decodeHexString r.Id).toOption) :
    Fresh s r := by
  refine ⟨hkey, fun k r' id hk hr hr' => hid (k, r') ((s.dataResults.get?_eq_some_iff).mp hk) ?_⟩
  rw [hr, hr']

/-- 一歩の data result への効果。 -/
inductive ResultsStep (s s' : Store) : Prop
  /-- batch を作らない一歩：書かれていた data result と割り当てはそのまま残る。 -/
  | keep (hcurrent : s'.currentBatchNumber = s.currentBatchNumber)
      (hresults : ∀ b k r, s.dataResults.get? (b, k) = some r → s'.dataResults.get? (b, k) = some r)
      (hassignments : s'.batchAssignments = s.batchAssignments)
  /-- batch を作る一歩：未 batch の data result がすべて、その batch の番号で batch 済みになる。 -/
  | batch (hcurrent : s'.currentBatchNumber = s.currentBatchNumber + 1)
      (hunbatched : ∀ k, s'.dataResults.get? (false, k) = none)
      (hbatched : ∀ k, s'.dataResults.get? (true, k) =
        (s.dataResults.get? (false, k)).or (s.dataResults.get? (true, k)))
      (hassignments : ∀ k, s'.batchAssignments.get? k =
        if (s.dataResults.get? (false, k)).isSome then some s.currentBatchNumber
        else s.batchAssignments.get? k)

variable (authority : String)

/-- genesis から、新しい data result だけを渡して届く状態。 -/
inductive FreshReachable : Sys → Prop
  | init {s : Store} : InitGenesis DefaultGenesisState Store.empty = .ok s → FreshReachable ⟨s, 0⟩
  | next {σ σ' : Sys} (e : Event) : FreshReachable σ →
      (∀ r, e = .setDataResult r → Fresh σ.store r) → step keccak authority σ e = some σ' →
        FreshReachable σ'

/-! ## 書き込みごとの帳簿 -/

section Writes

variable {keccak} {s s' : Store}

theorem TreeOf.congr {n : Nat} {b : Batch} {l : List (DataResult × Bytes)} (h : TreeOf keccak s n b l)
    (hbatched : ∀ k, s'.dataResults.get? (true, k) = s.dataResults.get? (true, k))
    (hassignments : s'.batchAssignments = s.batchAssignments)
    (htrees : s'.dataResultTreeEntries = s.dataResultTreeEntries) : TreeOf keccak s' n b l where
  decoded := h.decoded
  members := by
    intro r
    rw [hbatched, hassignments]
    exact h.members r
  entries := by
    rw [htrees]
    exact h.entries
  root := h.root

/-- data result、割り当て、木、batch を変えない書き込みは帳簿を保つ。 -/
theorem Ledger.congr (h : Ledger keccak s) (hresults : s'.dataResults = s.dataResults)
    (hassignments : s'.batchAssignments = s.batchAssignments)
    (htrees : s'.dataResultTreeEntries = s.dataResultTreeEntries)
    (hcurrent : s'.currentBatchNumber = s.currentBatchNumber)
    (hbatches : ∀ n, s'.GetBatchByBatchNumber n = s.GetBatchByBatchNumber n) : Ledger keccak s' where
  keyed := by rw [hresults]; exact h.keyed
  exclusive := by rw [hresults]; exact h.exclusive
  pending := by rw [hresults, hassignments]; exact h.pending
  assigned := by rw [hresults, hassignments, hcurrent]; exact h.assigned
  batched := by rw [hresults, hassignments]; exact h.batched
  ids := by rw [hresults]; exact h.ids
  trees := by
    intro n b hb
    rw [hbatches] at hb
    obtain ⟨l, hl⟩ := h.trees n b hb
    exact ⟨l, hl.congr (by simp [hresults]) hassignments htrees⟩

theorem ledger_empty : Ledger keccak Store.empty where
  keyed := by simp [Store.empty]
  exclusive := by simp [Store.empty]
  pending := by simp [Store.empty]
  assigned := by simp [Store.empty]
  batched := by simp [Store.empty]
  ids := by simp [Store.empty]
  trees := by simp [Store.empty, Store.GetBatchByBatchNumber, Store.batchIndexGet]

theorem SetDataResultForBatching_get? (r : DataResult) (b : Bool) (k : String × UInt64) :
    (s.SetDataResultForBatching r).dataResults.get? (b, k) =
      if b = false ∧ k = r.key then some r else s.dataResults.get? (b, k) := by
  unfold Store.SetDataResultForBatching
  rw [KeyMap.get?_set]
  by_cases hc : b = false ∧ k = r.key
  · rw [if_pos (by rw [hc.1, hc.2]; rfl), if_pos hc]
  · rw [if_neg (fun he : (b, k) = (false, r.DrId, r.DrBlockHeight) =>
      hc ⟨(Prod.mk.inj he).1, (Prod.mk.inj he).2⟩), if_neg hc]

/-- 新しい data result を未 batch で書いても、帳簿は保たれる。 -/
theorem Ledger.SetDataResultForBatching (h : Ledger keccak s) {r : DataResult} (hr : Fresh s r) :
    Ledger keccak (s.SetDataResultForBatching r) where
  keyed := by
    intro b k r' hk
    rw [SetDataResultForBatching_get?] at hk
    split at hk
    · next hc =>
      cases hk
      exact hc.2.symm
    · exact h.keyed _ _ _ hk
  exclusive := by
    intro k
    rw [SetDataResultForBatching_get?, SetDataResultForBatching_get? r true,
      if_neg (show ¬ (true = false ∧ k = r.key) by simp)]
    by_cases hk : k = r.key
    · subst hk
      exact .inr (hr.1 true)
    · rw [if_neg (fun hc => hk hc.2)]
      exact h.exclusive k
  pending := by
    intro k hk
    rw [SetDataResultForBatching_get?] at hk
    by_cases hkr : k = r.key
    · -- 新しい鍵にはまだ割り当てが無い：割り当てがあれば batch 済みの値があるはずである
      subst hkr
      show s.batchAssignments.get? r.key = none
      cases ha : s.batchAssignments.get? r.key with
      | none => rfl
      | some n =>
        have := (h.assigned _ n ha).1
        rw [hr.1 true] at this
        cases this
    · rw [if_neg (fun hc => hkr hc.2)] at hk
      exact h.pending k hk
  assigned := by
    intro k n hk
    rw [SetDataResultForBatching_get?, if_neg (by simp)]
    exact h.assigned k n hk
  batched := by
    intro k hk
    rw [SetDataResultForBatching_get?, if_neg (by simp)] at hk
    exact h.batched k hk
  ids := by
    intro b₁ k₁ r₁ b₂ k₂ r₂ id h₁ h₂ hd₁ hd₂
    rw [SetDataResultForBatching_get?] at h₁ h₂
    split at h₁ <;> split at h₂
    · next hc₁ hc₂ => rw [hc₁.2, hc₂.2]
    · next hc₁ _ =>
      cases h₁
      exact absurd hd₂ (hr.2 _ _ id h₂ hd₁)
    · next _ hc₂ =>
      cases h₂
      exact absurd hd₁ (hr.2 _ _ id h₁ hd₂)
    · exact h.ids _ _ _ _ _ _ id h₁ h₂ hd₁ hd₂
  trees := by
    intro n b hb
    obtain ⟨l, hl⟩ := h.trees n b hb
    exact ⟨l, hl.congr (fun k => by rw [SetDataResultForBatching_get?, if_neg (by simp)]) rfl rfl⟩

end Writes

/-! ## end block の帳簿 -/

section Created

variable {keccak} {s s' : Store} {w : Window Batch} {keep : Nat} {blockHeight : Int} {ids : List Bytes}
  {b : Batch} {m : Nat}

theorem CreatedBatch.current (hc : CreatedBatch keccak s s' w keep blockHeight ids b m) :
    s'.currentBatchNumber = w.next + 1 := by
  have hle := hc.le_next
  rw [hc.represents.current, Window.next_dropTo (by rw [Window.next_push]; omega), Window.next_push]

section Keyed

variable (hkeyed : ∀ b k r, s.dataResults.get? (b, k) = some r → r.key = k)
include hkeyed

theorem CreatedBatch.unbatched (hc : CreatedBatch keccak s s' w keep blockHeight ids b m)
    (k : String × UInt64) : s'.dataResults.get? (false, k) = none := by
  rw [hc.dataResults]
  exact markedStore_unbatched hkeyed k

theorem CreatedBatch.batched (hc : CreatedBatch keccak s s' w keep blockHeight ids b m)
    (k : String × UInt64) :
    s'.dataResults.get? (true, k) = (s.dataResults.get? (false, k)).or (s.dataResults.get? (true, k)) := by
  rw [hc.dataResults]
  exact markedStore_batched hkeyed k

theorem CreatedBatch.assignment (hc : CreatedBatch keccak s s' w keep blockHeight ids b m)
    (k : String × UInt64) : s'.batchAssignments.get? k =
      if (s.dataResults.get? (false, k)).isSome then some w.next else s.batchAssignments.get? k := by
  rw [hc.batchAssignments]
  exact markedStore_assignment hkeyed k

theorem CreatedBatch.get?_some (hc : CreatedBatch keccak s s' w keep blockHeight ids b m)
    {b' : Bool} {k : String × UInt64} {r : DataResult} (h : s'.dataResults.get? (b', k) = some r) :
    ∃ b'', s.dataResults.get? (b'', k) = some r := by
  rw [hc.dataResults] at h
  exact markedStore_get?_some hkeyed h

end Keyed

/-- 作った batch の木は、いま batch 済みにした data result のものである。 -/
theorem CreatedBatch.treeOf_new (h : Ledger keccak s) (hrep : Represents keccak s w)
    (hc : CreatedBatch keccak s s' w keep blockHeight ids b m) :
    ∃ l, TreeOf keccak s' w.next b l := by
  obtain ⟨pairs, hfst, hsnd, hdec⟩ := Infra.Forall₂.exists_pairs hc.decoded
  obtain ⟨superRoot, valRoot, hb⟩ := hc.batch
  -- 組の列に入るのは、ちょうど未 batch だった data result である
  have hmem : ∀ r, (∃ id, (r, id) ∈ pairs) ↔ s.dataResults.get? (false, r.key) = some r := by
    intro r
    rw [← Store.mem_GetDataResults_iff h.keyed, ← hfst, List.mem_map]
    constructor
    · rintro ⟨id, hid⟩
      exact ⟨_, hid, rfl⟩
    · rintro ⟨⟨r', id⟩, hp, rfl⟩
      exact ⟨id, hp⟩
  refine ⟨pairs,
    { decoded := hdec
      members := ?_
      entries := by rw [hc.tree, hsnd]
      root := by rw [hb, ← hsnd, List.map_map]; rfl }⟩
  intro r
  rw [hmem, hc.batched h.keyed, hc.assignment h.keyed]
  cases hf : s.dataResults.get? (false, r.key) with
  | some r' => simp
  | none =>
    -- 未 batch でなかった data result の割り当ては、前の batch の番号である
    simp only [Option.none_or, Option.isSome_none, Bool.false_eq_true, if_false, reduceCtorEq,
      false_iff, not_and]
    intro _ ha
    have := (h.assigned _ _ ha).2
    rw [hrep.current] at this
    omega

/-- 前からある batch の木は、その割り当てのまま残る。 -/
theorem CreatedBatch.treeOf_old (h : Ledger keccak s) (hc : CreatedBatch keccak s s' w keep blockHeight ids b m)
    {n : Nat} {b' : Batch} {l : List (DataResult × Bytes)} (hn : n ≠ w.next)
    (hlive : (s'.dataResultTreeEntries.get? n).isSome) (hl : TreeOf keccak s n b' l) :
    TreeOf keccak s' n b' l where
  decoded := hl.decoded
  members := by
    intro r
    rw [hl.members, hc.batched h.keyed, hc.assignment h.keyed]
    cases hf : s.dataResults.get? (false, r.key) with
    | some r' =>
      -- いま batch 済みにした data result は新しい番号に割り当てられ、前は割り当てが無かった
      have hpa := h.pending r.key (by rw [hf]; rfl)
      simp only [hpa, Option.isSome_some, if_true, Option.some_or, reduceCtorEq, and_false,
        false_iff, not_and, Option.some.injEq]
      intro _ he
      exact hn he.symm
    | none => simp
  entries := by
    rw [hc.trees n hn hlive]
    exact hl.entries
  root := hl.root

/-- **batch を作る end block は帳簿を保つ。** -/
theorem Ledger.created (h : Ledger keccak s) (hrep : Represents keccak s w)
    (hc : CreatedBatch keccak s s' w keep blockHeight ids b m) : Ledger keccak s' where
  keyed := by
    intro b' k r hk
    obtain ⟨b'', hk'⟩ := hc.get?_some h.keyed hk
    exact h.keyed _ _ _ hk'
  exclusive := fun k => .inl (hc.unbatched h.keyed k)
  pending := by
    intro k hk
    rw [hc.unbatched h.keyed] at hk
    cases hk
  assigned := by
    intro k n hk
    rw [hc.assignment h.keyed] at hk
    rw [hc.batched h.keyed, hc.current]
    split at hk
    · next hp =>
      cases hk
      obtain ⟨r, hr⟩ := Option.isSome_iff_exists.mp hp
      rw [hr]
      exact ⟨rfl, Nat.lt_succ_self _⟩
    · next hp =>
      obtain ⟨hb, hn⟩ := h.assigned k n hk
      rw [Option.not_isSome_iff_eq_none.mp hp, Option.none_or]
      rw [hrep.current] at hn
      exact ⟨hb, by omega⟩
  batched := by
    intro k hk
    rw [hc.assignment h.keyed]
    split
    · rfl
    · next hp =>
      rw [hc.batched h.keyed, Option.not_isSome_iff_eq_none.mp hp, Option.none_or] at hk
      exact h.batched k hk
  ids := by
    intro b₁ k₁ r₁ b₂ k₂ r₂ id h₁ h₂ hd₁ hd₂
    obtain ⟨b₁', h₁'⟩ := hc.get?_some h.keyed h₁
    obtain ⟨b₂', h₂'⟩ := hc.get?_some h.keyed h₂
    exact h.ids _ _ _ _ _ _ id h₁' h₂' hd₁ hd₂
  trees := by
    intro n b' hb'
    have hw := hc.represents.get?_of_GetBatchByBatchNumber hb'
    have hlive : (s'.dataResultTreeEntries.get? n).isSome := by
      rw [hc.represents.dataResultTrees, hw]
      rfl
    rw [Window.get?_dropTo] at hw
    split at hw
    · cases hw
    · rw [Window.get?_push] at hw
      split at hw
      · next hn =>
        cases hw
        subst hn
        exact hc.treeOf_new h hrep
      · next hn =>
        obtain ⟨l, hl⟩ := h.trees n b' (hrep.GetBatchByBatchNumber_of_get? hw)
        exact ⟨l, hc.treeOf_old h hn hlive hl⟩

end Created

/-! ## 走り -/

section Run

variable {keccak authority} {σ σ' : Sys} {w : Window Batch}

/-- 新しい data result を書いても、書かれていた data result は残る。 -/
theorem Fresh.results_kept {s : Store} {r : DataResult} (hr : Fresh s r) {b : Bool}
    {k : String × UInt64} {r' : DataResult} (h : s.dataResults.get? (b, k) = some r') :
    (s.SetDataResultForBatching r).dataResults.get? (b, k) = some r' := by
  rw [SetDataResultForBatching_get?, if_neg]
  · exact h
  · rintro ⟨rfl, rfl⟩
    rw [hr.1 false] at h
    cases h

/-- 書き込みのない一歩。 -/
theorem ResultsStep.refl (s : Store) : ResultsStep s s := .keep rfl (fun _ _ _ h => h) rfl

/--
**一歩は帳簿を保ち、data result を `ResultsStep` で動かす。** batching が動いている end block が
batch を作らないのは、未 batch の data result が無いときに限る。
-/
theorem Ledger.step (ht : Tracks keccak σ w) (hl : Ledger keccak σ.store) {e : Event}
    (hfresh : ∀ r, e = .setDataResult r → Fresh σ.store r)
    (hs : step keccak authority σ e = some σ') :
    Ledger keccak σ'.store ∧ ResultsStep σ.store σ'.store ∧
      ∀ blockHeight ext, e = .endBlock blockHeight ext → ext.IsProvingSchemeActivated = true →
        σ'.store.currentBatchNumber = σ.store.currentBatchNumber →
          ∀ k, σ.store.dataResults.get? (false, k) = none := by
  cases e with
  | setDataResult r =>
    cases hs
    have hr := hfresh r rfl
    exact ⟨hl.SetDataResultForBatching hr, .keep rfl (fun _ _ _ h => hr.results_kept h) rfl,
      fun _ _ he => by cases he⟩
  | storeSignatures batchHeight sigs =>
    cases hs
    obtain ⟨batchSignatures, he⟩ := storeBatchSignatures_shape σ.store batchHeight sigs
    refine ⟨?_, ?_, fun _ _ he => by cases he⟩
    · exact hl.congr (by rw [he]) (by rw [he]) (by rw [he]) (by rw [he]) (fun n => by rw [he]; rfl)
    · dsimp only
      rw [he]
      exact .keep rfl (fun _ _ _ h => h) rfl
  | updateParams reqAuthority params =>
    simp only [SedaChain.Batching.step] at hs
    split at hs
    · next s' hu =>
      cases hs
      obtain ⟨rfl, -⟩ := UpdateParams_eq_ok authority hu
      exact ⟨hl.congr rfl rfl rfl rfl (fun _ => rfl), .keep rfl (fun _ _ _ h => h) rfl,
        fun _ _ he => by cases he⟩
    · cases hs
      exact ⟨hl, .refl _, fun _ _ he => by cases he⟩
  | endBlock blockHeight ext =>
    simp only [SedaChain.Batching.step] at hs
    split at hs
    · next hcond =>
      split at hs
      · next s' he =>
        cases hs
        rcases EndBlock_spec ht.represents ht.settled (ht.heights_lt hcond.1)
            (ht.next_succ_lt hcond.1 hcond.2) he with ⟨rfl, hnil⟩ | ⟨ids, b, m, hc⟩
        · -- batch を作らない end block は何も書かず、そのとき未 batch の data result は無い
          refine ⟨hl, .refl _, ?_⟩
          rintro _ _ ⟨⟩ hactive - k
          rw [Option.eq_none_iff_forall_ne_some]
          intro r hr
          have hmem := (Store.mem_GetDataResults_iff hl.keyed).mpr ((hl.keyed _ _ _ hr) ▸ hr)
          rw [hnil hactive] at hmem
          cases hmem
        · have hcur := hc.current
          rw [← ht.represents.current] at hcur
          refine ⟨hl.created ht.represents hc, ?_, ?_⟩
          · exact .batch hcur (hc.unbatched hl.keyed) (hc.batched hl.keyed)
              (fun k => by rw [hc.assignment hl.keyed, ht.represents.current])
          · rintro _ _ ⟨⟩ - hsame
            dsimp only at hsame
            omega
      · cases hs
    · cases hs

/-- **新しい data result だけを渡して届く状態の store は、窓を表し、帳簿が正しい。** -/
theorem freshReachable_ledger (hr : FreshReachable keccak authority σ) :
    ∃ w, Tracks keccak σ w ∧ Ledger keccak σ.store := by
  induction hr with
  | init h =>
    refine ⟨_, tracks_init h, ?_⟩
    rw [InitGenesis_default h]
    exact ledger_empty
  | next e _ hfresh hs ih =>
    obtain ⟨w, ht, hl⟩ := ih
    obtain ⟨w', ht', -⟩ := step_tracks ht hs
    exact ⟨w', ht', (hl.step ht hfresh hs).1⟩

end Run

/-! ## 木の ID -/

section Ids

variable {keccak} {s : Store} {w : Window Batch}

/-- 木の entry の ID は、その番号を割り当てた batch 済みの data result のものである。 -/
theorem Ledger.entry_source (h : Ledger keccak s) (hrep : Represents keccak s w) {n : Nat}
    {e : DataResultTreeEntries} {id : Bytes} (he : s.dataResultTreeEntries.get? n = some e)
    (hid : id ∈ e.Entries) :
    ∃ r, s.dataResults.get? (true, r.key) = some r ∧ s.batchAssignments.get? r.key = some n ∧
      decodeHexString r.Id = .ok id := by
  -- 木の entry があるのは窓の中の番号だけである
  have hlive : (w.get? n).isSome := by
    rw [← hrep.dataResultTrees, he]
    rfl
  obtain ⟨b, hb⟩ := Option.isSome_iff_exists.mp hlive
  obtain ⟨l, hl⟩ := h.trees n b (hrep.GetBatchByBatchNumber_of_get? hb)
  rw [hl.entries] at he
  cases he
  obtain ⟨p, hp, rfl⟩ := List.mem_map.mp hid
  obtain ⟨hbatched, hassigned⟩ := (hl.members p.1).mp ⟨p.2, hp⟩
  exact ⟨p.1, hbatched, hassigned, hl.decoded p hp⟩

/-- **一つの ID は二つの batch の木に入らない。** -/
theorem Ledger.tree_ids_unique (h : Ledger keccak s) (hrep : Represents keccak s w) {n m : Nat}
    {e e' : DataResultTreeEntries} {id : Bytes} (he : s.dataResultTreeEntries.get? n = some e)
    (he' : s.dataResultTreeEntries.get? m = some e') (hid : id ∈ e.Entries) (hid' : id ∈ e'.Entries) :
    n = m := by
  obtain ⟨r, hr, hn, hd⟩ := h.entry_source hrep he hid
  obtain ⟨r', hr', hm, hd'⟩ := h.entry_source hrep he' hid'
  -- ID の byte 列が同じ data result は同じ鍵にあり、割り当ても同じである
  have hkey : r.key = r'.key := h.ids _ _ _ _ _ _ id hr hr' hd hd'
  rw [hkey, hm] at hn
  exact (Option.some.inj hn).symm

end Ids

/-! ## 主定理 -/

section Claim

variable {keccak authority} {σ : Sys}

/--
**data result はちょうど一度 batch に入る。** 新しい data result だけを渡して genesis から届く
状態で、帳簿は正しく、一つの ID は二つの batch の木に入らない。そこからの一歩は data result を
変えないか、未 batch のものをすべて、作った batch の番号で batch 済みにする。batching が
動いている end block が batch を作らないのは、未 batch の data result が無いときに限る。
-/
theorem data_results_batched_once (hr : FreshReachable keccak authority σ) :
    Ledger keccak σ.store ∧
      (∀ n m e e' id, σ.store.dataResultTreeEntries.get? n = some e →
        σ.store.dataResultTreeEntries.get? m = some e' → id ∈ e.Entries → id ∈ e'.Entries → n = m) ∧
      ∀ e σ', (∀ r, e = .setDataResult r → Fresh σ.store r) → step keccak authority σ e = some σ' →
        ResultsStep σ.store σ'.store ∧
          ∀ blockHeight ext, e = .endBlock blockHeight ext → ext.IsProvingSchemeActivated = true →
            σ'.store.currentBatchNumber = σ.store.currentBatchNumber →
              ∀ k, σ.store.dataResults.get? (false, k) = none := by
  obtain ⟨w, ht, hl⟩ := freshReachable_ledger hr
  refine ⟨hl, fun n m e e' id he he' hid hid' => hl.tree_ids_unique ht.represents he he' hid hid', ?_⟩
  intro e σ' hfresh hs
  exact (hl.step ht hfresh hs).2

/-- 具体的な走りに使う、鍵も ID も `sampleResult 1` と違う data result。ID は `"bb"` である。 -/
def freshResult : DataResult := { sampleResult 2 with Id := "bb" }

/--
一つ目の data result を batch 0 に入れ、鍵も ID も違う二つ目を渡した状態から、次の end block は
二つ目を batch 1 に入れる。その後の状態でも帳簿は正しく、二つの木はそれぞれの ID を一つずつ持つ。
-/
theorem data_results_batched_once_twoBatches :
    ∃ σ₁ σ₂ σ₃ σ₄, step id "" ⟨Store.empty, 0⟩ (.setDataResult (sampleResult 1)) = some σ₁ ∧
      step id "" σ₁ (.endBlock 1 activeExternal) = some σ₂ ∧
      step id "" σ₂ (.setDataResult freshResult) = some σ₃ ∧
      step id "" σ₃ (.endBlock 2 activeExternal) = some σ₄ ∧
      σ₄.store.currentBatchNumber = 2 ∧
      σ₄.store.dataResultTreeEntries.get? 0 = some ⟨[[170]]⟩ ∧
      σ₄.store.dataResultTreeEntries.get? 1 = some ⟨[[187]]⟩ ∧
      Ledger id σ₄.store ∧
      (∀ n m e e' bytes, σ₄.store.dataResultTreeEntries.get? n = some e →
        σ₄.store.dataResultTreeEntries.get? m = some e' → bytes ∈ e.Entries →
          bytes ∈ e'.Entries → n = m) ∧
      ResultsStep σ₃.store σ₄.store := by
  -- 四つの出来事を一度に kernel で走らせ、二つ目の data result の新しさと最後の木を読む
  have hrun : ((step id "" ⟨Store.empty, 0⟩ (.setDataResult (sampleResult 1))).bind fun σ₁ =>
      (step id "" σ₁ (.endBlock 1 activeExternal)).bind fun σ₂ =>
      (step id "" σ₂ (.setDataResult freshResult)).bind fun σ₃ =>
      (step id "" σ₃ (.endBlock 2 activeExternal)).map fun σ₄ =>
        (decide (∀ b, σ₂.store.dataResults.get? (b, freshResult.key) = none),
          decide (∀ p ∈ σ₂.store.dataResults.entries,
            (decodeHexString p.2.Id).toOption ≠ (decodeHexString freshResult.Id).toOption),
          σ₄.store.currentBatchNumber, σ₄.store.dataResultTreeEntries.get? 0,
          σ₄.store.dataResultTreeEntries.get? 1)) =
      some (true, true, 2, some ⟨[[170]]⟩, some ⟨[[187]]⟩) := by
    decide +kernel
  simp only [Option.bind_eq_some_iff, Option.map_eq_some_iff, Prod.mk.injEq, decide_eq_true_eq] at hrun
  obtain ⟨σ₁, h₁, σ₂, h₂, σ₃, h₃, σ₄, h₄, hkey, hid, hcurrent, htree₀, htree₁⟩ := hrun
  -- 渡す data result はどちらも、渡す時点の store で新しい
  have hf₁ : FreshReachable id "" σ₁ :=
    .next _ (.init rfl) (fun r he => by cases he; exact fresh_of_entries (fun _ => rfl) (by decide)) h₁
  have hf₂ : FreshReachable id "" σ₂ := .next _ hf₁ (fun r he => by cases he) h₂
  have hf₃ : FreshReachable id "" σ₃ :=
    .next _ hf₂ (fun r he => by cases he; exact fresh_of_entries hkey hid) h₃
  have hf₄ : FreshReachable id "" σ₄ := .next _ hf₃ (fun r he => by cases he) h₄
  obtain ⟨hl, hunique, -⟩ := data_results_batched_once hf₄
  have hstep := ((data_results_batched_once hf₃).2.2 _ σ₄ (fun r he => by cases he) h₄).1
  exact ⟨σ₁, σ₂, σ₃, σ₄, h₁, h₂, h₃, h₄, hcurrent, htree₀, htree₁, hl, hunique, hstep⟩

/-- 鍵の違う二つの data result を、一つずつ二つの end block で batch にする走り。 -/
def sameIdRun : Option Sys :=
  run id "" ⟨Store.empty, 0⟩
    [.setDataResult (sampleResult 1), .endBlock 1 activeExternal,
     .setDataResult (sampleResult 2), .endBlock 2 activeExternal]

/-- 鍵が違っても ID が同じなら、その ID は二つの batch の木に入る。 -/
theorem same_id_in_two_batches :
    (sampleResult 1).key ≠ (sampleResult 2).key ∧
      sameIdRun.map (fun σ => (σ.store.dataResultTreeEntries.get? 0,
        σ.store.dataResultTreeEntries.get? 1)) = some (some ⟨[[170]]⟩, some ⟨[[170]]⟩) :=
  ⟨by decide, by decide +kernel⟩

end Claim

end SedaChain.Batching
