import SedaChain.Batching.Run
import SedaChain.Batching.Genesis

/-!
# 刈り込んだ後の genesis の書き出し

窓を表す store の書き出し（`ExportGenesis`）は成功し、書き出す batch は窓の batch ちょうどで
ある（`Represents.perm_batches`）。その数は `currentBatchNumber - firstBatchNumber` で、
`ValidateGenesis` が求める `currentBatchNumber` とは、刈り込みが一度でも先頭を進めた後は
合わない。

* `Represents.length_GetAllBatches` — 書き出す batch の数
* `Represents.ExportGenesis_eq` — 書き出しは成功する
* **`ExportGenesis_fails_validation`** — 刈り込んだ後に届く状態の書き出しは検査を通らない
-/

namespace SedaChain.Batching

open Infra Infra.Go SedaChain.Utils

section Export

variable {keccak : Bytes → Bytes} {s : Store} {w : Window Batch}

/-- 主の表の batch は、ちょうど窓の中の batch である。 -/
theorem Represents.mem_batches_entries (h : Represents keccak s w) {b : Batch} :
    b ∈ s.batches.entries.map Prod.snd ↔ w.get? b.BatchNumber = some b := by
  rw [List.mem_map]
  constructor
  · rintro ⟨⟨height, b'⟩, hmem, rfl⟩
    exact ((h.batches height b').mp ((KeyMap.get?_eq_some_iff _).mpr hmem)).1
  · intro hb
    exact ⟨(b.BlockHeight, b), (KeyMap.get?_eq_some_iff _).mp ((h.batches _ b).mpr ⟨hb, rfl⟩), rfl⟩

/-- 主の表の batch を並べると、窓の batch の並べ替えになる。 -/
theorem Represents.perm_batches (h : Represents keccak s w) :
    (s.batches.entries.map Prod.snd).Perm w.items := by
  have hnodup₁ : (s.batches.entries.map Prod.snd).Nodup := by
    -- 同じ batch の組は、その batch の block height を鍵に持つので同じ組である
    refine List.Nodup.map_on ?_ (List.Nodup.of_map Prod.fst s.batches.nodup)
    intro x hx y hy hxy
    have hx' := ((h.batches x.1 x.2).mp ((KeyMap.get?_eq_some_iff _).mpr hx)).2
    have hy' := ((h.batches y.1 y.2).mp ((KeyMap.get?_eq_some_iff _).mpr hy)).2
    exact Prod.ext (by rw [← hx', ← hy', hxy]) hxy
  refine (List.perm_ext_iff_of_nodup hnodup₁ (w.nodup_items h.numbered)).mpr (fun b => ?_)
  rw [h.mem_batches_entries, Window.mem_items_iff]
  constructor
  · intro hb
    exact ⟨_, hb⟩
  · rintro ⟨n, hn⟩
    rw [h.numbered n b hn]
    exact hn

theorem Represents.mem_GetAllBatches (h : Represents keccak s w) {b : Batch} :
    b ∈ s.GetAllBatches ↔ w.get? b.BatchNumber = some b := by
  rw [← h.mem_batches_entries]
  simp only [Store.GetAllBatches, List.mem_map, mem_sortByKey]

/-- **書き出す batch の数は、窓の batch の数 `currentBatchNumber - firstBatchNumber` である。** -/
theorem Represents.length_GetAllBatches (h : Represents keccak s w) :
    s.GetAllBatches.length = s.currentBatchNumber - s.firstBatchNumber := by
  unfold Store.GetAllBatches
  rw [List.length_map, length_sortByKey, ← List.length_map Prod.snd, h.perm_batches.length_eq,
    w.length_items, h.current, h.first]

/-- 書き出す batch 一つ分の `BatchData`。 -/
def exportedBatchData (s : Store) (batch : Batch) : BatchData :=
  ⟨batch.BatchNumber, (s.dataResultTreeEntries.get? batch.BatchNumber).getD ⟨[]⟩,
    s.GetValidatorTreeEntries batch.BatchNumber, s.GetBatchSignatures batch.BatchNumber⟩

/-- **窓を表す store の書き出しは成功する。** 窓の batch にはどれも木の entry がある。 -/
theorem Represents.ExportGenesis_eq (h : Represents keccak s w) :
    ExportGenesis s = .ok
      { CurrentBatchNumber := s.currentBatchNumber, Batches := s.GetAllBatches
        BatchData := s.GetAllBatches.map (exportedBatchData s)
        DataResults := s.getAllGenesisDataResults
        BatchAssignments := s.getAllBatchAssignments, Params := s.params
        FirstBatchNumber := s.firstBatchNumber } := by
  unfold ExportGenesis
  dsimp only
  refine bind_eq_ok.mpr ⟨_, mapM_eq_ok_map (fun batch hb => ?_), rfl⟩
  have hlive : (s.dataResultTreeEntries.get? batch.BatchNumber).isSome := by
    rw [h.dataResultTrees, h.mem_GetAllBatches.mp hb]
    rfl
  obtain ⟨entries, he⟩ := Option.isSome_iff_exists.mp hlive
  simp [Store.GetBatchData, Store.GetDataResultTreeEntries, he, Except.mapError, exportedBatchData]

end Export

/-- batch の数が現在の番号と違えば、`ValidateGenesis` はそれを言って失敗する。 -/
theorem ValidateGenesis_of_count_ne (keccak : Bytes → Bytes) {gs : GenesisState}
    (h : gs.CurrentBatchNumber ≠ gs.Batches.length) :
    ValidateGenesis keccak gs = .error
      s!"current batch number {gs.CurrentBatchNumber} should be equal to number of batches {gs.Batches.length}" := by
  unfold ValidateGenesis
  rw [if_pos h]
  rfl

section Claim

variable {keccak : Bytes → Bytes} {authority : String} {σ : Sys}

/--
**刈り込んだ後に届く状態の書き出しは、`ValidateGenesis` を通らない。** 書き出しは成功するが、
batch の数は `currentBatchNumber - firstBatchNumber` で、`currentBatchNumber` に等しくない。
-/
theorem ExportGenesis_fails_validation (hr : Reachable keccak authority σ)
    (hpruned : 0 < σ.store.firstBatchNumber) :
    ∃ gs, ExportGenesis σ.store = .ok gs ∧
      ValidateGenesis keccak gs = .error
        s!"current batch number {σ.store.currentBatchNumber} should be equal to number of batches {σ.store.currentBatchNumber - σ.store.firstBatchNumber}" := by
  obtain ⟨w, ht⟩ := reachable_tracks hr
  have h := ht.represents
  refine ⟨_, h.ExportGenesis_eq, ?_⟩
  have hlen := h.length_GetAllBatches
  have hle : σ.store.firstBatchNumber ≤ σ.store.currentBatchNumber := by
    rw [h.first, h.current]
    exact w.first_le_next
  rw [ValidateGenesis_of_count_ne keccak (by dsimp only; omega)]
  dsimp only
  rw [hlen]

/-- 五つ目の batch で先頭が 1 に進み、書き出しは「5 と 4」で検査に落ちる。 -/
theorem ExportGenesis_fails_validation_pruned :
    prunedState.store.currentBatchNumber = 5 ∧ prunedState.store.firstBatchNumber = 1 ∧
      ∃ gs, ExportGenesis prunedState.store = .ok gs ∧
        ValidateGenesis id gs = .error
          s!"current batch number {prunedState.store.currentBatchNumber} should be equal to number of batches {prunedState.store.currentBatchNumber - prunedState.store.firstBatchNumber}" := by
  have hcurrent : prunedState.store.currentBatchNumber = 5 := by decide +kernel
  have hfirst : prunedState.store.firstBatchNumber = 1 := by decide +kernel
  exact ⟨hcurrent, hfirst, ExportGenesis_fails_validation ((reachable_genesis id "").run prunedRun_eq)
    (by rw [hfirst]; decide)⟩

end Claim

end SedaChain.Batching
