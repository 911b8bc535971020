import SedaChain.Batching.Genesis
import SedaChain.Infra.Window

/-!
# batch の store は番号の続く窓である

batching の store の batch に関わる collection（主の表、番号の index、木の entry、署名、
二つの番号）が、番号 `firstBatchNumber` から `currentBatchNumber - 1` までの batch の窓
（`Infra.Window`）を表すこと（`Represents`）を定め、end block の各段がこの表し方を
窓の操作に写すことを示す。

* `ConstructBatch` は窓を変えず、次の番号で、直前の batch の根に繋がる batch を作る
  （`ConstructBatch_spec`）
* `SetNewBatch` は窓に batch を足す（`SetNewBatch_push`）
* 範囲を消すと窓の前が捨てられる（`Represents.clearBatches`）
* `PruneBatches` は窓の前を捨てる。捨てた後も最後の `NumBatchesToKeep` 個は残る
  （`PruneBatches_dropTo`）
* **`EndBlock` は窓を `WindowStep` で進める**（`EndBlock_spec`）

刈り込みは主の表を block height の範囲で、それ以外を番号の範囲で消す。二つが同じ batch を
消すのは、窓の中で block height が番号とともに増えるからである（`Represents.increasing`）。
-/

namespace SedaChain.Batching

open Infra Infra.Go SedaChain.Utils

variable (keccak : Bytes → Bytes)

/-! ## batch の性質 -/

/-- `ConstructBatch` の作る形の batch：根は 16 進で、ID は根から計算したもの。 -/
def Batch.WellFormed (b : Batch) : Prop :=
  ∃ dataRoot superRoot valRoot, b = newBatch keccak b.BatchNumber b.BlockHeight dataRoot superRoot valRoot

/--
`b` の data result の根が、直前の batch `prev` の根と `b` 自身の木の根を葉とする根である
こと。
-/
def Batch.Chained (prev b : Batch) : Prop :=
  ∃ prevRoot dataRoot, prev.DataResultRoot = hexEncode prevRoot ∧
    b.CurrentDataResultRoot = hexEncode dataRoot ∧
    b.DataResultRoot = hexEncode (RootFromLeaves keccak [prevRoot, dataRoot])

/-! ## store が表す窓 -/

/--
store の batch に関わる collection が窓 `w` を表すこと。

* 二つの番号は窓の先頭と次の番号で、窓の中の batch は自分の番号に置かれる
* 主の表は、窓の中の batch をちょうどその block height に置く
* 番号の index は、窓の中の番号をその batch の block height に写す
* data result の木は窓の中の番号にちょうど一つずつあり、validator の木と署名は
  窓の中の番号にしか無い
* 窓の中で block height は番号とともに増え、data result の根は隣の batch と繋がる
-/
structure Represents (s : Store) (w : Window Batch) : Prop where
  first : s.firstBatchNumber = w.first
  current : s.currentBatchNumber = w.next
  numbered : ∀ n b, w.get? n = some b → b.BatchNumber = n
  batches : ∀ h b, s.batches.get? h = some b ↔ w.get? b.BatchNumber = some b ∧ b.BlockHeight = h
  index : ∀ n, s.batchIndex.get? n = (w.get? n).map Batch.BlockHeight
  dataResultTrees : ∀ n, (s.dataResultTreeEntries.get? n).isSome = (w.get? n).isSome
  validatorTrees : ∀ n a, (s.validatorTreeEntries.get? (n, a)).isSome → (w.get? n).isSome
  signatures : ∀ n a, (s.batchSignatures.get? (n, a)).isSome → (w.get? n).isSome
  increasing : w.Increasing Batch.BlockHeight
  chained : w.Chained (Batch.Chained keccak)
  wellFormed : ∀ n b, w.get? n = some b → b.WellFormed keccak

section Represents

variable {keccak} {s : Store} {w : Window Batch}

/-- data result と割り当ては窓に関わらない。 -/
theorem Represents.withResults (h : Represents keccak s w)
    (dataResults : KeyMap (Bool × String × UInt64) DataResult)
    (batchAssignments : KeyMap (String × UInt64) Nat) :
    Represents keccak { s with dataResults := dataResults, batchAssignments := batchAssignments } w :=
  { h with }

theorem Represents.withParams (h : Represents keccak s w) (params : Params) :
    Represents keccak { s with params := params } w :=
  { h with }

theorem Represents.batchIndexGet_of_get? (h : Represents keccak s w) {n : Nat} {b : Batch}
    (hb : w.get? n = some b) : s.batchIndexGet n = .ok b.BlockHeight := by
  simp [Store.batchIndexGet, h.index n, hb]

theorem Represents.GetBatchForHeight_of_get? (h : Represents keccak s w) {n : Nat} {b : Batch}
    (hb : w.get? n = some b) : s.GetBatchForHeight b.BlockHeight = .ok b := by
  have hn := h.numbered n b hb
  subst hn
  simp [Store.GetBatchForHeight, (h.batches _ b).mpr ⟨hb, rfl⟩]

/-- 窓の中の番号の batch は、番号で読める。 -/
theorem Represents.GetBatchByBatchNumber_of_get? (h : Represents keccak s w) {n : Nat}
    {b : Batch} (hb : w.get? n = some b) : s.GetBatchByBatchNumber n = .ok b := by
  simp [Store.GetBatchByBatchNumber, h.batchIndexGet_of_get? hb, h.GetBatchForHeight_of_get? hb]

/-- 番号で読める batch は窓の中にある。 -/
theorem Represents.get?_of_GetBatchByBatchNumber (h : Represents keccak s w) {n : Nat}
    {b : Batch} (hb : s.GetBatchByBatchNumber n = .ok b) : w.get? n = some b := by
  obtain ⟨height, hh, hb⟩ := bind_eq_ok.mp hb
  unfold Store.batchIndexGet at hh
  unfold Store.GetBatchForHeight at hb
  split at hh
  · next height' hi =>
    cases hh
    split at hb
    · next b' hb' =>
      cases hb
      obtain ⟨hw, rfl⟩ := (h.batches _ b).mp hb'
      rw [h.index n] at hi
      obtain ⟨b'', hb'', hheight⟩ := Option.map_eq_some_iff.mp hi
      have hnum := h.numbered n b'' hb''
      -- block height は番号とともに狭義に増えるので、同じ height の batch は同じ番号にある
      have hnb : b.BatchNumber = n := by
        by_contra hne
        rcases Nat.lt_or_gt_of_ne hne with hlt | hgt
        · have := h.increasing _ _ _ _ hw hb'' hlt; omega
        · have := h.increasing _ _ _ _ hb'' hw hgt; omega
      rw [hnb] at hw
      exact hw
    · cases hb
  · cases hh

/-- **`GetLatestBatch` は窓の最後の batch を返す。** -/
theorem Represents.GetLatestBatch_eq (h : Represents keccak s w)
    (hne : 0 < w.next → w.first < w.next) :
    s.GetLatestBatch = match w.last with
      | some b => .ok b
      | none => .error errBatchingHasNotStarted := by
  unfold Store.GetLatestBatch Window.last
  rw [h.current]
  by_cases h0 : w.next = 0
  · rw [if_pos h0, h0, Nat.zero_sub, w.get?_eq_none_of_next_le (by omega)]
  · rw [if_neg h0]
    have hlive : (w.get? (w.next - 1)).isSome := Window.isSome_get?_iff.mpr (by omega)
    obtain ⟨b, hb⟩ := Option.isSome_iff_exists.mp hlive
    rw [hb, h.GetBatchByBatchNumber_of_get? hb]

end Represents

/-! ## 木を作る段は窓を変えない -/

/--
`ConstructDataResultTree` が書いた後の store：未 batch の data result を鍵の順に、番号 `n` の
batch 済みにしたもの。
-/
def markedStore (s : Store) (n : Nat) : Store :=
  (s.GetDataResults false).foldl (fun s res => s.MarkDataResultAsBatched res n) s

/-- data result を batch 済みにすることは、data result と割り当てしか変えない。 -/
theorem foldl_MarkDataResultAsBatched_shape (n : Nat) :
    ∀ (l : List DataResult) (s : Store), ∃ dataResults batchAssignments,
      l.foldl (fun s res => s.MarkDataResultAsBatched res n) s =
        { s with dataResults := dataResults, batchAssignments := batchAssignments }
  | [], s => ⟨s.dataResults, s.batchAssignments, rfl⟩
  | res :: rest, s => by
    obtain ⟨dataResults, batchAssignments, h⟩ :=
      foldl_MarkDataResultAsBatched_shape n rest (s.MarkDataResultAsBatched res n)
    exact ⟨dataResults, batchAssignments, h⟩

theorem markedStore_shape (s : Store) (n : Nat) : ∃ dataResults batchAssignments,
    markedStore s n = { s with dataResults := dataResults, batchAssignments := batchAssignments } :=
  foldl_MarkDataResultAsBatched_shape n _ s

@[simp] theorem markedStore_dataResultTreeEntries (s : Store) (n : Nat) :
    (markedStore s n).dataResultTreeEntries = s.dataResultTreeEntries := by
  obtain ⟨dataResults, batchAssignments, h⟩ := markedStore_shape s n
  rw [h]

@[simp] theorem markedStore_params (s : Store) (n : Nat) : (markedStore s n).params = s.params := by
  obtain ⟨dataResults, batchAssignments, h⟩ := markedStore_shape s n
  rw [h]

/-- `markResults` は各 data result の ID を読み直し、順に batch 済みにする。 -/
theorem markResults_eq_ok (n : Nat) :
    ∀ (l : List DataResult) (s : Store) {r : List Bytes × List Bytes × Store},
      markResults n l s = .ok r →
        ∃ ids, List.Forall₂ (fun res id => decodeHexString res.Id = .ok id) l ids ∧
          r = (ids, ids.map (SEDASeparatorDataResult :: ·),
            l.foldl (fun s res => s.MarkDataResultAsBatched res n) s)
  | [], s, r, h => by
    cases h
    exact ⟨[], .nil, rfl⟩
  | res :: rest, s, r, h => by
    simp only [markResults] at h
    obtain ⟨resID, hid, h⟩ := bind_eq_ok.mp h
    obtain ⟨r', hr', h⟩ := bind_eq_ok.mp h
    cases h
    obtain ⟨ids, hids, rfl⟩ := markResults_eq_ok n rest _ hr'
    exact ⟨resID :: ids, .cons hid hids, rfl⟩

theorem ConstructDataResultTree_eq_ok {s : Store} {n : Nat}
    {r : DataResultTreeEntries × Bytes × Store}
    (h : ConstructDataResultTree keccak s n = .ok r) :
    ∃ ids, List.Forall₂ (fun res id => decodeHexString res.Id = .ok id) (s.GetDataResults false) ids ∧
      r = (⟨ids⟩, RootFromEntries keccak (ids.map (SEDASeparatorDataResult :: ·)), markedStore s n) := by
  obtain ⟨r', hr', h⟩ := bind_eq_ok.mp h
  cases h
  obtain ⟨ids, hids, rfl⟩ := markResults_eq_ok n _ s hr'
  exact ⟨ids, hids, rfl⟩

theorem decodeHexString_hexEncode (b : Bytes) : decodeHexString (hexEncode b) = .ok b := by
  simp [decodeHexString, decodeHex, hexDecodeString_hexEncode, Except.mapError]

section Construct

variable {keccak} {s : Store} {w : Window Batch}

/-- 窓の最後の batch から、次の番号と直前の二つの根を読む。 -/
theorem Represents.latestBatchInfo_eq (h : Represents keccak s w) (hne : w.Settled)
    (hbound : w.next < 2 ^ 64) :
    latestBatchInfo s = .ok (w.next, match w.last with
      | some b => (b.DataResultRoot, b.ValidatorRoot)
      | none => ("", "")) := by
  unfold latestBatchInfo
  rw [h.GetLatestBatch_eq hne]
  cases hl : w.last with
  | none =>
    rw [Window.next_eq_zero_of_last_eq_none hne hl]
    rfl
  | some b =>
    have hnum : b.BatchNumber = w.next - 1 := h.numbered _ b hl
    have hpos : 0 < w.next := by
      by_contra h0
      simp only [Window.last, Nat.not_lt, Nat.le_zero] at hl h0
      rw [w.get?_eq_none_of_next_le (by omega)] at hl
      cases hl
    simp only [hnum, addU64_of_lt (by omega : w.next - 1 + 1 < 2 ^ 64), Nat.sub_add_cancel hpos]

theorem Represents.markedStore (h : Represents keccak s w) (n : Nat) :
    Represents keccak (markedStore s n) w := by
  obtain ⟨dataResults, batchAssignments, he⟩ := markedStore_shape s n
  rw [he]
  exact h.withResults dataResults batchAssignments

/--
**`ConstructBatch` は窓を変えず、次の番号の batch を作る。** 書くのは、未 batch の data result を
すべて次の番号の batch 済みにすることだけである。作る batch の data result の根は、その ID の
木の根で、窓の最後の batch に根で繋がる。作らないのは、未 batch の data result が無いときに
限る。
-/
theorem ConstructBatch_spec (h : Represents keccak s w) (hne : w.Settled) (hbound : w.next < 2 ^ 64)
    {ext : External} {blockHeight : Int} {c : Construction × Store}
    (hc : ConstructBatch keccak ext blockHeight s = .ok c) :
    ∃ ids, List.Forall₂ (fun res id => decodeHexString res.Id = .ok id) (s.GetDataResults false) ids ∧
      c.2 = markedStore s w.next ∧
      (c.1 = .noUpdate ∧ ids = [] ∨
        ∃ superRoot valRoot valEntries,
          c.1 = .batch (newBatch keccak w.next blockHeight
            (RootFromEntries keccak (ids.map (SEDASeparatorDataResult :: ·))) superRoot valRoot) ⟨ids⟩
              valEntries ∧
          ∀ p, w.last = some p → Batch.Chained keccak p (newBatch keccak w.next blockHeight
            (RootFromEntries keccak (ids.map (SEDASeparatorDataResult :: ·))) superRoot valRoot)) := by
  unfold ConstructBatch at hc
  rw [h.latestBatchInfo_eq hne hbound] at hc
  simp only [ok_bind] at hc
  obtain ⟨tree, htree, hc⟩ := bind_eq_ok.mp hc
  obtain ⟨prevRoot, hprev, hc⟩ := bind_eq_ok.mp hc
  obtain ⟨vals, -, hc⟩ := bind_eq_ok.mp hc
  obtain ⟨ids, hids, rfl⟩ := ConstructDataResultTree_eq_ok keccak htree
  refine ⟨ids, hids, ?_⟩
  by_cases hcond : ids.length = 0 ∧ hexEncode vals.2 = (match w.last with
      | some b => (b.DataResultRoot, b.ValidatorRoot)
      | none => ("", "")).2
  · rw [if_pos hcond] at hc
    cases hc
    exact ⟨rfl, .inl ⟨rfl, List.eq_nil_of_length_eq_zero hcond.1⟩⟩
  · rw [if_neg hcond] at hc
    cases hc
    refine ⟨rfl, .inr ⟨_, _, _, rfl, ?_⟩⟩
    intro p hp
    -- 直前の batch の根は 16 進で書かれているので、読み直すと同じ byte 列になる
    rw [hp] at hprev
    dsimp only at hprev
    obtain ⟨pDataRoot, pSuperRoot, pValRoot, hpwf⟩ := h.wellFormed _ p hp
    have hroot : p.DataResultRoot = hexEncode pSuperRoot := by rw [hpwf]; rfl
    rw [hroot, decodeHexString_hexEncode] at hprev
    have hpr : pSuperRoot = prevRoot := Except.ok.inj hprev
    subst hpr
    exact ⟨pSuperRoot, _, hroot, rfl, rfl⟩

end Construct

/-! ## batch を足す -/

section Push

variable {keccak} {s : Store} {w : Window Batch}

/-- 窓のどの batch より高い block height には、まだ batch が無い。 -/
theorem Represents.batches_get?_eq_none (h : Represents keccak s w) {height : Int}
    (hfresh : ∀ n b, w.get? n = some b → b.BlockHeight < height) : s.batches.get? height = none := by
  rw [Option.eq_none_iff_forall_ne_some]
  intro b hb
  obtain ⟨hw, hbh⟩ := (h.batches height b).mp hb
  have := hfresh _ b hw
  omega

/--
**`SetNewBatch` は窓に batch を足す。** 足す batch は次の番号を持ち、窓のどの batch より
高い block height にあり、窓の最後の batch に根で繋がるとする。
-/
theorem SetNewBatch_push (h : Represents keccak s w) {batch : Batch}
    (hfresh : ∀ n b, w.get? n = some b → b.BlockHeight < batch.BlockHeight)
    (hnum : batch.BatchNumber = w.next) (hbound : w.next + 1 < 2 ^ 64)
    (hchain : ∀ p, w.last = some p → Batch.Chained keccak p batch) (hwf : batch.WellFormed keccak)
    (dataEntries : DataResultTreeEntries) (valEntries : List ValidatorTreeEntry) :
    ∃ s', s.SetNewBatch batch dataEntries valEntries = .ok s' ∧ Represents keccak s' (w.push batch) ∧
      s'.dataResults = s.dataResults ∧ s'.batchAssignments = s.batchAssignments ∧
      s'.params = s.params ∧
      s'.dataResultTreeEntries = s.dataResultTreeEntries.set batch.BatchNumber dataEntries := by
  have hi : s.batchIndex.get? batch.BatchNumber = none := by
    rw [h.index, hnum, w.get?_eq_none_of_next_le (le_refl _), Option.map_none]
  rw [Store.SetNewBatch_eq s dataEntries valEntries (h.batches_get?_eq_none hfresh) hi (hnum.trans h.current.symm)]
  refine ⟨_, rfl, ?_, rfl, rfl, rfl, rfl⟩
  -- 書いた鍵は窓の次の番号と新しい block height で、ほかの鍵は前のまま読める
  have hpush : ∀ n, (w.push batch).get? n = if n = batch.BatchNumber then some batch else w.get? n := by
    intro n
    rw [Window.get?_push, hnum]
  refine
    { first := h.first
      current := by
        dsimp only
        rw [h.current, addU64_of_lt hbound, Window.next_push]
      numbered := ?numbered
      batches := ?batches
      index := ?index
      dataResultTrees := ?dataResultTrees
      validatorTrees := ?validatorTrees
      signatures := fun n a ha => Window.isSome_get?_push batch (h.signatures n a ha)
      increasing := h.increasing.push hfresh
      chained := h.chained.push hchain
      wellFormed := ?wellFormed }
  case numbered =>
    intro n b hb
    rw [hpush] at hb
    split at hb
    · next hn => cases hb; exact hn.symm
    · exact h.numbered n b hb
  case batches =>
    intro height b
    dsimp only
    rw [KeyMap.get?_set, hpush]
    by_cases hh : height = batch.BlockHeight
    · subst hh
      rw [if_pos rfl]
      constructor
      · rintro ⟨⟩
        exact ⟨if_pos rfl, rfl⟩
      · rintro ⟨hb, hbh⟩
        split at hb
        · exact hb
        · -- 窓の中の batch は新しい block height より低い
          have := hfresh _ b hb
          omega
    · rw [if_neg hh, h.batches]
      by_cases hbn : b.BatchNumber = batch.BatchNumber
      · rw [if_pos hbn, hbn, hnum, w.get?_eq_none_of_next_le (le_refl _)]
        constructor
        · rintro ⟨⟨⟩, -⟩
        · rintro ⟨⟨⟩, hbh⟩
          exact absurd hbh.symm hh
      · rw [if_neg hbn]
  case index =>
    intro n
    dsimp only
    rw [KeyMap.get?_set, hpush]
    split
    · rfl
    · exact h.index n
  case dataResultTrees =>
    intro n
    dsimp only
    rw [KeyMap.get?_set, hpush]
    split
    · rfl
    · exact h.dataResultTrees n
  case validatorTrees =>
    intro n a ha
    rcases KeyMap.isSome_get?_foldl_set _ _ valEntries _ _ ha with ⟨e, -, he⟩ | ha
    · -- 新しい木の entry は新しい番号に置かれる
      have hn : batch.BatchNumber = n := congrArg Prod.fst he
      rw [hpush, if_pos hn.symm]
      rfl
    · exact Window.isSome_get?_push batch (h.validatorTrees n a ha)
  case wellFormed =>
    intro n b hb
    rw [hpush] at hb
    split at hb
    · cases hb; exact hwf
    · exact h.wellFormed n b hb

end Push

/-! ## 刈り込み -/

section Prune

variable {keccak} {s : Store} {w : Window Batch}

/--
窓の先頭の batch `lo` と番号 `m` の batch `hi` の block height の範囲に入る窓の batch は、
ちょうど番号が `m` より前のものである。
-/
theorem Represents.height_range_iff (h : Represents keccak s w) {m : Nat} {lo hi : Batch}
    (hlo : w.get? w.first = some lo) (hhi : w.get? m = some hi) {n : Nat} {b : Batch}
    (hb : w.get? n = some b) :
    (lo.BlockHeight ≤ b.BlockHeight ∧ b.BlockHeight < hi.BlockHeight) ↔ n < m := by
  have hfn : w.first ≤ n := (Window.isSome_get?_iff.mp (by rw [hb]; rfl)).1
  rw [h.increasing.le_iff hlo hb, h.increasing.lt_iff hb hhi]
  exact ⟨fun h => h.2, fun h => ⟨hfn, h⟩⟩

/--
**範囲を消すと窓の前が捨てられる。** 主の表は block height の範囲 `[lo, hi)` で、ほかは番号の
範囲 `[first, m)` で消すが、消える batch は同じである。
-/
theorem Represents.clearBatches (h : Represents keccak s w) {m : Nat} {lo hi : Batch}
    (hlo : w.get? w.first = some lo) (hhi : w.get? m = some hi) :
    Represents keccak (s.clearBatches w.first m lo.BlockHeight hi.BlockHeight) (w.dropTo m) := by
  have hm : w.first ≤ m ∧ m < w.next := Window.isSome_get?_iff.mp (by rw [hhi]; rfl)
  have hdrop := w.get?_dropTo_eq m
  refine
    { first := by
        dsimp only [Store.clearBatches]
        rw [Window.first_dropTo_of_le hm.1]
      current := by
        dsimp only [Store.clearBatches]
        rw [h.current, Window.next_dropTo hm.2.le]
      numbered := ?numbered
      batches := ?batches
      index := ?index
      dataResultTrees := ?dataResultTrees
      validatorTrees := ?validatorTrees
      signatures := ?signatures
      increasing := h.increasing.dropTo m
      chained := h.chained.dropTo m
      wellFormed := ?wellFormed }
  case numbered =>
    intro n b hb
    rw [hdrop] at hb
    split at hb
    · cases hb
    · exact h.numbered n b hb
  case batches =>
    intro height b
    dsimp only [Store.clearBatches]
    rw [KeyMap.get?_filter_not, hdrop]
    constructor
    · intro hb
      split at hb
      · cases hb
      · next hout =>
        obtain ⟨hw, rfl⟩ := (h.batches _ b).mp hb
        -- 主の表に残る batch は、番号の範囲の外にある
        have hn : ¬ b.BatchNumber < m := fun hn => hout ((h.height_range_iff hlo hhi hw).mpr hn)
        exact ⟨by rw [if_neg (fun hr => hn hr.2), hw], rfl⟩
    · rintro ⟨hb, rfl⟩
      split at hb
      · cases hb
      · next hout =>
        have hn : ¬ b.BatchNumber < m := fun hn =>
          hout ⟨(Window.isSome_get?_iff.mp (by rw [hb]; rfl)).1, hn⟩
        rw [if_neg (fun hr => hn ((h.height_range_iff hlo hhi hb).mp hr))]
        exact (h.batches _ b).mpr ⟨hb, rfl⟩
  case index =>
    intro n
    dsimp only [Store.clearBatches]
    rw [KeyMap.get?_filter_not, hdrop]
    split
    · rfl
    · exact h.index n
  case dataResultTrees =>
    intro n
    dsimp only [Store.clearBatches]
    rw [KeyMap.get?_filter_not, hdrop]
    split
    · rfl
    · exact h.dataResultTrees n
  case validatorTrees =>
    intro n a ha
    dsimp only [Store.clearBatches] at ha
    rw [KeyMap.get?_filter_not] at ha
    rw [hdrop]
    split at ha
    · cases ha
    · next hout => rw [if_neg hout]; exact h.validatorTrees n a ha
  case signatures =>
    intro n a ha
    dsimp only [Store.clearBatches] at ha
    rw [KeyMap.get?_filter_not] at ha
    rw [hdrop]
    split at ha
    · cases ha
    · next hout => rw [if_neg hout]; exact h.signatures n a ha
  case wellFormed =>
    intro n b hb
    rw [hdrop] at hb
    split at hb
    · cases hb
    · exact h.wellFormed n b hb

/-- 範囲を消した後に残る木の entry は、消す前のままである。 -/
theorem Store.clearBatches_dataResultTreeEntries {lo hi n : Nat} {hlo hhi : Int}
    (hn : ((s.clearBatches lo hi hlo hhi).dataResultTreeEntries.get? n).isSome) :
    (s.clearBatches lo hi hlo hhi).dataResultTreeEntries.get? n = s.dataResultTreeEntries.get? n := by
  dsimp only [Store.clearBatches] at hn ⊢
  rw [KeyMap.get?_filter_not] at hn ⊢
  split at hn
  · cases hn
  · next hout => rw [if_neg hout]

/-- 番号の index から読めた block height は、窓の中のその番号の batch のものである。 -/
theorem Represents.get?_of_batchIndexGet (h : Represents keccak s w) {n : Nat} {height : Int}
    (hn : s.batchIndexGet n = .ok height) : ∃ b, w.get? n = some b ∧ b.BlockHeight = height := by
  unfold Store.batchIndexGet at hn
  rw [h.index n] at hn
  cases hb : w.get? n with
  | none => rw [hb] at hn; cases hn
  | some b =>
    rw [hb] at hn
    exact ⟨b, rfl, Except.ok.inj hn⟩

/--
**`PruneBatches` は窓の前を捨てる。** 捨てた後の先頭 `m` は元の先頭より前に戻らず、刈り込んだ
なら最後の `NumBatchesToKeep` 個の番号は残る。data result、割り当て、param は変えない。
-/
theorem PruneBatches_dropTo (h : Represents keccak s w) (hbound : w.next < 2 ^ 64) {s' : Store}
    (hp : PruneBatches s = .ok s') :
    ∃ m, Represents keccak s' (w.dropTo m) ∧ w.first ≤ m ∧ m ≤ w.next ∧
      (m = w.first ∨ (m < w.next ∧ m + s.params.NumBatchesToKeep.toNat ≤ w.next)) ∧
      s'.dataResults = s.dataResults ∧ s'.batchAssignments = s.batchAssignments ∧
      s'.params = s.params ∧
      ∀ n, (s'.dataResultTreeEntries.get? n).isSome →
        s'.dataResultTreeEntries.get? n = s.dataResultTreeEntries.get? n := by
  unfold PruneBatches at hp
  dsimp only at hp
  rw [h.current, h.first, subU64_of_le w.first_le_next hbound] at hp
  split at hp
  · -- 残す数を超えていなければ何もしない
    cases hp
    exact ⟨w.first, by rw [Window.dropTo_of_le (le_refl _)]; exact h, le_refl _,
      w.first_le_next, .inl rfl, rfl, rfl, rfl, fun _ _ => rfl⟩
  · next hkeep =>
    obtain ⟨loHeight, hloIndex, hp⟩ := bind_eq_ok.mp hp
    obtain ⟨hiHeight, hhiIndex, hp⟩ := bind_eq_ok.mp hp
    cases hp
    obtain ⟨lo, hlo, rfl⟩ := h.get?_of_batchIndexGet hloIndex
    obtain ⟨hi, hhi, rfl⟩ := h.get?_of_batchIndexGet hhiIndex
    -- 新しい先頭は index から読めたので窓の中にあり、残す数の分だけ次の番号より前にある
    have hm := Window.isSome_get?_iff.mp (by rw [hhi]; rfl : (w.get? _).isSome)
    have hle : min (addU64 w.first s.params.MaxBatchPrunePerBlock.toNat)
        (subU64 w.next s.params.NumBatchesToKeep.toNat) + s.params.NumBatchesToKeep.toNat ≤ w.next := by
      rw [subU64_of_le (by omega) hbound]
      omega
    exact ⟨_, h.clearBatches hlo hhi, hm.1, hm.2.le, .inr ⟨hm.2, hle⟩, rfl, rfl, rfl,
      fun n hn => Store.clearBatches_dataResultTreeEntries hn⟩

end Prune

/-! ## end block の窓への効果 -/

/--
end block が窓に及ぼしうる効果：何もしないか、次の番号で高さ `height` の、最後の batch に
根で繋がる batch を足してから、前を `m` まで捨てる。捨てるなら最後の `keep` 個は残る。
-/
inductive WindowStep (keep : Nat) (height : Int) : Window Batch → Window Batch → Prop
  | noUpdate (w : Window Batch) : WindowStep keep height w w
  | push (w : Window Batch) (b : Batch) (m : Nat) (hnum : b.BatchNumber = w.next)
      (hheight : b.BlockHeight = height) (hchain : ∀ p, w.last = some p → Batch.Chained keccak p b)
      (hfirst : w.first ≤ m) (hnext : m ≤ w.next) (hkeep : m = w.first ∨ m + keep ≤ w.next + 1) :
      WindowStep keep height w ((w.push b).dropTo m)

/--
end block が batch を作ったときに言えること。`ids` は未 batch の data result の ID、`b` は作った
batch、`m` は刈り込んだ後の先頭の番号である。
-/
structure CreatedBatch (s s' : Store) (w : Window Batch) (keep : Nat) (blockHeight : Int)
    (ids : List Bytes) (b : Batch) (m : Nat) : Prop where
  decoded : List.Forall₂ (fun res id => decodeHexString res.Id = .ok id) (s.GetDataResults false) ids
  batch : ∃ superRoot valRoot, b = newBatch keccak w.next blockHeight
    (RootFromEntries keccak (ids.map (SEDASeparatorDataResult :: ·))) superRoot valRoot
  chained : ∀ p, w.last = some p → Batch.Chained keccak p b
  represents : Represents keccak s' ((w.push b).dropTo m)
  first_le : w.first ≤ m
  le_next : m ≤ w.next
  keeps : m = w.first ∨ m + keep ≤ w.next + 1
  dataResults : s'.dataResults = (markedStore s w.next).dataResults
  batchAssignments : s'.batchAssignments = (markedStore s w.next).batchAssignments
  tree : s'.dataResultTreeEntries.get? w.next = some ⟨ids⟩
  trees : ∀ n, n ≠ w.next → (s'.dataResultTreeEntries.get? n).isSome →
    s'.dataResultTreeEntries.get? n = s.dataResultTreeEntries.get? n
  params : s'.params = s.params

section EndBlock

variable {keccak} {s : Store} {w : Window Batch}

@[simp] theorem newBatch_BatchNumber (n : Nat) (height : Int) (dataRoot superRoot valRoot : Bytes) :
    (newBatch keccak n height dataRoot superRoot valRoot).BatchNumber = n := rfl

@[simp] theorem newBatch_BlockHeight (n : Nat) (height : Int) (dataRoot superRoot valRoot : Bytes) :
    (newBatch keccak n height dataRoot superRoot valRoot).BlockHeight = height := rfl

/-- 未 batch の data result が無ければ、batch 済みにしても store は変わらない。 -/
theorem markedStore_of_nil (h : s.GetDataResults false = []) (n : Nat) : markedStore s n = s := by
  rw [markedStore, h, List.foldl_nil]

/--
**`EndBlock` がすること。** block height は窓のどの batch より高いとする。batch を作らなければ
store は変わらず、batching が動いているなら未 batch の data result は無い。作るなら
`CreatedBatch` のとおりである。
-/
theorem EndBlock_spec (h : Represents keccak s w) (hne : w.Settled) {blockHeight : Int}
    (hfresh : ∀ n b, w.get? n = some b → b.BlockHeight < blockHeight) (hbound : w.next + 1 < 2 ^ 64)
    {ext : External} {s' : Store} (he : EndBlock keccak ext blockHeight s = .ok s') :
    (s' = s ∧ (ext.IsProvingSchemeActivated = true → s.GetDataResults false = [])) ∨
      ∃ ids b m, CreatedBatch keccak s s' w s.params.NumBatchesToKeep.toNat blockHeight ids b m := by
  unfold EndBlock at he
  split at he
  · next hactive =>
    obtain ⟨c, hc, he⟩ := bind_eq_ok.mp he
    obtain ⟨ids, hids, hc2, hc1⟩ := ConstructBatch_spec h hne (by omega) hc
    have hrep : Represents keccak c.2 w := hc2 ▸ h.markedStore w.next
    rcases hc1 with ⟨hno, rfl⟩ | ⟨superRoot, valRoot, ve, hb, hchain⟩
    · -- 作らないのは未 batch の data result が無いときで、そのとき何も書かれていない
      have hnil : s.GetDataResults false = [] := List.forall₂_nil_right_iff.mp hids
      rw [hno] at he
      cases he
      exact .inl ⟨by rw [hc2, markedStore_of_nil hnil], fun _ => hnil⟩
    · -- batch を足してから刈り込む
      rw [hb] at he
      obtain ⟨s₁, hs₁, hp⟩ := bind_eq_ok.mp he
      obtain ⟨s₁', hs₁', hrep₁, hdr₁, hba₁, hparams₁, htrees₁⟩ :=
        SetNewBatch_push hrep (fun n b hw => by simpa using hfresh n b hw) (by simp) hbound
          hchain ⟨_, superRoot, valRoot, rfl⟩ _ ve
      rw [hs₁'] at hs₁
      cases hs₁
      obtain ⟨m, hrep₂, hfirst, -, hkeep, hdr₂, hba₂, hparams₂, htrees₂⟩ :=
        PruneBatches_dropTo hrep₁ (by rw [Window.next_push]; omega) hp
      rw [Window.first_push] at hfirst
      rw [Window.first_push, Window.next_push, hparams₁, hc2, markedStore_params] at hkeep
      have hle := w.first_le_next
      have hm : m ≤ w.next := by omega
      -- 新しい batch の番号は刈り込みの後も窓の中にあり、その木の entry が残る
      have htree : (s₁.dataResultTreeEntries.get? w.next) = some ⟨ids⟩ := by
        rw [htrees₁, KeyMap.get?_set, if_pos (by simp)]
      have hlive : (s'.dataResultTreeEntries.get? w.next).isSome := by
        rw [hrep₂.dataResultTrees, Window.get?_dropTo, if_neg (by omega), Window.get?_push, if_pos rfl]
        rfl
      refine .inr ⟨ids, _, m,
        { decoded := hids
          batch := ⟨superRoot, valRoot, rfl⟩
          chained := hchain
          represents := hrep₂
          first_le := hfirst
          le_next := hm
          keeps := by omega
          dataResults := by rw [hdr₂, hdr₁, hc2]
          batchAssignments := by rw [hba₂, hba₁, hc2]
          tree := by rw [htrees₂ _ hlive, htree]
          trees := ?_
          params := by rw [hparams₂, hparams₁, hc2, markedStore_params] }⟩
      intro n hn hsome
      rw [htrees₂ n hsome, htrees₁, KeyMap.get?_set, if_neg (by simpa using hn), hc2,
        markedStore_dataResultTreeEntries]
  · cases he
    exact .inl ⟨rfl, fun h => by simp_all⟩

/-- **`EndBlock` は store の表す窓を `WindowStep` で進め、param を変えない。** -/
theorem EndBlock_windowStep (h : Represents keccak s w) (hne : w.Settled) {blockHeight : Int}
    (hfresh : ∀ n b, w.get? n = some b → b.BlockHeight < blockHeight) (hbound : w.next + 1 < 2 ^ 64)
    {ext : External} {s' : Store} (he : EndBlock keccak ext blockHeight s = .ok s') :
    ∃ w', Represents keccak s' w' ∧
      WindowStep keccak s.params.NumBatchesToKeep.toNat blockHeight w w' ∧ s'.params = s.params := by
  rcases EndBlock_spec h hne hfresh hbound he with ⟨rfl, -⟩ | ⟨ids, b, m, hc⟩
  · exact ⟨w, h, .noUpdate w, rfl⟩
  · obtain ⟨superRoot, valRoot, rfl⟩ := hc.batch
    exact ⟨_, hc.represents, .push w _ m (by simp) (by simp) hc.chained hc.first_le hc.le_next hc.keeps,
      hc.params⟩

end EndBlock

end SedaChain.Batching
