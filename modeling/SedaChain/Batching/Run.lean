import SedaChain.Batching.Window

/-!
# batching の走りと、そこで保たれる不変条件

genesis（`DefaultGenesisState`）から、batching の store を動かす出来事を任意に並べた走りを
定め、届くどの状態でも store が番号の続く窓を表すことを示す。出来事は

* `setDataResult` — core contract が `SetDataResultForBatching` で data result を渡す
* `storeSignatures` — `PreBlocker` が、ある block height の batch の番号で署名を書く
* `updateParams` — msg server の `UpdateParams`
* `endBlock` — 狭義に増える block height での `EndBlock`。validator の集合の変化は、
  そこに渡す `External` が担う

である。

* `step_tracks` — 一つの出来事は、store が窓を表すことを保ち、窓を `WindowStep` で進める
* `reachable_tracks` — genesis から届く状態の store は窓を表し、param は検査を通る
* `Represents.storeInvariant` — 窓を表す store は `BatchStoreInvariant` を満たす
* **`batch_store_invariant`** — 届く状態は `BatchStoreInvariant` を満たし、次の出来事は
  最後の `NumBatchesToKeep` 個の batch を消さない
-/

namespace SedaChain.Batching

open Infra Infra.Go SedaChain.Utils

/-! ## 出来事 -/

/--
`PreBlocker` の store への書き込み：block height `batchHeight` に batch があれば、その番号で
署名を順に書く。batch が無ければ何もしない。
-/
def storeBatchSignatures (s : Store) (batchHeight : Int) (sigs : List (Bytes × Bytes)) : Store :=
  match s.GetBatchForHeight batchHeight with
  | .ok batch => sigs.foldl (fun s sig => s.SetBatchSigSecp256k1 batch.BatchNumber sig.1 sig.2) s
  | .error _ => s

/-- msg server の `UpdateParams`。権限の主と param を確かめてから書く。 -/
def UpdateParams (authority reqAuthority : String) (params : Params) (s : Store) :
    Except String Store := do
  if authority ≠ reqAuthority then
    throw s!"expected {authority}, got {reqAuthority}"
  params.Validate
  pure { s with params := params }

/-- 系の状態：store と、最後に end block を走らせた block height。 -/
structure Sys where
  store : Store
  height : Int

/-- batching の store を動かす出来事。 -/
inductive Event
  | setDataResult (result : DataResult)
  | storeSignatures (batchHeight : Int) (sigs : List (Bytes × Bytes))
  | updateParams (reqAuthority : String) (params : Params)
  | endBlock (blockHeight : Int) (ext : External)

variable (keccak : Bytes → Bytes) (authority : String)

/--
一つの出来事。失敗した `UpdateParams` の tx は状態を変えない。end block は block height が
狭義に増え `int64` に収まるときだけ起こり、失敗すれば chain が止まるので次の状態は無い。
-/
def step (σ : Sys) : Event → Option Sys
  | .setDataResult result => some { σ with store := σ.store.SetDataResultForBatching result }
  | .storeSignatures batchHeight sigs =>
    some { σ with store := storeBatchSignatures σ.store batchHeight sigs }
  | .updateParams reqAuthority params =>
    match UpdateParams authority reqAuthority params σ.store with
    | .ok s => some { σ with store := s }
    | .error _ => some σ
  | .endBlock blockHeight ext =>
    if σ.height < blockHeight ∧ blockHeight < 2 ^ 63 then
      match EndBlock keccak ext blockHeight σ.store with
      | .ok s => some ⟨s, blockHeight⟩
      | .error _ => none
    else none

/-- genesis から届く状態。genesis は block height 0 にある。 -/
inductive Reachable : Sys → Prop
  | init {s : Store} : InitGenesis DefaultGenesisState Store.empty = .ok s → Reachable ⟨s, 0⟩
  | next {σ σ' : Sys} (e : Event) : Reachable σ → step keccak authority σ e = some σ' → Reachable σ'

/-- 出来事の列を順に起こす。途中で chain が止まれば `none` である。 -/
def run (σ : Sys) : List Event → Option Sys
  | [] => some σ
  | e :: es => (step keccak authority σ e).bind fun σ' => run σ' es

/-- 空の store に既定の genesis を読み込んだ状態。 -/
theorem reachable_genesis : Reachable keccak authority ⟨Store.empty, 0⟩ := .init rfl

variable {keccak authority} in
/-- 届く状態から出来事の列を起こした先も、届く状態である。 -/
theorem Reachable.run {σ σ' : Sys} (hr : Reachable keccak authority σ) :
    ∀ {es : List Event}, run keccak authority σ es = some σ' → Reachable keccak authority σ'
  | [], h => by
    cases h
    exact hr
  | e :: es, h => by
    simp only [SedaChain.Batching.run, Option.bind_eq_some_iff] at h
    obtain ⟨σ₁, hs, h⟩ := h
    exact (Reachable.next e hr hs).run h

/-- 具体的な走りに使う data result。鍵は `("00", drBlockHeight)`、ID は `"aa"` である。 -/
def sampleResult (drBlockHeight : UInt64) : DataResult :=
  { DataResult.zero with Id := "aa", DrId := "00", DrBlockHeight := drBlockHeight }

/-- 具体的な走りに使う外部の状態：batching が動き、validator は居ない。 -/
def activeExternal : External :=
  { IsProvingSchemeActivated := true, LastTotalPower := 0, LastValidatorPowers := []
    ValidatorKey := fun _ => none }

/-- 残す数を 4 にし、data result を一つずつ渡して五つの batch を作る走り。 -/
def prunedRun : Option Sys :=
  run id "" ⟨Store.empty, 0⟩
    [.updateParams "" ⟨4, 100⟩,
     .setDataResult (sampleResult 1), .endBlock 1 activeExternal,
     .setDataResult (sampleResult 2), .endBlock 2 activeExternal,
     .setDataResult (sampleResult 3), .endBlock 3 activeExternal,
     .setDataResult (sampleResult 4), .endBlock 4 activeExternal,
     .setDataResult (sampleResult 5), .endBlock 5 activeExternal]

/-- `prunedRun` の行き着く状態。 -/
def prunedState : Sys := prunedRun.getD ⟨Store.empty, 0⟩

theorem prunedRun_eq : prunedRun = some prunedState := by
  cases hp : prunedRun with
  | none =>
    have h : prunedRun.isSome = true := by decide +kernel
    rw [hp] at h
    cases h
  | some σ =>
    rw [prunedState, hp]
    rfl

/-! ## 出来事ごとの store -/

section Events

variable {keccak} {s : Store} {w : Window Batch}

theorem Represents.SetDataResultForBatching (h : Represents keccak s w) (result : DataResult) :
    Represents keccak (s.SetDataResultForBatching result) w :=
  h.withResults _ s.batchAssignments

/-- 窓の中の番号で署名を書いても、窓は変わらない。 -/
theorem Represents.SetBatchSigSecp256k1 (h : Represents keccak s w) {n : Nat}
    (hn : (w.get? n).isSome) (valAddr sig : Bytes) :
    Represents keccak (s.SetBatchSigSecp256k1 n valAddr sig) w :=
  { h with
    signatures := by
      intro m a ha
      dsimp only [Store.SetBatchSigSecp256k1] at ha
      rw [KeyMap.get?_set] at ha
      split at ha
      · next he => rw [(Prod.mk.inj he).1]; exact hn
      · exact h.signatures m a ha }

theorem Represents.foldl_SetBatchSigSecp256k1 {n : Nat} (hn : (w.get? n).isSome) :
    ∀ (sigs : List (Bytes × Bytes)) {s : Store}, Represents keccak s w →
      Represents keccak (sigs.foldl (fun s sig => s.SetBatchSigSecp256k1 n sig.1 sig.2) s) w
  | [], _, h => h
  | sig :: sigs, _, h =>
    Represents.foldl_SetBatchSigSecp256k1 hn sigs (h.SetBatchSigSecp256k1 hn sig.1 sig.2)

/-- block height から読めた batch は窓の中にある。 -/
theorem Represents.get?_of_GetBatchForHeight (h : Represents keccak s w) {height : Int}
    {b : Batch} (hb : s.GetBatchForHeight height = .ok b) :
    w.get? b.BatchNumber = some b ∧ b.BlockHeight = height := by
  unfold Store.GetBatchForHeight at hb
  split at hb
  · next hget =>
    cases hb
    exact (h.batches _ _).mp hget
  · cases hb

theorem foldl_SetBatchSigSecp256k1_shape (n : Nat) :
    ∀ (sigs : List (Bytes × Bytes)) (s : Store), ∃ batchSignatures,
      sigs.foldl (fun s sig => s.SetBatchSigSecp256k1 n sig.1 sig.2) s =
        { s with batchSignatures := batchSignatures }
  | [], s => ⟨s.batchSignatures, rfl⟩
  | sig :: sigs, s => by
    obtain ⟨batchSignatures, h⟩ :=
      foldl_SetBatchSigSecp256k1_shape n sigs (s.SetBatchSigSecp256k1 n sig.1 sig.2)
    exact ⟨batchSignatures, h⟩

/-- 署名を書くことは、署名の collection しか変えない。 -/
theorem storeBatchSignatures_shape (s : Store) (batchHeight : Int) (sigs : List (Bytes × Bytes)) :
    ∃ batchSignatures, storeBatchSignatures s batchHeight sigs =
      { s with batchSignatures := batchSignatures } := by
  unfold SedaChain.Batching.storeBatchSignatures
  split
  · exact foldl_SetBatchSigSecp256k1_shape _ sigs s
  · exact ⟨s.batchSignatures, rfl⟩

@[simp] theorem storeBatchSignatures_params (batchHeight : Int) (sigs : List (Bytes × Bytes)) :
    (storeBatchSignatures s batchHeight sigs).params = s.params := by
  obtain ⟨batchSignatures, h⟩ := storeBatchSignatures_shape s batchHeight sigs
  rw [h]

theorem Represents.storeBatchSignatures (h : Represents keccak s w) (batchHeight : Int)
    (sigs : List (Bytes × Bytes)) : Represents keccak (storeBatchSignatures s batchHeight sigs) w := by
  unfold SedaChain.Batching.storeBatchSignatures
  split
  · next batch hb =>
    have hlive : (w.get? batch.BatchNumber).isSome := by
      rw [(h.get?_of_GetBatchForHeight hb).1]
      rfl
    exact Represents.foldl_SetBatchSigSecp256k1 hlive sigs h
  · exact h

/-- 通った `UpdateParams` は、確かめた param を書くだけである。 -/
theorem UpdateParams_eq_ok {reqAuthority : String} {params : Params} {s' : Store}
    (h : UpdateParams authority reqAuthority params s = .ok s') :
    s' = { s with params := params } ∧ params.Validate = .ok () := by
  unfold UpdateParams at h
  split at h
  · cases h
  · obtain ⟨u, hv, h⟩ := bind_eq_ok.mp h
    cases h
    exact ⟨rfl, hv⟩

end Events

/-! ## 窓の一歩 -/

section WindowStep

variable {keccak} {keep : Nat} {height : Int} {w w' : Window Batch}

theorem WindowStep.settled (hs : WindowStep keccak keep height w w') (hne : w.Settled) :
    w'.Settled := by
  cases hs with
  | noUpdate => exact hne
  | push b m hnum hheight hchain hfirst hnext hkeep =>
    exact (Window.Settled.push (w := w) b).dropTo (by rw [Window.next_push]; omega)

theorem WindowStep.next_le (hs : WindowStep keccak keep height w w') : w'.next ≤ w.next + 1 := by
  cases hs with
  | noUpdate => omega
  | push b m hnum hheight hchain hfirst hnext hkeep =>
    rw [Window.next_dropTo (by rw [Window.next_push]; omega), Window.next_push]

/-- 一歩の後の窓の batch は、前の窓にあったか、高さ `height` の新しい batch である。 -/
theorem WindowStep.heights_le (hs : WindowStep keccak keep height w w') {bound : Int}
    (hw : ∀ n b, w.get? n = some b → b.BlockHeight ≤ bound) (hbound : bound ≤ height) :
    ∀ n b, w'.get? n = some b → b.BlockHeight ≤ height := by
  cases hs with
  | noUpdate =>
    intro n b hb
    exact (hw n b hb).trans hbound
  | push b m hnum hheight hchain hfirst hnext hkeep =>
    intro n a ha
    rw [Window.get?_dropTo, Window.get?_push] at ha
    split at ha
    · cases ha
    · split at ha
      · cases ha; exact hheight.le
      · exact (hw n a ha).trans hbound

/--
**一歩は最後の `keep` 個の番号を残す。** 前の窓の先頭以降で、後の窓の次の番号から数えて
`keep` 個の中にある番号は、後の窓の中にある。
-/
theorem WindowStep.keeps_latest (hs : WindowStep keccak keep height w w') {n : Nat}
    (hfirst : w.first ≤ n) (hlt : n < w'.next) (hkeep : w'.next ≤ n + keep) :
    (w'.get? n).isSome := by
  cases hs with
  | noUpdate => exact Window.isSome_get?_iff.mpr ⟨hfirst, hlt⟩
  | push b m hnum hheight hchain hm hnext hmkeep =>
    have hnext' : ((w.push b).dropTo m).next = w.next + 1 := by
      rw [Window.next_dropTo (by rw [Window.next_push]; omega), Window.next_push]
    rw [hnext'] at hlt hkeep
    -- 捨てた番号は先頭のままか、最後の `keep` 個より前にある
    have hmn : ¬ n < m := by omega
    rw [Window.get?_dropTo, if_neg hmn]
    exact Window.isSome_get?_iff.mpr ⟨by rw [Window.first_push]; omega, by rw [Window.next_push]; omega⟩

end WindowStep

/-! ## 走りの不変条件 -/

/--
状態 `σ` の store が窓 `w` を表し、窓の batch はどれも最後の end block より高くなく、
番号は block height を超えない。
-/
structure Tracks (σ : Sys) (w : Window Batch) : Prop where
  represents : Represents keccak σ.store w
  settled : w.Settled
  heights : ∀ n b, w.get? n = some b → b.BlockHeight ≤ σ.height
  next_le : (w.next : Int) ≤ σ.height
  height_lt : σ.height < 2 ^ 63
  params_valid : σ.store.params.Validate = .ok ()

section Run

variable {keccak authority} {σ σ' : Sys} {w : Window Batch}

theorem InitGenesis_default {s : Store} (h : InitGenesis DefaultGenesisState Store.empty = .ok s) :
    s = Store.empty := by
  cases h
  rfl

theorem tracks_init {s : Store} (h : InitGenesis DefaultGenesisState Store.empty = .ok s) :
    Tracks keccak ⟨s, 0⟩ (Window.empty 0) := by
  rw [InitGenesis_default h]
  exact
    { represents :=
        { first := rfl
          current := rfl
          numbered := by simp
          batches := by simp [Store.empty]
          index := by simp [Store.empty]
          dataResultTrees := by simp [Store.empty]
          validatorTrees := by simp [Store.empty]
          signatures := by simp [Store.empty]
          increasing := by simp [Window.Increasing]
          chained := by simp [Window.Chained]
          wellFormed := by simp }
      settled := Window.settled_empty
      heights := by simp
      next_le := by simp
      height_lt := by decide
      params_valid := by decide }

/-- 窓を変えない出来事は、store が窓を表すことと param が検査を通ることだけ確かめればよい。 -/
theorem Tracks.withStore (ht : Tracks keccak σ w) {s : Store} (h : Represents keccak s w)
    (hp : s.params.Validate = .ok ()) : Tracks keccak { σ with store := s } w :=
  { ht with represents := h, params_valid := hp }

/-- 前の end block より高い block height は、窓のどの batch より高い。 -/
theorem Tracks.heights_lt (ht : Tracks keccak σ w) {blockHeight : Int} (hlt : σ.height < blockHeight) :
    ∀ n b, w.get? n = some b → b.BlockHeight < blockHeight :=
  fun n b hb => lt_of_le_of_lt (ht.heights n b hb) hlt

/-- `int64` に収まる block height までは、batch の番号は `uint64` で溢れない。 -/
theorem Tracks.next_succ_lt (ht : Tracks keccak σ w) {blockHeight : Int} (hlt : σ.height < blockHeight)
    (hbound : blockHeight < 2 ^ 63) : w.next + 1 < 2 ^ 64 := by
  have hnext := ht.next_le
  omega

/-- end block の一歩。新しい batch の block height は前の end block のものである。 -/
theorem Tracks.endBlock (ht : Tracks keccak σ w) {blockHeight : Int} (hlt : σ.height < blockHeight)
    (hbound : blockHeight < 2 ^ 63) {ext : External} {s' : Store}
    (he : EndBlock keccak ext blockHeight σ.store = .ok s') :
    ∃ w', Tracks keccak ⟨s', blockHeight⟩ w' ∧
      WindowStep keccak σ.store.params.NumBatchesToKeep.toNat blockHeight w w' := by
  have hnext := ht.next_le
  obtain ⟨w', hrep, hs, hparams⟩ :=
    EndBlock_windowStep ht.represents ht.settled (ht.heights_lt hlt) (ht.next_succ_lt hlt hbound) he
  have hle := hs.next_le
  exact ⟨w', ⟨hrep, hs.settled ht.settled, hs.heights_le ht.heights hlt.le,
    show (w'.next : Int) ≤ blockHeight by omega, hbound,
    by dsimp only; rw [hparams]; exact ht.params_valid⟩, hs⟩

/--
**一つの出来事は、store が窓を表すことを保ち、窓を `WindowStep` で進める。** end block 以外の
出来事は窓を変えない。
-/
theorem step_tracks (ht : Tracks keccak σ w) {e : Event} (hs : step keccak authority σ e = some σ') :
    ∃ w', Tracks keccak σ' w' ∧
      WindowStep keccak σ.store.params.NumBatchesToKeep.toNat σ'.height w w' := by
  cases e with
  | setDataResult result =>
    cases hs
    exact ⟨w, ht.withStore (ht.represents.SetDataResultForBatching result) ht.params_valid,
      .noUpdate w⟩
  | storeSignatures batchHeight sigs =>
    cases hs
    exact ⟨w, ht.withStore (ht.represents.storeBatchSignatures batchHeight sigs)
      (by rw [storeBatchSignatures_params]; exact ht.params_valid), .noUpdate w⟩
  | updateParams reqAuthority params =>
    simp only [step] at hs
    split at hs
    · next s' hu =>
      cases hs
      obtain ⟨rfl, hv⟩ := UpdateParams_eq_ok authority hu
      exact ⟨w, ht.withStore (ht.represents.withParams params) hv, .noUpdate w⟩
    · cases hs
      exact ⟨w, ht, .noUpdate w⟩
  | endBlock blockHeight ext =>
    simp only [step] at hs
    split at hs
    · next hcond =>
      split at hs
      · next s' he =>
        cases hs
        exact ht.endBlock hcond.1 hcond.2 he
      · cases hs
    · cases hs

/-- **genesis から届く状態の store は窓を表す。** 走りの長さについての帰納法である。 -/
theorem reachable_tracks (hr : Reachable keccak authority σ) : ∃ w, Tracks keccak σ w := by
  induction hr with
  | init h => exact ⟨_, tracks_init h⟩
  | next e _ hs ih =>
    obtain ⟨w, ht⟩ := ih
    obtain ⟨w', ht', -⟩ := step_tracks ht hs
    exact ⟨w', ht'⟩

end Run

/-! ## store で読む不変条件 -/

/--
batching の store の不変条件を、store の読み出しで言ったもの。

* 番号は `firstBatchNumber` から `currentBatchNumber - 1` まで続き、番号で読める batch は
  ちょうどそれらで、自分の番号を持ち、index はその番号を batch の block height に写す
* 主の表は batch をちょうど自分の block height に置き、block height は番号とともに増える
* data result の木はちょうど窓の番号にあり、validator の木と署名は窓の番号にしか無い
* `GetLatestBatch` は最後の番号の batch を返し、隣り合う batch は根で繋がる
-/
structure BatchStoreInvariant (s : Store) : Prop where
  first_le_current : s.firstBatchNumber ≤ s.currentBatchNumber
  stored : ∀ n, (∃ b, s.GetBatchByBatchNumber n = .ok b) ↔
    s.firstBatchNumber ≤ n ∧ n < s.currentBatchNumber
  numbered : ∀ n b, s.GetBatchByBatchNumber n = .ok b →
    b.BatchNumber = n ∧ s.batchIndex.get? n = some b.BlockHeight
  keyed : ∀ height b, s.batches.get? height = some b ↔
    s.GetBatchByBatchNumber b.BatchNumber = .ok b ∧ b.BlockHeight = height
  increasing : ∀ m n a b, s.GetBatchByBatchNumber m = .ok a → s.GetBatchByBatchNumber n = .ok b →
    m < n → a.BlockHeight < b.BlockHeight
  dataResultTrees : ∀ n, (s.dataResultTreeEntries.get? n).isSome ↔
    s.firstBatchNumber ≤ n ∧ n < s.currentBatchNumber
  validatorTrees : ∀ n a, (s.validatorTreeEntries.get? (n, a)).isSome →
    s.firstBatchNumber ≤ n ∧ n < s.currentBatchNumber
  signatures : ∀ n a, (s.batchSignatures.get? (n, a)).isSome →
    s.firstBatchNumber ≤ n ∧ n < s.currentBatchNumber
  latest : ∀ b, s.GetLatestBatch = .ok b ↔
    b.BatchNumber + 1 = s.currentBatchNumber ∧ s.GetBatchByBatchNumber b.BatchNumber = .ok b
  chained : ∀ n p b, s.GetBatchByBatchNumber n = .ok p → s.GetBatchByBatchNumber (n + 1) = .ok b →
    Batch.Chained keccak p b

section StoreInvariant

variable {keccak} {s : Store} {w : Window Batch}

theorem Represents.GetBatchByBatchNumber_eq_ok_iff (h : Represents keccak s w) {n : Nat} {b : Batch} :
    s.GetBatchByBatchNumber n = .ok b ↔ w.get? n = some b :=
  ⟨h.get?_of_GetBatchByBatchNumber, h.GetBatchByBatchNumber_of_get?⟩

theorem Represents.isSome_get?_iff (h : Represents keccak s w) (n : Nat) :
    (w.get? n).isSome ↔ s.firstBatchNumber ≤ n ∧ n < s.currentBatchNumber := by
  rw [h.first, h.current]
  exact Window.isSome_get?_iff

/-- `GetLatestBatch` が返すのは、最後の番号の batch である。 -/
theorem Represents.GetLatestBatch_eq_ok_iff (h : Represents keccak s w) (hne : w.Settled) (b : Batch) :
    s.GetLatestBatch = .ok b ↔
      b.BatchNumber + 1 = s.currentBatchNumber ∧ s.GetBatchByBatchNumber b.BatchNumber = .ok b := by
  rw [h.GetLatestBatch_eq hne, h.GetBatchByBatchNumber_eq_ok_iff, h.current]
  -- 窓の最後は番号 `next - 1` の要素なので、そこに `b` があることと同じである
  have hlast : ∀ p, b.BatchNumber + 1 = w.next → w.get? b.BatchNumber = some p → w.last = some p := by
    intro p hn hp
    unfold Window.last
    rw [← hn, Nat.add_sub_cancel]
    exact hp
  cases hl : w.last with
  | none =>
    constructor
    · rintro ⟨⟩
    · rintro ⟨hn, hb⟩
      rw [hlast b hn hb] at hl
      cases hl
  | some p =>
    constructor
    · intro he
      cases he
      have hnum : b.BatchNumber = w.next - 1 := h.numbered _ b hl
      have hpos : w.next - 1 < w.next := (Window.isSome_get?_iff.mp (by rw [Window.last] at hl; rw [hl]; rfl)).2
      refine ⟨by omega, ?_⟩
      rw [hnum]
      exact hl
    · rintro ⟨hn, hb⟩
      rw [hlast b hn hb] at hl
      cases hl
      rfl

/-- **窓を表す store は `BatchStoreInvariant` を満たす。** -/
theorem Represents.storeInvariant (h : Represents keccak s w) (hne : w.Settled) :
    BatchStoreInvariant keccak s where
  first_le_current := by
    rw [h.first, h.current]
    exact w.first_le_next
  stored := by
    intro n
    rw [← h.isSome_get?_iff n, Option.isSome_iff_exists]
    simp only [h.GetBatchByBatchNumber_eq_ok_iff]
  numbered := by
    intro n b hb
    rw [h.GetBatchByBatchNumber_eq_ok_iff] at hb
    exact ⟨h.numbered n b hb, by rw [h.index, hb]; rfl⟩
  keyed := by
    intro height b
    rw [h.batches, h.GetBatchByBatchNumber_eq_ok_iff]
  increasing := by
    intro m n a b ha hb
    rw [h.GetBatchByBatchNumber_eq_ok_iff] at ha hb
    exact h.increasing m n a b ha hb
  dataResultTrees := by
    intro n
    rw [h.dataResultTrees n]
    exact h.isSome_get?_iff n
  validatorTrees := fun n a ha => (h.isSome_get?_iff n).mp (h.validatorTrees n a ha)
  signatures := fun n a ha => (h.isSome_get?_iff n).mp (h.signatures n a ha)
  latest := h.GetLatestBatch_eq_ok_iff hne
  chained := by
    intro n p b hp hb
    rw [h.GetBatchByBatchNumber_eq_ok_iff] at hp hb
    exact h.chained n p b hp hb

end StoreInvariant

section Claim

variable {keccak authority} {σ : Sys}

/--
**batch の store の不変条件。** genesis から届くどの状態も `BatchStoreInvariant` を満たし、
そこからの一つの出来事の後も、先頭以降の番号のうち新しい次の番号から数えて
`NumBatchesToKeep` 個の中にあるものは、番号で読める。
-/
theorem batch_store_invariant (hr : Reachable keccak authority σ) :
    BatchStoreInvariant keccak σ.store ∧
      ∀ e σ', step keccak authority σ e = some σ' →
        ∀ n, σ.store.firstBatchNumber ≤ n → n < σ'.store.currentBatchNumber →
          σ'.store.currentBatchNumber ≤ n + σ.store.params.NumBatchesToKeep.toNat →
            ∃ b, σ'.store.GetBatchByBatchNumber n = .ok b := by
  obtain ⟨w, ht⟩ := reachable_tracks hr
  refine ⟨ht.represents.storeInvariant ht.settled, ?_⟩
  intro e σ' hs n hfirst hlt hkeep
  obtain ⟨w', ht', hws⟩ := step_tracks ht hs
  rw [ht.represents.first] at hfirst
  rw [ht'.represents.current] at hlt hkeep
  obtain ⟨b, hb⟩ := Option.isSome_iff_exists.mp (hws.keeps_latest hfirst hlt hkeep)
  exact ⟨b, ht'.represents.GetBatchByBatchNumber_of_get? hb⟩

/--
`prunedState`（番号 1 から 4 の batch）に data result を一つ渡し、height 6 の end block で
番号 5 の batch を作ると番号 1 が刈り込まれ、残す 4 個の番号 2 から 5 はすべて読める。
-/
theorem batch_store_invariant_pruned :
    ∃ σ₁ σ₂, step id "" prunedState (.setDataResult (sampleResult 6)) = some σ₁ ∧
      step id "" σ₁ (.endBlock 6 activeExternal) = some σ₂ ∧
      σ₁.store.firstBatchNumber = 1 ∧ σ₂.store.firstBatchNumber = 2 ∧
      σ₂.store.currentBatchNumber = 6 ∧ BatchStoreInvariant id σ₁.store ∧
      ∀ n, 2 ≤ n → n < 6 → ∃ b, σ₂.store.GetBatchByBatchNumber n = .ok b := by
  obtain ⟨σ₁, h₁⟩ : ∃ σ₁, step id "" prunedState (.setDataResult (sampleResult 6)) = some σ₁ :=
    ⟨_, rfl⟩
  -- 二つ目の出来事の結果は、一つ目の状態に名前を付ける前に kernel で計算しておく
  have hrun : (step id "" prunedState (.setDataResult (sampleResult 6))).bind
      (fun σ => (step id "" σ (.endBlock 6 activeExternal)).map fun σ' =>
        (σ.store.firstBatchNumber, σ.store.params.NumBatchesToKeep.toNat,
          σ'.store.firstBatchNumber, σ'.store.currentBatchNumber)) = some (1, 4, 2, 6) := by
    decide +kernel
  rw [h₁, Option.bind_some] at hrun
  obtain ⟨σ₂, h₂, hshape⟩ := Option.map_eq_some_iff.mp hrun
  simp only [Prod.mk.injEq] at hshape
  obtain ⟨hfirst₁, hkeep, hfirst₂, hcurrent₂⟩ := hshape
  have hr : Reachable id "" σ₁ := ((reachable_genesis id "").run prunedRun_eq).next _ h₁
  obtain ⟨hinv, hnext⟩ := batch_store_invariant hr
  refine ⟨σ₁, σ₂, h₁, h₂, hfirst₁, hfirst₂, hcurrent₂, hinv, fun n hlo hhi => ?_⟩
  exact hnext _ σ₂ h₂ n (by omega) (by omega) (by omega)

end Claim

end SedaChain.Batching
