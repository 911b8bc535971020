import SedaChain.Batching.Export
import SedaChain.Abci.Types

/-!
# 署名の集まった最新の batch

`GetLatestSignedBatch` は、最後の番号から下へたどり、block height が問い合わせの height から
`2` 引いたもの以下の、つまり署名を集め終えた最初の batch を返す。下る途中で刈り込んだ番号に
踏み込めば、番号での読み出しが not found で失敗する。

届く状態では窓は番号 0 から始まるか 3 個以上の batch を持ち（`NumBatchesToKeep > 3`）、batch の
block height は番号とともに狭義に増えて最後の end block を超えない。だから最後の end block
以上の height の問い合わせでは、署名の集まっていない batch は最後の二つまでで、探索は
先頭の前まで下りない。

* `Represents.getLatestSignedBatch_spec` — 番号 `n` から下る探索は、`n` 以下で署名の集まった
  最後の batch を返すか、それが無ければ、先頭が 0 なら `ErrNoSignedBatch`、そうでなければ
  not found で失敗する
* `reachable_deep` — 届く状態の窓は 0 から始まるか 3 個以上の batch を持つ
* `Represents.GetLatestSignedBatch_cases` — 深い窓の問い合わせの結果は四通りに限られる
* **`GetLatestSignedBatch_latest`** — 届く状態で、最後の end block 以上で `int64` に収まる
  height の問い合わせは、署名の集まった番号最大の batch を返し、誤りは
  `ErrBatchingHasNotStarted` と `ErrNoSignedBatch` だけで、それぞれちょうど言われた場合に返る
* `GetLatestSignedBatch_pruned_notFound` — 最後の end block より低い height の問い合わせは、
  刈り込んだ番号に踏み込んで not found で失敗しうる
-/

namespace SedaChain.Batching

open Infra Infra.Go

/-! ## 問い合わせ -/

/-- `ErrNoSignedBatch`。 -/
def errNoSignedBatch : Fault := .error "there is no signed batch yet"

/-- block height `blockHeight` で署名を集める batch の block height（`ctx.BlockHeight()+abci.BlockOffsetCollectPhase`）。 -/
def collectHeight (blockHeight : Int) : Int := addI64 blockHeight Abci.BlockOffsetCollectPhase

/--
`getLatestSignedBatch`。番号 `batchNumber` の batch の署名がまだ集まっていなければ、一つ前の
番号へ下る。番号 0 で尽きれば `ErrNoSignedBatch`。
-/
def Store.getLatestSignedBatch (s : Store) (blockHeight : Int) (batchNumber : Nat) :
    Except Fault Batch := do
  let batch ← s.GetBatchByBatchNumber batchNumber
  if batch.BlockHeight > collectHeight blockHeight then
    match batchNumber with
    | 0 => throw errNoSignedBatch
    | n + 1 => s.getLatestSignedBatch blockHeight n
  else pure batch

/--
`GetLatestSignedBatch`。block height が 2 以下なら署名はまだ無く、batch が一つも無ければ
`ErrBatchingHasNotStarted`、そうでなければ最後の番号から下る。
-/
def Store.GetLatestSignedBatch (s : Store) (blockHeight : Int) : Except Fault Batch :=
  if blockHeight ≤ -Abci.BlockOffsetCollectPhase then .error errNoSignedBatch
  else if s.currentBatchNumber = 0 then .error errBatchingHasNotStarted
  else s.getLatestSignedBatch blockHeight (s.currentBatchNumber - 1)

theorem collectHeight_eq {blockHeight : Int} (h₁ : 2 < blockHeight) (h₂ : blockHeight < 2 ^ 63) :
    collectHeight blockHeight = blockHeight - 2 := by
  unfold collectHeight Abci.BlockOffsetCollectPhase
  rw [addI64_of_mem (by omega) (by omega)]
  omega

/-! ## 下る探索 -/

/--
`b` は、番号 `n` 以下の窓の batch のうち、block height が `bound` 以下で番号が最大のものである。
-/
structure IsLatestBelow (w : Window Batch) (bound : Int) (n : Nat) (b : Batch) : Prop where
  le : b.BatchNumber ≤ n
  get : w.get? b.BatchNumber = some b
  signed : b.BlockHeight ≤ bound
  latest : ∀ m a, m ≤ n → w.get? m = some a → a.BlockHeight ≤ bound → m ≤ b.BatchNumber

section Search

variable {keccak : Bytes → Bytes} {s : Store} {w : Window Batch} {blockHeight : Int}

/-- 窓に無い番号を読むと、その番号の not found で失敗する。 -/
theorem Represents.GetBatchByBatchNumber_of_get?_eq_none (h : Represents keccak s w) {n : Nat}
    (hn : w.get? n = none) : s.GetBatchByBatchNumber n = .error (errNotFoundKey (toString n) "int64") := by
  simp only [Store.GetBatchByBatchNumber, Store.batchIndexGet, h.index n, hn, Option.map_none]
  rfl

/-- 窓に無い番号からは、探索はその番号の not found で失敗する。 -/
theorem Represents.getLatestSignedBatch_of_get?_eq_none (h : Represents keccak s w) {n : Nat}
    (hn : w.get? n = none) :
    s.getLatestSignedBatch blockHeight n = .error (errNotFoundKey (toString n) "int64") := by
  unfold Store.getLatestSignedBatch
  rw [h.GetBatchByBatchNumber_of_get?_eq_none hn]
  rfl

/-- 署名の集まった batch で、探索は止まる。 -/
theorem Represents.getLatestSignedBatch_of_signed (h : Represents keccak s w) {n : Nat} {b : Batch}
    (hb : w.get? n = some b) (hs : b.BlockHeight ≤ collectHeight blockHeight) :
    s.getLatestSignedBatch blockHeight n = .ok b := by
  unfold Store.getLatestSignedBatch
  rw [h.GetBatchByBatchNumber_of_get? hb, ok_bind, if_neg (not_lt.mpr hs)]
  rfl

/-- 署名の集まっていない batch からは、一つ前の番号へ下るか、番号 0 で尽きる。 -/
theorem Represents.getLatestSignedBatch_of_unsigned (h : Represents keccak s w) {n : Nat} {b : Batch}
    (hb : w.get? n = some b) (hs : collectHeight blockHeight < b.BlockHeight) :
    s.getLatestSignedBatch blockHeight n =
      match n with
      | 0 => .error errNoSignedBatch
      | k + 1 => s.getLatestSignedBatch blockHeight k := by
  conv_lhs => unfold Store.getLatestSignedBatch
  rw [h.GetBatchByBatchNumber_of_get? hb, ok_bind, if_pos hs]
  cases n <;> rfl

/--
探索が尽きた時の誤り。先頭が 0 なら `ErrNoSignedBatch`、そうでなければ、踏み込んだ番号 `k`
（窓の先頭の一つ前か、それより前の出発点）の not found。
-/
def exhaustedError (w : Window Batch) (k : Nat) : Fault :=
  if w.first = 0 then errNoSignedBatch else errNotFoundKey (toString k) "int64"

/--
番号 `n` から下る探索の答え：`n` 以下で署名の集まった最後の batch か、`n` 以下のどの batch にも
署名が無く、`exhaustedError` で失敗する。踏み込む番号は `n` と先頭の一つ前の小さい方である。
-/
inductive Descent (w : Window Batch) (bound : Int) (n : Nat) : Except Fault Batch → Prop
  | found {b : Batch} (hb : IsLatestBelow w bound n b) : Descent w bound n (.ok b)
  | exhausted (hall : ∀ m a, m ≤ n → w.get? m = some a → bound < a.BlockHeight) :
      Descent w bound n (.error (exhaustedError w (min n (w.first - 1))))

/-- 一つ上の番号の batch に署名が無ければ、下の番号での答えはそのまま上の番号での答えである。 -/
theorem IsLatestBelow.succ {bound : Int} {n : Nat} {a b : Batch} (hb : IsLatestBelow w bound n b)
    (ha : w.get? (n + 1) = some a) (hs : bound < a.BlockHeight) : IsLatestBelow w bound (n + 1) b where
  le := by have := hb.le; omega
  get := hb.get
  signed := hb.signed
  latest := by
    intro m c hm hc hcs
    rcases Nat.lt_or_eq_of_le hm with hlt | rfl
    · exact hb.latest m c (by omega) hc hcs
    · rw [ha] at hc
      cases hc
      omega

theorem Descent.succ {bound : Int} {n : Nat} {a : Batch} {r : Except Fault Batch}
    (hd : Descent w bound n r) (ha : w.get? (n + 1) = some a) (hs : bound < a.BlockHeight) :
    Descent w bound (n + 1) r := by
  cases hd with
  | found hb => exact .found (hb.succ ha hs)
  | exhausted hall =>
    -- 一つ上の番号に batch があるので、踏み込む番号は先頭の一つ前のままである
    have hfirst : w.first ≤ n + 1 := (Window.isSome_get?_iff.mp (by rw [ha]; rfl)).1
    rw [show min n (w.first - 1) = min (n + 1) (w.first - 1) by omega]
    refine .exhausted fun m c hm hc => ?_
    rcases Nat.lt_or_eq_of_le hm with hlt | rfl
    · exact hall m c (by omega) hc
    · rw [ha] at hc
      cases hc
      exact hs

/-- 窓の先頭より前の番号からの探索は、何も見つけずに、その番号の not found で失敗する。 -/
theorem Represents.descent_of_get?_eq_none (h : Represents keccak s w) {n : Nat} (hn : n < w.next)
    (hb : w.get? n = none) :
    Descent w (collectHeight blockHeight) n (s.getLatestSignedBatch blockHeight n) := by
  have hlt : n < w.first := by
    by_contra hge
    have := Window.isSome_get?_iff.mpr ⟨Nat.le_of_not_lt hge, hn⟩
    rw [hb] at this
    cases this
  have hres : s.getLatestSignedBatch blockHeight n = .error (exhaustedError w (min n (w.first - 1))) := by
    rw [show min n (w.first - 1) = n by omega, exhaustedError, if_neg (by omega),
      h.getLatestSignedBatch_of_get?_eq_none hb]
  rw [hres]
  refine .exhausted fun m a hm ha => ?_
  rw [Window.get?_eq_none_of_lt_first (by omega)] at ha
  cases ha

/-- 署名の集まった batch からの探索は、その batch を返す。 -/
theorem Represents.descent_of_signed (h : Represents keccak s w) {n : Nat} {b : Batch}
    (hb : w.get? n = some b) (hs : b.BlockHeight ≤ collectHeight blockHeight) :
    Descent w (collectHeight blockHeight) n (s.getLatestSignedBatch blockHeight n) := by
  have hnum := h.numbered n b hb
  rw [h.getLatestSignedBatch_of_signed hb hs]
  exact .found ⟨by omega, by rw [hnum]; exact hb, hs, fun m a hm _ _ => by omega⟩

/--
**下る探索。** 窓を表す store で、窓の次の番号より小さい番号 `n` から下る探索の答えは
`Descent` である。番号 `n` についての帰納法で、どの番号でも、窓に無いか、署名が集まって
いるか、署名が無く一つ下へ下るかに分ける。
-/
theorem Represents.getLatestSignedBatch_spec (h : Represents keccak s w) (blockHeight : Int)
    {n : Nat} (hn : n < w.next) :
    Descent w (collectHeight blockHeight) n (s.getLatestSignedBatch blockHeight n) := by
  induction n with
  | zero =>
    cases hb : w.get? 0 with
    | none => exact h.descent_of_get?_eq_none hn hb
    | some b =>
      by_cases hs : b.BlockHeight ≤ collectHeight blockHeight
      · exact h.descent_of_signed hb hs
      · -- 番号 0 で尽きる。そこに batch があるから先頭は 0 である
        have hs' : collectHeight blockHeight < b.BlockHeight := lt_of_not_ge hs
        have hfirst : w.first = 0 := by
          have := Window.isSome_get?_iff.mp (show (w.get? 0).isSome by rw [hb]; rfl)
          omega
        have hres : s.getLatestSignedBatch blockHeight 0 =
            .error (exhaustedError w (min 0 (w.first - 1))) := by
          rw [h.getLatestSignedBatch_of_unsigned hb hs', exhaustedError, if_pos hfirst]
        rw [hres]
        refine .exhausted fun m a hm ha => ?_
        obtain rfl : m = 0 := by omega
        rw [hb] at ha
        cases ha
        exact hs'
  | succ k ih =>
    cases hb : w.get? (k + 1) with
    | none => exact h.descent_of_get?_eq_none hn hb
    | some b =>
      by_cases hs : b.BlockHeight ≤ collectHeight blockHeight
      · exact h.descent_of_signed hb hs
      · -- 一つ前の番号での答えが、そのまま答えになる
        have hs' : collectHeight blockHeight < b.BlockHeight := lt_of_not_ge hs
        rw [h.getLatestSignedBatch_of_unsigned hb hs']
        exact (ih (by omega)).succ hb hs'

end Search

/-! ## 届く状態の窓の深さ -/

section Deep

variable {keccak : Bytes → Bytes} {authority : String} {keep k : Nat} {height : Int}
  {w w' : Window Batch}

/-- end block の一歩は、残す数 `keep` 以下の深さを保つ。 -/
theorem WindowStep.deep (hs : WindowStep keccak keep height w w') (hk : k ≤ keep) (hd : w.Deep k) :
    w'.Deep k := by
  cases hs with
  | noUpdate => exact hd
  | push b m hnum hheight hchain hfirst hnext hkeep =>
    rcases hkeep with rfl | hmk
    · -- 先頭を動かさない刈り込み
      rw [Window.dropTo_of_le (by rw [Window.first_push])]
      exact hd.push b
    · exact Window.Deep.dropTo_of_le (by rw [Window.first_push]; exact hfirst)
        (by rw [Window.next_push]; omega)

/--
**届く状態の窓は番号 0 から始まるか、3 個以上の batch を持つ。** 走りの長さについての帰納法で、
どの状態の param も `NumBatchesToKeep > 3` を求める検査を通ることによる。
-/
theorem reachable_deep {σ : Sys} (hr : Reachable keccak authority σ) :
    ∃ w, Tracks keccak σ w ∧ w.Deep 3 := by
  induction hr with
  | init h => exact ⟨_, tracks_init h, Window.deep_empty 3⟩
  | next e _ hs ih =>
    obtain ⟨w, ht, hd⟩ := ih
    obtain ⟨w', ht', hstep⟩ := step_tracks ht hs
    have hkeep := Params.Validate_eq_ok.mp ht.params_valid
    exact ⟨w', ht', hstep.deep hkeep.le hd⟩

end Deep

/-! ## 問い合わせの答え -/

/-- 番号で読める batch のうち、block height が `bound` 以下で番号が最大のものが `b` であること。 -/
def IsLatestSigned (s : Store) (bound : Int) (b : Batch) : Prop :=
  s.GetBatchByBatchNumber b.BatchNumber = .ok b ∧ b.BlockHeight ≤ bound ∧
    ∀ n a, s.GetBatchByBatchNumber n = .ok a → a.BlockHeight ≤ bound → n ≤ b.BatchNumber

section Query

variable {keccak : Bytes → Bytes} {s : Store} {w : Window Batch} {height bound : Int}

/--
block height が `height` 以下で狭義に増える深い窓で番号 0 が刈り込まれていれば、高さ
`height - 2` 以下の batch がある。窓の先頭の batch がそうである。
-/
theorem Represents.exists_signed (h : Represents keccak s w) (hd : w.Deep 3) (hfirst : w.first ≠ 0)
    (hheights : ∀ n b, w.get? n = some b → b.BlockHeight ≤ height) :
    ∃ m a, w.get? m = some a ∧ a.BlockHeight ≤ height - 2 := by
  rcases hd with h0 | hd
  · exact absurd h0 hfirst
  obtain ⟨a, ha⟩ := Option.isSome_iff_exists.mp
    (Window.isSome_get?_iff.mpr ⟨le_refl _, by omega⟩ : (w.get? w.first).isSome)
  obtain ⟨b, hb⟩ := Option.isSome_iff_exists.mp
    (Window.isSome_get?_iff.mpr ⟨by omega, by omega⟩ : (w.get? (w.next - 1)).isSome)
  -- 先頭から最後まで番号が二つ以上離れ、鍵もその分離れる
  have hgap := h.increasing.add_sub_le ha hb (by omega)
  have hle := hheights _ b hb
  exact ⟨w.first, a, ha, by omega⟩

/-- 窓の言葉での答えと store の言葉での答えは同じである。 -/
theorem Represents.isLatestSigned_iff (h : Represents keccak s w) {b : Batch} :
    IsLatestSigned s bound b ↔ IsLatestBelow w bound (w.next - 1) b := by
  constructor
  · rintro ⟨hget, hs, hlatest⟩
    have hget' := h.GetBatchByBatchNumber_eq_ok_iff.mp hget
    have hlt := (Window.isSome_get?_iff.mp (show (w.get? b.BatchNumber).isSome by rw [hget']; rfl)).2
    exact ⟨by omega, hget', hs, fun m a _ ha has =>
      hlatest m a (h.GetBatchByBatchNumber_eq_ok_iff.mpr ha) has⟩
  · intro hb
    refine ⟨h.GetBatchByBatchNumber_eq_ok_iff.mpr hb.get, hb.signed, fun n a ha has => ?_⟩
    have ha' := h.GetBatchByBatchNumber_eq_ok_iff.mp ha
    have hlt := (Window.isSome_get?_iff.mp (show (w.get? n).isSome by rw [ha']; rfl)).2
    exact hb.latest n a (by omega) ha' has

/-- 番号最大の batch はただ一つである。 -/
theorem IsLatestBelow.unique {n : Nat} {a b : Batch} (ha : IsLatestBelow w bound n a)
    (hb : IsLatestBelow w bound n b) : a = b := by
  have hab := hb.latest _ a ha.le ha.get ha.signed
  have hba := ha.latest _ b hb.le hb.get hb.signed
  have hget := ha.get
  rw [show a.BatchNumber = b.BatchNumber by omega, hb.get] at hget
  exact (Option.some.inj hget).symm

/--
深い窓を表す store への問い合わせの答えは四通りに限られる：height が 2 以下で
`ErrNoSignedBatch`、batch が無く `ErrBatchingHasNotStarted`、署名の集まった番号最大の batch、
そしてどの batch にも署名が無く `ErrNoSignedBatch`。not found は、窓の深さが除く。
-/
theorem Represents.GetLatestSignedBatch_cases (h : Represents keccak s w) (hd : w.Deep 3)
    (hheights : ∀ n b, w.get? n = some b → b.BlockHeight ≤ height) (hlt : height < 2 ^ 63) :
    (height ≤ 2 ∧ s.GetLatestSignedBatch height = .error errNoSignedBatch) ∨
      (2 < height ∧ w.next = 0 ∧ s.GetLatestSignedBatch height = .error errBatchingHasNotStarted) ∨
      (2 < height ∧ ∃ b, IsLatestBelow w (height - 2) (w.next - 1) b ∧
        s.GetLatestSignedBatch height = .ok b) ∨
      (2 < height ∧ w.next ≠ 0 ∧ (∀ m a, w.get? m = some a → height - 2 < a.BlockHeight) ∧
        s.GetLatestSignedBatch height = .error errNoSignedBatch) := by
  unfold Store.GetLatestSignedBatch
  by_cases h2 : height ≤ 2
  · exact Or.inl ⟨h2, if_pos (by unfold Abci.BlockOffsetCollectPhase; omega)⟩
  rw [if_neg (by unfold Abci.BlockOffsetCollectPhase; omega), h.current]
  by_cases h0 : w.next = 0
  · exact Or.inr (Or.inl ⟨by omega, h0, if_pos h0⟩)
  rw [if_neg h0]
  have hspec := h.getLatestSignedBatch_spec height (n := w.next - 1) (by omega)
  rw [collectHeight_eq (by omega) hlt] at hspec
  generalize s.getLatestSignedBatch height (w.next - 1) = r at hspec ⊢
  cases hspec with
  | found hb => exact Or.inr (Or.inr (Or.inl ⟨by omega, _, hb, rfl⟩))
  | exhausted hall =>
    -- 署名の集まった batch が一つも無いなら、番号 0 まで下りている
    have hfirst : w.first = 0 := by
      by_contra hf
      obtain ⟨m, a, ha, has⟩ := h.exists_signed hd hf hheights
      have hlt := (Window.isSome_get?_iff.mp (show (w.get? m).isSome by rw [ha]; rfl)).2
      have := hall m a (by omega) ha
      omega
    rw [exhaustedError, if_pos hfirst]
    refine Or.inr (Or.inr (Or.inr ⟨by omega, h0, fun m a ha => ?_, rfl⟩))
    have hlt := (Window.isSome_get?_iff.mp (show (w.get? m).isSome by rw [ha]; rfl)).2
    exact hall m a (by omega) ha

end Query

/-! ## 届く状態での問い合わせ -/

section Claim

variable {keccak : Bytes → Bytes} {authority : String}

theorem errNoSignedBatch_ne : errNoSignedBatch ≠ errBatchingHasNotStarted := by decide

/--
**署名の集まった最新の batch。** genesis から届く状態で、最後の end block 以上で `int64` に収まる
height `h` の問い合わせは、`h` が 2 より大きければ、block height が `h - 2` 以下の番号で読める
batch のうち番号最大のものを返す。誤りは二つだけで、`ErrBatchingHasNotStarted` は batch が
一つも無いとき、`ErrNoSignedBatch` は `h` が 2 以下か、どの batch も新しすぎるときにちょうど
返る。刈り込んだ番号を読んで not found で失敗することはない。
-/
theorem GetLatestSignedBatch_latest {σ : Sys} (hr : Reachable keccak authority σ) {h : Int}
    (hh : σ.height ≤ h) (hlt : h < 2 ^ 63) :
    (∀ b, σ.store.GetLatestSignedBatch h = .ok b ↔ 2 < h ∧ IsLatestSigned σ.store (h - 2) b) ∧
      (σ.store.GetLatestSignedBatch h = .error errBatchingHasNotStarted ↔
        2 < h ∧ σ.store.currentBatchNumber = 0) ∧
      (σ.store.GetLatestSignedBatch h = .error errNoSignedBatch ↔
        h ≤ 2 ∨ σ.store.currentBatchNumber ≠ 0 ∧
          ∀ n a, σ.store.GetBatchByBatchNumber n = .ok a → h - 2 < a.BlockHeight) ∧
      ∀ e, σ.store.GetLatestSignedBatch h = .error e →
        e = errNoSignedBatch ∨ e = errBatchingHasNotStarted := by
  obtain ⟨w, ht, hd⟩ := reachable_deep hr
  have hrep := ht.represents
  have hheights : ∀ n b, w.get? n = some b → b.BlockHeight ≤ h :=
    fun n b hb => (ht.heights n b hb).trans hh
  -- 番号で読める batch は窓の次の番号より前にある
  have hnext : ∀ {n a}, σ.store.GetBatchByBatchNumber n = .ok a → n < w.next := fun ha =>
    (Window.isSome_get?_iff.mp
      (show (w.get? _).isSome by rw [hrep.GetBatchByBatchNumber_eq_ok_iff.mp ha]; rfl)).2
  rw [hrep.current]
  rcases hrep.GetLatestSignedBatch_cases hd hheights hlt with
    ⟨h2, hres⟩ | ⟨h2, h0, hres⟩ | ⟨h2, b, hb, hres⟩ | ⟨h2, h0, hall, hres⟩ <;> rw [hres]
  · -- height が 2 以下
    refine ⟨fun b => ⟨fun hb => (by cases hb), fun hb => (by omega)⟩, ⟨fun he => ?_, fun hb => ?_⟩,
      ⟨fun _ => Or.inl h2, fun _ => rfl⟩, fun e he => Or.inl (Except.error.inj he).symm⟩
    · exact absurd (Except.error.inj he) errNoSignedBatch_ne
    · omega
  · -- batch が一つも無い
    refine ⟨fun b => ⟨fun hb => (by cases hb), fun hb => ?_⟩, ⟨fun _ => ⟨h2, h0⟩, fun _ => rfl⟩,
      ⟨fun he => ?_, fun hb => ?_⟩, fun e he => Or.inr (Except.error.inj he).symm⟩
    · have := hnext hb.2.1
      omega
    · exact absurd (Except.error.inj he).symm errNoSignedBatch_ne
    · rcases hb with h2' | ⟨h0', _⟩
      · omega
      · exact absurd h0 h0'
  · -- 署名の集まった番号最大の batch がある
    have hb' := hrep.isLatestSigned_iff.mpr hb
    have h0 : w.next ≠ 0 := by
      have := hnext hb'.1
      omega
    refine ⟨fun c => ⟨fun hc => ?_, fun hc => ?_⟩, ⟨fun he => (by cases he), fun hc => ?_⟩,
      ⟨fun he => (by cases he), fun hc => ?_⟩, fun e he => (by cases he)⟩
    · cases hc
      exact ⟨h2, hb'⟩
    · rw [hb.unique (hrep.isLatestSigned_iff.mp hc.2)]
    · exact absurd hc.2 h0
    · rcases hc with h2' | ⟨_, hall⟩
      · omega
      · have := hall _ b hb'.1
        have := hb'.2.1
        omega
  · -- どの batch にも署名が無い
    refine ⟨fun b => ⟨fun hb => (by cases hb), fun hb => ?_⟩, ⟨fun he => ?_, fun hc => ?_⟩,
      ⟨fun _ => ?_, fun _ => rfl⟩, fun e he => Or.inl (Except.error.inj he).symm⟩
    · have := hall _ b (hrep.GetBatchByBatchNumber_eq_ok_iff.mp hb.2.1)
      have := hb.2.2.1
      omega
    · exact absurd (Except.error.inj he) errNoSignedBatch_ne
    · exact absurd hc.2 h0
    · exact Or.inr ⟨h0, fun n a ha => hall n a (hrep.GetBatchByBatchNumber_eq_ok_iff.mp ha)⟩

/-- 五つの batch を作った走りで、最後の end block の height で問い合わせる。 -/
theorem GetLatestSignedBatch_latest_pruned :
    prunedState.height ≤ 5 ∧
      ∀ b, prunedState.store.GetLatestSignedBatch 5 = .ok b ↔
        2 < (5 : Int) ∧ IsLatestSigned prunedState.store (5 - 2) b := by
  have hheight : prunedState.height ≤ 5 := by decide +kernel
  exact ⟨hheight,
    (GetLatestSignedBatch_latest ((reachable_genesis id "").run prunedRun_eq) hheight (by decide)).1⟩

/--
最後の end block より低い height では、署名の集まっていない batch が窓の先頭まで続きうる。
`prunedState` は番号 1 から 4 の batch を height 2 から 5 に持ち、height 3 の問い合わせは
番号 1 から刈り込んだ番号 0 へ下って not found で失敗する。
-/
theorem GetLatestSignedBatch_pruned_notFound :
    BatchStoreInvariant id prunedState.store ∧ 3 < prunedState.store.params.NumBatchesToKeep.toNat ∧
      prunedState.height = 5 ∧
      prunedState.store.GetLatestSignedBatch 3 = .error (errNotFoundKey "0" "int64") := by
  obtain ⟨w, ht⟩ := reachable_tracks ((reachable_genesis id "").run prunedRun_eq)
  have hrun : prunedState.height = 5 ∧
      prunedState.store.GetLatestSignedBatch 3 = .error (errNotFoundKey "0" "int64") := by
    decide +kernel
  exact ⟨ht.represents.storeInvariant ht.settled, Params.Validate_eq_ok.mp ht.params_valid, hrun⟩

end Claim

end SedaChain.Batching
