import SedaChain.Tally.Filter

/-!
# 基本合意の類（`ExecuteFilter` の最初の loop）

`ExecuteFilter` は reveal を `fmt.Sprintf("%v%v", success, reveal.ProxyPubKeys)` という文字列
（`Reveal.tuple`）で類に分けて数え、最初に最大の数に達した reveal の proxy の公開鍵を返す。

* 数え上げの loop は、各類の数、最大の数、最初に最大に達した reveal を正しく覚える
  （`Counted`、一歩の `Counted.add`、全体の `counted_ofReveals`）
* 二つの reveal が同じ類に入るのは、成功したかどうかと公開鍵の列の **`%v` の表記** が一致する
  ときである（`Reveal.tuple_eq_iff`）。公開鍵が空でなく空白を含まなければ、公開鍵の列そのものが
  一致するときである（`Reveal.tuple_eq_iff_sameClass`）
* **`ExecuteFilter_merges_joined_keys`** — 空白を含む公開鍵では、違う列が一つの類に数えられ、
  基本合意が成り立ってしまう。Go の注釈（`filter_exec.go:35`）は類を（成功、公開鍵の列）の組と言うが、
  数えるのは `%v` の表記である
-/

namespace SedaChain.Tally

open Infra Infra.Go

/-! ## 類と数 -/

/-- reveal の類の文字列（`ExecuteFilter` の `tuple`）。 -/
def Reveal.tuple (r : Reveal) : String :=
  basicConsensusTuple (r.ExitCode = 0) r.ProxyPubKeys

/-- 列 `p` の中で類が `t` である reveal の数。 -/
def tupleCount (p : List Reveal) (t : String) : Nat :=
  p.countP fun r => r.tuple = t

/-- `ExecuteFilter` の最初の loop が作る数え上げ。 -/
def BasicConsensus.ofReveals (reveals : List Reveal) : BasicConsensus :=
  reveals.foldl BasicConsensus.add BasicConsensus.empty

/--
`keys` は、列 `p` の中で自分の類の数が最初に `m` に達した reveal の公開鍵である。
それより前の reveal は、そこまでの自分の類の数が `m` に届いていない。
-/
def FirstToReach (p : List Reveal) (m : Nat) (keys : List String) : Prop :=
  ∃ pre r post, p = pre ++ r :: post ∧ keys = r.ProxyPubKeys ∧ tupleCount (pre ++ [r]) r.tuple = m ∧
    ∀ pre' r' post', pre = pre' ++ r' :: post' → tupleCount (pre' ++ [r']) r'.tuple < m

/--
数え上げ `c` が列 `p` を数え終えていること。表は各類の数を持ち、`maxFreq` はどの類の数も
下回らず、覚えている公開鍵は最初に `maxFreq` に達した reveal のものである。
-/
structure Counted (p : List Reveal) (c : BasicConsensus) : Prop where
  freq : ∀ t, (c.freq.get? t).getD 0 = tupleCount p t
  le_maxFreq : ∀ t, tupleCount p t ≤ c.maxFreq
  leader : (p = [] ∧ c.maxFreq = 0 ∧ c.ProxyPubKeys = []) ∨ FirstToReach p c.maxFreq c.ProxyPubKeys

@[simp] theorem tupleCount_nil (t : String) : tupleCount [] t = 0 := rfl

theorem tupleCount_snoc (p : List Reveal) (r : Reveal) (t : String) :
    tupleCount (p ++ [r]) t = tupleCount p t + if r.tuple = t then 1 else 0 := by
  simp [tupleCount, List.countP_append]

theorem tupleCount_le_append (p q : List Reveal) (t : String) :
    tupleCount p t ≤ tupleCount (p ++ q) t := by
  simp [tupleCount, List.countP_append]

/-- 前の部分 `pre ++ [r]` の数は、`r` の後を足した列の数を超えない。 -/
theorem tupleCount_prefix_le (pre post : List Reveal) (r : Reveal) (t : String) :
    tupleCount (pre ++ [r]) t ≤ tupleCount (pre ++ r :: post) t := by
  have := tupleCount_le_append (pre ++ [r]) post t
  rwa [List.append_assoc, List.singleton_append] at this

/-! ## 一歩と全体 -/

theorem counted_empty : Counted [] BasicConsensus.empty where
  freq t := by simp [BasicConsensus.empty]
  le_maxFreq t := by simp [BasicConsensus.empty]
  leader := .inl ⟨rfl, rfl, rfl⟩

/-- 前に最大に達した reveal は、後ろに reveal を足しても最初に達したままである。 -/
theorem FirstToReach.snoc {p : List Reveal} {m : Nat} {keys : List String}
    (h : FirstToReach p m keys) (r : Reveal) : FirstToReach (p ++ [r]) m keys := by
  obtain ⟨pre, r₀, post, rfl, hkeys, hreach, hbefore⟩ := h
  exact ⟨pre, r₀, post ++ [r], by simp, hkeys, hreach, hbefore⟩

/--
**loop の一歩は数え上げの不変条件を保つ。** `r` の類の数が一つ増え、それが今の最大を超えれば
`r` が新しく最初に達した reveal になる。
-/
theorem Counted.add {p : List Reveal} {c : BasicConsensus} (hc : Counted p c) (r : Reveal) :
    Counted (p ++ [r]) (c.add r) := by
  -- 表の中の `r` の類の数は、数え終えた列での数に一つ足したもの
  have hn : ((c.freq.incr r.tuple).get? r.tuple).getD 0 = tupleCount (p ++ [r]) r.tuple := by
    simp [tupleCount_snoc, ← hc.freq r.tuple]
  have hfreq : ∀ t, ((c.freq.incr r.tuple).get? t).getD 0 = tupleCount (p ++ [r]) t := by
    intro t
    by_cases ht : t = r.tuple
    · subst ht
      exact hn
    · simp [KeyMap.get?_incr, ht, tupleCount_snoc, Ne.symm ht, hc.freq t]
  have hother : ∀ t, t ≠ r.tuple → tupleCount (p ++ [r]) t = tupleCount p t := by
    intro t ht
    simp [tupleCount_snoc, Ne.symm ht]
  unfold BasicConsensus.add
  dsimp only
  rw [show basicConsensusTuple (r.ExitCode = 0) r.ProxyPubKeys = r.tuple from rfl, hn]
  split
  · -- 新しい最大：`r` が最初に達した reveal になる
    next hgt =>
    refine ⟨hfreq, ?_, .inr ⟨p, r, [], rfl, rfl, rfl, ?_⟩⟩
    · intro t
      by_cases ht : t = r.tuple
      · subst ht
        exact le_refl _
      · rw [hother t ht]
        exact (hc.le_maxFreq t).trans (le_of_lt hgt)
    · intro pre' r' post' hp
      subst hp
      calc tupleCount (pre' ++ [r']) r'.tuple
          ≤ tupleCount (pre' ++ r' :: post') r'.tuple := tupleCount_prefix_le _ _ _ _
        _ ≤ c.maxFreq := hc.le_maxFreq _
        _ < _ := hgt
  · -- 最大は変わらない：前に最初に達した reveal のまま
    next hle =>
    refine ⟨hfreq, ?_, ?_⟩
    · intro t
      by_cases ht : t = r.tuple
      · subst ht
        exact not_lt.mp hle
      · rw [hother t ht]
        exact hc.le_maxFreq t
    · rcases hc.leader with ⟨rfl, hzero, -⟩ | hfirst
      · -- 空の列の後では `r` の数は 1 で、最大 0 を超えるはずである
        exfalso
        apply hle
        simp [hzero, tupleCount]
      · exact .inr (hfirst.snoc r)

/-- **`ExecuteFilter` の最初の loop は、reveal の列を数え終えた数え上げを作る。** -/
theorem counted_ofReveals (reveals : List Reveal) :
    Counted reveals (BasicConsensus.ofReveals reveals) := by
  -- 後ろに一つずつ足す帰納法。`foldl` は最後の一歩を外に出せる
  induction reveals using List.reverseRecOn with
  | nil => exact counted_empty
  | append_singleton p r ih =>
    rw [BasicConsensus.ofReveals, List.foldl_append, List.foldl_cons, List.foldl_nil]
    exact ih.add r

/-- 最初に最大に達した reveal の類は、最大の類である。 -/
theorem Counted.leader_largest {p : List Reveal} {c : BasicConsensus} (hc : Counted p c)
    (hp : p ≠ []) : ∃ r ∈ p, c.ProxyPubKeys = r.ProxyPubKeys ∧ tupleCount p r.tuple = c.maxFreq := by
  rcases hc.leader with ⟨rfl, -, -⟩ | ⟨pre, r, post, rfl, hkeys, hreach, -⟩
  · exact absurd rfl hp
  · refine ⟨r, by simp, hkeys, le_antisymm (hc.le_maxFreq _) ?_⟩
    calc c.maxFreq = tupleCount (pre ++ [r]) r.tuple := hreach.symm
      _ ≤ tupleCount (pre ++ r :: post) r.tuple := tupleCount_prefix_le _ _ _ _

/-- 最大の数は reveal の数を超えない。 -/
theorem Counted.maxFreq_le_length {p : List Reveal} {c : BasicConsensus} (hc : Counted p c) :
    c.maxFreq ≤ p.length := by
  rcases hc.leader with ⟨-, hzero, -⟩ | ⟨pre, r, post, rfl, -, hreach, -⟩
  · omega
  · calc c.maxFreq = tupleCount (pre ++ [r]) r.tuple := hreach.symm
      _ ≤ tupleCount (pre ++ r :: post) r.tuple := tupleCount_prefix_le _ _ _ _
      _ ≤ (pre ++ r :: post).length := List.countP_le_length

/-! ## 類の意味 -/

/-- 主張の言う類：成功したかどうかと、proxy の公開鍵の列が一致する。 -/
def SameClass (r₁ r₂ : Reveal) : Prop :=
  (r₁.ExitCode = 0 ↔ r₂.ExitCode = 0) ∧ r₁.ProxyPubKeys = r₂.ProxyPubKeys

/-- 類の文字列が等しいのは、真偽値と公開鍵の列の表記が等しいときである。 -/
theorem basicConsensusTuple_eq_iff (s s' : Bool) (k k' : List String) :
    basicConsensusTuple s k = basicConsensusTuple s' k' ↔ s = s' ∧ fmtStrings k = fmtStrings k' := by
  unfold basicConsensusTuple
  constructor
  · intro h
    have h' := congrArg String.toList h
    have hf : (toString false).toList = ['f', 'a', 'l', 's', 'e'] := rfl
    have ht : (toString true).toList = ['t', 'r', 'u', 'e'] := rfl
    rw [String.toList_append, String.toList_append] at h'
    -- 同じ真偽値なら前半が消え、違えば最初の文字が違う
    cases s <;> cases s'
    · exact ⟨rfl, String.toList_inj.mp (List.append_cancel_left h')⟩
    · rw [hf, ht] at h'
      simp at h'
    · rw [hf, ht] at h'
      simp at h'
    · exact ⟨rfl, String.toList_inj.mp (List.append_cancel_left h')⟩
  · rintro ⟨rfl, h⟩
    rw [h]

/-- 二つの reveal が同じ類に入るのは、成功の有無と公開鍵の列の `%v` の表記が一致するときである。 -/
theorem Reveal.tuple_eq_iff (r₁ r₂ : Reveal) :
    r₁.tuple = r₂.tuple ↔
      (r₁.ExitCode = 0 ↔ r₂.ExitCode = 0) ∧ fmtStrings r₁.ProxyPubKeys = fmtStrings r₂.ProxyPubKeys := by
  rw [Reveal.tuple, Reveal.tuple, basicConsensusTuple_eq_iff, decide_eq_decide]

/-- 公開鍵の文字列が空でなく空白を含まないこと。 -/
def Reveal.PlainKeys (r : Reveal) : Prop :=
  ∀ key ∈ r.ProxyPubKeys, key ≠ "" ∧ ' ' ∉ key.toList

/-- 公開鍵が空でなく空白を含まなければ、同じ類に入るのは主張の言う類が一致するときである。 -/
theorem Reveal.tuple_eq_iff_sameClass {r₁ r₂ : Reveal} (h₁ : r₁.PlainKeys) (h₂ : r₂.PlainKeys) :
    r₁.tuple = r₂.tuple ↔ SameClass r₁ r₂ := by
  rw [Reveal.tuple_eq_iff, SameClass]
  constructor
  · rintro ⟨hs, hk⟩
    exact ⟨hs, fmtStrings_inj h₁ h₂ hk⟩
  · rintro ⟨hs, hk⟩
    exact ⟨hs, by rw [hk]⟩

/-! ## `ExecuteFilter` の返すもの -/

/-- `ExecuteFilter` の返す公開鍵は、どの場合でも最初の loop が覚えたものである。 -/
theorem ExecuteFilter_ProxyPubKeys (k : Keeper) (reveals : List Reveal) (filterInput : String)
    (rf : UInt16) (params : Params) (g : GasMeter) :
    (ExecuteFilter k reveals filterInput rf params g).1.1.ProxyPubKeys =
      (BasicConsensus.ofReveals reveals).ProxyPubKeys := by
  unfold ExecuteFilter
  dsimp only
  split
  · rfl
  · split
    · rfl
    · split
      · rfl
      · split <;> rfl

/-- 基本合意が無いと言うのは、最大の類の数の 3 倍が replication factor の 2 倍に届かないときに限る。 -/
theorem ExecuteFilter_noBasicConsensus_iff (k : Keeper) (reveals : List Reveal)
    (filterInput : String) (rf : UInt16) (params : Params) (g : GasMeter) :
    (ExecuteFilter k reveals filterInput rf params g).1.2 = some .noBasicConsensus ↔
      (BasicConsensus.ofReveals reveals).maxFreq * 3 < rf.toNat * 2 := by
  unfold ExecuteFilter
  dsimp only
  split
  · next h => exact ⟨fun _ => h, fun _ => rfl⟩
  · next h =>
    -- 後の三つの判定は、どれも別の誤りか誤り無しを返す
    refine ⟨fun hne => absurd ?_ h, fun hlt => absurd hlt h⟩
    revert hne
    split
    · simp
    · split
      · simp
      · split <;> simp

/-- 成功した reveal で、公開鍵の列だけを与えたもの。 -/
def keyReveal (keys : List String) : Reveal :=
  { RequestID := "", RequestBlockHeight := 0, ExitCode := 0, GasUsed := 0, Reveal := "",
    ProxyPubKeys := keys, Executor := "" }

/-! ## `%v` の表記が合わせてしまう列 -/

/-- 公開鍵の列を空白でつないだ一つの公開鍵は、`%v` ではもとの列と同じ表記になる。 -/
theorem fmtStrings_joined (ks : List String) : fmtStrings [" ".intercalate ks] = fmtStrings ks := by
  simp [fmtStrings]

/-- 長さが 1 でない列は、それをつないだ一つの公開鍵だけの列とは違う。 -/
theorem joined_ne {ks : List String} (hks : ks.length ≠ 1) : [" ".intercalate ks] ≠ ks := by
  intro h
  have hlen := congrArg List.length h
  simp only [List.length_singleton] at hlen
  exact hks hlen.symm

/-- 同じ類の二つの reveal を数えると、最大の数は 2 である。 -/
theorem maxFreq_pair {r₁ r₂ : Reveal} (h : r₁.tuple = r₂.tuple) :
    (BasicConsensus.ofReveals [r₁, r₂]).maxFreq = 2 := by
  have hc := counted_ofReveals [r₁, r₂]
  have hcount : tupleCount [r₁, r₂] r₁.tuple = 2 := by simp [tupleCount, h]
  have hle := hc.le_maxFreq r₁.tuple
  have hlen := hc.maxFreq_le_length
  simp only [List.length_cons, List.length_nil] at hlen
  omega

/--
**`%v` の表記が同じ公開鍵の列は、一つの類に数えられる。** 長さが 1 でない公開鍵の列 `ks` と、それを
空白でつないだ一つの公開鍵の列は違う列で、主張の言う類は違うが、`ExecuteFilter` は
`fmt.Sprintf("%v%v", ...)` の表記で数えるので、二つの reveal を数 2 の一つの類に入れる。replication
factor 2 では、主張の類では最大の数 1 の 3 倍が 4 に届かず基本合意が無いはずだが、`ExecuteFilter` は
基本合意ありとして先へ進む。どの keeper、filter 入力、parameter、gas meter でも同じである。
-/
theorem ExecuteFilter_merges_joined_keys (k : Keeper) (filterInput : String) (params : Params)
    (g : GasMeter) {ks : List String} (hks : ks.length ≠ 1) :
    ¬SameClass (keyReveal [" ".intercalate ks]) (keyReveal ks) ∧
      (keyReveal [" ".intercalate ks]).tuple = (keyReveal ks).tuple ∧
      (BasicConsensus.ofReveals [keyReveal [" ".intercalate ks], keyReveal ks]).maxFreq = 2 ∧
      (ExecuteFilter k [keyReveal [" ".intercalate ks], keyReveal ks] filterInput 2 params g).1.2 ≠
        some .noBasicConsensus := by
  have htuple : (keyReveal [" ".intercalate ks]).tuple = (keyReveal ks).tuple := by
    rw [Reveal.tuple_eq_iff]
    exact ⟨Iff.rfl, fmtStrings_joined ks⟩
  have hmax := maxFreq_pair htuple
  refine ⟨fun hsame => joined_ne hks hsame.2, htuple, hmax, ?_⟩
  rw [ne_eq, ExecuteFilter_noBasicConsensus_iff, hmax]
  decide

/--
`["a b"]` と `["a", "b"]` の二つの成功した reveal は、replication factor 2 で一つの類に数えられ、
基本合意が成り立つ（十分な tally gas の gas meter で）。
-/
theorem ExecuteFilter_merges_joined_keys_ab :
    ["a", "b"].length ≠ 1 ∧
      ¬SameClass (keyReveal ["a b"]) (keyReveal ["a", "b"]) ∧
      (keyReveal ["a b"]).tuple = (keyReveal ["a", "b"]).tuple ∧
      (BasicConsensus.ofReveals [keyReveal ["a b"], keyReveal ["a", "b"]]).maxFreq = 2 ∧
      (ExecuteFilter Keeper.offline [keyReveal ["a b"], keyReveal ["a", "b"]] "AA==" 2 DefaultParams
        (NewGasMeter 1000000 1000000 1000000 1 0)).1.2 ≠ some .noBasicConsensus := by
  have hjoin : " ".intercalate ["a", "b"] = "a b" := rfl
  have h := ExecuteFilter_merges_joined_keys Keeper.offline "AA==" DefaultParams
    (NewGasMeter 1000000 1000000 1000000 1 0) (by decide : ["a", "b"].length ≠ 1)
  rw [hjoin] at h
  exact ⟨by decide, h⟩

end SedaChain.Tally
