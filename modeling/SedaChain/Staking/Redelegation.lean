import SedaChain.Staking.Transfer

/-!
# redelegation の責任の分け方

`TransferDelegation` は、移し元に残る share を cover として、移し元の `valAddr` への redelegation の
entry を前から順に、cover の届く分は移し元に残し、残りを移し先に送る。ここでは一つの entry の分け方
を `Split` にまとめ、entry の列、記録、記録の列へと積み上げる。

* `Split` — cover `c` が entry の列を、残す列と送る列に分け、cover `c'` が残る。share と
  `InitialBalance` はどちらも分ける前と後で和が同じで、残る share の和は entry の share の和と
  cover の小さい方である
* `splitEntry_split` — 一つの entry の分け方は `Split` である。cover が負でなければ `Quo` は
  0 で割らない
* `Split.append` — 続けて分けることは、列をつないで一度に分けることである（`Infra.min_add_min_sub`）
* `walk_entryBody` — entry の loop は、送る列を移し先に足し、残す列を返す
* `redEntries_sendAll` — 送る列は移し先の記録の後ろに並ぶ
* `RecordsSplit`、`foldlM_redelegationStep` — 移し元の記録の列を前から順に分けると、`valAddr` への
  どの記録も `Split` のとおりに分かれ、移し元に残る share の和は、それらの記録の share の和と cover の
  小さい方になる。ほかの記録は変わらない
-/

namespace SedaChain.Staking

open Infra Infra.Go LegacyDec

/-! ## 和 -/

/-- entry の列の `SharesDst` の和。 -/
def totalSharesDst (es : List RedelegationEntry) : Int := (es.map fun e => e.SharesDst.i).sum

/-- entry の列の `InitialBalance` の和。 -/
def totalInitialBalance (es : List RedelegationEntry) : Int := (es.map fun e => e.InitialBalance).sum

@[simp] theorem totalSharesDst_nil : totalSharesDst [] = 0 := rfl
@[simp] theorem totalSharesDst_cons (e : RedelegationEntry) (es : List RedelegationEntry) :
    totalSharesDst (e :: es) = e.SharesDst.i + totalSharesDst es := by
  simp [totalSharesDst]
@[simp] theorem totalSharesDst_append (es es' : List RedelegationEntry) :
    totalSharesDst (es ++ es') = totalSharesDst es + totalSharesDst es' := by
  simp [totalSharesDst]
@[simp] theorem totalInitialBalance_nil : totalInitialBalance [] = 0 := rfl
@[simp] theorem totalInitialBalance_cons (e : RedelegationEntry) (es : List RedelegationEntry) :
    totalInitialBalance (e :: es) = e.InitialBalance + totalInitialBalance es := by
  simp [totalInitialBalance]
@[simp] theorem totalInitialBalance_append (es es' : List RedelegationEntry) :
    totalInitialBalance (es ++ es') = totalInitialBalance es + totalInitialBalance es' := by
  simp [totalInitialBalance]

theorem totalSharesDst_nonneg {es : List RedelegationEntry} (h : ∀ e ∈ es, 0 ≤ e.SharesDst.i) :
    0 ≤ totalSharesDst es := by
  induction es with
  | nil => simp
  | cons e es ih =>
    simp only [List.mem_cons, forall_eq_or_imp] at h
    simp only [totalSharesDst_cons]
    have := ih h.2
    omega

/-! ## 分け方 -/

/-- entry の行き先のうち、移し元に残る entry。 -/
def EntryOutcome.kept (e : RedelegationEntry) : EntryOutcome → List RedelegationEntry
  | .leave => [e]
  | .moved _ => []
  | .split kept _ => [kept]

/-- entry の行き先のうち、移し先に送る entry。 -/
def EntryOutcome.sent : EntryOutcome → List RedelegationEntry
  | .leave => []
  | .moved sent => [sent]
  | .split _ sent => [sent]

/--
cover `c` が `entries` を、移し元に残す `kept` と移し先に送る `sent` に分け、cover `c'` が残る。
-/
structure Split (c c' : LegacyDec) (entries kept sent : List RedelegationEntry) : Prop where
  /-- share は分けても和が変わらない。 -/
  shares : totalSharesDst kept + totalSharesDst sent = totalSharesDst entries
  /-- `InitialBalance` も分けても和が変わらない。 -/
  balances : totalInitialBalance kept + totalInitialBalance sent = totalInitialBalance entries
  /-- 残した share の分だけ cover が減る。 -/
  cover : c'.i = c.i - totalSharesDst kept
  /-- cover は負にならない。 -/
  coverNonneg : 0 ≤ c'.i
  /-- 残る share は、entry の share の和と cover の小さい方である。 -/
  keptShares : (∀ e ∈ entries, 0 ≤ e.SharesDst.i) →
    totalSharesDst kept = min (totalSharesDst entries) c.i
  /-- 何も送らなければ、entry はそのまま残る。 -/
  untouched : sent = [] → kept = entries
  /-- 負の `InitialBalance` は生まれない。 -/
  nonneg : (∀ e ∈ entries, 0 ≤ e.InitialBalance) → ∀ x ∈ kept ++ sent, 0 ≤ x.InitialBalance

namespace Split

variable {c c₁ c₂ : LegacyDec} {es es₁ es₂ k₁ k₂ s₁ s₂ : List RedelegationEntry}

theorem nil (hc : 0 ≤ c.i) : Split c c [] [] [] where
  shares := rfl
  balances := rfl
  cover := by simp
  coverNonneg := hc
  keptShares _ := by simp [hc]
  untouched _ := rfl
  nonneg _ := by simp

/-- 続けて分けることは、列をつないで一度に分けることである。 -/
theorem append (h₁ : Split c c₁ es₁ k₁ s₁) (h₂ : Split c₁ c₂ es₂ k₂ s₂) :
    Split c c₂ (es₁ ++ es₂) (k₁ ++ k₂) (s₁ ++ s₂) where
  shares := by simp only [totalSharesDst_append]; linarith [h₁.shares, h₂.shares]
  balances := by simp only [totalInitialBalance_append]; linarith [h₁.balances, h₂.balances]
  cover := by simp only [totalSharesDst_append]; linarith [h₁.cover, h₂.cover]
  coverNonneg := h₂.coverNonneg
  keptShares hSD := by
    have hSD₁ : ∀ e ∈ es₁, 0 ≤ e.SharesDst.i := fun e he => hSD e (List.mem_append_left _ he)
    have hSD₂ : ∀ e ∈ es₂, 0 ≤ e.SharesDst.i := fun e he => hSD e (List.mem_append_right _ he)
    -- 二つ目の列には、一つ目の後に残った cover `c - min (Σ es₁) c` が割り当てられる
    have hc₁ : c₁.i = c.i - min (totalSharesDst es₁) c.i := by rw [h₁.cover, h₁.keptShares hSD₁]
    rw [totalSharesDst_append, totalSharesDst_append, h₁.keptShares hSD₁, h₂.keptShares hSD₂, hc₁,
      min_add_min_sub (totalSharesDst_nonneg hSD₂)]
  untouched hs := by
    obtain ⟨hs₁, hs₂⟩ := List.append_eq_nil_iff.mp hs
    rw [h₁.untouched hs₁, h₂.untouched hs₂]
  nonneg hIB x hx := by
    simp only [List.mem_append] at hx
    have hIB₁ : ∀ e ∈ es₁, 0 ≤ e.InitialBalance := fun e he => hIB e (List.mem_append_left _ he)
    have hIB₂ : ∀ e ∈ es₂, 0 ≤ e.InitialBalance := fun e he => hIB e (List.mem_append_right _ he)
    rcases hx with (hx | hx) | (hx | hx)
    · exact h₁.nonneg hIB₁ x (List.mem_append_left _ hx)
    · exact h₂.nonneg hIB₂ x (List.mem_append_left _ hx)
    · exact h₁.nonneg hIB₁ x (List.mem_append_right _ hx)
    · exact h₂.nonneg hIB₂ x (List.mem_append_right _ hx)

end Split

/-! ## 一つの entry -/

/-- cover に収まる entry はそのまま残る。 -/
theorem splitEntry_of_le {c : LegacyDec} {e : RedelegationEntry} (h : e.SharesDst.i ≤ c.i) :
    splitEntry c e = .ok (⟨c.i - e.SharesDst.i⟩, .leave) := by
  have hgt : e.SharesDst.GT c = false := by simpa using h
  simp [splitEntry, hgt]
  rfl

/-- cover が尽きていれば、entry は全部送られる。 -/
theorem splitEntry_of_zero {c : LegacyDec} {e : RedelegationEntry} (hc : c.i = 0)
    (h : 0 < e.SharesDst.i) :
    splitEntry c e = .ok (⟨0⟩, .moved ⟨e.CreationHeight, e.CompletionTime, e.InitialBalance,
      e.SharesDst.Sub c⟩) := by
  have hgt : e.SharesDst.GT c = true := by simp; omega
  have hsend : (e.SharesDst.Sub c).IsZero = false := by simp; omega
  have hkeep : c.IsZero = true := by simpa using hc
  have hsub : c.Sub c = ⟨0⟩ := by simp [LegacyDec.Sub]
  simp [splitEntry, hgt, hsend, hkeep, hsub]

/-- cover が entry の途中で尽きれば、entry は cover と残りとに分けられる。 -/
theorem splitEntry_of_lt {c : LegacyDec} {e : RedelegationEntry} (hc : 0 < c.i)
    (h : c.i < e.SharesDst.i) :
    ∃ frac, (e.SharesDst.Sub c).Quo e.SharesDst = .ok frac ∧
      splitEntry c e = .ok (⟨0⟩, .split
        { e with InitialBalance := e.InitialBalance - (frac.MulInt e.InitialBalance).TruncateInt,
                 SharesDst := c }
        ⟨e.CreationHeight, e.CompletionTime, (frac.MulInt e.InitialBalance).TruncateInt,
          e.SharesDst.Sub c⟩) := by
  have hgt : e.SharesDst.GT c = true := by simp; omega
  have hsend : (e.SharesDst.Sub c).IsZero = false := by simp; omega
  have hkeep : c.IsZero = false := by simp; omega
  have hquo : (e.SharesDst.Sub c).Quo e.SharesDst =
      .ok ⟨chopPrecisionAndRound (((e.SharesDst.Sub c).i * 10 ^ 36).tdiv e.SharesDst.i)⟩ := by
    unfold Quo
    rw [if_neg (by omega)]
  have hsub : c.Sub c = ⟨0⟩ := by simp [LegacyDec.Sub]
  refine ⟨_, hquo, ?_⟩
  simp [splitEntry, hgt, hsend, hkeep, hquo, hsub]

/--
**一つの entry の分け方。** cover が負でなければ、`splitEntry` は失敗せず、その行き先は `Split`
である。分ける枝では `SharesDst` は正の cover より大きいので、`Quo` は 0 で割らない。
-/
theorem splitEntry_split {c : LegacyDec} {e : RedelegationEntry} (hc : 0 ≤ c.i) :
    ∃ c' out, splitEntry c e = .ok (c', out) ∧ Split c c' [e] (out.kept e) out.sent := by
  rcases le_or_gt e.SharesDst.i c.i with hle | hlt
  · -- 収まる：そのまま残す
    refine ⟨_, _, splitEntry_of_le hle, ?_⟩
    exact { shares := by simp [EntryOutcome.kept, EntryOutcome.sent]
            balances := by simp [EntryOutcome.kept, EntryOutcome.sent]
            cover := by simp [EntryOutcome.kept]
            coverNonneg := by simp; omega
            keptShares := fun _ => by simp [EntryOutcome.kept, hle]
            untouched := fun _ => rfl
            nonneg := fun h x hx => by simp_all [EntryOutcome.kept, EntryOutcome.sent] }
  rcases eq_or_lt_of_le hc with hc0 | hcpos
  · -- cover が尽きている：全部送る
    refine ⟨_, _, splitEntry_of_zero hc0.symm (by omega), ?_⟩
    exact { shares := by simp [EntryOutcome.kept, EntryOutcome.sent]; omega
            balances := by simp [EntryOutcome.kept, EntryOutcome.sent]
            cover := by simp [EntryOutcome.kept]; omega
            coverNonneg := le_rfl
            keptShares := fun _ => by simp [EntryOutcome.kept]; omega
            untouched := fun h => by simp [EntryOutcome.sent] at h
            nonneg := fun h x hx => by simp_all [EntryOutcome.kept, EntryOutcome.sent] }
  · -- 途中で尽きる：`InitialBalance` を送る share の比で分ける
    obtain ⟨frac, hquo, hsplit⟩ := splitEntry_of_lt hcpos hlt
    refine ⟨_, _, hsplit, ?_⟩
    have hsend₀ : 0 ≤ (e.SharesDst.Sub c).i := by simp; omega
    have hsend₁ : (e.SharesDst.Sub c).i ≤ e.SharesDst.i := by simp; omega
    have hfrac₀ := Quo_nonneg hsend₀ (by omega) hquo
    have hfrac₁ := Quo_le_one hsend₀ hsend₁ (by omega) hquo
    exact { shares := by simp [EntryOutcome.kept, EntryOutcome.sent]
            balances := by simp [EntryOutcome.kept, EntryOutcome.sent]
            cover := by simp [EntryOutcome.kept]
            coverNonneg := le_rfl
            keptShares := fun _ => by simp [EntryOutcome.kept]; omega
            untouched := fun h => by simp [EntryOutcome.sent] at h
            nonneg := fun h x hx => by
              have hIB : 0 ≤ e.InitialBalance := h e (by simp)
              have hb := TruncateInt_MulInt_le hfrac₀ hfrac₁ hIB
              simp only [EntryOutcome.kept, EntryOutcome.sent, List.cons_append, List.nil_append,
                List.mem_cons, List.not_mem_nil, or_false] at hx
              rcases hx with rfl | rfl
              · show 0 ≤ e.InitialBalance - _
                omega
              · exact hb.1 }

/--
分ける枝の見本。cover 2.0 で 3.0 の share と `InitialBalance` 3 の entry を分けると、送る 1.0 の share の比
`Quo` は 0.333…333 に丸められ、送る `InitialBalance` はその 3 倍 0.999…999 を切り捨てた 0 になる。
-/
example : splitEntry ⟨2 * 10 ^ 18⟩ ⟨1, 100, 3, ⟨3 * 10 ^ 18⟩⟩ =
    .ok (⟨0⟩, .split ⟨1, 100, 3, ⟨2 * 10 ^ 18⟩⟩ ⟨1, 100, 0, ⟨10 ^ 18⟩⟩) := by decide

/-! ## 送ること -/

/-- 送る entry を順に移し先に足す。 -/
def sendAll (sdk : Sdk) (toAddr valSrcAddr valDstAddr : String) (s : Store)
    (sent : List RedelegationEntry) : Store :=
  sent.foldl (sendEntry sdk toAddr valSrcAddr valDstAddr) s

section Send

variable {sdk : Sdk} {toAddr valSrcAddr valDstAddr : String} {s : Store}

theorem Store.WellKeyed.sendEntry (hw : s.WellKeyed) (hsdk : sdk.Lawful) (x : RedelegationEntry) :
    (Staking.sendEntry sdk toAddr valSrcAddr valDstAddr s x).WellKeyed :=
  (hsdk.wellKeyed_SetRedelegationEntry toAddr valSrcAddr valDstAddr x.CreationHeight x.CompletionTime
    x.InitialBalance LegacyZeroDec x.SharesDst hw).InsertRedelegationQueue _ _

/-- 送った entry は移し先の記録の後ろに付く。 -/
theorem redEntries_sendEntry (hsdk : sdk.Lawful) (hw : s.WellKeyed) (x : RedelegationEntry)
    (k : String × String × String) :
    (sendEntry sdk toAddr valSrcAddr valDstAddr s x).redEntries k =
      if k = (toAddr, valSrcAddr, valDstAddr) then s.redEntries k ++ [x] else s.redEntries k := by
  have h := hsdk.redEntries_SetRedelegationEntry toAddr valSrcAddr valDstAddr x.CreationHeight
    x.CompletionTime x.InitialBalance LegacyZeroDec x.SharesDst hw k
  -- queue に入れることは記録を変えず、足した entry は `x` そのものである
  exact h

theorem sendEntry_delegations (hsdk : sdk.Lawful) (x : RedelegationEntry) :
    (sendEntry sdk toAddr valSrcAddr valDstAddr s x).delegations = s.delegations :=
  hsdk.SetRedelegationEntry_delegations ..

theorem sendEntry_unbondingDelegations (hsdk : sdk.Lawful) (x : RedelegationEntry) :
    (sendEntry sdk toAddr valSrcAddr valDstAddr s x).unbondingDelegations = s.unbondingDelegations :=
  hsdk.SetRedelegationEntry_unbondingDelegations ..

theorem Store.WellKeyed.sendAll (hsdk : sdk.Lawful) :
    ∀ {s : Store} (sent : List RedelegationEntry), s.WellKeyed →
      (Staking.sendAll sdk toAddr valSrcAddr valDstAddr s sent).WellKeyed
  | _, [], hw => hw
  | s, x :: sent, hw =>
    Store.WellKeyed.sendAll hsdk (s := Staking.sendEntry sdk toAddr valSrcAddr valDstAddr s x) sent
      (hw.sendEntry hsdk x)

/-- 送る列は、移し先の記録の後ろにそのまま並ぶ。 -/
theorem redEntries_sendAll (hsdk : sdk.Lawful) :
    ∀ {s : Store} (sent : List RedelegationEntry), s.WellKeyed →
      ∀ k, (sendAll sdk toAddr valSrcAddr valDstAddr s sent).redEntries k =
        if k = (toAddr, valSrcAddr, valDstAddr) then s.redEntries k ++ sent else s.redEntries k
  | _, [], _, k => by simp [sendAll]
  | s, x :: sent, hw, k => by
    have ih := redEntries_sendAll hsdk (s := sendEntry sdk toAddr valSrcAddr valDstAddr s x) sent
      (hw.sendEntry hsdk x) k
    simp only [sendAll, List.foldl_cons] at ih ⊢
    rw [ih, redEntries_sendEntry hsdk hw]
    split <;> simp

theorem sendAll_delegations (hsdk : sdk.Lawful) (sent : List RedelegationEntry) :
    (sendAll sdk toAddr valSrcAddr valDstAddr s sent).delegations = s.delegations := by
  induction sent generalizing s with
  | nil => rfl
  | cons x sent ih => exact (ih (s := sendEntry sdk _ _ _ s x)).trans (sendEntry_delegations hsdk x)

theorem sendAll_unbondingDelegations (hsdk : sdk.Lawful) (sent : List RedelegationEntry) :
    (sendAll sdk toAddr valSrcAddr valDstAddr s sent).unbondingDelegations = s.unbondingDelegations := by
  induction sent generalizing s with
  | nil => rfl
  | cons x sent ih =>
    exact (ih (s := sendEntry sdk _ _ _ s x)).trans (sendEntry_unbondingDelegations hsdk x)

end Send

/-! ## entry の loop -/

/-- entry の行き先が添字の loop に決めること。 -/
def EntryOutcome.step (e : RedelegationEntry) : EntryOutcome → LoopStep RedelegationEntry
  | .leave => .keep e
  | .moved _ => .drop
  | .split kept _ => .keep kept

theorem EntryOutcome.step_ne_stop (e : RedelegationEntry) (out : EntryOutcome) :
    out.step e ≠ .stop := by
  cases out <;> simp [step]

theorem EntryOutcome.kept_step (e : RedelegationEntry) (out : EntryOutcome) :
    (out.step e).kept = out.kept e := by
  cases out <;> rfl

/-- loop の一回は、分けた行き先の送る分を移し先に足し、旗を立てる。 -/
theorem entryBody_of_splitEntry {sdk : Sdk} {toAddr valSrcAddr valDstAddr : String} {acc : EntryAcc}
    {e : RedelegationEntry} {c : LegacyDec} {out : EntryOutcome}
    (h : splitEntry acc.remaining e = .ok (c, out)) :
    entryBody sdk toAddr valSrcAddr valDstAddr acc e =
      .ok (⟨sendAll sdk toAddr valSrcAddr valDstAddr acc.store out.sent, c,
        acc.redelegationModified || !out.sent.isEmpty,
        acc.entriesRemaining || !(out.kept e).isEmpty⟩, out.step e) := by
  cases out <;> simp [entryBody, h, EntryOutcome.sent, EntryOutcome.kept, EntryOutcome.step, sendAll]

/--
**entry の loop。** cover が負でなければ、entry の loop は失敗せず、cover が entry の列を
分けた残す列を返し、送る列を移し先に足す。旗は、送ったものがあれば `redelegationModified`、残したもの
があれば `entriesRemaining` が立つ。entry の列についての帰納法で、一つ目の entry の分け方と残りの
分け方を `Split.append` でつなぐ。
-/
theorem walk_entryBody (sdk : Sdk) (toAddr valSrcAddr valDstAddr : String) :
    ∀ (es : List RedelegationEntry) (acc : EntryAcc), 0 ≤ acc.remaining.i →
      ∃ c' kept sent, walk (entryBody sdk toAddr valSrcAddr valDstAddr) acc es =
          .ok (⟨sendAll sdk toAddr valSrcAddr valDstAddr acc.store sent, c',
            acc.redelegationModified || !sent.isEmpty, acc.entriesRemaining || !kept.isEmpty⟩, kept) ∧
        Split acc.remaining c' es kept sent := by
  intro es
  induction es with
  | nil =>
    intro acc hc
    exact ⟨acc.remaining, [], [], by simp [sendAll], Split.nil hc⟩
  | cons e es ih =>
    intro acc hc
    obtain ⟨c₁, out, hsplit, hs₁⟩ := splitEntry_split (e := e) hc
    obtain ⟨c', kept, sent, hwalk, hs⟩ := ih ⟨sendAll sdk toAddr valSrcAddr valDstAddr acc.store out.sent,
      c₁, acc.redelegationModified || !out.sent.isEmpty, acc.entriesRemaining || !(out.kept e).isEmpty⟩
      hs₁.coverNonneg
    refine ⟨c', out.kept e ++ kept, out.sent ++ sent, ?_, ?_⟩
    · have hempty : ∀ l₁ l₂ : List RedelegationEntry, (l₁ ++ l₂).isEmpty = (l₁.isEmpty && l₂.isEmpty) := by
        intro l₁ l₂
        cases l₁ <;> rfl
      rw [walk_cons_of_ne_stop (entryBody_of_splitEntry hsplit) (out.step_ne_stop e), hwalk]
      simp [sendAll, EntryOutcome.kept_step, hempty, Bool.or_assoc]
    · exact hs₁.append hs

/-! ## 一つの記録 -/

/-- 記録の処理の後の store。送ったものがあれば、残す列で記録を書き直すか、残らなければ消す。 -/
def finishRecord (s : Store) (r : Redelegation) (kept sent : List RedelegationEntry) : Store :=
  if sent = [] then s
  else if kept = [] then s.RemoveRedelegation { r with Entries := kept }
  else s.SetRedelegation { r with Entries := kept }

theorem Store.WellKeyed.finishRecord {s : Store} (hw : s.WellKeyed) (r : Redelegation)
    (kept sent : List RedelegationEntry) : (Staking.finishRecord s r kept sent).WellKeyed := by
  unfold Staking.finishRecord
  split_ifs
  · exact hw
  · exact hw.RemoveRedelegation _
  · exact hw.SetRedelegation _

/-- 書き直した記録は残す列を持つ。何も送らない時は、記録がもともと残す列を持っている。 -/
theorem redEntries_finishRecord {s : Store} {r : Redelegation} {kept sent : List RedelegationEntry}
    (huntouched : sent = [] → s.redEntries r.key = kept) (k : String × String × String) :
    (finishRecord s r kept sent).redEntries k = if k = r.key then kept else s.redEntries k := by
  have hkey : ({ r with Entries := kept } : Redelegation).key = r.key := rfl
  unfold finishRecord
  by_cases hnil : sent = []
  · rw [if_pos hnil]
    by_cases hk : k = r.key
    · rw [if_pos hk, hk, huntouched hnil]
    · rw [if_neg hk]
  · rw [if_neg hnil]
    by_cases hknil : kept = []
    · rw [if_pos hknil, Store.redEntries_RemoveRedelegation, hkey, hknil]
    · rw [if_neg hknil, Store.redEntries_SetRedelegation, hkey]

@[simp] theorem finishRecord_delegations (s : Store) (r : Redelegation) (kept sent : List RedelegationEntry) :
    (finishRecord s r kept sent).delegations = s.delegations := by
  unfold finishRecord
  split_ifs <;> rfl

@[simp] theorem finishRecord_unbondingDelegations (s : Store) (r : Redelegation)
    (kept sent : List RedelegationEntry) :
    (finishRecord s r kept sent).unbondingDelegations = s.unbondingDelegations := by
  unfold finishRecord
  split_ifs <;> rfl

/-- `valAddr` への記録でなければ、何もしない。 -/
theorem redelegationStep_skip {sdk : Sdk} {toAddr valAddr : String} {acc : Store × LegacyDec}
    {r : Redelegation} (hdst : r.ValidatorDstAddress ≠ valAddr) :
    redelegationStep sdk toAddr valAddr acc r = .ok acc := by
  simp [redelegationStep, hdst]

/--
`valAddr` への記録は、cover が負でなければ失敗せず、entry の loop が分けた送る列を移し先に足し、
`finishRecord` で記録を残す列にする。
-/
theorem redelegationStep_eq (sdk : Sdk) (toAddr : String) {valAddr : String} (s : Store) {c : LegacyDec}
    {r : Redelegation} (hdst : r.ValidatorDstAddress = valAddr) (hc : 0 ≤ c.i) :
    ∃ c' kept sent, redelegationStep sdk toAddr valAddr (s, c) r =
        .ok (finishRecord (sendAll sdk toAddr r.ValidatorSrcAddress r.ValidatorDstAddress s sent) r kept sent,
          c') ∧
      Split c c' r.Entries kept sent := by
  subst hdst
  obtain ⟨c', kept, sent, hwalk, hsplit⟩ := walk_entryBody sdk toAddr r.ValidatorSrcAddress
    r.ValidatorDstAddress r.Entries ⟨s, c, false, false⟩ hc
  refine ⟨c', kept, sent, ?_, hsplit⟩
  have hloop : indexLoop (entryBody sdk toAddr r.ValidatorSrcAddress r.ValidatorDstAddress)
      r.Entries.length ⟨s, c, false, false⟩ r.Entries 0 =
      .ok (⟨sendAll sdk toAddr r.ValidatorSrcAddress r.ValidatorDstAddress s sent, c', !sent.isEmpty,
        !kept.isEmpty⟩, kept) := by
    rw [indexLoop_length, hwalk]
    simp
  -- 旗は「送ったものがある」と「残るものがある」で、`finishRecord` の二つの条件である
  rcases eq_or_ne sent [] with hnil | hne
  · simp [redelegationStep, hloop, finishRecord, hnil]
  · rcases eq_or_ne kept [] with hknil | hkne
    · simp [redelegationStep, hloop, finishRecord, hne, hknil]
    · simp [redelegationStep, hloop, finishRecord, hne, hkne]

/--
**一つの記録の処理。** 移し元の記録 `r` は、cover の分けた残す列になり（entry が残らなければ
消え、何も送らなければそのまま）、送る列は移し先の同じ validator の組の記録の後ろに並ぶ。
ほかの記録と、delegation と unbonding は変わらない。
-/
theorem redelegationStep_record {sdk : Sdk} {toAddr valAddr : String} {s : Store} {c : LegacyDec}
    {r : Redelegation} (hsdk : sdk.Lawful) (hw : s.WellKeyed) (hdst : r.ValidatorDstAddress = valAddr)
    (hr : s.redEntries r.key = r.Entries)
    (hto : (toAddr, r.ValidatorSrcAddress, r.ValidatorDstAddress) ≠ r.key) (hc : 0 ≤ c.i) :
    ∃ s' c' kept sent, redelegationStep sdk toAddr valAddr (s, c) r = .ok (s', c') ∧
      Split c c' r.Entries kept sent ∧ s'.WellKeyed ∧
      s'.delegations = s.delegations ∧ s'.unbondingDelegations = s.unbondingDelegations ∧
      ∀ k, s'.redEntries k =
        if k = r.key then kept
        else if k = (toAddr, r.ValidatorSrcAddress, r.ValidatorDstAddress) then s.redEntries k ++ sent
        else s.redEntries k := by
  obtain ⟨c', kept, sent, hstep, hsplit⟩ := redelegationStep_eq sdk toAddr s hdst hc
  have hsent : (sendAll sdk toAddr r.ValidatorSrcAddress r.ValidatorDstAddress s sent).WellKeyed :=
    hw.sendAll hsdk sent
  have hview : ∀ k, (sendAll sdk toAddr r.ValidatorSrcAddress r.ValidatorDstAddress s sent).redEntries k =
      if k = (toAddr, r.ValidatorSrcAddress, r.ValidatorDstAddress) then s.redEntries k ++ sent
      else s.redEntries k :=
    redEntries_sendAll hsdk sent hw
  -- 何も送らなければ、記録はもともと残す列を持っている
  have huntouched : sent = [] →
      (sendAll sdk toAddr r.ValidatorSrcAddress r.ValidatorDstAddress s sent).redEntries r.key = kept := by
    intro hnil
    rw [hview, if_neg hto.symm, hr, hsplit.untouched hnil]
  refine ⟨_, c', kept, sent, hstep, hsplit, hsent.finishRecord r kept sent,
    by simp [sendAll_delegations hsdk], by simp [sendAll_unbondingDelegations hsdk],
    fun k => ?_⟩
  rw [redEntries_finishRecord huntouched, hview]

/--
記録の列の処理は、cover が負でなければ失敗せず、delegation と unbonding に触れず、鍵の整合を保つ。
移し元と移し先が同じでもよい。
-/
theorem foldlM_redelegationStep_ok {sdk : Sdk} (hsdk : sdk.Lawful) (toAddr valAddr : String) :
    ∀ (L : List Redelegation) (s : Store) (c : LegacyDec), s.WellKeyed → 0 ≤ c.i →
      ∃ s' c', L.foldlM (redelegationStep sdk toAddr valAddr) (s, c) = .ok (s', c') ∧ s'.WellKeyed ∧
        s'.delegations = s.delegations ∧ s'.unbondingDelegations = s.unbondingDelegations := by
  intro L
  induction L with
  | nil => intro s c hw _; exact ⟨s, c, rfl, hw, rfl, rfl⟩
  | cons r L ih =>
    intro s c hw hc
    by_cases hdst : r.ValidatorDstAddress = valAddr
    · obtain ⟨c₁, kept, sent, hstep, hsplit⟩ := redelegationStep_eq sdk toAddr s hdst hc
      obtain ⟨s', c', hfold, hw', hd, hu⟩ :=
        ih (finishRecord (sendAll sdk toAddr r.ValidatorSrcAddress r.ValidatorDstAddress s sent) r kept sent)
          c₁ ((hw.sendAll hsdk sent).finishRecord r kept sent) hsplit.coverNonneg
      exact ⟨s', c', by simp [hstep, hfold], hw', by simp [hd, sendAll_delegations hsdk],
        by simp [hu, sendAll_unbondingDelegations hsdk]⟩
    · obtain ⟨s', c', hfold, hw', hd, hu⟩ := ih s c hw hc
      exact ⟨s', c', by simp [redelegationStep_skip hdst, hfold], hw', hd, hu⟩

/-! ## 記録の列 -/

/-- 記録の列のうち、`valAddr` へのもの。`TransferDelegation` が entry を分けるのはこれらである。 -/
def toValidator (valAddr : String) (L : List Redelegation) : List Redelegation :=
  L.filter fun r => r.ValidatorDstAddress = valAddr

/--
記録の列 `L` の処理が、cover `c` で store `s` を `s'` にしたこと。`valAddr` への記録の移し元に残る
share の和は、それらの share の和と cover の小さい方で、どの記録も自分の entry を、移し元に残す列と
移し先の同じ validator の組の記録に足す列とに分け、ほかの記録は変わらない。
-/
structure RecordsSplit (toAddr valAddr : String) (L : List Redelegation) (s s' : Store) (c : LegacyDec) :
    Prop where
  liabilities : (∀ r ∈ toValidator valAddr L, ∀ e ∈ r.Entries, 0 ≤ e.SharesDst.i) →
    ((toValidator valAddr L).map fun r => totalSharesDst (s'.redEntries r.key)).sum =
      min ((toValidator valAddr L).map fun r => totalSharesDst r.Entries).sum c.i
  record : ∀ r ∈ toValidator valAddr L, ∃ sent c₁ c₂,
    s'.redEntries (toAddr, r.ValidatorSrcAddress, valAddr) =
      s.redEntries (toAddr, r.ValidatorSrcAddress, valAddr) ++ sent ∧
    0 ≤ c₁.i ∧ Split c₁ c₂ r.Entries (s'.redEntries r.key) sent
  frame : ∀ k, (∀ r ∈ toValidator valAddr L, k ≠ r.key ∧ k ≠ (toAddr, r.ValidatorSrcAddress, valAddr)) →
    s'.redEntries k = s.redEntries k

/-- 移し先の鍵は、ほかの delegator の記録の鍵ではない。 -/
theorem Redelegation.key_ne_of_delegator {r : Redelegation} {a b c : String}
    (h : r.DelegatorAddress ≠ a) : r.key ≠ (a, b, c) := by
  intro hk
  exact h (congrArg Prod.fst hk)

/-- 同じ delegator から同じ validator への二つの記録は、鍵が違えば移し元の validator が違う。 -/
theorem Redelegation.src_ne_of_key_ne {r r' : Redelegation} (hk : r.key ≠ r'.key)
    (hd : r.DelegatorAddress = r'.DelegatorAddress) (hv : r.ValidatorDstAddress = r'.ValidatorDstAddress) :
    r.ValidatorSrcAddress ≠ r'.ValidatorSrcAddress := by
  intro hs
  exact hk (by simp [Redelegation.key, hd, hs, hv])

theorem sum_toValidator_nonneg {valAddr : String} {L : List Redelegation}
    (hSD : ∀ r ∈ toValidator valAddr L, ∀ e ∈ r.Entries, 0 ≤ e.SharesDst.i) :
    0 ≤ ((toValidator valAddr L).map fun r => totalSharesDst r.Entries).sum := by
  apply List.sum_nonneg
  intro x hx
  obtain ⟨r, hr, rfl⟩ := List.mem_map.mp hx
  exact totalSharesDst_nonneg (hSD r hr)

namespace RecordsSplit

variable {toAddr valAddr : String} {s s₁ s' : Store} {c c₁ : LegacyDec} {r : Redelegation}
  {L : List Redelegation}

theorem nil (hc : 0 ≤ c.i) : RecordsSplit toAddr valAddr [] s s c where
  liabilities _ := by simp [toValidator, hc]
  record := by simp [toValidator]
  frame _ _ := rfl

/-- `valAddr` への記録でないものは飛ばされる。 -/
theorem skip (hdst : r.ValidatorDstAddress ≠ valAddr) (h : RecordsSplit toAddr valAddr L s s' c) :
    RecordsSplit toAddr valAddr (r :: L) s s' c := by
  have hL : toValidator valAddr (r :: L) = toValidator valAddr L := by simp [toValidator, hdst]
  exact { liabilities := by rw [hL]; exact h.liabilities,
          record := by rw [hL]; exact h.record,
          frame := by rw [hL]; exact h.frame }

/--
処理した記録 `r` を列の前に足す。`r` の後の記録は、`r` の鍵にも、`r` の移し先の鍵にも触れない
（移し元と移し先は違う delegator で、`r` の後の記録は移し元の validator が違う）。
-/
theorem cons {fromAddr : String} (hne : fromAddr ≠ toAddr) (hc : 0 ≤ c.i)
    (hdst : r.ValidatorDstAddress = valAddr)
    (hfrom : r.DelegatorAddress = fromAddr)
    (hL : ∀ r' ∈ L, r'.DelegatorAddress = fromAddr ∧ r'.key ≠ r.key)
    {kept sent : List RedelegationEntry} (hsplit : Split c c₁ r.Entries kept sent)
    (hview : ∀ k, s₁.redEntries k =
      if k = r.key then kept
      else if k = (toAddr, r.ValidatorSrcAddress, r.ValidatorDstAddress) then s.redEntries k ++ sent
      else s.redEntries k)
    (h : RecordsSplit toAddr valAddr L s₁ s' c₁) : RecordsSplit toAddr valAddr (r :: L) s s' c := by
  subst hdst
  have hcons : toValidator r.ValidatorDstAddress (r :: L) = r :: toValidator r.ValidatorDstAddress L := by
    simp [toValidator]
  -- 後の記録の鍵と移し先の鍵は、`r` の二つの鍵と違う
  have hafter : ∀ r' ∈ toValidator r.ValidatorDstAddress L,
      r.key ≠ r'.key ∧ r.key ≠ (toAddr, r'.ValidatorSrcAddress, r.ValidatorDstAddress) ∧
      (toAddr, r.ValidatorSrcAddress, r.ValidatorDstAddress) ≠ r'.key ∧
      (toAddr, r.ValidatorSrcAddress, r.ValidatorDstAddress) ≠
        (toAddr, r'.ValidatorSrcAddress, r.ValidatorDstAddress) := by
    intro r' hr'
    simp only [toValidator, List.mem_filter, decide_eq_true_eq] at hr'
    obtain ⟨hd', hk'⟩ := hL r' hr'.1
    have hsrc := Redelegation.src_ne_of_key_ne hk'.symm (hfrom.trans hd'.symm) hr'.2.symm
    refine ⟨hk'.symm, Redelegation.key_ne_of_delegator (hfrom ▸ hne), ?_, ?_⟩
    · exact fun hk => Redelegation.key_ne_of_delegator (hd' ▸ hne) hk.symm
    · intro hk
      exact hsrc (congrArg (fun k => k.2.1) hk)
  have hto : (toAddr, r.ValidatorSrcAddress, r.ValidatorDstAddress) ≠ r.key :=
    fun hk => Redelegation.key_ne_of_delegator (hfrom ▸ hne) hk.symm
  have hr : s'.redEntries r.key = kept := by
    rw [h.frame r.key (fun r' hr' => ⟨(hafter r' hr').1, (hafter r' hr').2.1⟩), hview, if_pos rfl]
  have hrto : s'.redEntries (toAddr, r.ValidatorSrcAddress, r.ValidatorDstAddress) =
      s.redEntries (toAddr, r.ValidatorSrcAddress, r.ValidatorDstAddress) ++ sent := by
    rw [h.frame _ (fun r' hr' => ⟨(hafter r' hr').2.2.1, (hafter r' hr').2.2.2⟩), hview,
      if_neg hto, if_pos rfl]
  refine { liabilities := ?_, record := ?_, frame := ?_ }
  · -- 残る share の和：`r` に cover から取れるだけ取り、残りを後の記録に回す
    intro hSD
    rw [hcons] at hSD
    have hSDr := hSD r (List.mem_cons_self ..)
    have hSDL := fun r' hr' => hSD r' (List.mem_cons_of_mem _ hr')
    have hc₁ : c₁.i = c.i - min (totalSharesDst r.Entries) c.i := by
      rw [hsplit.cover, hsplit.keptShares hSDr]
    rw [hcons, List.map_cons, List.sum_cons, List.map_cons, List.sum_cons, hr, hsplit.keptShares hSDr,
      h.liabilities hSDL, hc₁, min_add_min_sub (sum_toValidator_nonneg hSDL)]
  · rw [hcons]
    intro r' hr'
    rcases List.mem_cons.mp hr' with rfl | hr'
    · exact ⟨sent, c, c₁, hrto, hc, hr ▸ hsplit⟩
    · obtain ⟨sent', c₁', c₂', hto', hc₁', hsplit'⟩ := h.record r' hr'
      have hne' : (toAddr, r'.ValidatorSrcAddress, r.ValidatorDstAddress) ≠ r.key :=
        fun hk => (hafter r' hr').2.1 hk.symm
      have hsrc' : (toAddr, r'.ValidatorSrcAddress, r.ValidatorDstAddress) ≠
          (toAddr, r.ValidatorSrcAddress, r.ValidatorDstAddress) := fun hk => (hafter r' hr').2.2.2 hk.symm
      refine ⟨sent', c₁', c₂', ?_, hc₁', hsplit'⟩
      rw [hto', hview, if_neg hne', if_neg hsrc']
  · intro k hk
    rw [hcons] at hk
    obtain ⟨hk₁, hk₂⟩ := hk r (List.mem_cons_self ..)
    rw [h.frame k (fun r' hr' => hk r' (List.mem_cons_of_mem _ hr')), hview, if_neg hk₁, if_neg hk₂]

/-- `RecordsSplit` は処理の前の store の redelegation しか読まない。 -/
theorem congr_left {s₀ : Store} (heq : ∀ k, s₀.redEntries k = s.redEntries k)
    (h : RecordsSplit toAddr valAddr L s₀ s' c) : RecordsSplit toAddr valAddr L s s' c where
  liabilities := h.liabilities
  record r hr := by
    obtain ⟨sent, c₁, c₂, hto, hc₁, hsplit⟩ := h.record r hr
    exact ⟨sent, c₁, c₂, by rw [hto, heq], hc₁, hsplit⟩
  frame k hk := by rw [h.frame k hk, heq]

end RecordsSplit

/--
**記録の列の処理。** 移し元のどの記録も、store にあるとおりの entry を持ち、移し元と移し先が違えば、
`valAddr` への記録を前から順に処理する fold は失敗せず、`RecordsSplit` を満たす。記録の列についての
帰納法で、一つの記録の処理（`redelegationStep_record`）の後の store で残りを処理する。
-/
theorem foldlM_redelegationStep {sdk : Sdk} (hsdk : sdk.Lawful) {fromAddr toAddr valAddr : String}
    (hne : fromAddr ≠ toAddr) :
    ∀ (L : List Redelegation) (s : Store) (c : LegacyDec), s.WellKeyed → 0 ≤ c.i →
      (L.map Redelegation.key).Nodup →
      (∀ r ∈ L, r.DelegatorAddress = fromAddr ∧ s.redEntries r.key = r.Entries) →
      ∃ s' c', L.foldlM (redelegationStep sdk toAddr valAddr) (s, c) = .ok (s', c') ∧
        RecordsSplit toAddr valAddr L s s' c := by
  intro L
  induction L with
  | nil => intro s c _ hc _ _; exact ⟨s, c, rfl, RecordsSplit.nil hc⟩
  | cons r L ih =>
    intro s c hw hc hnd hrec
    simp only [List.map_cons, List.nodup_cons, List.mem_map, not_exists, not_and] at hnd
    have hrec' : ∀ r' ∈ L, r'.DelegatorAddress = fromAddr ∧ r'.key ≠ r.key :=
      fun r' hr' => ⟨(hrec r' (List.mem_cons_of_mem _ hr')).1, fun hk => hnd.1 r' hr' hk⟩
    by_cases hdst : r.ValidatorDstAddress = valAddr
    · obtain ⟨hfrom, hr⟩ := hrec r (List.mem_cons_self ..)
      have hto : (toAddr, r.ValidatorSrcAddress, r.ValidatorDstAddress) ≠ r.key :=
        fun hk => Redelegation.key_ne_of_delegator (hfrom ▸ hne) hk.symm
      obtain ⟨s₁, c₁, kept, sent, hstep, hsplit, hw₁, -, -, hview⟩ :=
        redelegationStep_record hsdk hw hdst hr hto hc
      -- 後の記録は、`r` の処理の後も store にあるとおりである
      have hrec₁ : ∀ r' ∈ L, r'.DelegatorAddress = fromAddr ∧ s₁.redEntries r'.key = r'.Entries := by
        intro r' hr'
        obtain ⟨hd', hk'⟩ := hrec' r' hr'
        refine ⟨hd', ?_⟩
        rw [hview, if_neg hk', if_neg (Redelegation.key_ne_of_delegator (hd' ▸ hne))]
        exact (hrec r' (List.mem_cons_of_mem _ hr')).2
      obtain ⟨s', c', hfold, hL⟩ := ih s₁ c₁ hw₁ hsplit.coverNonneg hnd.2 hrec₁
      refine ⟨s', c', by simp [hstep, hfold], ?_⟩
      exact RecordsSplit.cons hne hc hdst hfrom hrec' hsplit hview hL

    · obtain ⟨s', c', hfold, hL⟩ := ih s c hw hc hnd.2
        (fun r' hr' => hrec r' (List.mem_cons_of_mem _ hr'))
      exact ⟨s', c', by simp [redelegationStep_skip hdst, hfold], hL.skip hdst⟩

end SedaChain.Staking
