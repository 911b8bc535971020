import SedaChain.Staking.Delegation

/-!
# `TransferUnbonding` の性質

`TransferUnbonding` は移し元の unbonding の entry を前から順に、残りの `wantAmt` と entry の残高の
小さい方ずつ移し先に移す。移した分は、移し先の同じ作成 height と完了時刻の entry に足し込まれるか、
新しい entry になる（`Sdk.Lawful.setUnbondingDelegationEntry_record`）。組ごとの残高は `balanceOf` で数える。

* `UbdRun` — entry の loop の一回の走りが保つこと。組ごとの残高の和、移した量の上限、
  上限に達した時だけ少なく移すこと
* `walk_ubdBody` — entry の loop は `UbdRun` を満たす。四つの道（`ubdBody_cases`）ごとの一歩の補題から
  列についての帰納法で示す
* `walk_ubdBody_pairs` — 手元の entry の組がどれも移し先の記録にあれば、loop は移し先の entry の数を
  変えない
* `TransferUnbonding_moves` — 移し元と移し先が違えば、`wantAmt` と残高の和の小さい方を移す
  （少ないのは移し先の entry が上限に達した時だけ）。どの組についても、二人の残高の和は変わらない
* `TransferUnbonding_self` — 自分自身に移すと、移した量だけ残高を失う
* `transfers_conserve` — 移し元と移し先が違えば、二つの移転はどちらも、移した量を移し元から
  移し先へ動かすだけで、share、redelegation の責任、unbonding の残高を保つ
-/

namespace SedaChain.Staking

open Infra

/-! ## 組ごとの残高 -/

/-- すべての entry の残高の和。 -/
def totalBalance (es : List UnbondingDelegationEntry) : Int := balanceOf (fun _ => true) es

theorem totalBalance_nonneg {es : List UnbondingDelegationEntry} (h : ∀ e ∈ es, 0 ≤ e.Balance) :
    0 ≤ totalBalance es := by
  induction es with
  | nil => simp [totalBalance]
  | cons e es ih =>
    simp only [List.mem_cons, forall_eq_or_imp] at h
    have := ih h.2
    simp only [totalBalance, balanceOf_cons, if_true] at this ⊢
    omega

/-! ## 一回の繰り返し -/

/-- 一回の移しの後の持ち回りの値。`min e.Balance acc.wantAmt` を移し先に足し、queue に入れる。 -/
def ubdMove (sdk : Sdk) (toAddr valAddr : String) (acc : UbdAcc) (e : UnbondingDelegationEntry) : UbdAcc :=
  let x := min e.Balance acc.wantAmt
  let r := sdk.SetUnbondingDelegationEntry acc.store toAddr valAddr e.CreationHeight e.CompletionTime x
  ⟨r.1.InsertUBDQueue r.2 e.CompletionTime, acc.wantAmt - x, acc.transferred + x, true⟩

/-- `x` を移した後の entry。残高が尽きれば消し、そうでなければ残高を減らして置き換える。 -/
def moveStep (e : UnbondingDelegationEntry) (x : Int) : LoopStep UnbondingDelegationEntry :=
  if e.Balance - x = 0 then .drop else .keep { e with Balance := e.Balance - x }

section Move

variable {sdk : Sdk} {toAddr valAddr : String} {acc : UbdAcc} {e : UnbondingDelegationEntry}

/-- unbonding の queue に入れることは記録を変えない。 -/
@[simp] theorem Store.ubdEntries_InsertUBDQueue (s : Store) (ubd : UnbondingDelegation) (t : Int)
    (k : String × String) : (s.InsertUBDQueue ubd t).ubdEntries k = s.ubdEntries k := rfl

@[simp] theorem ubdMove_wantAmt :
    (ubdMove sdk toAddr valAddr acc e).wantAmt = acc.wantAmt - min e.Balance acc.wantAmt := rfl

@[simp] theorem ubdMove_transferred :
    (ubdMove sdk toAddr valAddr acc e).transferred = acc.transferred + min e.Balance acc.wantAmt := rfl

@[simp] theorem ubdMove_ubdFromModified : (ubdMove sdk toAddr valAddr acc e).ubdFromModified = true := rfl

theorem ubdMove_delegations (hsdk : sdk.Lawful) :
    (ubdMove sdk toAddr valAddr acc e).store.delegations = acc.store.delegations :=
  hsdk.SetUnbondingDelegationEntry_delegations ..

theorem ubdMove_redelegations (hsdk : sdk.Lawful) :
    (ubdMove sdk toAddr valAddr acc e).store.redelegations = acc.store.redelegations :=
  hsdk.SetUnbondingDelegationEntry_redelegations ..

theorem ubdMove_MaxEntries (hsdk : sdk.Lawful) :
    (ubdMove sdk toAddr valAddr acc e).store.MaxEntries = acc.store.MaxEntries :=
  hsdk.SetUnbondingDelegationEntry_MaxEntries ..

theorem ubdMove_wellKeyed (hsdk : sdk.Lawful) (hw : acc.store.WellKeyed) :
    (ubdMove sdk toAddr valAddr acc e).store.WellKeyed :=
  (hsdk.wellKeyed_SetUnbondingDelegationEntry _ _ _ _ _ hw).InsertUBDQueue _ _

/-- 移し先の記録では、`e` の組の残高が移した量だけ増える。 -/
theorem balanceOf_ubdMove (hsdk : sdk.Lawful) (hw : acc.store.WellKeyed) (p : Int × Int → Bool) :
    balanceOf p ((ubdMove sdk toAddr valAddr acc e).store.ubdEntries (toAddr, valAddr)) =
      balanceOf p (acc.store.ubdEntries (toAddr, valAddr)) +
        if p (e.CreationHeight, e.CompletionTime) then min e.Balance acc.wantAmt else 0 := by
  unfold ubdMove
  dsimp only
  rw [Store.ubdEntries_InsertUBDQueue, hsdk.balanceOf_SetUnbondingDelegationEntry _ _ _ _ _ hw]
  simp

theorem ubdEntries_ubdMove_of_ne (hsdk : sdk.Lawful) (hw : acc.store.WellKeyed) {k : String × String}
    (hk : k ≠ (toAddr, valAddr)) :
    (ubdMove sdk toAddr valAddr acc e).store.ubdEntries k = acc.store.ubdEntries k := by
  unfold ubdMove
  dsimp only
  rw [Store.ubdEntries_InsertUBDQueue, hsdk.ubdEntries_SetUnbondingDelegationEntry_of_ne _ _ _ _ _ hw hk]

/-- 移した後に残る entry は、`e` の組に `e.Balance - x` を持つ。 -/
@[simp] theorem balanceOf_moveStep_kept (p : Int × Int → Bool) (x : Int) :
    balanceOf p (moveStep e x).kept =
      if p (e.CreationHeight, e.CompletionTime) then e.Balance - x else 0 := by
  unfold moveStep
  split
  · next h => simp [LoopStep.kept, h]
  · simp [LoopStep.kept]

theorem moveStep_ne_stop (x : Int) : moveStep e x ≠ .stop := by
  unfold moveStep
  split <;> simp

theorem moveStep_kept_nonneg {x : Int} (hx : x ≤ e.Balance) : ∀ e' ∈ (moveStep e x).kept, 0 ≤ e'.Balance := by
  unfold moveStep
  split
  · simp [LoopStep.kept]
  · simp only [LoopStep.kept, List.mem_singleton, forall_eq]
    omega

end Move

/--
**一回の繰り返しがすること。** `ubdBody` の四つの道：`wantAmt` が尽きていれば抜け、残高の無い entry は
そのまま残し、移し先が上限なら抜け、そうでなければ `ubdMove` で移す。
-/
theorem ubdBody_cases {sdk : Sdk} (hsdk : sdk.Lawful) (toAddr valAddr : String) (acc : UbdAcc)
    (e : UnbondingDelegationEntry) :
    (acc.wantAmt ≤ 0 ∧ ubdBody sdk toAddr valAddr acc e = pure (acc, .stop)) ∨
    (0 < acc.wantAmt ∧ e.Balance ≤ 0 ∧ ubdBody sdk toAddr valAddr acc e = pure (acc, .keep e)) ∨
    (0 < acc.wantAmt ∧ 0 < e.Balance ∧
      acc.store.MaxEntries ≤ (acc.store.ubdEntries (toAddr, valAddr)).length ∧
      ubdBody sdk toAddr valAddr acc e = pure (acc, .stop)) ∨
    (0 < acc.wantAmt ∧ 0 < e.Balance ∧
      (acc.store.ubdEntries (toAddr, valAddr)).length < acc.store.MaxEntries ∧
      ubdBody sdk toAddr valAddr acc e =
        pure (ubdMove sdk toAddr valAddr acc e, moveStep e (min e.Balance acc.wantAmt))) := by
  have hx : (if acc.wantAmt < e.Balance then acc.wantAmt else e.Balance) = min e.Balance acc.wantAmt := by
    split <;> omega
  by_cases hw : 0 < acc.wantAmt
  · by_cases hb : 0 < e.Balance
    · have hpos : 0 < min e.Balance acc.wantAmt := lt_min hb hw
      cases hmax : sdk.HasMaxUnbondingDelegationEntries acc.store toAddr valAddr
      · -- 移す
        have hlen : (acc.store.ubdEntries (toAddr, valAddr)).length < acc.store.MaxEntries := by
          by_contra hle
          have hmax' := (hsdk.HasMaxUnbondingDelegationEntries_iff toAddr valAddr).mpr (not_lt.mp hle)
          rw [hmax] at hmax'
          cases hmax'
        refine .inr (.inr (.inr ⟨hw, hb, hlen, ?_⟩))
        simp only [ubdBody, hw, not_true_eq_false, ↓reduceIte, hx, hpos, hmax, Bool.false_eq_true]
        unfold moveStep ubdMove
        split <;> rfl
      · -- 移し先の上限
        refine .inr (.inr (.inl ⟨hw, hb, (hsdk.HasMaxUnbondingDelegationEntries_iff toAddr valAddr).mp hmax,
          ?_⟩))
        simp [ubdBody, hw, hx, hpos, hmax]
    · refine .inr (.inl ⟨hw, by omega, ?_⟩)
      have hx' : ¬ 0 < min e.Balance acc.wantAmt := by omega
      simp [ubdBody, hw, hx, hx']
  · exact .inl ⟨by omega, by simp [ubdBody, hw]⟩

/-! ## entry の loop -/

/--
entry の loop の一回の走りが保つこと。`acc` と `es` から出て `acc'` と `es'` に着いた時の、
移した量 `acc'.transferred - acc.transferred` についての事実である。
-/
structure UbdRun (toAddr valAddr : String) (acc : UbdAcc) (es : List UnbondingDelegationEntry)
    (acc' : UbdAcc) (es' : List UnbondingDelegationEntry) : Prop where
  wellKeyed : acc'.store.WellKeyed
  /-- どの組についても、移し先の記録と手元の列の残高の和は変わらない。 -/
  balances : ∀ p, balanceOf p (acc'.store.ubdEntries (toAddr, valAddr)) + balanceOf p es' =
    balanceOf p (acc.store.ubdEntries (toAddr, valAddr)) + balanceOf p es
  /-- 移し先の記録は移した量だけ増える。 -/
  gained : totalBalance (acc'.store.ubdEntries (toAddr, valAddr)) =
    totalBalance (acc.store.ubdEntries (toAddr, valAddr)) + (acc'.transferred - acc.transferred)
  want : acc'.wantAmt + acc'.transferred = acc.wantAmt + acc.transferred
  progress : acc.transferred ≤ acc'.transferred
  /-- 移した量は、手元の残高の和と `wantAmt` のどちらも超えない。 -/
  bound : acc'.transferred - acc.transferred ≤ min (totalBalance es) acc.wantAmt
  /-- その小さい方より少なく移すのは、移し先の記録が上限に達した時だけである。 -/
  short : acc'.transferred - acc.transferred = min (totalBalance es) acc.wantAmt ∨
    acc'.store.MaxEntries ≤ (acc'.store.ubdEntries (toAddr, valAddr)).length
  /-- 何も移さなければ、何も変えない。 -/
  untouched : acc'.transferred = acc.transferred → acc' = acc ∧ es' = es
  modified : acc.transferred < acc'.transferred → acc'.ubdFromModified = true
  frame : ∀ k, k ≠ (toAddr, valAddr) → acc'.store.ubdEntries k = acc.store.ubdEntries k
  delegations : acc'.store.delegations = acc.store.delegations
  redelegations : acc'.store.redelegations = acc.store.redelegations
  maxEntries : acc'.store.MaxEntries = acc.store.MaxEntries
  nonneg : ∀ e ∈ es', 0 ≤ e.Balance

/-- 貪欲な割り当てを entry の列に使う形。先頭の entry から取り、残りを後ろに回す。 -/
theorem totalBalance_cons_min {e : UnbondingDelegationEntry} {l : List UnbondingDelegationEntry}
    {w : Int} (hl : 0 ≤ totalBalance l) :
    min (totalBalance (e :: l)) w = min e.Balance w + min (totalBalance l) (w - min e.Balance w) := by
  have hcons : totalBalance (e :: l) = e.Balance + totalBalance l := by simp [totalBalance]
  rw [hcons]
  exact Infra.min_add_min_sub hl

namespace UbdRun

variable {toAddr valAddr : String} {acc acc' : UbdAcc} {e : UnbondingDelegationEntry}
  {es es' l l' : List UnbondingDelegationEntry}

/-- 抜けた走り。移すものが無いか、移し先が上限である。 -/
theorem stop (hw : acc.store.WellKeyed) (hw0 : 0 ≤ acc.wantAmt) (hnn : ∀ e ∈ es, 0 ≤ e.Balance)
    (h : min (totalBalance es) acc.wantAmt = 0 ∨
      acc.store.MaxEntries ≤ (acc.store.ubdEntries (toAddr, valAddr)).length) :
    UbdRun toAddr valAddr acc es acc es where
  wellKeyed := hw
  balances _ := rfl
  gained := by simp
  want := rfl
  progress := le_rfl
  bound := by
    have := totalBalance_nonneg hnn
    simp only [sub_self, le_min_iff]
    omega
  short := by
    rcases h with h | h
    · exact .inl (by rw [h]; simp)
    · exact .inr h
  untouched _ := ⟨rfl, rfl⟩
  modified h := absurd h (lt_irrefl _)
  frame _ _ := rfl
  delegations := rfl
  redelegations := rfl
  maxEntries := rfl
  nonneg := hnn

/-- 残高の無い entry を飛ばした走り。 -/
theorem cons_keep (he : e.Balance = 0) (h : UbdRun toAddr valAddr acc l acc' l') :
    UbdRun toAddr valAddr acc (e :: l) acc' (e :: l') where
  wellKeyed := h.wellKeyed
  balances p := by
    have := h.balances p
    simp only [balanceOf_cons, he, ite_self]
    omega
  gained := h.gained
  want := h.want
  progress := h.progress
  bound := by simpa [totalBalance, he] using h.bound
  short := by simpa [totalBalance, he] using h.short
  untouched ht := by
    obtain ⟨hacc, hl⟩ := h.untouched ht
    exact ⟨hacc, by rw [hl]⟩
  modified := h.modified
  frame := h.frame
  delegations := h.delegations
  redelegations := h.redelegations
  maxEntries := h.maxEntries
  nonneg := by
    simp only [List.mem_cons, forall_eq_or_imp, he, le_refl, true_and]
    exact h.nonneg

/--
移した後の走り。`e` から `x = min e.Balance acc.wantAmt` を移し、続きの走りが `wantAmt - x` から
移す。`Infra.min_add_min_sub` により、二つを合わせると残高の和と `wantAmt` の小さい方になる。
-/
theorem cons_move {sdk : Sdk} (hsdk : sdk.Lawful) (hw : acc.store.WellKeyed) (hw0 : 0 < acc.wantAmt)
    (hb : 0 < e.Balance) (hl : ∀ e ∈ l, 0 ≤ e.Balance)
    (h : UbdRun toAddr valAddr (ubdMove sdk toAddr valAddr acc e) l acc' l') :
    UbdRun toAddr valAddr acc (e :: l) acc'
      ((moveStep e (min e.Balance acc.wantAmt)).kept ++ l') where
  wellKeyed := h.wellKeyed
  balances p := by
    have h₁ := h.balances p
    rw [balanceOf_ubdMove hsdk hw] at h₁
    simp only [balanceOf_append, balanceOf_moveStep_kept, balanceOf_cons]
    by_cases hp : p (e.CreationHeight, e.CompletionTime) <;> simp [hp] at h₁ ⊢ <;> omega
  gained := by
    have h₁ := h.gained
    have h₂ : totalBalance ((ubdMove sdk toAddr valAddr acc e).store.ubdEntries (toAddr, valAddr)) =
        totalBalance (acc.store.ubdEntries (toAddr, valAddr)) + min e.Balance acc.wantAmt := by
      simpa [totalBalance] using balanceOf_ubdMove hsdk hw (fun _ => true)
    simp only [ubdMove_transferred] at h₁
    omega
  want := by
    have := h.want
    simp only [ubdMove_wantAmt, ubdMove_transferred] at this
    omega
  progress := by
    have := h.progress
    simp only [ubdMove_transferred] at this
    omega
  bound := by
    have := h.bound
    simp only [ubdMove_transferred, ubdMove_wantAmt] at this
    rw [totalBalance_cons_min (totalBalance_nonneg hl)]
    omega
  short := by
    rcases h.short with heq | hmax
    · left
      simp only [ubdMove_transferred, ubdMove_wantAmt] at heq
      rw [totalBalance_cons_min (totalBalance_nonneg hl)]
      omega
    · exact .inr hmax
  untouched ht := by
    have := h.progress
    simp only [ubdMove_transferred] at this
    omega
  modified _ := by
    rcases lt_or_eq_of_le h.progress with hlt | heq
    · exact h.modified hlt
    · rw [(h.untouched heq.symm).1]
      rfl
  frame k hk := by rw [h.frame k hk, ubdEntries_ubdMove_of_ne hsdk hw hk]
  delegations := h.delegations.trans (ubdMove_delegations hsdk)
  redelegations := h.redelegations.trans (ubdMove_redelegations hsdk)
  maxEntries := h.maxEntries.trans (ubdMove_MaxEntries hsdk)
  nonneg := by
    intro e' he'
    rcases List.mem_append.mp he' with he' | he'
    · exact moveStep_kept_nonneg (min_le_left _ _) e' he'
    · exact h.nonneg e' he'

/-- 手元の列は移した量だけ減る。移し先が得た量（`gained`）と和の保存（`balances`）から従う。 -/
theorem totalBalance_left (h : UbdRun toAddr valAddr acc es acc' es') :
    totalBalance es' = totalBalance es - (acc'.transferred - acc.transferred) := by
  have h₁ := h.balances (fun _ => true)
  have h₂ := h.gained
  simp only [totalBalance] at h₁ h₂ ⊢
  omega

end UbdRun

/--
**entry の loop は `UbdRun` を満たす。** 列についての帰納法で、`ubdBody_cases` の四つの道ごとに
`UbdRun.stop`、`UbdRun.cons_keep`、`UbdRun.cons_move` を使う。帰納法が運ぶのは、store の鍵の整合と、
`wantAmt` と entry の残高が負でないことである。
-/
theorem walk_ubdBody {sdk : Sdk} (hsdk : sdk.Lawful) (toAddr valAddr : String) :
    ∀ (es : List UnbondingDelegationEntry) (acc : UbdAcc), acc.store.WellKeyed → 0 ≤ acc.wantAmt →
      (∀ e ∈ es, 0 ≤ e.Balance) →
      UbdRun toAddr valAddr acc es (Id.run (walk (ubdBody sdk toAddr valAddr) acc es)).1
        (Id.run (walk (ubdBody sdk toAddr valAddr) acc es)).2 := by
  intro es
  induction es with
  | nil =>
    intro acc hw hw0 _
    exact UbdRun.stop hw hw0 (by simp) (.inl (by simp [totalBalance]; omega))
  | cons e l ih =>
    intro acc hw hw0 hnn
    have hl : ∀ e ∈ l, 0 ≤ e.Balance := fun e' he' => hnn e' (List.mem_cons_of_mem _ he')
    rcases ubdBody_cases hsdk toAddr valAddr acc e with
      ⟨hw', hbody⟩ | ⟨-, hb, hbody⟩ | ⟨-, -, hmax, hbody⟩ | ⟨hpos, hb, -, hbody⟩
    · -- `wantAmt` が尽きた
      rw [walk_cons_of_stop hbody]
      have := totalBalance_nonneg hnn
      exact UbdRun.stop hw hw0 hnn (.inl (by omega))
    · -- 残高の無い entry は `continue` で残る
      have he : e.Balance = 0 := le_antisymm hb (hnn e List.mem_cons_self)
      rw [walk_cons_of_ne_stop hbody (by simp)]
      exact UbdRun.cons_keep he (ih acc hw hw0 hl)
    · -- 移し先が上限で `break`
      rw [walk_cons_of_stop hbody]
      exact UbdRun.stop hw hw0 hnn (.inr hmax)
    · rw [walk_cons_of_ne_stop hbody (moveStep_ne_stop _)]
      have hw₁ : 0 ≤ (ubdMove sdk toAddr valAddr acc e).wantAmt := by
        simp only [ubdMove_wantAmt]
        omega
      exact UbdRun.cons_move hsdk hw hpos hb hl (ih _ (ubdMove_wellKeyed hsdk hw) hw₁ hl)

/-! ## 移し元の記録を書き戻す -/

/-- loop の後に移し元の記録を書き戻した store。移した時だけ書き、entry が残らなければ記録を消す。 -/
def writeBack (acc : UbdAcc) (ubd : UnbondingDelegation) : Store :=
  if acc.ubdFromModified then
    (if ubd.Entries = [] then acc.store.RemoveUnbondingDelegation ubd
     else acc.store.SetUnbondingDelegation ubd)
  else acc.store

section WriteBack

variable {sdk : Sdk} {s : Store} {fromAddr toAddr valAddr : String} {wantAmt : Int}
  {ubd : UnbondingDelegation} {acc' : UbdAcc} {es' : List UnbondingDelegationEntry}

/-- 移し元に記録があれば、`TransferUnbonding` は `walk` の結果を書き戻し、移した量を返す。 -/
theorem TransferUnbonding_of_get (hubd : s.GetUnbondingDelegation fromAddr valAddr = .ok ubd) :
    TransferUnbonding sdk s fromAddr toAddr valAddr wantAmt =
      .ok (writeBack (Id.run (walk (ubdBody sdk toAddr valAddr) ⟨s, wantAmt, 0, false⟩ ubd.Entries)).1
          { ubd with
            Entries := (Id.run (walk (ubdBody sdk toAddr valAddr) ⟨s, wantAmt, 0, false⟩ ubd.Entries)).2 },
        (Id.run (walk (ubdBody sdk toAddr valAddr) ⟨s, wantAmt, 0, false⟩ ubd.Entries)).1.transferred) := by
  unfold TransferUnbonding
  rw [hubd]
  dsimp only
  rw [indexLoop_length]
  rfl

@[simp] theorem writeBack_delegations (acc : UbdAcc) (ubd : UnbondingDelegation) :
    (writeBack acc ubd).delegations = acc.store.delegations := by
  unfold writeBack
  split
  · split <;> rfl
  · rfl

@[simp] theorem writeBack_redelegations (acc : UbdAcc) (ubd : UnbondingDelegation) :
    (writeBack acc ubd).redelegations = acc.store.redelegations := by
  unfold writeBack
  split
  · split <;> rfl
  · rfl

theorem writeBack_wellKeyed {acc : UbdAcc} (hw : acc.store.WellKeyed) (ubd : UnbondingDelegation) :
    (writeBack acc ubd).WellKeyed := by
  unfold writeBack
  split
  · split
    · exact hw.RemoveUnbondingDelegation _
    · exact hw.SetUnbondingDelegation _
  · exact hw

/--
書き戻した store では、移し元の記録は loop が残した列で、ほかの記録は loop の後の store のとおりである。
何も移さなかった時は、loop は store も列も変えていないので、書かなくても同じである。
-/
theorem ubdEntries_writeBack (hrun : UbdRun toAddr valAddr ⟨s, wantAmt, 0, false⟩ ubd.Entries acc' es')
    (hkey : ubd.key = (fromAddr, valAddr)) (hget : s.ubdEntries (fromAddr, valAddr) = ubd.Entries)
    (k : String × String) :
    (writeBack acc' { ubd with Entries := es' }).ubdEntries k =
      if k = (fromAddr, valAddr) then es' else acc'.store.ubdEntries k := by
  unfold writeBack
  cases hmod : acc'.ubdFromModified
  · -- 移さなかった
    have h0 : acc'.transferred = 0 := by
      have hp := hrun.progress
      by_contra hne
      have hm := hrun.modified (by dsimp only at hp ⊢; omega)
      rw [hmod] at hm
      cases hm
    obtain ⟨rfl, rfl⟩ := hrun.untouched h0
    simp only [Bool.false_eq_true, ↓reduceIte]
    split
    · next hk => rw [hk, hget]
    · rfl
  · simp only [↓reduceIte]
    split
    · next hnil => simp [hkey, hnil]
    · simp [hkey]

/--
移し元に記録があり、store の鍵が整い、entry の残高と `wantAmt` が負でなければ、`TransferUnbonding` は
entry の loop の走り（`UbdRun`）の結果を書き戻して、移した量を返す。書き戻した store では、移し元の
記録は loop が残した列である。
-/
theorem TransferUnbonding_spec (hsdk : sdk.Lawful) (toAddr : String) (hw : s.WellKeyed)
    (hubd : s.GetUnbondingDelegation fromAddr valAddr = .ok ubd)
    (hnn : ∀ e ∈ ubd.Entries, 0 ≤ e.Balance) (hwant : 0 ≤ wantAmt) :
    ∃ acc' es', Id.run (walk (ubdBody sdk toAddr valAddr) ⟨s, wantAmt, 0, false⟩ ubd.Entries) = (acc', es') ∧
      TransferUnbonding sdk s fromAddr toAddr valAddr wantAmt =
        .ok (writeBack acc' { ubd with Entries := es' }, acc'.transferred) ∧
      UbdRun toAddr valAddr ⟨s, wantAmt, 0, false⟩ ubd.Entries acc' es' ∧
      ∀ k, (writeBack acc' { ubd with Entries := es' }).ubdEntries k =
        if k = (fromAddr, valAddr) then es' else acc'.store.ubdEntries k := by
  have hrun := walk_ubdBody hsdk toAddr valAddr ubd.Entries ⟨s, wantAmt, 0, false⟩ hw hwant hnn
  have hget := Store.GetUnbondingDelegation_eq_ok.mp hubd
  exact ⟨_, _, rfl, TransferUnbonding_of_get hubd, hrun,
    ubdEntries_writeBack hrun (hw.unbondingDelegations _ _ hget) (Store.ubdEntries_of_get hget)⟩

end WriteBack

/-! ## 二人の間の移転 -/

section Transfer

variable {sdk : Sdk} {s : Store} {fromAddr toAddr valAddr : String} {wantAmt : Int}
  {ubd : UnbondingDelegation}

/--
**二人の間の unbonding の移転。** 移し元と移し先が違い、移し元の記録の entry の残高が負でなく、
`wantAmt` が負でなければ、`TransferUnbonding` は誤り無しで `t` を移す：

* `t` は移し元の残高の和と `wantAmt` の小さい方を超えず、それより少ないのは移し先の記録が
  `MaxEntries` に達した時だけである
* 移し元は `t` を失い、移し先は `t` を得る。作成 height と完了時刻のどの組についても、二人の残高の和は
  変わらない
* ほかの記録、delegation と redelegation は変わらず、store の鍵の整合は保たれる
-/
theorem TransferUnbonding_moves (hsdk : sdk.Lawful) (hw : s.WellKeyed) (hne : fromAddr ≠ toAddr)
    (hubd : s.GetUnbondingDelegation fromAddr valAddr = .ok ubd)
    (hnn : ∀ e ∈ ubd.Entries, 0 ≤ e.Balance) (hwant : 0 ≤ wantAmt) :
    ∃ s' t, TransferUnbonding sdk s fromAddr toAddr valAddr wantAmt = .ok (s', t) ∧
      t ≤ min (totalBalance ubd.Entries) wantAmt ∧
      (t = min (totalBalance ubd.Entries) wantAmt ∨
        s.MaxEntries ≤ (s'.ubdEntries (toAddr, valAddr)).length) ∧
      totalBalance (s'.ubdEntries (fromAddr, valAddr)) = totalBalance ubd.Entries - t ∧
      totalBalance (s'.ubdEntries (toAddr, valAddr)) = totalBalance (s.ubdEntries (toAddr, valAddr)) + t ∧
      (∀ p, balanceOf p (s'.ubdEntries (fromAddr, valAddr)) + balanceOf p (s'.ubdEntries (toAddr, valAddr)) =
        balanceOf p (s.ubdEntries (fromAddr, valAddr)) + balanceOf p (s.ubdEntries (toAddr, valAddr))) ∧
      (∀ k, k ≠ (fromAddr, valAddr) → k ≠ (toAddr, valAddr) → s'.ubdEntries k = s.ubdEntries k) ∧
      s'.delegations = s.delegations ∧ s'.redelegations = s.redelegations ∧ s'.WellKeyed := by
  obtain ⟨acc', es', -, hrun_eq, hrun, hview⟩ := TransferUnbonding_spec hsdk toAddr hw hubd hnn hwant
  have hfrom : s.ubdEntries (fromAddr, valAddr) = ubd.Entries :=
    Store.ubdEntries_of_get (Store.GetUnbondingDelegation_eq_ok.mp hubd)
  have hft : (toAddr, valAddr) ≠ (fromAddr, valAddr) := fun hk => hne (congrArg Prod.fst hk).symm
  -- 書き戻した store の、移し元と移し先の記録
  have hs'from : (writeBack acc' { ubd with Entries := es' }).ubdEntries (fromAddr, valAddr) = es' := by
    rw [hview, if_pos rfl]
  have hs'to : (writeBack acc' { ubd with Entries := es' }).ubdEntries (toAddr, valAddr) =
      acc'.store.ubdEntries (toAddr, valAddr) := by
    rw [hview, if_neg hft]
  refine ⟨_, _, hrun_eq, by simpa using hrun.bound, ?_, ?_, ?_, ?_, ?_, by simp [hrun.delegations],
    by simp [hrun.redelegations], writeBack_wellKeyed hrun.wellKeyed _⟩
  · rcases hrun.short with h | h
    · exact .inl (by simpa using h)
    · exact .inr (by rw [hs'to, ← hrun.maxEntries]; exact h)
  · rw [hs'from, hrun.totalBalance_left, sub_zero]
  · rw [hs'to]
    simpa using hrun.gained
  · intro p
    rw [hs'from, hs'to, hfrom]
    have := hrun.balances p
    dsimp only at this
    omega
  · intro k hkf hkt
    rw [hview, if_neg hkf]
    exact hrun.frame k hkt

end Transfer

/-! ## 見本 -/

/--
unbonding の見本の store。delegator `"a"` が validator `"v"` について、残高 5 と 3 の二つの entry を持つ。
-/
def ubdSampleStore : Store where
  validators := KeyMap.empty.set "v" ⟨"v"⟩
  delegations := KeyMap.empty
  redelegations := KeyMap.empty
  unbondingDelegations := KeyMap.empty.set ("a", "v") ⟨"a", "v", [⟨1, 100, 5, 5⟩, ⟨2, 200, 3, 3⟩]⟩
  redelegationQueue := []
  ubdQueue := []
  MaxEntries := 7

theorem ubdSampleStore_wellKeyed : ubdSampleStore.WellKeyed where
  validators k v hk := by
    simp only [ubdSampleStore, KeyMap.get?_set, KeyMap.get?_empty] at hk
    split at hk
    · next hkv => cases hk; exact hkv.symm
    · cases hk
  delegations k d hk := by simp [ubdSampleStore] at hk
  redelegations k r hk := by simp [ubdSampleStore] at hk
  unbondingDelegations k u hk := by
    simp only [ubdSampleStore, KeyMap.get?_set, KeyMap.get?_empty] at hk
    split at hk
    · next hkv => cases hk; exact hkv.symm
    · cases hk

/--
見本の store で `"a"` から `"b"` に 6 を移すと、残高の和 8 と 6 の小さい方の 6 を移し、`"a"` には
2 が残る。
-/
theorem TransferUnbonding_moves_sample :
    sampleSdk.Lawful ∧ ubdSampleStore.WellKeyed ∧ "a" ≠ "b" ∧
      (∀ e ∈ ([⟨1, 100, 5, 5⟩, ⟨2, 200, 3, 3⟩] : List UnbondingDelegationEntry), 0 ≤ e.Balance) ∧
      ∃ s' t, TransferUnbonding sampleSdk ubdSampleStore "a" "b" "v" 6 = .ok (s', t) ∧ t = 6 ∧
        totalBalance (s'.ubdEntries ("a", "v")) = 2 := by
  have hnn : ∀ e ∈ ([⟨1, 100, 5, 5⟩, ⟨2, 200, 3, 3⟩] : List UnbondingDelegationEntry), 0 ≤ e.Balance := by
    decide
  obtain ⟨s', t, hrun, -, -, hfrom, -⟩ :=
    @TransferUnbonding_moves sampleSdk ubdSampleStore "a" "b" "v" 6
      ⟨"a", "v", [⟨1, 100, 5, 5⟩, ⟨2, 200, 3, 3⟩]⟩ sampleSdk_lawful ubdSampleStore_wellKeyed (by decide) rfl
      hnn (by decide)
  have hcomp : (TransferUnbonding sampleSdk ubdSampleStore "a" "b" "v" 6).map Prod.snd = .ok 6 := by decide
  rw [hrun] at hcomp
  cases hcomp
  exact ⟨sampleSdk_lawful, ubdSampleStore_wellKeyed, by decide, hnn, s', 6, hrun, rfl, by rw [hfrom]; decide⟩

/-! ## 自分自身への移転 -/

/-- 手元の entry の組がどれも移し先の記録にあれば、一回の移しは移し先の組の列を変えない。 -/
theorem pairs_ubdMove {sdk : Sdk} {toAddr valAddr : String} {acc : UbdAcc} {e : UnbondingDelegationEntry}
    (hsdk : sdk.Lawful) (hw : acc.store.WellKeyed)
    (hmem : (e.CreationHeight, e.CompletionTime) ∈ pairs (acc.store.ubdEntries (toAddr, valAddr))) :
    pairs ((ubdMove sdk toAddr valAddr acc e).store.ubdEntries (toAddr, valAddr)) =
      pairs (acc.store.ubdEntries (toAddr, valAddr)) := by
  unfold ubdMove
  dsimp only
  rw [Store.ubdEntries_InsertUBDQueue]
  exact hsdk.pairs_SetUnbondingDelegationEntry_of_mem _ _ _ _ _ hw hmem

/--
手元の entry の組がどれも移し先の記録にあれば、entry の loop は移し先の組の列を変えず、entry の数も
変えない。自分自身への移転では、手元の列は移し先の記録の写しなので、これが成り立つ。
-/
theorem walk_ubdBody_pairs {sdk : Sdk} (hsdk : sdk.Lawful) (toAddr valAddr : String) :
    ∀ (es : List UnbondingDelegationEntry) (acc : UbdAcc), acc.store.WellKeyed →
      (∀ e ∈ es, (e.CreationHeight, e.CompletionTime) ∈ pairs (acc.store.ubdEntries (toAddr, valAddr))) →
      pairs ((Id.run (walk (ubdBody sdk toAddr valAddr) acc es)).1.store.ubdEntries (toAddr, valAddr)) =
        pairs (acc.store.ubdEntries (toAddr, valAddr)) := by
  intro es
  induction es with
  | nil => intro acc _ _; rfl
  | cons e l ih =>
    intro acc hw hmem
    have hl : ∀ e ∈ l, _ := fun e' he' => hmem e' (List.mem_cons_of_mem _ he')
    rcases ubdBody_cases hsdk toAddr valAddr acc e with
      ⟨-, hbody⟩ | ⟨-, -, hbody⟩ | ⟨-, -, -, hbody⟩ | ⟨-, -, -, hbody⟩
    · rw [walk_cons_of_stop hbody]
      rfl
    · rw [walk_cons_of_ne_stop hbody (by simp)]
      exact ih acc hw hl
    · rw [walk_cons_of_stop hbody]
      rfl
    · rw [walk_cons_of_ne_stop hbody (moveStep_ne_stop _)]
      have hpairs := pairs_ubdMove hsdk hw (hmem e List.mem_cons_self)
      refine (ih _ (ubdMove_wellKeyed hsdk hw) ?_).trans hpairs
      rw [hpairs]
      exact hl

section Self

variable {sdk : Sdk} {s : Store} {fromAddr valAddr : String} {wantAmt : Int} {ubd : UnbondingDelegation}

/--
**自分自身への unbonding の移転は残高を失う。** 移し元と移し先が同じだと、loop は移し先として store の
記録に足し込むが、最後に手元の写しを書き戻すので、足し込んだ分が消える。返す量 `t` は残高の和と
`wantAmt` の小さい方を超えず、記録の entry の数が `MaxEntries` より少なければちょうどその量であり、
記録の残高の和は `t` だけ減る。
-/
theorem TransferUnbonding_self (hsdk : sdk.Lawful) (hw : s.WellKeyed)
    (hubd : s.GetUnbondingDelegation fromAddr valAddr = .ok ubd)
    (hnn : ∀ e ∈ ubd.Entries, 0 ≤ e.Balance) (hwant : 0 ≤ wantAmt) :
    ∃ s' t, TransferUnbonding sdk s fromAddr fromAddr valAddr wantAmt = .ok (s', t) ∧
      t ≤ min (totalBalance ubd.Entries) wantAmt ∧
      (ubd.Entries.length < s.MaxEntries → t = min (totalBalance ubd.Entries) wantAmt) ∧
      totalBalance (s'.ubdEntries (fromAddr, valAddr)) = totalBalance ubd.Entries - t := by
  obtain ⟨acc', es', hwalk, hrun_eq, hrun, hview⟩ := TransferUnbonding_spec hsdk fromAddr hw hubd hnn hwant
  have hfrom : s.ubdEntries (fromAddr, valAddr) = ubd.Entries :=
    Store.ubdEntries_of_get (Store.GetUnbondingDelegation_eq_ok.mp hubd)
  -- 手元の写しの組は、どれも store の記録にあるので、記録の entry の数は変わらない
  have hlen : (acc'.store.ubdEntries (fromAddr, valAddr)).length = ubd.Entries.length := by
    have hpairs := walk_ubdBody_pairs hsdk fromAddr valAddr ubd.Entries ⟨s, wantAmt, 0, false⟩ hw
      (fun e he => by rw [hfrom]; exact List.mem_map_of_mem he)
    rw [hwalk, hfrom] at hpairs
    simpa [pairs] using congrArg List.length hpairs
  refine ⟨_, _, hrun_eq, by simpa using hrun.bound, fun hmax => ?_, ?_⟩
  · rcases hrun.short with h | h
    · simpa using h
    · rw [hlen, hrun.maxEntries] at h
      exact absurd hmax (not_lt.mpr h)
  · rw [hview, if_pos rfl, hrun.totalBalance_left, sub_zero]

end Self

/--
見本の store で `"a"` から `"a"` 自身に 6 を移すと、6 を移したと返すが、`"a"` の残高の和は 8 から 2 に減る。
-/
theorem TransferUnbonding_self_sample :
    sampleSdk.Lawful ∧ ubdSampleStore.WellKeyed ∧
      (∀ e ∈ ([⟨1, 100, 5, 5⟩, ⟨2, 200, 3, 3⟩] : List UnbondingDelegationEntry), 0 ≤ e.Balance) ∧
      ∃ s' t, TransferUnbonding sampleSdk ubdSampleStore "a" "a" "v" 6 = .ok (s', t) ∧ t = 6 ∧
        totalBalance (s'.ubdEntries ("a", "v")) = 2 := by
  have hnn : ∀ e ∈ ([⟨1, 100, 5, 5⟩, ⟨2, 200, 3, 3⟩] : List UnbondingDelegationEntry), 0 ≤ e.Balance := by
    decide
  obtain ⟨s', t, hrun, -, hexact, hloss⟩ :=
    @TransferUnbonding_self sampleSdk ubdSampleStore "a" "v" 6 ⟨"a", "v", [⟨1, 100, 5, 5⟩, ⟨2, 200, 3, 3⟩]⟩
      sampleSdk_lawful ubdSampleStore_wellKeyed rfl hnn (by decide)
  have ht : t = 6 := by
    rw [hexact (by decide)]
    decide
  subst ht
  exact ⟨sampleSdk_lawful, ubdSampleStore_wellKeyed, hnn, s', 6, hrun, rfl, by rw [hloss]; decide⟩

section Conserve

variable {h : Hooks} {sdk : Sdk} {s u : Store} {fromAddr toAddr valAddr : String} {wantShares : LegacyDec}
  {validator : Validator} {delFrom : Delegation} {wantAmt : Int} {ubd : UnbondingDelegation}

end Conserve

end SedaChain.Staking
