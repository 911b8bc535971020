import SedaChain.Infra.Dec
import SedaChain.Infra.KeyMap

/-!
# staking の store と SDK の基本操作

`x/staking/keeper` の `TransferDelegation` と `TransferUnbonding` が読み書きする cosmos-sdk の
staking の状態と、その基本操作を SDK の定義どおりに置く。

* delegation は（delegator、validator）で、redelegation は（delegator、移し元、移し先）で、
  unbonding delegation は（delegator、validator）で引く collection である
* entry を足す `SetRedelegationEntry` と `SetUnbondingDelegationEntry`、上限の判定
  `HasMaxUnbondingDelegationEntries` は SDK の keeper の中にあるので、`Sdk` の関数として受け、
  二つの移転が頼る約束を `Sdk.Lawful` に書く
* staking の hook は、その時の store を読んで失敗しうる外の関数である
* `sampleSdk` は cosmos-sdk の定義に倣って約束を満たす `Sdk` で、witness にだけ使う

address は bech32 の文字列のまま扱い、時刻は Unix 時刻の整数とする。unbonding の ID、
`AfterUnbondingInitiated` の hook（誤りは log に残すだけ）、collection の符号化の誤りは扱わない。
-/

namespace SedaChain.Staking

open Infra Infra.Go

/-! ## 状態 -/

/-- `Validator`。ここで読むのは operator の address だけである。 -/
structure Validator where
  OperatorAddress : String
deriving DecidableEq, Repr

/-- `Delegation`。 -/
structure Delegation where
  DelegatorAddress : String
  ValidatorAddress : String
  Shares : LegacyDec
deriving DecidableEq, Repr

/-- `RedelegationEntry`。 -/
structure RedelegationEntry where
  CreationHeight : Int
  CompletionTime : Int
  InitialBalance : Int
  SharesDst : LegacyDec
deriving DecidableEq, Repr

/-- `Redelegation`。 -/
structure Redelegation where
  DelegatorAddress : String
  ValidatorSrcAddress : String
  ValidatorDstAddress : String
  Entries : List RedelegationEntry
deriving DecidableEq, Repr

/-- `UnbondingDelegationEntry`。 -/
structure UnbondingDelegationEntry where
  CreationHeight : Int
  CompletionTime : Int
  InitialBalance : Int
  Balance : Int
deriving DecidableEq, Repr

/-- `UnbondingDelegation`。 -/
structure UnbondingDelegation where
  DelegatorAddress : String
  ValidatorAddress : String
  Entries : List UnbondingDelegationEntry
deriving DecidableEq, Repr

/-- staking の store。二つの queue は、完了時刻と鍵の組を足した順に持つ。 -/
structure Store where
  validators : KeyMap String Validator
  delegations : KeyMap (String × String) Delegation
  redelegations : KeyMap (String × String × String) Redelegation
  unbondingDelegations : KeyMap (String × String) UnbondingDelegation
  redelegationQueue : List (Int × (String × String × String))
  ubdQueue : List (Int × (String × String))
  MaxEntries : Nat
deriving DecidableEq

/-- staking の hook。その時の store を読んで失敗しうる。 -/
structure Hooks where
  BeforeDelegationCreated : Store → String → String → Except String Unit
  BeforeDelegationSharesModified : Store → String → String → Except String Unit
  AfterDelegationModified : Store → String → String → Except String Unit
  BeforeDelegationRemoved : Store → String → String → Except String Unit

/-- SDK の staking keeper の、entry を足す操作と entry の上限の判定。 -/
structure Sdk where
  /-- `SetRedelegationEntry`。書いた後の store と、書いた記録を返す。 -/
  SetRedelegationEntry : Store → (delAddr valSrcAddr valDstAddr : String) →
    (creationHeight minTime balance : Int) → (sharesSrc sharesDst : LegacyDec) → Store × Redelegation
  /-- `SetUnbondingDelegationEntry`。書いた後の store と、書いた記録を返す。 -/
  SetUnbondingDelegationEntry : Store → (delAddr valAddr : String) →
    (creationHeight minTime balance : Int) → Store × UnbondingDelegation
  /-- `HasMaxUnbondingDelegationEntries`。 -/
  HasMaxUnbondingDelegationEntries : Store → (delAddr valAddr : String) → Bool

/-- delegation の collection の鍵。記録は自分の address の組の下に書かれる。 -/
def Delegation.key (d : Delegation) : String × String := (d.DelegatorAddress, d.ValidatorAddress)

/-- redelegation の collection の鍵。 -/
def Redelegation.key (red : Redelegation) : String × String × String :=
  (red.DelegatorAddress, red.ValidatorSrcAddress, red.ValidatorDstAddress)

/-- unbonding delegation の collection の鍵。 -/
def UnbondingDelegation.key (ubd : UnbondingDelegation) : String × String :=
  (ubd.DelegatorAddress, ubd.ValidatorAddress)

/-- share を書き換えても鍵は変わらない。 -/
@[simp] theorem Delegation.key_shares (d : Delegation) (x : LegacyDec) :
    ({ d with Shares := x } : Delegation).key = d.key := rfl

/-- entry を書き換えても鍵は変わらない。 -/
@[simp] theorem Redelegation.key_entries (red : Redelegation) (es : List RedelegationEntry) :
    ({ red with Entries := es } : Redelegation).key = red.key := rfl

/-- entry を書き換えても鍵は変わらない。 -/
@[simp] theorem UnbondingDelegation.key_entries (ubd : UnbondingDelegation)
    (es : List UnbondingDelegationEntry) :
    ({ ubd with Entries := es } : UnbondingDelegation).key = ubd.key := rfl

/-! ## 誤り -/

def ErrNoValidatorFound : String := "validator does not exist"
def ErrNoDelegation : String := "no delegation for (address, validator) tuple"
def ErrNoRedelegation : String := "no redelegation found"
def ErrNoUnbondingDelegation : String := "no unbonding delegation found"

/-! ## 基本操作 -/

namespace Store

variable (s : Store)

def GetValidator (valAddr : String) : Except String Validator :=
  match s.validators.get? valAddr with
  | some v => .ok v
  | none => .error ErrNoValidatorFound

def GetDelegation (delAddr valAddr : String) : Except String Delegation :=
  match s.delegations.get? (delAddr, valAddr) with
  | some d => .ok d
  | none => .error ErrNoDelegation

def SetDelegation (d : Delegation) : Store :=
  { s with delegations := s.delegations.set d.key d }

def RemoveDelegation (d : Delegation) : Store :=
  { s with delegations := s.delegations.erase d.key }

def GetRedelegation (delAddr valSrcAddr valDstAddr : String) : Except String Redelegation :=
  match s.redelegations.get? (delAddr, valSrcAddr, valDstAddr) with
  | some r => .ok r
  | none => .error ErrNoRedelegation

/-- delegator の redelegation の記録を store の順に並べる（`IterateDelegatorRedelegations`）。 -/
def delegatorRedelegations (delAddr : String) : List Redelegation :=
  (s.redelegations.entries.filter fun e => e.1.1 = delAddr).map Prod.snd

/-- `GetRedelegations`。delegator の記録を store の順に高々 `maxRetrieve` 個。 -/
def GetRedelegations (delAddr : String) (maxRetrieve : Nat) : List Redelegation :=
  (s.delegatorRedelegations delAddr).take maxRetrieve

def SetRedelegation (red : Redelegation) : Store :=
  { s with redelegations := s.redelegations.set red.key red }

def RemoveRedelegation (red : Redelegation) : Store :=
  { s with redelegations := s.redelegations.erase red.key }

def InsertRedelegationQueue (red : Redelegation) (completionTime : Int) : Store :=
  { s with redelegationQueue := s.redelegationQueue ++ [(completionTime, red.key)] }

def GetUnbondingDelegation (delAddr valAddr : String) : Except String UnbondingDelegation :=
  match s.unbondingDelegations.get? (delAddr, valAddr) with
  | some u => .ok u
  | none => .error ErrNoUnbondingDelegation

def SetUnbondingDelegation (ubd : UnbondingDelegation) : Store :=
  { s with unbondingDelegations := s.unbondingDelegations.set ubd.key ubd }

def RemoveUnbondingDelegation (ubd : UnbondingDelegation) : Store :=
  { s with unbondingDelegations := s.unbondingDelegations.erase ubd.key }

def InsertUBDQueue (ubd : UnbondingDelegation) (completionTime : Int) : Store :=
  { s with ubdQueue := s.ubdQueue ++ [(completionTime, ubd.key)] }

end Store

/-! ## 記録の見え方

証明は store を、鍵ごとの share と entry の列として読む。記録が無い鍵は 0 の share と空の列である。
-/

namespace Store

/-- delegation の share。記録が無ければ 0 である。 -/
def sharesOf (s : Store) (k : String × String) : LegacyDec :=
  match s.delegations.get? k with
  | some d => d.Shares
  | none => LegacyDec.LegacyZeroDec

/-- redelegation の記録の entry。記録が無ければ空である。 -/
def redEntries (s : Store) (k : String × String × String) : List RedelegationEntry :=
  match s.redelegations.get? k with
  | some red => red.Entries
  | none => []

/-- unbonding delegation の記録の entry。記録が無ければ空である。 -/
def ubdEntries (s : Store) (k : String × String) : List UnbondingDelegationEntry :=
  match s.unbondingDelegations.get? k with
  | some ubd => ubd.Entries
  | none => []

/--
どの記録も自分の address の組の下にある。SDK の collection は記録から鍵を作って書くので、
書き込みはこれを保つ（`WellKeyed.SetDelegation` など）。
-/
structure WellKeyed (s : Store) : Prop where
  validators : ∀ k v, s.validators.get? k = some v → v.OperatorAddress = k
  delegations : ∀ k d, s.delegations.get? k = some d → d.key = k
  redelegations : ∀ k red, s.redelegations.get? k = some red → red.key = k
  unbondingDelegations : ∀ k ubd, s.unbondingDelegations.get? k = some ubd → ubd.key = k

variable {s : Store}

/-! ### 書き込みが変えない欄 -/

section Fields

variable (s : Store) (d : Delegation) (red : Redelegation) (ubd : UnbondingDelegation) (t : Int)

@[simp] theorem SetDelegation_validators : (s.SetDelegation d).validators = s.validators := rfl
@[simp] theorem SetDelegation_redelegations : (s.SetDelegation d).redelegations = s.redelegations := rfl
@[simp] theorem SetDelegation_unbondingDelegations :
    (s.SetDelegation d).unbondingDelegations = s.unbondingDelegations := rfl
@[simp] theorem RemoveDelegation_validators : (s.RemoveDelegation d).validators = s.validators := rfl
@[simp] theorem RemoveDelegation_redelegations :
    (s.RemoveDelegation d).redelegations = s.redelegations := rfl
@[simp] theorem RemoveDelegation_unbondingDelegations :
    (s.RemoveDelegation d).unbondingDelegations = s.unbondingDelegations := rfl
@[simp] theorem SetRedelegation_delegations : (s.SetRedelegation red).delegations = s.delegations := rfl
@[simp] theorem SetRedelegation_unbondingDelegations :
    (s.SetRedelegation red).unbondingDelegations = s.unbondingDelegations := rfl
@[simp] theorem RemoveRedelegation_delegations :
    (s.RemoveRedelegation red).delegations = s.delegations := rfl
@[simp] theorem RemoveRedelegation_unbondingDelegations :
    (s.RemoveRedelegation red).unbondingDelegations = s.unbondingDelegations := rfl
@[simp] theorem InsertRedelegationQueue_delegations :
    (s.InsertRedelegationQueue red t).delegations = s.delegations := rfl
@[simp] theorem InsertRedelegationQueue_redelegations :
    (s.InsertRedelegationQueue red t).redelegations = s.redelegations := rfl
@[simp] theorem InsertRedelegationQueue_unbondingDelegations :
    (s.InsertRedelegationQueue red t).unbondingDelegations = s.unbondingDelegations := rfl
@[simp] theorem SetUnbondingDelegation_delegations :
    (s.SetUnbondingDelegation ubd).delegations = s.delegations := rfl
@[simp] theorem SetUnbondingDelegation_redelegations :
    (s.SetUnbondingDelegation ubd).redelegations = s.redelegations := rfl
@[simp] theorem SetUnbondingDelegation_MaxEntries :
    (s.SetUnbondingDelegation ubd).MaxEntries = s.MaxEntries := rfl
@[simp] theorem RemoveUnbondingDelegation_delegations :
    (s.RemoveUnbondingDelegation ubd).delegations = s.delegations := rfl
@[simp] theorem RemoveUnbondingDelegation_redelegations :
    (s.RemoveUnbondingDelegation ubd).redelegations = s.redelegations := rfl
@[simp] theorem InsertUBDQueue_delegations : (s.InsertUBDQueue ubd t).delegations = s.delegations := rfl
@[simp] theorem InsertUBDQueue_redelegations :
    (s.InsertUBDQueue ubd t).redelegations = s.redelegations := rfl
@[simp] theorem InsertUBDQueue_unbondingDelegations :
    (s.InsertUBDQueue ubd t).unbondingDelegations = s.unbondingDelegations := rfl
@[simp] theorem InsertUBDQueue_MaxEntries : (s.InsertUBDQueue ubd t).MaxEntries = s.MaxEntries := rfl

end Fields

/-! ### 読むこと -/

theorem GetValidator_eq_ok {k : String} {v : Validator} :
    s.GetValidator k = .ok v ↔ s.validators.get? k = some v := by
  unfold GetValidator
  split <;> simp_all

theorem GetDelegation_eq_ok {a b : String} {d : Delegation} :
    s.GetDelegation a b = .ok d ↔ s.delegations.get? (a, b) = some d := by
  unfold GetDelegation
  split <;> simp_all

theorem GetRedelegation_eq_ok {a b c : String} {red : Redelegation} :
    s.GetRedelegation a b c = .ok red ↔ s.redelegations.get? (a, b, c) = some red := by
  unfold GetRedelegation
  split <;> simp_all

theorem GetUnbondingDelegation_eq_ok {a b : String} {ubd : UnbondingDelegation} :
    s.GetUnbondingDelegation a b = .ok ubd ↔ s.unbondingDelegations.get? (a, b) = some ubd := by
  unfold GetUnbondingDelegation
  split <;> simp_all

theorem GetDelegation_error {a b : String} {e : String} (h : s.GetDelegation a b = .error e) :
    s.delegations.get? (a, b) = none := by
  unfold GetDelegation at h
  split at h
  · cases h
  · assumption

theorem GetRedelegation_error {a b c : String} {e : String} (h : s.GetRedelegation a b c = .error e) :
    s.redelegations.get? (a, b, c) = none := by
  unfold GetRedelegation at h
  split at h
  · cases h
  · assumption

theorem GetUnbondingDelegation_error {a b : String} {e : String}
    (h : s.GetUnbondingDelegation a b = .error e) : s.unbondingDelegations.get? (a, b) = none := by
  unfold GetUnbondingDelegation at h
  split at h
  · cases h
  · assumption

/-! ### 見え方の書き換え -/

@[simp] theorem sharesOf_SetDelegation (d : Delegation) (k : String × String) :
    (s.SetDelegation d).sharesOf k = if k = d.key then d.Shares else s.sharesOf k := by
  unfold sharesOf SetDelegation
  by_cases hk : k = d.key <;> simp [hk]

@[simp] theorem sharesOf_RemoveDelegation (d : Delegation) (k : String × String) :
    (s.RemoveDelegation d).sharesOf k = if k = d.key then LegacyDec.LegacyZeroDec else s.sharesOf k := by
  unfold sharesOf RemoveDelegation
  by_cases hk : k = d.key <;> simp [hk]

@[simp] theorem redEntries_SetRedelegation (red : Redelegation) (k : String × String × String) :
    (s.SetRedelegation red).redEntries k = if k = red.key then red.Entries else s.redEntries k := by
  unfold redEntries SetRedelegation
  by_cases hk : k = red.key <;> simp [hk]

@[simp] theorem redEntries_RemoveRedelegation (red : Redelegation) (k : String × String × String) :
    (s.RemoveRedelegation red).redEntries k = if k = red.key then [] else s.redEntries k := by
  unfold redEntries RemoveRedelegation
  by_cases hk : k = red.key <;> simp [hk]

@[simp] theorem ubdEntries_SetUnbondingDelegation (ubd : UnbondingDelegation) (k : String × String) :
    (s.SetUnbondingDelegation ubd).ubdEntries k = if k = ubd.key then ubd.Entries else s.ubdEntries k := by
  unfold ubdEntries SetUnbondingDelegation
  by_cases hk : k = ubd.key <;> simp [hk]

@[simp] theorem ubdEntries_RemoveUnbondingDelegation (ubd : UnbondingDelegation) (k : String × String) :
    (s.RemoveUnbondingDelegation ubd).ubdEntries k = if k = ubd.key then [] else s.ubdEntries k := by
  unfold ubdEntries RemoveUnbondingDelegation
  by_cases hk : k = ubd.key <;> simp [hk]

theorem redEntries_congr {s' : Store} (h : s'.redelegations = s.redelegations)
    (k : String × String × String) : s'.redEntries k = s.redEntries k := by
  simp [redEntries, h]

theorem ubdEntries_congr {s' : Store} (h : s'.unbondingDelegations = s.unbondingDelegations)
    (k : String × String) : s'.ubdEntries k = s.ubdEntries k := by
  simp [ubdEntries, h]

theorem GetRedelegations_congr {s' : Store} (h : s'.redelegations = s.redelegations) (a : String)
    (n : Nat) : s'.GetRedelegations a n = s.GetRedelegations a n := by
  simp [GetRedelegations, delegatorRedelegations, h]

/-- 読んだ redelegation の記録は、その鍵の entry の列を持つ。 -/
theorem redEntries_of_get {k : String × String × String} {red : Redelegation}
    (h : s.redelegations.get? k = some red) : s.redEntries k = red.Entries := by
  simp [redEntries, h]

theorem ubdEntries_of_get {k : String × String} {ubd : UnbondingDelegation}
    (h : s.unbondingDelegations.get? k = some ubd) : s.ubdEntries k = ubd.Entries := by
  simp [ubdEntries, h]

/-! ### 鍵の整合 -/

namespace WellKeyed

theorem SetDelegation (hw : s.WellKeyed) (d : Delegation) : (s.SetDelegation d).WellKeyed where
  validators := hw.validators
  delegations k d' h := by
    simp only [Store.SetDelegation, KeyMap.get?_set] at h
    split at h
    · cases h; simp_all
    · exact hw.delegations k d' h
  redelegations := hw.redelegations
  unbondingDelegations := hw.unbondingDelegations

theorem RemoveDelegation (hw : s.WellKeyed) (d : Delegation) : (s.RemoveDelegation d).WellKeyed where
  validators := hw.validators
  delegations k d' h := by
    simp only [Store.RemoveDelegation, KeyMap.get?_erase] at h
    split at h
    · cases h
    · exact hw.delegations k d' h
  redelegations := hw.redelegations
  unbondingDelegations := hw.unbondingDelegations

theorem SetRedelegation (hw : s.WellKeyed) (red : Redelegation) : (s.SetRedelegation red).WellKeyed where
  validators := hw.validators
  delegations := hw.delegations
  redelegations k r h := by
    simp only [Store.SetRedelegation, KeyMap.get?_set] at h
    split at h
    · cases h; simp_all
    · exact hw.redelegations k r h
  unbondingDelegations := hw.unbondingDelegations

theorem RemoveRedelegation (hw : s.WellKeyed) (red : Redelegation) :
    (s.RemoveRedelegation red).WellKeyed where
  validators := hw.validators
  delegations := hw.delegations
  redelegations k r h := by
    simp only [Store.RemoveRedelegation, KeyMap.get?_erase] at h
    split at h
    · cases h
    · exact hw.redelegations k r h
  unbondingDelegations := hw.unbondingDelegations

theorem InsertRedelegationQueue (hw : s.WellKeyed) (red : Redelegation) (t : Int) :
    (s.InsertRedelegationQueue red t).WellKeyed :=
  ⟨hw.validators, hw.delegations, hw.redelegations, hw.unbondingDelegations⟩

theorem SetUnbondingDelegation (hw : s.WellKeyed) (ubd : UnbondingDelegation) :
    (s.SetUnbondingDelegation ubd).WellKeyed where
  validators := hw.validators
  delegations := hw.delegations
  redelegations := hw.redelegations
  unbondingDelegations k u h := by
    simp only [Store.SetUnbondingDelegation, KeyMap.get?_set] at h
    split at h
    · cases h; simp_all
    · exact hw.unbondingDelegations k u h

theorem RemoveUnbondingDelegation (hw : s.WellKeyed) (ubd : UnbondingDelegation) :
    (s.RemoveUnbondingDelegation ubd).WellKeyed where
  validators := hw.validators
  delegations := hw.delegations
  redelegations := hw.redelegations
  unbondingDelegations k u h := by
    simp only [Store.RemoveUnbondingDelegation, KeyMap.get?_erase] at h
    split at h
    · cases h
    · exact hw.unbondingDelegations k u h

theorem InsertUBDQueue (hw : s.WellKeyed) (ubd : UnbondingDelegation) (t : Int) :
    (s.InsertUBDQueue ubd t).WellKeyed :=
  ⟨hw.validators, hw.delegations, hw.redelegations, hw.unbondingDelegations⟩

end WellKeyed

end Store

/-! ## entry の列の残高 -/

/-- 作成 height と完了時刻の組が `p` を満たす entry の残高の和。 -/
def balanceOf (p : Int × Int → Bool) (es : List UnbondingDelegationEntry) : Int :=
  (es.map fun e => if p (e.CreationHeight, e.CompletionTime) then e.Balance else 0).sum

@[simp] theorem balanceOf_nil (p : Int × Int → Bool) : balanceOf p [] = 0 := rfl

@[simp] theorem balanceOf_cons (p : Int × Int → Bool) (e : UnbondingDelegationEntry)
    (es : List UnbondingDelegationEntry) :
    balanceOf p (e :: es) =
      (if p (e.CreationHeight, e.CompletionTime) then e.Balance else 0) + balanceOf p es := by
  simp [balanceOf]

@[simp] theorem balanceOf_append (p : Int × Int → Bool) (es es' : List UnbondingDelegationEntry) :
    balanceOf p (es ++ es') = balanceOf p es + balanceOf p es' := by
  simp [balanceOf]

/-- entry の作成 height と完了時刻の組の列。 -/
def pairs (es : List UnbondingDelegationEntry) : List (Int × Int) :=
  es.map fun e => (e.CreationHeight, e.CompletionTime)

/-! ## SDK の約束 -/

/--
SDK の約束。cosmos-sdk の `x/staking/keeper` の三つの定義が、鍵の整った store について満たすこと。
`TransferDelegation` と `TransferUnbonding` の性質は、これだけから示す。
-/
structure Sdk.Lawful (sdk : Sdk) : Prop where
  /-- `SetRedelegationEntry` は、返す記録を書く。 -/
  setRedelegationEntry_store : ∀ (s : Store) (a b c : String) (h t bal : Int) (ss sd : LegacyDec),
    (sdk.SetRedelegationEntry s a b c h t bal ss sd).1 =
      s.SetRedelegation (sdk.SetRedelegationEntry s a b c h t bal ss sd).2
  /--
  書く記録は引数の address の組の下にあり、その鍵の entry の列の後ろに新しい entry を一つ足す。
  記録が無ければ、その entry だけの記録を作る。
  -/
  setRedelegationEntry_record : ∀ (s : Store) (a b c : String) (h t bal : Int) (ss sd : LegacyDec),
    s.WellKeyed → (sdk.SetRedelegationEntry s a b c h t bal ss sd).2.key = (a, b, c) ∧
      (sdk.SetRedelegationEntry s a b c h t bal ss sd).2.Entries =
        s.redEntries (a, b, c) ++ [⟨h, t, bal, sd⟩]
  /-- `SetUnbondingDelegationEntry` は、返す記録を書く。 -/
  setUnbondingDelegationEntry_store : ∀ (s : Store) (a v : String) (h t b : Int),
    (sdk.SetUnbondingDelegationEntry s a v h t b).1 =
      s.SetUnbondingDelegation (sdk.SetUnbondingDelegationEntry s a v h t b).2
  /--
  書く記録は引数の address の組の下にあり、組 `(h, t)` の残高を `b` 増やす。同じ組の entry が
  あればそこに足し込む（`AddEntry`）ので、その時は組の列が変わらない。
  -/
  setUnbondingDelegationEntry_record : ∀ (s : Store) (a v : String) (h t b : Int), s.WellKeyed →
    (sdk.SetUnbondingDelegationEntry s a v h t b).2.key = (a, v) ∧
      (∀ p, balanceOf p (sdk.SetUnbondingDelegationEntry s a v h t b).2.Entries =
        balanceOf p (s.ubdEntries (a, v)) + if p (h, t) then b else 0) ∧
      ((h, t) ∈ pairs (s.ubdEntries (a, v)) →
        pairs (sdk.SetUnbondingDelegationEntry s a v h t b).2.Entries = pairs (s.ubdEntries (a, v)))
  /-- `HasMaxUnbondingDelegationEntries` は、記録の entry の数が `MaxEntries` 以上かを見る。 -/
  hasMaxUnbondingDelegationEntries : ∀ (s : Store) (a v : String),
    sdk.HasMaxUnbondingDelegationEntries s a v = decide (s.MaxEntries ≤ (s.ubdEntries (a, v)).length)

namespace Sdk.Lawful

variable {sdk : Sdk} {s : Store}

section Redelegation

variable (a b c : String) (h t bal : Int) (ss sd : LegacyDec)

theorem SetRedelegationEntry_key (hsdk : sdk.Lawful) (hw : s.WellKeyed) :
    (sdk.SetRedelegationEntry s a b c h t bal ss sd).2.key = (a, b, c) :=
  (hsdk.setRedelegationEntry_record s a b c h t bal ss sd hw).1

/-- `SetRedelegationEntry` は、その鍵の entry の列の後ろに一つ足す。 -/
theorem redEntries_SetRedelegationEntry (hsdk : sdk.Lawful) (hw : s.WellKeyed)
    (k : String × String × String) :
    (sdk.SetRedelegationEntry s a b c h t bal ss sd).1.redEntries k =
      if k = (a, b, c) then s.redEntries k ++ [⟨h, t, bal, sd⟩] else s.redEntries k := by
  obtain ⟨hkey, hentries⟩ := hsdk.setRedelegationEntry_record s a b c h t bal ss sd hw
  rw [hsdk.setRedelegationEntry_store, Store.redEntries_SetRedelegation, hkey]
  split
  · next hk => rw [hentries, hk]
  · rfl

theorem wellKeyed_SetRedelegationEntry (hsdk : sdk.Lawful) (hw : s.WellKeyed) :
    (sdk.SetRedelegationEntry s a b c h t bal ss sd).1.WellKeyed := by
  rw [hsdk.setRedelegationEntry_store]
  exact hw.SetRedelegation _

theorem SetRedelegationEntry_delegations (hsdk : sdk.Lawful) :
    (sdk.SetRedelegationEntry s a b c h t bal ss sd).1.delegations = s.delegations := by
  rw [hsdk.setRedelegationEntry_store]
  rfl

theorem SetRedelegationEntry_unbondingDelegations (hsdk : sdk.Lawful) :
    (sdk.SetRedelegationEntry s a b c h t bal ss sd).1.unbondingDelegations =
      s.unbondingDelegations := by
  rw [hsdk.setRedelegationEntry_store]
  rfl

end Redelegation

section Unbonding

variable (a v : String) (h t b : Int)

theorem SetUnbondingDelegationEntry_key (hsdk : sdk.Lawful) (hw : s.WellKeyed) :
    (sdk.SetUnbondingDelegationEntry s a v h t b).2.key = (a, v) :=
  (hsdk.setUnbondingDelegationEntry_record s a v h t b hw).1

theorem wellKeyed_SetUnbondingDelegationEntry (hsdk : sdk.Lawful) (hw : s.WellKeyed) :
    (sdk.SetUnbondingDelegationEntry s a v h t b).1.WellKeyed := by
  rw [hsdk.setUnbondingDelegationEntry_store]
  exact hw.SetUnbondingDelegation _

/-- `SetUnbondingDelegationEntry` は、その鍵の記録だけを書き換える。 -/
theorem ubdEntries_SetUnbondingDelegationEntry (hsdk : sdk.Lawful) (hw : s.WellKeyed)
    (k : String × String) :
    (sdk.SetUnbondingDelegationEntry s a v h t b).1.ubdEntries k =
      if k = (a, v) then (sdk.SetUnbondingDelegationEntry s a v h t b).2.Entries
      else s.ubdEntries k := by
  rw [hsdk.setUnbondingDelegationEntry_store, Store.ubdEntries_SetUnbondingDelegation,
    hsdk.SetUnbondingDelegationEntry_key a v h t b hw]

theorem ubdEntries_SetUnbondingDelegationEntry_of_ne (hsdk : sdk.Lawful) (hw : s.WellKeyed)
    {k : String × String} (hk : k ≠ (a, v)) :
    (sdk.SetUnbondingDelegationEntry s a v h t b).1.ubdEntries k = s.ubdEntries k := by
  rw [hsdk.ubdEntries_SetUnbondingDelegationEntry a v h t b hw, if_neg hk]

/-- `SetUnbondingDelegationEntry` は、その鍵の記録の組 `(h, t)` の残高を `b` 増やし、ほかの記録を変えない。 -/
theorem balanceOf_SetUnbondingDelegationEntry (hsdk : sdk.Lawful) (hw : s.WellKeyed)
    (p : Int × Int → Bool) (k : String × String) :
    balanceOf p ((sdk.SetUnbondingDelegationEntry s a v h t b).1.ubdEntries k) =
      balanceOf p (s.ubdEntries k) + if k = (a, v) ∧ p (h, t) then b else 0 := by
  rw [hsdk.ubdEntries_SetUnbondingDelegationEntry a v h t b hw]
  split
  · next hk =>
    subst hk
    rw [(hsdk.setUnbondingDelegationEntry_record s _ _ h t b hw).2.1 p]
    simp
  · next hk => simp [hk]

/-- 組が既にあれば、`SetUnbondingDelegationEntry` は足し込むだけで、その鍵の組の列を変えない。 -/
theorem pairs_SetUnbondingDelegationEntry_of_mem (hsdk : sdk.Lawful) (hw : s.WellKeyed)
    (hmem : (h, t) ∈ pairs (s.ubdEntries (a, v))) :
    pairs ((sdk.SetUnbondingDelegationEntry s a v h t b).1.ubdEntries (a, v)) =
      pairs (s.ubdEntries (a, v)) := by
  rw [hsdk.ubdEntries_SetUnbondingDelegationEntry a v h t b hw, if_pos rfl]
  exact (hsdk.setUnbondingDelegationEntry_record s a v h t b hw).2.2 hmem

theorem SetUnbondingDelegationEntry_delegations (hsdk : sdk.Lawful) :
    (sdk.SetUnbondingDelegationEntry s a v h t b).1.delegations = s.delegations := by
  rw [hsdk.setUnbondingDelegationEntry_store]
  rfl

theorem SetUnbondingDelegationEntry_redelegations (hsdk : sdk.Lawful) :
    (sdk.SetUnbondingDelegationEntry s a v h t b).1.redelegations = s.redelegations := by
  rw [hsdk.setUnbondingDelegationEntry_store]
  rfl

theorem SetUnbondingDelegationEntry_MaxEntries (hsdk : sdk.Lawful) :
    (sdk.SetUnbondingDelegationEntry s a v h t b).1.MaxEntries = s.MaxEntries := by
  rw [hsdk.setUnbondingDelegationEntry_store]
  rfl

/-- 上限の判定は、移し先の記録の entry の数を見る。 -/
theorem HasMaxUnbondingDelegationEntries_iff (hsdk : sdk.Lawful) :
    sdk.HasMaxUnbondingDelegationEntries s a v = true ↔ s.MaxEntries ≤ (s.ubdEntries (a, v)).length := by
  rw [hsdk.hasMaxUnbondingDelegationEntries, decide_eq_true_iff]

end Unbonding

end Sdk.Lawful

/-! ## 見本の SDK

witness で約束が満たせることを示すための、cosmos-sdk の定義に倣った `Sdk`。定理はどれも、
約束を満たす任意の `Sdk` について述べる。
-/

/-- 組 `(h, t)` の最初の entry に `b` を足し込み、無ければ後ろに足す（SDK の `AddEntry` に倣う）。 -/
def addUbdEntry (es : List UnbondingDelegationEntry) (h t b : Int) : List UnbondingDelegationEntry :=
  match es.findIdx? fun e => e.CreationHeight = h ∧ e.CompletionTime = t with
  | some idx => es.modify idx fun e =>
      { e with Balance := e.Balance + b, InitialBalance := e.InitialBalance + b }
  | none => es ++ [⟨h, t, b, b⟩]

/-- 見本の SDK。記録は store の見え方から作り直して書く。 -/
def sampleSdk : Sdk where
  SetRedelegationEntry s a b c h t bal _ sd :=
    let red : Redelegation := ⟨a, b, c, s.redEntries (a, b, c) ++ [⟨h, t, bal, sd⟩]⟩
    (s.SetRedelegation red, red)
  SetUnbondingDelegationEntry s a v h t b :=
    let ubd : UnbondingDelegation := ⟨a, v, addUbdEntry (s.ubdEntries (a, v)) h t b⟩
    (s.SetUnbondingDelegation ubd, ubd)
  HasMaxUnbondingDelegationEntries s a v := decide (s.MaxEntries ≤ (s.ubdEntries (a, v)).length)

/-- 同じ組の最初の entry に足し込むと、その組の残高だけが増える。 -/
theorem balanceOf_modify_findIdx (p : Int × Int → Bool) (h t b : Int) :
    ∀ (es : List UnbondingDelegationEntry) (idx : Nat),
      es.findIdx? (fun e => e.CreationHeight = h ∧ e.CompletionTime = t) = some idx →
      balanceOf p (es.modify idx fun e =>
          { e with Balance := e.Balance + b, InitialBalance := e.InitialBalance + b }) =
        balanceOf p es + if p (h, t) then b else 0 := by
  intro es
  induction es with
  | nil => intro idx hidx; simp at hidx
  | cons e es ih =>
    intro idx hidx
    rw [List.findIdx?_cons] at hidx
    cases he : decide (e.CreationHeight = h ∧ e.CompletionTime = t)
    · -- 先頭は別の組：後ろで足し込む
      rw [he] at hidx
      simp only [Bool.false_eq_true, ↓reduceIte, Option.map_eq_some_iff] at hidx
      obtain ⟨j, hj, rfl⟩ := hidx
      simp only [List.modify_succ_cons, balanceOf_cons, ih j hj]
      omega
    · -- 先頭が同じ組：そこに足し込む
      rw [he] at hidx
      simp only [↓reduceIte, Option.some.injEq] at hidx
      subst hidx
      obtain ⟨rfl, rfl⟩ := of_decide_eq_true he
      simp only [List.modify_zero_cons, balanceOf_cons]
      split <;> omega

/-- 足し込んでも後ろに足しても、組 `(h, t)` の残高が `b` 増える。 -/
theorem balanceOf_addUbdEntry (p : Int × Int → Bool) (es : List UnbondingDelegationEntry) (h t b : Int) :
    balanceOf p (addUbdEntry es h t b) = balanceOf p es + if p (h, t) then b else 0 := by
  unfold addUbdEntry
  split
  · next idx hidx => exact balanceOf_modify_findIdx p h t b es idx hidx
  · simp

/-- 組が既にあれば、足し込むだけで組の列を変えない。 -/
theorem pairs_addUbdEntry_of_mem {es : List UnbondingDelegationEntry} {h t b : Int}
    (hmem : (h, t) ∈ pairs es) : pairs (addUbdEntry es h t b) = pairs es := by
  unfold addUbdEntry
  split
  · apply List.ext_getElem (by simp [pairs])
    intro j _ _
    simp only [pairs, List.getElem_map, List.getElem_modify]
    split <;> rfl
  · next hnone =>
    -- 組があるのに見つからないことはない
    obtain ⟨e, he, hpair⟩ := List.mem_map.mp hmem
    have hfalse := List.findIdx?_eq_none_iff.mp hnone e he
    simp only [Prod.mk.injEq] at hpair
    simp [hpair] at hfalse

/-- 見本の SDK は約束を満たす。 -/
theorem sampleSdk_lawful : sampleSdk.Lawful where
  setRedelegationEntry_store _ _ _ _ _ _ _ _ _ := rfl
  setRedelegationEntry_record _ _ _ _ _ _ _ _ _ _ := ⟨rfl, rfl⟩
  setUnbondingDelegationEntry_store _ _ _ _ _ _ := rfl
  setUnbondingDelegationEntry_record s a v h t b _ :=
    ⟨rfl, fun p => balanceOf_addUbdEntry p (s.ubdEntries (a, v)) h t b, pairs_addUbdEntry_of_mem⟩
  hasMaxUnbondingDelegationEntries _ _ _ := rfl

end SedaChain.Staking
