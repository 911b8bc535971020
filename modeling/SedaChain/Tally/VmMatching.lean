import SedaChain.Tally.Payout
import SedaChain.Infra.List

/-!
# tally VM の結果と要求の対応（phase 2）

`ExecuteTallyProgramsParallel` は item を順に準備し、準備のできた item の呼び出しだけを item の順に
並べて VM に渡し、準備に失敗した item にはその誤りを記す。phase 2 の loop は item の列をもう一度
たどり、誤りの無い item でだけ VM の結果の番号を一つ進める。だから位置 `j` の item が受ける VM の
結果の番号は、それより前の準備のできた item の数で、それは VM に渡した呼び出しの列での、その
item 自身の呼び出しの番号に等しい。

phase 1 の item はどれも誤りを持たずに作られ（`NewTallyParallelExecItem`）、位置は相異なる。

* `getElem?_filterMap_countP`（`Infra.List`）— `filterMap` で残る要素の位置
* `ExecuteTallyProgramsParallel_spec` — どんな item の列でも、VM には準備のできた呼び出しが item の
  順に渡り、準備に失敗した item には誤りが記される
* `applyVmResults_frame` — phase 2 の loop は、item の位置でない結果を変えない
* `applyVmResults_getElem?` — 位置 `j` の誤りの無い item の結果は、それより前の誤りの無い item の
  数の番号の VM の結果を受ける
* `applyVmResults_isOk` — VM の結果が誤りの無い item の数だけあれば、phase 2 の loop は panic しない
* `filterPhase_fresh` — phase 1 の item は誤りを持たず、位置は相異なる
* **`execPhase_matches_own_request`** — `ProcessTallies` の phase 2 で、各 item の位置の結果と
  data result は、VM に渡したその item 自身の呼び出しの結果を受ける
-/

namespace SedaChain.Tally

open Infra Infra.Go SedaChain.Batching

/-! ## VM への呼び出し -/

/-- VM が走った要求の data result：VM の結果と終了コードを書く。 -/
def vmDataResult (vmResult : VmResult) (dr : DataResult) : DataResult :=
  { dr with Result := (MapVMResult vmResult).Result, ExitCode := (MapVMResult vmResult).ExitCode }

/-- 準備に失敗した要求の data result：準備の誤りを結果に書く。 -/
def execErrDataResult (err : String) (dr : DataResult) : DataResult :=
  { dr with Result := strBytes err, ExitCode := TallyExitCodeExecError }

/-- VM に渡す呼び出しの列：準備のできた item の呼び出しを item の順に並べたもの。 -/
def vmCalls (k : Keeper) (ctx : Context) (items : List TallyParallelExecItem) : List VmCall :=
  (items.map (k.prepareTallyExec ctx)).filterMap preparedCall

/-- 位置 `j` より前で準備のできた item の数。`j` 番目の item の呼び出しが何番目に渡るかを言う。 -/
def callIndex (k : Keeper) (ctx : Context) (items : List TallyParallelExecItem) (j : Nat) : Nat :=
  ((items.take j).map (k.prepareTallyExec ctx)).countP fun p => (preparedCall p).isSome

section Calls

variable {k : Keeper} {ctx : Context}

theorem markExecErr_of_ok {it : TallyParallelExecItem} {prepared : Except String VmCall} {c : VmCall}
    (h : prepared = .ok c) : markExecErr it prepared = it := by
  subst h
  rfl

theorem markExecErr_of_error (it : TallyParallelExecItem) (err : String) :
    markExecErr it (.error err) = { it with TallyExecErr := some err } := rfl

/-- 準備の誤りを記した item の列。 -/
theorem ExecuteTallyProgramsParallel_fst (items : List TallyParallelExecItem) :
    (k.ExecuteTallyProgramsParallel ctx items).1 =
      items.map fun it => markExecErr it (k.prepareTallyExec ctx it) := by
  simp only [Keeper.ExecuteTallyProgramsParallel, List.zipWith_map_right, List.zipWith_self]

/--
**VM への呼び出し。** どんな item の列でも、VM には準備のできた item の呼び出しが item の順に渡り
（位置 `j` の item の呼び出しは `callIndex` 番目）、準備のできた item はそのまま、失敗した item には
その誤りが記される。
-/
theorem ExecuteTallyProgramsParallel_spec (items : List TallyParallelExecItem) :
    (k.ExecuteTallyProgramsParallel ctx items).2 =
        (if vmCalls k ctx items = [] then [] else k.ExecuteMultipleFromCParallel (vmCalls k ctx items)) ∧
      ∀ j it, items[j]? = some it →
        (∀ c, k.prepareTallyExec ctx it = .ok c →
          (vmCalls k ctx items)[callIndex k ctx items j]? = some c ∧
          (k.ExecuteTallyProgramsParallel ctx items).1[j]? = some it) ∧
        (∀ err, k.prepareTallyExec ctx it = .error err →
          (k.ExecuteTallyProgramsParallel ctx items).1[j]? = some { it with TallyExecErr := some err }) := by
  refine ⟨rfl, fun j it hit => ⟨fun c hc => ⟨?_, ?_⟩, fun err he => ?_⟩⟩
  · -- 位置 `j` の準備の結果は、残る呼び出しのうち前にあるものの数の位置に移る
    have hprep : (items.map (k.prepareTallyExec ctx))[j]? = some (.ok c) := by
      rw [List.getElem?_map, hit, Option.map_some, hc]
    have := getElem?_filterMap_countP (f := preparedCall) hprep rfl
    rwa [← List.map_take] at this
  · rw [ExecuteTallyProgramsParallel_fst, List.getElem?_map, hit, Option.map_some,
      markExecErr_of_ok hc]
  · rw [ExecuteTallyProgramsParallel_fst, List.getElem?_map, hit, Option.map_some, he,
      markExecErr_of_error]

/-- 誤りの無い item の列では、印を付けた後に誤りの無い item の数は、準備のできた item の数である。 -/
theorem countP_markExecErr {items : List TallyParallelExecItem}
    (hfresh : ∀ it ∈ items, it.TallyExecErr = none) :
    (items.map fun it => markExecErr it (k.prepareTallyExec ctx it)).countP
        (fun it => it.TallyExecErr.isNone) =
      (items.map (k.prepareTallyExec ctx)).countP fun p => (preparedCall p).isSome := by
  rw [List.countP_map, List.countP_map]
  refine List.countP_congr fun it hit => ?_
  have hnone := hfresh it hit
  simp only [Function.comp_apply]
  unfold markExecErr preparedCall
  split <;> simp [hnone]

end Calls

/-! ## phase 2 の loop -/

section Loop

variable {vmResults : List VmResult}

/-- phase 2 の loop の一歩を、二つの結果の書き換えとして言う。 -/
theorem applyVmResults_cons_eq (it : TallyParallelExecItem) (rest : List TallyParallelExecItem)
    (idx : Nat) (trs : List TallyResult) (drs : List DataResult) :
    applyVmResults vmResults (it :: rest) idx trs drs =
      match it.TallyExecErr with
      | none => do
        let vmResult ← index vmResults idx
        applyVmResults vmResults rest (idx + 1) (trs.modify it.Index (applyVmResult vmResult))
          (drs.modify it.Index (vmDataResult vmResult))
      | some err =>
        applyVmResults vmResults rest idx (trs.modify it.Index markNotExecuted)
          (drs.modify it.Index (execErrDataResult err)) := rfl

/-- phase 2 の loop は、どの item の位置でもない結果を変えない。item の列についての帰納法である。 -/
theorem applyVmResults_frame :
    ∀ (items : List TallyParallelExecItem) (idx : Nat) {trs : List TallyResult}
      {drs : List DataResult} {r : List TallyResult × List DataResult},
      applyVmResults vmResults items idx trs drs = .ok r →
      ∀ p, (∀ it ∈ items, it.Index ≠ p) → r.1[p]? = trs[p]? ∧ r.2[p]? = drs[p]?
  | [], _, _, _, _, h => by
    cases h
    exact fun _ _ => ⟨rfl, rfl⟩
  | it :: rest, idx, trs, drs, r, h => by
    intro p hp
    have hne : it.Index ≠ p := hp it List.mem_cons_self
    have hrest : ∀ it' ∈ rest, it'.Index ≠ p := fun it' hit' => hp it' (List.mem_cons_of_mem _ hit')
    rw [applyVmResults_cons_eq] at h
    split at h
    · obtain ⟨vr, -, h⟩ := bind_eq_ok.mp h
      obtain ⟨h₁, h₂⟩ := applyVmResults_frame rest _ h p hrest
      rw [h₁, h₂, List.getElem?_modify_ne _ _ hne, List.getElem?_modify_ne _ _ hne]
      exact ⟨rfl, rfl⟩
    · obtain ⟨h₁, h₂⟩ := applyVmResults_frame rest _ h p hrest
      rw [h₁, h₂, List.getElem?_modify_ne _ _ hne, List.getElem?_modify_ne _ _ hne]
      exact ⟨rfl, rfl⟩

/--
**phase 2 の loop の番号。** item の位置が相異なれば、位置 `j` の item の結果は、誤りが無ければ、
`idx` から数えてそれより前の誤りの無い item の数だけ進んだ番号の VM の結果を受け、誤りがあれば
減額とその誤りを受ける。item の列についての帰納法で、先頭の item は自分の位置を書き、残りの
item はそこを書かない。
-/
theorem applyVmResults_getElem? :
    ∀ (items : List TallyParallelExecItem) (idx : Nat) {trs : List TallyResult}
      {drs : List DataResult} {r : List TallyResult × List DataResult},
      applyVmResults vmResults items idx trs drs = .ok r → (items.map (·.Index)).Nodup →
      ∀ j it, items[j]? = some it → ∀ tr dr, trs[it.Index]? = some tr → drs[it.Index]? = some dr →
        (it.TallyExecErr = none →
          ∃ vr, vmResults[idx + (items.take j).countP (fun it => it.TallyExecErr.isNone)]? = some vr ∧
            r.1[it.Index]? = some (applyVmResult vr tr) ∧ r.2[it.Index]? = some (vmDataResult vr dr)) ∧
        (∀ err, it.TallyExecErr = some err →
          r.1[it.Index]? = some (markNotExecuted tr) ∧ r.2[it.Index]? = some (execErrDataResult err dr))
  | [], _, _, _, _, _, _, j, it, hit => by simp at hit
  | it₀ :: rest, idx, trs, drs, r, h, hnd, j, it, hit => by
    intro tr dr htr hdr
    rw [List.map_cons, List.nodup_cons] at hnd
    obtain ⟨hnotin, hnd'⟩ := hnd
    rw [applyVmResults_cons_eq] at h
    cases j with
    | zero =>
      -- 先頭の item：自分の位置を書き、残りの item はそこを書かない
      simp only [List.getElem?_cons_zero, Option.some.injEq] at hit
      subst hit
      have hrest : ∀ it' ∈ rest, it'.Index ≠ it₀.Index :=
        fun it' hit' hix => hnotin (hix ▸ List.mem_map_of_mem hit')
      split at h
      · next hnone =>
        obtain ⟨vr, hvr, h⟩ := bind_eq_ok.mp h
        obtain ⟨h₁, h₂⟩ := applyVmResults_frame rest _ h _ hrest
        refine ⟨fun _ => ⟨vr, ?_, ?_, ?_⟩, fun err herr => absurd (hnone.symm.trans herr) (by simp)⟩
        · rw [List.take_zero, List.countP_nil, Nat.add_zero]
          have hget := (getElem?_of_index_eq_ok hvr).2
          rwa [Int.toNat_natCast] at hget
        · rw [h₁, List.getElem?_modify_eq, htr]; rfl
        · rw [h₂, List.getElem?_modify_eq, hdr]; rfl
      · next err herr =>
        obtain ⟨h₁, h₂⟩ := applyVmResults_frame rest _ h _ hrest
        refine ⟨fun hnone => absurd (herr.symm.trans hnone) (by simp), fun err' herr' => ?_⟩
        rw [herr] at herr'
        cases herr'
        refine ⟨?_, ?_⟩
        · rw [h₁, List.getElem?_modify_eq, htr]; rfl
        · rw [h₂, List.getElem?_modify_eq, hdr]; rfl
    | succ j =>
      -- 後ろの item：先頭の item の書き換えは、その位置に届かない
      simp only [List.getElem?_cons_succ] at hit
      have hne : it₀.Index ≠ it.Index := fun hix => hnotin (hix ▸ List.mem_map_of_mem
        (List.mem_of_getElem? hit))
      rw [List.take_succ_cons, List.countP_cons]
      split at h
      · next hnone =>
        obtain ⟨vr₀, -, h⟩ := bind_eq_ok.mp h
        have ih := applyVmResults_getElem? rest (idx + 1) h hnd' j it hit tr dr
          (by rw [List.getElem?_modify_ne _ _ hne, htr]) (by rw [List.getElem?_modify_ne _ _ hne, hdr])
        rw [hnone, Option.isNone_none, if_pos rfl]
        rwa [show idx + (List.countP (fun it => it.TallyExecErr.isNone) (rest.take j) + 1) =
          idx + 1 + List.countP (fun it => it.TallyExecErr.isNone) (rest.take j) by omega]
      · next err herr =>
        have ih := applyVmResults_getElem? rest idx h hnd' j it hit tr dr
          (by rw [List.getElem?_modify_ne _ _ hne, htr]) (by rw [List.getElem?_modify_ne _ _ hne, hdr])
        rw [herr, Option.isNone_some, if_neg (by simp), Nat.add_zero]
        exact ih

/-- VM の結果が誤りの無い item の数だけあれば、phase 2 の loop は VM の結果を読み切らずに終わる。 -/
theorem applyVmResults_isOk :
    ∀ (items : List TallyParallelExecItem) (idx : Nat) (trs : List TallyResult) (drs : List DataResult),
      idx + items.countP (fun it => it.TallyExecErr.isNone) ≤ vmResults.length →
      ∃ r, applyVmResults vmResults items idx trs drs = .ok r
  | [], _, trs, drs, _ => ⟨(trs, drs), rfl⟩
  | it :: rest, idx, trs, drs, hlen => by
    rw [List.countP_cons] at hlen
    rw [applyVmResults_cons_eq]
    split
    · next hnone =>
      rw [hnone, Option.isNone_none, if_pos rfl] at hlen
      have hidx : idx < vmResults.length := by omega
      rw [index_of_lt hidx, ok_bind]
      exact applyVmResults_isOk rest (idx + 1) _ _ (by omega)
    · next err herr =>
      rw [herr, Option.isNone_some, if_neg (by simp)] at hlen
      exact applyVmResults_isOk rest idx _ _ (by omega)

end Loop

/-! ## phase 1 の item -/

section Fresh

variable {k : Keeper} {ctx : Context} {params : Params} {isPaused : Bool}

/-- phase 1 の item は誤りを持たずに作られる。 -/
theorem tallyRequest_item_fresh {i : Nat} {req : Request} {tr : TallyResult} {dr : DataResult}
    {it : TallyParallelExecItem}
    (h : k.tallyRequest ctx params isPaused i req = .ok (.next tr dr (some it))) :
    it.TallyExecErr = none := by
  rcases tallyRequest_filtered h with ⟨-, hnone⟩ | ⟨price, -, -, hf⟩
  · cases hnone
  · by_cases ho : k.tallyOutcome ctx params i req price = .executed ∨
        k.tallyOutcome ctx params i req price = .tallyExecError
    · obtain ⟨it', hit', -, hfresh, -⟩ := hf.item_some ho
      cases hit'
      exact hfresh
    · cases hf.item_none (fun h => ho (.inl h)) (fun h => ho (.inr h))

/--
**phase 1 の item は誤りを持たず、位置は相異なる。** 要求の列についての帰納法で、各要求は
高々一つの、誤りの無い item を足す。位置の相異なることは `filterPhase_at` の増える位置から来る。
-/
theorem filterPhase_fresh :
    ∀ (reqs : List Request) (i : Nat) {trs : List TallyResult} {drs : List DataResult}
      {items : List TallyParallelExecItem},
      k.filterPhase ctx params isPaused reqs i = .ok (.done trs drs items) →
      (∀ it ∈ items, it.TallyExecErr = none) ∧ (items.map (·.Index)).Nodup
  | [], _, _, _, _, h => by
    cases h
    exact ⟨by simp, by simp⟩
  | req :: rest, i, trs, drs, items, h => by
    have hnd := (filterPhase_at (req :: rest) i h).2.1.imp (fun hlt => Nat.ne_of_lt hlt)
    refine ⟨?_, hnd⟩
    simp only [Keeper.filterPhase] at h
    obtain ⟨outcome, ho, h⟩ := bind_eq_ok.mp h
    split at h
    · cases h
    · next tr dr item =>
      obtain ⟨tail, ht, h⟩ := bind_eq_ok.mp h
      split at h
      · cases h
      · next trs' drs' items' =>
        cases h
        intro it hit
        rcases List.mem_append.mp hit with hit | hit
        · exact tallyRequest_item_fresh (Option.mem_toList.mp hit ▸ ho)
        · exact (filterPhase_fresh rest (i + 1) ht).1 it hit

end Fresh

/-! ## phase 2 と要求の対応 -/

section Matching

variable {k : Keeper} {ctx : Context}

/-- 誤りの無い item の列を印を付けてたどるとき、位置 `j` の item の VM の結果の番号は `callIndex` である。 -/
theorem countP_take_markExecErr {items : List TallyParallelExecItem}
    (hfresh : ∀ it ∈ items, it.TallyExecErr = none) (j : Nat) :
    ((items.map fun it => markExecErr it (k.prepareTallyExec ctx it)).take j).countP
        (fun it => it.TallyExecErr.isNone) = callIndex k ctx items j := by
  rw [← List.map_take, callIndex]
  exact countP_markExecErr fun it hit => hfresh it (List.mem_of_mem_take hit)

/--
**誤りの無い item の phase 2。** 誤りが無く位置の相異なる item の列で、VM が呼び出しごとに一つの
結果を返すなら、phase 2 は panic せず、位置 `j` の item の位置の結果と data result は、準備が
できたなら `callIndex` 番目の VM の結果を受け、できなかったなら減額とその誤りを受ける。
-/
theorem execPhase_getElem? {items : List TallyParallelExecItem} {trs : List TallyResult}
    {drs : List DataResult} (hfresh : ∀ it ∈ items, it.TallyExecErr = none)
    (hnd : (items.map (·.Index)).Nodup)
    (hvm : ∀ calls, (k.ExecuteMultipleFromCParallel calls).length = calls.length) :
    ∃ r, k.execPhase ctx items trs drs = .ok r ∧
      ∀ j it, items[j]? = some it → ∀ tr dr, trs[it.Index]? = some tr → drs[it.Index]? = some dr →
        (∀ c, k.prepareTallyExec ctx it = .ok c →
          ∃ vr, (k.ExecuteMultipleFromCParallel (vmCalls k ctx items))[callIndex k ctx items j]? = some vr ∧
            r.1[it.Index]? = some (applyVmResult vr tr) ∧ r.2[it.Index]? = some (vmDataResult vr dr)) ∧
        (∀ err, k.prepareTallyExec ctx it = .error err →
          r.1[it.Index]? = some (markNotExecuted tr) ∧ r.2[it.Index]? = some (execErrDataResult err dr)) := by
  unfold Keeper.execPhase
  dsimp only
  split
  · next hnil =>
    subst hnil
    exact ⟨(trs, drs), rfl, fun j it hit => by simp at hit⟩
  · set marked := items.map fun it => markExecErr it (k.prepareTallyExec ctx it) with hmarked
    set vmResults := (k.ExecuteTallyProgramsParallel ctx items).2 with hvmResults
    have hfst : (k.ExecuteTallyProgramsParallel ctx items).1 = marked :=
      ExecuteTallyProgramsParallel_fst items
    rw [hfst]
    have hndm : (marked.map (·.Index)).Nodup := by
      simpa [hmarked, List.map_map, Function.comp_def] using hnd
    -- VM の結果は、準備のできた item の数だけある
    have hlen : 0 + marked.countP (fun it => it.TallyExecErr.isNone) ≤ vmResults.length := by
      have hcount : marked.countP (fun it => it.TallyExecErr.isNone) =
          (items.map (k.prepareTallyExec ctx)).countP fun p => (preparedCall p).isSome :=
        countP_markExecErr hfresh
      rw [Nat.zero_add, hcount, ← List.length_filterMap_eq_countP, hvmResults,
        (ExecuteTallyProgramsParallel_spec items).1]
      split
      · next h0 => exact (congrArg List.length h0).le
      · rw [hvm]; rfl
    obtain ⟨r, hr⟩ := applyVmResults_isOk marked 0 trs drs hlen
    refine ⟨r, hr, fun j it hit tr dr htr hdr => ?_⟩
    have hitm : marked[j]? = some (markExecErr it (k.prepareTallyExec ctx it)) := by
      rw [hmarked, List.getElem?_map, hit, Option.map_some]
    have hix : (markExecErr it (k.prepareTallyExec ctx it)).Index = it.Index := markExecErr_Index _ _
    obtain ⟨hran, hnot⟩ := applyVmResults_getElem? marked 0 hr hndm j _ hitm tr dr
      (by rw [hix]; exact htr) (by rw [hix]; exact hdr)
    rw [hix, countP_take_markExecErr hfresh, Nat.zero_add] at hran
    rw [hix] at hnot
    refine ⟨fun c hc => ?_, fun err he => ?_⟩
    · -- 準備のできた item：VM に渡した呼び出しは空でなく、その `callIndex` 番目の結果を受ける
      have hcall := ((ExecuteTallyProgramsParallel_spec items).2 j it hit).1 c hc
      have hne : vmCalls k ctx items ≠ [] := fun h0 => by rw [h0] at hcall; simp at hcall
      have hnone : (markExecErr it (k.prepareTallyExec ctx it)).TallyExecErr = none := by
        rw [markExecErr_of_ok hc]
        exact hfresh it (List.mem_of_getElem? hit)
      obtain ⟨vr, hvr, h₁, h₂⟩ := hran hnone
      rw [hvmResults, (ExecuteTallyProgramsParallel_spec items).1, if_neg hne] at hvr
      exact ⟨vr, hvr, h₁, h₂⟩
    · rw [he, markExecErr_of_error] at hnot
      exact hnot err rfl

/--
**tally VM の結果はそれぞれ自分の要求に届く。** どんな item の列でも、`ExecuteTallyProgramsParallel`
は準備のできた item の呼び出しを item の順に VM に渡し（位置 `j` の item の呼び出しは `callIndex`
番目）、準備に失敗した item にはその誤りを記す。`ProcessTallies` の phase 1 の item については、VM が
呼び出しごとに一つの結果を順に返すなら、phase 2 は panic せず、位置 `j` の item の要求の結果と
data result は、`callIndex` 番目の VM の結果、つまりその item 自身の呼び出しの結果から、出力、
終了コード、tally gas を受け、準備に失敗した item の要求は減額とその誤りを受ける。
-/
theorem execPhase_matches_own_request {params : Params} {isPaused : Bool} {tallyList : List Request}
    {trs : List TallyResult} {drs : List DataResult} {items : List TallyParallelExecItem}
    (hphase1 : k.filterPhase ctx params isPaused tallyList 0 = .ok (.done trs drs items))
    (hvm : ∀ calls, (k.ExecuteMultipleFromCParallel calls).length = calls.length) :
    (∀ items' : List TallyParallelExecItem,
      (k.ExecuteTallyProgramsParallel ctx items').2 =
          (if vmCalls k ctx items' = [] then [] else
            k.ExecuteMultipleFromCParallel (vmCalls k ctx items')) ∧
        ∀ j it, items'[j]? = some it →
          (∀ c, k.prepareTallyExec ctx it = .ok c →
            (vmCalls k ctx items')[callIndex k ctx items' j]? = some c ∧
            (k.ExecuteTallyProgramsParallel ctx items').1[j]? = some it) ∧
          (∀ err, k.prepareTallyExec ctx it = .error err →
            (k.ExecuteTallyProgramsParallel ctx items').1[j]? =
              some { it with TallyExecErr := some err })) ∧
    ∃ r, k.execPhase ctx items trs drs = .ok r ∧
      ∀ j it, items[j]? = some it → ∀ tr dr, trs[it.Index]? = some tr → drs[it.Index]? = some dr →
        (∀ c, k.prepareTallyExec ctx it = .ok c →
          ∃ vr, (k.ExecuteMultipleFromCParallel (vmCalls k ctx items))[callIndex k ctx items j]? =
              some vr ∧
            r.1[it.Index]? = some (applyVmResult vr tr) ∧ r.2[it.Index]? = some (vmDataResult vr dr)) ∧
        (∀ err, k.prepareTallyExec ctx it = .error err →
          r.1[it.Index]? = some (markNotExecuted tr) ∧
            r.2[it.Index]? = some (execErrDataResult err dr)) := by
  obtain ⟨hfresh, hnd⟩ := filterPhase_fresh tallyList 0 hphase1
  exact ⟨ExecuteTallyProgramsParallel_spec, execPhase_getElem? hfresh hnd hvm⟩

end Matching

/--
二人の executor が reveal した `Request.twoReveals` では、phase 1 が準備のできる item を一つ作り、
VM は呼び出しごとに一つの結果を返す。phase 2 は panic せず、その item の要求の結果と data result は、
その item 自身の呼び出しの結果を受ける。
-/
theorem execPhase_matches_own_request_twoReveals :
    ∃ trs drs items,
      Keeper.sampleVm.filterPhase ⟨2, 1⟩ DefaultParams false [Request.twoReveals] 0 =
        .ok (.done trs drs items) ∧
      (∀ calls, (Keeper.sampleVm.ExecuteMultipleFromCParallel calls).length = calls.length) ∧
      items.map (fun it => (Keeper.sampleVm.prepareTallyExec ⟨2, 1⟩ it).isOk) = [true] ∧
      ∃ r, Keeper.sampleVm.execPhase ⟨2, 1⟩ items trs drs = .ok r ∧
        ∀ it, items[0]? = some it → ∀ tr dr, trs[it.Index]? = some tr → drs[it.Index]? = some dr →
          ∀ c, Keeper.sampleVm.prepareTallyExec ⟨2, 1⟩ it = .ok c →
            ∃ vr, (Keeper.sampleVm.ExecuteMultipleFromCParallel
                (vmCalls Keeper.sampleVm ⟨2, 1⟩ items))[callIndex Keeper.sampleVm ⟨2, 1⟩ items 0]? =
                some vr ∧
              r.1[it.Index]? = some (applyVmResult vr tr) ∧ r.2[it.Index]? = some (vmDataResult vr dr) := by
  obtain ⟨phase1, hrun⟩ := exists_ok_of_isOk (by decide :
    (Keeper.sampleVm.filterPhase ⟨2, 1⟩ DefaultParams false [Request.twoReveals] 0).isOk = true)
  have hshape : (Keeper.sampleVm.filterPhase ⟨2, 1⟩ DefaultParams false [Request.twoReveals] 0).map
      (fun p => Phase1.casesOn (motive := fun _ => Option (List Bool)) p
        (fun _ _ items => some (items.map fun it => (Keeper.sampleVm.prepareTallyExec ⟨2, 1⟩ it).isOk))
        (fun _ => none)) = .ok (some [true]) := by
    decide
  rw [hrun] at hshape
  -- phase 1 は止まらず、準備のできる item を一つ作る
  cases phase1 with
  | stop err => simp [Except.map] at hshape
  | done trs drs items =>
    simp only [Except.map, Except.ok.injEq, Option.some.injEq] at hshape
    have hvm : ∀ calls, (Keeper.sampleVm.ExecuteMultipleFromCParallel calls).length = calls.length :=
      fun calls => List.length_map _
    obtain ⟨r, hr, hall⟩ := (execPhase_matches_own_request hrun hvm).2
    exact ⟨trs, drs, items, hrun, hvm, hshape, r, hr, fun it hit tr dr htr hdr =>
      (hall 0 it hit tr dr htr hdr).1⟩

end SedaChain.Tally
