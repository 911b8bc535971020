import Mathlib.Logic.Basic
import Mathlib.Data.List.TakeDrop

/-!
# 事象の列による走り

状態 `σ` に事象 `ε` を一つずつ当てる全域の遷移関数 `step` の走りを `run` に書く。失敗した事象が
状態を変えない系（tx の失敗が書き込みを取り消す、など）は、遷移をこの形に書ける。

* `run_append` — 走りをつなぐことは、続けて走ることである
* `run_invariant` — 一歩が保つ性質は、走り全体で保たれる
* `run_invariant_of` — 不変量 `I` の下で一歩が保つ性質は、`I` の成り立つ状態からの走りで保たれる
* `exists_last_entry` — 性質が走りの中で偽から真に変わるなら、偽から真に移る一歩のうち最後の
  ものがあり、そこから走りの終わりまで性質はずっと成り立つ
-/

namespace Infra

variable {σ ε : Type} (step : σ → ε → σ)

/-- 事象の列を前から順に当てる。 -/
def run (s : σ) : List ε → σ
  | [] => s
  | e :: es => run (step s e) es

@[simp] theorem run_nil (s : σ) : run step s [] = s := rfl

@[simp] theorem run_cons (s : σ) (e : ε) (es : List ε) : run step s (e :: es) = run step (step s e) es :=
  rfl

theorem run_append (s : σ) (es es' : List ε) : run step s (es ++ es') = run step (run step s es) es' := by
  induction es generalizing s with
  | nil => rfl
  | cons e es ih => exact ih (step s e)

/-- 列の後ろに事象を一つ足した走りは、走った後にその一歩を当てる。 -/
theorem run_concat (s : σ) (es : List ε) (e : ε) : run step s (es ++ [e]) = step (run step s es) e := by
  rw [run_append]
  rfl

variable {step}

/-- **一歩が保つ性質は、走り全体で保たれる。** 列についての帰納法である。 -/
theorem run_invariant {P : σ → Prop} (hstep : ∀ s e, P s → P (step s e)) :
    ∀ (es : List ε) {s : σ}, P s → P (run step s es) := by
  intro es
  induction es with
  | nil => intro s hs; exact hs
  | cons e es ih => intro s hs; exact ih (hstep s e hs)

/-- 不変量 `I` の下で一歩が保つ性質は、`I` と合わせて走り全体で保たれる。 -/
theorem run_invariant_of {I P : σ → Prop} (hI : ∀ s e, I s → I (step s e))
    (hP : ∀ s e, I s → P s → P (step s e)) (es : List ε) {s : σ} (hIs : I s) (hPs : P s) :
    P (run step s es) :=
  (run_invariant (P := fun s => I s ∧ P s) (fun s e h => ⟨hI s e h.1, hP s e h.1 h.2⟩) es
    ⟨hIs, hPs⟩).2

/--
**最後に入った一歩。** 走りの初めに偽で終わりに真な性質には、偽の状態から真の状態に移り、
そこから走りの終わりまでのどの途中の状態でも真である一歩がある。列についての帰納法で、
先頭の一歩の後に真なら、その後ずっと真か、途中で一度偽になってその先で入り直すかを分ける。
-/
theorem exists_last_entry {P : σ → Prop} (es : List ε) {s : σ} (hs : ¬ P s) (hend : P (run step s es)) :
    ∃ pre e post, es = pre ++ e :: post ∧ ¬ P (run step s pre) ∧
      ∀ k ≤ post.length, P (run step (step (run step s pre) e) (post.take k)) := by
  -- 入り直す所は先頭より後ろにあるので、列の長さについての強い帰納法で示す
  obtain ⟨n, hn⟩ : ∃ n, es.length = n := ⟨_, rfl⟩
  induction n using Nat.strongRecOn generalizing es s with
  | _ n ih =>
    cases es with
    | nil => exact absurd hend hs
    | cons e es =>
      by_cases hstay : ∀ k ≤ es.length, P (run step (step s e) (es.take k))
      · exact ⟨[], e, es, rfl, hs, hstay⟩
      · -- 先頭の一歩の後のどこかで偽になる：そこから後ろの列で入り直す
        push Not at hstay
        obtain ⟨k, hk, hnot⟩ := hstay
        have hrest : P (run step (run step (step s e) (es.take k)) (es.drop k)) := by
          rwa [← run_append, List.take_append_drop]
        have hlen : (es.drop k).length < n := by
          simp only [List.length_cons] at hn
          simp only [List.length_drop]
          omega
        obtain ⟨pre, e', post, hsplit, hpre, hall⟩ := ih _ hlen (es.drop k) hnot hrest rfl
        refine ⟨e :: (es.take k ++ pre), e', post, ?_, ?_, ?_⟩
        · rw [List.cons_append, List.append_assoc, ← hsplit, List.take_append_drop]
        · rwa [run_cons, run_append]
        · rw [run_cons, run_append]
          exact hall

end Infra
