/-
Calling a reader again and again.

A reader is a function that takes a state to an answer, which may be none, and to the next state. `after` is the state
and `answers` are the answers that a number of calls leave behind. A reader is fused if it stays as it is when it has no
answer.

- `after_induction`: what a call preserves holds in every state that can be reached.
- `Fused.stays`: a fused reader that has no answer once never has one again.
- `Collects.of_none`, `Collects.of_some`: what a function that collects all answers gives, one call at a time.
- `Collects.answer_eq_getElem?`: the answers of a fused reader are the elements of what is collected, and none from
  then on.
- `Collects.answers_eq_take`: so a number of calls answer the first of them.
- `Collects.state_eq_after`: the state behind what is collected is the one after as many calls.
-/
import Mathlib.Tactic

namespace FlowchartLexer.Calls

variable {σ α : Type} (next : σ → Option α × σ)

/-- the state after a number of calls -/
def after (s : σ) : Nat → σ
  | 0 => s
  | n + 1 => (next (after s n)).2

/-- the answer of the call that follows a number of calls -/
def answer (s : σ) (n : Nat) : Option α :=
  (next (after next s n)).1

/-- what a number of calls have answered, calls without an answer left out -/
def answers (s : σ) (n : Nat) : List α :=
  (List.range n).filterMap (answer next s)

/-- without an answer there is no change -/
def Fused : Prop :=
  ∀ s, (next s).1 = none → (next s).2 = s

/-! ## Reachable states -/

theorem after_succ (s : σ) (n : Nat) : after next s (n + 1) = (next (after next s n)).2 := rfl

theorem after_next (s : σ) (n : Nat) : after next (next s).2 n = after next s (n + 1) := by
  induction n with
  | zero => rfl
  | succ n ih => rw [after_succ, ih]; rfl

theorem answer_next (s : σ) (n : Nat) : answer next (next s).2 n = answer next s (n + 1) := by
  rw [answer, after_next, answer]

theorem answers_succ (s : σ) (n : Nat) : answers next s (n + 1) = answers next s n ++ (answer next s n).toList := by
  rw [answers, List.range_succ, List.filterMap_append, answers]
  congr 1

variable {next}

theorem after_induction {P : σ → Prop} {s : σ} (h0 : P s) (hs : ∀ t, P t → P (next t).2) (n : Nat) :
    P (after next s n) := by
  induction n with
  | zero => exact h0
  | succ n ih => exact hs _ ih

/-! ## Fused readers -/

/-- **No answer is final**: from the first call without an answer on, nothing changes and nothing is answered. -/
theorem Fused.stays (hf : Fused next) {s : σ} {m : Nat} (hm : answer next s m = none) {k : Nat} (hk : m ≤ k) :
    after next s k = after next s m ∧ answer next s k = none := by
  induction k, hk using Nat.le_induction with
  | base => exact ⟨rfl, hm⟩
  | succ k _ ih =>
    have hs : after next s (k + 1) = after next s m := by
      rw [after_succ, hf _ ih.2, ih.1]
    refine ⟨hs, ?_⟩
    rw [answer, hs]
    exact hm

/-! ## Collecting the answers -/

/-- a function that calls the reader until it has no answer, with what was answered before, the last one first -/
structure Collects (next : σ → Option α × σ) (collect : List α → σ → List α × σ) (size : σ → Nat) : Prop where
  unfolds : ∀ read s, collect read s =
    match next s with
    | (none, r) => (read.reverse, r)
    | (some i, r) => collect (i :: read) r
  size_lt : ∀ s i r, next s = (some i, r) → size r < size s

section Collecting

variable {collect : List α → σ → List α × σ} {size : σ → Nat}

theorem Collects.stop (h : Collects next collect size) (read : List α) {s : σ} (hi : (next s).1 = none) :
    collect read s = (read.reverse, (next s).2) := by
  rw [h.unfolds, show next s = (none, (next s).2) from Prod.ext hi rfl]

theorem Collects.step (h : Collects next collect size) (read : List α) {s : σ} {i : α} (hi : (next s).1 = some i) :
    collect read s = collect (i :: read) (next s).2 := by
  rw [h.unfolds, show next s = (some i, (next s).2) from Prod.ext hi rfl]

theorem Collects.collect_eq (h : Collects next collect size) (read : List α) (s : σ) :
    collect read s = (read.reverse ++ (collect [] s).1, (collect [] s).2) := by
  induction hn : size s using Nat.strong_induction_on generalizing read s with
  | _ n ih =>
    cases hi : (next s).1 with
    | none =>
      rw [h.stop read hi, h.stop [] hi, List.reverse_nil, List.append_nil]
    | some i =>
      have hlt := hn ▸ h.size_lt s i _ (Prod.ext hi rfl)
      rw [h.step read hi, h.step [] hi, ih _ hlt (i :: read) _ rfl, ih _ hlt [i] _ rfl]
      simp

theorem Collects.of_none (h : Collects next collect size) {s : σ} (hi : (next s).1 = none) :
    collect [] s = ([], (next s).2) :=
  h.stop [] hi

theorem Collects.of_some (h : Collects next collect size) {s : σ} {i : α} (hi : (next s).1 = some i) :
    collect [] s = (i :: (collect [] (next s).2).1, (collect [] (next s).2).2) := by
  rw [h.step [] hi, h.collect_eq]
  rfl

/-- **Answers are what collecting gives**: its elements one by one, and none from then on. -/
theorem Collects.answer_eq_getElem? (h : Collects next collect size) (hf : Fused next) (s : σ) (n : Nat) :
    answer next s n = (collect [] s).1[n]? := by
  induction n generalizing s with
  | zero =>
    cases hi : (next s).1 with
    | none => rw [h.of_none hi]; exact hi
    | some i => rw [h.of_some hi]; exact hi
  | succ n ih =>
    cases hi : (next s).1 with
    | none =>
      rw [h.of_none hi]
      exact (hf.stays (m := 0) hi (Nat.zero_le _)).2
    | some i => rw [h.of_some hi, List.getElem?_cons_succ, ← ih, answer_next]

theorem Collects.answers_eq_take (h : Collects next collect size) (hf : Fused next) (s : σ) (n : Nat) :
    answers next s n = (collect [] s).1.take n := by
  induction n with
  | zero => rfl
  | succ n ih => rw [answers_succ, ih, h.answer_eq_getElem? hf, List.take_add_one]

theorem Collects.state_eq_after (h : Collects next collect size) (hf : Fused next) (s : σ) :
    (collect [] s).2 = after next s (collect [] s).1.length := by
  induction hn : size s using Nat.strong_induction_on generalizing s with
  | _ n ih =>
    cases hi : (next s).1 with
    | none =>
      rw [h.of_none hi]
      exact hf s hi
    | some i =>
      have hlt := hn ▸ h.size_lt s i _ (Prod.ext hi rfl)
      rw [h.of_some hi, List.length_cons, ← after_next]
      exact ih _ hlt (next s).2 rfl

end Collecting

end FlowchartLexer.Calls
