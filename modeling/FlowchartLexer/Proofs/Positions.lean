/-
The order of positions, and that texts move a position forward.

- `Position.lt_irrefl`, `Position.lt_trans`: positions are ordered by line and then by column.
- `Position.compare_eq_lt_iff`: so does comparing them.
- `Position.lt_advance`: a text that is not empty moves a position forward.
- `Position.advance_of_not_mem`, `Position.advance_lineFeed`: the column counts from the last line feed on.
-/
import Mathlib.Tactic
import FlowchartLexer.Position

namespace FlowchartLexer.Position

theorem lt_iff {p q : Position} : p < q ↔ p.line < q.line ∨ p.line = q.line ∧ p.column < q.column :=
  Iff.rfl

theorem compare_eq_lt_iff {p q : Position} : compare p q = .lt ↔ p < q := by
  show (compare p.line q.line).then (compare p.column q.column) = .lt ↔ _
  rw [Ordering.then_eq_lt, Nat.compare_eq_lt, Nat.compare_eq_eq, Nat.compare_eq_lt, lt_iff]

theorem lt_irrefl (p : Position) : ¬ p < p := by
  rw [lt_iff]
  omega

theorem lt_trans {p q r : Position} (hpq : p < q) (hqr : q < r) : p < r := by
  rw [lt_iff] at *
  omega

theorem lt_step (p : Position) (c : Char) : p < p.step c := by
  rw [lt_iff, step]
  split_ifs
  · exact Or.inl (Nat.lt_succ_self _)
  · exact Or.inr ⟨rfl, Nat.lt_succ_self _⟩

/-- **Texts move forward.** -/
theorem lt_advance {t : Text} (ht : t ≠ []) (p : Position) : p < p.advance t := by
  induction t generalizing p with
  | nil => exact absurd rfl ht
  | cons c t ih =>
    rw [advance_cons]
    by_cases h : t = []
    · rw [h]
      exact lt_step p c
    · exact lt_trans (lt_step p c) (ih h (p.step c))

/-- on one line, each character takes one column -/
theorem advance_of_not_mem {t : Text} (h : '\n' ∉ t) (p : Position) : p.advance t = ⟨p.line, p.column + t.length⟩ := by
  induction t generalizing p with
  | nil => rfl
  | cons c t ih =>
    have hc : c ≠ '\n' := (List.ne_of_not_mem_cons h).symm
    rw [advance_cons, ih (List.not_mem_of_not_mem_cons h), step, if_neg hc, List.length_cons, Nat.add_assoc,
      Nat.add_comm 1]

theorem advance_line (p : Position) (t : Text) : (p.advance t).line = p.line + t.count '\n' := by
  induction t generalizing p with
  | nil => rfl
  | cons c t ih =>
    rw [advance_cons, ih, step]
    by_cases hc : c = '\n'
    · rw [if_pos hc, hc, List.count_cons_self, Nat.add_assoc, Nat.add_comm 1]
    · rw [if_neg hc, List.count_cons_of_ne hc]

/-- a line feed starts a line at its first column -/
theorem advance_lineFeed {r : Text} (hr : '\n' ∉ r) (p : Position) (s : Text) :
    p.advance (s ++ '\n' :: r) = ⟨p.line + s.count '\n' + 1, 1 + r.length⟩ := by
  rw [advance_append, advance_cons, step, if_pos rfl, advance_of_not_mem hr, advance_line]

end FlowchartLexer.Position
