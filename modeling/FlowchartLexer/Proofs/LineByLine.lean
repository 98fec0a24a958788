/-
Moving a position over a text line by line.

`Position.advance` goes over a text character by character, so two texts in a row are one after the other. One can also
cut the text behind each line feed and go over the pieces: a piece that has its line feed leads to the start of the next
line, and only the last piece, if it lacks one, adds columns. The pieces of two texts in a row are not those of the one
and then those of the other, as the last piece of the first text may go on in the second.

- `flatten_linesOf`: nothing is lost between the pieces.
- `Position.passLine_cons`: a character in front of a piece moves the position and leaves the rest of it to pass.
- `Position.foldl_passLine`: so both ways of moving lead to the same place.
- `Position.advance_column`: the column, from what stands behind the last line feed.
- **Texts act on positions** (`Position.texts_act_on_positions`).
-/
import FlowchartLexer.Proofs.SourceLines

namespace FlowchartLexer

/-! ## Pieces of a text -/

/-- a text cut behind each line feed -/
def linesOf : Text → List Text
  | [] => []
  | c :: t =>
    if c = '\n' then
      ['\n'] :: linesOf t
    else
      match linesOf t with
      | [] => [[c]]
      | l :: ls => (c :: l) :: ls

theorem linesOf_cons_lineFeed (t : Text) : linesOf ('\n' :: t) = ['\n'] :: linesOf t := rfl

theorem linesOf_cons_of_ne {c : Char} (hc : c ≠ '\n') (t : Text) :
    linesOf (c :: t) =
      match linesOf t with
      | [] => [[c]]
      | l :: ls => (c :: l) :: ls :=
  if_neg hc

/-- nothing is lost between the pieces -/
theorem flatten_linesOf (t : Text) : (linesOf t).flatten = t := by
  induction t with
  | nil => rfl
  | cons c t ih =>
    by_cases hc : c = '\n'
    · rw [hc, linesOf_cons_lineFeed, List.flatten_cons, ih]
      rfl
    · rw [linesOf_cons_of_ne hc]
      cases hl : linesOf t with
      | nil =>
        rw [hl] at ih
        simp [← ih]
      | cons l ls =>
        rw [hl] at ih
        simp [← ih]

example : linesOf "ab\n\r\ncd".toList = ["ab\n".toList, "\r\n".toList, "cd".toList] := by decide

namespace Position

/-! ## Moving over pieces -/

/-- past a piece: to the next line if it has its line feed, and else along the line -/
def passLine (p : Position) (l : Text) : Position :=
  if l.getLast? = some '\n' then ⟨p.line + 1, 1⟩ else ⟨p.line, p.column + l.length⟩

/-- a character in front of a piece takes one column -/
theorem passLine_cons (p : Position) {c : Char} (hc : c ≠ '\n') (l : Text) :
    p.passLine (c :: l) = (p.step c).passLine l := by
  have hstep : p.step c = ⟨p.line, p.column + 1⟩ := if_neg hc
  rw [hstep]
  cases l with
  | nil => simp [passLine, hc]
  | cons d l =>
    have hlength : p.column + (c :: d :: l).length = p.column + 1 + (d :: l).length := by
      rw [List.length_cons, Nat.add_assoc, Nat.add_comm 1]
    unfold passLine
    rw [List.getLast?_cons_cons, hlength]

/-- **Line by line or character by character**, a text leads to the same place. -/
theorem foldl_passLine (p : Position) (t : Text) : (linesOf t).foldl passLine p = p.advance t := by
  induction t generalizing p with
  | nil => rfl
  | cons c t ih =>
    rw [advance_cons, ← ih]
    by_cases hc : c = '\n'
    · rw [hc, linesOf_cons_lineFeed]
      rfl
    · rw [linesOf_cons_of_ne hc]
      cases linesOf t with
      | nil => exact passLine_cons p hc []
      | cons l ls =>
        rw [List.foldl_cons, List.foldl_cons, passLine_cons p hc]

/-! ## Where a text leads to -/

/-- columns are counted from the last line feed on, if there is one -/
theorem advance_column (p : Position) (t : Text) :
    (p.advance t).column = if '\n' ∈ t then 1 + (lastLine t).length else p.column + t.length := by
  rcases lastLine_cases t with ⟨hn, -⟩ | ⟨s, hs, -⟩
  · rw [if_neg hn, advance_of_not_mem hn]
  · have hmem : '\n' ∈ t := by
      rw [hs]
      simp
    rw [if_pos hmem]
    conv_lhs => rw [hs]
    rw [advance_lineFeed (lineFeed_not_mem_lastLine t)]

/-- every text but the empty one leads forward -/
theorem lt_advance_iff {p : Position} {t : Text} : p < p.advance t ↔ t ≠ [] := by
  constructor
  · intro h ht
    rw [ht, advance_nil] at h
    exact lt_irrefl p h
  · intro ht
    exact lt_advance ht p

/-- **Texts act on positions.** From any position:
- the empty text leads nowhere, and two texts in a row lead where the second one leads from the end of the first;
- going over a text line by line leads to the same place;
- there are as many lines more as the text has line feeds. Without one, there are as many columns more as it has
  characters. Otherwise the column is the one behind what follows the last of them;
- every text but the empty one leads forward in the order of positions. -/
theorem texts_act_on_positions (p : Position) :
    (p.advance [] = p ∧ ∀ s t, p.advance (s ++ t) = (p.advance s).advance t) ∧
    ∀ s, p.advance s = (linesOf s).foldl passLine p ∧
      (p.advance s).line = p.line + s.count '\n' ∧
      (p.advance s).column = (if '\n' ∈ s then 1 + (lastLine s).length else p.column + s.length) ∧
      (p < p.advance s ↔ s ≠ []) ∧ (compare p (p.advance s) = .lt ↔ s ≠ []) := by
  refine ⟨⟨advance_nil p, advance_append p⟩, ?_⟩
  intro s
  refine ⟨(foldl_passLine p s).symm, advance_line p s, advance_column p s, lt_advance_iff, ?_⟩
  rw [compare_eq_lt_iff, lt_advance_iff]

end Position

end FlowchartLexer
