/-
Where the caret of a diagnostic stands.

The quoted line and the line with the caret have a gutter each. That of the quoted line holds the line number, in a
field that grows with it from five characters on. That of the caret is the same for all numbers. So the caret stands
under the character at its column up to line 99999, and from there on one character to the left for each digit more.

- `Diagnostic.length_gutter`, `Diagnostic.length_beforeCaret`: the two gutters.
- `LexicalError.render_diagnostic`: the diagnostic of an error has both lines.
- `tokenize_blanks_unexpected`: an error at any position.
- **The place of the caret** (`caret_stands_under_its_character_up_to_five_digits`), and a line with a number of six
  digits (`caret_too_far_left_at_line_100000`).
-/
import FlowchartLexer.Proofs.SourceLines
import FlowchartLexer.Text.Width

namespace FlowchartLexer

/-! ## Gutters -/

theorem length_padLeft (width : Nat) (t : Text) : (padLeft width t).length = max width t.length := by
  simp only [padLeft, List.length_append, List.length_replicate]
  omega

theorem length_decimal_le_iff {n k : Nat} (hk : 0 < k) : (decimal n).length ≤ k ↔ n < 10 ^ k :=
  Nat.length_toDigits_le_iff (by decide) hk

namespace Diagnostic

/-- what stands on the line of the caret before it -/
def beforeCaret (cells : Nat) : Text :=
  "      |".toList ++ List.replicate (cells + 1) ' '

theorem caretLine_eq (cells : Nat) : caretLine cells = beforeCaret cells ++ ['^'] := rfl

theorem caret_not_mem_beforeCaret (cells : Nat) : '^' ∉ beforeCaret cells := by
  intro h
  rcases List.mem_append.1 h with h | h
  · simp at h
  · exact absurd (List.eq_of_mem_replicate h) (by decide)

theorem length_beforeCaret (cells : Nat) : (beforeCaret cells).length = cells + 8 := by
  have hbar : "      |".toList.length = 7 := rfl
  unfold beforeCaret
  rw [List.length_append, List.length_replicate, hbar]
  omega

theorem length_gutter (number : Nat) : (gutter number).length = max 5 (decimal number).length + 3 := by
  have hbar : " | ".toList.length = 3 := rfl
  rw [gutter, List.length_append, length_padLeft, hbar]

/-- each digit beyond the fifth moves the quoted line, but not the caret -/
theorem beforeCaret_gutter (number cells : Nat) :
    (beforeCaret cells).length + ((decimal number).length - 5) = (gutter number).length + cells := by
  rw [length_beforeCaret, length_gutter]
  omega

theorem beforeCaret_eq_gutter_iff (number cells : Nat) :
    (beforeCaret cells).length = (gutter number).length + cells ↔ number < 100000 := by
  have hfive := length_decimal_le_iff (n := number) (k := 5) (by decide)
  have h := beforeCaret_gutter number cells
  omega

end Diagnostic

/-! ## Diagnostics of lexical errors -/

open Diagnostic

/-- **The diagnostic of an error** has the line of the error behind its gutter, and then the line of the caret. -/
theorem LexicalError.render_diagnostic {source : Text} {e : LexicalError} (h : tokenize source = .error e)
    (fileName : Option Text) (width : Text → Nat) :
    ∃ l, SourceLine.ofSource? source e.position.line = some ⟨e.position.line, l⟩ ∧
      l[e.position.column - 1]? = some e.character ∧
      (e.diagnostic source fileName).render width = (e.diagnostic source fileName).headline ++
        '\n' :: (gutter e.position.line ++ l) ++
        '\n' :: (beforeCaret (width (l.take (e.position.column - 1))) ++ ['^']) := by
  obtain ⟨l, hline, hchar⟩ := LexicalError.source_at h
  refine ⟨l, hline, hchar, ?_⟩
  have hsource : (e.diagnostic source fileName).source = some ⟨e.position.line, l⟩ := hline
  have hplace : (e.diagnostic source fileName).location.position = some e.position := rfl
  unfold Diagnostic.render
  rw [hsource, hplace]
  simp only [caretLine_eq, beforeColumn, List.append_assoc, List.cons_append]

/-! ## An error at any position -/

/-- behind blanks, a character that no rule takes is the error -/
theorem tokenize_blanks_unexpected {w t : Text} {e : UnexpectedChar} (hw : ∀ c ∈ w, isBlank c = true)
    (ht : Segment.leading true t = .error e) :
    tokenize (w ++ t) = .error ⟨e.character, Position.start.advance w, byteSize w⟩ := by
  rw [tokenize_eq_placed, Segmentation.resultOf_eq_error_iff, Segmentation.lexicalError?]
  cases w with
  | nil =>
    rw [List.nil_append, segmentation_of_error ht]
    rfl
  | cons c w =>
    obtain ⟨u, rfl, hblank⟩ := isBlank_eq_false_of_unexpected ht
    have hrun : (c :: (w ++ e.character :: u)).takeWhile isBlank = c :: w := by
      rw [← List.cons_append, List.takeWhile_append_of_pos hw, List.takeWhile_cons_of_neg (by simp [hblank]),
        List.append_nil]
    have hlead := Segment.leading_blank (hw c List.mem_cons_self) (w ++ e.character :: u)
    rw [hrun] at hlead
    have hrest : (c :: (w ++ e.character :: u)).drop (c :: w).length = e.character :: u := List.drop_left
    rw [List.cons_append, segmentation_of_some hlead, hrest, segmentation_of_error ht, Option.map_some, textOf_cons,
      textOf_nil, List.append_nil]

theorem advance_lineFeeds (n : Nat) : Position.start.advance (List.replicate n '\n') = ⟨n + 1, 1⟩ := by
  induction n with
  | zero => rfl
  | succ n ih =>
    rw [List.replicate_succ', Position.advance_append, ih]
    rfl

theorem byteSize_lineFeeds (n : Nat) : byteSize (List.replicate n '\n') = n := by
  induction n with
  | zero => rfl
  | succ n ih =>
    rw [List.replicate_succ, byteSize_cons, ih, Nat.add_comm]
    rfl

/-- the first character of a line, with as many empty lines before it as one likes -/
theorem tokenize_lineFeeds_unexpected (n : Nat) :
    tokenize (List.replicate n '\n' ++ ['@']) = .error ⟨'@', ⟨n + 1, 1⟩, n⟩ := by
  have hw : ∀ c ∈ List.replicate n '\n', isBlank c = true := by
    intro c hc
    rw [List.eq_of_mem_replicate hc]
    decide
  have ht : Segment.leading true ['@'] = .error ⟨'@'⟩ := by decide +kernel
  rw [tokenize_blanks_unexpected hw ht, advance_lineFeeds, byteSize_lineFeeds]

/-! ## The place of the caret -/

/-- **The place of the caret**, whatever the error, the name of the file and the measure of width. The diagnostic ends
with the quoted line, which has the character of the error at its column, and the line of the caret.
- What stands before the caret is as long as the gutter of the quoted line and as wide as the line before the column,
  less one for each digit of the line number beyond the fifth.
- So the caret stands under its character just if the line number has no more than five digits. -/
theorem caret_stands_under_its_character_up_to_five_digits {source : Text} {e : LexicalError}
    (h : tokenize source = .error e) (fileName : Option Text) (width : Text → Nat) :
    ∃ l before, SourceLine.ofSource? source e.position.line = some ⟨e.position.line, l⟩ ∧
      l[e.position.column - 1]? = some e.character ∧
      (e.diagnostic source fileName).render width = (e.diagnostic source fileName).headline ++
        '\n' :: (gutter e.position.line ++ l) ++ '\n' :: (before ++ ['^']) ∧ '^' ∉ before ∧
      before.length + ((decimal e.position.line).length - 5) =
        (gutter e.position.line).length + width (l.take (e.position.column - 1)) ∧
      (before.length = (gutter e.position.line).length + width (l.take (e.position.column - 1)) ↔
        e.position.line < 100000) := by
  obtain ⟨l, hline, hchar, hrender⟩ := LexicalError.render_diagnostic h fileName width
  exact ⟨l, beforeCaret (width (l.take (e.position.column - 1))), hline, hchar, hrender,
    caret_not_mem_beforeCaret _, beforeCaret_gutter _ _, beforeCaret_eq_gutter_iff _ _⟩

/-- behind 99999 empty lines the caret stands one character to the left of the one that it is for -/
theorem caret_too_far_left_at_line_100000 :
    let source := List.replicate 99999 '\n' ++ ['@']
    let e : LexicalError := ⟨'@', ⟨100000, 1⟩, 99999⟩
    tokenize source = .error e ∧ ∃ l before, l[0]? = some '@' ∧
      (e.diagnostic source none).render displayWidth = (e.diagnostic source none).headline ++
        '\n' :: (gutter 100000 ++ l) ++ '\n' :: (before ++ ['^']) ∧ '^' ∉ before ∧
      (gutter 100000).length = 9 ∧ before.length = 8 := by
  intro source e
  have he : tokenize source = .error e := tokenize_lineFeeds_unexpected 99999
  obtain ⟨l, before, -, hchar, hrender, hcaret, hplace, -⟩ :=
    caret_stands_under_its_character_up_to_five_digits he none displayWidth
  have hdigits : (decimal 100000).length = 6 := by decide
  have hgutter : (gutter 100000).length = 9 := by
    rw [length_gutter, hdigits]
    rfl
  refine ⟨he, l, before, hchar, hrender, hcaret, hgutter, ?_⟩
  change before.length + ((decimal 100000).length - 5) = (gutter 100000).length + 0 at hplace
  rw [hdigits, hgutter] at hplace
  exact Nat.succ.inj hplace

end FlowchartLexer
