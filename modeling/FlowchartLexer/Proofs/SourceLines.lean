/-
Positions and the lines of a source.

A position is counted along the text, character by character, and the lines that a diagnostic quotes are cut out of the
whole source. Here both are about the same lines. `lastLine` is what stands behind the last line feed of a text, so a
beginning of a source ends in the line with as many line feeds before it, behind its last line.

- `lastLine_cases`, `advance_start`: a beginning of a source ends at the position that its last line tells.
- `lineAt?_isSome_iff`, `lineAt?_count`: which lines a source has, and what the line at a position is.
- `SourceLine.ofSource?_at`: so the line at a position has the character that stands there. The carriage return that may
  be cut off its end is not that character.
- `isBlank_eq_false_of_unexpected`, `isBlank_eq_false_of_lexeme`: neither an error nor a token starts with a blank.
- **Positions are places in lines** (`positions_are_places_in_source_lines`).
-/
import Mathlib.Data.List.DropRight
import FlowchartLexer.Proofs.FrontMatterExtent
import FlowchartLexer.Proofs.TokenAddresses

namespace FlowchartLexer

open Calls

/-! ## The last line of a text -/

/-- what stands behind the last line feed, or the whole text if it has none -/
def lastLine (t : Text) : Text :=
  t.rtakeWhile (· ≠ '\n')

theorem lineFeed_not_mem_lastLine (t : Text) : '\n' ∉ lastLine t := by
  intro h
  have hp := List.mem_rtakeWhile_imp h
  simp at hp

/-- a text is its own last line, or its last line stands behind a line feed -/
theorem lastLine_cases (t : Text) : ('\n' ∉ t ∧ lastLine t = t) ∨
    ∃ s, t = s ++ '\n' :: lastLine t ∧ t.count '\n' = s.count '\n' + 1 := by
  have hsplit : ('\n' ∉ t ∧ lastLine t = t) ∨ ∃ s, t = s ++ '\n' :: lastLine t := by
    induction t using List.reverseRecOn with
    | nil => exact Or.inl ⟨List.not_mem_nil, rfl⟩
    | append_singleton t c ih =>
      by_cases hc : c = '\n'
      · have hl : lastLine (t ++ [c]) = [] := List.rtakeWhile_concat_neg _ t c (by simpa using hc)
        exact Or.inr ⟨t, by rw [hl, hc]⟩
      · have hl : lastLine (t ++ [c]) = lastLine t ++ [c] := List.rtakeWhile_concat_pos _ t c (by simpa using hc)
        rcases ih with ⟨hn, ht⟩ | ⟨s, hs⟩
        · exact Or.inl ⟨by simp [hn, Ne.symm hc], by rw [hl, ht]⟩
        · refine Or.inr ⟨s, ?_⟩
          rw [hl, ← List.cons_append, ← List.append_assoc, ← hs]
  rcases hsplit with h | ⟨s, hs⟩
  · exact Or.inl h
  · refine Or.inr ⟨s, hs, ?_⟩
    conv_lhs => rw [hs]
    rw [List.count_append, List.count_cons_self, List.count_eq_zero_of_not_mem (lineFeed_not_mem_lastLine t)]

/-- **Where a beginning of a source ends**: one line for each line feed, and behind its last line. -/
theorem advance_start (t : Text) : Position.start.advance t = ⟨t.count '\n' + 1, (lastLine t).length + 1⟩ := by
  rcases lastLine_cases t with ⟨hn, hl⟩ | ⟨s, hs, hcount⟩
  · rw [Position.advance_of_not_mem hn, hl, List.count_eq_zero_of_not_mem hn, Nat.add_comm t.length]
    rfl
  · conv_lhs => rw [hs]
    rw [Position.advance_lineFeed (lineFeed_not_mem_lastLine t), hcount, Nat.add_comm (lastLine t).length,
      Nat.add_comm (s.count '\n') 1]
    rfl

/-! ## The lines of a source -/

@[simp] theorem lineAt?_lineFeed (n : Nat) (t : Text) : lineAt? (n + 1) ('\n' :: t) = lineAt? n t := rfl

theorem lineAt?_cons {c : Char} (hc : c ≠ '\n') (n : Nat) (t : Text) : lineAt? (n + 1) (c :: t) = lineAt? (n + 1) t := by
  rw [lineAt?, lineAt?, List.dropWhile_cons_of_pos (by simpa using hc)]

/-- a source has one line more than line feeds -/
theorem lineAt?_isSome_iff {n : Nat} {t : Text} : (lineAt? n t).isSome ↔ n ≤ t.count '\n' := by
  induction t generalizing n with
  | nil => cases n <;> simp [lineAt?]
  | cons c t ih =>
    cases n with
    | zero => simp [lineAt?]
    | succ n =>
      by_cases hc : c = '\n'
      · rw [hc, lineAt?_lineFeed, ih, List.count_cons_self, Nat.add_le_add_iff_right]
      · rw [lineAt?_cons hc, ih, List.count_cons_of_ne hc]

/-- line feeds passed are lines passed -/
theorem lineAt?_append_lineFeed (s t : Text) : lineAt? (s.count '\n' + 1) (s ++ '\n' :: t) = lineAt? 0 t := by
  induction s with
  | nil => rfl
  | cons c s ih =>
    by_cases hc : c = '\n'
    · rw [hc, List.count_cons_self, List.cons_append, lineAt?_lineFeed, ih]
    · rw [List.count_cons_of_ne hc, List.cons_append, lineAt?_cons hc, ih]

/-- **The line in which a beginning of a source ends** goes on with what follows, up to the next line feed. -/
theorem lineAt?_count (p q : Text) :
    lineAt? (p.count '\n') (p ++ q) = some (lastLine p ++ q.takeWhile (· ≠ '\n')) := by
  have hrun : ∀ c ∈ lastLine p, decide (c ≠ '\n') = true := by
    intro c hc
    rw [decide_eq_true_iff]
    rintro rfl
    exact lineFeed_not_mem_lastLine p hc
  have hfirst : lineAt? 0 (lastLine p ++ q) = some (lastLine p ++ q.takeWhile (· ≠ '\n')) := by
    rw [lineAt?, List.takeWhile_append_of_pos hrun]
  rcases lastLine_cases p with ⟨hn, hl⟩ | ⟨s, hs, hcount⟩
  · rw [hl] at hfirst ⊢
    rw [List.count_eq_zero_of_not_mem hn, hfirst]
  · have hsource : p ++ q = s ++ '\n' :: (lastLine p ++ q) := by
      conv_lhs => rw [hs]
      rw [List.append_assoc, List.cons_append]
    rw [hcount, hsource, lineAt?_append_lineFeed, hfirst]

/-- only a carriage return at the end is cut off -/
theorem withoutReturn_getElem? {t : Text} {i : Nat} {c : Char} (h : t[i]? = some c) (hc : c ≠ '\r') :
    (withoutReturn t)[i]? = some c := by
  rw [withoutReturn]
  split_ifs with hr
  · obtain ⟨hi, rfl⟩ := List.getElem?_eq_some_iff.1 h
    rw [List.getLast?_eq_getElem?] at hr
    have hne : i ≠ t.length - 1 := by
      rintro rfl
      rw [List.getElem?_eq_getElem hi] at hr
      exact hc (Option.some.inj hr)
    rw [List.getElem?_dropLast, if_pos (by omega), h]
  · exact h

/-- **The line at a position has the character that stands there**, if it is not part of a line ending. -/
theorem SourceLine.ofSource?_at {c : Char} (hc : isLineBreak c = false) (p q : Text) :
    ∃ l, SourceLine.ofSource? (p ++ c :: q) (Position.start.advance p).line =
        some ⟨(Position.start.advance p).line, l⟩ ∧ l[(Position.start.advance p).column - 1]? = some c := by
  have hn : c ≠ '\n' := by
    rintro rfl
    cases hc
  have hr : c ≠ '\r' := by
    rintro rfl
    cases hc
  rw [advance_start]
  refine ⟨withoutReturn (lastLine p ++ (c :: q).takeWhile (· ≠ '\n')), ?_, withoutReturn_getElem? ?_ hr⟩
  · rw [SourceLine.ofSource?, lineAt?_count, Option.map_some]
  · rw [Nat.add_sub_cancel, List.getElem?_append_right le_rfl, Nat.sub_self,
      List.takeWhile_cons_of_pos (by simpa using hn)]
    rfl

/-! ## What errors and tokens start with -/

/-- no rule but the one for white space is needed to take a blank -/
theorem isBlank_eq_false_of_unexpected {t : Text} {e : UnexpectedChar} (h : Segment.leading true t = .error e) :
    ∃ u, t = e.character :: u ∧ isBlank e.character = false := by
  obtain ⟨u, rfl⟩ := Segment.leading_eq_error h
  refine ⟨u, rfl, ?_⟩
  cases hb : isBlank e.character with
  | false => rfl
  | true =>
    rw [Segment.leading_blank hb] at h
    cases h

theorem isBlank_eq_false_of_lexeme {t x : Text} {l : Lexeme} (h : Segment.leading true t = .ok (some ⟨.lexeme l, x⟩)) :
    ∃ c u v, x = c :: u ∧ t = c :: v ∧ isBlank c = false := by
  obtain ⟨c, u, rfl⟩ := List.exists_cons_of_ne_nil (Segment.leading_text_ne_nil h)
  have ht : (c :: u) ++ t.drop (c :: u).length = t := Segment.leading_text_append h
  rw [← ht, List.cons_append] at h
  rw [List.cons_append] at ht
  exact ⟨c, u, _, rfl, ht.symm, (Segment.leading_eq_lexeme_iff.1 h).1⟩

/-! ## Positions are places in lines -/

theorem SourceLine.isSome_ofSource?_iff (source : Text) (k : Nat) :
    (SourceLine.ofSource? source k).isSome ↔ 1 ≤ k ∧ k ≤ (Position.start.advance source).line := by
  rw [advance_start]
  cases k with
  | zero => exact iff_of_false Bool.false_ne_true fun h => absurd h.1 (Nat.not_succ_le_zero 0)
  | succ n =>
    rw [SourceLine.ofSource?, Option.isSome_map, lineAt?_isSome_iff, Nat.add_le_add_iff_right]
    exact (and_iff_right (Nat.le_add_left 1 n)).symm

theorem LexicalError.source_at {source : Text} {e : LexicalError} (h : tokenize source = .error e) :
    ∃ l, SourceLine.ofSource? source e.position.line = some ⟨e.position.line, l⟩ ∧
      l[e.position.column - 1]? = some e.character := by
  rw [tokenize_eq_placed, Segmentation.resultOf_eq_error_iff] at h
  obtain ⟨u, hu, rfl⟩ := Option.map_eq_some_iff.1 h
  obtain ⟨left, hleft, hrest⟩ := segmentation_of_append (List.append_nil (segmentation source).segments).symm
  rw [hu] at hrest
  obtain ⟨t, rfl, hb⟩ := isBlank_eq_false_of_unexpected (leading_of_segmentation hrest)
  have hline := SourceLine.ofSource?_at (isLineBreak_of_not_isBlank hb) (textOf (segmentation source).segments) t
  rw [← hleft] at hline
  exact hline

theorem Token.source_at {source : Text} {n : Nat} {t : Token}
    (h : answer TokenStream.next (TokenStream.ofText source) n = some (.ok t)) (hk : t.isEndOfInput = false) :
    ∃ l c, SourceLine.ofSource? source t.start.line = some ⟨t.start.line, l⟩ ∧ l[t.start.column - 1]? = some c ∧
      t.text.head? = some c := by
  rw [TokenStream.collects_drainOnto.answer_eq_getElem? TokenStream.fused] at h
  have hmem : .ok t ∈ (TokenStream.ofText source).drain.1 := List.mem_of_getElem? h
  rw [TokenStream.drain_eq_placed, List.mem_append, List.mem_singleton] at hmem
  rcases hmem with hmem | hend
  · obtain ⟨u, hu, hut⟩ := List.mem_map.1 hmem
    obtain rfl := Except.ok.inj hut
    obtain ⟨xs, g, ys, l, hgs, hg, rfl⟩ := segment_of_mem_tokensFrom hu
    obtain ⟨left, hleft, hrest⟩ := segmentation_of_append hgs
    have hlead : Segment.leading true left = .ok (some ⟨.lexeme l, g.text⟩) := by
      rw [← hg]
      exact leading_of_segmentation hrest
    obtain ⟨c, u, v, htext, rfl, hb⟩ := isBlank_eq_false_of_lexeme hlead
    obtain ⟨x, hx, hc⟩ := SourceLine.ofSource?_at (isLineBreak_of_not_isBlank hb) (textOf xs) v
    rw [← hleft] at hx
    exact ⟨x, c, hx, hc, by rw [htext]; rfl⟩
  · -- the last item is at the end of the input
    obtain ⟨-, rfl⟩ := Segmentation.resultOf_eq_ok_iff.1 hend.symm
    cases hk

/-- **Positions are places in the lines of the source.**
- A source has the lines up to the one at its end, counted from one, and no others.
- A lexical error quotes its line, and its character stands there at its column.
- A token that is given out, whatever comes later in the source, starts in its line at its column. -/
theorem positions_are_places_in_source_lines (source : Text) :
    (∀ k, (SourceLine.ofSource? source k).isSome ↔ 1 ≤ k ∧ k ≤ (Position.start.advance source).line) ∧
    (∀ e, tokenize source = .error e → ∀ fileName, ∃ l,
      (e.diagnostic source fileName).source = some ⟨e.position.line, l⟩ ∧
        l[e.position.column - 1]? = some e.character) ∧
    ∀ n t, answer TokenStream.next (TokenStream.ofText source) n = some (.ok t) → t.isEndOfInput = false →
      ∃ l c, SourceLine.ofSource? source t.start.line = some ⟨t.start.line, l⟩ ∧
        l[t.start.column - 1]? = some c ∧ t.text.head? = some c := by
  refine ⟨SourceLine.isSome_ofSource?_iff source, ?_, ?_⟩
  · intro e he fileName
    exact LexicalError.source_at he
  · intro n t ht hk
    exact Token.source_at ht hk

/-- an error in the second line, behind a token that was given out before -/
theorem places_in_second_line :
    let source := "A\r\n B @\r\n".toList
    (∃ l, (LexicalError.diagnostic ⟨'@', ⟨2, 4⟩, 6⟩ source none).source = some ⟨2, l⟩ ∧ l[3]? = some '@') ∧
    ∃ l, SourceLine.ofSource? source 2 = some ⟨2, l⟩ ∧ l[1]? = some 'B' := by
  intro source
  have herror : tokenize source = .error ⟨'@', ⟨2, 4⟩, 6⟩ := by decide +kernel
  have htoken : answer TokenStream.next (TokenStream.ofText source) 1 =
      some (.ok ⟨.lexeme .identifier, ['B'], ⟨2, 2⟩⟩) := by decide +kernel
  obtain ⟨-, herrors, htokens⟩ := positions_are_places_in_source_lines source
  obtain ⟨l, c, hline, hcolumn, hfirst⟩ := htokens 1 _ htoken rfl
  obtain rfl : 'B' = c := Option.some.inj hfirst
  exact ⟨herrors _ herror none, l, hline, hcolumn⟩

end FlowchartLexer
