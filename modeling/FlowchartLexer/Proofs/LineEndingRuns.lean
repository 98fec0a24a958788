/-
Line endings and whole sources.

A source without carriage returns is read side by side with the same source with other line endings. The two cursors
stay at the same place (`Cursor.SameUpToCrlf`) as long as the one of the source does not get to where front matter is
one line break short (`OneBreakShort`).

- `Cursor.next_crlf`: one call keeps the two cursors together, and the answers differ in line endings only.
- `Cursor.after_crlf`, `Cursor.answer_crlf`: so does any number of calls, up to the first such place.
- `Cursor.drain_crlf`, `segmentation_crlf`, `tokenize_crlf`: whole sources without such a place.
- `Cursor.answers_part`: at the first such place the answers are a link and front matter.
- **Line endings matter to front matter only** (`line_endings_matter_to_front_matter_only`).
-/
import FlowchartLexer.Proofs.LineEndings
import FlowchartLexer.Proofs.PlacedSegments

namespace FlowchartLexer

open Calls

/-! ## Two cursors side by side -/

namespace Cursor

variable {source : Text} {c d : Cursor}

/-- the second cursor is at the same place of the source with other line endings -/
structure SameUpToCrlf (c d : Cursor) : Prop where
  rest : d.rest = crlf c.rest
  failed : d.failed = c.failed

/-- **One call** answers the same but for line endings, and the cursors stay together. -/
theorem next_crlf {source' passed passed' : Text} (hc : At source passed c) (hd : At source' passed' d)
    (h : SameUpToCrlf c d) (hr : '\r' ∉ c.rest) (hs : ¬ OneBreakShort c.rest) :
    d.next.1 = c.next.1.map (Except.map Segment.withCrlf) ∧ SameUpToCrlf c.next.2 d.next.2 := by
  have hlead : Segment.leading d.mayOpenFrontMatter d.rest =
      (Segment.leading c.mayOpenFrontMatter c.rest).map (Option.map Segment.withCrlf) := by
    rw [leading_of_at hd, leading_of_at hc, h.rest, Segment.leading_crlf hr hs]
  unfold next
  rw [h.failed, hlead]
  cases c.failed with
  | true => exact ⟨rfl, h⟩
  | false =>
    rcases hl : Segment.leading c.mayOpenFrontMatter c.rest with e | _ | g
    · exact ⟨rfl, h.rest, rfl⟩
    · exact ⟨rfl, h⟩
    · -- both pass the same segment
      have htext : g.text = c.rest.take g.text.length := by
        conv_rhs => rw [← Segment.leading_text_append hl]
        exact List.take_left.symm
      have hdrop : (crlf c.rest).drop (crlf g.text).length = crlf (c.rest.drop g.text.length) := by
        rw [← drop_crlf, ← htext]
      refine ⟨rfl, ?_, h.failed⟩
      show d.rest.drop (crlf g.text).length = crlf (c.rest.drop g.text.length)
      rw [h.rest, hdrop]

/-- **Any number of calls** keep the cursors together, if front matter is not one line break short before. -/
theorem after_crlf (hr : '\r' ∉ source) {n : Nat}
    (hs : ∀ m < n, ¬ OneBreakShort (after next (ofText source) m).rest) :
    SameUpToCrlf (after next (ofText source) n) (after next (ofText (crlf source)) n) := by
  induction n with
  | zero => exact ⟨rfl, rfl⟩
  | succ n ih =>
    have hn := ih fun m hm => hs m (Nat.lt_succ_of_lt hm)
    have hstep := next_crlf (at_after source n) (at_after (crlf source) n) hn (not_mem_rest hr n) (hs n n.lt_succ_self)
    exact hstep.2

theorem answer_crlf (hr : '\r' ∉ source) {n : Nat}
    (hs : ∀ m ≤ n, ¬ OneBreakShort (after next (ofText source) m).rest) :
    answer next (ofText (crlf source)) n = (answer next (ofText source) n).map (Except.map Segment.withCrlf) :=
  (next_crlf (at_after source n) (at_after (crlf source) n) (after_crlf hr fun m hm => hs m (Nat.le_of_lt hm))
    (not_mem_rest hr n) (hs n le_rfl)).1

theorem answers_crlf (hr : '\r' ∉ source) {n : Nat}
    (hs : ∀ m < n, ¬ OneBreakShort (after next (ofText source) m).rest) :
    answers next (ofText (crlf source)) n = (answers next (ofText source) n).map (Except.map Segment.withCrlf) := by
  induction n with
  | zero => rfl
  | succ n ih =>
    rw [answers_succ, answers_succ, ih fun m hm => hs m (Nat.lt_succ_of_lt hm),
      answer_crlf hr fun m hm => hs m (Nat.lt_succ_of_le hm), List.map_append]
    cases answer next (ofText source) n <;> rfl

theorem drain_crlf (hr : '\r' ∉ source) (hs : ∀ n, ¬ OneBreakShort (after next (ofText source) n).rest) :
    (ofText (crlf source)).drain.1 = (ofText source).drain.1.map (Except.map Segment.withCrlf) := by
  refine List.ext_getElem? fun n => ?_
  rw [List.getElem?_map, ← answer_eq_getElem?, ← answer_eq_getElem?]
  exact answer_crlf hr fun m _ => hs m

/-! ## One line break short -/

/-- **The answers part** at the first place where front matter is one line break short. -/
theorem answers_part (hr : '\r' ∉ source) {n : Nat} (h : OneBreakShort (after next (ofText source) n).rest)
    (hs : ∀ m < n, ¬ OneBreakShort (after next (ofText source) m).rest) :
    answer next (ofText source) n = some (.ok ⟨.lexeme .link, fence⟩) ∧
      ∃ x, answer next (ofText (crlf source)) n = some (.ok ⟨.trivia .frontMatter, x⟩) := by
  have hsame := after_crlf hr hs
  obtain ⟨hlink, x, hfront⟩ := Segment.leading_of_oneBreakShort (not_mem_rest hr n) h
  rw [← hsame.rest] at hfront
  refine ⟨?_, x, ?_⟩
  · rw [answer, next_of_leading_rest hlink]
  · rw [answer, next_of_leading_rest hfront]

end Cursor

/-! ## Segmentations -/

/-- the segmentation with other line endings -/
def Segmentation.withCrlf (s : Segmentation) : Segmentation :=
  ⟨s.segments.map Segment.withCrlf, s.unexpected⟩

theorem Segmentation.items_withCrlf (s : Segmentation) :
    s.withCrlf.items = s.items.map (Except.map Segment.withCrlf) := by
  rw [items, items, withCrlf, List.map_append, List.map_map, List.map_map]
  cases s.unexpected <;> rfl

theorem Segmentation.eq_of_items_eq {s r : Segmentation} (h : s.items = r.items) : s = r := by
  have hsegments : s.segments = r.segments := by rw [← segmentsOf_items, h, segmentsOf_items]
  rw [items, items, hsegments] at h
  have hend := List.append_cancel_left h
  obtain ⟨gs, u⟩ := s
  obtain ⟨ks, v⟩ := r
  obtain rfl : gs = ks := hsegments
  cases u with
  | none =>
    cases v with
    | none => rfl
    | some f => cases hend
  | some e =>
    cases v with
    | none => cases hend
    | some f =>
      cases hend
      rfl

theorem segmentation_crlf {source : Text} (hr : '\r' ∉ source)
    (hs : ∀ n, ¬ OneBreakShort (after Cursor.next (Cursor.ofText source) n).rest) :
    segmentation (crlf source) = (segmentation source).withCrlf := by
  apply Segmentation.eq_of_items_eq
  rw [Segmentation.items_withCrlf, ← Cursor.drain_ofText, ← Cursor.drain_ofText]
  exact Cursor.drain_crlf hr hs

/-! ## Tokens -/

/-- the token with other line endings in its text, at the same position -/
def Token.withCrlf (t : Token) : Token :=
  ⟨t.kind, crlf t.text, t.start⟩

/-- positions do not depend on line endings: only a line feed ends a line -/
theorem advance_crlf (p : Position) (t : Text) : p.advance (crlf t) = p.advance t := by
  induction t generalizing p with
  | nil => rfl
  | cons c t ih =>
    by_cases hc : c = '\n'
    · subst hc
      rw [crlf_lineFeed, Position.advance_cons, Position.advance_cons, ih, Position.advance_cons]
      rfl
    · rw [crlf_cons hc, Position.advance_cons, Position.advance_cons, ih]

theorem textOf_withCrlf (gs : List Segment) : textOf (gs.map Segment.withCrlf) = crlf (textOf gs) := by
  induction gs with
  | nil => rfl
  | cons g gs ih =>
    rw [List.map_cons, textOf_cons, textOf_cons, crlf_append, ih]
    rfl

theorem tokensFrom_withCrlf (p : Position) (gs : List Segment) :
    tokensFrom p (gs.map Segment.withCrlf) = (tokensFrom p gs).map Token.withCrlf := by
  induction gs generalizing p with
  | nil => rfl
  | cons g gs ih =>
    have hpos : p.advance g.withCrlf.text = p.advance g.text := advance_crlf p g.text
    cases hg : g.kind with
    | trivia t =>
      have hg' : g.withCrlf.kind = .trivia t := hg
      rw [List.map_cons, tokensFrom_trivia p hg, tokensFrom_trivia p hg', hpos, ih]
    | lexeme l =>
      have hg' : g.withCrlf.kind = .lexeme l := hg
      rw [List.map_cons, tokensFrom_lexeme p hg, tokensFrom_lexeme p hg', hpos, ih]
      rfl

/-- tokens of a source, or its error, with other line endings -/
theorem tokenize_crlf {source : Text} (hr : '\r' ∉ source)
    (hs : ∀ n, ¬ OneBreakShort (after Cursor.next (Cursor.ofText source) n).rest) :
    (∀ ts e, tokenize source = .ok (ts ++ [e]) → tokenize (crlf source) = .ok (ts.map Token.withCrlf ++ [e])) ∧
    ∀ e, tokenize source = .error e → ∃ o, tokenize (crlf source) = .error ⟨e.character, e.position, o⟩ := by
  rw [tokenize_eq_placed, tokenize_eq_placed, segmentation_crlf hr hs, advance_crlf]
  constructor
  · intro ts e h
    obtain ⟨hu, hall⟩ := Segmentation.resultOf_eq_ok_iff.1 h
    obtain ⟨rfl, he⟩ := List.append_inj' hall rfl
    refine Segmentation.resultOf_eq_ok_iff.2 ⟨hu, ?_⟩
    rw [he]
    exact congrArg (· ++ [e]) (tokensFrom_withCrlf _ _)
  · intro e h
    obtain ⟨u, hu, rfl⟩ := Option.map_eq_some_iff.1 (Segmentation.resultOf_eq_error_iff.1 h)
    refine ⟨byteSize (crlf (textOf (segmentation source).segments)), Segmentation.resultOf_eq_error_iff.2 ?_⟩
    rw [Segmentation.lexicalError?, Segmentation.withCrlf, textOf_withCrlf, advance_crlf, hu]
    rfl

/-! ## Line endings matter to front matter only -/

/-- **Line endings matter to front matter only.** Take a source without carriage returns, and put one in front of every
line feed.
- If the cursor of the source never gets to where front matter is one line break short, the segments are the same but
  for the line endings in them, and so is the end or the unexpected character. The tokens are the same but for the line
  endings in them, the last one, which is the end of the input, without a change; or the error is about the same
  character at the same position.
- If it does get there, the segmentations are not the same. Up to the first such place they are, and both cursors get
  there. Then the source has the link of three dashes, and the source with the other line endings has front matter. -/
theorem line_endings_matter_to_front_matter_only {source : Text} (hr : '\r' ∉ source) :
    let c := after Cursor.next (Cursor.ofText source)
    let d := after Cursor.next (Cursor.ofText (crlf source))
    let items := (Cursor.ofText source).drain.1
    let itemsWithCrlf := (Cursor.ofText (crlf source)).drain.1
    ((∀ n, ¬ OneBreakShort (c n).rest) →
      itemsWithCrlf = items.map (Except.map Segment.withCrlf) ∧
      (∀ ts e, tokenize source = .ok (ts ++ [e]) → tokenize (crlf source) = .ok (ts.map Token.withCrlf ++ [e])) ∧
      ∀ e, tokenize source = .error e → ∃ o, tokenize (crlf source) = .error ⟨e.character, e.position, o⟩) ∧
    ((∃ n, OneBreakShort (c n).rest) →
      itemsWithCrlf ≠ items.map (Except.map Segment.withCrlf) ∧
      ∃ n, OneBreakShort (c n).rest ∧ (∀ m < n, ¬ OneBreakShort (c m).rest) ∧
        (d n).rest = crlf (c n).rest ∧ itemsWithCrlf.take n = (items.take n).map (Except.map Segment.withCrlf) ∧
        items[n]? = some (.ok ⟨.lexeme .link, fence⟩) ∧
        ∃ x, itemsWithCrlf[n]? = some (.ok ⟨.trivia .frontMatter, x⟩)) := by
  intro c d items itemsWithCrlf
  refine ⟨fun hs => ⟨Cursor.drain_crlf hr hs, tokenize_crlf hr hs⟩, fun hex => ?_⟩
  obtain ⟨n, ⟨hn, hfirst⟩⟩ : ∃ n, OneBreakShort (c n).rest ∧ ∀ m < n, ¬ OneBreakShort (c m).rest := by
    classical
    exact ⟨Nat.find hex, Nat.find_spec hex, fun m hm => Nat.find_min hex hm⟩
  obtain ⟨hlink, x, hfront⟩ := Cursor.answers_part hr hn hfirst
  rw [Cursor.answer_eq_getElem?] at hlink hfront
  have htake : itemsWithCrlf.take n = (items.take n).map (Except.map Segment.withCrlf) := by
    have hanswers := Cursor.answers_crlf hr hfirst
    rw [Cursor.answers_eq_take, Cursor.answers_eq_take] at hanswers
    exact hanswers
  refine ⟨fun heq => ?_, n, hn, hfirst, (Cursor.after_crlf hr hfirst).rest, htake, hlink, x, hfront⟩
  -- the two items are of different kinds
  rw [show (Cursor.ofText (crlf source)).drain.1 = items.map (Except.map Segment.withCrlf) from heq, List.getElem?_map,
    show items[n]? = _ from hlink] at hfront
  cases hfront

/-- two nodes on two lines, whatever the line endings, and a link that is front matter with other ones -/
theorem link_or_front_matter :
    tokenize "A\r\nB".toList =
        .ok [⟨.lexeme .identifier, "A".toList, ⟨1, 1⟩⟩, ⟨.lexeme .identifier, "B".toList, ⟨2, 1⟩⟩, .endOfInput ⟨2, 2⟩] ∧
      OneBreakShort (after Cursor.next (Cursor.ofText "A\n---\n---B".toList) 2).rest ∧
      (Cursor.ofText "A\r\n---\r\n---B".toList).drain.1 ≠
        (Cursor.ofText "A\n---\n---B".toList).drain.1.map (Except.map Segment.withCrlf) := by
  have hnodes : tokenize "A\nB".toList =
      .ok ([⟨.lexeme .identifier, "A".toList, ⟨1, 1⟩⟩, ⟨.lexeme .identifier, "B".toList, ⟨2, 1⟩⟩] ++
        [.endOfInput ⟨2, 2⟩]) := by decide +kernel
  have hfar : ∀ n, ¬ OneBreakShort (after Cursor.next (Cursor.ofText "A\nB".toList) n).rest := by
    rintro n ⟨p, u, hrest, -⟩
    have hdash : '-' ∈ (after Cursor.next (Cursor.ofText "A\nB".toList) n).rest := by
      rw [hrest]
      exact List.mem_cons_self
    exact Cursor.not_mem_rest (by decide) n hdash
  have hshort : OneBreakShort (after Cursor.next (Cursor.ofText "A\n---\n---B".toList) 2).rest := by
    have hrest : (after Cursor.next (Cursor.ofText "A\n---\n---B".toList) 2).rest = "---\n---B".toList := by
      decide +kernel
    rw [hrest]
    exact ⟨[], "B".toList, rfl, List.forall_mem_nil _, by decide⟩
  exact ⟨((line_endings_matter_to_front_matter_only (by decide)).1 hfar).2.1 _ _ hnodes, hshort,
    ((line_endings_matter_to_front_matter_only (by decide)).2 ⟨2, hshort⟩).1⟩

end FlowchartLexer
