/-
Tokens and segments with a running position.

Both readers of a source, the one for tokens and the one for placed segments, keep a position of their own. `placedFrom`
is what they have in common: segments, each with the position at which it starts. Here the results of both are written
with it and with the segmentation of the source.

- `placedSegmentsFrom_eq`: reading placed segments from a cursor on. The invariant is that of the cursor.
- `segment_of_mem_tokensFrom`: a token comes from a segment, and starts behind the segments before it.
- `tokensAt_withOffsets`, `tokensAt_ofText`: positions of offsets are running positions.
- `placedSegments_eq`, `TokenStream.drain_eq_placed`, `tokenize_eq_placed`: a whole source. All fail where its
  segmentation stops (`Segmentation.lexicalError?`), and in the same way.
-/
import FlowchartLexer.Listing
import FlowchartLexer.Proofs.TokenRun

namespace FlowchartLexer

/-! ## Running positions -/

/-- segments with the positions they start at, from a position on -/
def placedFrom (p : Position) : List Segment → List PlacedSegment
  | [] => []
  | g :: gs => ⟨g, p⟩ :: placedFrom (p.advance g.text) gs

/-- the tokens among segments that are placed from a position on -/
def tokensFrom (p : Position) (gs : List Segment) : List Token :=
  (placedFrom p gs).filterMap PlacedSegment.token?

@[simp] theorem placedFrom_nil (p : Position) : placedFrom p [] = [] := rfl

@[simp] theorem placedFrom_cons (p : Position) (g : Segment) (gs : List Segment) :
    placedFrom p (g :: gs) = ⟨g, p⟩ :: placedFrom (p.advance g.text) gs := rfl

@[simp] theorem tokensFrom_nil (p : Position) : tokensFrom p [] = [] := rfl

theorem tokensFrom_trivia (p : Position) {g : Segment} {t : Trivia} (hg : g.kind = .trivia t) (gs : List Segment) :
    tokensFrom p (g :: gs) = tokensFrom (p.advance g.text) gs := by
  have h : PlacedSegment.token? ⟨g, p⟩ = none := by rw [PlacedSegment.token?, hg]; rfl
  rw [tokensFrom, placedFrom_cons, List.filterMap_cons_none h]
  rfl

theorem tokensFrom_lexeme (p : Position) {g : Segment} {l : Lexeme} (hg : g.kind = .lexeme l) (gs : List Segment) :
    tokensFrom p (g :: gs) = ⟨.lexeme l, g.text, p⟩ :: tokensFrom (p.advance g.text) gs := by
  have h : PlacedSegment.token? ⟨g, p⟩ = some ⟨.lexeme l, g.text, p⟩ := by rw [PlacedSegment.token?, hg]; rfl
  rw [tokensFrom, placedFrom_cons, List.filterMap_cons_some h]
  rfl

/-- **Tokens come from segments** and start behind the segments before. -/
theorem segment_of_mem_tokensFrom {p : Position} {gs : List Segment} {t : Token} (h : t ∈ tokensFrom p gs) :
    ∃ xs g ys l, gs = xs ++ g :: ys ∧ g.kind = .lexeme l ∧ t = ⟨.lexeme l, g.text, p.advance (textOf xs)⟩ := by
  induction gs generalizing p with
  | nil => cases h
  | cons g gs ih =>
    have hlater : t ∈ tokensFrom (p.advance g.text) gs → ∃ xs k ys l, g :: gs = xs ++ k :: ys ∧
        k.kind = .lexeme l ∧ t = ⟨.lexeme l, k.text, p.advance (textOf xs)⟩ := by
      intro ht
      obtain ⟨xs, k, ys, l, rfl, hk, rfl⟩ := ih ht
      exact ⟨g :: xs, k, ys, l, rfl, hk, by rw [textOf_cons, Position.advance_append]⟩
    cases hg : g.kind with
    | trivia k =>
      rw [tokensFrom_trivia p hg] at h
      exact hlater h
    | lexeme l =>
      rw [tokensFrom_lexeme p hg] at h
      rcases List.mem_cons.1 h with rfl | h
      · exact ⟨[], g, gs, l, rfl, hg, rfl⟩
      · exact hlater h

/-- positions of offsets are running positions -/
theorem tokensAt_withOffsets {source passed left : Text} {gs : List Segment}
    (h : passed ++ (textOf gs ++ left) = source) :
    tokensAt source (withOffsets (byteSize passed) gs) = tokensFrom (Position.start.advance passed) gs := by
  induction gs generalizing passed with
  | nil => rfl
  | cons g gs ih =>
    have hpos : positionAt source (byteSize passed) = Position.start.advance passed := by
      rw [← h]
      exact positionAt_append passed _
    have hsplit : (passed ++ g.text) ++ (textOf gs ++ left) = source := by
      rw [← h, textOf_cons, List.append_assoc, List.append_assoc]
    have hrest := ih hsplit
    rw [byteSize_append, Position.advance_append] at hrest
    rw [tokensAt, tokensFrom, withOffsets, placedFrom_cons, List.filterMap_cons, List.filterMap_cons]
    simp only [PlacedSegment.token?, hpos]
    cases g.kind.tokenKind? with
    | none => exact hrest
    | some k => exact congrArg (_ :: ·) hrest

/-! ## Whole sources -/

namespace Segmentation

/-- what segmentation stopped at, as an error with its position and offset -/
def lexicalError? (s : Segmentation) : Option LexicalError :=
  s.unexpected.map fun e => ⟨e.character, Position.start.advance (textOf s.segments), byteSize (textOf s.segments)⟩

/-- a result, unless segmentation stopped before the end -/
def resultOf {α : Type} (s : Segmentation) (a : α) : Except LexicalError α :=
  match s.lexicalError? with
  | none => .ok a
  | some e => .error e

variable {s : Segmentation} {α β : Type} {a : α}

theorem map_resultOf (f : α → β) : (s.resultOf a).map f = s.resultOf (f a) := by
  unfold resultOf
  cases s.lexicalError? <;> rfl

theorem resultOf_eq_ok_iff {b : α} : s.resultOf a = .ok b ↔ s.unexpected = none ∧ a = b := by
  unfold resultOf lexicalError?
  cases s.unexpected with
  | none => exact ⟨fun h => ⟨rfl, Except.ok.inj h⟩, fun h => congrArg Except.ok h.2⟩
  | some e => exact iff_of_false (fun h => by cases h) (fun h => by cases h.1)

theorem resultOf_eq_error_iff {e : LexicalError} : s.resultOf a = .error e ↔ s.lexicalError? = some e := by
  unfold resultOf
  cases s.lexicalError? with
  | none => exact iff_of_false (fun h => by cases h) (fun h => by cases h)
  | some d => exact ⟨fun h => congrArg some (Except.error.inj h), fun h => congrArg Except.error (Option.some.inj h)⟩

end Segmentation

/-- a segmentation without a failure has the whole text in it -/
theorem textOf_segments_of_unexpected_eq_none {t : Text} (h : (segmentation t).unexpected = none) :
    textOf (segmentation t).segments = t := by
  obtain ⟨left, hleft, hu, -⟩ := segmentation_covers t
  rw [h] at hu
  have hl : left = [] := List.head?_eq_none_iff.1 (Option.map_eq_none_iff.1 hu.symm)
  rw [hl, List.append_nil] at hleft
  exact hleft

theorem placedSegmentsFrom_unfold (found : List PlacedSegment) (p : Position) (c : Cursor) :
    placedSegmentsFrom found p c =
      match c.next with
      | (none, _) => .ok found.reverse
      | (some (.ok g), d) => placedSegmentsFrom (⟨g, p⟩ :: found) (p.advance g.text) d
      | (some (.error e), d) => .error ⟨e.character, p, d.offset⟩ := by
  rw [placedSegmentsFrom]
  split <;> simp only [*]

/-- **Placed segments, from wherever a cursor stands** without having failed, are those of the rest. -/
theorem placedSegmentsFrom_eq {source passed : Text} {c : Cursor} (h : Cursor.At source passed c)
    (hf : c.failed = false) (found : List PlacedSegment) (p : Position) :
    placedSegmentsFrom found p c =
      match (segmentation c.rest).unexpected with
      | none => .ok (found.reverse ++ placedFrom p (segmentation c.rest).segments)
      | some e => .error ⟨e.character, p.advance (textOf (segmentation c.rest).segments),
          c.offset + byteSize (textOf (segmentation c.rest).segments)⟩ := by
  induction hn : c.rest.length using Nat.strong_induction_on generalizing passed c found p with
  | _ n ih =>
    have hl := Cursor.leading_of_at h
    rcases c.next_cases with ⟨hr, hnext⟩ | ⟨g, -, hg, hnext⟩ | ⟨e, t, -, he, -, hnext⟩
    · rw [hf] at hr
      have hr : c.rest = [] := by simpa using hr
      rw [placedSegmentsFrom_unfold, hnext, hr, segmentation_of_none rfl]
      simp
    · have hlt := hn ▸ Segment.length_drop_leading hg
      rw [placedSegmentsFrom_unfold, hnext]
      simp only
      rw [ih _ hlt (h.skip hg) hf _ _ rfl, segmentation_of_some (t := c.rest) (hl ▸ hg)]
      simp only [Cursor.skip, List.reverse_cons, List.append_assoc, List.singleton_append, placedFrom_cons,
        textOf_cons, Position.advance_append, byteSize_append, Nat.add_assoc]
    · rw [placedSegmentsFrom_unfold, hnext, segmentation_of_error (hl ▸ he)]
      rfl

/-- all segments of a source with their positions, unless segmentation stops -/
theorem placedSegments_eq (source : Text) :
    placedSegments source = (segmentation source).resultOf (placedFrom .start (segmentation source).segments) := by
  rw [placedSegments, placedSegmentsFrom_eq (Cursor.at_ofText source) rfl, Segmentation.resultOf,
    Segmentation.lexicalError?]
  simp only [Cursor.ofText, Nat.zero_add, List.reverse_nil, List.nil_append]
  cases (segmentation source).unexpected <;> rfl

theorem segmentsOf_drain_ofText (source : Text) :
    segmentsOf (Cursor.ofText source).drain.1 = (segmentation source).segments := by
  rw [Cursor.drain_ofText, segmentsOf_items]

/-- the tokens of a source, by offsets and by running positions -/
theorem tokensAt_ofText (source : Text) :
    tokensAt source (withOffsets 0 (segmentsOf (Cursor.ofText source).drain.1)) =
      tokensFrom .start (segmentsOf (Cursor.ofText source).drain.1) := by
  obtain ⟨left, hleft, -⟩ := drain_ofText_covers source
  have hwhole : [] ++ (textOf (segmentsOf (Cursor.ofText source).drain.1) ++ left) = source := hleft
  exact tokensAt_withOffsets hwhole

/-- all items of a token stream: the tokens of the segments that a cursor gives, and then how the source ends -/
theorem TokenStream.drain_eq_tokensFrom (source : Text) :
    (ofText source).drain.1 = (tokensFrom .start (segmentsOf (Cursor.ofText source).drain.1)).map .ok ++
      [endingAt source (byteSize (textOf (segmentsOf (Cursor.ofText source).drain.1)))] := by
  rw [drain_ofText, itemsOf, itemsFrom, tokensAt_ofText, Nat.zero_add]

/-- all items of a token stream: the tokens of the placed segments, and then the end of the input or the error -/
theorem TokenStream.drain_eq_placed (source : Text) :
    (ofText source).drain.1 = (tokensFrom .start (segmentation source).segments).map .ok ++
      [(segmentation source).resultOf (.endOfInput (Position.start.advance source))] := by
  obtain ⟨left, hleft, hu, -⟩ := segmentation_covers source
  have hending := endingAt_append (textOf (segmentation source).segments) left
  rw [hleft] at hending
  rw [drain_eq_tokensFrom, segmentsOf_drain_ofText, hending, Segmentation.resultOf, Segmentation.lexicalError?, hu]
  cases left with
  | nil =>
    rw [List.append_nil] at hleft
    rw [hleft]
    rfl
  | cons c t => rfl

/-- all tokens of a source: those of its placed segments and the end of the input, unless segmentation stops -/
theorem tokenize_eq_placed (source : Text) :
    tokenize source = (segmentation source).resultOf
      (tokensFrom .start (segmentation source).segments ++ [.endOfInput (Position.start.advance source)]) := by
  rw [tokenize, TokenStream.drain_eq_placed, mapM_id_ok_append, Segmentation.map_resultOf]

end FlowchartLexer
