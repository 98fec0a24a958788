/-
The two modes of a listing: tokens and segments.

Each mode reads the source in its own way, with a position of its own and errors of its own making. Both come down to
the segmentation of the source (`PlacedSegments`), so they agree.

- `forall₂_becomes`: from any position on, the segments that are not ignorable become the tokens, one by one.
- `exists_placedSegments_iff`: one mode has items if the other does.
- `Options.list_of_error`: a lexical error is all that is printed, whatever the mode and the format.
- **Both modes agree** (`listing_modes_agree`): about success, about the error, and about the items.
-/
import FlowchartLexer.Proofs.CommandLine
import FlowchartLexer.Proofs.PlacedSegments

namespace FlowchartLexer

/-! ## Items -/

/-- the token has the kind that the segment is mapped to, and the text and the position of the segment -/
def PlacedSegment.Becomes (s : PlacedSegment) (t : Token) : Prop :=
  s.segment.kind.tokenKind? = some t.kind ∧ s.segment.text = t.text ∧ s.start = t.start

instance (s : PlacedSegment) (t : Token) : Decidable (s.Becomes t) :=
  inferInstanceAs (Decidable (_ ∧ _ ∧ _))

/-- segments that are not ignorable become tokens, one by one and in order -/
theorem forall₂_becomes (p : Position) (gs : List Segment) :
    List.Forall₂ PlacedSegment.Becomes ((placedFrom p gs).filter fun s => !s.segment.kind.isIgnorable)
      (tokensFrom p gs) := by
  induction gs generalizing p with
  | nil => exact List.Forall₂.nil
  | cons g gs ih =>
    cases hg : g.kind with
    | trivia t =>
      rw [tokensFrom_trivia p hg, placedFrom_cons, List.filter_cons_of_neg (by simp [hg, SegmentKind.isIgnorable])]
      exact ih _
    | lexeme l =>
      rw [tokensFrom_lexeme p hg, placedFrom_cons, List.filter_cons_of_pos (by simp [hg, SegmentKind.isIgnorable])]
      exact List.Forall₂.cons ⟨congrArg SegmentKind.tokenKind? hg, rfl, rfl⟩ (ih _)

/-- there are segments for the whole source if there are tokens for it -/
theorem exists_placedSegments_iff (source : Text) :
    (∃ ss, placedSegments source = .ok ss) ↔ ∃ ts, tokenize source = .ok ts := by
  rw [placedSegments_eq, tokenize_eq_placed]
  simp only [Segmentation.resultOf_eq_ok_iff, exists_and_left, exists_eq', and_true]

/-! ## Errors -/

/-- both modes of a listing stop at the same error -/
theorem listingItems_eq_error {source : Text} {e : LexicalError}
    (h : (segmentation source).lexicalError? = some e) (mode : ListingMode) :
    listingItems source mode = .error e := by
  cases mode with
  | tokens =>
    rw [listingItems, tokenize_eq_placed, Segmentation.resultOf_eq_error_iff.2 h]
    rfl
  | segments =>
    rw [listingItems, placedSegments_eq, Segmentation.resultOf_eq_error_iff.2 h]
    rfl

namespace Command

/-- a lexical error is reported, and nothing is listed -/
theorem Options.list_of_error {source : Text} {e : LexicalError}
    (h : (segmentation source).lexicalError? = some e) (o : Options) :
    o.list source = .failure ((e.diagnostic source o.input.fileName?).render displayWidth) := by
  rw [Options.list, listingItems_eq_error h]

/-! ## Both modes agree -/

/-- **The two modes of a listing agree** about every source.
- They fail with the same error, and so one of them succeeds if the other does.
- In case of an error, a run prints its diagnostic and lists nothing. That depends on the name of the input, but not on
  the mode or the format.
- If they succeed, the tokens before the one at the end of the input are the segments that are not ignorable, one by
  one, each with the kind that its segment is mapped to and with the text and the position of the segment. -/
theorem listing_modes_agree (source : Text) :
    (∀ e, placedSegments source = .error e ↔ tokenize source = .error e) ∧
    ((∃ items, placedSegments source = .ok items) ↔ ∃ ts, tokenize source = .ok ts) ∧
    (∀ e, tokenize source = .error e → ∀ read words o, readCommandLine words = some (.list o) →
      (read o.input).bind decode = .ok source →
        run read words = .failure ((e.diagnostic source o.input.fileName?).render displayWidth) ∧
        (run read words).output = []) ∧
    ∀ items ts, placedSegments source = .ok items → tokenize source = .ok ts →
      ∃ tokens, ts = tokens ++ [.endOfInput (Position.start.advance source)] ∧
        List.Forall₂ PlacedSegment.Becomes (items.filter fun s => !s.segment.kind.isIgnorable) tokens := by
  have hplaced := placedSegments_eq source
  have htokens := tokenize_eq_placed source
  refine ⟨?_, exists_placedSegments_iff source, ?_, ?_⟩
  · intro e
    rw [hplaced, htokens, Segmentation.resultOf_eq_error_iff, Segmentation.resultOf_eq_error_iff]
  · intro e he read words o hw hr
    have hu := Segmentation.resultOf_eq_error_iff.1 (htokens ▸ he)
    have hrun := (Reads.run_eq ⟨hw, hr⟩).trans (Options.list_of_error hu o)
    exact ⟨hrun, congrArg Outcome.output hrun⟩
  · intro items ts hi ht
    rw [hplaced, Segmentation.resultOf_eq_ok_iff] at hi
    rw [htokens, Segmentation.resultOf_eq_ok_iff] at ht
    obtain ⟨-, rfl⟩ := hi
    obtain ⟨-, rfl⟩ := ht
    exact ⟨_, rfl, forall₂_becomes .start (segmentation source).segments⟩

/-- Of two files the first has an error in its second line. Its tokens as text and its segments as JSON are asked for, and
both runs print the same. The other has a blank and a comment behind its only token. -/
theorem modes_of_two_files :
    let broken := "A\n @".toList
    let whole := "A %%x".toList
    let d : Directory := ⟨[("f".toList, (String.ofList broken).toUTF8), ("g".toList, (String.ofList whole).toUTF8)]⟩
    let printed := "Error: f:2.2: error: Lexical Error: Unexpected character at line 2, column 2: @\n".toList ++
      "    2 |  @\n".toList ++ "      |  ^\n".toList
    let segments : List PlacedSegment :=
      [⟨⟨.lexeme .identifier, ['A']⟩, ⟨1, 1⟩⟩, ⟨⟨.trivia .whitespace, [' ']⟩, ⟨1, 2⟩⟩,
        ⟨⟨.trivia .comment, "%%x".toList⟩, ⟨1, 3⟩⟩]
    let tokens : List Token := [⟨.lexeme .identifier, ['A'], ⟨1, 1⟩⟩]
    run (d.readInput .empty) (["tokens", "-ftext", "--", "f"].map String.toList) = ⟨1, [], printed⟩ ∧
    run (d.readInput .empty) (["tokens", "--segments", "-fjson", "--", "f"].map String.toList) = ⟨1, [], printed⟩ ∧
    placedSegments whole = .ok segments ∧ tokenize whole = .ok (tokens ++ [.endOfInput ⟨1, 6⟩]) ∧
    List.Forall₂ PlacedSegment.Becomes (segments.filter fun s => !s.segment.kind.isIgnorable) tokens := by
  intro broken whole d printed segments tokens
  have herror : tokenize broken = .error ⟨'@', ⟨2, 2⟩, 3⟩ := by decide +kernel
  have hprinted : Outcome.failure ((LexicalError.diagnostic ⟨'@', ⟨2, 2⟩, 3⟩ broken (some "f".toList)).render
      displayWidth) = ⟨1, [], printed⟩ := by decide +kernel
  have hrun : ∀ mode format, run (d.readInput .empty) (Options.words ⟨.file "f".toList, mode, format⟩) =
      ⟨1, [], printed⟩ := by
    intro mode format
    have hreads : Reads (d.readInput .empty) _ ⟨.file "f".toList, mode, format⟩ broken :=
      d.reads_file mode format (by decide) rfl (by decide) .empty
    exact ((listing_modes_agree broken).2.2.1 _ herror _ _ _ hreads.options hreads.contents).1.trans hprinted
  have hsegments : placedSegments whole = .ok segments := by decide +kernel
  have htokens : tokenize whole = .ok (tokens ++ [.endOfInput ⟨1, 6⟩]) := by decide +kernel
  obtain ⟨ts, hts, hbecome⟩ := (listing_modes_agree whole).2.2.2 _ _ hsegments htokens
  obtain rfl : tokens = ts := List.append_cancel_right hts
  exact ⟨hrun .tokens .text, hrun .segments .json, hsegments, htokens, hbecome⟩

end Command

end FlowchartLexer
