/-
What a token stream gives, against the segments of its source and their offsets.

The stream keeps a running position and passes over trivia as it goes. `itemsOf` has no state: it takes each segment
with the offset it starts at, and the position of an offset is counted from the start of the source.

Invariant (`TokenStream.Live`): the cursor of the stream stands behind a beginning of the source, the position is the
one at the end of this beginning, and neither the cursor nor the stream is done.
- `TokenStream.read_tracks`, `TokenStream.read_live`: reading one item keeps it, until the last item.
- `TokenStream.read_items`: one item is the first of the items ahead, and the rest is ahead of the stream behind it.
- `TokenStream.drain_ofText`: so draining a stream gives the items of its segments.
- `tokenize_eq`: tokens of a source, from its segments.
- **Tokens are segments with positions** (`TokenStream.tokens_are_placed_segments`).
-/
import FlowchartLexer.Proofs.FrontMatterGuard
import FlowchartLexer.Token.Stream

namespace FlowchartLexer

open Calls

/-! ## Items without a running state -/

/-- the position of an offset: that of the text before it -/
def positionAt (source : Text) (o : Nat) : Position :=
  Position.start.advance (takeBytes o source)

/-- segments with the offsets they start at, from an offset on -/
def withOffsets (o : Nat) : List Segment → List (Nat × Segment)
  | [] => []
  | g :: gs => (o, g) :: withOffsets (o + byteSize g.text) gs

/-- a token for each segment that is not trivia, at the position of its offset -/
def tokensAt (source : Text) (gs : List (Nat × Segment)) : List Token :=
  gs.filterMap fun a => a.2.kind.tokenKind?.map fun k => ⟨k, a.2.text, positionAt source a.1⟩

/-- how a source that is read up to an offset ends: with the end of the input, or with the character standing there -/
def endingAt (source : Text) (o : Nat) : Except LexicalError Token :=
  match dropBytes o source with
  | [] => .ok (.endOfInput (Position.start.advance source))
  | c :: _ => .error ⟨c, positionAt source o, o⟩

/-- the items for segments that begin at an offset -/
def itemsFrom (source : Text) (o : Nat) (gs : List Segment) : List (Except LexicalError Token) :=
  (tokensAt source (withOffsets o gs)).map .ok ++ [endingAt source (o + byteSize (textOf gs))]

/-- the items for all segments of a source -/
def itemsOf (source : Text) (gs : List Segment) : List (Except LexicalError Token) :=
  itemsFrom source 0 gs

theorem positionAt_append (passed rest : Text) :
    positionAt (passed ++ rest) (byteSize passed) = Position.start.advance passed := by
  rw [positionAt, takeBytes_byteSize_append]

theorem endingAt_append (passed rest : Text) : endingAt (passed ++ rest) (byteSize passed) =
    match rest with
    | [] => .ok (.endOfInput (Position.start.advance passed))
    | c :: _ => .error ⟨c, Position.start.advance passed, byteSize passed⟩ := by
  rw [endingAt, dropBytes_byteSize_append, positionAt_append]
  cases rest with
  | nil => rw [List.append_nil]
  | cons c t => rfl

/-- a source of which a beginning has been read has come to its end, or it ends with an error -/
theorem endingAt_cases {source passed rest : Text} (h : passed ++ rest = source) :
    (passed = source ∧ endingAt source (byteSize passed) = .ok (.endOfInput (Position.start.advance source))) ∨
      passed ≠ source ∧ ∃ e, endingAt source (byteSize passed) = .error e := by
  have he := endingAt_append passed rest
  rw [h] at he
  cases rest with
  | nil =>
    rw [List.append_nil] at h
    exact Or.inl ⟨h, h ▸ he⟩
  | cons c t =>
    refine Or.inr ⟨fun hs => ?_, _, he⟩
    exact List.cons_ne_nil c t (List.append_right_eq_self.1 (h.trans hs.symm))

theorem itemsFrom_nil (source : Text) (o : Nat) : itemsFrom source o [] = [endingAt source o] := rfl

theorem itemsFrom_trivia (source : Text) (o : Nat) {g : Segment} {t : Trivia} (hg : g.kind = .trivia t)
    (gs : List Segment) : itemsFrom source o (g :: gs) = itemsFrom source (o + byteSize g.text) gs := by
  unfold itemsFrom tokensAt
  rw [withOffsets, List.filterMap_cons, textOf_cons, byteSize_append, ← Nat.add_assoc]
  simp only [hg, SegmentKind.tokenKind?, Option.map_none]

theorem itemsFrom_lexeme (source : Text) (o : Nat) {g : Segment} {l : Lexeme} (hg : g.kind = .lexeme l)
    (gs : List Segment) : itemsFrom source o (g :: gs) =
      .ok ⟨.lexeme l, g.text, positionAt source o⟩ :: itemsFrom source (o + byteSize g.text) gs := by
  unfold itemsFrom tokensAt
  rw [withOffsets, List.filterMap_cons, textOf_cons, byteSize_append, ← Nat.add_assoc]
  simp only [hg, SegmentKind.tokenKind?, Option.map_some, List.map_cons, List.cons_append]

namespace TokenStream

@[simp] theorem pass_cursor (s : TokenStream) (g : Segment) (c : Cursor) : (s.pass g c).cursor = c := rfl

/-! ## One item -/

/-- the cursor stands behind a beginning of the source, at whose end the position is -/
structure Tracks (source passed : Text) (s : TokenStream) : Prop where
  cursor : Cursor.At source passed s.cursor
  position : s.position = Position.start.advance passed

/-- neither the cursor nor the stream is done -/
structure Live (source passed : Text) (s : TokenStream) : Prop extends Tracks source passed s where
  ready : s.cursor.failed = false
  unfinished : s.finished = false

theorem live_ofText (source : Text) : Live source [] (ofText source) :=
  ⟨⟨Cursor.at_ofText source, rfl⟩, rfl, rfl⟩

variable {source passed : Text} {s : TokenStream}

theorem Tracks.positionAt_offset (h : Tracks source passed s) : positionAt source s.cursor.offset = s.position := by
  rw [h.cursor.offset, ← h.cursor.split, positionAt_append, h.position]

theorem Tracks.pass (h : Tracks source passed s) {g : Segment} {behind : Cursor}
    (hn : s.cursor.next = (some (.ok g), behind)) : Tracks source (passed ++ g.text) (s.pass g behind) := by
  refine ⟨?_, ?_⟩
  · simpa using h.cursor.of_next hn
  · rw [TokenStream.pass, h.position, Position.advance_append]

theorem read_tracks (h : Tracks source passed s) : ∃ q, Tracks source q s.read.2 := by
  fun_induction read s generalizing passed with
  | case1 s g behind hn t hk ih => exact ih (h.pass hn)
  | case2 s g behind hn l hk => exact ⟨_, (h.pass hn).cursor, (h.pass hn).position⟩
  | case3 s e behind hn => exact ⟨passed, by simpa [close] using h.cursor.of_next hn, h.position⟩
  | case4 s behind hn => exact ⟨passed, by simpa [close] using h.cursor.of_next hn, h.position⟩

theorem Live.pass (h : Live source passed s) {g : Segment} {behind : Cursor}
    (hn : s.cursor.next = (some (.ok g), behind)) : Live source (passed ++ g.text) (s.pass g behind) := by
  refine ⟨h.toTracks.pass hn, ?_, h.unfinished⟩
  obtain ⟨hf, -, rfl⟩ := Cursor.next_ok hn
  exact hf

theorem read_live (h : Live source passed s) : s.read.2.finished = true ∨ ∃ q, Live source q s.read.2 := by
  fun_induction read s generalizing passed with
  | case1 s g behind hn t hk ih => exact ih (h.pass hn)
  | case2 s g behind hn l hk =>
    have hp := h.pass hn
    exact Or.inr ⟨_, ⟨hp.cursor, hp.position⟩, hp.ready, hp.unfinished⟩
  | case3 s e behind hn => exact Or.inl rfl
  | case4 s behind hn => exact Or.inl rfl

/-- the items that a stream is still to give -/
def ahead (source : Text) (s : TokenStream) : List (Except LexicalError Token) :=
  if s.finished then [] else itemsFrom source s.cursor.offset (segmentsOf s.cursor.drain.1)

theorem ahead_of_unfinished (hs : s.finished = false) :
    ahead source s = itemsFrom source s.cursor.offset (segmentsOf s.cursor.drain.1) := by
  rw [ahead, hs]
  rfl

theorem Tracks.endingAt_offset (h : Tracks source passed s) : endingAt source s.cursor.offset =
    match s.cursor.rest with
    | [] => .ok (.endOfInput s.position)
    | c :: _ => .error ⟨c, s.position, s.cursor.offset⟩ := by
  rw [← h.cursor.split, h.cursor.offset, h.position]
  exact endingAt_append passed s.cursor.rest

/-- where the cursor fails no segment is left, and the source ends with the error of the stream -/
theorem Live.ends_with_error (h : Live source passed s) {e : UnexpectedChar} {behind : Cursor}
    (hn : s.cursor.next = (some (.error e), behind)) :
    segmentsOf s.cursor.drain.1 = [] ∧ endingAt source s.cursor.offset = .error (s.errorAt behind e) := by
  constructor
  · apply Cursor.segmentsOf_drain_of_not_ok
    rw [hn]
    rintro g ⟨⟩
  · obtain ⟨⟨t, hr⟩, rfl⟩ := Cursor.next_error hn
    rw [h.endingAt_offset, hr]
    rfl

/-- where the cursor has no answer no segment is left, and the source is at its end -/
theorem Live.ends_with_input (h : Live source passed s) {behind : Cursor} (hn : s.cursor.next = (none, behind)) :
    segmentsOf s.cursor.drain.1 = [] ∧ endingAt source s.cursor.offset = .ok (.endOfInput s.position) := by
  constructor
  · apply Cursor.segmentsOf_drain_of_not_ok
    rw [hn]
    rintro g ⟨⟩
  · obtain ⟨hf | hr, -⟩ := Cursor.next_none hn
    · rw [h.ready] at hf
      cases hf
    · rw [h.endingAt_offset, hr]

/-- **One item** is the first of those ahead, and the rest of them are ahead of the stream behind it. -/
theorem read_items (h : Live source passed s) : ahead source s = s.read.1 :: ahead source s.read.2 := by
  fun_induction read s generalizing passed with
  | case1 s g behind hn t hk ih =>
    rw [← ih (h.pass hn), ahead_of_unfinished h.unfinished, ahead_of_unfinished (h.pass hn).unfinished]
    obtain ⟨hd, ho⟩ := Cursor.segmentsOf_drain_of_ok hn
    rw [hd, itemsFrom_trivia _ _ hk, pass_cursor, ho]
  | case2 s g behind hn l hk =>
    have ha : ahead source { s.pass g behind with tokens := s.tokens + 1 } =
        itemsFrom source behind.offset (segmentsOf behind.drain.1) := ahead_of_unfinished h.unfinished
    obtain ⟨hd, ho⟩ := Cursor.segmentsOf_drain_of_ok hn
    show _ = .ok ⟨.lexeme l, g.text, s.position⟩ :: ahead source { s.pass g behind with tokens := s.tokens + 1 }
    rw [ahead_of_unfinished h.unfinished, hd, itemsFrom_lexeme _ _ hk, h.positionAt_offset, ha, ho]
  | case3 s e behind hn =>
    obtain ⟨hd, hend⟩ := h.ends_with_error hn
    rw [ahead_of_unfinished h.unfinished, hd, itemsFrom_nil, hend]
    rfl
  | case4 s behind hn =>
    obtain ⟨hd, hend⟩ := h.ends_with_input hn
    rw [ahead_of_unfinished h.unfinished, hd, itemsFrom_nil, hend]
    rfl

/-! ## All items -/

theorem fused : Fused next := by
  intro s h
  rw [next] at h ⊢
  split at h
  · next hf => rw [if_pos hf]
  · cases h

theorem collects_drainOnto : Collects next drainOnto remaining := by
  refine ⟨fun read s => ?_, fun _ _ _ => remaining_next_lt⟩
  rw [drainOnto]
  split <;> simp only [*]

theorem next_of_finished (hs : s.finished = true) : s.next = (none, s) :=
  if_pos hs

theorem next_of_unfinished (hs : s.finished = false) : s.next = (some s.read.1, s.read.2) := by
  rw [next, hs]
  rfl

/-- **Draining** a stream that is not done gives the items ahead of it. -/
theorem drain_eq_ahead (h : Live source passed s) : s.drain.1 = ahead source s := by
  induction hn : s.remaining using Nat.strong_induction_on generalizing passed s with
  | _ n ih =>
    have hnext := next_of_unfinished h.unfinished
    have hlt := hn ▸ remaining_next_lt hnext
    have hd : s.drain.1 = s.read.1 :: s.read.2.drain.1 := by
      rw [drain, collects_drainOnto.of_some (by rw [hnext]), hnext]
      rfl
    rw [hd, read_items h]
    rcases read_live h with hf | ⟨q, hq⟩
    · have hend : s.read.2.drain.1 = [] := by
        rw [drain, collects_drainOnto.of_none (by rw [next_of_finished hf])]
      rw [hend, ahead, if_pos hf]
    · rw [ih _ hlt hq rfl]

theorem drain_ofText (source : Text) :
    (ofText source).drain.1 = itemsOf source (segmentsOf (Cursor.ofText source).drain.1) := by
  rw [drain_eq_ahead (live_ofText source), ahead_of_unfinished rfl]
  rfl

theorem Tracks.next (h : Tracks source passed s) : ∃ q, Tracks source q s.next.2 := by
  cases hf : s.finished with
  | true => rw [next_of_finished hf]; exact ⟨passed, h⟩
  | false => rw [next_of_unfinished hf]; exact read_tracks h

theorem tracks_after (source : Text) (n : Nat) : ∃ q, Tracks source q (after next (ofText source) n) :=
  after_induction (P := fun s => ∃ q, Tracks source q s) ⟨[], (live_ofText source).toTracks⟩
    (fun _ ⟨_, hq⟩ => hq.next) n

end TokenStream

/-! ## All tokens -/

/-- the offsets at which segments start are those of the cursor that gives them -/
theorem withOffsets_getElem? (c : Cursor) (n : Nat) :
    (withOffsets c.offset (segmentsOf c.drain.1))[n]? =
      (segmentsOf c.drain.1)[n]?.map fun g => ((after Cursor.next c n).offset, g) := by
  induction n generalizing c with
  | zero => cases segmentsOf c.drain.1 <;> rfl
  | succ n ih =>
    by_cases hg : ∃ g, c.next.1 = some (.ok g)
    · obtain ⟨g, hg⟩ := hg
      obtain ⟨hd, ho⟩ := Cursor.segmentsOf_drain_of_ok (Prod.ext hg rfl)
      rw [hd, withOffsets, List.getElem?_cons_succ, List.getElem?_cons_succ, ← ho, ih, after_next]
    · rw [Cursor.segmentsOf_drain_of_not_ok (not_exists.1 hg)]
      rfl

theorem mem_withOffsets {o : Nat} {gs : List Segment} {a : Nat × Segment} (h : a ∈ withOffsets o gs) : a.2 ∈ gs := by
  induction gs generalizing o with
  | nil => cases h
  | cons g gs ih =>
    rcases List.mem_cons.1 h with rfl | h
    · exact List.mem_cons_self
    · exact List.mem_cons_of_mem g (ih h)

/-- a token made from a segment has its text, and is not the one at the end of the input -/
theorem mem_tokensAt {source : Text} {as : List (Nat × Segment)} {t : Token} (h : t ∈ tokensAt source as) :
    t.isEndOfInput = false ∧ ∃ a ∈ as, t.text = a.2.text := by
  obtain ⟨a, ha, ht⟩ := List.mem_filterMap.1 h
  obtain ⟨k, hk, rfl⟩ := Option.map_eq_some_iff.1 ht
  refine ⟨?_, a, ha, rfl⟩
  cases hg : a.2.kind with
  | trivia t => rw [hg] at hk; cases hk
  | lexeme l => rw [hg] at hk; cases hk; rfl

theorem mapM_id_ok_append {ε α : Type} (as : List α) (i : Except ε α) :
    (as.map Except.ok ++ [i]).mapM id = i.map fun a => as ++ [a] := by
  induction as with
  | nil => cases i <;> rfl
  | cons a as ih =>
    rw [List.map_cons, List.cons_append, List.mapM_cons, ih]
    cases i <;> rfl

/-- the segments given are a beginning of the source, and a failure comes where something is left of it -/
theorem drain_ofText_covers (source : Text) :
    let gs := segmentsOf (Cursor.ofText source).drain.1
    ∃ left, textOf gs ++ left = source ∧ (∀ g ∈ gs, g.text ≠ []) ∧
      (Cursor.ofText source).drain.1 = gs.map .ok ++ (left.head?.map fun c => .error ⟨c⟩).toList := by
  intro gs
  have hitems : (Cursor.ofText source).drain.1 = (segmentation source).items := Cursor.drain_ofText source
  have hgs : gs = (segmentation source).segments := by
    rw [← segmentsOf_items, ← hitems]
  obtain ⟨left, hleft, hu, hne⟩ := segmentation_covers source
  rw [hgs]
  refine ⟨left, hleft, hne, ?_⟩
  rw [hitems, Segmentation.items, hu, Option.map_map]
  rfl

theorem tokenize_eq (source : Text) :
    let gs := segmentsOf (Cursor.ofText source).drain.1
    tokenize source =
      (endingAt source (byteSize (textOf gs))).map fun t => tokensAt source (withOffsets 0 gs) ++ [t] := by
  intro gs
  rw [tokenize, TokenStream.drain_ofText, itemsOf, itemsFrom, Nat.zero_add, mapM_id_ok_append]

/-- **Tokens are segments with positions.** Let `gs` be the segments that a cursor gives, and `o` their size.
- The cursor fails exactly if something is left behind them, and the offset of each is where the cursor was before it.
- Call by call, a stream gives a token for each segment that is not trivia, in order and at the position of its offset.
  Then comes the end of the input or the error at `o`, and no call after that has an answer.
- After any number of calls the position is that of the offset up to which the source has been read.
- There are tokens for the whole source exactly if the segments cover it. The last one is then at the end of the input,
  no other one is, and no other one has an empty text.
- Otherwise there is the error of the stream. -/
theorem TokenStream.tokens_are_placed_segments (source : Text) :
    let items := (Cursor.ofText source).drain.1
    let gs := segmentsOf items
    let o := byteSize (textOf gs)
    let tokens := tokensAt source (withOffsets 0 gs)
    let s := after next (ofText source)
    (items = gs.map .ok ++ ((dropBytes o source).head?.map fun c => .error ⟨c⟩).toList ∧
      ∀ n, (withOffsets 0 gs)[n]? = gs[n]?.map fun g => ((after Cursor.next (Cursor.ofText source) n).offset, g)) ∧
    (∀ n, answer next (ofText source) n = (tokens.map .ok ++ [endingAt source o])[n]?) ∧
    (∀ n, dropBytes (s n).cursor.offset source = (s n).cursor.rest ∧ IsCharBoundary source (s n).cursor.offset ∧
      (s n).position = positionAt source (s n).cursor.offset) ∧
    ((∃ ts, tokenize source = .ok ts) ↔ textOf gs = source) ∧
    (∀ ts, tokenize source = .ok ts → ts = tokens ++ [.endOfInput (Position.start.advance source)] ∧
      ∀ t ∈ tokens, t.isEndOfInput = false ∧ t.text ≠ []) ∧
    ∀ e, tokenize source = .error e ↔ endingAt source o = .error e := by
  intro items gs o tokens s
  obtain ⟨left, hleft, hne, hitems⟩ := drain_ofText_covers source
  have hdrop : dropBytes o source = left := by
    conv_lhs => rw [← hleft]
    exact dropBytes_byteSize_append (textOf gs) left
  have hending := endingAt_cases hleft
  have htokenize : tokenize source = (endingAt source o).map fun t => tokens ++ [t] := tokenize_eq source
  have htokens : ∀ t ∈ tokens, t.isEndOfInput = false ∧ t.text ≠ [] := by
    intro t ht
    obtain ⟨hk, a, ha, htext⟩ := mem_tokensAt ht
    exact ⟨hk, htext ▸ hne a.2 (mem_withOffsets ha)⟩
  refine ⟨⟨?_, withOffsets_getElem? (Cursor.ofText source)⟩, ?_, ?_, ?_, ?_, ?_⟩
  · rw [hdrop]
    exact hitems
  · intro n
    rw [show answer next (ofText source) n = _ from collects_drainOnto.answer_eq_getElem? fused _ n]
    show (ofText source).drain.1[n]? = _
    rw [drain_ofText, itemsOf, itemsFrom, Nat.zero_add]
  · intro n
    obtain ⟨q, hq⟩ := tracks_after source n
    exact ⟨hq.cursor.dropBytes_offset, hq.cursor.isCharBoundary, hq.positionAt_offset.symm⟩
  · rcases hending with ⟨hs, he⟩ | ⟨hs, e, he⟩
    · rw [htokenize, he]
      exact iff_of_true ⟨_, rfl⟩ hs
    · rw [htokenize, he]
      refine iff_of_false ?_ hs
      rintro ⟨ts, h⟩
      cases h
  · intro ts h
    rcases hending with ⟨-, he⟩ | ⟨-, e, he⟩
    · rw [htokenize, he] at h
      cases h
      exact ⟨rfl, htokens⟩
    · rw [htokenize, he] at h
      cases h
  · intro e
    rw [htokenize]
    cases endingAt source o with
    | ok t => exact iff_of_false (fun h => by cases h) (fun h => by cases h)
    | error d => simp only [Except.map, Except.error.injEq]

end FlowchartLexer
