/-
The log of a token stream.

A stream logs an entry for each segment that it passes, and one for its last item. The entries are made in three places
of one loop, and the numbers in them come from a counter of their own. Here the log is compared with the segments of the
source: `entriesFrom` is what a stream is still to log, from its position, its offset and its counter.

Invariant (`TokenStream.record`): what a stream has logged and what it is still to log. An item moves entries from the
second part to the first and changes neither their order nor what is in them.
- `TokenStream.record_read`: one item, and `TokenStream.record_after`: any number of calls.
- `TokenStream.log_isPrefix`: so entries are only added, and never one that is not in the log of the whole source.
- `tokenLog_eq`: behind the last item nothing is left to log.
- `listingLog_segments`: a list of all segments logs the number of the segments that a token stream passes.
- `map_placedFrom`: the position of a segment is that behind all segments before it.
- **The log records the reading** (`TokenStream.log_records_the_reading`).
-/
import FlowchartLexer.Proofs.PlacedSegments

namespace FlowchartLexer

open Calls

/-! ## What is still to be logged -/

/-- the entry for the last item of a stream that has given out a number of tokens -/
def LogEntry.ofLast (tokens : Nat) : Except LexicalError Token → LogEntry
  | .ok t => .finished tokens t.start
  | .error e => .failed tokens e

theorem LogEntry.level_ofLast (tokens : Nat) (i : Except LexicalError Token) : (ofLast tokens i).level = .debug := by
  cases i <;> rfl

/-- the entries for segments that are placed from a position and an offset on, and for the last item behind them -/
def entriesFrom (source : Text) (p : Position) (o tokens : Nat) (gs : List Segment) : List LogEntry :=
  (placedFrom p gs).map .passed ++
    [.ofLast (tokens + (tokensFrom p gs).length) (endingAt source (o + byteSize (textOf gs)))]

theorem entriesFrom_nil (source : Text) (p : Position) (o tokens : Nat) :
    entriesFrom source p o tokens [] = [.ofLast tokens (endingAt source o)] := rfl

theorem entriesFrom_trivia (source : Text) (p : Position) (o tokens : Nat) {g : Segment} {t : Trivia}
    (hg : g.kind = .trivia t) (gs : List Segment) :
    entriesFrom source p o tokens (g :: gs) =
      .passed ⟨g, p⟩ :: entriesFrom source (p.advance g.text) (o + byteSize g.text) tokens gs := by
  unfold entriesFrom
  rw [tokensFrom_trivia p hg, placedFrom_cons, textOf_cons, byteSize_append, Nat.add_assoc]
  rfl

/-- a lexeme is counted -/
theorem entriesFrom_lexeme (source : Text) (p : Position) (o tokens : Nat) {g : Segment} {l : Lexeme}
    (hg : g.kind = .lexeme l) (gs : List Segment) :
    entriesFrom source p o tokens (g :: gs) =
      .passed ⟨g, p⟩ :: entriesFrom source (p.advance g.text) (o + byteSize g.text) (tokens + 1) gs := by
  unfold entriesFrom
  rw [tokensFrom_lexeme p hg, placedFrom_cons, textOf_cons, byteSize_append, List.length_cons, Nat.add_assoc o,
    Nat.add_assoc tokens, Nat.add_comm 1]
  rfl

namespace TokenStream

variable {source passed : Text} {s : TokenStream}

/-- the entries that a stream is still to log -/
def entriesAhead (source : Text) (s : TokenStream) : List LogEntry :=
  if s.finished then [] else entriesFrom source s.position s.cursor.offset s.tokens (segmentsOf s.cursor.drain.1)

/-- what a stream has logged, and then what it is still to log -/
def record (source : Text) (s : TokenStream) : List LogEntry :=
  s.log.reverse ++ entriesAhead source s

theorem record_of_finished (hs : s.finished = true) : record source s = s.log.reverse := by
  simp [record, entriesAhead, hs]

theorem record_of_unfinished (hs : s.finished = false) : record source s =
    s.log.reverse ++ entriesFrom source s.position s.cursor.offset s.tokens (segmentsOf s.cursor.drain.1) := by
  simp [record, entriesAhead, hs]

/-! ## One item -/

/-- **One item** leaves the record as it is. -/
theorem record_read (h : Live source passed s) : record source s.read.2 = record source s := by
  fun_induction read s generalizing passed with
  | case1 s g behind hn t hk ih =>
    -- trivia: its entry is made, and the same call goes on
    obtain ⟨hd, ho⟩ := Cursor.segmentsOf_drain_of_ok hn
    have hp := h.pass hn
    rw [ih hp, record_of_unfinished h.unfinished, record_of_unfinished hp.unfinished, hd, entriesFrom_trivia _ _ _ _ hk,
      ← ho]
    simp [pass]
  | case2 s g behind hn l hk =>
    -- a lexeme: its entry is made, and it is counted
    obtain ⟨hd, ho⟩ := Cursor.segmentsOf_drain_of_ok hn
    rw [record_of_unfinished h.unfinished, hd, entriesFrom_lexeme _ _ _ _ hk, ← ho,
      record_of_unfinished (s := { s.pass g behind with tokens := s.tokens + 1 }) h.unfinished]
    simp [pass]
  | case3 s e behind hn =>
    obtain ⟨hd, hend⟩ := h.ends_with_error hn
    rw [record_of_finished rfl, record_of_unfinished h.unfinished, hd, entriesFrom_nil, hend]
    exact List.reverse_cons
  | case4 s behind hn =>
    obtain ⟨hd, hend⟩ := h.ends_with_input hn
    rw [record_of_finished rfl, record_of_unfinished h.unfinished, hd, entriesFrom_nil, hend]
    exact List.reverse_cons

/-! ## Any number of calls -/

theorem finished_of_next_eq_none (h : s.next.1 = none) : s.finished = true := by
  cases hf : s.finished with
  | true => rfl
  | false =>
    rw [next_of_unfinished hf] at h
    cases h

theorem live_next (h : s.finished = true ∨ ∃ q, Live source q s) :
    s.next.2.finished = true ∨ ∃ q, Live source q s.next.2 := by
  rcases h with hf | ⟨q, hq⟩
  · rw [next_of_finished hf]
    exact Or.inl hf
  · rw [next_of_unfinished hq.unfinished]
    exact read_live hq

theorem live_after (source : Text) (n : Nat) :
    (after next (ofText source) n).finished = true ∨ ∃ q, Live source q (after next (ofText source) n) :=
  after_induction (P := fun s => s.finished = true ∨ ∃ q, Live source q s) (Or.inr ⟨[], live_ofText source⟩)
    (fun _ h => live_next h) n

theorem record_next (h : s.finished = true ∨ ∃ q, Live source q s) : record source s.next.2 = record source s := by
  rcases h with hf | ⟨q, hq⟩
  · rw [next_of_finished hf]
  · rw [next_of_unfinished hq.unfinished]
    exact record_read hq

/-- **Any number of calls** leave the record as it is. -/
theorem record_after (source : Text) (n : Nat) :
    record source (after next (ofText source) n) = record source (ofText source) := by
  induction n with
  | zero => rfl
  | succ n ih => rw [after_succ, record_next (live_after source n), ih]

theorem record_ofText (source : Text) : record source (ofText source) =
    entriesFrom source .start 0 0 (segmentsOf (Cursor.ofText source).drain.1) :=
  record_of_unfinished rfl

/-- when all items have been given out, the stream is done and stays as it is -/
theorem after_items (source : Text) {k : Nat} (hk : (ofText source).drain.1.length ≤ k) :
    after next (ofText source) k = (ofText source).drain.2 ∧ (ofText source).drain.2.finished = true := by
  have hnone : answer next (ofText source) (ofText source).drain.1.length = none := by
    rw [collects_drainOnto.answer_eq_getElem? fused]
    exact List.getElem?_eq_none (Nat.le_refl _)
  have hlast : (ofText source).drain.2 = after next (ofText source) (ofText source).drain.1.length :=
    collects_drainOnto.state_eq_after fused (ofText source)
  rw [hlast]
  exact ⟨(fused.stays hnone hk).1, finished_of_next_eq_none hnone⟩

end TokenStream

/-- **The log of a source**, entry by entry: behind the last item nothing is left to log. -/
theorem tokenLog_eq (source : Text) :
    tokenLog source = entriesFrom source .start 0 0 (segmentsOf (Cursor.ofText source).drain.1) := by
  obtain ⟨hafter, hfinished⟩ := TokenStream.after_items source (Nat.le_refl _)
  have hrecord := TokenStream.record_after source (TokenStream.ofText source).drain.1.length
  rw [hafter, TokenStream.record_of_finished hfinished, TokenStream.record_ofText] at hrecord
  exact hrecord

example : tokenLog "A %%\n@".toList =
    [.passed ⟨⟨.lexeme .identifier, ['A']⟩, ⟨1, 1⟩⟩, .passed ⟨⟨.trivia .whitespace, [' ']⟩, ⟨1, 2⟩⟩,
      .passed ⟨⟨.trivia .comment, ['%', '%']⟩, ⟨1, 3⟩⟩, .passed ⟨⟨.trivia .whitespace, ['\n']⟩, ⟨1, 5⟩⟩,
      .failed 1 ⟨'@', ⟨2, 1⟩, 5⟩] := by decide +kernel

/-- at any time the log is a beginning of that of the whole source -/
theorem TokenStream.log_isPrefix (source : Text) (n : Nat) :
    (after next (ofText source) n).log.reverse <+: tokenLog source := by
  rw [tokenLog_eq, ← record_ofText, ← record_after source n]
  exact List.prefix_append _ _

/-! ## The log of a listing -/

/-- segments are what is logged at trace level -/
theorem countP_entriesFrom (source : Text) (p : Position) (o tokens : Nat) (gs : List Segment) :
    (entriesFrom source p o tokens gs).countP (·.level = .trace) = (placedFrom p gs).length := by
  have hpassed : ((fun e : LogEntry => decide (e.level = .trace)) ∘ LogEntry.passed) = fun _ => true := rfl
  rw [entriesFrom, List.countP_append, List.countP_map, hpassed, List.countP_true]
  simp [LogEntry.level_ofLast]

/-- **The logs of both modes** are about the same segments: the number that is logged for a list of all segments is that
of the segments in the log of the tokens. In case of an error only the second log says so. -/
theorem listingLog_segments (source : Text) :
    listingLog source .segments =
      match tokenize source with
      | .ok _ => [.listed ((listingLog source .tokens).countP (·.level = .trace))]
      | .error _ => [] := by
  rw [listingLog, listingLog, placedSegments_eq, tokenize_eq_placed, tokenLog_eq, segmentsOf_drain_ofText,
    countP_entriesFrom]
  unfold Segmentation.resultOf
  cases (segmentation source).lexicalError? <;> rfl

/-! ## What the messages say -/

/-- the position of a segment is the one behind all segments before it -/
theorem map_placedFrom {α : Type} (f : PlacedSegment → α) (p : Position) (gs : List Segment) :
    (placedFrom p gs).map f = gs.mapIdx fun i g => f ⟨g, p.advance (textOf (gs.take i))⟩ := by
  induction gs generalizing p with
  | nil => rfl
  | cons g gs ih =>
    rw [placedFrom_cons, List.map_cons, ih, List.mapIdx_cons]
    simp only [List.take_succ_cons, textOf_cons, Position.advance_append]
    rfl

/-- the messages of a log: one at trace level for each segment, and one at debug level for the last item -/
theorem messages_tokenLog (source : Text) :
    let gs := segmentsOf (Cursor.ofText source).drain.1
    ((tokenLog source).map fun e => (e.level, e.message)) =
      gs.mapIdx (fun i g => (LogLevel.trace, g.kind.name.toList ++ ' ' :: quoted g.text ++ " at ".toList ++
        (Position.start.advance (textOf (gs.take i))).render)) ++
      [(.debug, (LogEntry.ofLast (tokensFrom .start gs).length (endingAt source (byteSize (textOf gs)))).message)] := by
  intro gs
  rw [tokenLog_eq, entriesFrom, List.map_append, List.map_map, map_placedFrom, List.map_singleton,
    LogEntry.level_ofLast, Nat.zero_add, Nat.zero_add]
  rfl

/-- **The log records the reading.** Let `gs` be the segments that a cursor gives, `items` what a stream gives, and `log`
the log of reading all tokens of a source.
- There is one message at trace level for each segment, trivia included, and in the same order. It has the kind, the
  quoted text, and the position behind all segments before. Then there is one message at debug level.
- If there are tokens for the whole source, the last one is at the end of the input. The last message has its position
  and the number of the other tokens.
- Otherwise the last message has the number of tokens before the error and ends with the message of the error.
- Call by call, the log is a beginning of this one. It is all of it once the last item has been given out, and no call
  after that adds to it. -/
theorem TokenStream.log_records_the_reading (source : Text) :
    let gs := segmentsOf (Cursor.ofText source).drain.1
    let items := (ofText source).drain.1
    let log := tokenLog source
    let s := after next (ofText source)
    (∃ last,
      (log.map fun e => (e.level, e.message)) =
        gs.mapIdx (fun i g => (LogLevel.trace, g.kind.name.toList ++ ' ' :: quoted g.text ++ " at ".toList ++
          (Position.start.advance (textOf (gs.take i))).render)) ++ [(LogLevel.debug, last)] ∧
      match tokenize source with
      | .ok ts => items = ts.map .ok ∧ ∃ p, ts.getLast? = some (.endOfInput p) ∧
          last = "scanned ".toList ++ decimal (ts.length - 1) ++ " tokens, ending at ".toList ++ p.render
      | .error e => ∃ ts : List Token, items = ts.map .ok ++ [.error e] ∧
          last = "scanning failed after ".toList ++ decimal ts.length ++ " tokens: ".toList ++ e.message) ∧
    ∀ n, answer next (ofText source) n = items[n]? ∧ (s n).log.reverse <+: log ∧
      (items.length ≤ n → (s n).log.reverse = log) := by
  intro gs items log s
  obtain ⟨left, hleft, -⟩ := drain_ofText_covers source
  have hitems := drain_eq_tokensFrom source
  have htokenize := tokenize_eq source
  simp only [tokensAt_ofText] at htokenize
  constructor
  · refine ⟨_, messages_tokenLog source, ?_⟩
    rcases endingAt_cases hleft with ⟨-, hend⟩ | ⟨-, e, hend⟩
    · -- the token at the end of the input is not counted
      rw [hend] at hitems htokenize ⊢
      rw [htokenize]
      refine ⟨?_, Position.start.advance source, List.getLast?_concat, ?_⟩
      · show (ofText source).drain.1 = (tokensFrom .start gs ++ [_]).map .ok
        rw [hitems, List.map_append]
        rfl
      · rw [List.length_append, List.length_singleton, Nat.add_sub_cancel]
        rfl
    · rw [hend] at hitems htokenize ⊢
      rw [htokenize]
      exact ⟨tokensFrom .start gs, hitems, rfl⟩
  · intro n
    refine ⟨collects_drainOnto.answer_eq_getElem? fused (ofText source) n, log_isPrefix source n, ?_⟩
    intro hn
    show (after next (ofText source) n).log.reverse = tokenLog source
    rw [(after_items source hn).1]
    rfl

end FlowchartLexer
