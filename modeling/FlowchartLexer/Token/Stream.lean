/-
Reading tokens one at a time.

A token stream reads segments through a cursor, passes over trivia and turns each lexeme into a token at the position
where it starts. After the last one comes the token at the end of the input, or else one lexical error, and then
nothing more. The stream keeps a log of what it did.

**Reading always comes to an end** (`TokenStream.remaining_next_lt`), so `tokenize` reads all tokens of a source.
-/
import FlowchartLexer.Segment.Cursor
import FlowchartLexer.Token.Log

namespace FlowchartLexer

/-- a source that is being read -/
structure TokenStream where
  cursor : Cursor
  /-- where the next segment starts -/
  position : Position
  /-- lexemes passed -/
  tokens : Nat
  /-- the last item has been given out -/
  finished : Bool
  /-- what happened, the latest first -/
  log : List LogEntry
  deriving DecidableEq, Repr

namespace TokenStream

/-- before the first segment -/
def ofText (source : Text) : TokenStream :=
  ⟨.ofText source, .start, 0, false, []⟩

/-- past a segment, with the cursor behind it -/
def pass (s : TokenStream) (g : Segment) (behind : Cursor) : TokenStream :=
  { s with
    cursor := behind
    position := s.position.advance g.text
    log := .passed ⟨g, s.position⟩ :: s.log }

/-- past the last item -/
def close (s : TokenStream) (behind : Cursor) (entry : LogEntry) : TokenStream :=
  { s with cursor := behind, finished := true, log := entry :: s.log }

/-- the error of a stream that meets a character which no rule takes -/
def errorAt (s : TokenStream) (behind : Cursor) (e : UnexpectedChar) : LexicalError :=
  ⟨e.character, s.position, behind.offset⟩

/-- the next item of a stream that has not given out its last one -/
def read (s : TokenStream) : Except LexicalError Token × TokenStream :=
  match _ : s.cursor.next with
  | (some (.ok g), behind) =>
    match g.kind with
    | .trivia _ => read (s.pass g behind)
    | .lexeme l => (.ok ⟨.lexeme l, g.text, s.position⟩, { s.pass g behind with tokens := s.tokens + 1 })
  | (some (.error e), behind) =>
    let error := s.errorAt behind e
    (.error error, s.close behind (.failed s.tokens error))
  | (none, behind) => (.ok (.endOfInput s.position), s.close behind (.finished s.tokens s.position))
termination_by s.cursor.remaining
decreasing_by exact Cursor.remaining_next_lt ‹_›

/-- the next item, if there is one, and the stream behind it -/
def next (s : TokenStream) : Option (Except LexicalError Token) × TokenStream :=
  if s.finished then (none, s) else (some s.read.1, s.read.2)

/-- a bound on the number of items to come -/
def remaining (s : TokenStream) : Nat :=
  if s.finished then 0 else s.cursor.remaining + 1

theorem remaining_read_le (s : TokenStream) : s.read.2.remaining ≤ s.cursor.remaining := by
  fun_induction read s with
  | case1 s g behind h t hk ih =>
    exact Nat.le_trans ih (Nat.le_of_lt (Cursor.remaining_next_lt h))
  | case2 s g behind h l hk =>
    have := Cursor.remaining_next_lt h
    cases hf : s.finished
    · simp only [remaining, pass, hf]
      simp only [Bool.false_eq_true, ↓reduceIte]
      omega
    · simp [remaining, pass, hf]
  | case3 s e behind h => simp [remaining, close]
  | case4 s behind h => simp [remaining, close]

theorem remaining_next_lt {s r : TokenStream} {i : Except LexicalError Token} (h : s.next = (some i, r)) :
    r.remaining < s.remaining := by
  rw [next] at h
  split at h
  · simp at h
  · next hf =>
    obtain ⟨-, rfl⟩ := Prod.mk.inj h
    have := remaining_read_le s
    simp only [remaining, hf] at *
    simp only [Bool.false_eq_true, ↓reduceIte]
    omega

/-- items up to the end, after those read before (the last one first), and the stream that is left -/
def drainOnto (items : List (Except LexicalError Token)) (s : TokenStream) :
    List (Except LexicalError Token) × TokenStream :=
  match _ : s.next with
  | (none, r) => (items.reverse, r)
  | (some i, r) => drainOnto (i :: items) r
termination_by s.remaining
decreasing_by exact remaining_next_lt ‹_›

/-- all items that are still to come, and the stream behind them -/
def drain (s : TokenStream) : List (Except LexicalError Token) × TokenStream :=
  drainOnto [] s

end TokenStream

/-- all tokens of a source, the end of the input last, or the first lexical error -/
def tokenize (source : Text) : Except LexicalError (List Token) :=
  (TokenStream.ofText source).drain.1.mapM id

/-- the log of reading all tokens of a source, the earliest entry first -/
def tokenLog (source : Text) : List LogEntry :=
  (TokenStream.ofText source).drain.2.log.reverse

end FlowchartLexer
