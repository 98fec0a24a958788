/-
Reading segments one at a time.

A cursor stands between two segments of a source. It knows how many bytes it has passed and where front matter could
close at the latest; beyond that place it does not try the front matter rule, which would have to look through all of
what is left. At the end of the source, and after a character that no rule takes, it stays where it is.

**Reading always comes to an end** (`Cursor.remaining_next_lt`): each item uses up part of the rest.
-/
import FlowchartLexer.Segment.Basic

namespace FlowchartLexer

/-! ## The last place where front matter can close -/

/-- whether a text begins with the mark around front matter -/
def startsWithFence : Text → Bool
  | '-' :: '-' :: '-' :: _ => true
  | _ => false

/-- the offset of the last `---` right behind a line break in a text that begins at an offset, if it has one -/
def lastCloseFrom (offset : Nat) (latest : Option Nat) : Text → Option Nat
  | [] => latest
  | c :: t =>
    let after := offset + c.utf8Size
    lastCloseFrom after (if isLineBreak c && startsWithFence t then some after else latest) t

/-- the offset of the last `---` right behind a line break -/
def lastClose? (t : Text) : Option Nat :=
  lastCloseFrom 0 none t

/-! ## Cursors -/

/-- a place between two segments of a source -/
structure Cursor where
  /-- the text that is still to be read -/
  rest : Text
  /-- bytes passed -/
  offset : Nat
  /-- where front matter closes at the latest -/
  lastClose : Option Nat
  /-- an unexpected character has been reported -/
  failed : Bool
  deriving DecidableEq, Repr

namespace Cursor

/-- before the first segment -/
def ofText (source : Text) : Cursor :=
  ⟨source, 0, lastClose? source, false⟩

/-- front matter may begin here: three bytes and a line break later it may still close -/
def mayOpenFrontMatter (c : Cursor) : Bool :=
  match c.lastClose with
  | none => false
  | some close => c.offset + 3 < close

/-- past a segment that the rest begins with -/
def skip (c : Cursor) (s : Segment) : Cursor :=
  { c with rest := c.rest.drop s.text.length, offset := c.offset + byteSize s.text }

/-- the next segment or the unexpected character, if there is one, and the cursor behind it -/
def next (c : Cursor) : Option (Except UnexpectedChar Segment) × Cursor :=
  if c.failed then
    (none, c)
  else
    match Segment.leading c.mayOpenFrontMatter c.rest with
    | .ok none => (none, c)
    | .ok (some s) => (some (.ok s), c.skip s)
    | .error e => (some (.error e), { c with failed := true })

/-- a bound on the number of items to come -/
def remaining (c : Cursor) : Nat :=
  if c.failed then 0 else c.rest.length + 1

theorem remaining_next_lt {c d : Cursor} {i : Except UnexpectedChar Segment} (h : c.next = (some i, d)) :
    d.remaining < c.remaining := by
  rw [next] at h
  split at h
  · simp at h
  · next hf =>
    split at h
    · simp at h
    · next s hs =>
      obtain ⟨-, rfl⟩ := Prod.mk.inj h
      have := Segment.length_drop_leading hs
      simp only [remaining, skip, hf]
      simpa using this
    · obtain ⟨-, rfl⟩ := Prod.mk.inj h
      simp [remaining, hf]

/-- items up to the end, after those read before (the last one first), and the cursor that is left -/
def drainOnto (read : List (Except UnexpectedChar Segment)) (c : Cursor) :
    List (Except UnexpectedChar Segment) × Cursor :=
  match _ : c.next with
  | (none, d) => (read.reverse, d)
  | (some i, d) => drainOnto (i :: read) d
termination_by c.remaining
decreasing_by exact remaining_next_lt ‹_›

/-- all items that are still to come, and the cursor behind them -/
def drain (c : Cursor) : List (Except UnexpectedChar Segment) × Cursor :=
  drainOnto [] c

end Cursor

end FlowchartLexer
