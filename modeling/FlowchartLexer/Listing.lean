/-
Listings: what a source consists of, written out for people or programs.

A listing shows the tokens of a source or all of its segments. It is written with one item a line, as text or as JSON,
or as one indented JSON array. A reader of tokens logs what it passes; a list of all segments logs their number.
-/
import FlowchartLexer.Token.Stream

namespace FlowchartLexer

/-! ## Segments with their positions -/

/-- the segments to come, from a position on, after those found before (the last one first) -/
def placedSegmentsFrom (found : List PlacedSegment) (p : Position) (c : Cursor) :
    Except LexicalError (List PlacedSegment) :=
  match _ : c.next with
  | (none, _) => .ok found.reverse
  | (some (.ok s), d) => placedSegmentsFrom (⟨s, p⟩ :: found) (p.advance s.text) d
  | (some (.error e), d) => .error ⟨e.character, p, d.offset⟩
termination_by c.remaining
decreasing_by exact Cursor.remaining_next_lt ‹_›

/-- all segments of a source, trivia included, or the first lexical error -/
def placedSegments (source : Text) : Except LexicalError (List PlacedSegment) :=
  placedSegmentsFrom [] .start (.ofText source)

/-! ## Formats -/

/-- what a listing shows -/
inductive ListingMode where
  | tokens
  | segments
  deriving DecidableEq, Repr

/-- how a listing is written -/
inductive ListingFormat where
  /-- one item a line, for people -/
  | text
  /-- one JSON array -/
  | json
  /-- one JSON object a line -/
  | ndjson
  deriving DecidableEq, Repr

namespace ListingFormat

/-- the format with a given name -/
def ofName? (t : Text) : Option ListingFormat :=
  if t = "text".toList then some .text
  else if t = "json".toList then some .json
  else if t = "ndjson".toList then some .ndjson
  else none

end ListingFormat

/-- an item of a listing: how it looks on a line, and its members -/
structure ListingItem where
  line : Text
  members : Json.Object
  deriving DecidableEq, Repr

def Token.listingItem (t : Token) : ListingItem :=
  ⟨t.render, t.toJson⟩

def PlacedSegment.listingItem (s : PlacedSegment) : ListingItem :=
  ⟨s.render, s.toJson⟩

/-- the items of a source, or the first lexical error -/
def listingItems (source : Text) : ListingMode → Except LexicalError (List ListingItem)
  | .tokens => (tokenize source).map (List.map Token.listingItem)
  | .segments => (placedSegments source).map (List.map PlacedSegment.listingItem)

/-- the log of a listing, the earliest entry first: that of the reader of tokens, or one entry for all segments -/
def listingLog (source : Text) : ListingMode → List LogEntry
  | .tokens => tokenLog source
  | .segments =>
    match placedSegments source with
    | .ok segments => [.listed segments.length]
    | .error _ => []

/-- texts as lines -/
def unlines (ts : List Text) : Text :=
  ts.flatMap (· ++ ['\n'])

/-- items written in a format -/
def writeListing (items : List ListingItem) : ListingFormat → Text
  | .text => unlines (items.map (·.line))
  | .ndjson => unlines (items.map (·.members.compact))
  | .json => Json.indentedArray (items.map (·.members)) ++ ['\n']

end FlowchartLexer
