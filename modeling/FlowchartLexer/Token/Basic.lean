/-
Tokens: what a parser reads. A token has a kind, the text it was made from and the position of its first character.
-/
import FlowchartLexer.Position
import FlowchartLexer.Segment.Basic
import FlowchartLexer.Text.Json
import FlowchartLexer.Text.Quoted
import FlowchartLexer.Token.Kind

namespace FlowchartLexer

/-- a token -/
structure Token where
  kind : TokenKind
  text : Text
  start : Position
  deriving DecidableEq, Repr

/-- a segment and the position of its first character -/
structure PlacedSegment where
  segment : Segment
  start : Position
  deriving DecidableEq, Repr

/-- the name of a kind, a quoted text and a position, as one line shows them -/
def describe (name : String) (t : Text) (p : Position) : Text :=
  name.toList ++ ' ' :: quoted t ++ " at ".toList ++ p.render

namespace Token

/-- the text of the token at the end of the input -/
def endOfInputText : Text :=
  "EOF".toList

/-- the token at the end of the input -/
def endOfInput (p : Position) : Token :=
  ⟨.endOfInput, endOfInputText, p⟩

def isEndOfInput (t : Token) : Bool :=
  t.kind = .endOfInput

/-- the token on one line -/
def render (t : Token) : Text :=
  describe t.kind.name t.text t.start

/-- the token with the names of its parts -/
def renderParts (t : Token) : Text :=
  "Token \x7b kind: ".toList ++ t.kind.name.toList ++ ", text: ".toList ++ quoted t.text ++
    ", line: ".toList ++ decimal t.start.line ++ ", column: ".toList ++ decimal t.start.column ++ " \x7d".toList

/-- the token as a JSON object -/
def toJson (t : Token) : Json.Object :=
  [("kind".toList, .string t.kind.name.toList), ("text".toList, .string t.text),
    ("line".toList, .number t.start.line), ("column".toList, .number t.start.column)]

end Token

namespace PlacedSegment

/-- the segment on one line -/
def render (s : PlacedSegment) : Text :=
  describe s.segment.kind.name s.segment.text s.start

/-- the segment as a JSON object -/
def toJson (s : PlacedSegment) : Json.Object :=
  [("segment".toList, .string s.segment.kind.name.toList), ("text".toList, .string s.segment.text),
    ("line".toList, .number s.start.line), ("column".toList, .number s.start.column)]

/-- the token that the segment becomes; trivia becomes none -/
def token? (s : PlacedSegment) : Option Token :=
  s.segment.kind.tokenKind?.map fun k => ⟨k, s.segment.text, s.start⟩

end PlacedSegment

end FlowchartLexer
