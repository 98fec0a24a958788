/-
The kinds of tokens: the lexemes, and the end of the input.
-/
import FlowchartLexer.Segment.Kind

namespace FlowchartLexer

/-- a kind of token -/
inductive TokenKind where
  | lexeme (l : Lexeme)
  | endOfInput
  deriving DecidableEq, Repr

/-- the kind of token that a segment becomes; trivia becomes none -/
def SegmentKind.tokenKind? : SegmentKind → Option TokenKind
  | .trivia _ => none
  | .lexeme l => some (.lexeme l)

namespace TokenKind

/-- every kind, the end of the input last -/
def all : List TokenKind :=
  Lexeme.all.map .lexeme ++ [.endOfInput]

def name : TokenKind → String
  | .lexeme l => l.name
  | .endOfInput => "EndOfInput"

/-- the kind with a given name -/
def ofName? (s : String) : Option TokenKind :=
  all.find? (·.name = s)

theorem mem_all (k : TokenKind) : k ∈ all := by
  rcases k with l | _
  · cases l <;> decide
  · decide

end TokenKind

end FlowchartLexer
