/-
Lexical errors: a character that no rule takes, and where it stands.

Lexing stops at the first such character.
-/
import FlowchartLexer.Diagnostic
import FlowchartLexer.Segment.Basic
import FlowchartLexer.Text.Quoted

namespace FlowchartLexer

/-- a character that no rule takes, with its position and its offset in bytes -/
structure LexicalError where
  character : Char
  position : Position
  offset : Nat
  deriving DecidableEq, Repr

namespace LexicalError

/-- what is wrong and where -/
def message (e : LexicalError) : Text :=
  "Lexical Error: Unexpected character at line ".toList ++ decimal e.position.line ++ ", column ".toList ++
    decimal e.position.column ++ ": ".toList ++ [e.character]

/-- the error with the line of the source it stands in -/
def diagnostic (e : LexicalError) (source : Text) (fileName : Option Text) : Diagnostic :=
  ⟨⟨fileName, some e.position⟩, e.message, SourceLine.ofSource? source e.position.line⟩

end LexicalError

/-- what is wrong with the first character of a text that no rule matches -/
def UnexpectedChar.message (e : UnexpectedChar) : Text :=
  "Unexpected character ".toList ++ quotedChar e.character ++ " in input.".toList

end FlowchartLexer
