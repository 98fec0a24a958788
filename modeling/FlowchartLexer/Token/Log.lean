/-
The log of reading a source.

A reader of tokens makes one entry for each segment, trivia included, and one for the end. A list of all segments makes
one entry with their number.
-/
import FlowchartLexer.LexicalError
import FlowchartLexer.Token.Basic

namespace FlowchartLexer

/-- something that happened while a source was read -/
inductive LogEntry where
  /-- a reader of tokens passed a segment -/
  | passed (s : PlacedSegment)
  /-- it reached the end of the input after a number of tokens -/
  | finished (tokens : Nat) (position : Position)
  /-- it met an unexpected character after a number of tokens -/
  | failed (tokens : Nat) (error : LexicalError)
  /-- all segments were listed -/
  | listed (segments : Nat)
  deriving DecidableEq, Repr

/-- how much detail one has to ask for to see an entry -/
inductive LogLevel where
  | info
  | debug
  | trace
  deriving DecidableEq, Repr

namespace LogLevel

def name : LogLevel → String
  | .info => "INFO"
  | .debug => "DEBUG"
  | .trace => "TRACE"

end LogLevel

namespace LogEntry

def level : LogEntry → LogLevel
  | .passed _ => .trace
  | .finished _ _ => .debug
  | .failed _ _ => .debug
  | .listed _ => .info

def message : LogEntry → Text
  | .passed s => s.render
  | .finished n p => "scanned ".toList ++ decimal n ++ " tokens, ending at ".toList ++ p.render
  | .failed n e => "scanning failed after ".toList ++ decimal n ++ " tokens: ".toList ++ e.message
  | .listed n => decimal n ++ " segments".toList

end LogEntry

end FlowchartLexer
