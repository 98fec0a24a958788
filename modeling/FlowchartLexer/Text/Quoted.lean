/-
Quoted texts: a text between two quotation marks, on one line and with every character visible.

The mark itself, the backslash and the common control characters are written with a backslash. A character without a
visible form, or one that would attach to the character before it, is written as its code point in hexadecimal.
-/
import FlowchartLexer.Text
import FlowchartLexer.Unicode.Extender
import FlowchartLexer.Unicode.Unprintable

namespace FlowchartLexer.Quoted

/-- a code point in lower case hexadecimal, between braces -/
def codePoint (c : Char) : Text :=
  ['\\', 'u', '\x7b'] ++ Nat.toDigits 16 c.toNat ++ ['\x7d']

/-- how one character is written between two marks -/
def escape (mark c : Char) : Text :=
  if c = '\x00' then ['\\', '0']
  else if c = '\t' then ['\\', 't']
  else if c = '\r' then ['\\', 'r']
  else if c = '\n' then ['\\', 'n']
  else if c = '\\' || c = mark then ['\\', c]
  else if Unicode.isExtender c || Unicode.isUnprintable c then codePoint c
  else [c]

/-- a text between two marks -/
def write (mark : Char) (t : Text) : Text :=
  mark :: (t.flatMap (escape mark) ++ [mark])

end FlowchartLexer.Quoted

namespace FlowchartLexer

/-- a text in double quotes -/
def quoted (t : Text) : Text :=
  Quoted.write '"' t

/-- a character in single quotes -/
def quotedChar (c : Char) : Text :=
  Quoted.write '\'' [c]

end FlowchartLexer
