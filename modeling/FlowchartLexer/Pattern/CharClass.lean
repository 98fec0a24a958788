/-
Character classes: the sets of characters that the patterns of the lexer are made of.

Each class has a meaning (`CharClass.mem`) and a spelling in regular expression notation (`CharClass.source`).
-/
import FlowchartLexer.Text
import FlowchartLexer.Unicode.Letter
import FlowchartLexer.Unicode.Number

namespace FlowchartLexer

/-- a set of characters -/
inductive CharClass where
  /-- one character -/
  | literal (c : Char)
  /-- white space, the byte order mark included -/
  | whitespace
  /-- line feed or carriage return -/
  | lineBreak
  /-- all but the four line terminators -/
  | withinLine
  /-- all but the double quote -/
  | unquoted
  /-- letters, numbers, the low line and both question marks -/
  | word
  /-- all characters -/
  | any
  deriving DecidableEq, Repr

/-- white space in the broad sense: the blanks of every script and the byte order mark, but not U+0085 -/
def isBlank (c : Char) : Bool :=
  c = ' ' || ('\t' ≤ c && c ≤ '\r') || c = '\u00A0' || c = '\u1680' || ('\u2000' ≤ c && c ≤ '\u200A') ||
    c = '\u2028' || c = '\u2029' || c = '\u202F' || c = '\u205F' || c = '\u3000' || c = '\uFEFF'

/-- line feed or carriage return -/
def isLineBreak (c : Char) : Bool :=
  c = '\n' || c = '\r'

/-- a character that ends a comment: line feed, carriage return, line separator or paragraph separator -/
def isLineTerminator (c : Char) : Bool :=
  c = '\n' || c = '\r' || c = '\u2028' || c = '\u2029'

/-- a character of an identifier -/
def isWord (c : Char) : Bool :=
  c = '_' || c = '?' || c = '？' || Unicode.isLetter c || Unicode.isNumber c

namespace CharClass

/-- membership -/
def mem : CharClass → Char → Bool
  | .literal a, c => a = c
  | .whitespace, c => isBlank c
  | .lineBreak, c => isLineBreak c
  | .withinLine, c => !isLineTerminator c
  | .unquoted, c => c ≠ '"'
  | .word, c => isWord c
  | .any, _ => true

/-- characters that mean something else in a regular expression unless a backslash stands before them -/
def metacharacters : Text :=
  "\\.+*?()|[]\x7b\x7d^$".toList

/-- the class in regular expression notation -/
def source : CharClass → String
  | .literal c => if metacharacters.contains c then "\\" ++ c.toString else c.toString
  | .whitespace =>
    "[\\t\\n\\x0B\\x0C\\r \\x\x7bA0\x7d\\x\x7b1680\x7d\\x\x7b2000\x7d-\\x\x7b200A\x7d\\x\x7b2028\x7d" ++
      "\\x\x7b2029\x7d\\x\x7b202F\x7d\\x\x7b205F\x7d\\x\x7b3000\x7d\\x\x7bFEFF\x7d]"
  | .lineBreak => "[\\r\\n]"
  | .withinLine => "[^\\n\\r\\x\x7b2028\x7d\\x\x7b2029\x7d]"
  | .unquoted => "[^\"]"
  | .word => "[\\p\x7bL\x7d\\p\x7bN\x7d_?？]"
  | .any => "(?s:.)"

end CharClass

end FlowchartLexer
