/-
JSON texts of flat objects, whose members are strings and numbers.

Members keep their order. The compact form has no blanks; the indented form of an array has one member a line and two
blanks for each level.
-/
import FlowchartLexer.Text

namespace FlowchartLexer.Json

/-- a string or a number -/
inductive Scalar where
  | string (t : Text)
  | number (n : Nat)
  deriving DecidableEq, Repr

/-- named members, in the order in which they are written -/
abbrev Object := List (Text × Scalar)

/-! ## Scalars -/

/-- how one character is written in a string -/
def escape (c : Char) : Text :=
  if c = '"' || c = '\\' then ['\\', c]
  else if c = '\n' then ['\\', 'n']
  else if c = '\r' then ['\\', 'r']
  else if c = '\t' then ['\\', 't']
  else if c = '\x08' then ['\\', 'b']
  else if c = '\x0c' then ['\\', 'f']
  else if c.toNat < 0x20 then
    ['\\', 'u', '0', '0', Nat.digitChar (c.toNat / 16), Nat.digitChar (c.toNat % 16)]
  else [c]

/-- a string -/
def writeString (t : Text) : Text :=
  '"' :: (t.flatMap escape ++ ['"'])

/-- a member's value -/
def Scalar.write : Scalar → Text
  | .string t => writeString t
  | .number n => decimal n

/-! ## Objects and arrays -/

/-- texts with a separator between them -/
def separated (separator : Text) : List Text → Text
  | [] => []
  | t :: ts => t ++ ts.flatMap (separator ++ ·)

/-- an object without blanks -/
def Object.compact (o : Object) : Text :=
  '\x7b' :: (separated [','] (o.map fun m => writeString m.1 ++ ':' :: m.2.write) ++ ['\x7d'])

/-- an object inside an indented array -/
def Object.indented (o : Object) : Text :=
  "  \x7b\n".toList ++
    separated [',', '\n'] (o.map fun m => "    ".toList ++ writeString m.1 ++ ": ".toList ++ m.2.write) ++
    "\n  \x7d".toList

/-- an array of objects, indented; an empty array stays on one line -/
def indentedArray : List Object → Text
  | [] => ['[', ']']
  | os => "[\n".toList ++ separated [',', '\n'] (os.map Object.indented) ++ "\n]".toList

end FlowchartLexer.Json
