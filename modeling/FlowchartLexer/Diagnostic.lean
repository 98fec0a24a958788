/-
Diagnostics: messages that point into a source.

A diagnostic shows where it belongs, what it says and, if the line is known, that line with a caret under the column.
The caret stands behind as many blanks as the text before the column is wide, so the measure of width is a parameter of
`Diagnostic.render`.
-/
import FlowchartLexer.Position

namespace FlowchartLexer

/-! ## Locations -/

/-- a file, a position in it, both or neither -/
structure Location where
  fileName : Option Text
  position : Option Position
  deriving DecidableEq, Repr

namespace Location

def isEmpty (l : Location) : Bool :=
  l.fileName.isNone && l.position.isNone

/-- the file and the position, with a colon between them -/
def render (l : Location) : Text :=
  match l.fileName, l.position with
  | none, none => []
  | some f, none => f
  | none, some p => p.render
  | some f, some p => f ++ ':' :: p.render

end Location

/-! ## Lines of a source -/

/-- a line with its number -/
structure SourceLine where
  number : Nat
  text : Text
  deriving DecidableEq, Repr

/-- what stands between the line feeds before and after a line, the lines being counted from zero -/
def lineAt? : Nat → Text → Option Text
  | 0, t => some (t.takeWhile (· ≠ '\n'))
  | n + 1, t =>
    match t.dropWhile (· ≠ '\n') with
    | [] => none
    | _ :: rest => lineAt? n rest

/-- a line without the carriage return that may end it -/
def withoutReturn (line : Text) : Text :=
  if line.getLast? = some '\r' then line.dropLast else line

/-- a line of a source, counted from one -/
def SourceLine.ofSource? (source : Text) : Nat → Option SourceLine
  | 0 => none
  | n + 1 => (lineAt? n source).map fun line => ⟨n + 1, withoutReturn line⟩

/-! ## Diagnostics -/

/-- a message, where it belongs and the line of the source it is about -/
structure Diagnostic where
  location : Location
  message : Text
  source : Option SourceLine
  deriving DecidableEq, Repr

namespace Diagnostic

/-- the gutter in front of a quoted line -/
def gutter (number : Nat) : Text :=
  padLeft 5 (decimal number) ++ " | ".toList

/-- the text of a line before a column -/
def beforeColumn (line : Text) (column : Nat) : Text :=
  line.take (column - 1)

/-- the line under a quoted line, whose caret stands behind a number of cells -/
def caretLine (cells : Nat) : Text :=
  "      |".toList ++ List.replicate (cells + 1) ' ' ++ ['^']

/-- the first line: location and message -/
def headline (d : Diagnostic) : Text :=
  (if d.location.isEmpty then [] else d.location.render ++ ": ".toList) ++ "error: ".toList ++ d.message

/-- the whole diagnostic, with the width of texts measured in cells by `width` -/
def render (width : Text → Nat) (d : Diagnostic) : Text :=
  d.headline ++
    match d.source with
    | none => []
    | some line =>
      '\n' :: gutter line.number ++ line.text ++
        match d.location.position with
        | none => []
        | some p => '\n' :: caretLine (width (beforeColumn line.text p.column))

end Diagnostic

end FlowchartLexer
