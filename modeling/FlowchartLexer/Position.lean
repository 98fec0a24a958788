/-
Positions in a source text, as a person counts them: lines and columns, both from one.

`Position.advance` moves a position over a text. Only a line feed ends a line, and every other character, wide or not,
takes one column. The order of positions is by line and then by column.
-/
import FlowchartLexer.Text

namespace FlowchartLexer

/-- a line and a column, both counted from one -/
structure Position where
  line : Nat
  column : Nat
  deriving DecidableEq, Repr

namespace Position

/-- where the first character of a source stands -/
def start : Position :=
  ⟨1, 1⟩

/-- one character -/
def step (p : Position) (c : Char) : Position :=
  if c = '\n' then ⟨p.line + 1, 1⟩ else ⟨p.line, p.column + 1⟩

/-- a whole text -/
def advance (p : Position) (t : Text) : Position :=
  t.foldl step p

instance : Inhabited Position := ⟨start⟩

instance : Ord Position where
  compare p q := (compare p.line q.line).then (compare p.column q.column)

instance : LT Position where
  lt p q := p.line < q.line ∨ p.line = q.line ∧ p.column < q.column

instance (p q : Position) : Decidable (p < q) :=
  inferInstanceAs (Decidable (p.line < q.line ∨ p.line = q.line ∧ p.column < q.column))

/-- the line, a dot and the column -/
def render (p : Position) : Text :=
  decimal p.line ++ '.' :: decimal p.column

@[simp] theorem advance_nil (p : Position) : p.advance [] = p := rfl

@[simp] theorem advance_cons (p : Position) (c : Char) (t : Text) :
    p.advance (c :: t) = (p.step c).advance t := rfl

theorem advance_append (p : Position) (s t : Text) : p.advance (s ++ t) = (p.advance s).advance t :=
  List.foldl_append

end Position

end FlowchartLexer
