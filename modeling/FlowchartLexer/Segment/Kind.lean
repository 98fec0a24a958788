/-
The kinds of segments that flowchart syntax is made of.

A segment is either trivia, which a parser never sees, or a lexeme, which becomes a token.
-/
namespace FlowchartLexer

/-- what stands between the tokens -/
inductive Trivia where
  | whitespace
  /-- a block between two `---` lines -/
  | frontMatter
  /-- a directive between `%%{` and `}%%` -/
  | configuration
  /-- `%%` and what follows it on the line -/
  | comment
  deriving DecidableEq, Repr

/-- what a token is made from -/
inductive Lexeme where
  /-- `flowchart` or `graph` -/
  | flowchartDeclaration
  /-- `TB`, `TD`, `BT`, `RL` or `LR` -/
  | direction
  /-- `subgraph` -/
  | subgraphOpen
  /-- `end` -/
  | subgraphClose
  /-- an arrow or line, such as `-->` -/
  | link
  /-- `[(` -/
  | cylinderOpen
  /-- `)]` -/
  | cylinderClose
  /-- `((` -/
  | circleOpen
  /-- `))` -/
  | circleClose
  /-- `(` -/
  | roundOpen
  /-- `)` -/
  | roundClose
  /-- `[` -/
  | squareOpen
  /-- `]` -/
  | squareClose
  /-- `>` -/
  | asymmetricOpen
  /-- a `]` that closes what `>` opened; only a parser can tell it from the other -/
  | asymmetricClose
  /-- a left brace -/
  | rhombusOpen
  /-- a right brace -/
  | rhombusClose
  /-- `;` -/
  | semicolon
  /-- `&` -/
  | ampersand
  /-- `|` -/
  | pipe
  /-- text in double quotes, which has no escapes -/
  | string
  /-- a run of letters, numbers, `_` and question marks -/
  | identifier
  deriving DecidableEq, Repr

/-- a kind of segment -/
inductive SegmentKind where
  | trivia (t : Trivia)
  | lexeme (l : Lexeme)
  deriving DecidableEq, Repr

namespace Trivia

def all : List Trivia :=
  [.whitespace, .frontMatter, .configuration, .comment]

def name : Trivia → String
  | .whitespace => "Whitespace"
  | .frontMatter => "FrontMatter"
  | .configuration => "Configuration"
  | .comment => "Comment"

end Trivia

namespace Lexeme

def all : List Lexeme :=
  [.flowchartDeclaration, .direction, .subgraphOpen, .subgraphClose, .link, .cylinderOpen, .cylinderClose,
    .circleOpen, .circleClose, .roundOpen, .roundClose, .squareOpen, .squareClose, .asymmetricOpen, .asymmetricClose,
    .rhombusOpen, .rhombusClose, .semicolon, .ampersand, .pipe, .string, .identifier]

def name : Lexeme → String
  | .flowchartDeclaration => "FlowchartDeclaration"
  | .direction => "Direction"
  | .subgraphOpen => "SubgraphOpen"
  | .subgraphClose => "SubgraphClose"
  | .link => "Link"
  | .cylinderOpen => "CylinderOpen"
  | .cylinderClose => "CylinderClose"
  | .circleOpen => "CircleOpen"
  | .circleClose => "CircleClose"
  | .roundOpen => "RoundOpen"
  | .roundClose => "RoundClose"
  | .squareOpen => "SquareOpen"
  | .squareClose => "SquareClose"
  | .asymmetricOpen => "AsymmetricOpen"
  | .asymmetricClose => "AsymmetricClose"
  | .rhombusOpen => "RhombusOpen"
  | .rhombusClose => "RhombusClose"
  | .semicolon => "Semicolon"
  | .ampersand => "Ampersand"
  | .pipe => "Pipe"
  | .string => "String"
  | .identifier => "Identifier"

end Lexeme

namespace SegmentKind

/-- every kind, trivia first -/
def all : List SegmentKind :=
  Trivia.all.map .trivia ++ Lexeme.all.map .lexeme

def name : SegmentKind → String
  | .trivia t => t.name
  | .lexeme l => l.name

/-- no token is made from it -/
def isIgnorable : SegmentKind → Bool
  | .trivia _ => true
  | .lexeme _ => false

/-- the kind with a given name -/
def ofName? (s : String) : Option SegmentKind :=
  all.find? (·.name = s)

theorem mem_all (k : SegmentKind) : k ∈ all := by
  rcases k with t | l
  · cases t <;> decide
  · cases l <;> decide

end SegmentKind

end FlowchartLexer
