/-
The rules of the lexer: which pattern each kind of segment has, in order of priority.

The first rule that matches decides, so a longer spelling stands before a shorter one that begins it, and front matter
before the link `---`. A rule may be shadowed for good: `]` always closes a square.
-/
import FlowchartLexer.Pattern.Search
import FlowchartLexer.Segment.Kind

namespace FlowchartLexer

/-- a kind of segment and what it looks like -/
structure Rule where
  kind : SegmentKind
  pattern : Pattern
  deriving DecidableEq, Repr

namespace Rule

/-- the number of characters that the rule takes from the start of a text; it takes none or at least one -/
def matchLength? (r : Rule) (t : Text) : Option Nat :=
  (r.pattern.matchLength? t).filter (0 < ·)

/-- the same in bytes -/
def matchSize? (r : Rule) (t : Text) : Option Nat :=
  (r.matchLength? t).map fun n => byteSize (t.take n)

/-- the rule's pattern in regular expression notation, tied to the start of the text -/
def source (r : Rule) : String :=
  "^(?:" ++ r.pattern.source ++ ")"

end Rule

/-- `---`, blanks with a line break among them, anything, a line break and `---` -/
def frontMatterPattern : Pattern :=
  .only (Sequence.spelling "---" ++
    [⟨.whitespace, .many⟩, ⟨.lineBreak, .some⟩, ⟨.any, .few⟩, ⟨.lineBreak, .some⟩] ++ Sequence.spelling "---")

/-- a directive, which ends at the first closing mark on its line -/
def configurationPattern : Pattern :=
  .only (Sequence.spelling "%%\x7b" ++ [⟨.withinLine, .few⟩] ++ Sequence.spelling "\x7d%%")

/-- a comment, which ends with its line -/
def commentPattern : Pattern :=
  .only (Sequence.spelling "%%" ++ [⟨.withinLine, .many⟩])

/-- a string, which ends at the next double quote -/
def stringPattern : Pattern :=
  .only (Sequence.spelling "\"" ++ [⟨.unquoted, .many⟩] ++ Sequence.spelling "\"")

/-- the rules, those with priority first -/
def rules : List Rule :=
  [⟨.trivia .whitespace, .only [⟨.whitespace, .some⟩]⟩,
    ⟨.trivia .frontMatter, frontMatterPattern⟩,
    ⟨.trivia .configuration, configurationPattern⟩,
    ⟨.trivia .comment, commentPattern⟩,
    ⟨.lexeme .flowchartDeclaration, .oneOf ["flowchart", "graph"]⟩,
    ⟨.lexeme .direction, .oneOf ["TB", "TD", "BT", "RL", "LR"]⟩,
    ⟨.lexeme .subgraphOpen, .oneOf ["subgraph"]⟩,
    ⟨.lexeme .subgraphClose, .oneOf ["end"]⟩,
    ⟨.lexeme .link,
      .oneOf ["<-->", "-.->", "==>", "---", "-->", "~~~", "o--", "--o", "x--", "--x", ".->", "--"]⟩,
    ⟨.lexeme .cylinderOpen, .oneOf ["[("]⟩,
    ⟨.lexeme .cylinderClose, .oneOf [")]"]⟩,
    ⟨.lexeme .circleOpen, .oneOf ["(("]⟩,
    ⟨.lexeme .circleClose, .oneOf ["))"]⟩,
    ⟨.lexeme .roundOpen, .oneOf ["("]⟩,
    ⟨.lexeme .roundClose, .oneOf [")"]⟩,
    ⟨.lexeme .squareOpen, .oneOf ["["]⟩,
    ⟨.lexeme .squareClose, .oneOf ["]"]⟩,
    ⟨.lexeme .asymmetricOpen, .oneOf [">"]⟩,
    ⟨.lexeme .asymmetricClose, .oneOf ["]"]⟩,
    ⟨.lexeme .rhombusOpen, .oneOf ["\x7b"]⟩,
    ⟨.lexeme .rhombusClose, .oneOf ["\x7d"]⟩,
    ⟨.lexeme .semicolon, .oneOf [";"]⟩,
    ⟨.lexeme .ampersand, .oneOf ["&"]⟩,
    ⟨.lexeme .pipe, .oneOf ["|"]⟩,
    ⟨.lexeme .string, stringPattern⟩,
    ⟨.lexeme .identifier, .only [⟨.word, .some⟩]⟩]

/-- the rules but the one for front matter -/
def rulesWithoutFrontMatter : List Rule :=
  rules.filter (·.kind ≠ .trivia .frontMatter)

/-- each kind of segment has one rule, and the rules stand in the order of the kinds -/
theorem map_kind_rules : rules.map (·.kind) = SegmentKind.all := rfl

/-- the rule of a kind of segment -/
def SegmentKind.rule? (k : SegmentKind) : Option Rule :=
  rules.find? (·.kind = k)

end FlowchartLexer
