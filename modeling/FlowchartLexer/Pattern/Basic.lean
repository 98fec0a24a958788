/-
Patterns: what a segment may look like, as data.

A pattern is a choice of sequences of pieces, and a piece is a character class with a repetition. It is matched at the
very start of a text.

`Pattern.lengths` is the meaning of a pattern: the lengths of all its matches, those it prefers first. An earlier
alternative is preferred to a later one, a greedy repetition takes one more character if it can, and a lazy one stops if
it can. The first of these lengths is the match (`Pattern.preferred?`). `Pattern.source` is the pattern in regular
expression notation.
-/
import FlowchartLexer.Pattern.CharClass

namespace FlowchartLexer

/-! ## Pieces -/

/-- how often a piece may repeat, and which count it tries first -/
inductive Repetition where
  /-- exactly once -/
  | once
  /-- any number of times, the more the better -/
  | many
  /-- at least once, the more the better -/
  | some
  /-- any number of times, the fewer the better -/
  | few
  deriving DecidableEq, Repr

/-- a character class with a repetition -/
structure Piece where
  charClass : CharClass
  repetition : Repetition
  deriving DecidableEq, Repr

/-- pieces one after the other -/
abbrev Sequence := List Piece

/-- a choice of sequences, the preferred ones first -/
structure Pattern where
  alternatives : List Sequence
  deriving DecidableEq, Repr

/-! ## Meaning -/

/-- the possible lengths of a match at the start of a text, in order of preference -/
abbrev Matcher := Text → List Nat

namespace Matcher

/-- one character of the class, then the rest -/
def once (k : CharClass) (next : Matcher) : Matcher
  | [] => []
  | c :: t => if k.mem c then (next t).map (· + 1) else []

/-- as many characters of the class as the rest allows -/
def many (k : CharClass) (next : Matcher) : Matcher
  | [] => next []
  | c :: t => (if k.mem c then (many k next t).map (· + 1) else []) ++ next (c :: t)

/-- as few characters of the class as the rest allows -/
def few (k : CharClass) (next : Matcher) : Matcher
  | [] => next []
  | c :: t => next (c :: t) ++ (if k.mem c then (few k next t).map (· + 1) else [])

end Matcher

/-- the matches of a piece that is followed by something else -/
def Piece.matcher (p : Piece) (next : Matcher) : Matcher :=
  match p.repetition with
  | .once => .once p.charClass next
  | .many => .many p.charClass next
  | .some => .once p.charClass (.many p.charClass next)
  | .few => .few p.charClass next

/-- the matches of a sequence: none is left over at its end -/
def Sequence.lengths : Sequence → Matcher
  | [] => fun _ => [0]
  | p :: ps => p.matcher (Sequence.lengths ps)

namespace Pattern

/-- the matches of a pattern -/
def lengths (p : Pattern) (t : Text) : List Nat :=
  p.alternatives.flatMap fun s => Sequence.lengths s t

/-- the match that the pattern prefers to all others -/
def preferred? (p : Pattern) (t : Text) : Option Nat :=
  (p.lengths t).head?

end Pattern

/-! ## Building patterns -/

/-- one piece for each character of a spelling -/
def Sequence.spelling (s : String) : Sequence :=
  s.toList.map fun c => ⟨.literal c, .once⟩

/-- one of several spellings -/
def Pattern.oneOf (spellings : List String) : Pattern :=
  ⟨spellings.map Sequence.spelling⟩

/-- a single sequence -/
def Pattern.only (s : Sequence) : Pattern :=
  ⟨[s]⟩

/-! ## Notation of regular expressions -/

/-- the mark behind a repeated class -/
def Repetition.source : Repetition → String
  | .once => ""
  | .many => "*"
  | .some => "+"
  | .few => "*?"

/-- the pieces in regular expression notation -/
def Sequence.source (s : Sequence) : String :=
  String.join (s.map fun p => p.charClass.source ++ p.repetition.source)

/-- the alternatives in regular expression notation -/
def Pattern.source (p : Pattern) : String :=
  String.intercalate "|" (p.alternatives.map Sequence.source)

end FlowchartLexer
