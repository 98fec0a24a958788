/-
Membership in a set of code points given by its ranges.

A property of characters is a list of inclusive ranges in increasing order, so that a look-up stops at the first range
that begins beyond the code point.
-/
namespace FlowchartLexer.Unicode

/-- whether some range of an increasing list holds the code point -/
def inRanges : List (Nat × Nat) → Nat → Bool
  | [], _ => false
  | (lo, hi) :: rs, n => if n < lo then false else if n ≤ hi then true else inRanges rs n

end FlowchartLexer.Unicode
