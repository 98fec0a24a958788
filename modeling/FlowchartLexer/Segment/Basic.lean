/-
Segments: the pieces that a text falls into, each with its kind.

`Segment.leading` is the segment at the start of a text, by the first rule that matches. `segmentation` repeats it to
the end of the text or to the first character that no rule takes.

**A leading segment is a non-empty beginning** (`Segment.leading_text_append`, `Segment.leading_text_ne_nil`): so
segmentation always ends, and nothing is lost between segments.
-/
import FlowchartLexer.Segment.Rule

namespace FlowchartLexer

/-- a piece of text with its kind -/
structure Segment where
  kind : SegmentKind
  text : Text
  deriving DecidableEq, Repr

/-- no rule takes this character, which is the first of what is left -/
structure UnexpectedChar where
  character : Char
  deriving DecidableEq, Repr

/-- what a rule takes from the start of a text -/
def Rule.segment? (r : Rule) (t : Text) : Option Segment :=
  (r.matchLength? t).map fun n => ⟨r.kind, t.take n⟩

namespace Segment

/-- the segment at the start of a text by the first of the given rules that matches; an empty text has none -/
def leadingBy (rs : List Rule) : Text → Except UnexpectedChar (Option Segment)
  | [] => .ok none
  | c :: t =>
    match rs.findSome? (·.segment? (c :: t)) with
    | some s => .ok (some s)
    | none => .error ⟨c⟩

/-- the segment at the start of a text, with or without a try for front matter -/
def leading (frontMatter : Bool) (t : Text) : Except UnexpectedChar (Option Segment) :=
  leadingBy (if frontMatter then rules else rulesWithoutFrontMatter) t

/-! ## A leading segment is a non-empty beginning -/

theorem leadingBy_eq_some {rs : List Rule} {t : Text} {s : Segment} (h : leadingBy rs t = .ok (some s)) :
    t ≠ [] ∧ ∃ r ∈ rs, r.segment? t = some s := by
  cases t with
  | nil => simp [leadingBy] at h
  | cons c t =>
    rw [leadingBy] at h
    split at h
    · next s' hs =>
      obtain ⟨r, hr, hs⟩ := List.exists_of_findSome?_eq_some hs
      cases h
      exact ⟨by simp, r, hr, hs⟩
    · cases h

theorem leadingBy_text_append {rs : List Rule} {t : Text} {s : Segment} (h : leadingBy rs t = .ok (some s)) :
    s.text ++ t.drop s.text.length = t := by
  obtain ⟨-, r, -, hs⟩ := leadingBy_eq_some h
  obtain ⟨n, -, rfl⟩ := Option.map_eq_some_iff.1 hs
  rcases Nat.le_total n t.length with hn | hn
  · simp [hn]
  · simp [List.take_of_length_le hn]

theorem leadingBy_text_ne_nil {rs : List Rule} {t : Text} {s : Segment} (h : leadingBy rs t = .ok (some s)) :
    s.text ≠ [] := by
  obtain ⟨ht, r, -, hs⟩ := leadingBy_eq_some h
  obtain ⟨n, hn, rfl⟩ := Option.map_eq_some_iff.1 hs
  have : 0 < n := by simpa using (Option.filter_eq_some_iff.1 hn).2
  simp [List.take_eq_nil_iff, ht]
  omega

/-- the segment and what is left make up the text -/
theorem leading_text_append {f : Bool} {t : Text} {s : Segment} (h : leading f t = .ok (some s)) :
    s.text ++ t.drop s.text.length = t :=
  leadingBy_text_append h

theorem leading_text_ne_nil {f : Bool} {t : Text} {s : Segment} (h : leading f t = .ok (some s)) : s.text ≠ [] :=
  leadingBy_text_ne_nil h

theorem length_drop_leading {f : Bool} {t : Text} {s : Segment} (h : leading f t = .ok (some s)) :
    (t.drop s.text.length).length < t.length := by
  have hl := congrArg List.length (leading_text_append h)
  have hp := List.length_pos_iff.2 (leading_text_ne_nil h)
  rw [List.length_append] at hl
  omega

end Segment

/-! ## Whole texts -/

/-- the segments of a text, and the character that segmentation stopped at, if it did not reach the end -/
structure Segmentation where
  segments : List Segment
  unexpected : Option UnexpectedChar
  deriving DecidableEq, Repr

/-- segments of what is left, after those found so far (the last one first) -/
def segmentationFrom (found : List Segment) (t : Text) : Segmentation :=
  match _ : Segment.leading true t with
  | .ok none => ⟨found.reverse, none⟩
  | .ok (some s) => segmentationFrom (s :: found) (t.drop s.text.length)
  | .error e => ⟨found.reverse, some e⟩
termination_by t.length
decreasing_by exact Segment.length_drop_leading ‹_›

/-- segments taken one after the other, with every rule tried at each -/
def segmentation (t : Text) : Segmentation :=
  segmentationFrom [] t

end FlowchartLexer
