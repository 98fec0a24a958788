/-
Matching in a text that is cut short.

A matcher is local if a cut removes the matches that go beyond it and changes nothing else. That is so whatever the
repetitions prefer, because a run looks at the text character by character. So a rule that takes no more than what is
left takes the same, and one that took nothing still takes nothing.

- `Matcher.Local.once`, `Matcher.Local.many`, `Matcher.Local.few`: each repetition keeps locality.
- `Sequence.isLocal`, `Pattern.lengths_eq_filter`: the matches in a text cut short, in order of preference.
- `Rule.segment?_of_append`, `Rule.segment?_eq_none_of_append`: one rule.
- **The leading segment stays** (`Segment.leading_of_append`) if the cut is not within it.
- `segmentation_of_append`, `segmentation_textOf`: from any segment on, and up to any segment.
-/
import FlowchartLexer.Proofs.PreferredMatch
import FlowchartLexer.Proofs.WholeText

namespace FlowchartLexer

/-! ## Matchers -/

/-- cutting the text after `u` removes the matches that are longer than `u`, and nothing else -/
def Matcher.Local (m : Matcher) : Prop :=
  ∀ u v, m u = (m (u ++ v)).filter (· ≤ u.length)

section Repetitions

variable {k : CharClass} {next : Matcher}

/-- a match that takes one character more does not fit into nothing -/
theorem filter_one_more_zero (b : Bool) (l : List Nat) :
    (if b then l.map (· + 1) else []).filter (· ≤ 0) = [] := by
  cases b with
  | false => rfl
  | true => simp

theorem filter_one_more (b : Bool) (l : List Nat) (n : Nat) :
    (if b then l.map (· + 1) else []).filter (· ≤ n + 1) =
      if b then (l.filter (· ≤ n)).map (· + 1) else [] := by
  cases b with
  | false => rfl
  | true =>
    have hf : ((fun m => decide (m ≤ n + 1)) ∘ fun m => m + 1) = fun m => decide (m ≤ n) := by
      funext m
      simp
    simp only [if_true, List.filter_map, hf]

theorem Matcher.Local.once (h : next.Local) : (Matcher.once k next).Local := by
  intro u v
  cases u with
  | nil =>
    cases v with
    | nil => rfl
    | cons c v => exact (filter_one_more_zero (k.mem c) (next v)).symm
  | cons c u =>
    simp only [Matcher.once, List.cons_append, List.length_cons]
    rw [filter_one_more, ← h]

theorem Matcher.Local.many (h : next.Local) : (Matcher.many k next).Local := by
  intro u v
  induction u with
  | nil =>
    cases v with
    | nil => exact h [] []
    | cons c v =>
      simp only [Matcher.many, List.nil_append, List.length_nil, List.filter_append]
      rw [filter_one_more_zero, List.nil_append]
      exact h [] (c :: v)
  | cons c u ih =>
    have hnext := h (c :: u) v
    rw [List.cons_append, List.length_cons] at hnext
    simp only [Matcher.many, List.cons_append, List.length_cons, List.filter_append]
    rw [filter_one_more, ← ih, ← hnext]

theorem Matcher.Local.few (h : next.Local) : (Matcher.few k next).Local := by
  intro u v
  induction u with
  | nil =>
    cases v with
    | nil => exact h [] []
    | cons c v =>
      simp only [Matcher.few, List.nil_append, List.length_nil, List.filter_append]
      rw [filter_one_more_zero, List.append_nil]
      exact h [] (c :: v)
  | cons c u ih =>
    have hnext := h (c :: u) v
    rw [List.cons_append, List.length_cons] at hnext
    simp only [Matcher.few, List.cons_append, List.length_cons, List.filter_append]
    rw [filter_one_more, ← ih, ← hnext]

end Repetitions

theorem Sequence.isLocal (s : Sequence) : Matcher.Local s.lengths := by
  induction s with
  | nil =>
    intro u v
    rfl
  | cons p s ih =>
    obtain ⟨k, r⟩ := p
    cases r with
    | once => exact ih.once
    | many => exact ih.many
    | some => exact ih.many.once
    | few => exact ih.few

theorem Pattern.lengths_eq_filter (p : Pattern) (u v : Text) :
    p.lengths u = (p.lengths (u ++ v)).filter (· ≤ u.length) := by
  unfold Pattern.lengths
  rw [List.filter_flatMap]
  exact congrArg (p.alternatives.flatMap ·) (funext fun s => s.isLocal u v)

/-! ## Rules -/

theorem Rule.segment?_of_append {r : Rule} {u v : Text} {g : Segment} (h : r.segment? (u ++ v) = some g)
    (hg : g.text.length ≤ u.length) : r.segment? u = some g := by
  rw [Rule.segment?_eq] at h ⊢
  rw [r.pattern.lengths_eq_filter u v]
  obtain ⟨n, hn, rfl⟩ := Option.map_eq_some_iff.1 h
  obtain ⟨hhead, hpos⟩ := Option.filter_eq_some_iff.1 hn
  obtain ⟨ns, hl⟩ := List.head?_eq_some_iff.1 hhead
  -- the match is within `u ++ v`, so the length of its text is its own
  have hle : n ≤ u.length := by
    have hmem : n ∈ r.pattern.lengths (u ++ v) := by rw [hl]; exact List.mem_cons_self
    obtain ⟨s, -, hs⟩ := List.mem_flatMap.1 hmem
    obtain ⟨x, y, hxy, rfl, -⟩ := mem_lengths_iff.1 hs
    simp only [hxy, List.take_left] at hg
    exact hg
  rw [hl, List.filter_cons_of_pos (by simpa using hle), List.head?_cons, Option.filter_some, if_pos hpos,
    Option.map_some, List.take_append_of_le_length hle]

theorem Rule.segment?_eq_none_of_append {r : Rule} {u v : Text} (h : r.segment? (u ++ v) = none) :
    r.segment? u = none := by
  rw [Rule.segment?_eq, Option.map_eq_none_iff] at h ⊢
  rw [r.pattern.lengths_eq_filter u v]
  cases hl : r.pattern.lengths (u ++ v) with
  | nil => rfl
  | cons n ns =>
    rw [hl, List.head?_cons, Option.filter_some] at h
    -- a preferred match of no length is within any cut
    have hn : n = 0 := by
      by_contra h0
      rw [if_pos (by simpa using Nat.pos_of_ne_zero h0)] at h
      cases h
    rw [hn, List.filter_cons_of_pos (by simp)]
    rfl

/-! ## The leading segment -/

/-- the first answer stays the first if those before it stay without one -/
theorem findSome?_of_imp {α β : Type} {f g : α → Option β} {l : List α} {b : β} (h : l.findSome? f = some b)
    (hnone : ∀ a, f a = none → g a = none) (hsome : ∀ a, f a = some b → g a = some b) :
    l.findSome? g = some b := by
  induction l with
  | nil => cases h
  | cons a l ih =>
    rw [List.findSome?_cons] at h ⊢
    cases hf : f a with
    | none =>
      rw [hf] at h
      rw [hnone a hf]
      exact ih h
    | some x =>
      rw [hf] at h
      cases h
      rw [hsome a hf]

theorem Segment.leadingBy_eq_some_iff {rs : List Rule} {t : Text} {g : Segment} :
    Segment.leadingBy rs t = .ok (some g) ↔ t ≠ [] ∧ rs.findSome? (·.segment? t) = some g := by
  cases t with
  | nil => exact iff_of_false (fun h => by cases h) fun h => h.1 rfl
  | cons c t =>
    rw [Segment.leadingBy]
    cases rs.findSome? (·.segment? (c :: t)) with
    | none => exact iff_of_false (fun h => by cases h) fun h => by cases h.2
    | some k => simp

/-- **The leading segment stays** when the text is cut short behind it. -/
theorem Segment.leading_of_append {f : Bool} {u v : Text} {g : Segment}
    (h : Segment.leading f (u ++ v) = .ok (some g)) (hg : g.text.length ≤ u.length) :
    Segment.leading f u = .ok (some g) := by
  have hu : u ≠ [] := by
    rintro rfl
    exact Segment.leading_text_ne_nil h (List.eq_nil_of_length_eq_zero (Nat.le_zero.1 hg))
  have hfirst := (Segment.leadingBy_eq_some_iff.1 h).2
  exact Segment.leadingBy_eq_some_iff.2 ⟨hu, findSome?_of_imp hfirst
    (fun r => Rule.segment?_eq_none_of_append) fun r hr => Rule.segment?_of_append hr hg⟩

/-! ## Segmentation -/

/-- from any segment on: what is left has the other segments and the same end -/
theorem segmentation_of_append {t : Text} {gs hs : List Segment} (h : (segmentation t).segments = gs ++ hs) :
    ∃ left, t = textOf gs ++ left ∧ segmentation left = ⟨hs, (segmentation t).unexpected⟩ := by
  induction gs generalizing t with
  | nil =>
    refine ⟨t, rfl, ?_⟩
    rw [List.nil_append] at h
    rw [← h]
  | cons g gs ih =>
    rcases hl : Segment.leading true t with e | _ | k
    · rw [segmentation_of_error hl] at h
      cases h
    · rw [segmentation_of_none hl] at h
      cases h
    · rw [segmentation_of_some hl] at h ⊢
      obtain ⟨rfl, hgs⟩ := List.cons.inj h
      obtain ⟨left, ht, hleft⟩ := ih hgs
      refine ⟨left, ?_, hleft⟩
      rw [textOf_cons, List.append_assoc, ← ht]
      exact (Segment.leading_text_append hl).symm

/-- **Up to any segment**: the text of the first segments has these segments, and it has an end. -/
theorem segmentation_textOf {t : Text} {gs hs : List Segment} (h : (segmentation t).segments = gs ++ hs) :
    segmentation (textOf gs) = ⟨gs, none⟩ := by
  induction gs generalizing t with
  | nil => exact segmentation_of_none rfl
  | cons g gs ih =>
    obtain ⟨left, rfl, -⟩ := segmentation_of_append h
    rcases hl : Segment.leading true (textOf (g :: gs) ++ left) with e | _ | k
    · rw [segmentation_of_error hl] at h
      cases h
    · rw [segmentation_of_none hl] at h
      cases h
    · rw [segmentation_of_some hl] at h
      obtain ⟨rfl, h⟩ := List.cons.inj h
      have hle : k.text.length ≤ (textOf (k :: gs)).length := by
        rw [textOf_cons, List.length_append]
        exact Nat.le_add_right _ _
      rw [segmentation_of_some (Segment.leading_of_append hl hle), textOf_cons, List.drop_left, ih h]

end FlowchartLexer
