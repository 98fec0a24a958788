/-
Front matter is not looked for where it cannot close, and that never changes a result.

- `frontMatterRule_eq_some`: what the front matter rule takes has the form of front matter (`IsFrontMatter`).
- `lastClose?_eq_some_iff`, `lastClose?_eq_none_iff`: `lastClose?` is the last of the offsets at which `---` stands
  right behind a line break, if there is one.
- `frontMatter_closes_beyond`: front matter that begins at an offset has a close more than three bytes behind it. There
  are the opening mark, and at least one line break more than the one before the close.
- `leading_of_at`, `next_of_leading_rest`: so a cursor on its way through a source takes the segment that it would take
  with every rule tried.
- **The guard changes nothing** (`Cursor.front_matter_guard_changes_nothing`).
-/
import FlowchartLexer.Proofs.WholeText

namespace FlowchartLexer

open Calls

/-! ## The form of front matter -/

/-- the mark around front matter -/
def fence : Text :=
  "---".toList

/-- the rule for front matter -/
def frontMatterRule : Rule :=
  ⟨.trivia .frontMatter, frontMatterPattern⟩

/-- a complete block: the mark, blanks, line breaks, anything, line breaks and the mark again -/
def IsFrontMatter (u : Text) : Prop :=
  ∃ w b x d, u = fence ++ (w ++ (b ++ (x ++ (d ++ fence)))) ∧ (∀ c ∈ w, isBlank c) ∧
    (b ≠ [] ∧ ∀ c ∈ b, isLineBreak c) ∧ d ≠ [] ∧ ∀ c ∈ d, isLineBreak c

/-- in other words: a line break behind blanks opens it, and one in front of the mark closes it -/
theorem isFrontMatter_iff {u : Text} : IsFrontMatter u ↔ ∃ w a x c, u = fence ++ (w ++ a :: (x ++ c :: fence)) ∧
    (∀ d ∈ w, isBlank d = true) ∧ isLineBreak a = true ∧ isLineBreak c = true := by
  constructor
  · rintro ⟨w, b, x, d, rfl, hw, ⟨hb0, hb⟩, hd0, hd⟩
    -- the first line break of the opening run, and the last one of the closing run
    obtain ⟨a, b, rfl⟩ := List.exists_cons_of_ne_nil hb0
    obtain ⟨d, c, rfl⟩ : ∃ e c, d = e ++ [c] := ⟨d.dropLast, d.getLast hd0, (List.dropLast_append_getLast hd0).symm⟩
    exact ⟨w, a, b ++ (x ++ d), c, by simp, hw, hb a List.mem_cons_self, hd c (by simp)⟩
  · rintro ⟨w, a, x, c, rfl, hw, ha, hc⟩
    exact ⟨w, [a], x, [c], by simp, hw, ⟨by simp, by simpa using ha⟩, by simp, by simpa using hc⟩

theorem matches_frontMatter {u : Text} : (∃ s ∈ frontMatterPattern.alternatives, s.Matches u) ↔ IsFrontMatter u := by
  simp only [frontMatterPattern, Pattern.only, List.mem_singleton, exists_eq_left, List.append_assoc]
  constructor
  · intro h
    obtain ⟨_, _, rfl, hf, w, _, rfl, hw, b, _, rfl, hb, x, _, rfl, -, d, _, rfl, hd, hg⟩ := matches_append.1 h
    rw [matches_spelling.1 hf, matches_spelling.1 hg]
    exact ⟨w, b, x, d, rfl, hw, hb, hd⟩
  · rintro ⟨w, b, x, d, rfl, hw, hb, hd⟩
    exact matches_append.2 ⟨fence, _, rfl, matches_spelling.2 rfl, w, _, rfl, hw, b, _, rfl, hb, x, _, rfl,
      fun _ _ => rfl, d, _, rfl, hd, matches_spelling.2 rfl⟩

theorem frontMatterRule_eq_some {t : Text} {n : Nat} (h : frontMatterRule.matchLength? t = some n) :
    ∃ u v, t = u ++ v ∧ u.length = n ∧ IsFrontMatter u := by
  obtain ⟨-, u, v, ht, hu, hs⟩ := Rule.matchLength?_eq_some h
  exact ⟨u, v, ht, hu, matches_frontMatter.1 hs⟩

/-! ## Where front matter may close -/

/-- `---` stands at the offset, right behind a line break -/
def ClosesAt (t : Text) (n : Nat) : Prop :=
  ∃ p b q, t = p ++ b :: q ∧ isLineBreak b = true ∧ startsWithFence q = true ∧ n = byteSize p + b.utf8Size

theorem not_closesAt_nil {n : Nat} : ¬ ClosesAt [] n := by
  rintro ⟨p, b, q, h, -⟩
  cases p <;> cases h

theorem closesAt_cons {c : Char} {t : Text} {n : Nat} : ClosesAt (c :: t) n ↔
    (isLineBreak c = true ∧ startsWithFence t = true ∧ n = c.utf8Size) ∨ ∃ m, ClosesAt t m ∧ n = c.utf8Size + m := by
  constructor
  · rintro ⟨p, b, q, h, hb, hq, rfl⟩
    cases p with
    | nil =>
      obtain ⟨rfl, rfl⟩ := List.cons.inj h
      exact Or.inl ⟨hb, hq, Nat.zero_add _⟩
    | cons d p =>
      obtain ⟨rfl, rfl⟩ := List.cons.inj h
      refine Or.inr ⟨_, ⟨p, b, q, rfl, hb, hq, rfl⟩, ?_⟩
      rw [byteSize_cons, Nat.add_assoc]
  · rintro (⟨hc, ht, rfl⟩ | ⟨m, ⟨p, b, q, rfl, hb, hq, rfl⟩, rfl⟩)
    · exact ⟨[], c, t, rfl, hc, ht, (Nat.zero_add _).symm⟩
    · refine ⟨c :: p, b, q, rfl, hb, hq, ?_⟩
      rw [byteSize_cons, Nat.add_assoc]

/-- the last of the offsets at which front matter may close -/
def IsLastClose (t : Text) (n : Nat) : Prop :=
  ClosesAt t n ∧ ∀ m, ClosesAt t m → m ≤ n

/-- the search, from an offset on and with the best that it knows so far: it is right about what is left -/
theorem lastCloseFrom_spec (t : Text) (o : Nat) (latest : Option Nat) :
    (lastCloseFrom o latest t = latest ∧ ∀ n, ¬ ClosesAt t n) ∨
      ∃ n, lastCloseFrom o latest t = some (o + n) ∧ IsLastClose t n := by
  induction t generalizing o latest with
  | nil => exact Or.inl ⟨rfl, fun n => not_closesAt_nil⟩
  | cons c t ih =>
    rw [lastCloseFrom]
    rcases ih (o + c.utf8Size) (if isLineBreak c && startsWithFence t then some (o + c.utf8Size) else latest) with
      ⟨hl, hn⟩ | ⟨n, hl, hn, hmax⟩
    · rw [hl]
      split_ifs with hc
      · -- the close is right here, and none follows
        obtain ⟨hb, hf⟩ := Bool.and_eq_true_iff.1 hc
        refine Or.inr ⟨c.utf8Size, rfl, closesAt_cons.2 (Or.inl ⟨hb, hf, rfl⟩), fun m hm => ?_⟩
        rcases closesAt_cons.1 hm with ⟨-, -, rfl⟩ | ⟨k, hk, -⟩
        · exact le_rfl
        · exact absurd hk (hn k)
      · refine Or.inl ⟨rfl, fun m hm => ?_⟩
        rcases closesAt_cons.1 hm with ⟨hb, hf, -⟩ | ⟨k, hk, -⟩
        · exact hc (Bool.and_eq_true_iff.2 ⟨hb, hf⟩)
        · exact hn k hk
    · -- a later close wins over all that was known
      refine Or.inr ⟨c.utf8Size + n, ?_, closesAt_cons.2 (Or.inr ⟨n, hn, rfl⟩), fun m hm => ?_⟩
      · rw [hl, Nat.add_assoc]
      · rcases closesAt_cons.1 hm with ⟨-, -, rfl⟩ | ⟨k, hk, rfl⟩
        · exact Nat.le_add_right _ _
        · exact Nat.add_le_add_left (hmax k hk) _

theorem lastClose?_eq_none_iff {t : Text} : lastClose? t = none ↔ ∀ n, ¬ ClosesAt t n := by
  rcases lastCloseFrom_spec t 0 none with ⟨hl, hn⟩ | ⟨n, hl, hn⟩
  · exact iff_of_true hl hn
  · refine iff_of_false ?_ fun h => h n hn.1
    rw [lastClose?, hl]
    exact Option.some_ne_none _

theorem lastClose?_eq_some_iff {t : Text} {n : Nat} : lastClose? t = some n ↔ IsLastClose t n := by
  rw [lastClose?]
  rcases lastCloseFrom_spec t 0 none with ⟨hl, hn⟩ | ⟨m, hl, hm⟩
  · rw [hl]
    exact iff_of_false (Option.some_ne_none n).symm fun h => hn n h.1
  · rw [hl, Nat.zero_add, Option.some_inj]
    constructor
    · rintro rfl
      exact hm
    · intro h
      exact Nat.le_antisymm (h.2 m hm.1) (hm.2 n h.1)

/-! ## Front matter closes beyond its beginning -/

/-- **The close is more than three bytes behind the beginning.** `p` is what stands before the block. -/
theorem frontMatter_closes_beyond {p u v : Text} (h : IsFrontMatter u) :
    ∃ n, ClosesAt (p ++ (u ++ v)) n ∧ byteSize p + 3 < n := by
  obtain ⟨w, a, x, c, rfl, -, -, hc⟩ := isFrontMatter_iff.1 h
  refine ⟨byteSize (p ++ (fence ++ (w ++ a :: x))) + c.utf8Size,
    ⟨p ++ (fence ++ (w ++ a :: x)), c, fence ++ v, by simp, hc, rfl, rfl⟩, ?_⟩
  have hpos := c.utf8Size_pos
  have hf : byteSize fence = 3 := rfl
  simp only [byteSize_append, byteSize_cons, hf]
  omega

/-- with the close of the source too close, or none, the front matter rule does not match what is left -/
theorem frontMatterRule_eq_none {source p t : Text} (hs : p ++ t = source)
    (h : ∀ close, lastClose? source = some close → close ≤ byteSize p + 3) : frontMatterRule.matchLength? t = none := by
  subst hs
  rw [Option.eq_none_iff_forall_not_mem]
  intro n hn
  obtain ⟨u, v, rfl, -, hu⟩ := frontMatterRule_eq_some hn
  obtain ⟨m, hm, hlt⟩ := frontMatter_closes_beyond (p := p) (v := v) hu
  cases hl : lastClose? (p ++ (u ++ v)) with
  | none => exact lastClose?_eq_none_iff.1 hl m hm
  | some close =>
    have hle := (lastClose?_eq_some_iff.1 hl).2 m hm
    have hc := h close hl
    omega

/-! ## Without the front matter rule -/

/-- leaving out a rule that does not match makes no difference -/
theorem leading_false_eq {t : Text} (h : frontMatterRule.matchLength? t = none) :
    Segment.leading false t = Segment.leading true t := by
  cases t with
  | nil => rfl
  | cons c t =>
    have hs : frontMatterRule.segment? (c :: t) = none := by rw [Rule.segment?, h]; rfl
    obtain ⟨r, rs, h1, h2⟩ : ∃ r rs, rules = r :: frontMatterRule :: rs ∧ rulesWithoutFrontMatter = r :: rs :=
      ⟨_, _, rfl, rfl⟩
    simp only [Segment.leading, Segment.leadingBy, h1, h2, List.findSome?_cons, hs, Bool.false_eq_true, if_false,
      if_true]

namespace Cursor

variable {source passed : Text} {c : Cursor}

theorem mayOpenFrontMatter_iff :
    c.mayOpenFrontMatter = true ↔ ∃ close, c.lastClose = some close ∧ c.offset + 3 < close := by
  unfold mayOpenFrontMatter
  cases c.lastClose with
  | none => simp
  | some close => simp

theorem not_mayOpenFrontMatter_iff :
    c.mayOpenFrontMatter = false ↔ ∀ close, c.lastClose = some close → close ≤ c.offset + 3 := by
  rw [← Bool.not_eq_true, mayOpenFrontMatter_iff]
  simp only [not_exists, not_and, Nat.not_lt]

/-- **The guard makes no difference to one segment.** -/
theorem leading_of_at (h : At source passed c) :
    Segment.leading c.mayOpenFrontMatter c.rest = Segment.leading true c.rest := by
  cases hm : c.mayOpenFrontMatter with
  | true => rfl
  | false =>
    apply leading_false_eq
    apply frontMatterRule_eq_none h.split
    rw [← h.lastClose, ← h.offset]
    exact not_mayOpenFrontMatter_iff.1 hm

/-- a cursor that has failed stands before a character that no rule takes -/
theorem leading_of_failed (source : Text) (n : Nat) (h : (after next (ofText source) n).failed = true) :
    ∃ e, Segment.leading true (after next (ofText source) n).rest = .error e := by
  induction n with
  | zero => cases h
  | succ n ih =>
    rw [after_succ] at h ⊢
    rcases (after next (ofText source) n).next_cases with ⟨-, hn⟩ | ⟨g, hf, -, hn⟩ | ⟨e, t, -, he, -, hn⟩
    · rw [hn] at h ⊢
      exact ih h
    · rw [hn, skip, hf] at h
      cases h
    · rw [hn]
      exact ⟨e, leading_of_at (at_after source n) ▸ he⟩

/-- **What leads the rest is what the next call takes**, in a run from the start of a source -/
theorem next_of_leading_rest {n : Nat} {g : Segment}
    (h : Segment.leading true (after next (ofText source) n).rest = .ok (some g)) :
    (after next (ofText source) n).next = (some (.ok g), (after next (ofText source) n).skip g) := by
  have hf : (after next (ofText source) n).failed = false := by
    rw [Bool.eq_false_iff]
    intro hfailed
    obtain ⟨e, he⟩ := leading_of_failed source n hfailed
    rw [h] at he
    cases he
  rw [← leading_of_at (at_after source n)] at h
  exact next_of_leading hf h

/-- **Draining is segmentation of the rest**, from wherever a cursor stands without having failed -/
theorem drain_eq_items (h : At source passed c) (hf : c.failed = false) :
    c.drain.1 = (segmentation c.rest).items := by
  induction hn : c.rest.length using Nat.strong_induction_on generalizing passed c with
  | _ n ih =>
    have hl := leading_of_at h
    rcases c.next_cases with ⟨hr, hnext⟩ | ⟨g, -, hg, hnext⟩ | ⟨e, t, -, he, -, hnext⟩
    · rw [hf] at hr
      have hr : c.rest = [] := by simpa using hr
      rw [drain_of_none (by rw [hnext]), hr, segmentation_of_none rfl]
      rfl
    · have hlt := hn ▸ Segment.length_drop_leading hg
      rw [drain_of_some (by rw [hnext]), hnext, segmentation_of_some (hl ▸ hg)]
      exact congrArg _ (ih _ hlt (h.skip hg) hf rfl)
    · rw [drain_of_some (by rw [hnext]), hnext, drain_of_none (by rw [next, if_pos rfl]),
        segmentation_of_error (hl ▸ he)]
      rfl

theorem drain_ofText (source : Text) : (ofText source).drain.1 = (segmentation source).items :=
  drain_eq_items (at_ofText source) rfl

/-! ## The guard changes nothing -/

/-- **The guard changes nothing.** Draining a cursor gives what repeated segmentation with every rule tried gives: the
same segments, and then the same end or the same failure. Wherever the cursor gets to, if the last close of the source
is at most three bytes behind it, or there is none, the front matter rule does not match what is left. -/
theorem front_matter_guard_changes_nothing (source : Text) :
    (ofText source).drain.1 = (segmentation source).items ∧
    ∀ n, (∀ close, lastClose? source = some close → close ≤ (after next (ofText source) n).offset + 3) →
      frontMatterRule.matchLength? (after next (ofText source) n).rest = none := by
  constructor
  · exact drain_eq_items (at_ofText source) rfl
  · intro n h
    have hat := at_after source n
    rw [hat.offset] at h
    exact frontMatterRule_eq_none hat.split h

end Cursor

end FlowchartLexer
