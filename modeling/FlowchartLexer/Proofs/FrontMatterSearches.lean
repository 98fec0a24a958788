/-
How often the front matter rule is tried in vain.

The rule has to look through all of what is left before it fails, and many fences could make it do so again and again.
The guard of a cursor lets it try only before the last place where front matter closes. If it fails there although a
line break stands among the blanks behind the fence, it is because that place is the end of these very blanks. The next
two segments are the fence, as a link, and the blanks, and from then on the cursor is too far for the guard.

- `closesAt_of_no_frontMatter`: where front matter opens and does not match, it can only close right behind its blanks.
- `Cursor.SearchFails.lastClose_eq`: so this is the last close of the source.
- `Cursor.SearchFails.two_calls`: the fence and the blanks.
- `Cursor.guard_stays_off`: where the guard is off, it stays off.
- **At most one search fails** (`Cursor.at_most_one_search_fails`), and a source where one does
  (`Cursor.search_fails_before_only_close`).
-/
import FlowchartLexer.Proofs.FrontMatterMeaning

namespace FlowchartLexer

open Calls

/-! ## Where front matter opens and does not match -/

/-- **The only close is right behind the blanks**, if they have a line break and the rule does not match. Any other
close would be behind the last line break, and the rule would have found it. -/
theorem closesAt_of_no_frontMatter {t : Text} (hopens : (t.takeWhile isBlank).any isLineBreak = true)
    (hnone : frontMatterRule.matchLength? (fence ++ t) = none) {k : Nat} (hk : ClosesAt t k) :
    k = byteSize (t.takeWhile isBlank) := by
  obtain ⟨a, ha, hbreak⟩ := List.any_eq_true.1 hopens
  rcases lastBreak_or_none t with ⟨p, b, q, h⟩ | hno
  · obtain ⟨r, c, s, ht, hc, hs, rfl⟩ := hk
    have hfence := startsWithFence_iff.1 hs
    have hlate : closeEnd? q = none := by
      rw [frontMatterRule_extent h] at hnone
      cases hq : closeEnd? q with
      | none => rfl
      | some n =>
        rw [hq] at hnone
        cases hnone
    rcases h.close_cases ht hfence with ⟨rfl, rfl, rfl⟩ | ⟨m, rfl⟩
    · -- the fence stops the blanks behind the last line break
      obtain ⟨v, rfl⟩ := hfence
      have hblanks : t.takeWhile isBlank = p ++ [b] := by
        rw [h.split, takeWhile_isBlank_break h.blanks hc]
        rfl
      rw [hblanks, byteSize_append, byteSize_cons, byteSize_nil, Nat.add_zero]
    · exact absurd hfence (closeEnd?_eq_none_iff.1 hlate m c s rfl hc)
  · rw [hno a ha] at hbreak
    cases hbreak

/-! ## Searches that fail -/

namespace Cursor

/-- the guard lets the front matter rule be tried, a fence and blanks with a line break stand here, and yet the rule
does not match -/
@[mk_iff]
structure SearchFails (c : Cursor) : Prop where
  guard : c.mayOpenFrontMatter = true
  opens : fence <+: c.rest
  breaks : (openingBlanks c.rest).any isLineBreak = true
  fails : frontMatterRule.matchLength? c.rest = none

instance : DecidablePred SearchFails :=
  fun c => decidable_of_iff' _ (searchFails_iff c)

variable {source passed : Text} {c : Cursor}

/-- **The last close of the source** is right behind the blanks. -/
theorem SearchFails.lastClose_eq (hs : c.SearchFails) (h : At source passed c) :
    c.lastClose = some (c.offset + byteSize fence + byteSize (openingBlanks c.rest)) := by
  obtain ⟨t, ht⟩ := hs.opens
  obtain ⟨close, hclose, hlt⟩ := mayOpenFrontMatter_iff.1 hs.guard
  have hblanks : openingBlanks c.rest = t.takeWhile isBlank := by
    rw [openingBlanks, ← ht, List.drop_left]
  have hbefore : byteSize (passed ++ fence) = c.offset + 3 := by
    rw [byteSize_append, h.offset]
    rfl
  -- the close of the source is one of what stands behind the fence
  obtain ⟨k, rfl⟩ := Nat.exists_eq_add_of_lt hlt
  have hk : ClosesAt t (k + 1) := by
    have hlast := (lastClose?_eq_some_iff.1 (h.lastClose ▸ hclose)).1
    rw [← h.split, ← ht, ← List.append_assoc, ← hbefore, Nat.add_assoc, closesAt_append_iff k.succ_pos] at hlast
    exact hlast
  have hsize : k + 1 = byteSize (t.takeWhile isBlank) :=
    closesAt_of_no_frontMatter (hblanks ▸ hs.breaks) (ht ▸ hs.fails) hk
  rw [hclose, hblanks, ← hsize]
  rfl

/-! ## The calls that follow -/

/-- the fence as a link -/
def fenceLink : Segment :=
  ⟨.lexeme .link, fence⟩

/-- the blanks behind the fence -/
def blanksBehindFence (c : Cursor) : Segment :=
  ⟨.trivia .whitespace, openingBlanks c.rest⟩

theorem SearchFails.leading_fence (hs : c.SearchFails) : Segment.leading true c.rest = .ok (some fenceLink) := by
  obtain ⟨t, ht⟩ := hs.opens
  have hfails := hs.fails
  rw [← ht] at hfails ⊢
  refine Segment.leading_eq_lexeme_iff.2 ⟨by decide, hfails, ?_, lexeme?_fence t⟩
  intro hp
  exact absurd (List.cons_prefix_cons.1 hp).1 (by decide)

theorem SearchFails.leading_blanks (hs : c.SearchFails) :
    Segment.leading true (c.skip fenceLink).rest = .ok (some c.blanksBehindFence) := by
  have hbreaks := hs.breaks
  have hrest : (c.skip fenceLink).rest = c.rest.drop fence.length := rfl
  rw [blanksBehindFence, hrest]
  unfold openingBlanks at hbreaks ⊢
  cases ht : c.rest.drop fence.length with
  | nil =>
    rw [ht] at hbreaks
    cases hbreaks
  | cons d t =>
    cases hd : isBlank d with
    | true => exact Segment.leading_blank hd t
    | false =>
      rw [ht, List.takeWhile_cons_of_neg (by simp [hd])] at hbreaks
      cases hbreaks

/-- behind the blanks the cursor is too far for the guard -/
theorem SearchFails.guard_off (hs : c.SearchFails) (h : At source passed c) :
    ((c.skip fenceLink).skip c.blanksBehindFence).mayOpenFrontMatter = false := by
  rw [not_mayOpenFrontMatter_iff]
  intro close hclose
  have hlast : c.lastClose = some close := hclose
  rw [hs.lastClose_eq h] at hlast
  calc close = c.offset + byteSize fence + byteSize (openingBlanks c.rest) := (Option.some.inj hlast).symm
    _ ≤ ((c.skip fenceLink).skip c.blanksBehindFence).offset + 3 := Nat.le_add_right _ 3

/-! ## The guard stays off -/

/-- a call moves the cursor forward only, and the last close stays where it is -/
theorem mayOpenFrontMatter_next (h : c.mayOpenFrontMatter = false) : c.next.2.mayOpenFrontMatter = false := by
  rw [not_mayOpenFrontMatter_iff] at h ⊢
  intro close hclose
  rcases c.next_cases with ⟨-, hn⟩ | ⟨g, -, -, hn⟩ | ⟨e, t, -, -, -, hn⟩
  · rw [hn] at hclose ⊢
    exact h close hclose
  · rw [hn] at hclose ⊢
    calc close ≤ c.offset + 3 := h close hclose
      _ ≤ c.offset + byteSize g.text + 3 := Nat.add_le_add_right (Nat.le_add_right _ _) 3
  · rw [hn] at hclose ⊢
    exact h close hclose

theorem guard_stays_off {m k : Nat} (h : (after next c m).mayOpenFrontMatter = false) (hk : m ≤ k) :
    (after next c k).mayOpenFrontMatter = false := by
  induction k, hk using Nat.le_induction with
  | base => exact h
  | succ k _ ih => exact mayOpenFrontMatter_next ih

/-! ## At most one search fails -/

/-- the call at which a search fails, and the one that follows -/
theorem SearchFails.two_calls {n : Nat} (hs : (after next (ofText source) n).SearchFails) :
    (after next (ofText source) n).next = (some (.ok fenceLink), (after next (ofText source) n).skip fenceLink) ∧
      (after next (ofText source) (n + 1)).next = (some (.ok (after next (ofText source) n).blanksBehindFence),
        ((after next (ofText source) n).skip fenceLink).skip (after next (ofText source) n).blanksBehindFence) := by
  have hfirst := next_of_leading_rest hs.leading_fence
  have hafter : after next (ofText source) (n + 1) = (after next (ofText source) n).skip fenceLink := by
    rw [after_succ, hfirst]
  refine ⟨hfirst, ?_⟩
  rw [next_of_leading_rest (hafter ▸ hs.leading_blanks), hafter]

theorem SearchFails.guard_off_after {n : Nat} (hs : (after next (ofText source) n).SearchFails) {k : Nat}
    (hk : n + 2 ≤ k) : (after next (ofText source) k).mayOpenFrontMatter = false := by
  refine guard_stays_off ?_ hk
  rw [after_succ, hs.two_calls.2]
  exact hs.guard_off (at_after source n)

/-- no search fails at a later call: the next one stands before a blank, and then the guard is off -/
theorem SearchFails.not_later {m n : Nat} (hm : (after next (ofText source) m).SearchFails) (hlt : m < n) :
    ¬ (after next (ofText source) n).SearchFails := by
  intro hn
  rcases Nat.lt_or_eq_of_le (Nat.succ_le_of_lt hlt) with hlater | rfl
  · have hguard := hn.guard
    rw [hm.guard_off_after hlater] at hguard
    cases hguard
  · have hblanks := hm.two_calls.2
    rw [hn.two_calls.1] at hblanks
    cases hblanks

/-- **At most one search fails** in a run from the start of a source. The call at which it does takes the fence as a
link, the next one takes all the blanks behind it, and from then on the guard is off. -/
theorem at_most_one_search_fails (source : Text) :
    (∀ m n, (after next (ofText source) m).SearchFails → (after next (ofText source) n).SearchFails → m = n) ∧
    ∀ n, (after next (ofText source) n).SearchFails →
      answer next (ofText source) n = some (.ok ⟨.lexeme .link, fence⟩) ∧
      answer next (ofText source) (n + 1) =
        some (.ok ⟨.trivia .whitespace, openingBlanks (after next (ofText source) n).rest⟩) ∧
      ∀ k, n + 2 ≤ k → (after next (ofText source) k).mayOpenFrontMatter = false := by
  constructor
  · intro m n hm hn
    rcases Nat.lt_trichotomy m n with hlt | heq | hgt
    · exact absurd hn (hm.not_later hlt)
    · exact heq
    · exact absurd hm (hn.not_later hgt)
  · intro n hs
    obtain ⟨hlink, hblanks⟩ := hs.two_calls
    refine ⟨congrArg Prod.fst hlink, congrArg Prod.fst hblanks, ?_⟩
    intro k hk
    exact hs.guard_off_after hk

/-- two fences and the line break between them: the search fails at once, and the second fence is behind the guard -/
theorem search_fails_before_only_close : (after next (ofText "---\n---".toList) 0).SearchFails ∧
    ∀ k, 2 ≤ k → (after next (ofText "---\n---".toList) k).mayOpenFrontMatter = false := by
  have hs : (after next (ofText "---\n---".toList) 0).SearchFails := by decide +kernel
  refine ⟨hs, ?_⟩
  intro k hk
  exact ((at_most_one_search_fails "---\n---".toList).2 0 hs).2.2 k hk

end Cursor

end FlowchartLexer
