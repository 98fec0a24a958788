/-
What the front matter rule takes, said with offsets.

A line break is named by the offset at which it ends. So a close (`ClosesAt`) is named by the offset of its fence, which
is that of its line break, and `OpensAt` names the line breaks among the blanks behind the opening fence. Of two line
breaks the later one has the greater offset.

- `opensAt_fence_iff`, `closesAt_append_iff`: places in a text of which the beginning is known.
- `frontMatterRule_ne_none_iff`: the rule matches if a line break opens and a later one closes.
- `closeEnd?_isLeast`, `LastBreak.isGreatest`: the first close of a text and the last line break that opens.
- `LastBreak.matchSize?_of_later_close`, `LastBreak.matchSize?_of_no_later_close`: where the match ends.
- **What front matter means** (`front_matter_ends_by_its_last_opening_break`).
-/
import FlowchartLexer.Proofs.FrontMatterExtent

namespace FlowchartLexer

/-! ## Places -/

/-- a line break ends at the offset -/
def BreaksAt (t : Text) (n : Nat) : Prop :=
  ∃ p b q, t = p ++ b :: q ∧ isLineBreak b = true ∧ n = byteSize p + b.utf8Size

/-- the longest run of blanks right behind the fence that a text begins with -/
def openingBlanks (t : Text) : Text :=
  (t.drop fence.length).takeWhile isBlank

/-- one of the line breaks among these blanks ends at the offset -/
def OpensAt (t : Text) (n : Nat) : Prop :=
  ∃ k, BreaksAt (openingBlanks t) k ∧ n = byteSize fence + k

/-- in other words: only blanks stand between the fence and the line break -/
theorem opensAt_fence_iff {t : Text} {n : Nat} : OpensAt (fence ++ t) n ↔
    ∃ w b q, t = w ++ b :: q ∧ (∀ c ∈ w, isBlank c = true) ∧ isLineBreak b = true ∧
      n = byteSize (fence ++ (w ++ [b])) := by
  have hblanks : openingBlanks (fence ++ t) = t.takeWhile isBlank := by rw [openingBlanks, List.drop_left]
  constructor
  · rintro ⟨k, ⟨w, b, q, hw, hb, rfl⟩, rfl⟩
    rw [hblanks] at hw
    refine ⟨w, b, q ++ t.dropWhile isBlank, ?_, ?_, hb, ?_⟩
    · rw [← List.cons_append, ← List.append_assoc, ← hw]
      exact List.takeWhile_append_dropWhile.symm
    · intro c hc
      apply List.mem_takeWhile_imp (l := t)
      rw [hw]
      exact List.mem_append_left _ hc
    · simp
  · rintro ⟨w, b, q, rfl, hw, hb, rfl⟩
    refine ⟨byteSize w + b.utf8Size, ⟨w, b, q.takeWhile isBlank, ?_, hb, rfl⟩, by simp⟩
    rw [hblanks, takeWhile_isBlank_break hw hb]

theorem ClosesAt.pos {t : Text} {n : Nat} (h : ClosesAt t n) : 0 < n := by
  obtain ⟨p, b, q, -, -, -, rfl⟩ := h
  exact Nat.add_pos_right _ b.utf8Size_pos

/-- a close behind a beginning of the text is one of the rest -/
theorem closesAt_append_iff {s t : Text} {n : Nat} (hn : 0 < n) :
    ClosesAt (s ++ t) (byteSize s + n) ↔ ClosesAt t n := by
  induction s with
  | nil => rw [List.nil_append, byteSize_nil, Nat.zero_add]
  | cons c s ih =>
    rw [List.cons_append, closesAt_cons, byteSize_cons]
    constructor
    · rintro (⟨-, -, h⟩ | ⟨m, hm, h⟩)
      · omega
      · obtain rfl : m = byteSize s + n := by omega
        exact ih.1 hm
    · intro h
      exact Or.inr ⟨_, ih.2 h, Nat.add_assoc _ _ _⟩

/-! ## Whether the rule matches -/

theorem IsFrontMatter.opens_and_closes {u : Text} (h : IsFrontMatter u) (v : Text) :
    ∃ o n, OpensAt (u ++ v) o ∧ ClosesAt (u ++ v) n ∧ o < n := by
  obtain ⟨w, a, x, c, rfl, hw, ha, hc⟩ := isFrontMatter_iff.1 h
  refine ⟨byteSize (fence ++ (w ++ [a])), byteSize (fence ++ (w ++ a :: x)) + c.utf8Size, ?_,
    ⟨fence ++ (w ++ a :: x), c, fence ++ v, by simp, hc, rfl, rfl⟩, ?_⟩
  · rw [List.append_assoc]
    exact opensAt_fence_iff.2 ⟨w, a, (x ++ c :: fence) ++ v, by simp, hw, ha, rfl⟩
  · have hpos := c.utf8Size_pos
    simp only [byteSize_append, byteSize_cons, byteSize_nil]
    omega

theorem exists_frontMatter_of_opens_and_closes {t : Text} {o n : Nat} (ho : OpensAt (fence ++ t) o)
    (hn : ClosesAt (fence ++ t) n) (hlt : o < n) : ∃ u v, fence ++ t = u ++ v ∧ IsFrontMatter u := by
  obtain ⟨w, a, q, rfl, hw, ha, rfl⟩ := opensAt_fence_iff.1 ho
  obtain ⟨k, rfl⟩ := Nat.exists_eq_add_of_lt hlt
  have hsplit : fence ++ (w ++ a :: q) = fence ++ (w ++ [a]) ++ q := by simp
  rw [hsplit, Nat.add_assoc, closesAt_append_iff k.succ_pos] at hn
  obtain ⟨x, b, r, rfl, hb, hr, -⟩ := hn
  obtain ⟨v, rfl⟩ := startsWithFence_iff.1 hr
  exact ⟨fence ++ (w ++ a :: (x ++ b :: fence)), v, by simp, isFrontMatter_iff.2 ⟨w, a, x, b, rfl, hw, ha, hb⟩⟩

/-- **The rule matches** where a line break opens and a later one closes. -/
theorem frontMatterRule_ne_none_iff {t : Text} : frontMatterRule.matchLength? (fence ++ t) ≠ none ↔
    ∃ o n, OpensAt (fence ++ t) o ∧ ClosesAt (fence ++ t) n ∧ o < n := by
  constructor
  · intro h
    obtain ⟨m, hm⟩ := Option.ne_none_iff_exists'.1 h
    obtain ⟨u, v, hu, -, hfront⟩ := frontMatterRule_eq_some hm
    rw [hu]
    exact hfront.opens_and_closes v
  · rintro ⟨o, n, ho, hn, hlt⟩
    obtain ⟨u, v, hu, hfront⟩ := exists_frontMatter_of_opens_and_closes ho hn hlt
    rw [hu]
    exact frontMatterRule_ne_none hfront

/-! ## Where the match ends -/

/-- the search for a close finds the first one, and goes up to the end of its fence -/
theorem closeEnd?_isLeast {t : Text} {n : Nat} (h : closeEnd? t = some n) :
    ∃ k, IsLeast {k | ClosesAt t k} k ∧ byteSize (t.take n) = k + 3 := by
  induction t generalizing n with
  | nil => cases h
  | cons c t ih =>
    by_cases hc : isLineBreak c = true ∧ fence <+: t
    · rw [closeEnd?_cons_of_pos hc.1 hc.2] at h
      cases h
      obtain ⟨u, rfl⟩ := hc.2
      refine ⟨c.utf8Size, ⟨closesAt_cons.2 (Or.inl ⟨hc.1, rfl, rfl⟩), ?_⟩, rfl⟩
      intro m hm
      rcases closesAt_cons.1 hm with ⟨-, -, rfl⟩ | ⟨k, -, rfl⟩
      · exact le_rfl
      · exact Nat.le_add_right _ _
    · rw [closeEnd?_cons_of_not hc] at h
      obtain ⟨n, hn, rfl⟩ := Option.map_eq_some_iff.1 h
      obtain ⟨k, ⟨hk, hmin⟩, hsize⟩ := ih hn
      refine ⟨c.utf8Size + k, ⟨closesAt_cons.2 (Or.inr ⟨k, hk, rfl⟩), ?_⟩, ?_⟩
      · intro m hm
        rcases closesAt_cons.1 hm with ⟨hb, hf, -⟩ | ⟨j, hj, rfl⟩
        · exact absurd ⟨hb, startsWithFence_iff.1 hf⟩ hc
        · exact Nat.add_le_add_left (hmin hj) _
      · rw [List.take_succ_cons, byteSize_cons, hsize, Nat.add_assoc]

theorem not_closesAt_of_closeEnd?_eq_none {t : Text} (h : closeEnd? t = none) (n : Nat) : ¬ ClosesAt t n := by
  rintro ⟨p, b, q, hq, hb, hf, -⟩
  exact closeEnd?_eq_none_iff.1 h p b q hq hb (startsWithFence_iff.1 hf)

namespace LastBreak

variable {t p : Text} {b : Char} {q : Text}

/-- **The last line break that opens** is the last one among the blanks. -/
theorem isGreatest (h : LastBreak t p b q) :
    IsGreatest {n | OpensAt (fence ++ t) n} (byteSize (fence ++ (p ++ [b]))) := by
  constructor
  · exact opensAt_fence_iff.2 ⟨p, b, q, h.split, h.blanks, h.lineBreak, rfl⟩
  · intro n hn
    obtain ⟨w, a, r, hw, hblank, ha, rfl⟩ := opensAt_fence_iff.1 hn
    have hsplit := h.split.symm.trans hw
    rcases eq_or_behind_of_append_cons hsplit with ⟨rfl, rfl, -⟩ | ⟨m, rfl⟩ | ⟨m, rfl, -⟩
    · exact le_rfl
    · -- a later one would be among the blanks behind the last
      obtain rfl : p ++ b :: m = w := by
        rw [← List.cons_append, ← List.append_assoc] at hsplit
        exact List.append_cancel_right hsplit
      have hmem : a ∈ (m ++ a :: r).takeWhile isBlank := by
        rw [takeWhile_isBlank_break (fun c hc => hblank c (by simp [hc])) ha]
        simp
      rw [h.last a hmem] at ha
      cases ha
    · simp only [byteSize_append, byteSize_cons]
      omega

theorem fence_append_eq (h : LastBreak t p b q) : fence ++ t = fence ++ (p ++ [b]) ++ q := by
  simp [h.split]

/-- closes behind the last line break that opens are closes of what stands there -/
theorem closesAt_behind_iff (h : LastBreak t p b q) {k : Nat} (hk : 0 < k) :
    ClosesAt (fence ++ t) (byteSize (fence ++ (p ++ [b])) + k) ↔ ClosesAt q k := by
  rw [h.fence_append_eq]
  exact closesAt_append_iff hk

/-- what ends behind it, with the length that the rule counts -/
theorem take_behind (h : LastBreak t p b q) (n : Nat) :
    (fence ++ t).take (3 + (p.length + (1 + n))) = fence ++ (p ++ [b]) ++ q.take n := by
  have hlen : 3 + (p.length + (1 + n)) = (fence ++ (p ++ [b])).length + n := by
    have hf : fence.length = 3 := rfl
    simp only [List.length_append, List.length_singleton, hf]
    omega
  rw [h.fence_append_eq, hlen, List.take_length_add_append]

/-- **With a close behind it**, the match ends just past the first one there. -/
theorem matchSize?_of_later_close (h : LastBreak t p b q) {n : Nat} (hn : ClosesAt (fence ++ t) n)
    (hlt : byteSize (fence ++ (p ++ [b])) < n) :
    ∃ k, IsLeast {k | ClosesAt (fence ++ t) k ∧ byteSize (fence ++ (p ++ [b])) < k} k ∧
      frontMatterRule.matchSize? (fence ++ t) = some (k + 3) := by
  obtain ⟨j, rfl⟩ := Nat.exists_eq_add_of_lt hlt
  have hj := (h.closesAt_behind_iff j.succ_pos).1 hn
  cases hq : closeEnd? q with
  | none => exact absurd hj (not_closesAt_of_closeEnd?_eq_none hq _)
  | some m =>
    obtain ⟨k, ⟨hk, hmin⟩, hsize⟩ := closeEnd?_isLeast hq
    have hk : ClosesAt q k := hk
    refine ⟨byteSize (fence ++ (p ++ [b])) + k, ⟨⟨(h.closesAt_behind_iff hk.pos).2 hk, Nat.lt_add_of_pos_right hk.pos⟩,
      ?_⟩, ?_⟩
    · rintro i ⟨hi, hilt⟩
      obtain ⟨i, rfl⟩ := Nat.exists_eq_add_of_lt hilt
      exact Nat.add_le_add_left (hmin ((h.closesAt_behind_iff i.succ_pos).1 hi)) _
    · rw [Rule.matchSize?, frontMatterRule_extent h, hq, Option.map_some, h.take_behind, byteSize_append, hsize,
        Nat.add_assoc]

/-- **Without one**, a match ends just past the close of the last opening line break itself. -/
theorem matchSize?_of_no_later_close (h : LastBreak t p b q)
    (hn : ∀ n, ClosesAt (fence ++ t) n → n ≤ byteSize (fence ++ (p ++ [b]))) {m : Nat}
    (hm : frontMatterRule.matchSize? (fence ++ t) = some m) :
    ClosesAt (fence ++ t) (byteSize (fence ++ (p ++ [b]))) ∧ m = byteSize (fence ++ (p ++ [b])) + 3 := by
  have hq : closeEnd? q = none := by
    cases hq : closeEnd? q with
    | none => rfl
    | some i =>
      obtain ⟨k, ⟨hk, -⟩, -⟩ := closeEnd?_isLeast hq
      have hk : ClosesAt q k := hk
      have hle := hn (byteSize (fence ++ (p ++ [b])) + k) ((h.closesAt_behind_iff hk.pos).2 hk)
      have hpos := hk.pos
      omega
  obtain ⟨i, hi, rfl⟩ := Option.map_eq_some_iff.1 hm
  rw [frontMatterRule_extent h, hq] at hi
  split_ifs at hi with hc
  obtain ⟨⟨v, rfl⟩, -⟩ := hc
  obtain rfl := Option.some.inj hi
  constructor
  · refine ⟨fence ++ p, b, fence ++ v, by simp [h.split], h.lineBreak, rfl, ?_⟩
    simp only [byteSize_append, byteSize_cons, byteSize_nil]
    omega
  · have hfence : (fence ++ v).take 3 = fence := rfl
    rw [h.take_behind, hfence, byteSize_append]
    rfl

end LastBreak

/-! ## What front matter means -/

/-- **What front matter means**, for every text.
- A text that does not begin with a fence has none.
- Otherwise it has front matter if some line break among the blanks behind the fence opens it, and a close comes after
  the first of them.
- Let `last` be the last of these line breaks. Front matter ends just past the first close behind `last`, if there is
  one, and otherwise just past the close that has `last` itself for its line break. -/
theorem front_matter_ends_by_its_last_opening_break (t : Text) :
    (¬ fence <+: t → frontMatterRule.matchSize? t = none) ∧
    (fence <+: t →
      ((∃ m, frontMatterRule.matchSize? t = some m) ↔
        ∃ first, IsLeast {n | OpensAt t n} first ∧ ∃ n, ClosesAt t n ∧ first < n) ∧
      ∀ m, frontMatterRule.matchSize? t = some m → ∃ last, IsGreatest {n | OpensAt t n} last ∧
        ((∃ n, ClosesAt t n ∧ last < n) → ∃ n, IsLeast {n | ClosesAt t n ∧ last < n} n ∧ m = n + 3) ∧
        ((∀ n, ClosesAt t n → n ≤ last) → ClosesAt t last ∧ m = last + 3)) := by
  constructor
  · intro hf
    rw [Rule.matchSize?, frontMatterRule_of_not_fence hf]
    rfl
  · rintro ⟨t, rfl⟩
    have hsome : (∃ m, frontMatterRule.matchSize? (fence ++ t) = some m) ↔
        frontMatterRule.matchLength? (fence ++ t) ≠ none := by
      rw [← Option.ne_none_iff_exists', Rule.matchSize?, ne_eq, Option.map_eq_none_iff]
    constructor
    · rw [hsome, frontMatterRule_ne_none_iff]
      constructor
      · rintro ⟨o, n, ho, hn, hlt⟩
        obtain ⟨first, hfirst⟩ : ∃ first, IsLeast {n | OpensAt (fence ++ t) n} first := ⟨_, isLeast_csInf ⟨o, ho⟩⟩
        exact ⟨first, hfirst, n, hn, (hfirst.2 ho).trans_lt hlt⟩
      · rintro ⟨first, ⟨hfirst, -⟩, n, hn, hlt⟩
        exact ⟨first, n, hfirst, hn, hlt⟩
    · intro m hm
      rcases lastBreak_or_none t with ⟨p, b, q, h⟩ | hnone
      · refine ⟨byteSize (fence ++ (p ++ [b])), h.isGreatest, ?_, fun hn => h.matchSize?_of_no_later_close hn hm⟩
        rintro ⟨n, hn, hlt⟩
        obtain ⟨k, hk, hsize⟩ := h.matchSize?_of_later_close hn hlt
        rw [hm] at hsize
        exact ⟨k, hk, Option.some.inj hsize⟩
      · rw [Rule.matchSize?, frontMatterRule_of_blanks hnone] at hm
        cases hm

/-- the first close stands on the last of the opening line breaks, so it is passed over -/
example : frontMatterRule.matchSize? "---\n\n---\n---".toList = some 12 := by decide +kernel

end FlowchartLexer
