/-
Where front matter ends.

Front matter opens with a fence and blanks that have a line break among them. What matters is the last of these line
breaks (`LastBreak`), since the pattern prefers to take all that it can before what it has to go through to the close.

- `head?_lengths_toClose`: a lazy run stops at the first fence that stands right behind a line break (`closeEnd?`).
- `head?_lengths_blanks`: so with a close behind the last line break, the first one there is preferred.
- `IsFrontMatter.of_no_later_close`: without one, only the last line break itself can be that of the close, and then an
  earlier one has to open the block.
- **Where front matter ends** (`frontMatterRule_extent`).
-/
import FlowchartLexer.Proofs.LexemeExtent

namespace FlowchartLexer

/-! ## Fences behind line breaks -/

theorem startsWithFence_iff {t : Text} : startsWithFence t = true ↔ fence <+: t := by
  constructor
  · intro h
    unfold startsWithFence at h
    split at h
    · next u => exact List.prefix_append fence u
    · cases h
  · rintro ⟨u, rfl⟩
    rfl

/-- how many characters there are up to the end of the first fence that stands right behind a line break -/
def closeEnd? : Text → Option Nat
  | [] => none
  | c :: t => if isLineBreak c && startsWithFence t then some 4 else (closeEnd? t).map (· + 1)

theorem closeEnd?_cons_of_not {c : Char} {t : Text} (h : ¬ (isLineBreak c = true ∧ fence <+: t)) :
    closeEnd? (c :: t) = (closeEnd? t).map (· + 1) := by
  rw [closeEnd?, if_neg]
  rw [Bool.and_eq_true, startsWithFence_iff]
  exact h

theorem closeEnd?_cons_of_pos {c : Char} {t : Text} (hc : isLineBreak c = true) (ht : fence <+: t) :
    closeEnd? (c :: t) = some 4 := by
  rw [closeEnd?, hc, startsWithFence_iff.2 ht]
  rfl

theorem closeEnd?_eq_none_iff {t : Text} :
    closeEnd? t = none ↔ ∀ p b q, t = p ++ b :: q → isLineBreak b = true → ¬ fence <+: q := by
  induction t with
  | nil =>
    refine iff_of_true rfl fun p b q h => ?_
    cases p <;> cases h
  | cons c t ih =>
    by_cases hc : isLineBreak c = true ∧ fence <+: t
    · rw [closeEnd?_cons_of_pos hc.1 hc.2]
      exact iff_of_false (fun h => by cases h) fun h => h [] c t rfl hc.1 hc.2
    · rw [closeEnd?_cons_of_not hc, Option.map_eq_none_iff, ih]
      constructor
      · intro h p b q hq hb hf
        cases p with
        | nil =>
          obtain ⟨rfl, rfl⟩ := List.cons.inj hq
          exact hc ⟨hb, hf⟩
        | cons d p => exact h p b q (List.cons.inj hq).2 hb hf
      · intro h p b q hq
        exact h (c :: p) b q (congrArg (c :: ·) hq)

/-- no close has its line break in a fence -/
theorem closeEnd?_fence_append (t : Text) : closeEnd? (fence ++ t) = (closeEnd? t).map (· + 3) := by
  have hstep : ∀ u, closeEnd? ('-' :: u) = (closeEnd? u).map (· + 1) :=
    fun u => closeEnd?_cons_of_not fun h => absurd h.1 (by decide)
  show closeEnd? ('-' :: '-' :: '-' :: t) = _
  rw [hstep, hstep, hstep]
  cases closeEnd? t <;> rfl

/-! ## The end of the pattern -/

/-- line breaks and the closing fence -/
def closing : Sequence :=
  ⟨.lineBreak, .some⟩ :: Sequence.spelling "---"

/-- anything up to the close -/
def toClose : Sequence :=
  ⟨.any, .few⟩ :: closing

/-- what has to follow the opening fence -/
def behindFence : Sequence :=
  ⟨.whitespace, .many⟩ :: ⟨.lineBreak, .some⟩ :: toClose

theorem frontMatterRule_fence (t : Text) :
    frontMatterRule.matchLength? (fence ++ t) = (behindFence.lengths t).head?.map (3 + ·) := by
  have hp : frontMatterRule.pattern = .only (Sequence.spelling "---" ++ behindFence) := rfl
  rw [Rule.matchLength?, Pattern.matchLength?_eq_preferred?, Pattern.preferred?, hp, Pattern.lengths_only,
    lengths_spelling_append, show "---".toList = fence from rfl, if_pos (List.prefix_append fence t), List.drop_left,
    List.head?_map]
  cases (behindFence.lengths t).head? with
  | none => rfl
  | some n =>
    have hlen : n + fence.length = 3 + n := Nat.add_comm n 3
    rw [Option.map_some, Option.map_some, hlen, Option.filter_some, if_pos (by simp)]

theorem isLineBreak_of_fence_prefix {c : Char} {t : Text} (h : fence <+: c :: t) : isLineBreak c = false := by
  rw [← (List.cons_prefix_cons.1 h).1]
  rfl

theorem lengths_closing_of_not {c : Char} (hc : isLineBreak c = false) (t : Text) :
    closing.lengths (c :: t) = [] := by
  simp [closing, Sequence.lengths, Piece.matcher, Matcher.once, CharClass.mem, hc]

/-- a line break before the close: either the fence follows, or the run of line breaks goes on -/
theorem lengths_closing_cons {c : Char} (hc : isLineBreak c = true) (t : Text) :
    closing.lengths (c :: t) = if fence <+: t then [4] else (closing.lengths t).map (· + 1) := by
  have hrun : closing.lengths (c :: t) =
      (Matcher.many .lineBreak (Sequence.spelling "---").lengths t).map (· + 1) := by
    simp [closing, Sequence.lengths, Piece.matcher, Matcher.once, CharClass.mem, hc]
  rw [hrun]
  cases t with
  | nil => rfl
  | cons d t =>
    rw [Matcher.many, lengths_spelling, show "---".toList = fence from rfl]
    by_cases hf : fence <+: d :: t
    · have hd : CharClass.lineBreak.mem d = false := isLineBreak_of_fence_prefix hf
      rw [if_pos hf, if_pos hf, hd]
      rfl
    · rw [if_neg hf, if_neg hf, List.append_nil]
      rfl

/-- **A lazy run stops at the first close.** -/
theorem head?_lengths_toClose (t : Text) : (toClose.lengths t).head? = closeEnd? t := by
  induction t with
  | nil => rfl
  | cons c t ih =>
    have hstep : ∀ d u, toClose.lengths (d :: u) = closing.lengths (d :: u) ++ (toClose.lengths u).map (· + 1) :=
      fun _ _ => rfl
    rw [hstep, List.head?_append, List.head?_map, ih]
    cases hc : isLineBreak c with
    | false =>
      rw [lengths_closing_of_not hc, closeEnd?_cons_of_not (by simp [hc])]
      rfl
    | true =>
      rw [lengths_closing_cons hc]
      by_cases hf : fence <+: t
      · rw [if_pos hf, closeEnd?_cons_of_pos hc hf]
        rfl
      · rw [if_neg hf, closeEnd?_cons_of_not (by simp [hf]), List.head?_map]
        -- a run of line breaks that goes on ends at the same close, whichever of them it begins with
        cases t with
        | nil => rfl
        | cons d t =>
          rw [hstep, List.head?_append] at ih
          rw [← ih]
          cases (closing.lengths (d :: t)).head? <;> rfl

/-! ## Behind the opening fence -/

/-- the last line break among the blanks that a text begins with, and what stands before and behind it -/
structure LastBreak (t p : Text) (b : Char) (q : Text) : Prop where
  split : t = p ++ b :: q
  blanks : ∀ c ∈ p, isBlank c = true
  lineBreak : isLineBreak b = true
  last : ∀ c ∈ q.takeWhile isBlank, isLineBreak c = false

theorem LastBreak.mem_of_mem_behind {t p : Text} {b : Char} {q : Text} (h : LastBreak t p b q) {a : Char} (ha : a ∈ q) :
    a ∈ t := by
  rw [h.split]
  exact List.mem_append_right p (List.mem_cons_of_mem b ha)

/-- the blanks that a text begins with have a last line break, or none -/
theorem lastBreak_or_none (t : Text) :
    (∃ p b q, LastBreak t p b q) ∨ ∀ c ∈ t.takeWhile isBlank, isLineBreak c = false := by
  induction t with
  | nil => exact Or.inr (List.forall_mem_nil _)
  | cons c t ih =>
    cases hb : isBlank c with
    | false =>
      rw [List.takeWhile_cons_of_neg (by simp [hb])]
      exact Or.inr (List.forall_mem_nil _)
    | true =>
      rw [List.takeWhile_cons_of_pos hb]
      rcases ih with ⟨p, b, q, h⟩ | h
      · exact Or.inl ⟨c :: p, b, q, congrArg (c :: ·) h.split, List.forall_mem_cons.2 ⟨hb, h.blanks⟩, h.lineBreak,
          h.last⟩
      · cases hc : isLineBreak c with
        | false => exact Or.inr (List.forall_mem_cons.2 ⟨hc, h⟩)
        | true => exact Or.inl ⟨[], c, t, rfl, List.forall_mem_nil _, hc, h⟩

/-- without a line break among its blanks, a text does not begin with what may follow a fence -/
theorem lengths_behindFence_of_blanks {t : Text} (h : ∀ c ∈ t.takeWhile isBlank, isLineBreak c = false) :
    behindFence.lengths t = [] := by
  have hnone := frontMatterRule_of_blanks h
  rw [frontMatterRule_fence, Option.map_eq_none_iff, List.head?_eq_none_iff] at hnone
  exact hnone

theorem isLineBreak_of_not_isBlank {c : Char} (h : isBlank c = false) : isLineBreak c = false := by
  cases hc : isLineBreak c with
  | false => rfl
  | true =>
    rw [isBlank_of_isLineBreak hc] at h
    cases h

/-- behind the last line break the lazy run begins -/
theorem lengths_breaks_of_last {b : Char} {q : Text} (hb : isLineBreak b = true)
    (hq : ∀ c ∈ q.takeWhile isBlank, isLineBreak c = false) :
    Sequence.lengths (⟨.lineBreak, .some⟩ :: toClose) (b :: q) = (toClose.lengths q).map (· + 1) := by
  have hrun : Sequence.lengths (⟨.lineBreak, .some⟩ :: toClose) (b :: q) =
      (Matcher.many .lineBreak toClose.lengths q).map (· + 1) := by
    simp [Sequence.lengths, Piece.matcher, Matcher.once, CharClass.mem, hb]
  rw [hrun]
  cases q with
  | nil => rfl
  | cons c q =>
    have hc : CharClass.lineBreak.mem c = false := by
      cases hblank : isBlank c with
      | false => exact isLineBreak_of_not_isBlank hblank
      | true =>
        rw [List.takeWhile_cons_of_pos hblank] at hq
        exact hq c List.mem_cons_self
    rw [Matcher.many, hc]
    rfl

/-- **With a close behind the last line break** the first one is preferred. The greedy run of blanks goes up to that
line break, and no shorter one is tried. -/
theorem head?_lengths_blanks {t p : Text} {b : Char} {q : Text} (h : LastBreak t p b q) {n : Nat}
    (hn : closeEnd? q = some n) : (behindFence.lengths t).head? = some (p.length + (1 + n)) := by
  obtain ⟨rfl, hp, hb, hq⟩ := h
  have hstep : ∀ c u, behindFence.lengths (c :: u) =
      (if isBlank c then (behindFence.lengths u).map (· + 1) else []) ++
        Sequence.lengths (⟨.lineBreak, .some⟩ :: toClose) (c :: u) := fun _ _ => rfl
  induction p with
  | nil =>
    rw [List.nil_append, hstep, isBlank_of_isLineBreak hb, if_pos rfl, lengths_behindFence_of_blanks hq,
      lengths_breaks_of_last hb hq, List.map_nil, List.nil_append, List.head?_map, head?_lengths_toClose, hn,
      Option.map_some, List.length_nil, Nat.zero_add, Nat.add_comm]
  | cons c p ih =>
    obtain ⟨hc, hp⟩ := List.forall_mem_cons.1 hp
    rw [List.cons_append, hstep, if_pos hc, List.head?_append, List.head?_map, ih hp, Option.map_some, Option.some_or,
      List.length_cons, Nat.add_right_comm]

/-! ## Without a close behind the last line break -/

/-- two characters of a text: they are the same one, or one of them is behind the other -/
theorem eq_or_behind_of_append_cons {α : Type} {p q r s : List α} {a b : α} (h : p ++ a :: q = r ++ b :: s) :
    (p = r ∧ a = b ∧ q = s) ∨ (∃ m, q = m ++ b :: s) ∨ ∃ m, p = r ++ b :: m ∧ s = m ++ a :: q := by
  induction p generalizing r with
  | nil =>
    cases r with
    | nil =>
      obtain ⟨rfl, rfl⟩ := List.cons.inj h
      exact Or.inl ⟨rfl, rfl, rfl⟩
    | cons c r => exact Or.inr (Or.inl ⟨r, (List.cons.inj h).2⟩)
  | cons c p ih =>
    cases r with
    | nil =>
      obtain ⟨rfl, rfl⟩ := List.cons.inj h
      exact Or.inr (Or.inr ⟨p, rfl, rfl⟩)
    | cons d r =>
      obtain ⟨rfl, htail⟩ := List.cons.inj h
      rcases ih htail with ⟨rfl, hab, hqs⟩ | hm | ⟨m, rfl, hm⟩
      · exact Or.inl ⟨rfl, hab, hqs⟩
      · exact Or.inr (Or.inl hm)
      · exact Or.inr (Or.inr ⟨m, rfl, hm⟩)

/-- **A fence that closes** has the last line break for its own, or stands behind it. Before that line break there are
only blanks, and no fence begins with a blank. -/
theorem LastBreak.close_cases {t p : Text} {b : Char} {q r s : Text} {c : Char} (h : LastBreak t p b q)
    (ht : t = r ++ c :: s) (hs : fence <+: s) : (p = r ∧ b = c ∧ q = s) ∨ ∃ m, q = m ++ c :: s := by
  rcases eq_or_behind_of_append_cons (h.split.symm.trans ht) with heq | hbehind | ⟨m, rfl, rfl⟩
  · exact Or.inl heq
  · exact Or.inr hbehind
  · have hblank : ∀ a ∈ (m ++ b :: q).head?, isBlank a = true := by
      cases m with
      | nil =>
        rintro a ⟨⟩
        exact isBlank_of_isLineBreak h.lineBreak
      | cons a m =>
        rintro _ ⟨⟩
        exact h.blanks a (by simp)
    obtain ⟨v, hv⟩ := hs
    rw [← hv] at hblank
    exact absurd (hblank '-' rfl) (by decide)

/-- **Without a later close** the last line break is that of the close, and another one stands before it. -/
theorem IsFrontMatter.of_no_later_close {t p : Text} {b : Char} {q : Text} (h : LastBreak t p b q)
    (hn : closeEnd? q = none) {u v : Text} (hu : IsFrontMatter u) (ht : fence ++ t = u ++ v) :
    fence <+: q ∧ (∃ c ∈ p, isLineBreak c = true) ∧ u.length = 3 + (p.length + (1 + 3)) := by
  obtain ⟨w, a, x, c, rfl, -, ha, hc⟩ := isFrontMatter_iff.1 hu
  have hclosed : fence <+: fence ++ v := List.prefix_append fence v
  have ht : t = (w ++ a :: x) ++ c :: (fence ++ v) := by
    simp only [List.append_assoc, List.cons_append] at ht ⊢
    exact List.append_cancel_left ht
  rcases h.close_cases ht hclosed with ⟨rfl, -, rfl⟩ | ⟨m, rfl⟩
  · -- the close has the last line break, and the block opens with another one
    refine ⟨hclosed, ⟨a, by simp, ha⟩, ?_⟩
    have hf : fence.length = 3 := rfl
    simp only [List.length_append, List.length_cons, hf]
    omega
  · -- the close is behind it
    exact absurd hclosed (closeEnd?_eq_none_iff.1 hn m c _ rfl hc)

/-- a block with blanks only, two line breaks or more among them, the last one right before the closing fence -/
def IsBlankBlock (u : Text) : Prop :=
  ∃ w b, u = fence ++ (w ++ b :: fence) ∧ (∀ c ∈ w, isBlank c = true) ∧ w.any isLineBreak = true ∧ isLineBreak b = true

theorem IsBlankBlock.isFrontMatter {u : Text} (h : IsBlankBlock u) : IsFrontMatter u := by
  obtain ⟨w, b, rfl, hw, hany, hb⟩ := h
  obtain ⟨a, haw, ha⟩ := List.any_eq_true.1 hany
  obtain ⟨w₁, w₂, rfl⟩ := List.append_of_mem haw
  exact isFrontMatter_iff.2 ⟨w₁, a, w₂, b, by simp, fun c hc => hw c (List.mem_append_left _ hc), ha, hb⟩

/-- a text that begins with a complete block has front matter -/
theorem frontMatterRule_ne_none {u v : Text} (hu : IsFrontMatter u) :
    frontMatterRule.matchLength? (u ++ v) ≠ none := by
  obtain ⟨w, br, x, d, rfl, hw, hbr, hd0, hd⟩ := hu
  have hmatch : behindFence.Matches (w ++ (br ++ (x ++ (d ++ fence)))) :=
    ⟨w, _, rfl, hw, br, _, rfl, hbr, x, _, rfl, fun _ _ => rfl, d, _, rfl, ⟨hd0, hd⟩, matches_spelling.2 rfl⟩
  have hmem := mem_lengths_iff.2 ⟨_, v, rfl, rfl, hmatch⟩
  rw [List.append_assoc, frontMatterRule_fence, ne_eq, Option.map_eq_none_iff, List.head?_eq_none_iff]
  exact List.ne_nil_of_mem hmem

/-! ## Where front matter ends -/

/-- **Where front matter ends.** `b` is the last line break among the blanks behind the opening fence, `p` is what
stands before it and `q` what stands behind it. With a close in `q` front matter ends with the first one. Without one it
ends with the fence that `q` begins with, if there is one, and if another line break stands in `p`. -/
theorem frontMatterRule_extent {t p : Text} {b : Char} {q : Text} (h : LastBreak t p b q) :
    frontMatterRule.matchLength? (fence ++ t) =
      match closeEnd? q with
      | some n => some (3 + (p.length + (1 + n)))
      | none => if fence <+: q ∧ p.any isLineBreak then some (3 + (p.length + (1 + 3))) else none := by
  cases hn : closeEnd? q with
  | some n =>
    rw [frontMatterRule_fence, head?_lengths_blanks h hn]
    rfl
  | none =>
    have honly : ∀ n, frontMatterRule.matchLength? (fence ++ t) = some n →
        (fence <+: q ∧ p.any isLineBreak) ∧ n = 3 + (p.length + (1 + 3)) := by
      intro n hm
      obtain ⟨u, v, huv, hlen, hu⟩ := frontMatterRule_eq_some hm
      obtain ⟨hf, hc, hl⟩ := hu.of_no_later_close h hn huv
      exact ⟨⟨hf, List.any_eq_true.2 hc⟩, hlen.symm.trans hl⟩
    cases hm : frontMatterRule.matchLength? (fence ++ t) with
    | some n =>
      obtain ⟨hc, rfl⟩ := honly n hm
      exact (if_pos hc).symm
    | none =>
      refine (if_neg ?_).symm
      rintro ⟨⟨v, rfl⟩, hany⟩
      -- an earlier line break opens a block, and the last one closes it
      have hblock : IsBlankBlock (fence ++ (p ++ b :: fence)) := ⟨p, b, rfl, h.blanks, hany, h.lineBreak⟩
      have ht : fence ++ t = (fence ++ (p ++ b :: fence)) ++ v := by
        rw [h.split]
        simp
      rw [ht] at hm
      exact frontMatterRule_ne_none hblock.isFrontMatter hm

end FlowchartLexer
