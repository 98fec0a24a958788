/-
Whether front matter ends at its first close.

The pattern takes as little as it can between the line breaks that open front matter and the close. But first it takes
all blanks that it can, and with them the line breaks that a block without content has. If there is a close behind such
a block, front matter goes on to that one.

- `closeEnd?_le_of_split`, `exists_closesAt_iff`: the first close is not behind any other.
- `IsFrontMatter.eq_blank_of_shorter`: a complete block that the match outlasts has blanks only.
- `IsBlankBlock.shorter_of_close`: the match outlasts a blank block that has a close behind it.
- **The first close and the match** (`front_matter_outlasts_blank_blocks_only`), and a blank block that is not the match
  (`blank_block_before_a_later_close`).
-/
import FlowchartLexer.Proofs.FrontMatterMeaning

namespace FlowchartLexer

/-! ## The first close -/

/-- the search stops at a close, or before it -/
theorem closeEnd?_le_of_split (m : Text) {c : Char} (hc : isLineBreak c = true) {s : Text} (hs : fence <+: s) :
    ∃ n, closeEnd? (m ++ c :: s) = some n ∧ n ≤ m.length + 4 := by
  induction m with
  | nil => exact ⟨4, closeEnd?_cons_of_pos hc hs, by simp⟩
  | cons d m ih =>
    obtain ⟨n, hn, hle⟩ := ih
    by_cases hd : isLineBreak d = true ∧ fence <+: m ++ c :: s
    · exact ⟨4, closeEnd?_cons_of_pos hd.1 hd.2, Nat.le_add_left 4 _⟩
    · refine ⟨n + 1, ?_, ?_⟩
      · rw [List.cons_append, closeEnd?_cons_of_not hd, hn, Option.map_some]
      · rw [List.length_cons]
        omega

theorem four_le_of_closeEnd? {t : Text} {n : Nat} (h : closeEnd? t = some n) : 4 ≤ n := by
  induction t generalizing n with
  | nil => cases h
  | cons c t ih =>
    by_cases hc : isLineBreak c = true ∧ fence <+: t
    · rw [closeEnd?_cons_of_pos hc.1 hc.2] at h
      exact Nat.le_of_eq (Option.some.inj h)
    · rw [closeEnd?_cons_of_not hc] at h
      obtain ⟨k, hk, rfl⟩ := Option.map_eq_some_iff.1 h
      exact Nat.le_succ_of_le (ih hk)

theorem exists_closesAt_iff {t : Text} : (∃ k, ClosesAt t k) ↔ ∃ n, closeEnd? t = some n := by
  constructor
  · intro ⟨k, hk⟩
    cases hn : closeEnd? t with
    | none => exact absurd hk (not_closesAt_of_closeEnd?_eq_none hn k)
    | some n => exact ⟨n, rfl⟩
  · intro ⟨n, hn⟩
    obtain ⟨k, hk, -⟩ := closeEnd?_isLeast hn
    exact ⟨k, hk.1⟩

/-! ## Blocks that the match outlasts -/

variable {u v : Text} {n : Nat}

/-- **A complete block that is shorter than the match** has nothing but blanks in it, and a close comes behind it. -/
theorem IsFrontMatter.eq_blank_of_shorter (hu : IsFrontMatter u)
    (hn : frontMatterRule.matchLength? (u ++ v) = some n) (hlt : u.length < n) :
    IsBlankBlock u ∧ ∃ k, ClosesAt v k := by
  obtain ⟨w, a, x, c, rfl, hw, ha, hc⟩ := isFrontMatter_iff.1 hu
  have hf : fence.length = 3 := rfl
  have hclosed : fence <+: fence ++ v := List.prefix_append fence v
  have hsplit : fence ++ (w ++ a :: (x ++ c :: fence)) ++ v = fence ++ ((w ++ a :: x) ++ c :: (fence ++ v)) := by
    simp
  rw [hsplit] at hn
  rcases lastBreak_or_none ((w ++ a :: x) ++ c :: (fence ++ v)) with ⟨p, b, q, h⟩ | hnone
  · rw [frontMatterRule_extent h] at hn
    rcases h.close_cases rfl hclosed with ⟨rfl, rfl, rfl⟩ | ⟨m, rfl⟩
    · -- its close has the last line break of the blanks, so only blanks stand before it
      refine ⟨⟨w ++ a :: x, b, by simp, h.blanks, ?_, h.lineBreak⟩, ?_⟩
      · exact List.any_eq_true.2 ⟨a, by simp, ha⟩
      · rw [closeEnd?_fence_append] at hn
        cases hv : closeEnd? v with
        | some k => exact exists_closesAt_iff.2 ⟨k, hv⟩
        | none =>
          rw [hv, Option.map_none] at hn
          simp only at hn
          split_ifs at hn with hshort
          have hlen := Option.some.inj hn
          simp only [List.length_append, List.length_cons, hf] at hlt hlen
          omega
    · -- its close stands behind that line break, and the match ends with the first one there
      obtain ⟨k, hk, hle⟩ := closeEnd?_le_of_split m hc hclosed
      rw [hk] at hn
      have hlen := Option.some.inj hn
      have hwhole := congrArg List.length h.split
      simp only [List.length_append, List.length_cons, hf] at hlt hlen hwhole
      omega
  · rw [frontMatterRule_of_blanks hnone] at hn
    cases hn

/-- **A blank block with a close behind it** is shorter than the match. -/
theorem IsBlankBlock.shorter_of_close (hu : IsBlankBlock u) {k : Nat} (hk : ClosesAt v k)
    (hn : frontMatterRule.matchLength? (u ++ v) = some n) : u.length < n := by
  obtain ⟨w, b, rfl, hw, -, hb⟩ := hu
  obtain ⟨j, hj⟩ := exists_closesAt_iff.1 ⟨k, hk⟩
  have hlast : LastBreak (w ++ b :: (fence ++ v)) w b (fence ++ v) := ⟨rfl, hw, hb, List.forall_mem_nil _⟩
  have hsplit : fence ++ (w ++ b :: fence) ++ v = fence ++ (w ++ b :: (fence ++ v)) := by simp
  rw [hsplit, frontMatterRule_extent hlast, closeEnd?_fence_append, hj] at hn
  have hlen : 3 + (w.length + (1 + (j + 3))) = n := Option.some.inj hn
  have hf : fence.length = 3 := rfl
  calc (fence ++ (w ++ b :: fence)).length = 3 + (w.length + (1 + 3)) := by
        simp only [List.length_append, List.length_cons, hf]
    _ < 3 + (w.length + (1 + (j + 3))) := by
        have := four_le_of_closeEnd? hj
        omega
    _ = n := hlen

/-! ## The first close and the match -/

/-- **The first close and the match.** Take a text whose match has `n` characters. A beginning of the text is a complete
block of fewer characters just if it is a blank block and a close comes behind it. So the match is the shortest block
that the text begins with, unless it begins with a blank block; and then the shortest is the match only if no close
follows. -/
theorem front_matter_outlasts_blank_blocks_only {t : Text} {n : Nat} (h : frontMatterRule.matchLength? t = some n)
    (m : Nat) : m < n ∧ IsFrontMatter (t.take m) ↔ IsBlankBlock (t.take m) ∧ ∃ k, ClosesAt (t.drop m) k := by
  have ht : t.take m ++ t.drop m = t := List.take_append_drop m t
  have hle : n ≤ t.length := by
    obtain ⟨u, v, rfl, rfl, -⟩ := frontMatterRule_eq_some h
    simp
  have hm : m < n ↔ (t.take m).length < n := by
    rw [List.length_take]
    omega
  rw [← ht] at h
  constructor
  · intro ⟨hlt, hu⟩
    exact hu.eq_blank_of_shorter h (hm.1 hlt)
  · intro ⟨hu, k, hk⟩
    exact ⟨hm.2 (hu.shorter_of_close hk h), hu.isFrontMatter⟩

/-- an empty block and another fence behind it: the match has twelve characters, and the first eight are a block -/
theorem blank_block_before_a_later_close : frontMatterRule.matchLength? "---\n\n---\n---".toList = some 12 ∧
    8 < 12 ∧ IsFrontMatter ("---\n\n---\n---".toList.take 8) := by
  have hmatch : frontMatterRule.matchLength? "---\n\n---\n---".toList = some 12 := by decide +kernel
  refine ⟨hmatch, (front_matter_outlasts_blank_blocks_only hmatch 8).2 ⟨?_, ?_⟩⟩
  · exact ⟨"\n".toList, '\n', rfl, List.all_eq_true.1 (by decide), rfl, rfl⟩
  · exact ⟨1, [], '\n', fence, rfl, rfl, rfl, rfl⟩

end FlowchartLexer
