/-
How far a lexeme looks ahead.

What stands behind a lexeme matters to it in three ways: a longer fixed spelling may begin with it, the run of an
identifier may go on, and a fence may turn out to open front matter. If none of these happens, the lexeme is the same
whatever follows.

- `Segment.leading_eq_lexeme_iff`: a lexeme leads where no trivia does.
- `lexeme?_append`, `Segment.leading_append`: more text behind a lexeme changes nothing under the three conditions.
- `frontMatterRule_of_not_fence`, `frontMatterRule_of_blanks`: where front matter does not open.
- `spelling_before_separator`: no fixed spelling goes over the beginning of a separator.
- `spelling_within_two`: no fixed spelling goes over the end of the second of two lexemes.
-/
import Mathlib.Data.List.TakeWhile
import FlowchartLexer.Proofs.DirectLexing
import FlowchartLexer.Proofs.Truncation

namespace FlowchartLexer

/-! ## Where lexemes lead -/

/-- the longest fixed spelling, a string or an identifier at the start of a text -/
def lexeme? (t : Text) : Option Segment :=
  ((longestSpelling? t).map fun a => ⟨.lexeme a.1, a.2.toList⟩).or
    ((stringRule.segment? t).or (identifierRule.segment? t))

theorem segment?_blankRule (c : Char) (t : Text) : blankRule.segment? (c :: t) =
    if isBlank c then some ⟨.trivia .whitespace, (c :: t).takeWhile isBlank⟩ else none :=
  segment?_run _ _ c t

theorem Segment.leading_blank {c : Char} (hc : isBlank c = true) (t : Text) :
    Segment.leading true (c :: t) = .ok (some ⟨.trivia .whitespace, (c :: t).takeWhile isBlank⟩) := by
  rw [Segment.leading_eq_direct, Segment.direct, if_pos hc]

theorem segment?_identifierRule (c : Char) (t : Text) : identifierRule.segment? (c :: t) =
    if isWord c then some ⟨.lexeme .identifier, (c :: t).takeWhile isWord⟩ else none :=
  segment?_run _ _ c t

theorem Rule.kind_of_segment? {r : Rule} {t : Text} {g : Segment} (h : r.segment? t = some g) : g.kind = r.kind := by
  obtain ⟨n, -, rfl⟩ := Option.map_eq_some_iff.1 h
  rfl

/-- a segment of another kind than that of the first rule comes from the others -/
theorem Rule.segment?_or_eq_some_iff {r : Rule} {t : Text} {o : Option Segment} {g : Segment} (hg : g.kind ≠ r.kind) :
    (r.segment? t).or o = some g ↔ r.segment? t = none ∧ o = some g := by
  cases h : r.segment? t with
  | none => simp
  | some k =>
    rw [Option.some_or]
    refine iff_of_false (fun hk => hg ?_) (fun hk => by cases hk.1)
    rw [← Option.some.inj hk]
    exact Rule.kind_of_segment? h

theorem percent_rules_eq_none_iff {t : Text} :
    configurationRule.segment? t = none ∧ commentRule.segment? t = none ↔ ¬ "%%".toList <+: t := by
  rw [← Option.or_eq_none_iff]
  constructor
  · intro h hp
    rw [segment?_percent hp] at h
    cases h
  · exact segment?_not_percent

/-- **A lexeme leads where no trivia does.** -/
theorem Segment.leading_eq_lexeme_iff {c : Char} {t x : Text} {l : Lexeme} :
    Segment.leading true (c :: t) = .ok (some ⟨.lexeme l, x⟩) ↔
      isBlank c = false ∧ frontMatterRule.matchLength? (c :: t) = none ∧ ¬ "%%".toList <+: c :: t ∧
        lexeme? (c :: t) = some ⟨.lexeme l, x⟩ := by
  have hkind : ∀ r : Rule, r ∈ [blankRule, frontMatterRule, configurationRule, commentRule] →
      (SegmentKind.lexeme l) ≠ r.kind := by
    simp [blankRule, frontMatterRule, configurationRule, commentRule]
  have hblank : blankRule.segment? (c :: t) = none ↔ isBlank c = false := by
    rw [segment?_blankRule]
    cases isBlank c <;> simp
  have hfence : frontMatterRule.segment? (c :: t) = none ↔ frontMatterRule.matchLength? (c :: t) = none :=
    Option.map_eq_none_iff
  rw [Segment.leading, if_pos rfl, Segment.leadingBy_eq_some_iff, findSome?_rules, Option.or_assoc,
    Rule.segment?_or_eq_some_iff (hkind _ (by simp)), Rule.segment?_or_eq_some_iff (hkind _ (by simp)),
    Rule.segment?_or_eq_some_iff (hkind _ (by simp)), Rule.segment?_or_eq_some_iff (hkind _ (by simp)), hblank, hfence,
    ← percent_rules_eq_none_iff]
  simp only [ne_eq, reduceCtorEq, not_false_eq_true, true_and, and_assoc]
  rfl

/-! ## More text behind a lexeme -/

theorem longestSpelling?_eq_none_iff {t : Text} :
    longestSpelling? t = none ↔ ∀ a ∈ fixedSpellings, ¬ a.2.toList <+: t := by
  simp only [longestSpelling?, List.argmax_eq_none, List.filter_eq_nil_iff, decide_eq_true_eq]

theorem lexeme?_ne_percent {c : Char} {t : Text} {g : Segment} (h : lexeme? (c :: t) = some g) : c ≠ '%' := by
  rintro rfl
  have hnone : longestSpelling? ('%' :: t) = none := by
    rw [longestSpelling?_eq_none_iff]
    intro a ha hp
    have hhead : ∀ a ∈ fixedSpellings, a.2.toList.head? ≠ some '%' ∧ a.2.toList ≠ [] := by decide +kernel
    obtain ⟨d, s, hs⟩ := List.exists_cons_of_ne_nil (hhead a ha).2
    have hhd := (hhead a ha).1
    rw [hs] at hp hhd
    exact hhd (congrArg some (List.cons_prefix_cons.1 hp).1)
  have hw : isWord '%' = false := by decide +kernel
  rw [lexeme?, hnone, segment?_stringRule, segment?_identifierRule, hw] at h
  simp at h

/-- more text behind, and the longest spelling is the same if no spelling goes over into it -/
theorem longestSpelling?_append {t v : Text}
    (h : ∀ a ∈ fixedSpellings, a.2.toList <+: t ++ v → a.2.toList <+: t) :
    longestSpelling? (t ++ v) = longestSpelling? t := by
  unfold longestSpelling?
  congr 1
  refine List.filter_congr fun a ha => ?_
  rw [decide_eq_decide]
  exact ⟨h a ha, fun hp => hp.trans (List.prefix_append t v)⟩

theorem takeWhile_append_of_mem {p : Char → Bool} {t : Text} {c : Char} (hc : c ∈ t) (hp : p c = false) (v : Text) :
    (t ++ v).takeWhile p = t.takeWhile p := by
  induction t with
  | nil => cases hc
  | cons d t ih =>
    rw [List.cons_append, List.takeWhile_cons, List.takeWhile_cons]
    cases hd : p d with
    | false => rfl
    | true =>
      have hcd : c ≠ d := by
        rintro rfl
        rw [hp] at hd
        cases hd
      rw [ih ((List.mem_cons.1 hc).resolve_left hcd)]

/-- a run ends where it did before, because it stopped within the text or because it cannot go on -/
theorem takeWhile_append_of_stop {p : Char → Bool} {t v : Text} (h : t.takeWhile p = t → v.takeWhile p = []) :
    (t ++ v).takeWhile p = t.takeWhile p := by
  by_cases ht : ∀ c ∈ t, p c = true
  · have hself : t.takeWhile p = t := List.takeWhile_eq_self_iff.2 ht
    rw [List.takeWhile_append_of_pos ht, h hself, hself, List.append_nil]
  · simp only [not_forall, Bool.not_eq_true] at ht
    obtain ⟨c, hc, hp⟩ := ht
    exact takeWhile_append_of_mem hc hp v

/-- **More text behind a lexeme** changes nothing, if no spelling goes over into it and no identifier goes on in it,
which it can only do from the very end of the text before. -/
theorem lexeme?_append {c : Char} {t v : Text} {g : Segment} (h : lexeme? (c :: t) = some g)
    (hs : ∀ a ∈ fixedSpellings, a.2.toList <+: c :: t ++ v → a.2.toList <+: c :: t)
    (hw : g.text = c :: t → v.takeWhile isWord = []) : lexeme? (c :: t ++ v) = some g := by
  have hspelling := longestSpelling?_append hs
  rw [lexeme?, hspelling]
  rw [lexeme?] at h
  cases hl : longestSpelling? (c :: t) with
  | some a =>
    rw [hl] at h
    exact h
  | none =>
    rw [hl, Option.map_none, Option.none_or, segment?_stringRule, segment?_identifierRule] at h
    rw [Option.map_none, Option.none_or, List.cons_append, segment?_stringRule, segment?_identifierRule]
    by_cases hq : c = '"' ∧ '"' ∈ t
    · rw [if_pos hq] at h
      rw [if_pos ⟨hq.1, List.mem_append_left v hq.2⟩, takeWhile_append_of_mem hq.2 (by simp)]
      exact h
    · rw [if_neg hq, Option.none_or] at h
      split_ifs at h with hc
      have hq' : ¬ (c = '"' ∧ '"' ∈ t ++ v) := by
        rintro ⟨rfl, -⟩
        exact absurd hc (by decide +kernel)
      have hrun : (c :: t).takeWhile isWord = c :: t → v.takeWhile isWord = [] := by
        intro hself
        rw [hself] at h
        exact hw (congrArg Segment.text (Option.some.inj h).symm)
      rw [if_neg hq', if_pos hc, Option.none_or, ← List.cons_append, takeWhile_append_of_stop hrun]
      exact h

/-! ## Where front matter does not open -/

theorem frontMatterRule_of_not_fence {t : Text} (h : ¬ fence <+: t) : frontMatterRule.matchLength? t = none := by
  rw [Option.eq_none_iff_forall_not_mem]
  intro n hn
  obtain ⟨_, v, rfl, -, w, b, x, d, rfl, -⟩ := frontMatterRule_eq_some hn
  apply h
  rw [List.append_assoc]
  exact List.prefix_append fence _

theorem isBlank_of_isLineBreak {c : Char} (h : isLineBreak c = true) : isBlank c = true := by
  rcases Bool.or_eq_true_iff.1 h with hc | hc
  · rw [of_decide_eq_true hc]
    decide
  · rw [of_decide_eq_true hc]
    decide

/-- blanks up to a line break, and then those behind it -/
theorem takeWhile_isBlank_break {w : Text} (hw : ∀ c ∈ w, isBlank c = true) {b : Char} (hb : isLineBreak b = true)
    (q : Text) : (w ++ b :: q).takeWhile isBlank = w ++ b :: q.takeWhile isBlank := by
  rw [List.takeWhile_append_of_pos hw, List.takeWhile_cons_of_pos (isBlank_of_isLineBreak hb)]

/-- front matter needs a line break among the blanks behind its fence -/
theorem frontMatterRule_of_blanks {t : Text} (h : ∀ c ∈ t.takeWhile isBlank, isLineBreak c = false) :
    frontMatterRule.matchLength? (fence ++ t) = none := by
  rw [Option.eq_none_iff_forall_not_mem]
  intro n hn
  obtain ⟨_, v, ht, -, hu⟩ := frontMatterRule_eq_some hn
  obtain ⟨w, b, x, c, rfl, hw, hb, -⟩ := isFrontMatter_iff.1 hu
  obtain rfl : t = w ++ b :: (x ++ c :: fence ++ v) := by
    simp only [List.append_assoc, List.cons_append] at ht ⊢
    exact List.append_cancel_left ht
  have hnot := h b (by simp [takeWhile_isBlank_break hw hb])
  rw [hb] at hnot
  cases hnot

/-- **A spelling that begins no other one** is the longest wherever it stands. -/
theorem longestSpelling?_of_begins_no_other {a : Lexeme × String} {t : Text} (ha : a ∈ fixedSpellings)
    (hno : ∀ b ∈ fixedSpellings, a.2.toList <+: b.2.toList → b = a) (ht : a.2.toList <+: t) :
    longestSpelling? t = some a := by
  have hmem : a ∈ fixedSpellings.filter fun b => b.2.toList <+: t := List.mem_filter.2 ⟨ha, decide_eq_true ht⟩
  obtain ⟨b, hb⟩ : ∃ b, longestSpelling? t = some b := by
    rw [← Option.ne_none_iff_exists', ne_eq, longestSpelling?_eq_none_iff]
    exact fun hnone => hnone a ha ht
  -- the longest spelling is at least as long, so this one begins it
  have hle : a.2.toList.length ≤ b.2.toList.length :=
    List.le_of_mem_argmax (f := fun c : Lexeme × String => c.2.toList.length) hmem hb
  obtain ⟨hfixed, hbt⟩ := List.mem_filter.1 (List.argmax_mem hb)
  rw [hb, hno b hfixed (List.prefix_of_prefix_length_le ht (of_decide_eq_true hbt) hle)]

/-- no other spelling begins with a fence -/
theorem longestSpelling?_fence (t : Text) : longestSpelling? (fence ++ t) = some (.link, "---") := by
  have honly : ∀ a ∈ fixedSpellings, fence <+: a.2.toList → a = (.link, "---") := by decide +kernel
  exact longestSpelling?_of_begins_no_other (by decide +kernel) honly (List.prefix_append fence t)

/-- a lexeme that begins with a fence is the link -/
theorem lexeme?_fence (t : Text) : lexeme? (fence ++ t) = some ⟨.lexeme .link, fence⟩ := by
  rw [lexeme?, longestSpelling?_fence]
  rfl

/-- **More text behind a lexeme** leaves it the leading segment, if it does not open front matter. -/
theorem Segment.leading_append {t v x : Text} {l : Lexeme} (h : Segment.leading true t = .ok (some ⟨.lexeme l, x⟩))
    (hs : ∀ a ∈ fixedSpellings, a.2.toList <+: t ++ v → a.2.toList <+: t)
    (hw : x = t → v.takeWhile isWord = [])
    (hf : l = .link → x = fence → frontMatterRule.matchLength? (t ++ v) = none) :
    Segment.leading true (t ++ v) = .ok (some ⟨.lexeme l, x⟩) := by
  cases t with
  | nil => cases h
  | cons c t =>
    obtain ⟨hb, -, -, hl⟩ := Segment.leading_eq_lexeme_iff.1 h
    refine Segment.leading_eq_lexeme_iff.2 ⟨hb, ?_, ?_, lexeme?_append hl hs hw⟩
    · by_cases hfence : fence <+: c :: t ++ v
      · obtain ⟨u, hu⟩ := hs (.link, "---") (by decide +kernel) hfence
        have hu : c :: t = fence ++ u := hu.symm
        rw [hu, lexeme?_fence] at hl
        cases hl
        exact hf rfl rfl
      · exact frontMatterRule_of_not_fence hfence
    · intro hp
      exact lexeme?_ne_percent hl (List.cons_prefix_cons.1 hp).1.symm

/-! ## Separators and lexemes behind a lexeme -/

/-- the codes of all blanks -/
def blankCodes : List Nat :=
  [9, 10, 11, 12, 13, 32, 0xA0, 0x1680, 0x2000, 0x2001, 0x2002, 0x2003, 0x2004, 0x2005, 0x2006, 0x2007, 0x2008, 0x2009,
    0x200A, 0x2028, 0x2029, 0x202F, 0x205F, 0x3000, 0xFEFF]

theorem toNat_mem_blankCodes {c : Char} (h : isBlank c = true) : c.toNat ∈ blankCodes := by
  simp only [isBlank, Bool.or_eq_true, Bool.and_eq_true, decide_eq_true_eq, or_assoc] at h
  have hrange : ∀ a b : Char, a ≤ c → c ≤ b → a.toNat ≤ c.toNat ∧ c.toNat ≤ b.toNat := fun a b ha hb => ⟨ha, hb⟩
  rcases h with rfl | ⟨h1, h2⟩ | rfl | rfl | ⟨h1, h2⟩ | rfl | rfl | rfl | rfl | rfl | rfl
  case inr.inl =>
    obtain ⟨h1, h2⟩ := hrange _ _ h1 h2
    generalize c.toNat = n at h1 h2
    have h1 : 9 ≤ n := h1
    have h2 : n ≤ 13 := h2
    interval_cases n <;> decide
  case inr.inr.inr.inr.inl =>
    obtain ⟨h1, h2⟩ := hrange _ _ h1 h2
    generalize c.toNat = n at h1 h2
    have h1 : 0x2000 ≤ n := h1
    have h2 : n ≤ 0x200A := h2
    interval_cases n <;> decide
  all_goals decide

/-- no blank is a letter, a number or another character of identifiers -/
theorem isWord_of_isBlank {c : Char} (h : isBlank c = true) : isWord c = false := by
  have hall : ∀ n ∈ blankCodes, isWord (Char.ofNat n) = false := by decide +kernel
  rw [← Char.ofNat_toNat c]
  exact hall _ (toNat_mem_blankCodes h)

/-- a character that can begin a separator -/
def opensSeparator (c : Char) : Bool :=
  isBlank c || c = '%'

theorem isWord_of_opensSeparator {c : Char} (h : opensSeparator c = true) : isWord c = false := by
  rcases Bool.or_eq_true_iff.1 h with hc | hc
  · exact isWord_of_isBlank hc
  · rw [of_decide_eq_true hc]
    decide +kernel

/-- no spelling goes over the beginning of a separator -/
theorem spelling_before_separator {a : Lexeme × String} (ha : a ∈ fixedSpellings) {c : Char}
    (hc : opensSeparator c = true) {t v : Text} (h : a.2.toList <+: t ++ c :: v) : a.2.toList <+: t := by
  have hnot : ∀ a ∈ fixedSpellings, a.2.toList.all (fun d => !opensSeparator d) = true := by decide +kernel
  rcases List.prefix_or_prefix_of_prefix h (List.prefix_append t (c :: v)) with hp | ⟨s, hs⟩
  · exact hp
  · rw [← hs] at h ⊢
    cases s with
    | nil => rw [List.append_nil]
    | cons d s =>
      have hd : d = c := (List.cons_prefix_cons.1 ((List.prefix_append_right_inj t).1 h)).1
      have hmem : c ∈ a.2.toList := by rw [← hs, hd]; simp
      have hc' := List.all_eq_true.1 (hnot a ha) c hmem
      rw [hc] at hc'
      cases hc'

/-- the text of the leading segment -/
def leadingText? (t : Text) : Option Text :=
  match Segment.leading true t with
  | .ok (some g) => some g.text
  | _ => none

/-- no spelling is cut in three such that the first two parts lead as segments -/
theorem no_spelling_in_three : ∀ a ∈ fixedSpellings, ∀ j < a.2.toList.length, ∀ i < j,
    leadingText? (a.2.toList.take j) = some (a.2.toList.take i) →
      leadingText? ((a.2.toList.take j).drop i) ≠ some ((a.2.toList.take j).drop i) := by
  decide +kernel

/-- no spelling goes over the end of the second of two segments -/
theorem spelling_within_two {a : Lexeme × String} (ha : a ∈ fixedSpellings) {t u v : Text}
    (ht : leadingText? (t ++ u) = some t) (hu : leadingText? u = some u) (h : a.2.toList <+: (t ++ u) ++ v) :
    a.2.toList <+: t ++ u := by
  rcases List.prefix_or_prefix_of_prefix h (List.prefix_append (t ++ u) v) with hp | ⟨s, hs⟩
  · exact hp
  · cases s with
    | nil => rw [← hs, List.append_nil]
    | cons c s =>
      -- the spelling would be cut in three: the two segments and what follows
      have hu0 : u ≠ [] := by
        rintro rfl
        cases hu
      have hj : (t ++ u).length < a.2.toList.length := by
        have hlen := congrArg List.length hs
        rw [List.length_append, List.length_cons] at hlen
        omega
      have hi : t.length < (t ++ u).length := by
        rw [List.length_append]
        exact Nat.lt_add_of_pos_right (List.length_pos_iff.2 hu0)
      have htake : a.2.toList.take (t ++ u).length = t ++ u := by
        rw [← hs]
        exact List.take_left
      have hfirst : a.2.toList.take t.length = t := by
        rw [← hs, List.append_assoc]
        exact List.take_left
      have hthree := no_spelling_in_three a ha _ hj _ hi
      rw [htake, hfirst, List.drop_left] at hthree
      exact absurd hu (hthree ht)

end FlowchartLexer
