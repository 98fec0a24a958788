/-
Line endings and the leading segment.

`crlf` puts a carriage return in front of every line feed. A text without carriage returns has the same leading segment
as before, with line endings changed within it, but for one case: with one line break less than front matter needs
(`OneBreakShort`), the two characters of its line ending are the two line breaks that front matter needs.

- `takeWhile_crlf`, `prefix_crlf_iff`: runs of a class and texts on one line.
- `closeEnd?_crlf`, `LastBreak.withCrlf`: so front matter has its close where it had it, and one line break more in
  front.
- `frontMatterRule_crlf`, `frontMatterRule_of_oneBreakShort`: the front matter rule in both cases.
- **The leading segment with other line endings** (`Segment.leading_crlf`, `Segment.leading_of_oneBreakShort`).
-/
import FlowchartLexer.Proofs.FrontMatterExtent

namespace FlowchartLexer

/-! ## Texts -/

/-- the text with a carriage return in front of every line feed -/
def crlf (t : Text) : Text :=
  t.flatMap fun c => if c = '\n' then ['\r', '\n'] else [c]

@[simp] theorem crlf_nil : crlf [] = [] := rfl

@[simp] theorem crlf_lineFeed (t : Text) : crlf ('\n' :: t) = '\r' :: '\n' :: crlf t := rfl

theorem crlf_cons {c : Char} (hc : c ≠ '\n') (t : Text) : crlf (c :: t) = c :: crlf t := by
  rw [crlf, List.flatMap_cons, if_neg hc]
  rfl

theorem crlf_append (s t : Text) : crlf (s ++ t) = crlf s ++ crlf t :=
  List.flatMap_append

theorem crlf_eq_self {t : Text} (h : '\n' ∉ t) : crlf t = t := by
  induction t with
  | nil => rfl
  | cons c t ih =>
    rw [crlf_cons (List.ne_of_not_mem_cons h).symm, ih (List.not_mem_of_not_mem_cons h)]

/-- what is taken from the front, and what is left, with other line endings -/
theorem take_crlf (t : Text) (n : Nat) : (crlf t).take (crlf (t.take n)).length = crlf (t.take n) := by
  conv_lhs => rw [← List.take_append_drop n t, crlf_append]
  rw [List.take_append_drop, List.take_left]

theorem drop_crlf (t : Text) (n : Nat) : (crlf t).drop (crlf (t.take n)).length = crlf (t.drop n) := by
  conv_lhs => rw [← List.take_append_drop n t, crlf_append]
  rw [List.take_append_drop, List.drop_left]

/-- a run of a class that has both characters of a line ending or neither -/
theorem takeWhile_crlf {f : Char → Bool} (hf : f '\r' = f '\n') (t : Text) :
    (crlf t).takeWhile f = crlf (t.takeWhile f) := by
  induction t with
  | nil => rfl
  | cons c t ih =>
    by_cases hc : c = '\n'
    · subst hc
      rw [crlf_lineFeed, List.takeWhile_cons, List.takeWhile_cons, List.takeWhile_cons, ih, hf]
      cases f '\n' <;> rfl
    · rw [crlf_cons hc, List.takeWhile_cons, List.takeWhile_cons, ih]
      cases f c with
      | false => rfl
      | true => exact (crlf_cons hc _).symm

/-- blanks without a line break among them -/
theorem takeWhile_isBlank_crlf {t : Text} (h : ∀ c ∈ t.takeWhile isBlank, isLineBreak c = false) :
    (crlf t).takeWhile isBlank = t.takeWhile isBlank := by
  have hnone : '\n' ∉ t.takeWhile isBlank := fun hn => absurd (h _ hn) (by decide)
  rw [takeWhile_crlf (by decide), crlf_eq_self hnone]

/-- a text on one line begins the text with either line endings -/
theorem prefix_crlf_iff {s t : Text} (hn : '\n' ∉ s) (hr : '\r' ∉ s) : s <+: crlf t ↔ s <+: t := by
  induction s generalizing t with
  | nil => exact iff_of_true List.nil_prefix List.nil_prefix
  | cons a s ih =>
    cases t with
    | nil => exact Iff.rfl
    | cons c t =>
      by_cases hc : c = '\n'
      · subst hc
        have ha : a ≠ '\r' := (List.ne_of_not_mem_cons hr).symm
        have ha' : a ≠ '\n' := (List.ne_of_not_mem_cons hn).symm
        rw [crlf_lineFeed, List.cons_prefix_cons, List.cons_prefix_cons]
        exact iff_of_false (fun h => ha h.1) fun h => ha' h.1
      · rw [crlf_cons hc, List.cons_prefix_cons, List.cons_prefix_cons,
          ih (List.not_mem_of_not_mem_cons hn) (List.not_mem_of_not_mem_cons hr)]

theorem mem_crlf_iff {c : Char} (hc : c ≠ '\r') {t : Text} : c ∈ crlf t ↔ c ∈ t := by
  induction t with
  | nil => exact Iff.rfl
  | cons d t ih =>
    by_cases hd : d = '\n'
    · subst hd
      rw [crlf_lineFeed, List.mem_cons, List.mem_cons, List.mem_cons, ih]
      simp [hc]
    · rw [crlf_cons hd, List.mem_cons, List.mem_cons, ih]

/-- the only line break of a text without carriage returns is the line feed -/
theorem eq_lineFeed {c : Char} (h : isLineBreak c = true) (hr : c ≠ '\r') : c = '\n' := by
  rcases Bool.or_eq_true_iff.1 h with hc | hc
  · exact of_decide_eq_true hc
  · exact absurd (of_decide_eq_true hc) hr

/-! ## Front matter -/

theorem fence_prefix_crlf_iff {t : Text} : fence <+: crlf t ↔ fence <+: t :=
  prefix_crlf_iff (by decide) (by decide)

theorem crlf_fence_append (t : Text) : crlf (fence ++ t) = fence ++ crlf t := by
  rw [crlf_append, crlf_eq_self (by decide)]

/-- the first close stays the first -/
theorem closeEnd?_crlf {t : Text} (hr : '\r' ∉ t) :
    closeEnd? (crlf t) = (closeEnd? t).map fun n => (crlf (t.take n)).length := by
  induction t with
  | nil => rfl
  | cons c t ih =>
    have ih := ih (List.not_mem_of_not_mem_cons hr)
    by_cases hc : c = '\n'
    · subst hc
      -- no fence stands between the two characters of a line ending
      have hbetween : ¬ fence <+: '\n' :: crlf t := fun h => absurd (List.cons_prefix_cons.1 h).1 (by decide)
      rw [crlf_lineFeed, closeEnd?_cons_of_not fun h => hbetween h.2]
      by_cases ht : fence <+: t
      · obtain ⟨u, rfl⟩ := ht
        rw [closeEnd?_cons_of_pos rfl (fence_prefix_crlf_iff.2 (List.prefix_append fence u)),
          closeEnd?_cons_of_pos rfl (List.prefix_append fence u)]
        rfl
      · rw [closeEnd?_cons_of_not fun h => ht (fence_prefix_crlf_iff.1 h.2), closeEnd?_cons_of_not fun h => ht h.2, ih]
        cases closeEnd? t <;> rfl
    · have hbreak : isLineBreak c = false := by
        cases hb : isLineBreak c with
        | false => rfl
        | true => exact absurd (eq_lineFeed hb (List.ne_of_not_mem_cons hr).symm) hc
      rw [crlf_cons hc, closeEnd?_cons_of_not (by simp [hbreak]), closeEnd?_cons_of_not (by simp [hbreak]), ih]
      cases closeEnd? t with
      | none => rfl
      | some n =>
        show some ((crlf (t.take n)).length + 1) = some (crlf (c :: t.take n)).length
        rw [crlf_cons hc]
        rfl

/-- the last line break among the blanks is a whole line ending, so there is another one before it -/
theorem LastBreak.withCrlf {t p : Text} {b : Char} {q : Text} (h : LastBreak t p b q) (hr : '\r' ∉ t) :
    b = '\n' ∧ LastBreak (crlf t) (crlf p ++ ['\r']) '\n' (crlf q) := by
  have hb : b = '\n' := by
    refine eq_lineFeed h.lineBreak fun hbr => hr ?_
    rw [h.split, ← hbr]
    simp
  refine ⟨hb, ?_, ?_, rfl, ?_⟩
  · rw [h.split, hb, crlf_append, crlf_lineFeed, List.append_assoc]
    rfl
  · intro c hc
    rcases List.mem_append.1 hc with hc | hc
    · by_cases hcr : c = '\r'
      · rw [hcr]
        decide
      · exact h.blanks c ((mem_crlf_iff hcr).1 hc)
    · rw [List.mem_singleton.1 hc]
      decide
  · rw [takeWhile_isBlank_crlf h.last]
    exact h.last

/-- what is up to an end behind the last line break -/
theorem LastBreak.take_length {t p : Text} {q : Text} (h : LastBreak t p '\n' q) (n : Nat) :
    (crlf ((fence ++ t).take (3 + (p.length + (1 + n))))).length =
      3 + ((crlf p ++ ['\r']).length + (1 + (crlf (q.take n)).length)) := by
  have htake : (fence ++ t).take (3 + (p.length + (1 + n))) = fence ++ (p ++ '\n' :: q.take n) := by
    have hf : 3 = fence.length := rfl
    rw [h.split, hf, List.take_length_add_append, List.take_length_add_append, Nat.add_comm 1, List.take_succ_cons]
  rw [htake, crlf_fence_append, crlf_append, crlf_lineFeed]
  simp only [List.length_append, List.length_cons, List.length_nil]
  have hf : fence.length = 3 := rfl
  omega

/-- a fence, blanks, one line break and a fence that is the last one behind a line break: front matter, if the line
break were two -/
def OneBreakShort (t : Text) : Prop :=
  ∃ h u, t = fence ++ (h ++ ("\n---".toList ++ u)) ∧ (∀ c ∈ h, isBlank c = true ∧ c ≠ '\n') ∧ ¬ "\n---".toList <:+: u

theorem closeEnd?_eq_none_iff_of_lineFeeds {t : Text} (hr : '\r' ∉ t) :
    closeEnd? t = none ↔ ¬ "\n---".toList <:+: t := by
  rw [closeEnd?_eq_none_iff]
  constructor
  · rintro h ⟨p, u, rfl⟩
    refine h p '\n' (fence ++ u) ?_ rfl (List.prefix_append fence u)
    rw [List.append_assoc]
    rfl
  · rintro h p b q rfl hb ⟨u, rfl⟩
    have hb : b = '\n' := eq_lineFeed hb fun hbr => hr (by simp [hbr])
    refine h ⟨p, u, ?_⟩
    rw [hb, List.append_assoc]
    rfl

/-- the last line break is the only one, and its fence is the last close -/
theorem oneBreakShort_iff {t : Text} (hr : '\r' ∉ t) :
    OneBreakShort t ↔ ∃ u p q, t = fence ++ u ∧ LastBreak u p '\n' q ∧ (∀ c ∈ p, isLineBreak c = false) ∧
      fence <+: q ∧ closeEnd? q = none := by
  constructor
  · rintro ⟨p, u, rfl, hp, hu⟩
    have hru : '\r' ∉ u := fun h => hr (by simp [h])
    refine ⟨_, p, fence ++ u, rfl, ⟨rfl, fun c hc => (hp c hc).1, rfl, List.forall_mem_nil _⟩, fun c hc => ?_,
      List.prefix_append fence u, ?_⟩
    · cases hb : isLineBreak c with
      | false => rfl
      | true =>
        refine absurd (eq_lineFeed hb ?_) (hp c hc).2
        rintro rfl
        exact hr (by simp [hc])
    · rw [closeEnd?_fence_append, Option.map_eq_none_iff]
      exact (closeEnd?_eq_none_iff_of_lineFeeds hru).2 hu
  · rintro ⟨_, p, _, rfl, ⟨rfl, hblanks, -, -⟩, hp, ⟨u, rfl⟩, hn⟩
    have hru : '\r' ∉ u := fun h => hr (by simp [h])
    rw [closeEnd?_fence_append, Option.map_eq_none_iff, closeEnd?_eq_none_iff_of_lineFeeds hru] at hn
    refine ⟨p, u, rfl, fun c hc => ⟨hblanks c hc, ?_⟩, hn⟩
    rintro rfl
    exact absurd (hp _ hc) (by decide)

/-- **Front matter has the same end**, if it is not one line break short. -/
theorem frontMatterRule_crlf {t : Text} (hr : '\r' ∉ t) (hs : ¬ OneBreakShort t) :
    frontMatterRule.matchLength? (crlf t) =
      (frontMatterRule.matchLength? t).map fun n => (crlf (t.take n)).length := by
  by_cases hf : fence <+: t
  · obtain ⟨t, rfl⟩ := hf
    have hrt : '\r' ∉ t := fun h => hr (List.mem_append_right fence h)
    rw [crlf_fence_append]
    rcases lastBreak_or_none t with ⟨p, b, q, h⟩ | h
    · obtain ⟨rfl, hcrlf⟩ := h.withCrlf hrt
      have hrq : '\r' ∉ q := fun hq => hrt (h.mem_of_mem_behind hq)
      rw [frontMatterRule_extent h, frontMatterRule_extent hcrlf, closeEnd?_crlf hrq]
      cases hn : closeEnd? q with
      | some n => exact congrArg some (h.take_length n).symm
      | none =>
        simp only [Option.map_none, fence_prefix_crlf_iff]
        by_cases hq : fence <+: q
        · have hp : p.any isLineBreak := by
            by_contra hp
            refine hs ((oneBreakShort_iff hr).2 ⟨t, p, q, rfl, h, fun c hc => ?_, hq, hn⟩)
            exact Bool.eq_false_iff.2 fun hb => hp (List.any_eq_true.2 ⟨c, hc, hb⟩)
          have hlen : (crlf (q.take 3)).length = 3 := by
            obtain ⟨u, rfl⟩ := hq
            rfl
          rw [if_pos ⟨hq, List.any_eq_true.2 ⟨'\r', by simp, rfl⟩⟩, if_pos ⟨hq, hp⟩, Option.map_some, h.take_length, hlen]
        · rw [if_neg fun hc => hq hc.1, if_neg fun hc => hq hc.1]
          rfl
    · have hcrlf : ∀ c ∈ (crlf t).takeWhile isBlank, isLineBreak c = false := by
        rw [takeWhile_isBlank_crlf h]
        exact h
      rw [frontMatterRule_of_blanks h, frontMatterRule_of_blanks hcrlf]
      rfl
  · rw [frontMatterRule_of_not_fence hf, frontMatterRule_of_not_fence fun h => hf (fence_prefix_crlf_iff.1 h)]
    rfl

/-- **One line break short**: there is no front matter, but with the other line endings there is. -/
theorem frontMatterRule_of_oneBreakShort {t : Text} (hr : '\r' ∉ t) (h : OneBreakShort t) :
    frontMatterRule.matchLength? t = none ∧ ∃ n, frontMatterRule.matchLength? (crlf t) = some n := by
  obtain ⟨u, p, q, rfl, hl, hp, hq, hn⟩ := (oneBreakShort_iff hr).1 h
  have hru : '\r' ∉ u := fun hu => hr (List.mem_append_right fence hu)
  have hrq : '\r' ∉ q := fun hq => hru (hl.mem_of_mem_behind hq)
  obtain ⟨-, hcrlf⟩ := hl.withCrlf hru
  constructor
  · rw [frontMatterRule_extent hl, hn]
    refine if_neg ?_
    rintro ⟨-, hany⟩
    obtain ⟨c, hc, hb⟩ := List.any_eq_true.1 hany
    rw [hp c hc] at hb
    cases hb
  · refine ⟨3 + ((crlf p ++ ['\r']).length + (1 + 3)), ?_⟩
    rw [crlf_fence_append, frontMatterRule_extent hcrlf, closeEnd?_crlf hrq, hn]
    exact if_pos ⟨fence_prefix_crlf_iff.2 hq, List.any_eq_true.2 ⟨'\r', by simp, rfl⟩⟩

/-! ## The other rules -/

/-- the segment with other line endings -/
def Segment.withCrlf (g : Segment) : Segment :=
  ⟨g.kind, crlf g.text⟩

theorem segment?_run_crlf (kind : SegmentKind) {k : CharClass} (hk : k.mem '\r' = k.mem '\n') {c : Char}
    (hc : c ≠ '\n') (t : Text) : Rule.segment? ⟨kind, .only [⟨k, .some⟩]⟩ (crlf (c :: t)) =
      (Rule.segment? ⟨kind, .only [⟨k, .some⟩]⟩ (c :: t)).map Segment.withCrlf := by
  have hrun := takeWhile_crlf hk (c :: t)
  rw [crlf_cons hc] at hrun ⊢
  rw [segment?_run, segment?_run, hrun]
  split_ifs <;> rfl

theorem frontMatterRule_segment?_crlf {t : Text} (hr : '\r' ∉ t) (hs : ¬ OneBreakShort t) :
    frontMatterRule.segment? (crlf t) = (frontMatterRule.segment? t).map Segment.withCrlf := by
  rw [Rule.segment?, Rule.segment?, frontMatterRule_crlf hr hs]
  cases frontMatterRule.matchLength? t with
  | none => rfl
  | some n => exact congrArg (fun u => some (Segment.mk _ u)) (take_crlf t n)

/-- a directive or a comment stays on its line -/
theorem directiveOrComment_eq (t : Text) : directiveOrComment t =
    match if "%%\x7b".toList <+: t then firstOccurrence? "\x7d%%".toList ((firstLine t).drop 3) else none with
    | some n => ⟨.trivia .configuration, (firstLine t).take (3 + n + 3)⟩
    | none => ⟨.trivia .comment, firstLine t⟩ := by
  unfold directiveOrComment
  cases hn : if "%%\x7b".toList <+: t then firstOccurrence? "\x7d%%".toList ((firstLine t).drop 3) else none with
  | none => rfl
  | some n =>
    split_ifs at hn
    obtain ⟨⟨hle, hmark⟩, -⟩ := firstOccurrence?_eq_some_iff.1 hn
    have hlen : 3 + n + 3 ≤ (firstLine t).length := by
      have h := hmark.length_le
      simp only [List.length_drop] at h hle
      have hm : "\x7d%%".toList.length = 3 := rfl
      omega
    have htake : t.take (3 + n + 3) = (firstLine t).take (3 + n + 3) := by
      conv_lhs => rw [← List.takeWhile_append_dropWhile (p := fun c => !isLineTerminator c) (l := t)]
      exact List.take_append_of_le_length hlen
    exact congrArg (Segment.mk _) htake

theorem lineFeed_not_mem_firstLine (t : Text) : '\n' ∉ firstLine t :=
  fun h => absurd (List.mem_takeWhile_imp h) (by decide)

theorem firstLine_crlf (t : Text) : firstLine (crlf t) = firstLine t := by
  rw [firstLine, takeWhile_crlf (by decide)]
  exact crlf_eq_self (lineFeed_not_mem_firstLine t)

theorem directiveOrComment_crlf (t : Text) : directiveOrComment (crlf t) = (directiveOrComment t).withCrlf := by
  have hn := lineFeed_not_mem_firstLine t
  rw [directiveOrComment_eq, directiveOrComment_eq t, firstLine_crlf]
  simp only [prefix_crlf_iff (show '\n' ∉ "%%\x7b".toList by decide) (by decide)]
  split
  · exact congrArg (Segment.mk _) (crlf_eq_self fun h => hn (List.mem_of_mem_take h)).symm
  · exact congrArg (Segment.mk _) (crlf_eq_self hn).symm

theorem segment?_percent_crlf (t : Text) :
    (configurationRule.segment? (crlf t)).or (commentRule.segment? (crlf t)) =
      ((configurationRule.segment? t).or (commentRule.segment? t)).map Segment.withCrlf := by
  have hiff : "%%".toList <+: crlf t ↔ "%%".toList <+: t := prefix_crlf_iff (by decide) (by decide)
  by_cases hp : "%%".toList <+: t
  · rw [segment?_percent hp, segment?_percent (hiff.2 hp), directiveOrComment_crlf]
    rfl
  · rw [segment?_not_percent hp, segment?_not_percent (mt hiff.1 hp)]
    rfl

theorem spelling_on_one_line : ∀ a ∈ fixedSpellings, '\n' ∉ a.2.toList ∧ '\r' ∉ a.2.toList := by
  decide +kernel

theorem longestSpelling?_crlf (t : Text) : longestSpelling? (crlf t) = longestSpelling? t := by
  unfold longestSpelling?
  congr 1
  refine List.filter_congr fun a ha => ?_
  rw [decide_eq_decide]
  exact prefix_crlf_iff (spelling_on_one_line a ha).1 (spelling_on_one_line a ha).2

theorem segment?_spelling_crlf (t : Text) :
    (longestSpelling? (crlf t)).map (fun a => (⟨.lexeme a.1, a.2.toList⟩ : Segment)) =
      ((longestSpelling? t).map fun a => (⟨.lexeme a.1, a.2.toList⟩ : Segment)).map Segment.withCrlf := by
  rw [longestSpelling?_crlf]
  cases hl : longestSpelling? t with
  | none => rfl
  | some a =>
    have hmem : a ∈ fixedSpellings := (List.mem_filter.1 (List.argmax_mem hl)).1
    exact congrArg (fun u => some (Segment.mk _ u)) (crlf_eq_self (spelling_on_one_line a hmem).1).symm

theorem segment?_stringRule_crlf {c : Char} (hc : c ≠ '\n') (t : Text) :
    stringRule.segment? (crlf (c :: t)) = (stringRule.segment? (c :: t)).map Segment.withCrlf := by
  have hiff : c = '"' ∧ '"' ∈ crlf t ↔ c = '"' ∧ '"' ∈ t := and_congr_right fun _ => mem_crlf_iff (by decide)
  rw [crlf_cons hc, segment?_stringRule, segment?_stringRule, takeWhile_crlf rfl]
  by_cases h : c = '"' ∧ '"' ∈ t
  · rw [if_pos h, if_pos (hiff.2 h), Option.map_some, Segment.withCrlf, crlf_cons (by decide), crlf_append]
    rfl
  · rw [if_neg h, if_neg (mt hiff.1 h)]
    rfl

/-! ## The leading segment -/

/-- **The leading segment with other line endings**, if front matter is not one line break short -/
theorem Segment.leading_crlf {t : Text} (hr : '\r' ∉ t) (hs : ¬ OneBreakShort t) :
    Segment.leading true (crlf t) = (Segment.leading true t).map (Option.map Segment.withCrlf) := by
  cases t with
  | nil => rfl
  | cons c t =>
    by_cases hc : c = '\n'
    · subst hc
      have hrun := takeWhile_crlf (f := isBlank) (by decide) ('\n' :: t)
      rw [crlf_lineFeed] at hrun ⊢
      rw [Segment.leading_blank (by decide), Segment.leading_blank (by decide), hrun]
      rfl
    · have hrules : rules.findSome? (·.segment? (crlf (c :: t))) =
          (rules.findSome? (·.segment? (c :: t))).map Segment.withCrlf := by
        have hblank : blankRule.segment? (crlf (c :: t)) = (blankRule.segment? (c :: t)).map Segment.withCrlf :=
          segment?_run_crlf _ (by decide) hc t
        have hident : identifierRule.segment? (crlf (c :: t)) =
            (identifierRule.segment? (c :: t)).map Segment.withCrlf := segment?_run_crlf _ (by decide +kernel) hc t
        rw [findSome?_rules, findSome?_rules, hblank, frontMatterRule_segment?_crlf hr hs, segment?_percent_crlf,
          segment?_spelling_crlf, segment?_stringRule_crlf hc, hident]
        simp only [Option.map_or]
      rw [crlf_cons hc] at hrules ⊢
      rw [Segment.leading, if_pos rfl, Segment.leadingBy, hrules, Segment.leading, if_pos rfl, Segment.leadingBy]
      cases rules.findSome? (·.segment? (c :: t)) <;> rfl

/-- **One line break short**: the fence is a link, but with the other line endings it opens front matter. -/
theorem Segment.leading_of_oneBreakShort {t : Text} (hr : '\r' ∉ t) (h : OneBreakShort t) :
    Segment.leading true t = .ok (some ⟨.lexeme .link, fence⟩) ∧
      ∃ x, Segment.leading true (crlf t) = .ok (some ⟨.trivia .frontMatter, x⟩) := by
  obtain ⟨hnone, n, hsome⟩ := frontMatterRule_of_oneBreakShort hr h
  obtain ⟨u, -, -, rfl, -⟩ := (oneBreakShort_iff hr).1 h
  constructor
  · refine Segment.leading_eq_lexeme_iff.2 ⟨rfl, hnone, fun hp => ?_, lexeme?_fence u⟩
    exact absurd (List.cons_prefix_cons.1 hp).1 (by decide)
  · rw [crlf_fence_append] at hsome ⊢
    refine ⟨(fence ++ crlf u).take n, ?_⟩
    rw [Segment.leading_eq_direct]
    show Segment.direct ('-' :: ('-' :: '-' :: crlf u)) = _
    have hsome : frontMatterRule.matchLength? ('-' :: '-' :: '-' :: crlf u) = some n := hsome
    rw [Segment.direct, if_neg (by decide), hsome]
    rfl

end FlowchartLexer
