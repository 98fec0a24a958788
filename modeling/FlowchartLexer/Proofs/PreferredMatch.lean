/-
Which of its matches a pattern prefers, for the shapes that the rules are made of.

The preferred match is the first of the lengths of the pattern, so each equation here is about the head of a list of
lengths.

- `lengths_spelling_append`: a spelling in front has to be there, and it adds its own length.
- `head?_lengths_many`, `head?_lengths_some`: a run at the end of a pattern is as long as can be.
- `firstOccurrence?_eq_some_iff`, `head?_lengths_few_spelling`: a lazy run before a spelling stops at the first
  occurrence of the spelling.
- `head?_lengths_many_literal`: a run of all characters but one, and then that one.
- `segment?_oneOf`: a choice of spellings takes the first that the text begins with.
-/
import FlowchartLexer.Proofs.PatternLanguage
import FlowchartLexer.Segment.Basic

namespace FlowchartLexer

/-- the segment of a rule is as long as the match that its pattern prefers -/
theorem Rule.segment?_eq (r : Rule) (t : Text) :
    r.segment? t = ((r.pattern.lengths t).head?.filter (0 < ·)).map fun n => ⟨r.kind, t.take n⟩ := by
  rw [Rule.segment?, Rule.matchLength?, Pattern.matchLength?_eq_preferred?, Pattern.preferred?]

theorem Pattern.lengths_only (s : Sequence) (t : Text) : (Pattern.only s).lengths t = s.lengths t :=
  List.append_nil _

@[simp] theorem CharClass.mem_literal (a c : Char) : (CharClass.literal a).mem c = decide (a = c) := rfl

/-! ## Spellings -/

theorem lengths_spelling_append (s : String) (ps : Sequence) (t : Text) :
    Sequence.lengths (Sequence.spelling s ++ ps) t =
      if s.toList <+: t then (ps.lengths (t.drop s.toList.length)).map (· + s.toList.length) else [] := by
  unfold Sequence.spelling
  induction s.toList generalizing t with
  | nil => simp
  | cons a as ih =>
    rw [List.map_cons, List.cons_append]
    cases t with
    | nil => simp [Sequence.lengths, Piece.matcher, Matcher.once]
    | cons c t =>
      simp only [Sequence.lengths, Piece.matcher, Matcher.once, CharClass.mem_literal, decide_eq_true_eq, ih,
        List.cons_prefix_cons]
      by_cases hac : a = c
      · by_cases ht : as <+: t
        · simp [hac, ht]
        · simp [hac, ht]
      · simp [hac]

theorem lengths_spelling (s : String) (t : Text) :
    (Sequence.spelling s).lengths t = if s.toList <+: t then [s.toList.length] else [] := by
  have h := lengths_spelling_append s [] t
  rw [List.append_nil] at h
  rw [h]
  split_ifs
  · simp [Sequence.lengths]
  · rfl

/-- a rule that begins with a spelling takes it and what the rest of its pattern prefers behind it -/
theorem segment?_spelling_append (kind : SegmentKind) {s : String} (h0 : s.toList ≠ []) (ps : Sequence) (u : Text) :
    Rule.segment? ⟨kind, .only (Sequence.spelling s ++ ps)⟩ (s.toList ++ u) =
      (ps.lengths u).head?.map fun n => ⟨kind, s.toList ++ u.take n⟩ := by
  rw [Rule.segment?_eq, Pattern.lengths_only, lengths_spelling_append, if_pos (List.prefix_append _ u), List.drop_left,
    List.head?_map]
  cases (ps.lengths u).head? with
  | none => rfl
  | some n =>
    have hlen : 0 < n + s.toList.length := Nat.add_pos_right n (List.length_pos_iff.2 h0)
    simp only [Option.map_some, Option.filter_some, decide_eq_true hlen, if_true]
    rw [Nat.add_comm, List.take_length_add_append]

theorem segment?_spelling_append_eq_none (kind : SegmentKind) {s : String} (ps : Sequence) {t : Text}
    (ht : ¬ s.toList <+: t) : Rule.segment? ⟨kind, .only (Sequence.spelling s ++ ps)⟩ t = none := by
  rw [Rule.segment?_eq, Pattern.lengths_only, lengths_spelling_append, if_neg ht]
  rfl

/-! ## Runs -/

theorem head?_lengths_many (k : CharClass) (t : Text) :
    (Sequence.lengths [⟨k, .many⟩] t).head? = some (t.takeWhile k.mem).length := by
  induction t with
  | nil => rfl
  | cons c t ih =>
    simp only [Sequence.lengths, Piece.matcher, Matcher.many] at ih ⊢
    by_cases hc : k.mem c
    · simp [hc, ih]
    · simp [hc]

theorem head?_lengths_some (k : CharClass) (c : Char) (t : Text) :
    (Sequence.lengths [⟨k, .some⟩] (c :: t)).head? =
      if k.mem c then some ((c :: t).takeWhile k.mem).length else none := by
  have h := head?_lengths_many k t
  simp only [Sequence.lengths, Piece.matcher, Matcher.once] at h ⊢
  by_cases hc : k.mem c
  · simp [hc, h]
  · simp [hc]

/-- a run rule takes the maximal run -/
theorem segment?_run (kind : SegmentKind) (k : CharClass) (c : Char) (t : Text) :
    Rule.segment? ⟨kind, .only [⟨k, .some⟩]⟩ (c :: t) =
      if k.mem c then some ⟨kind, (c :: t).takeWhile k.mem⟩ else none := by
  rw [Rule.segment?_eq, Pattern.lengths_only, head?_lengths_some]
  by_cases hc : k.mem c
  · have hp : (c :: t).take ((c :: t).takeWhile k.mem).length = (c :: t).takeWhile k.mem :=
      (List.prefix_iff_eq_take.1 (List.takeWhile_prefix k.mem)).symm
    have h0 : 0 < ((c :: t).takeWhile k.mem).length := by simp [hc]
    simpa [hc] using hp
  · simp [hc]

/-! ## Lazy runs -/

/-- how many characters stand before the first occurrence of a text in another -/
def firstOccurrence? (p : Text) : Text → Option Nat
  | [] => if p = [] then some 0 else none
  | c :: t => if p <+: c :: t then some 0 else (firstOccurrence? p t).map (· + 1)

/-- the number is that of the first place where the text occurs -/
theorem firstOccurrence?_eq_some_iff {p t : Text} {n : Nat} :
    firstOccurrence? p t = some n ↔ (n ≤ t.length ∧ p <+: t.drop n) ∧ ∀ m, m < n → ¬ p <+: t.drop m := by
  induction t generalizing n with
  | nil =>
    rw [firstOccurrence?]
    by_cases hp : p = []
    · cases n <;> simp [hp]
    · simp [hp]
  | cons c t ih =>
    rw [firstOccurrence?]
    split_ifs with hp
    · constructor
      · intro h
        obtain rfl := Option.some.inj h
        exact ⟨⟨Nat.zero_le _, hp⟩, fun m hm => absurd hm (Nat.not_lt_zero m)⟩
      · rintro ⟨-, h⟩
        cases n with
        | zero => rfl
        | succ n => exact absurd hp (h 0 (Nat.succ_pos n))
    · cases n with
      | zero =>
        refine iff_of_false ?_ fun h => hp h.1.2
        simp
      | succ n =>
        rw [Option.map_eq_some_iff]
        constructor
        · rintro ⟨k, hk, he⟩
          obtain rfl := Nat.succ.inj he
          obtain ⟨⟨hle, hn⟩, hlt⟩ := ih.1 hk
          refine ⟨⟨Nat.succ_le_succ hle, hn⟩, fun m hm => ?_⟩
          cases m with
          | zero => exact hp
          | succ m => exact hlt m (Nat.lt_of_succ_lt_succ hm)
        · rintro ⟨⟨hle, hn⟩, hlt⟩
          exact ⟨n, ih.2 ⟨⟨Nat.le_of_succ_le_succ hle, hn⟩, fun m hm => hlt (m + 1) (Nat.succ_lt_succ hm)⟩, rfl⟩

theorem prefix_takeWhile_iff {p t : Text} {f : Char → Bool} (hp : ∀ c ∈ p, f c) : p <+: t.takeWhile f ↔ p <+: t := by
  constructor
  · intro h
    exact h.trans (List.takeWhile_prefix f)
  · rintro ⟨u, rfl⟩
    rw [List.takeWhile_append_of_pos hp]
    exact List.prefix_append p _

/-- the first occurrence that a lazy run of a class can reach is the first one within the maximal run -/
theorem head?_lengths_few_spelling {k : CharClass} {s : String} (h0 : s.toList ≠ []) (hk : ∀ c ∈ s.toList, k.mem c)
    (t : Text) : (Sequence.lengths (⟨k, .few⟩ :: Sequence.spelling s) t).head? =
      (firstOccurrence? s.toList (t.takeWhile k.mem)).map (· + s.toList.length) := by
  induction t with
  | nil =>
    have hn : ¬ s.toList <+: [] := fun h => h0 (List.prefix_nil.1 h)
    simp only [Sequence.lengths, Piece.matcher, Matcher.few, lengths_spelling, if_neg hn]
    rw [List.takeWhile_nil, firstOccurrence?, if_neg h0]
    rfl
  | cons c t ih =>
    simp only [Sequence.lengths, Piece.matcher, Matcher.few, lengths_spelling] at ih ⊢
    by_cases hs : s.toList <+: c :: t
    · rw [if_pos hs]
      have hw := (prefix_takeWhile_iff hk).2 hs
      cases hr : (c :: t).takeWhile k.mem with
      | nil =>
        rw [hr] at hw
        exact absurd (List.prefix_nil.1 hw) h0
      | cons d r =>
        rw [hr] at hw
        rw [firstOccurrence?, if_pos hw]
        simp
    · rw [if_neg hs, List.nil_append]
      by_cases hc : k.mem c
      · have hw : ¬ s.toList <+: c :: t.takeWhile k.mem := by
          intro hw
          rw [← List.takeWhile_cons_of_pos hc] at hw
          exact hs ((prefix_takeWhile_iff hk).1 hw)
        rw [if_pos hc, List.head?_map, ih, List.takeWhile_cons_of_pos hc, firstOccurrence?, if_neg hw]
        cases firstOccurrence? s.toList (t.takeWhile k.mem) with
        | none => rfl
        | some n => simp [Nat.add_right_comm]
      · rw [if_neg hc, List.takeWhile_cons_of_neg hc, firstOccurrence?, if_neg h0]
        rfl

/-! ## Runs up to a character -/

theorem head?_lengths_many_literal {k : CharClass} {a : Char} (hk : ∀ c, k.mem c = true ↔ c ≠ a) (t : Text) :
    (Sequence.lengths [⟨k, .many⟩, ⟨.literal a, .once⟩] t).head? =
      if a ∈ t then some ((t.takeWhile k.mem).length + 1) else none := by
  induction t with
  | nil => rfl
  | cons c t ih =>
    simp only [Sequence.lengths, Piece.matcher, Matcher.many, Matcher.once, CharClass.mem_literal] at ih ⊢
    by_cases hc : c = a
    · subst hc
      have hm : ¬ k.mem c = true := fun h => (hk c).1 h rfl
      simp [hm]
    · have hm : k.mem c = true := (hk c).2 hc
      by_cases ht : a ∈ t
      · simp [hm, ih, ht]
      · simp [hm, ih, ht, Ne.symm hc]

/-! ## Choices of spellings -/

theorem head?_lengths_oneOf (ss : List String) (t : Text) :
    ((Pattern.oneOf ss).lengths t).head? = (ss.find? fun s => s.toList <+: t).map fun s => s.toList.length := by
  unfold Pattern.oneOf Pattern.lengths
  induction ss with
  | nil => rfl
  | cons s ss ih =>
    rw [List.map_cons, List.flatMap_cons, lengths_spelling, List.find?_cons]
    by_cases hs : s.toList <+: t
    · simp [hs]
    · simpa [hs] using ih

/-- the first spelling that the text begins with, none of them being empty -/
theorem segment?_oneOf (kind : SegmentKind) {ss : List String} (h0 : ∀ s ∈ ss, s.toList ≠ []) (t : Text) :
    Rule.segment? ⟨kind, .oneOf ss⟩ t = (ss.find? fun s => s.toList <+: t).map fun s => ⟨kind, s.toList⟩ := by
  rw [Rule.segment?_eq, head?_lengths_oneOf]
  cases hf : ss.find? fun s => s.toList <+: t with
  | none => rfl
  | some s =>
    have hs : s.toList <+: t := by simpa using List.find?_some hf
    have hlen : 0 < s.toList.length := List.length_pos_iff.2 (h0 s (List.mem_of_find?_eq_some hf))
    have htake := List.prefix_iff_eq_take.1 hs
    simp only [Option.map_some, Option.filter_some, decide_eq_true hlen, if_true, ← htake]

end FlowchartLexer
