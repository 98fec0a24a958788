/-
What a run of word characters is cut into.

A keyword has no end of its own: it leads wherever a run begins with its spelling, and what is left of the run may begin
with another one. Where no keyword leads, all that is left is an identifier. But a run that is down to `o` or `x` is the
beginning of a link, if two dashes stand behind it.

- `runSegments`: the pieces of a run, one after the other.
- `textOf_runSegments`: they make up the run.
- `runSegments_identifier`: an identifier is the last of them, and begins with no keyword.
- `WordRun.leading_keyword`, `WordRun.leading_link`, `WordRun.leading_identifier`: what leads a run.
- `Cursor.answer_run`: a cursor before a run gives its pieces.
- `Cursor.not_isWord_after_identifier`: no segment goes on with a word behind an identifier.
- **Runs of word characters** (`Cursor.word_runs_are_keywords_and_one_identifier`).
-/
import FlowchartLexer.Proofs.LexemeExtent

namespace FlowchartLexer

open Calls

/-! ## The pieces of a run -/

/-- the fixed spellings of word characters -/
def keywords : List (Lexeme × String) :=
  [(.flowchartDeclaration, "flowchart"), (.flowchartDeclaration, "graph"),
    (.direction, "TB"), (.direction, "TD"), (.direction, "BT"), (.direction, "RL"), (.direction, "LR"),
    (.subgraphOpen, "subgraph"), (.subgraphClose, "end")]

/-- the keyword that a text begins with -/
def keyword? (t : Text) : Option (Lexeme × String) :=
  keywords.find? fun a => a.2.toList <+: t

/-- the keywords are fixed spellings, of word characters only, and none of them begins another spelling -/
theorem keywords_spec : ∀ a ∈ keywords, a ∈ fixedSpellings ∧ a.1 ≠ .identifier ∧ a.2.toList ≠ [] ∧
    a.2.toList.all isWord = true ∧ ∀ b ∈ fixedSpellings, a.2.toList <+: b.2.toList → b = a := by
  decide +kernel

/-- two more spellings begin with a word character, and all others with another one -/
theorem fixedSpellings_cases : ∀ a ∈ fixedSpellings, a ∈ keywords ∨ a = (.link, "o--") ∨ a = (.link, "x--") ∨
    a.2.toList.head?.any (fun c => !isWord c) = true := by
  decide +kernel

theorem keyword?_eq_some {t : Text} {a : Lexeme × String} (h : keyword? t = some a) :
    a ∈ keywords ∧ a.2.toList <+: t := by
  rw [keyword?] at h
  exact ⟨List.mem_of_find?_eq_some h, by simpa using List.find?_some h⟩

theorem keyword?_eq_none_iff {t : Text} : keyword? t = none ↔ ∀ a ∈ keywords, ¬ a.2.toList <+: t := by
  simp only [keyword?, List.find?_eq_none, decide_eq_true_eq]

/-- a keyword takes something of the run -/
theorem length_drop_keyword {run : Text} {a : Lexeme × String} (h : keyword? run = some a) :
    (run.drop a.2.toList.length).length < run.length := by
  obtain ⟨ha, hp⟩ := keyword?_eq_some h
  have hpos := List.length_pos_iff.2 (keywords_spec a ha).2.2.1
  have hle := hp.length_le
  rw [List.length_drop]
  omega

/-- the segments of a run of word characters, with what stands behind it: the keywords that it begins with, one after
the other, and then a link or an identifier, if anything is left -/
def runSegments (run behind : Text) : List Segment :=
  match _ : keyword? run with
  | some a => ⟨.lexeme a.1, a.2.toList⟩ :: runSegments (run.drop a.2.toList.length) behind
  | none =>
    if run = [] then []
    else if (run = ['o'] ∨ run = ['x']) ∧ "--".toList <+: behind then [⟨.lexeme .link, run ++ "--".toList⟩]
    else [⟨.lexeme .identifier, run⟩]
termination_by run.length
decreasing_by exact length_drop_keyword ‹_›

/-- **The pieces make up the run**, and the dashes behind it if the last one is a link. -/
theorem textOf_runSegments (run behind : Text) : textOf (runSegments run behind) = run ∨
    textOf (runSegments run behind) = run ++ "--".toList ∧ "--".toList <+: behind := by
  fun_induction runSegments run behind with
  | case1 run a ha ih =>
    obtain ⟨u, rfl⟩ := (keyword?_eq_some ha).2
    rw [List.drop_left] at ih
    rw [textOf_cons, List.drop_left, List.append_assoc, List.append_right_inj, List.append_right_inj]
    exact ih
  | case2 hno => exact Or.inl rfl
  | case3 run hno hne hlink => exact Or.inr ⟨List.append_nil _, hlink.2⟩
  | case4 run hno hne hlink => exact Or.inl (List.append_nil run)

/-- **At most one identifier**: it is the last piece, and it begins with no keyword. -/
theorem runSegments_identifier {run behind : Text} {ps qs : List Segment} {g : Segment}
    (h : runSegments run behind = ps ++ g :: qs) (hg : g.kind = .lexeme .identifier) :
    qs = [] ∧ keyword? g.text = none := by
  fun_induction runSegments run behind generalizing ps with
  | case1 run a ha ih =>
    cases ps with
    | nil =>
      obtain ⟨rfl, -⟩ := List.cons.inj h
      have hident : a.1 = .identifier := SegmentKind.lexeme.inj hg
      exact absurd hident (keywords_spec a (keyword?_eq_some ha).1).2.1
    | cons p ps => exact ih (List.cons.inj h).2
  | case2 hno => cases ps <;> cases h
  | case3 run hno hne hlink =>
    rcases List.singleton_eq_append_iff.1 h with ⟨-, hcons⟩ | ⟨-, hcons⟩
    · obtain ⟨rfl, -⟩ := List.cons.inj hcons
      cases hg
    · cases hcons
  | case4 run hno hne hlink =>
    rcases List.singleton_eq_append_iff.1 h with ⟨-, hcons⟩ | ⟨-, hcons⟩
    · obtain ⟨rfl, rfl⟩ := List.cons.inj hcons
      exact ⟨rfl, hno⟩
    · cases hcons

/-! ## What leads a run -/

/-- a run of word characters, as long as can be, at the start of a text -/
structure WordRun (t run behind : Text) : Prop where
  split : t = run ++ behind
  word : ∀ c ∈ run, isWord c = true
  stops : ∀ c ∈ behind.head?, isWord c = false

theorem wordRun_takeWhile (t : Text) : WordRun t (t.takeWhile isWord) (t.dropWhile isWord) := by
  refine ⟨List.takeWhile_append_dropWhile.symm, fun c hc => List.mem_takeWhile_imp hc, ?_⟩
  intro c hc
  have hnot := List.head?_dropWhile_not isWord t
  rw [hc] at hnot
  simpa using hnot

namespace WordRun

variable {t run behind : Text}

theorem drop (h : WordRun t run behind) {n : Nat} (hn : n ≤ run.length) :
    WordRun (t.drop n) (run.drop n) behind := by
  refine ⟨?_, fun c hc => h.word c (List.mem_of_mem_drop hc), h.stops⟩
  rw [h.split, List.drop_append_of_le_length hn]

theorem takeWhile_eq (h : WordRun t run behind) : t.takeWhile isWord = run := by
  rw [h.split, List.takeWhile_append_of_pos h.word]
  cases hb : behind with
  | nil => exact List.append_nil run
  | cons c u => rw [List.takeWhile_cons_of_neg (by simp [h.stops c (by rw [hb]; rfl)]), List.append_nil]

/-- a keyword does not go on behind the run -/
theorem prefix_iff (h : WordRun t run behind) {a : Lexeme × String} (ha : a ∈ keywords) :
    a.2.toList <+: t ↔ a.2.toList <+: run := by
  rw [← h.takeWhile_eq, prefix_takeWhile_iff (List.all_eq_true.1 (keywords_spec a ha).2.2.2.1)]

end WordRun

/-- before a word character there is only the choice between a spelling and an identifier -/
theorem Segment.leading_word {c : Char} (hc : isWord c = true) (t : Text) :
    Segment.leading true (c :: t) = .ok (some
      (((longestSpelling? (c :: t)).map fun a => ⟨.lexeme a.1, a.2.toList⟩).getD
        ⟨.lexeme .identifier, (c :: t).takeWhile isWord⟩)) := by
  have hblank : isBlank c = false := by
    cases hb : isBlank c with
    | false => rfl
    | true =>
      rw [isWord_of_isBlank hb] at hc
      cases hc
  have hmark : ∀ d, isWord d = false → c ≠ d := by
    rintro d hd rfl
    rw [hd] at hc
    cases hc
  have hfence : frontMatterRule.matchLength? (c :: t) = none := by
    apply frontMatterRule_of_not_fence
    intro h
    exact hmark '-' (by decide +kernel) (List.cons_prefix_cons.1 h).1.symm
  have hpercent : ¬ "%%".toList <+: c :: t := by
    intro h
    exact hmark '%' (by decide +kernel) (List.cons_prefix_cons.1 h).1.symm
  have hquote : ¬ (c = '"' ∧ '"' ∈ t) := fun h => hmark '"' (by decide +kernel) h.1
  rw [Segment.leading_eq_direct, Segment.direct, hblank, hfence, if_neg hpercent, if_neg hquote, if_pos hc]
  cases longestSpelling? (c :: t) <;> rfl

namespace WordRun

variable {t run behind : Text}

theorem leading_eq (h : WordRun t run behind) (hne : run ≠ []) :
    Segment.leading true t = .ok (some
      (((longestSpelling? t).map fun a => ⟨.lexeme a.1, a.2.toList⟩).getD ⟨.lexeme .identifier, run⟩)) := by
  obtain ⟨c, r, rfl⟩ := List.exists_cons_of_ne_nil hne
  have hlead := Segment.leading_word (h.word c List.mem_cons_self) (r ++ behind)
  rw [← List.cons_append, ← h.split, h.takeWhile_eq] at hlead
  exact hlead

theorem leading_keyword (h : WordRun t run behind) {a : Lexeme × String} (ha : keyword? run = some a) :
    Segment.leading true t = .ok (some ⟨.lexeme a.1, a.2.toList⟩) := by
  obtain ⟨hmem, hp⟩ := keyword?_eq_some ha
  obtain ⟨hfixed, -, hne, -, hno⟩ := keywords_spec a hmem
  have hrun : run ≠ [] := by
    rintro rfl
    exact hne (List.prefix_nil.1 hp)
  have ht := (h.prefix_iff hmem).2 hp
  rw [h.leading_eq hrun, longestSpelling?_of_begins_no_other hfixed hno ht]
  rfl

/-- a run that is down to `o` or `x` -/
theorem leading_link (h : WordRun t run behind) (hlink : (run = ['o'] ∨ run = ['x']) ∧ "--".toList <+: behind) :
    Segment.leading true t = .ok (some ⟨.lexeme .link, run ++ "--".toList⟩) := by
  obtain ⟨hrun, v, rfl⟩ := hlink
  have hspelling : ∀ s ∈ ["o--", "x--"], (.link, s) ∈ fixedSpellings ∧
      ∀ b ∈ fixedSpellings, s.toList <+: b.2.toList → b = (.link, s) := by decide +kernel
  rcases hrun with rfl | rfl
  · obtain ⟨hfixed, hno⟩ := hspelling "o--" (by simp)
    rw [h.leading_eq (by simp), longestSpelling?_of_begins_no_other hfixed hno ⟨v, h.split.symm⟩]
    rfl
  · obtain ⟨hfixed, hno⟩ := hspelling "x--" (by simp)
    rw [h.leading_eq (by simp), longestSpelling?_of_begins_no_other hfixed hno ⟨v, h.split.symm⟩]
    rfl

/-- `o--` and `x--` begin a text only if the run is down to its first character -/
theorem of_link_prefix (h : WordRun t run behind) (hne : run ≠ []) {c : Char} (hp : c :: "--".toList <+: t) :
    run = [c] ∧ "--".toList <+: behind := by
  obtain ⟨d, r, rfl⟩ := List.exists_cons_of_ne_nil hne
  rw [h.split, List.cons_append] at hp
  obtain ⟨rfl, htail⟩ := List.cons_prefix_cons.1 hp
  cases r with
  | nil => exact ⟨rfl, htail⟩
  | cons e r =>
    have hdash := (List.cons_prefix_cons.1 htail).1
    have he := h.word e (by simp)
    rw [← hdash] at he
    exact absurd he (by decide +kernel)

theorem leading_identifier (h : WordRun t run behind) (hne : run ≠ []) (hno : keyword? run = none)
    (hlink : ¬ ((run = ['o'] ∨ run = ['x']) ∧ "--".toList <+: behind)) :
    Segment.leading true t = .ok (some ⟨.lexeme .identifier, run⟩) := by
  have hnone : longestSpelling? t = none := by
    rw [longestSpelling?_eq_none_iff]
    intro a ha hp
    rcases fixedSpellings_cases a ha with hk | rfl | rfl | hother
    · exact keyword?_eq_none_iff.1 hno a hk ((h.prefix_iff hk).1 hp)
    · obtain ⟨hrun, hdashes⟩ := h.of_link_prefix hne hp
      exact hlink ⟨Or.inl hrun, hdashes⟩
    · obtain ⟨hrun, hdashes⟩ := h.of_link_prefix hne hp
      exact hlink ⟨Or.inr hrun, hdashes⟩
    · -- any other spelling begins with a character that no run has
      obtain ⟨d, r, rfl⟩ := List.exists_cons_of_ne_nil hne
      cases hs : a.2.toList with
      | nil =>
        rw [hs] at hother
        cases hother
      | cons c s =>
        rw [hs, h.split] at hp
        rw [hs, List.head?_cons, Option.any_some, (List.cons_prefix_cons.1 hp).1, h.word d List.mem_cons_self] at hother
        cases hother
  rw [h.leading_eq hne, hnone]
  rfl

end WordRun

/-- an identifier is a whole run -/
theorem Segment.text_of_leading_identifier {t x : Text}
    (h : Segment.leading true t = .ok (some ⟨.lexeme .identifier, x⟩)) : x = t.takeWhile isWord := by
  cases t with
  | nil => cases h
  | cons c t =>
    have hkind : ∀ a ∈ fixedSpellings, a.1 ≠ .identifier := by decide +kernel
    have hlexeme := (Segment.leading_eq_lexeme_iff.1 h).2.2.2
    rw [lexeme?] at hlexeme
    cases hl : longestSpelling? (c :: t) with
    | some a =>
      rw [hl] at hlexeme
      have hident := congrArg Segment.kind (Option.some.inj hlexeme)
      exact absurd (SegmentKind.lexeme.inj hident) (hkind a (List.mem_filter.1 (List.argmax_mem hl)).1)
    | none =>
      rw [hl, Option.map_none, Option.none_or, Rule.segment?_or_eq_some_iff (by simp [stringRule]),
        segment?_identifierRule] at hlexeme
      obtain ⟨-, hword⟩ := hlexeme
      split_ifs at hword
      exact (congrArg Segment.text (Option.some.inj hword)).symm

/-! ## Runs of a source -/

namespace Cursor

variable {source : Text}

/-- **A cursor before a run gives its pieces**, one at each call. -/
theorem answer_run {run behind : Text} {n i : Nat} {g : Segment}
    (h : WordRun (after next (ofText source) n).rest run behind) (hi : (runSegments run behind)[i]? = some g) :
    answer next (ofText source) (n + i) = some (.ok g) := by
  fun_induction runSegments run behind generalizing n i with
  | case1 run a ha ih =>
    have hnext := next_of_leading_rest (h.leading_keyword ha)
    cases i with
    | zero =>
      obtain rfl := Option.some.inj hi
      exact congrArg Prod.fst hnext
    | succ i =>
      -- the cursor behind the keyword stands before what is left of the run
      have hrun : WordRun (after next (ofText source) (n + 1)).rest (run.drop a.2.toList.length) behind := by
        rw [after_succ, hnext]
        exact h.drop (keyword?_eq_some ha).2.length_le
      have hlater := ih hrun hi
      rw [Nat.add_assoc, Nat.add_comm 1 i] at hlater
      exact hlater
  | case2 hno => cases hi
  | case3 run hno hne hlink =>
    cases i with
    | zero =>
      obtain rfl := Option.some.inj hi
      exact congrArg Prod.fst (next_of_leading_rest (h.leading_link hlink))
    | succ i => cases hi
  | case4 run hno hne hlink =>
    cases i with
    | zero =>
      obtain rfl := Option.some.inj hi
      exact congrArg Prod.fst (next_of_leading_rest (h.leading_identifier hne hno hlink))
    | succ i => cases hi

/-- **No word goes on behind an identifier**: what follows begins with another character. -/
theorem not_isWord_after_identifier {n : Nat} {x : Text} {g : Segment}
    (hx : answer next (ofText source) n = some (.ok ⟨.lexeme .identifier, x⟩))
    (hg : answer next (ofText source) (n + 1) = some (.ok g)) : ∀ c ∈ g.text.head?, isWord c = false := by
  obtain ⟨-, hlead, hskip⟩ := next_ok (Prod.ext hx rfl)
  obtain ⟨-, hlater, -⟩ := next_ok (Prod.ext hg rfl)
  rw [leading_of_at (at_after source n)] at hlead
  have hrun := wordRun_takeWhile (after next (ofText source) n).rest
  have hrest : (after next (ofText source) (n + 1)).rest = (after next (ofText source) n).rest.dropWhile isWord := by
    calc (after next (ofText source) (n + 1)).rest = (after next (ofText source) n).rest.drop x.length := by
          rw [after_succ]
          exact congrArg rest hskip
      _ = (after next (ofText source) n).rest.dropWhile isWord := by
          have hdrop := hrun.drop le_rfl
          rw [← Segment.text_of_leading_identifier hlead, List.drop_length] at hdrop
          exact hdrop.split
  have htext := Segment.leading_text_append hlater
  intro c hc
  apply hrun.stops
  rw [← hrest, ← htext, List.head?_append, hc]
  rfl

/-! ## Runs of word characters -/

/-- **Runs of word characters.** Take a cursor on its way through a source. The rest begins with a run of word
characters, as long as can be, which may be empty.
- The next segments are the pieces of the run: the keywords that it begins with, one after the other, and for what is
left a link or an identifier. They make up the run, with the dashes behind it if there is a link.
- An identifier among them is the last one, and it begins with no keyword.
- No segment that begins with a word character comes right behind an identifier. -/
theorem word_runs_are_keywords_and_one_identifier (source : Text) (n : Nat) :
    let rest := (after next (ofText source) n).rest
    let pieces := runSegments (rest.takeWhile isWord) (rest.dropWhile isWord)
    (∀ i g, pieces[i]? = some g → answer next (ofText source) (n + i) = some (.ok g)) ∧
    (textOf pieces = rest.takeWhile isWord ∨
      textOf pieces = rest.takeWhile isWord ++ "--".toList ∧ "--".toList <+: rest.dropWhile isWord) ∧
    (∀ ps g qs, pieces = ps ++ g :: qs → g.kind = .lexeme .identifier →
      qs = [] ∧ ∀ a ∈ keywords, ¬ a.2.toList <+: g.text) ∧
    ∀ x g, answer next (ofText source) n = some (.ok ⟨.lexeme .identifier, x⟩) →
      answer next (ofText source) (n + 1) = some (.ok g) → ∀ c ∈ g.text.head?, isWord c = false := by
  intro rest pieces
  refine ⟨?_, textOf_runSegments _ _, ?_, ?_⟩
  · intro i g hi
    exact answer_run (wordRun_takeWhile rest) hi
  · intro ps g qs hsplit hg
    obtain ⟨hqs, hno⟩ := runSegments_identifier hsplit hg
    exact ⟨hqs, keyword?_eq_none_iff.1 hno⟩
  · intro x g hx hg
    exact not_isWord_after_identifier hx hg

example : runSegments "endgraphx".toList "-->".toList = [⟨.lexeme .subgraphClose, "end".toList⟩,
    ⟨.lexeme .flowchartDeclaration, "graph".toList⟩, ⟨.lexeme .link, "x--".toList⟩] := by decide +kernel

end Cursor

end FlowchartLexer
