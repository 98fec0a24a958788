/-
What a cursor does over any number of calls.

Invariant (`Cursor.At`): the cursor stands behind a beginning of the source. The beginning and the rest make up the
source, the offset is the size of the beginning, and the last place where front matter closes is that of the source.
`Cursor.next_cases` lists all that a call can do, and everything else follows from it.

- `Cursor.At.next`: a call moves the cursor past the text of the segment it gives, if it gives one.
- `Cursor.at_after`: so after any number of calls the cursor stands behind the texts given so far.
- `Cursor.fused`: a call without an answer changes nothing.
- `Cursor.answer_succ_eq_none`: after a failure, and at the end, no call has an answer.
- **Nothing is lost** (`Cursor.reading_loses_nothing`): texts, offset, progress and the end of reading, in every state
  that can be reached.
-/
import FlowchartLexer.Proofs.Calls
import FlowchartLexer.Proofs.PatternLanguage
import FlowchartLexer.Segment.Cursor

namespace FlowchartLexer

open Calls

/-- the segments among the items of a cursor -/
def segmentsOf (items : List (Except UnexpectedChar Segment)) : List Segment :=
  items.filterMap Except.toOption

/-- the texts of segments, one after the other -/
def textOf (gs : List Segment) : Text :=
  gs.flatMap (·.text)

@[simp] theorem segmentsOf_nil : segmentsOf [] = [] := rfl

@[simp] theorem segmentsOf_ok (g : Segment) (is : List (Except UnexpectedChar Segment)) :
    segmentsOf (.ok g :: is) = g :: segmentsOf is := rfl

@[simp] theorem segmentsOf_error (e : UnexpectedChar) (is : List (Except UnexpectedChar Segment)) :
    segmentsOf (.error e :: is) = segmentsOf is := rfl

@[simp] theorem textOf_nil : textOf [] = [] := rfl

@[simp] theorem textOf_cons (g : Segment) (gs : List Segment) : textOf (g :: gs) = g.text ++ textOf gs := rfl

theorem segmentsOf_append (is js : List (Except UnexpectedChar Segment)) :
    segmentsOf (is ++ js) = segmentsOf is ++ segmentsOf js :=
  List.filterMap_append

theorem textOf_append (gs hs : List Segment) : textOf (gs ++ hs) = textOf gs ++ textOf hs :=
  List.flatMap_append

theorem mem_segmentsOf {g : Segment} {is : List (Except UnexpectedChar Segment)} : g ∈ segmentsOf is ↔ .ok g ∈ is := by
  constructor
  · intro h
    obtain ⟨i, hi, hg⟩ := List.mem_filterMap.1 h
    cases i with
    | error e => cases hg
    | ok k => cases hg; exact hi
  · intro h
    exact List.mem_filterMap.2 ⟨.ok g, h, rfl⟩

/-! ## Leading segments -/

theorem Segment.leading_eq_none {f : Bool} {t : Text} (h : Segment.leading f t = .ok none) : t = [] := by
  cases t with
  | nil => rfl
  | cons c t =>
    rw [Segment.leading, Segment.leadingBy] at h
    split at h <;> cases h

theorem Segment.leading_eq_error {f : Bool} {t : Text} {e : UnexpectedChar} (h : Segment.leading f t = .error e) :
    ∃ u, t = e.character :: u := by
  cases t with
  | nil => cases h
  | cons c t =>
    rw [Segment.leading, Segment.leadingBy] at h
    split at h
    · cases h
    · cases h; exact ⟨t, rfl⟩

namespace Cursor

/-! ## One call -/

/-- **All that a call can do**: nothing, at the end or after a failure; pass a segment; or fail and stay. -/
theorem next_cases (c : Cursor) :
    (c.failed = true ∨ c.rest = []) ∧ c.next = (none, c) ∨
    (∃ g, c.failed = false ∧ Segment.leading c.mayOpenFrontMatter c.rest = .ok (some g) ∧
      c.next = (some (.ok g), c.skip g)) ∨
    ∃ e t, c.failed = false ∧ Segment.leading c.mayOpenFrontMatter c.rest = .error e ∧ c.rest = e.character :: t ∧
      c.next = (some (.error e), { c with failed := true }) := by
  cases hf : c.failed with
  | true => exact Or.inl ⟨Or.inl rfl, by rw [next, if_pos hf]⟩
  | false =>
    rcases hl : Segment.leading c.mayOpenFrontMatter c.rest with e | _ | g
    · obtain ⟨t, ht⟩ := Segment.leading_eq_error hl
      exact Or.inr (Or.inr ⟨e, t, rfl, rfl, ht, by simp only [next, hf, hl]; rfl⟩)
    · exact Or.inl ⟨Or.inr (Segment.leading_eq_none hl), by simp only [next, hf, hl]; rfl⟩
    · exact Or.inr (Or.inl ⟨g, rfl, rfl, by simp only [next, hf, hl]; rfl⟩)

variable {source passed : Text} {c d : Cursor}

theorem next_ok {g : Segment} (h : c.next = (some (.ok g), d)) :
    c.failed = false ∧ Segment.leading c.mayOpenFrontMatter c.rest = .ok (some g) ∧ d = c.skip g := by
  rcases c.next_cases with ⟨-, hn⟩ | ⟨k, hf, hk, hn⟩ | ⟨e, t, -, -, -, hn⟩
  · rw [hn] at h; cases h
  · rw [hn] at h; cases h; exact ⟨hf, hk, rfl⟩
  · rw [hn] at h; cases h

theorem next_error {e : UnexpectedChar} (h : c.next = (some (.error e), d)) :
    (∃ t, c.rest = e.character :: t) ∧ d = { c with failed := true } := by
  rcases c.next_cases with ⟨-, hn⟩ | ⟨g, -, -, hn⟩ | ⟨_, t, -, -, ht, hn⟩
  · rw [hn] at h; cases h
  · rw [hn] at h; cases h
  · rw [hn] at h; cases h; exact ⟨⟨t, ht⟩, rfl⟩

theorem next_none (h : c.next = (none, d)) : (c.failed = true ∨ c.rest = []) ∧ d = c := by
  rcases c.next_cases with ⟨hs, hn⟩ | ⟨g, -, -, hn⟩ | ⟨e, t, -, -, -, hn⟩
  · rw [hn] at h; cases h; exact ⟨hs, rfl⟩
  · rw [hn] at h; cases h
  · rw [hn] at h; cases h

theorem next_of_leading {g : Segment} (hf : c.failed = false)
    (hg : Segment.leading c.mayOpenFrontMatter c.rest = .ok (some g)) : c.next = (some (.ok g), c.skip g) := by
  simp only [next, hf, hg]
  rfl

/-- without an answer there is no change -/
theorem fused : Fused next :=
  fun _ h => (next_none (Prod.ext h rfl)).2

theorem text_ne_nil_of_next {g : Segment} (h : c.next.1 = some (.ok g)) : g.text ≠ [] :=
  Segment.leading_text_ne_nil (next_ok (Prod.ext h rfl)).2.1

/-- the cursor stands behind a beginning of the source -/
structure At (source passed : Text) (c : Cursor) : Prop where
  split : passed ++ c.rest = source
  offset : c.offset = byteSize passed
  lastClose : c.lastClose = lastClose? source

theorem at_ofText (source : Text) : At source [] (ofText source) :=
  ⟨rfl, rfl, rfl⟩

theorem At.isCharBoundary (h : At source passed c) : IsCharBoundary source c.offset := by
  rw [h.offset, ← h.split]
  exact isCharBoundary_append passed c.rest

theorem At.dropBytes_offset (h : At source passed c) : dropBytes c.offset source = c.rest := by
  rw [h.offset, ← h.split]
  exact dropBytes_byteSize_append passed c.rest

theorem At.skip (h : At source passed c) {g : Segment} {f : Bool} (hg : Segment.leading f c.rest = .ok (some g)) :
    At source (passed ++ g.text) (c.skip g) := by
  refine ⟨?_, ?_, h.lastClose⟩
  · rw [Cursor.skip, List.append_assoc, Segment.leading_text_append hg, h.split]
  · rw [Cursor.skip, byteSize_append, h.offset]

theorem At.next (h : At source passed c) : At source (passed ++ textOf (segmentsOf c.next.1.toList)) c.next.2 := by
  rcases c.next_cases with ⟨-, hn⟩ | ⟨g, -, hg, hn⟩ | ⟨e, t, -, -, -, hn⟩
  · rw [hn]
    simpa using h
  · rw [hn]
    simpa using h.skip hg
  · rw [hn]
    have hf : At source passed { c with failed := true } := ⟨h.split, h.offset, h.lastClose⟩
    simpa using hf

theorem At.of_next (h : At source passed c) {i : Option (Except UnexpectedChar Segment)}
    (hn : c.next = (i, d)) : At source (passed ++ textOf (segmentsOf i.toList)) d := by
  have hc := h.next
  rw [hn] at hc
  exact hc

/-! ## Any number of calls -/

/-- **Behind the texts given so far.** After any number of calls the cursor stands behind them. -/
theorem at_after (source : Text) (n : Nat) :
    At source (textOf (segmentsOf (answers next (ofText source) n))) (after next (ofText source) n) := by
  induction n with
  | zero => exact at_ofText source
  | succ n ih =>
    rw [answers_succ, segmentsOf_append, textOf_append]
    exact ih.next

theorem not_mem_rest {a : Char} (ha : a ∉ source) (n : Nat) : a ∉ (after next (ofText source) n).rest := by
  intro h
  apply ha
  rw [← (at_after source n).split]
  exact List.mem_append_right _ h

theorem mem_answers {i : Except UnexpectedChar Segment} {n : Nat} (h : i ∈ answers next c n) :
    ∃ k, k < n ∧ answer next c k = some i := by
  obtain ⟨k, hk, hi⟩ := List.mem_filterMap.1 h
  exact ⟨k, List.mem_range.1 hk, hi⟩

/-- items given and the bound on those to come never exceed the bound at the start -/
theorem length_answers_add_remaining_le (c : Cursor) (n : Nat) :
    (answers next c n).length + (after next c n).remaining ≤ c.remaining := by
  induction n with
  | zero => exact Nat.le_of_eq (Nat.zero_add _)
  | succ n ih =>
    rw [answers_succ, List.length_append, answer, after_succ]
    cases hi : (after next c n).next with
    | mk i d =>
      cases i with
      | none =>
        have hd := fused (after next c n) (by rw [hi])
        rw [hi] at hd
        rw [hd]
        exact ih
      | some i =>
        have hlt := remaining_next_lt hi
        simp only [Option.toList_some, List.length_singleton]
        omega

/-- a failure has been given out -/
theorem error_mem_of_failed (source : Text) (n : Nat) (h : (after next (ofText source) n).failed = true) :
    ∃ e, .error e ∈ answers next (ofText source) n := by
  induction n with
  | zero => cases h
  | succ n ih =>
    simp only [answers_succ, List.mem_append]
    rcases (after next (ofText source) n).next_cases with ⟨-, hn⟩ | ⟨g, hf, -, hn⟩ | ⟨e, t, -, -, -, hn⟩
    · rw [after_succ, hn] at h
      obtain ⟨e, he⟩ := ih h
      exact ⟨e, Or.inl he⟩
    · rw [after_succ, hn, skip, hf] at h
      cases h
    · exact ⟨e, Or.inr (by rw [answer, hn]; exact List.mem_singleton.2 rfl)⟩

/-- after a failure, and at the end, there is no answer any more -/
theorem answer_succ_eq_none {n : Nat} (h : ∀ g, answer next c n ≠ some (.ok g)) : answer next c (n + 1) = none := by
  rcases (after next c n).next_cases with ⟨-, hn⟩ | ⟨g, -, -, hn⟩ | ⟨e, t, -, -, -, hn⟩
  · have hn' : answer next c n = none := by rw [answer, hn]
    exact (fused.stays hn' (Nat.le_succ n)).2
  · exact absurd (by rw [answer, hn]) (h g)
  · rw [answer, after_succ, hn, next, if_pos rfl]

/-! ## Nothing is lost -/

/-- **Nothing is lost in any reachable state.** After `n` calls:
- the texts given so far and the rest make up the source, and the offset is the size of these texts. It falls between
  two characters, and so does the end of whatever any rule matches in the rest, so that no cut goes wrong;
- no text is empty, and the items given are at most one more than the source has bytes;
- once a call has given no segment, no later call answers anything or moves the cursor;
- a failure names the first character of the rest and leaves the cursor where it is;
- without a failure, no answer means that the whole source has been read. -/
theorem reading_loses_nothing (source : Text) (n : Nat) :
    let read := answers next (ofText source) n
    let c := after next (ofText source) n
    let d := after next (ofText source) (n + 1)
    let item := answer next (ofText source) n
    (textOf (segmentsOf read) ++ c.rest = source ∧ c.offset = byteSize (textOf (segmentsOf read)) ∧
      IsCharBoundary source c.offset ∧ dropBytes c.offset source = c.rest ∧
      ∀ r ∈ rules, ∀ m, r.matchSize? c.rest = some m → 0 < m ∧ IsCharBoundary c.rest m) ∧
    ((∀ g ∈ segmentsOf read, g.text ≠ []) ∧ read.length ≤ byteSize source + 1) ∧
    ((∀ g, item ≠ some (.ok g)) → ∀ k, n < k → answer next (ofText source) k = none ∧
      (after next (ofText source) k).offset = d.offset ∧ (after next (ofText source) k).rest = d.rest) ∧
    (∀ e, item = some (.error e) → (∃ t, d.rest = e.character :: t) ∧ d.offset = c.offset ∧ d.rest = c.rest) ∧
    (item = none → d = c ∧ ((∀ e, .error e ∉ read) → c.offset = byteSize source)) := by
  intro read c d item
  have hat : At source (textOf (segmentsOf read)) c := at_after source n
  refine ⟨⟨hat.split, hat.offset, hat.isCharBoundary, hat.dropBytes_offset, ?_⟩, ⟨?_, ?_⟩, ?_, ?_, ?_⟩
  · intro r _ m hm
    exact Rule.isCharBoundary_matchSize hm
  · intro g hg
    obtain ⟨k, -, hk⟩ := mem_answers (mem_segmentsOf.1 hg)
    exact text_ne_nil_of_next hk
  · have hle := length_answers_add_remaining_le (ofText source) n
    have hl := length_le_byteSize source
    have hr : (ofText source).remaining = source.length + 1 := rfl
    show (answers next (ofText source) n).length ≤ byteSize source + 1
    omega
  · intro hi k hk
    obtain ⟨hs, hn⟩ := fused.stays (answer_succ_eq_none hi) hk
    exact ⟨hn, congrArg offset hs, congrArg rest hs⟩
  · intro e he
    obtain ⟨ht, hd⟩ := next_error (show c.next = (some (.error e), d) from Prod.ext he rfl)
    rw [hd]
    exact ⟨ht, rfl, rfl⟩
  · intro hi
    obtain ⟨hstop, hd⟩ := next_none (show c.next = (none, d) from Prod.ext hi rfl)
    refine ⟨hd, fun hread => ?_⟩
    rcases hstop with hf | hrest
    · obtain ⟨e, he⟩ := error_mem_of_failed source n hf
      exact absurd he (hread e)
    · rw [hat.offset, ← hat.split, hrest, List.append_nil]

end Cursor

end FlowchartLexer
