/-
The texts that a pattern describes, without regard to which of its matches it prefers.

`Sequence.Matches s u` says that the whole of `u` has the form `s`.
- `mem_lengths_iff`: the lengths of a sequence on a text are the lengths of the beginnings of the text that have its
  form. So a match never goes beyond the text, whatever the repetitions are.
- `matches_append`, `matches_spelling`: the form of sequences put together and of a fixed spelling.
- `Rule.matchLength?_eq_some`: what a rule takes is a non-empty beginning that has the form of an alternative.
- `Rule.isCharBoundary_matchSize`: in bytes it ends between two characters.
-/
import Mathlib.Tactic
import FlowchartLexer.Proofs.ByteSlice
import FlowchartLexer.Segment.Rule

namespace FlowchartLexer

/-! ## Forms -/

/-- the whole text is what the piece stands for -/
def Piece.Matches (p : Piece) (u : Text) : Prop :=
  match p.repetition with
  | .once => ∃ c, u = [c] ∧ p.charClass.mem c
  | .many => ∀ c ∈ u, p.charClass.mem c
  | .some => u ≠ [] ∧ ∀ c ∈ u, p.charClass.mem c
  | .few => ∀ c ∈ u, p.charClass.mem c

/-- the whole text is made of what the pieces stand for, one after the other -/
def Sequence.Matches : Sequence → Text → Prop
  | [], u => u = []
  | p :: ps, u => ∃ v w, u = v ++ w ∧ p.Matches v ∧ Sequence.Matches ps w

theorem matches_append {s r : Sequence} {u : Text} :
    Sequence.Matches (s ++ r) u ↔ ∃ v w, u = v ++ w ∧ s.Matches v ∧ r.Matches w := by
  induction s generalizing u with
  | nil =>
    constructor
    · intro h
      exact ⟨[], u, rfl, rfl, h⟩
    · rintro ⟨v, w, rfl, rfl, h⟩
      exact h
  | cons p s ih =>
    constructor
    · rintro ⟨v, w, rfl, hp, hw⟩
      obtain ⟨x, y, rfl, hs, hr⟩ := ih.1 hw
      exact ⟨v ++ x, y, (List.append_assoc v x y).symm, ⟨v, x, rfl, hp, hs⟩, hr⟩
    · rintro ⟨_, w, rfl, ⟨v, x, rfl, hp, hs⟩, hr⟩
      exact ⟨v, x ++ w, List.append_assoc v x w, hp, ih.2 ⟨x, w, rfl, hs, hr⟩⟩

theorem matches_once {k : CharClass} {s : Sequence} {u : Text} :
    Sequence.Matches (⟨k, .once⟩ :: s) u ↔ ∃ c v, u = c :: v ∧ k.mem c ∧ s.Matches v := by
  constructor
  · rintro ⟨_, w, rfl, ⟨c, rfl, hc⟩, hw⟩
    exact ⟨c, w, rfl, hc, hw⟩
  · rintro ⟨c, v, rfl, hc, hv⟩
    exact ⟨[c], v, rfl, ⟨c, rfl, hc⟩, hv⟩

/-- at least one is one and any number more -/
theorem matches_some {k : CharClass} {s : Sequence} {u : Text} :
    Sequence.Matches (⟨k, .some⟩ :: s) u ↔ Sequence.Matches (⟨k, .once⟩ :: ⟨k, .many⟩ :: s) u := by
  rw [matches_once]
  constructor
  · rintro ⟨v, w, rfl, ⟨hv0, hv⟩, hw⟩
    obtain ⟨c, v, rfl⟩ := List.exists_cons_of_ne_nil hv0
    exact ⟨c, v ++ w, rfl, hv c List.mem_cons_self, v, w, rfl, fun x hx => hv x (List.mem_cons_of_mem c hx), hw⟩
  · rintro ⟨c, _, rfl, hc, v, w, rfl, hv, hw⟩
    exact ⟨c :: v, w, rfl, ⟨List.cons_ne_nil c v, List.forall_mem_cons.2 ⟨hc, hv⟩⟩, hw⟩

theorem matches_spelling {s : String} {u : Text} : (Sequence.spelling s).Matches u ↔ u = s.toList := by
  unfold Sequence.spelling
  induction s.toList generalizing u with
  | nil => exact Iff.rfl
  | cons a cs ih =>
    refine matches_once.trans ⟨?_, ?_⟩
    · rintro ⟨c, v, rfl, hc, hv⟩
      have hac : a = c := of_decide_eq_true hc
      rw [ih.1 hv, hac]
    · rintro rfl
      exact ⟨a, cs, rfl, decide_eq_true rfl, ih.2 rfl⟩

/-! ## Lengths of matches -/

/-- the matcher finds the lengths of the beginnings that have a form -/
def Matcher.Finds (m : Matcher) (L : Text → Prop) : Prop :=
  ∀ t n, n ∈ m t ↔ ∃ u v, t = u ++ v ∧ u.length = n ∧ L u

theorem Matcher.Finds.congr {m : Matcher} {L K : Text → Prop} (h : m.Finds L) (hL : ∀ u, K u ↔ L u) : m.Finds K := by
  intro t n
  simp only [h t n, hL]

section Repetitions

variable {k : CharClass} {next : Matcher} {L : Text → Prop}

theorem Matcher.Finds.once (h : next.Finds L) :
    (Matcher.once k next).Finds fun u => ∃ c v, u = c :: v ∧ k.mem c ∧ L v := by
  intro t n
  cases t with
  | nil => simp [Matcher.once]
  | cons c t =>
    simp only [Matcher.once]
    constructor
    · intro hn
      split_ifs at hn with hc
      · obtain ⟨m, hm, rfl⟩ := List.mem_map.1 hn
        obtain ⟨u, v, rfl, rfl, hu⟩ := (h t m).1 hm
        exact ⟨c :: u, v, rfl, rfl, c, u, rfl, hc, hu⟩
      · cases hn
    · rintro ⟨_, v, ht, rfl, _, u, rfl, hc, hu⟩
      obtain ⟨rfl, rfl⟩ := List.cons.inj ht
      rw [if_pos hc]
      exact List.mem_map.2 ⟨u.length, (h _ _).2 ⟨u, v, rfl, rfl, hu⟩, rfl⟩

/-- a run of the class and then something of the other form -/
def Runs (k : CharClass) (L : Text → Prop) (u : Text) : Prop :=
  ∃ v w, u = v ++ w ∧ (∀ c ∈ v, k.mem c) ∧ L w

theorem runs_cons {c : Char} {u : Text} : Runs k L (c :: u) ↔ k.mem c = true ∧ Runs k L u ∨ L (c :: u) := by
  constructor
  · rintro ⟨v, w, hu, hv, hw⟩
    cases v with
    | nil =>
      rw [List.nil_append] at hu
      exact Or.inr (hu ▸ hw)
    | cons d v =>
      obtain ⟨rfl, rfl⟩ := List.cons.inj hu
      exact Or.inl ⟨hv c List.mem_cons_self, v, w, rfl, fun x hx => hv x (List.mem_cons_of_mem c hx), hw⟩
  · rintro (⟨hc, v, w, rfl, hv, hw⟩ | h)
    · exact ⟨c :: v, w, rfl, List.forall_mem_cons.2 ⟨hc, hv⟩, hw⟩
    · exact ⟨[], c :: u, rfl, List.forall_mem_nil _, h⟩

/-- one more character of the run, or none: the greedy and the lazy repetition differ in the order only -/
theorem finds_runs_step {m : Matcher} (h : next.Finds L) (h0 : m [] = next [])
    (h1 : ∀ c t n, n ∈ m (c :: t) ↔ n ∈ next (c :: t) ∨ k.mem c = true ∧ n ∈ (m t).map (· + 1)) :
    m.Finds (Runs k L) := by
  intro t
  induction t with
  | nil =>
    intro n
    rw [h0, h]
    constructor
    · rintro ⟨u, v, ht, hn, hu⟩
      exact ⟨u, v, ht, hn, [], u, rfl, List.forall_mem_nil _, hu⟩
    · rintro ⟨u, v, ht, hn, x, w, rfl, -, hw⟩
      obtain ⟨hu, rfl⟩ := List.append_eq_nil_iff.1 ht.symm
      obtain ⟨rfl, rfl⟩ := List.append_eq_nil_iff.1 hu
      exact ⟨[], [], rfl, hn, hw⟩
  | cons c t ih =>
    intro n
    rw [h1, h]
    constructor
    · rintro (⟨u, v, ht, hn, hu⟩ | ⟨hc, hn⟩)
      · exact ⟨u, v, ht, hn, [], u, rfl, List.forall_mem_nil _, hu⟩
      · obtain ⟨i, hi, rfl⟩ := List.mem_map.1 hn
        obtain ⟨u, v, rfl, rfl, hu⟩ := (ih i).1 hi
        exact ⟨c :: u, v, rfl, rfl, runs_cons.2 (Or.inl ⟨hc, hu⟩)⟩
    · rintro ⟨u, v, ht, rfl, hu⟩
      cases u with
      | nil =>
        obtain ⟨x, w, hxw, -, hw⟩ := hu
        obtain ⟨rfl, rfl⟩ := List.append_eq_nil_iff.1 hxw.symm
        exact Or.inl ⟨[], v, ht, rfl, hw⟩
      | cons d u =>
        obtain ⟨rfl, rfl⟩ := List.cons.inj ht
        rcases runs_cons.1 hu with ⟨hc, hu⟩ | hu
        · exact Or.inr ⟨hc, List.mem_map.2 ⟨u.length, (ih _).2 ⟨u, v, rfl, rfl, hu⟩, rfl⟩⟩
        · exact Or.inl ⟨c :: u, v, rfl, rfl, hu⟩

theorem Matcher.Finds.many (h : next.Finds L) : (Matcher.many k next).Finds (Runs k L) := by
  refine finds_runs_step h rfl fun c t n => ?_
  rw [Matcher.many, List.mem_append, or_comm]
  split_ifs with hc <;> simp [hc]

theorem Matcher.Finds.few (h : next.Finds L) : (Matcher.few k next).Finds (Runs k L) := by
  refine finds_runs_step h rfl fun c t n => ?_
  rw [Matcher.few, List.mem_append]
  split_ifs with hc <;> simp [hc]

end Repetitions

theorem Sequence.finds (s : Sequence) : Matcher.Finds s.lengths s.Matches := by
  induction s with
  | nil =>
    intro t n
    constructor
    · intro hn
      obtain rfl : n = 0 := List.mem_singleton.1 hn
      exact ⟨[], t, rfl, rfl, rfl⟩
    · rintro ⟨_, v, rfl, rfl, rfl⟩
      exact List.mem_singleton.2 rfl
  | cons p s ih =>
    obtain ⟨k, r⟩ := p
    cases r with
    | once => exact ih.once.congr fun u => matches_once
    | many => exact ih.many
    | some => exact ih.many.once.congr fun u => matches_some.trans matches_once
    | few => exact ih.few

/-- **Lengths are those of beginnings of the form.** -/
theorem mem_lengths_iff {s : Sequence} {t : Text} {n : Nat} :
    n ∈ s.lengths t ↔ ∃ u v, t = u ++ v ∧ u.length = n ∧ s.Matches u :=
  s.finds t n

/-! ## Rules -/

theorem Rule.matchLength?_eq_some {r : Rule} {t : Text} {n : Nat} (h : r.matchLength? t = some n) :
    0 < n ∧ ∃ u v, t = u ++ v ∧ u.length = n ∧ ∃ s ∈ r.pattern.alternatives, s.Matches u := by
  obtain ⟨hp, hn⟩ := Option.filter_eq_some_iff.1 h
  rw [Pattern.matchLength?_eq_preferred?] at hp
  obtain ⟨s, hs, hm⟩ := List.mem_flatMap.1 (List.mem_of_head? hp)
  obtain ⟨u, v, ht, hu, hsu⟩ := mem_lengths_iff.1 hm
  exact ⟨of_decide_eq_true hn, u, v, ht, hu, s, hs, hsu⟩

/-- **A match ends between two characters**, whatever the rule, and it is not empty. -/
theorem Rule.isCharBoundary_matchSize {r : Rule} {t : Text} {m : Nat} (h : r.matchSize? t = some m) :
    0 < m ∧ IsCharBoundary t m := by
  obtain ⟨n, hn, rfl⟩ := Option.map_eq_some_iff.1 h
  obtain ⟨hpos, u, v, rfl, rfl, -⟩ := Rule.matchLength?_eq_some hn
  rw [List.take_left]
  exact ⟨byteSize_pos (List.ne_nil_of_length_pos hpos), isCharBoundary_append u v⟩

end FlowchartLexer
