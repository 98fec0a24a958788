/-
Matching a pattern in one pass over the text.

The search keeps a list of runs, the preferred ones first. A run is the sequence that is still to be matched. Each
character moves all runs on together; of two equal runs only the preferred one is kept, and a run that is complete
makes all less preferred ones superfluous. So the number of runs is bounded by the size of the pattern, and the text is
read at most once.

**Search agrees with meaning** (`Pattern.matchLength?_eq_preferred?`): the search finds the match that the pattern
prefers.
-/
import FlowchartLexer.Pattern.Basic

namespace FlowchartLexer

/-- what a run does next: it is complete, or it needs a character and goes on with a sequence -/
inductive Move where
  | accept
  | need (k : CharClass) (next : Sequence)
  deriving DecidableEq, Repr

namespace Move

/-- the possible moves of a run, the preferred ones first -/
def ofSequence : Sequence → List Move
  | [] => [.accept]
  | p :: ps =>
    match p.repetition with
    | .once => [.need p.charClass ps]
    | .many => .need p.charClass (p :: ps) :: ofSequence ps
    | .some => [.need p.charClass (⟨p.charClass, .many⟩ :: ps)]
    | .few => ofSequence ps ++ [.need p.charClass (p :: ps)]

/-- where a move leads on a character -/
def on? (c : Char) : Move → Option Sequence
  | .accept => none
  | .need k next => if k.mem c then some next else none

end Move

/-- the elements of a list without those that stand in it before, or among those already seen -/
def firstOccurrences (seen : List Sequence) : List Sequence → List Sequence
  | [] => []
  | s :: ss => if s ∈ seen then firstOccurrences seen ss else s :: firstOccurrences (s :: seen) ss

/-- move all runs on over a text, of which `read` characters have been read and `best` is the match so far -/
def search (runs : List Sequence) (read : Nat) (best : Option Nat) (t : Text) : Option Nat :=
  match t with
  | [] => if .accept ∈ runs.flatMap Move.ofSequence then some read else best
  | c :: t =>
    let moves := runs.flatMap Move.ofSequence
    let best := if .accept ∈ moves then some read else best
    match firstOccurrences [] ((moves.takeWhile (· ≠ .accept)).filterMap (Move.on? c)) with
    | [] => best
    | runs => search runs (read + 1) best t

/-- the length of the match of a pattern at the start of a text -/
def Pattern.matchLength? (p : Pattern) (t : Text) : Option Nat :=
  search p.alternatives 0 none t

/-! ## Search agrees with meaning -/

/-- the lengths that a move leads to -/
def Move.lengths (m : Move) (t : Text) : List Nat :=
  match m, t with
  | .accept, _ => [0]
  | .need _ _, [] => []
  | .need k next, c :: t => if k.mem c then (Sequence.lengths next t).map (· + 1) else []

@[simp] theorem Move.lengths_accept (t : Text) : Move.accept.lengths t = [0] := rfl

@[simp] theorem Move.lengths_need_nil (k : CharClass) (next : Sequence) : (Move.need k next).lengths [] = [] := rfl

@[simp] theorem Move.lengths_need_cons (k : CharClass) (next : Sequence) (c : Char) (t : Text) :
    (Move.need k next).lengths (c :: t) = if k.mem c then (Sequence.lengths next t).map (· + 1) else [] := rfl

theorem lengths_eq_flatMap_moves (s : Sequence) (t : Text) :
    Sequence.lengths s t = (Move.ofSequence s).flatMap fun m => m.lengths t := by
  induction s with
  | nil => rfl
  | cons p ps ih =>
    obtain ⟨k, r⟩ := p
    cases r with
    | once => cases t <;> simp [Sequence.lengths, Piece.matcher, Matcher.once, Move.ofSequence]
    | many => cases t <;> simp [Sequence.lengths, Piece.matcher, Matcher.many, Move.ofSequence, ih]
    | some => cases t <;> simp [Sequence.lengths, Piece.matcher, Matcher.once, Move.ofSequence]
    | few => cases t <;> simp [Sequence.lengths, Piece.matcher, Matcher.few, Move.ofSequence, ih]

/-- the first length among those of several runs -/
def firstLength? (runs : List Sequence) (t : Text) : Option Nat :=
  (runs.flatMap fun s => Sequence.lengths s t).head?

theorem head?_flatMap_firstOccurrences (f : Sequence → List Nat) (ss seen : List Sequence)
    (h : ∀ s ∈ seen, f s = []) : ((firstOccurrences seen ss).flatMap f).head? = (ss.flatMap f).head? := by
  induction ss generalizing seen with
  | nil => rfl
  | cons s ss ih =>
    rw [firstOccurrences]
    split
    · next hs => simp [ih seen h, h s hs]
    · rcases hf : f s with _ | ⟨n, ns⟩
      · have h' : ∀ x ∈ s :: seen, f x = [] := by simpa [hf] using h
        simp [hf, ih _ h']
      · simp [hf]

theorem head?_lengths_moves (moves : List Move) (c : Char) (t : Text) :
    (moves.flatMap fun m => m.lengths (c :: t)).head? =
      ((firstLength? (firstOccurrences [] ((moves.takeWhile (· ≠ .accept)).filterMap (Move.on? c))) t).map
        (· + 1)).or (if .accept ∈ moves then some 0 else none) := by
  rw [firstLength?, head?_flatMap_firstOccurrences _ _ [] (by simp)]
  induction moves with
  | nil => rfl
  | cons m ms ih =>
    cases m with
    | accept => simp
    | need k next =>
      by_cases hk : k.mem c
      · rcases hl : Sequence.lengths next t with _ | ⟨n, ns⟩
        · simpa [Move.on?, hk, hl] using ih
        · simp [Move.on?, hk, hl]
      · simpa [Move.on?, hk] using ih

theorem search_eq (runs : List Sequence) (read : Nat) (best : Option Nat) (t : Text) :
    search runs read best t = ((firstLength? runs t).map (read + ·)).or best := by
  induction t generalizing runs read best with
  | nil =>
    have hm : firstLength? runs [] =
        if .accept ∈ runs.flatMap Move.ofSequence then some 0 else none := by
      rw [firstLength?, funext fun s => lengths_eq_flatMap_moves s [], ← List.flatMap_assoc]
      induction runs.flatMap Move.ofSequence with
      | nil => rfl
      | cons m ms ih => cases m <;> simp_all
    rw [search, hm]
    split <;> simp
  | cons c t ih =>
    have hm := head?_lengths_moves (runs.flatMap Move.ofSequence) c t
    rw [List.flatMap_assoc, ← funext fun s => lengths_eq_flatMap_moves s (c :: t)] at hm
    rw [search, firstLength?, hm]
    generalize hr : firstOccurrences [] _ = next
    cases next with
    | nil => by_cases ha : Move.accept ∈ runs.flatMap Move.ofSequence <;> simp [firstLength?, ha]
    | cons s ss =>
      simp only [ih]
      by_cases ha : Move.accept ∈ runs.flatMap Move.ofSequence <;>
        cases firstLength? (s :: ss) t <;> simp [ha] <;> omega

/-- **Search agrees with meaning.** -/
theorem Pattern.matchLength?_eq_preferred? (p : Pattern) (t : Text) : p.matchLength? t = p.preferred? t := by
  rw [matchLength?, search_eq, preferred?, lengths, firstLength?]
  cases (p.alternatives.flatMap fun s => Sequence.lengths s t).head? <;> simp

end FlowchartLexer
