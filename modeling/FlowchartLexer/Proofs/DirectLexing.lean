/-
What stands at the start of a text, said without rules and their order.

`Segment.direct` describes the leading segment directly: blanks, front matter, what `%%` opens, the longest of the
fixed spellings, a string, an identifier. The rule table is a list of priorities, and inside a rule the alternatives are
one too.

- `rules_eq`: the table is four rules for trivia, the rules with fixed spellings, and two more.
- `find?_eq_argmax`: in a list where no entry begins a later one, the first match is the longest.
- `findSome?_spelledRules`: so the rules with fixed spellings together take the longest spelling.
- `segment?_configurationRule`, `segment?_commentRule`, `segment?_stringRule`: the other rules one by one.
- **The table is the direct description** (`Segment.leading_eq_direct`, `Segment.table_is_direct_description`).
-/
import Mathlib.Data.List.MinMax
import FlowchartLexer.Proofs.FrontMatterGuard
import FlowchartLexer.Proofs.PreferredMatch

namespace FlowchartLexer

/-! ## The direct description -/

/-- the fixed spellings and what they are -/
def fixedSpellings : List (Lexeme × String) :=
  [(.flowchartDeclaration, "flowchart"), (.flowchartDeclaration, "graph"),
    (.direction, "TB"), (.direction, "TD"), (.direction, "BT"), (.direction, "RL"), (.direction, "LR"),
    (.subgraphOpen, "subgraph"), (.subgraphClose, "end"),
    (.link, "<-->"), (.link, "-.->"), (.link, "==>"), (.link, "---"), (.link, "-->"), (.link, "~~~"), (.link, "o--"),
    (.link, "--o"), (.link, "x--"), (.link, "--x"), (.link, ".->"), (.link, "--"),
    (.cylinderOpen, "[("), (.cylinderClose, ")]"), (.circleOpen, "(("), (.circleClose, "))"),
    (.roundOpen, "("), (.roundClose, ")"), (.squareOpen, "["), (.squareClose, "]"), (.asymmetricOpen, ">"),
    (.rhombusOpen, "\x7b"), (.rhombusClose, "\x7d"), (.semicolon, ";"), (.ampersand, "&"), (.pipe, "|")]

/-- the longest fixed spelling that a text begins with -/
def longestSpelling? (t : Text) : Option (Lexeme × String) :=
  (fixedSpellings.filter fun a => a.2.toList <+: t).argmax fun a => a.2.toList.length

/-- a text up to its first line terminator -/
def firstLine (t : Text) : Text :=
  t.takeWhile fun c => !isLineTerminator c

/-- what `%%` opens: a directive, if it opens with a brace that is closed on the line, and else a comment -/
def directiveOrComment (t : Text) : Segment :=
  match if "%%\x7b".toList <+: t then firstOccurrence? "\x7d%%".toList ((firstLine t).drop 3) else none with
  | some n => ⟨.trivia .configuration, t.take (3 + n + 3)⟩
  | none => ⟨.trivia .comment, firstLine t⟩

/-- the segment at the start of a text -/
def Segment.direct : Text → Except UnexpectedChar (Option Segment)
  | [] => .ok none
  | c :: t =>
    if isBlank c then
      .ok (some ⟨.trivia .whitespace, (c :: t).takeWhile isBlank⟩)
    else
      match frontMatterRule.matchLength? (c :: t) with
      | some n => .ok (some ⟨.trivia .frontMatter, (c :: t).take n⟩)
      | none =>
        if "%%".toList <+: c :: t then
          .ok (some (directiveOrComment (c :: t)))
        else
          match longestSpelling? (c :: t) with
          | some (l, s) => .ok (some ⟨.lexeme l, s.toList⟩)
          | none =>
            if c = '"' ∧ '"' ∈ t then
              .ok (some ⟨.lexeme .string, '"' :: (t.takeWhile (· ≠ '"') ++ ['"'])⟩)
            else if isWord c then
              .ok (some ⟨.lexeme .identifier, (c :: t).takeWhile isWord⟩)
            else
              .error ⟨c⟩

/-! ## The table in parts -/

def blankRule : Rule :=
  ⟨.trivia .whitespace, .only [⟨.whitespace, .some⟩]⟩

def configurationRule : Rule :=
  ⟨.trivia .configuration, configurationPattern⟩

def commentRule : Rule :=
  ⟨.trivia .comment, commentPattern⟩

def stringRule : Rule :=
  ⟨.lexeme .string, stringPattern⟩

def identifierRule : Rule :=
  ⟨.lexeme .identifier, .only [⟨.word, .some⟩]⟩

/-- the spellings of each lexeme that has fixed ones, in the order of the table -/
def spellingsByLexeme : List (Lexeme × List String) :=
  [(.flowchartDeclaration, ["flowchart", "graph"]), (.direction, ["TB", "TD", "BT", "RL", "LR"]),
    (.subgraphOpen, ["subgraph"]), (.subgraphClose, ["end"]),
    (.link, ["<-->", "-.->", "==>", "---", "-->", "~~~", "o--", "--o", "x--", "--x", ".->", "--"]),
    (.cylinderOpen, ["[("]), (.cylinderClose, [")]"]), (.circleOpen, ["(("]), (.circleClose, ["))"]),
    (.roundOpen, ["("]), (.roundClose, [")"]), (.squareOpen, ["["]), (.squareClose, ["]"]), (.asymmetricOpen, [">"]),
    (.asymmetricClose, ["]"]), (.rhombusOpen, ["\x7b"]), (.rhombusClose, ["\x7d"]), (.semicolon, [";"]),
    (.ampersand, ["&"]), (.pipe, ["|"])]

def spelledRules : List Rule :=
  spellingsByLexeme.map fun a => ⟨.lexeme a.1, .oneOf a.2⟩

theorem rules_eq : rules = [blankRule, frontMatterRule, configurationRule, commentRule] ++
    (spelledRules ++ [stringRule, identifierRule]) := rfl

/-! ## First match and longest match -/

/-- **First is longest** where no entry begins a later one -/
theorem find?_eq_argmax {l : List (Lexeme × String)} (h : l.Pairwise fun a b => ¬ a.2.toList <+: b.2.toList)
    (t : Text) : l.find? (fun a => a.2.toList <+: t) =
      (l.filter fun a => a.2.toList <+: t).argmax fun a => a.2.toList.length := by
  induction l with
  | nil => rfl
  | cons a l ih =>
    obtain ⟨ha, hl⟩ := List.pairwise_cons.1 h
    rw [List.find?_cons, List.filter_cons]
    by_cases hat : a.2.toList <+: t
    · simp only [hat, decide_true, if_true]
      rw [List.argmax_cons]
      cases hm : (l.filter fun a => a.2.toList <+: t).argmax fun a => a.2.toList.length with
      | none => rfl
      | some b =>
        -- both begin the text, and the first does not begin the other: so it is the longer one
        obtain ⟨hb, hbt⟩ := List.mem_filter.1 (List.argmax_mem hm)
        have hle : ¬ a.2.toList.length < b.2.toList.length := fun hlt =>
          ha b hb (List.prefix_of_prefix_length_le hat (of_decide_eq_true hbt) (Nat.le_of_lt hlt))
        exact (if_neg hle).symm
    · simp only [hat, decide_false, Bool.false_eq_true, if_false]
      exact ih hl

/-- an entry with the spelling of an earlier one is never found -/
theorem find?_shadowed {α : Type} {p : α → Bool} {l r : List α} {a b : α} (hb : b ∈ l) (hab : p a = p b) :
    (l ++ a :: r).find? p = (l ++ r).find? p := by
  rw [List.find?_append, List.find?_append, List.find?_cons]
  cases hp : p a with
  | false => rfl
  | true =>
    have hs : (l.find? p).isSome := List.find?_isSome.2 ⟨b, hb, hab ▸ hp⟩
    obtain ⟨x, hx⟩ := Option.isSome_iff_exists.1 hs
    simp [hx]

theorem pairwise_fixedSpellings : fixedSpellings.Pairwise fun a b => ¬ a.2.toList <+: b.2.toList := by
  decide +kernel

/-! ## The rules with fixed spellings -/

/-- the rules of some lexemes together take the first spelling that fits -/
theorem findSome?_oneOf {ls : List (Lexeme × List String)} (h0 : ∀ a ∈ ls, ∀ s ∈ a.2, s.toList ≠ []) (t : Text) :
    (ls.map fun a => (⟨.lexeme a.1, .oneOf a.2⟩ : Rule)).findSome? (·.segment? t) =
      ((ls.flatMap fun a => a.2.map fun s => (a.1, s)).find? fun a => a.2.toList <+: t).map
        fun a => ⟨.lexeme a.1, a.2.toList⟩ := by
  induction ls with
  | nil => rfl
  | cons a ls ih =>
    obtain ⟨ha, hls⟩ := List.forall_mem_cons.1 h0
    rw [List.map_cons, List.findSome?_cons, segment?_oneOf _ ha, List.flatMap_cons, List.find?_append, List.find?_map]
    have hcomp : ((fun b : Lexeme × String => decide (b.2.toList <+: t)) ∘ fun s => (a.1, s)) =
        fun s => decide (s.toList <+: t) := rfl
    rw [hcomp]
    cases a.2.find? fun s => decide (s.toList <+: t) with
    | none => exact ih hls
    | some s => rfl

/-- **The longest spelling**: what the rules with fixed spellings take together -/
theorem findSome?_spelledRules (t : Text) :
    spelledRules.findSome? (·.segment? t) = (longestSpelling? t).map fun a => ⟨.lexeme a.1, a.2.toList⟩ := by
  rw [spelledRules, findSome?_oneOf (by decide +kernel), longestSpelling?, ← find?_eq_argmax pairwise_fixedSpellings]
  -- the table has one entry more, and it is shadowed
  obtain ⟨l, r, h1, h2, hl⟩ : ∃ l r, fixedSpellings = l ++ r ∧
      (spellingsByLexeme.flatMap fun a => a.2.map fun s => (a.1, s)) = l ++ (.asymmetricClose, "]") :: r ∧
      (.squareClose, "]") ∈ l := by
    refine ⟨fixedSpellings.take 30, fixedSpellings.drop 30, rfl, rfl, ?_⟩
    decide +kernel
  rw [h1, h2]
  exact congrArg _ (find?_shadowed hl rfl)

/-! ## The other rules -/

theorem firstLine_append {s : Text} (hs : s.all fun c => !isLineTerminator c) (u : Text) :
    firstLine (s ++ u) = s ++ firstLine u :=
  List.takeWhile_append_of_pos (List.all_eq_true.1 hs)

theorem segment?_configurationRule (u : Text) :
    configurationRule.segment? ("%%\x7b".toList ++ u) =
      (firstOccurrence? "\x7d%%".toList (firstLine u)).map fun n =>
        ⟨.trivia .configuration, "%%\x7b".toList ++ u.take (n + 3)⟩ := by
  have hr : configurationRule = ⟨.trivia .configuration,
    .only (Sequence.spelling "%%\x7b" ++ (⟨.withinLine, .few⟩ :: Sequence.spelling "\x7d%%"))⟩ := rfl
  have hk : ∀ c ∈ "\x7d%%".toList, CharClass.withinLine.mem c = true := List.all_eq_true.1 (by decide)
  rw [hr, segment?_spelling_append _ (by decide), head?_lengths_few_spelling (by decide) hk, Option.map_map]
  rfl

theorem segment?_commentRule (u : Text) :
    commentRule.segment? ("%%".toList ++ u) = some ⟨.trivia .comment, firstLine ("%%".toList ++ u)⟩ := by
  have hr : commentRule = ⟨.trivia .comment, .only (Sequence.spelling "%%" ++ [⟨.withinLine, .many⟩])⟩ := rfl
  have hw : u.take (u.takeWhile CharClass.withinLine.mem).length = firstLine u :=
    (List.prefix_iff_eq_take.1 (List.takeWhile_prefix _)).symm
  rw [hr, segment?_spelling_append _ (by decide), head?_lengths_many, Option.map_some, hw, firstLine_append (by decide)]

/-- **What `%%` opens** is a directive or a comment. -/
theorem segment?_percent {t : Text} (ht : "%%".toList <+: t) :
    (configurationRule.segment? t).or (commentRule.segment? t) = some (directiveOrComment t) := by
  obtain ⟨u, rfl⟩ := ht
  rw [segment?_commentRule]
  unfold directiveOrComment
  by_cases hb : "%%\x7b".toList <+: "%%".toList ++ u
  · rw [if_pos hb]
    obtain ⟨v, hv⟩ := hb
    have hl : (firstLine ("%%\x7b".toList ++ v)).drop 3 = firstLine v := by
      rw [firstLine_append (by decide)]
      rfl
    rw [← hv, segment?_configurationRule, hl]
    cases firstOccurrence? "\x7d%%".toList (firstLine v) with
    | none => rfl
    | some n =>
      have htake : ("%%\x7b".toList ++ v).take (3 + n + 3) = "%%\x7b".toList ++ v.take (n + 3) := by
        rw [Nat.add_assoc]
        exact @List.take_length_add_append _ "%%\x7b".toList v (n + 3)
      simp only [Option.map_some, Option.some_or, htake]
  · rw [if_neg hb, configurationRule, configurationPattern, List.append_assoc,
      segment?_spelling_append_eq_none _ _ hb, Option.none_or]

theorem segment?_not_percent {t : Text} (ht : ¬ "%%".toList <+: t) :
    (configurationRule.segment? t).or (commentRule.segment? t) = none := by
  have hb : ¬ "%%\x7b".toList <+: t := fun h => ht (List.IsPrefix.trans ⟨['\x7b'], rfl⟩ h)
  rw [configurationRule, configurationPattern, List.append_assoc, segment?_spelling_append_eq_none _ _ hb,
    commentRule, commentPattern, segment?_spelling_append_eq_none _ _ ht]
  rfl

theorem take_through {a : Char} {t : Text} (ha : a ∈ t) :
    t.take ((t.takeWhile (· ≠ a)).length + 1) = t.takeWhile (· ≠ a) ++ [a] := by
  induction t with
  | nil => cases ha
  | cons c t ih =>
    by_cases hc : c = a
    · simp [hc]
    · have ht : a ∈ t := (List.mem_cons.1 ha).resolve_left (Ne.symm hc)
      have hw : (c :: t).takeWhile (· ≠ a) = c :: t.takeWhile (· ≠ a) :=
        List.takeWhile_cons_of_pos (decide_eq_true hc)
      rw [hw, List.length_cons, List.take_succ_cons, ih ht, List.cons_append]

/-- a string ends with the second quote -/
theorem segment?_stringRule (c : Char) (t : Text) :
    stringRule.segment? (c :: t) =
      if c = '"' ∧ '"' ∈ t then some ⟨.lexeme .string, '"' :: (t.takeWhile (· ≠ '"') ++ ['"'])⟩ else none := by
  have hr : stringRule = ⟨.lexeme .string,
    .only (Sequence.spelling "\"" ++ [⟨.unquoted, .many⟩, ⟨.literal '"', .once⟩])⟩ := rfl
  rw [hr]
  by_cases hc : c = '"'
  · subst hc
    have hk : ∀ d, CharClass.unquoted.mem d = true ↔ d ≠ '"' := fun d => decide_eq_true_iff
    have h := segment?_spelling_append (.lexeme .string) (s := "\"") (by decide)
      [⟨.unquoted, .many⟩, ⟨.literal '"', .once⟩] t
    rw [head?_lengths_many_literal hk] at h
    refine h.trans ?_
    by_cases ht : '"' ∈ t
    · rw [if_pos ht, if_pos ⟨rfl, ht⟩, Option.map_some]
      exact congrArg (fun u => some (Segment.mk _ ('"' :: u))) (take_through ht)
    · rw [if_neg ht, if_neg fun h => ht h.2]
      rfl
  · rw [segment?_spelling_append_eq_none, if_neg fun h => hc h.1]
    intro h
    exact hc (List.cons_prefix_cons.1 h).1.symm

/-! ## The table is the direct description -/

theorem findSome?_cons_or {α β : Type} (f : α → Option β) (a : α) (l : List α) :
    (a :: l).findSome? f = (f a).or (l.findSome? f) := by
  rw [List.findSome?_cons]
  cases f a <;> rfl

theorem findSome?_rules (t : Text) :
    rules.findSome? (·.segment? t) =
      (blankRule.segment? t).or ((frontMatterRule.segment? t).or
        (((configurationRule.segment? t).or (commentRule.segment? t)).or
          (((longestSpelling? t).map fun a => ⟨.lexeme a.1, a.2.toList⟩).or
            ((stringRule.segment? t).or (identifierRule.segment? t))))) := by
  rw [rules_eq, List.findSome?_append, List.findSome?_append, findSome?_spelledRules]
  simp only [findSome?_cons_or, List.findSome?_nil, Option.or_none, Option.or_assoc]

theorem Segment.leading_eq_direct (t : Text) : Segment.leading true t = Segment.direct t := by
  cases t with
  | nil => rfl
  | cons c t =>
    have hblank : blankRule.segment? (c :: t) =
        if isBlank c then some ⟨.trivia .whitespace, (c :: t).takeWhile isBlank⟩ else none := segment?_run _ _ c t
    have hident : identifierRule.segment? (c :: t) =
        if isWord c then some ⟨.lexeme .identifier, (c :: t).takeWhile isWord⟩ else none := segment?_run _ _ c t
    rw [Segment.leading, if_pos rfl, Segment.leadingBy, findSome?_rules, hblank, hident, segment?_stringRule]
    rw [Segment.direct]
    by_cases hb : isBlank c
    · rw [if_pos hb, if_pos hb]
      rfl
    rw [if_neg hb, if_neg hb, Option.none_or, Rule.segment?]
    cases frontMatterRule.matchLength? (c :: t) with
    | some n => rfl
    | none =>
      rw [Option.map_none, Option.none_or]
      by_cases hp : "%%".toList <+: c :: t
      · rw [segment?_percent hp]
        simp only [if_pos hp]
        rfl
      rw [segment?_not_percent hp, Option.none_or]
      simp only [if_neg hp]
      cases longestSpelling? (c :: t) with
      | some a => rfl
      | none =>
        rw [Option.map_none, Option.none_or]
        by_cases hq : c = '"' ∧ '"' ∈ t
        · simp only [if_pos hq]
          rfl
        · simp only [if_neg hq, Option.none_or]
          by_cases hw : isWord c
          · simp only [if_pos hw]
          · simp only [if_neg hw]

/-- **The table is the direct description.** The first rule that matches a non-empty text, of all the rules in their
order, takes the segment that `Segment.direct` describes, and no rule matches where it describes none. The segment is
what the text holds up to its size in bytes, which is not zero and falls between two characters. -/
theorem Segment.table_is_direct_description (c : Char) (t : Text) :
    Segment.leading true (c :: t) = Segment.direct (c :: t) ∧
    ∀ g, Segment.direct (c :: t) = .ok (some g) →
      0 < byteSize g.text ∧ IsCharBoundary (c :: t) (byteSize g.text) ∧
        takeBytes (byteSize g.text) (c :: t) = g.text := by
  refine ⟨Segment.leading_eq_direct (c :: t), fun g hg => ?_⟩
  rw [← Segment.leading_eq_direct] at hg
  rw [← Segment.leading_text_append hg]
  exact ⟨byteSize_pos (Segment.leading_text_ne_nil hg), isCharBoundary_append _ _, takeBytes_byteSize_append _ _⟩

example : Segment.direct "--xy".toList = .ok (some ⟨.lexeme .link, "--x".toList⟩) := by decide +kernel

end FlowchartLexer
