/-
Tokens do not depend on the layout of a source.

A separator is what may stand between two tokens: blanks, directives, and comments with the line terminator that ends
them. `laidOut` puts tokens and separators one after the other.

- `lexemesOf`: kinds and texts of the lexemes among segments. Separators add none (`separator_sameLexemes`), and tokens
  have those of their segments (`map_word_tokensFrom`).
- `leading_before_separator`, `leading_before_neighbour`: a lexeme is still the leading segment with a separator behind
  it, or with the lexeme that stood behind it before and then anything.
- `laidOut_sameLexemes`: so a new layout has the same lexemes. The induction is on the segments of the old one.
- **Tokens do not depend on layout** (`tokens_do_not_depend_on_layout`).
-/
import FlowchartLexer.Proofs.LexemeExtent
import FlowchartLexer.Proofs.PlacedSegments
import FlowchartLexer.Proofs.Positions

namespace FlowchartLexer

/-! ## Separators -/

/-- the mark that closes a directive -/
def closingMark : Text :=
  "\x7d%%".toList

/-- a piece of a separator -/
inductive IsBlock : Text → Prop
  /-- one blank -/
  | blank {c : Char} (hc : isBlank c = true) : IsBlock [c]
  /-- a directive, on one line and with one closing mark only -/
  | directive {u : Text} (hline : ∀ c ∈ u, isLineTerminator c = false) (hclose : ¬ closingMark <:+: u) :
      IsBlock ("%%\x7b".toList ++ (u ++ closingMark))
  /-- a comment that could not be a directive, and the line terminator that ends it -/
  | comment {u : Text} {c : Char} (hline : ∀ d ∈ u, isLineTerminator d = false)
      (hclose : ¬ (u.head? = some '\x7b' ∧ closingMark <:+: u)) (hc : isLineTerminator c = true) :
      IsBlock ("%%".toList ++ (u ++ [c]))

/-- any number of such pieces -/
def IsSeparator (s : Text) : Prop :=
  ∃ bs : List Text, (∀ b ∈ bs, IsBlock b) ∧ s = bs.flatten

/-! ## Lexemes among segments -/

/-- a token without its position -/
def Token.word (t : Token) : TokenKind × Text :=
  (t.kind, t.text)

/-- kinds and texts of the segments that become tokens -/
def lexemesOf (gs : List Segment) : List (TokenKind × Text) :=
  gs.filterMap fun g => g.kind.tokenKind?.map fun k => (k, g.text)

/-- the same lexemes and the same end -/
structure SameLexemes (s r : Segmentation) : Prop where
  lexemes : lexemesOf s.segments = lexemesOf r.segments
  unexpected : s.unexpected = r.unexpected

theorem SameLexemes.refl (s : Segmentation) : SameLexemes s s :=
  ⟨rfl, rfl⟩

theorem SameLexemes.trans {s r q : Segmentation} (h : SameLexemes s r) (k : SameLexemes r q) : SameLexemes s q :=
  ⟨h.lexemes.trans k.lexemes, h.unexpected.trans k.unexpected⟩

theorem lexemesOf_trivia {g : Segment} {t : Trivia} (hg : g.kind = .trivia t) (gs : List Segment) :
    lexemesOf (g :: gs) = lexemesOf gs := by
  rw [lexemesOf, List.filterMap_cons_none (by rw [hg]; rfl), lexemesOf]

theorem lexemesOf_lexeme {g : Segment} {l : Lexeme} (hg : g.kind = .lexeme l) (gs : List Segment) :
    lexemesOf (g :: gs) = (.lexeme l, g.text) :: lexemesOf gs := by
  rw [lexemesOf, List.filterMap_cons_some (by rw [hg]; rfl), lexemesOf]

/-- tokens have the kinds and texts of their segments -/
theorem map_word_tokensFrom (p : Position) (gs : List Segment) :
    (tokensFrom p gs).map Token.word = lexemesOf gs := by
  induction gs generalizing p with
  | nil => rfl
  | cons g gs ih =>
    cases hg : g.kind with
    | trivia t => rw [tokensFrom_trivia p hg, lexemesOf_trivia hg, ih]
    | lexeme l =>
      rw [tokensFrom_lexeme p hg, lexemesOf_lexeme hg, List.map_cons, ih]
      rfl

/-! ## Separators have no lexemes -/

/-- a trivia segment that leads has no part in the lexemes -/
theorem sameLexemes_of_leading {t x : Text} {k : Trivia} {u : Text}
    (h : Segment.leading true t = .ok (some ⟨.trivia k, x⟩)) (ht : t = x ++ u) :
    SameLexemes (segmentation t) (segmentation u) := by
  have hdrop : t.drop x.length = u := by
    rw [ht]
    exact List.drop_left
  rw [segmentation_of_some h, hdrop]
  exact ⟨lexemesOf_trivia rfl _, rfl⟩

/-- one blank more or less in front makes no difference -/
theorem blank_sameLexemes {c : Char} (hc : isBlank c = true) (t : Text) :
    SameLexemes (segmentation (c :: t)) (segmentation t) := by
  have hrun := sameLexemes_of_leading (Segment.leading_blank hc t) (List.takeWhile_append_dropWhile).symm
  rw [List.dropWhile_cons_of_pos hc] at hrun
  cases t with
  | nil => exact hrun
  | cons d t =>
    cases hd : isBlank d with
    | true =>
      -- the run goes on, and what is left behind it is the same
      have h := sameLexemes_of_leading (Segment.leading_blank hd t) (List.takeWhile_append_dropWhile).symm
      exact hrun.trans ⟨h.lexemes.symm, h.unexpected.symm⟩
    | false =>
      rw [List.dropWhile_cons_of_neg (by simp [hd])] at hrun
      exact hrun

theorem leading_percent (t : Text) :
    Segment.leading true ("%%".toList ++ t) = .ok (some (directiveOrComment ("%%".toList ++ t))) := by
  have hf : frontMatterRule.matchLength? ("%%".toList ++ t) = none :=
    frontMatterRule_of_not_fence fun h => absurd (List.cons_prefix_cons.1 h).1 (by decide)
  have hp : "%%".toList <+: "%%".toList ++ t := List.prefix_append _ t
  rw [Segment.leading_eq_direct]
  show Segment.direct ('%' :: ('%' :: t)) = _
  rw [Segment.direct, if_neg (by decide)]
  have hf : frontMatterRule.matchLength? ('%' :: '%' :: t) = none := hf
  have hp : "%%".toList <+: '%' :: '%' :: t := hp
  simp only [hf, if_pos hp]
  rfl

/-- the closing mark does not overlap itself, so behind other text it is not found any earlier -/
theorem closingMark_prefix_append {u t : Text} (hu : u ≠ []) (h : closingMark <+: u ++ (closingMark ++ t)) :
    closingMark <+: u := by
  have hmark : closingMark = ['\x7d', '%', '%'] := rfl
  rw [hmark] at h ⊢
  match u, hu with
  | [a], _ => simp [List.cons_prefix_cons] at h
  | [a, b], _ => simp [List.cons_prefix_cons] at h
  | a :: b :: c :: u, _ =>
    simp only [List.cons_append, List.cons_prefix_cons] at h ⊢
    exact ⟨h.1, h.2.1, h.2.2.1, List.nil_prefix⟩

theorem firstOccurrence?_closingMark {u : Text} (hu : ¬ closingMark <:+: u) (t : Text) :
    firstOccurrence? closingMark (u ++ (closingMark ++ t)) = some u.length := by
  refine firstOccurrence?_eq_some_iff.2 ⟨⟨?_, ?_⟩, fun m hm hp => hu ?_⟩
  · rw [List.length_append]
    exact Nat.le_add_right _ _
  · rw [List.drop_left]
    exact List.prefix_append _ t
  · rw [List.drop_append_of_le_length (Nat.le_of_lt hm)] at hp
    have hne : u.drop m ≠ [] := List.drop_eq_nil_iff.not.2 (Nat.not_le.2 hm)
    exact (closingMark_prefix_append hne hp).isInfix.trans (List.drop_suffix m u).isInfix

theorem directiveOrComment_directive {u : Text} (hline : ∀ c ∈ u, isLineTerminator c = false)
    (hclose : ¬ closingMark <:+: u) (t : Text) :
    directiveOrComment ("%%\x7b".toList ++ (u ++ closingMark) ++ t) =
      ⟨.trivia .configuration, "%%\x7b".toList ++ (u ++ closingMark)⟩ := by
  have hall : ("%%\x7b".toList ++ (u ++ closingMark)).all (fun c => !isLineTerminator c) = true := by
    have hu : u.all (fun c => !isLineTerminator c) = true :=
      List.all_eq_true.2 fun c hc => by rw [hline c hc]; rfl
    rw [List.all_append, List.all_append, hu]
    decide
  have hfirst : (firstLine ("%%\x7b".toList ++ (u ++ closingMark) ++ t)).drop 3 =
      u ++ (closingMark ++ firstLine t) := by
    rw [firstLine_append hall, List.append_assoc, List.append_assoc]
    rfl
  have hp : "%%\x7b".toList <+: "%%\x7b".toList ++ (u ++ closingMark) ++ t := by
    rw [List.append_assoc]
    exact List.prefix_append _ _
  have hlen : 3 + u.length + 3 = ("%%\x7b".toList ++ (u ++ closingMark)).length := by
    simp only [List.length_append]
    rfl
  unfold directiveOrComment
  rw [if_pos hp, hfirst, show "\x7d%%".toList = closingMark from rfl, firstOccurrence?_closingMark hclose]
  simp only [hlen, List.take_left]

theorem directiveOrComment_comment {u : Text} {c : Char} (hline : ∀ d ∈ u, isLineTerminator d = false)
    (hclose : ¬ (u.head? = some '\x7b' ∧ closingMark <:+: u)) (hc : isLineTerminator c = true) (t : Text) :
    directiveOrComment ("%%".toList ++ u ++ c :: t) = ⟨.trivia .comment, "%%".toList ++ u⟩ := by
  have hall : ("%%".toList ++ u).all (fun d => !isLineTerminator d) = true := by
    have hu : u.all (fun d => !isLineTerminator d) = true :=
      List.all_eq_true.2 fun d hd => by rw [hline d hd]; rfl
    rw [List.all_append, hu]
    decide
  have hfirst : firstLine ("%%".toList ++ u ++ c :: t) = "%%".toList ++ u := by
    have hstop : firstLine (c :: t) = [] := List.takeWhile_cons_of_neg (by simp [hc])
    rw [firstLine_append hall, hstop, List.append_nil]
  unfold directiveOrComment
  rw [hfirst]
  split
  · next n hn =>
    -- there is a brace, and on the same line the closing mark
    exfalso
    split_ifs at hn with hp
    cases u with
    | nil =>
      have hbrace : '\x7b' = c := by simpa [List.cons_prefix_cons] using hp
      rw [← hbrace] at hc
      exact absurd hc (by decide)
    | cons d u =>
      have hbrace : '\x7b' = d := by simpa [List.cons_prefix_cons] using hp
      obtain ⟨⟨-, hmark⟩, -⟩ := firstOccurrence?_eq_some_iff.1 hn
      have hin : closingMark <:+: u := hmark.isInfix.trans (List.drop_suffix n u).isInfix
      exact hclose ⟨by rw [← hbrace]; rfl, hin.trans (List.suffix_cons d u).isInfix⟩
  · rfl

theorem isBlank_of_isLineTerminator {c : Char} (h : isLineTerminator c = true) : isBlank c = true := by
  simp only [isLineTerminator, Bool.or_eq_true, decide_eq_true_eq, or_assoc] at h
  rcases h with rfl | rfl | rfl | rfl <;> decide

theorem block_sameLexemes {b : Text} (hb : IsBlock b) (t : Text) :
    SameLexemes (segmentation (b ++ t)) (segmentation t) := by
  cases hb with
  | blank hc => exact blank_sameLexemes hc t
  | @directive u hline hclose =>
    have hd := directiveOrComment_directive hline hclose t
    have h : Segment.leading true ("%%\x7b".toList ++ (u ++ closingMark) ++ t) =
        .ok (some ⟨.trivia .configuration, "%%\x7b".toList ++ (u ++ closingMark)⟩) := by
      rw [← hd]
      exact leading_percent _
    exact sameLexemes_of_leading h rfl
  | @comment u c hline hclose hc =>
    have h := leading_percent (u ++ c :: t)
    rw [← List.append_assoc, directiveOrComment_comment hline hclose hc] at h
    have hcomment := sameLexemes_of_leading h rfl
    have hend := blank_sameLexemes (isBlank_of_isLineTerminator hc) t
    simpa using hcomment.trans hend

/-- **Separators have no lexemes.** -/
theorem separator_sameLexemes {s : Text} (hs : IsSeparator s) (t : Text) :
    SameLexemes (segmentation (s ++ t)) (segmentation t) := by
  obtain ⟨bs, hbs, rfl⟩ := hs
  induction bs with
  | nil => exact SameLexemes.refl _
  | cons b bs ih =>
    obtain ⟨hb, hbs⟩ := List.forall_mem_cons.1 hbs
    rw [List.flatten_cons, List.append_assoc]
    exact (block_sameLexemes hb _).trans (ih hbs)

theorem IsBlock.opens {b : Text} (hb : IsBlock b) : ∃ c t, b = c :: t ∧ opensSeparator c = true := by
  cases hb with
  | @blank c hc => exact ⟨c, [], rfl, Bool.or_eq_true_iff.2 (Or.inl hc)⟩
  | directive => exact ⟨_, _, rfl, by decide⟩
  | comment => exact ⟨_, _, rfl, by decide⟩

theorem IsSeparator.opens {s : Text} (hs : IsSeparator s) (h0 : s ≠ []) :
    ∃ c t, s = c :: t ∧ opensSeparator c = true := by
  obtain ⟨bs, hbs, rfl⟩ := hs
  cases bs with
  | nil => exact absurd rfl h0
  | cons b bs =>
    obtain ⟨c, t, rfl, hc⟩ := (hbs b List.mem_cons_self).opens
    exact ⟨c, t ++ bs.flatten, rfl, hc⟩

/-! ## Tokens and their segments -/

/-- the first of some segments leads their text, and the others are the segments of what is left -/
theorem segmentation_cons {g : Segment} {gs : List Segment} (h : segmentation (textOf (g :: gs)) = ⟨g :: gs, none⟩) :
    Segment.leading true (textOf (g :: gs)) = .ok (some g) ∧ segmentation (textOf gs) = ⟨gs, none⟩ := by
  have hl : Segment.leading true (textOf (g :: gs)) = .ok (some g) := leading_of_segmentation h
  refine ⟨hl, ?_⟩
  rw [segmentation_of_some hl, textOf_cons, List.drop_left] at h
  cases hs : segmentation (textOf gs)
  rw [hs] at h
  cases h
  rfl

/-- the text of each token leads alone, as a lexeme of the kind of the token -/
theorem leading_of_mem_tokensFrom {gs : List Segment} (hgs : segmentation (textOf gs) = ⟨gs, none⟩) {p : Position}
    {t : Token} (h : t ∈ tokensFrom p gs) :
    ∃ l, t.kind = .lexeme l ∧ Segment.leading true t.text = .ok (some ⟨.lexeme l, t.text⟩) := by
  induction gs generalizing p with
  | nil => cases h
  | cons g gs ih =>
    obtain ⟨hlead, hrest⟩ := segmentation_cons hgs
    cases hg : g.kind with
    | trivia k =>
      rw [tokensFrom_trivia p hg] at h
      exact ih hrest h
    | lexeme l =>
      rw [tokensFrom_lexeme p hg] at h
      rcases List.mem_cons.1 h with rfl | h
      · refine ⟨l, rfl, ?_⟩
        rw [textOf_cons] at hlead
        rw [← hg]
        exact Segment.leading_of_append hlead le_rfl
      · exact ih hrest h

/-- tokens start where some text ends that begins at the place of the first segment -/
theorem start_of_mem_tokensFrom {p : Position} {gs : List Segment} {t : Token} (h : t ∈ tokensFrom p gs) :
    ∃ u, t.start = p.advance u := by
  obtain ⟨xs, g, ys, l, -, -, rfl⟩ := segment_of_mem_tokensFrom h
  exact ⟨textOf xs, rfl⟩

/-- a token that starts at a place comes from the segment that starts there -/
theorem first_segment_of_start {p : Position} {gs : List Segment} (hne : ∀ g ∈ gs, g.text ≠ []) {t : Token}
    {ts : List Token} (h : tokensFrom p gs = t :: ts) (hp : t.start = p) :
    ∃ l gs', gs = ⟨.lexeme l, t.text⟩ :: gs' := by
  cases gs with
  | nil => cases h
  | cons g gs =>
    cases hg : g.kind with
    | trivia k =>
      rw [tokensFrom_trivia p hg] at h
      have hmem : t ∈ tokensFrom (p.advance g.text) gs := by
        rw [h]
        exact List.mem_cons_self
      obtain ⟨u, hu⟩ := start_of_mem_tokensFrom hmem
      have hlt := Position.lt_advance (List.append_ne_nil_of_left_ne_nil (hne g List.mem_cons_self) u) p
      rw [Position.advance_append, ← hu, hp] at hlt
      exact absurd hlt (Position.lt_irrefl p)
    | lexeme l =>
      rw [tokensFrom_lexeme p hg] at h
      cases h
      exact ⟨l, gs, congrArg (· :: gs) (show g = ⟨.lexeme l, g.text⟩ by rw [← hg])⟩

/-! ## Lexemes in another layout -/

/-- a lexeme that is a fence has no line break among the blanks behind it -/
def KeepsFence (l : Lexeme) (x v : Text) : Prop :=
  l = .link → x = fence → ∀ c ∈ v.takeWhile isBlank, isLineBreak c = false

theorem leading_before_separator {x s : Text} {l : Lexeme} (h : Segment.leading true x = .ok (some ⟨.lexeme l, x⟩))
    (hs : IsSeparator s) (h0 : s ≠ []) (t : Text) (hf : KeepsFence l x (s ++ t)) :
    Segment.leading true (x ++ (s ++ t)) = .ok (some ⟨.lexeme l, x⟩) := by
  obtain ⟨c, s, rfl, hc⟩ := hs.opens h0
  refine Segment.leading_append h (fun a ha hp => spelling_before_separator ha hc hp) (fun _ => ?_) ?_
  · rw [List.cons_append, List.takeWhile_cons_of_neg (by simp [isWord_of_opensSeparator hc])]
  · rintro hl rfl
    exact frontMatterRule_of_blanks (hf hl rfl)

theorem leadingText?_of_leading {t : Text} {g : Segment} (h : Segment.leading true t = .ok (some g)) :
    leadingText? t = some g.text := by
  rw [leadingText?, h]

theorem takeWhile_isBlank_lexeme {y : Text} {k : Lexeme} (h : Segment.leading true y = .ok (some ⟨.lexeme k, y⟩))
    (t : Text) : (y ++ t).takeWhile isBlank = [] := by
  cases y with
  | nil => cases h
  | cons c y =>
    obtain ⟨hb, -⟩ := Segment.leading_eq_lexeme_iff.1 h
    rw [List.cons_append, List.takeWhile_cons_of_neg (by simp [hb])]

theorem leading_before_neighbour {x y : Text} {l k : Lexeme}
    (h : Segment.leading true (x ++ y) = .ok (some ⟨.lexeme l, x⟩))
    (hy : Segment.leading true y = .ok (some ⟨.lexeme k, y⟩)) (t : Text) :
    Segment.leading true (x ++ (y ++ t)) = .ok (some ⟨.lexeme l, x⟩) := by
  have hy0 : y ≠ [] := Segment.leading_text_ne_nil hy
  rw [← List.append_assoc]
  refine Segment.leading_append h (fun a ha hp => ?_) (fun hxy => ?_) ?_
  · exact spelling_within_two ha (leadingText?_of_leading h) (leadingText?_of_leading hy) hp
  · exact absurd (List.append_right_eq_self.1 hxy.symm) hy0
  · rintro - rfl
    rw [List.append_assoc]
    refine frontMatterRule_of_blanks fun c hc => ?_
    rw [takeWhile_isBlank_lexeme hy] at hc
    cases hc

/-! ## Layouts -/

/-- the second token starts where the first one ends -/
def Token.Adjoins (a b : Token) : Prop :=
  b.start = a.start.advance a.text

instance (a b : Token) : Decidable (a.Adjoins b) :=
  inferInstanceAs (Decidable (b.start = a.start.advance a.text))

/-- **Two tokens adjoin each other when no segment is between them.** The segments behind the first one are `gs`. -/
theorem Token.adjoins_iff {x : Text} {p : Position} {l : Lexeme} {gs : List Segment} (hne : ∀ g ∈ gs, g.text ≠ [])
    {b : Token} {ts : List Token} (h : tokensFrom (p.advance x) gs = b :: ts) :
    Token.Adjoins ⟨.lexeme l, x, p⟩ b ↔ ∃ k gs', gs = ⟨.lexeme k, b.text⟩ :: gs' := by
  constructor
  · intro hstart
    exact first_segment_of_start hne h hstart
  · rintro ⟨k, gs', rfl⟩
    rw [tokensFrom_lexeme (p.advance x) rfl] at h
    exact congrArg Token.start (List.cons_eq_cons.1 h).1.symm

/-- tokens, each followed by some text -/
def laidOut (layout : List (Token × Text)) : Text :=
  layout.flatMap fun a => a.1.text ++ a.2

@[simp] theorem laidOut_nil : laidOut [] = [] := rfl

@[simp] theorem laidOut_cons (a : Token × Text) (layout : List (Token × Text)) :
    laidOut (a :: layout) = a.1.text ++ (a.2 ++ laidOut layout) := by
  rw [laidOut, List.flatMap_cons, List.append_assoc]
  rfl

/-- what may follow the tokens: separators, and nothing only between tokens that adjoin each other. A fence has no line
break among the blanks behind it. -/
structure IsLayout (layout : List (Token × Text)) : Prop where
  separators : ∀ a ∈ layout, IsSeparator a.2
  gaps : layout.IsChain fun a b => a.2 = [] → a.1.Adjoins b.1
  fences : ∀ a ∈ layout, a.1.kind = .lexeme .link → a.1.text = fence →
    ∀ c ∈ a.2.takeWhile isBlank, isLineBreak c = false

theorem IsLayout.tail {a : Token × Text} {layout : List (Token × Text)} (h : IsLayout (a :: layout)) :
    IsLayout layout :=
  ⟨fun b hb => h.separators b (List.mem_cons_of_mem a hb), h.gaps.tail,
    fun b hb => h.fences b (List.mem_cons_of_mem a hb)⟩

/-- **A lexeme still leads in a new layout.** In the old one, the segments behind it are `gs`. -/
theorem leading_in_layout {x s : Text} {l : Lexeme} {gs : List Segment} {p : Position} {layout : List (Token × Text)}
    (hlead : Segment.leading true (x ++ textOf gs) = .ok (some ⟨.lexeme l, x⟩))
    (hgs : segmentation (textOf gs) = ⟨gs, none⟩) (htokens : layout.map (·.1) = tokensFrom (p.advance x) gs)
    (h : IsLayout ((⟨.lexeme l, x, p⟩, s) :: layout)) :
    Segment.leading true (x ++ (s ++ laidOut layout)) = .ok (some ⟨.lexeme l, x⟩) := by
  have halone : Segment.leading true x = .ok (some ⟨.lexeme l, x⟩) := Segment.leading_of_append hlead le_rfl
  cases layout with
  | nil =>
    by_cases hs : s = []
    · rw [hs, laidOut_nil, List.append_nil, List.append_nil]
      exact halone
    · refine leading_before_separator halone (h.separators _ List.mem_cons_self) hs _ fun hl hx => ?_
      rw [laidOut_nil, List.append_nil]
      exact h.fences _ List.mem_cons_self (congrArg TokenKind.lexeme hl) hx
  | cons b layout =>
    have hmem : b.1 ∈ tokensFrom (p.advance x) gs := by
      rw [← htokens]
      exact List.mem_cons_self
    obtain ⟨k, -, hb⟩ := leading_of_mem_tokensFrom hgs hmem
    rw [laidOut_cons]
    by_cases hs : s = []
    · -- the next token stands where it stood before
      obtain ⟨left, -, -, hne⟩ := segmentation_covers (textOf gs)
      rw [hgs] at hne
      obtain ⟨j, gs', rfl⟩ := (Token.adjoins_iff hne htokens.symm).1 ((List.isChain_cons_cons.1 h.gaps).1 hs)
      rw [textOf_cons, ← List.append_assoc] at hlead
      rw [hs, List.nil_append]
      refine leading_before_neighbour (Segment.leading_of_append hlead ?_) hb _
      rw [List.length_append]
      exact Nat.le_add_right _ _
    · refine leading_before_separator halone (h.separators _ List.mem_cons_self) hs _ fun hl hx => ?_
      rw [takeWhile_append_of_stop fun _ => takeWhile_isBlank_lexeme hb _]
      exact h.fences _ List.mem_cons_self (congrArg TokenKind.lexeme hl) hx

/-- **A new layout has the same lexemes.** The segments are those of the old one, and the induction is on them. -/
theorem laidOut_sameLexemes {gs : List Segment} (hgs : segmentation (textOf gs) = ⟨gs, none⟩) (p : Position)
    {layout : List (Token × Text)} (htokens : layout.map (·.1) = tokensFrom p gs) (h : IsLayout layout) :
    SameLexemes (segmentation (laidOut layout)) ⟨gs, none⟩ := by
  induction gs generalizing p layout with
  | nil =>
    obtain rfl := List.map_eq_nil_iff.1 htokens
    rw [laidOut_nil, segmentation_of_none rfl]
    exact SameLexemes.refl _
  | cons g gs ih =>
    obtain ⟨hlead, hrest⟩ := segmentation_cons hgs
    cases hg : g.kind with
    | trivia k =>
      rw [tokensFrom_trivia p hg] at htokens
      have hsame := ih hrest _ htokens h
      exact ⟨hsame.lexemes.trans (lexemesOf_trivia hg gs).symm, hsame.unexpected⟩
    | lexeme l =>
      rw [tokensFrom_lexeme p hg] at htokens
      obtain ⟨⟨t, s⟩, layout, rfl, rfl, hothers⟩ := List.map_eq_cons_iff.1 htokens
      have hgl : g = ⟨.lexeme l, g.text⟩ := by rw [← hg]
      rw [hgl, textOf_cons] at hlead
      have hnew := leading_in_layout hlead hrest hothers h
      have hsame := (separator_sameLexemes (h.separators _ List.mem_cons_self) (laidOut layout)).trans
        (ih hrest _ hothers h.tail)
      rw [laidOut_cons]
      show SameLexemes (segmentation (g.text ++ (s ++ laidOut layout))) ⟨g :: gs, none⟩
      rw [segmentation_of_some hnew, List.drop_left]
      refine ⟨?_, hsame.unexpected⟩
      rw [lexemesOf_lexeme rfl, lexemesOf_lexeme hg]
      exact congrArg _ hsame.lexemes

/-! ## Tokens do not depend on layout -/

/-- **Tokens do not depend on layout.** Take the tokens of a source up to the end of the input, and put a separator in
front of them and one behind each, which may be empty between two tokens that adjoin each other in the source. If no
fence has a line break among the blanks right behind it, the new source has the same tokens, that is kinds and texts,
and then the end of the input, which is where the new source ends. The separator in front alone has the end of the input
as its only token. -/
theorem tokens_do_not_depend_on_layout {source s : Text} {layout : List (Token × Text)} {e : Token}
    (h : tokenize source = .ok (layout.map (·.1) ++ [e])) (hs : IsSeparator s) (hl : IsLayout layout) :
    (∃ ts, tokenize (s ++ laidOut layout) =
        .ok (ts ++ [.endOfInput (Position.start.advance (s ++ laidOut layout))]) ∧
      ts.map Token.word = layout.map (·.1.word)) ∧
    tokenize s = .ok [.endOfInput (Position.start.advance s)] := by
  rw [tokenize_eq_placed, Segmentation.resultOf_eq_ok_iff] at h
  obtain ⟨hu, hall⟩ := h
  obtain ⟨htokens, -⟩ := List.append_inj' hall rfl
  have hcover := textOf_segments_of_unexpected_eq_none hu
  have hgs : segmentation (textOf (segmentation source).segments) = ⟨(segmentation source).segments, none⟩ := by
    rw [hcover, ← hu]
  refine ⟨?_, ?_⟩
  · have hsame := (separator_sameLexemes hs (laidOut layout)).trans (laidOut_sameLexemes hgs .start htokens.symm hl)
    refine ⟨tokensFrom .start (segmentation (s ++ laidOut layout)).segments, ?_, ?_⟩
    · rw [tokenize_eq_placed, Segmentation.resultOf_eq_ok_iff]
      exact ⟨hsame.unexpected, rfl⟩
    · rw [map_word_tokensFrom, hsame.lexemes, ← map_word_tokensFrom .start, htokens, List.map_map]
      rfl
  · have hsame := separator_sameLexemes hs []
    rw [List.append_nil, segmentation_of_none (t := []) rfl] at hsame
    rw [tokenize_eq_placed, Segmentation.resultOf_eq_ok_iff]
    refine ⟨hsame.unexpected, ?_⟩
    have hnone : tokensFrom .start (segmentation s).segments = [] := by
      rw [← List.map_eq_nil_iff, map_word_tokensFrom, hsame.lexemes]
      rfl
    rw [hnone, List.nil_append]

/-- a link and its two nodes, on one line and then on two with a comment between them -/
theorem tokens_keep_in_wider_layout :
    tokenize "A---B".toList =
        .ok [⟨.lexeme .identifier, "A".toList, ⟨1, 1⟩⟩, ⟨.lexeme .link, fence, ⟨1, 2⟩⟩,
          ⟨.lexeme .identifier, "B".toList, ⟨1, 5⟩⟩, .endOfInput ⟨1, 6⟩] ∧
      IsSeparator ['\n'] ∧
      ∃ ts, tokenize "\nA---%% to\nB\n".toList = .ok (ts ++ [.endOfInput ⟨4, 1⟩]) ∧
        ts.map Token.word =
          [(.lexeme .identifier, "A".toList), (.lexeme .link, fence), (.lexeme .identifier, "B".toList)] := by
  have hsource : tokenize "A---B".toList =
      .ok [⟨.lexeme .identifier, "A".toList, ⟨1, 1⟩⟩, ⟨.lexeme .link, fence, ⟨1, 2⟩⟩,
        ⟨.lexeme .identifier, "B".toList, ⟨1, 5⟩⟩, .endOfInput ⟨1, 6⟩] := by decide +kernel
  have hbreak : IsBlock ['\n'] := .blank (by decide)
  have hline : " to".toList.all (fun d => !isLineTerminator d) = true := by decide
  have hcomment : IsBlock ("%%".toList ++ (" to".toList ++ ['\n'])) :=
    .comment (fun d hd => by simpa using List.all_eq_true.1 hline d hd) (by decide) (by decide)
  have hs : IsSeparator ['\n'] := ⟨[['\n']], by simpa using hbreak, rfl⟩
  have hl : IsLayout [(⟨.lexeme .identifier, "A".toList, ⟨1, 1⟩⟩, []),
      (⟨.lexeme .link, fence, ⟨1, 2⟩⟩, "%%".toList ++ (" to".toList ++ ['\n'])),
      (⟨.lexeme .identifier, "B".toList, ⟨1, 5⟩⟩, ['\n'])] := by
    refine ⟨?_, by decide, ?_⟩
    · simp only [List.forall_mem_cons]
      exact ⟨⟨[], by simp, rfl⟩, ⟨[_], by simpa using hcomment, by simp⟩, hs, by simp⟩
    · intro a ha hkind htext c hc
      simp only [List.mem_cons, List.not_mem_nil, or_false] at ha
      rcases ha with rfl | rfl | rfl
      · cases hkind
      · cases hc
      · cases hkind
  exact ⟨hsource, hs, (tokens_do_not_depend_on_layout hsource hs hl).1⟩

end FlowchartLexer
