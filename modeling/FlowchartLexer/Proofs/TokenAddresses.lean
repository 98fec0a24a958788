/-
Positions of tokens as addresses in the source.

A token carries no offset, only a line and a column. These are enough to find it: longer beginnings of a source end at
later positions (`positionAt_lt`), so no two offsets of characters have the same position.

- `IsAddress.eq`: a position is that of one offset at most.
- `tokensFrom_standsAt`, `pairwise_endsBefore`: so each token stands somewhere in the source, and before those that
  follow. The induction is on the segments, with the text before them as what is already passed.
- **Positions are addresses** (`token_positions_are_addresses`).
-/
import FlowchartLexer.Proofs.PlacedSegments
import FlowchartLexer.Proofs.Positions

namespace FlowchartLexer

/-! ## Addresses -/

/-- the offset is that of a character, or the end, and has the position -/
def IsAddress (source : Text) (p : Position) (o : Nat) : Prop :=
  IsCharBoundary source o ∧ positionAt source o = p

/-- **Later offsets have later positions.** -/
theorem positionAt_lt {source : Text} {m n : Nat} (hm : IsCharBoundary source m) (hn : IsCharBoundary source n)
    (h : m < n) : positionAt source m < positionAt source n := by
  obtain ⟨p, q, rfl, rfl⟩ := isCharBoundary_iff.1 hm
  obtain ⟨r, s, hsplit, rfl⟩ := isCharBoundary_iff.1 hn
  -- the shorter beginning is one of the longer
  rcases List.append_eq_append_iff.1 hsplit with ⟨k, rfl, -⟩ | ⟨k, rfl, rfl⟩
  · rw [byteSize_append] at h
    omega
  · have hk : k ≠ [] := by
      rintro rfl
      simp at h
    rw [← List.append_assoc p, positionAt_append, List.append_assoc, positionAt_append, Position.advance_append]
    exact Position.lt_advance hk _

/-- **One offset at most** has a position. -/
theorem IsAddress.eq {source : Text} {p : Position} {m n : Nat} (hm : IsAddress source p m)
    (hn : IsAddress source p n) : m = n := by
  obtain ⟨hm, rfl⟩ := hm
  obtain ⟨hn, hp⟩ := hn
  rcases Nat.lt_trichotomy m n with h | h | h
  · have hlt := positionAt_lt hm hn h
    rw [hp] at hlt
    exact absurd hlt (Position.lt_irrefl _)
  · exact h
  · have hlt := positionAt_lt hn hm h
    rw [hp] at hlt
    exact absurd hlt (Position.lt_irrefl _)

theorem IsAddress.iff_eq {source : Text} {p : Position} {o : Nat} (h : IsAddress source p o) (m : Nat) :
    IsAddress source p m ↔ m = o :=
  ⟨fun hm => hm.eq h, fun hm => hm ▸ h⟩

theorem isAddress_append (passed rest : Text) :
    IsAddress (passed ++ rest) (Position.start.advance passed) (byteSize passed) :=
  ⟨isCharBoundary_append passed rest, positionAt_append passed rest⟩

/-! ## Tokens in the source -/

/-- the offset is the address of the token, and its text stands there -/
structure Token.StandsAt (source : Text) (t : Token) (o : Nat) : Prop where
  address : IsAddress source t.start o
  text : t.text <+: dropBytes o source

/-- one token stands in the source and ends before the other starts, or just there -/
def Token.EndsBefore (source : Text) (t u : Token) : Prop :=
  ∃ o n, t.StandsAt source o ∧ IsAddress source u.start n ∧ o + byteSize t.text ≤ n

theorem Token.standsAt_append (passed x rest : Text) (k : TokenKind) :
    Token.StandsAt (passed ++ (x ++ rest)) ⟨k, x, Position.start.advance passed⟩ (byteSize passed) := by
  refine ⟨isAddress_append passed _, ?_⟩
  rw [dropBytes_byteSize_append]
  exact List.prefix_append x rest

theorem Token.EndsBefore.start_lt {source : Text} {t u : Token} (h : t.EndsBefore source u) (h0 : t.text ≠ []) :
    t.start < u.start := by
  obtain ⟨o, n, ⟨⟨ho, hto⟩, -⟩, ⟨hn, hun⟩, hle⟩ := h
  rw [← hto, ← hun]
  apply positionAt_lt ho hn
  have hpos := byteSize_pos h0
  omega

section Runs

variable {source passed left : Text} {gs : List Segment}

/-- each token of a run of segments stands within the text of these segments -/
theorem tokensFrom_standsAt (h : passed ++ (textOf gs ++ left) = source) {t : Token}
    (ht : t ∈ tokensFrom (Position.start.advance passed) gs) :
    ∃ o, t.StandsAt source o ∧ byteSize passed ≤ o ∧ o + byteSize t.text ≤ byteSize (passed ++ textOf gs) := by
  obtain ⟨xs, g, ys, l, rfl, -, rfl⟩ := segment_of_mem_tokensFrom ht
  refine ⟨byteSize (passed ++ textOf xs), ?_, ?_, ?_⟩
  · have hsource : source = (passed ++ textOf xs) ++ (g.text ++ (textOf ys ++ left)) := by
      rw [← h, textOf_append, textOf_cons]
      simp only [List.append_assoc]
    rw [hsource, ← Position.advance_append]
    exact Token.standsAt_append _ _ _ _
  · rw [byteSize_append]
    exact Nat.le_add_right _ _
  · simp only [textOf_append, textOf_cons, byteSize_append]
    omega

/-- **Each token ends before those that follow.** -/
theorem pairwise_endsBefore (h : passed ++ (textOf gs ++ left) = source) :
    (tokensFrom (Position.start.advance passed) gs).Pairwise (Token.EndsBefore source) := by
  induction gs generalizing passed with
  | nil => exact List.Pairwise.nil
  | cons g gs ih =>
    have hnext : (passed ++ g.text) ++ (textOf gs ++ left) = source := by
      rw [← h, textOf_cons]
      simp only [List.append_assoc]
    have hrest := ih hnext
    rw [Position.advance_append] at hrest
    cases hg : g.kind with
    | trivia k =>
      rw [tokensFrom_trivia _ hg]
      exact hrest
    | lexeme l =>
      rw [tokensFrom_lexeme _ hg]
      refine List.Pairwise.cons (fun u hu => ?_) hrest
      have hu' : u ∈ tokensFrom (Position.start.advance (passed ++ g.text)) gs := by
        rw [Position.advance_append]
        exact hu
      obtain ⟨n, hn, hle, -⟩ := tokensFrom_standsAt hnext hu'
      refine ⟨byteSize passed, n, ?_, hn.address, ?_⟩
      · rw [← hnext, List.append_assoc]
        exact Token.standsAt_append _ _ _ _
      · rw [← byteSize_append]
        exact hle

end Runs

/-! ## Positions are addresses -/

/-- the tokens of a source that has been read to its end -/
theorem tokenize_eq_ok {source : Text} {ts : List Token} (h : tokenize source = .ok ts) :
    textOf (segmentation source).segments = source ∧
      ts = tokensFrom .start (segmentation source).segments ++ [.endOfInput (Position.start.advance source)] := by
  rw [tokenize_eq_placed, Segmentation.resultOf_eq_ok_iff] at h
  exact ⟨textOf_segments_of_unexpected_eq_none h.1, h.2.symm⟩

theorem tokenize_endsBefore {source : Text} {ts : List Token} (h : tokenize source = .ok ts) :
    ts.Pairwise (Token.EndsBefore source) := by
  obtain ⟨htext, rfl⟩ := tokenize_eq_ok h
  have hwhole : [] ++ (textOf (segmentation source).segments ++ []) = source := by
    rw [List.append_nil, List.nil_append, htext]
  refine List.pairwise_append.2 ⟨pairwise_endsBefore hwhole, List.pairwise_singleton _ _, fun t ht u hu => ?_⟩
  obtain rfl := List.mem_singleton.1 hu
  obtain ⟨o, ho, -, hle⟩ := tokensFrom_standsAt hwhole ht
  rw [List.nil_append, htext] at hle
  have hend := isAddress_append source []
  rw [List.append_nil] at hend
  exact ⟨o, byteSize source, ho, hend, hle⟩

theorem text_ne_nil_of_tokenize {source : Text} {ts : List Token} (h : tokenize source = .ok ts) {t : Token}
    (ht : t ∈ ts) : t.text ≠ [] := by
  obtain ⟨-, rfl⟩ := tokenize_eq_ok h
  rcases List.mem_append.1 ht with ht | ht
  · obtain ⟨-, -, -, hne⟩ := segmentation_covers source
    obtain ⟨xs, g, ys, l, hgs, -, rfl⟩ := segment_of_mem_tokensFrom ht
    apply hne g
    rw [hgs]
    simp
  · obtain rfl := List.mem_singleton.1 ht
    exact List.cons_ne_nil _ _

/-- **Positions of tokens are addresses.**
- They increase strictly from token to token, up to the end of the input.
- Each token but the last stands at exactly one offset of a character that has its position. The token behind it has
  exactly one such offset too, at the end of its text or later. -/
theorem token_positions_are_addresses {source : Text} {ts : List Token} (h : tokenize source = .ok ts) :
    (ts.map Token.start).Pairwise (· < ·) ∧
    ∀ i t, ts[i]? = some t → t.isEndOfInput = false →
      ∃ o u n, (∀ m, IsAddress source t.start m ↔ m = o) ∧ t.text <+: dropBytes o source ∧
        ts[i + 1]? = some u ∧ (∀ m, IsAddress source u.start m ↔ m = n) ∧ o + byteSize t.text ≤ n := by
  have hpairs := tokenize_endsBefore h
  constructor
  · rw [List.pairwise_map]
    refine hpairs.imp_of_mem fun ht _ hbefore => ?_
    exact hbefore.start_lt (text_ne_nil_of_tokenize h ht)
  · intro i t ht hkind
    obtain ⟨hi, rfl⟩ := List.getElem?_eq_some_iff.1 ht
    have hlast : i + 1 < ts.length := by
      by_contra hge
      obtain ⟨-, rfl⟩ := tokenize_eq_ok h
      -- a token without another one behind it is the last, at the end of the input
      rw [List.length_append, List.length_singleton] at hi hge
      rw [List.getElem_append_right (by omega), List.getElem_singleton] at hkind
      cases hkind
    obtain ⟨o, n, ho, hn, hle⟩ := List.pairwise_iff_getElem.1 hpairs i (i + 1) hi hlast (Nat.lt_succ_self i)
    exact ⟨o, ts[i + 1], n, ho.address.iff_eq, ho.text, List.getElem?_eq_getElem hlast, hn.iff_eq, hle⟩

/-- a link on the second line, behind a comment and before the end of the input -/
theorem address_of_link_on_second_line :
    tokenize "開始%%\r\n -->".toList =
        .ok [⟨.lexeme .identifier, "開始".toList, ⟨1, 1⟩⟩, ⟨.lexeme .link, "-->".toList, ⟨2, 2⟩⟩, .endOfInput ⟨2, 5⟩] ∧
      ∃ o u n, (∀ m, IsAddress "開始%%\r\n -->".toList ⟨2, 2⟩ m ↔ m = o) ∧
        "-->".toList <+: dropBytes o "開始%%\r\n -->".toList ∧
        [⟨.lexeme .identifier, "開始".toList, ⟨1, 1⟩⟩, ⟨.lexeme .link, "-->".toList, ⟨2, 2⟩⟩,
          Token.endOfInput ⟨2, 5⟩][2]? = some u ∧
        (∀ m, IsAddress "開始%%\r\n -->".toList u.start m ↔ m = n) ∧ o + byteSize "-->".toList ≤ n := by
  have h : tokenize "開始%%\r\n -->".toList =
      .ok [⟨.lexeme .identifier, "開始".toList, ⟨1, 1⟩⟩, ⟨.lexeme .link, "-->".toList, ⟨2, 2⟩⟩, .endOfInput ⟨2, 5⟩] := by
    decide +kernel
  exact ⟨h, (token_positions_are_addresses h).2 1 _ rfl rfl⟩

end FlowchartLexer
