/-
Reading to the end: segmentation and draining, one step at a time.

Both functions keep what they have found so far in an argument. The equations here are about their results only, so that
a proof about a whole text is an induction over its segments.

- `segmentation_of_none`, `segmentation_of_some`, `segmentation_of_error`: by what stands at the start of the text.
- `leading_of_segmentation`: and the other way round.
- `segmentation_covers`: so the segments are a beginning of the text, up to its end or to the character reported.
- `Cursor.drain_of_none`, `Cursor.drain_of_some`: by what the next call answers.
- `Cursor.answer_eq_getElem?`, `Cursor.answers_eq_take`: calls and draining.
-/
import FlowchartLexer.Proofs.CursorRun

namespace FlowchartLexer

open Calls

/-! ## Segmentation -/

/-- the segments and then the failure, if there is one, as a cursor gives them -/
def Segmentation.items (s : Segmentation) : List (Except UnexpectedChar Segment) :=
  s.segments.map .ok ++ (s.unexpected.map .error).toList

theorem segmentationFrom_eq (found : List Segment) (t : Text) :
    segmentationFrom found t = ⟨found.reverse ++ (segmentation t).segments, (segmentation t).unexpected⟩ := by
  induction hn : t.length using Nat.strong_induction_on generalizing found t with
  | _ n ih =>
    rw [segmentation, segmentationFrom, segmentationFrom]
    split
    · simp
    · next g hg =>
      have hlt := hn ▸ Segment.length_drop_leading hg
      rw [ih _ hlt (g :: found) _ rfl, ih _ hlt [g] _ rfl]
      simp
    · simp

variable {t : Text}

theorem segmentation_of_none (h : Segment.leading true t = .ok none) : segmentation t = ⟨[], none⟩ := by
  rw [segmentation, segmentationFrom]
  split
  · rfl
  · next g hg => rw [h] at hg; cases hg
  · next e he => rw [h] at he; cases he

theorem segmentation_of_error {e : UnexpectedChar} (h : Segment.leading true t = .error e) :
    segmentation t = ⟨[], some e⟩ := by
  rw [segmentation, segmentationFrom]
  split
  · next hn => rw [h] at hn; cases hn
  · next g hg => rw [h] at hg; cases hg
  · next d hd => rw [h] at hd; cases hd; rfl

theorem segmentation_of_some {g : Segment} (h : Segment.leading true t = .ok (some g)) :
    segmentation t =
      ⟨g :: (segmentation (t.drop g.text.length)).segments, (segmentation (t.drop g.text.length)).unexpected⟩ := by
  rw [segmentation, segmentationFrom]
  split
  · next hn => rw [h] at hn; cases hn
  · next k hk =>
    rw [h] at hk
    cases hk
    rw [segmentationFrom_eq]
    rfl
  · next e he => rw [h] at he; cases he

/-- what leads a text is the first segment, or else what segmentation stops at -/
theorem leading_of_segmentation {gs : List Segment} {u : Option UnexpectedChar} (h : segmentation t = ⟨gs, u⟩) :
    Segment.leading true t =
      match gs, u with
      | g :: _, _ => .ok (some g)
      | [], none => .ok none
      | [], some e => .error e := by
  rcases hl : Segment.leading true t with e | _ | g
  · rw [segmentation_of_error hl] at h
    cases h
    rfl
  · rw [segmentation_of_none hl] at h
    cases h
    rfl
  · rw [segmentation_of_some hl] at h
    cases h
    rfl

/-- **Segmentation loses nothing**: the segments are a beginning of the text, and they stop at its end or before the
character that is reported. No segment is empty. -/
theorem segmentation_covers (t : Text) : ∃ left, textOf (segmentation t).segments ++ left = t ∧
    (segmentation t).unexpected = left.head?.map UnexpectedChar.mk ∧ ∀ g ∈ (segmentation t).segments, g.text ≠ [] := by
  induction hn : t.length using Nat.strong_induction_on generalizing t with
  | _ n ih =>
    rcases hl : Segment.leading true t with e | _ | g
    · obtain ⟨u, rfl⟩ := Segment.leading_eq_error hl
      rw [segmentation_of_error hl]
      exact ⟨_, rfl, rfl, List.forall_mem_nil _⟩
    · rw [segmentation_of_none hl]
      exact ⟨[], (Segment.leading_eq_none hl).symm, rfl, List.forall_mem_nil _⟩
    · obtain ⟨left, hleft, hu, hne⟩ := ih _ (hn ▸ Segment.length_drop_leading hl) (t.drop g.text.length) rfl
      rw [segmentation_of_some hl]
      refine ⟨left, ?_, hu, List.forall_mem_cons.2 ⟨Segment.leading_text_ne_nil hl, hne⟩⟩
      rw [textOf_cons, List.append_assoc, hleft]
      exact Segment.leading_text_append hl

theorem segmentsOf_items (s : Segmentation) : segmentsOf s.items = s.segments := by
  rw [Segmentation.items, segmentsOf_append]
  cases s.unexpected <;> simp [segmentsOf, List.filterMap_map, Function.comp_def, Except.toOption]

/-! ## Draining a cursor -/

namespace Cursor

theorem collects_drainOnto : Collects next drainOnto remaining := by
  refine ⟨fun read c => ?_, fun _ _ _ => remaining_next_lt⟩
  rw [drainOnto]
  split <;> simp only [*]

variable {c : Cursor}

theorem drain_of_none (h : c.next.1 = none) : c.drain = ([], c) := by
  rw [drain, collects_drainOnto.of_none h, fused c h]

theorem drain_of_some {i : Except UnexpectedChar Segment} (h : c.next.1 = some i) :
    c.drain = (i :: c.next.2.drain.1, c.next.2.drain.2) :=
  collects_drainOnto.of_some h

/-- the answers to calls are the items of draining, one by one -/
theorem answer_eq_getElem? (c : Cursor) (n : Nat) : answer next c n = c.drain.1[n]? :=
  collects_drainOnto.answer_eq_getElem? fused c n

theorem answers_eq_take (c : Cursor) (n : Nat) : answers next c n = c.drain.1.take n :=
  collects_drainOnto.answers_eq_take fused c n

/-- a segment that is given next comes first, and its text is between the offsets -/
theorem segmentsOf_drain_of_ok {d : Cursor} {g : Segment} (h : c.next = (some (.ok g), d)) :
    segmentsOf c.drain.1 = g :: segmentsOf d.drain.1 ∧ d.offset = c.offset + byteSize g.text := by
  rw [drain_of_some (by rw [h]), h]
  obtain ⟨-, -, rfl⟩ := next_ok h
  exact ⟨rfl, rfl⟩

/-- without a segment that is given next there is none at all -/
theorem segmentsOf_drain_of_not_ok (h : ∀ g, c.next.1 ≠ some (.ok g)) : segmentsOf c.drain.1 = [] := by
  rcases c.next_cases with ⟨-, hn⟩ | ⟨k, -, -, hn⟩ | ⟨e, t, -, -, -, hn⟩
  · rw [drain_of_none (by rw [hn])]
    rfl
  · exact absurd (by rw [hn]) (h k)
  · rw [drain_of_some (by rw [hn]), hn, drain_of_none (by rw [next, if_pos rfl])]
    rfl

end Cursor

end FlowchartLexer
