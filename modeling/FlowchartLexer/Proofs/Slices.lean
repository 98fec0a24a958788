/-
Slices of a source between two places where its cursor has been.

A slice loses what comes before it, and with that the offsets and the last close. It loses what comes behind it, and
with that all that a rule could look ahead for. Neither matters: the guard changes nothing, and a leading segment stays
when the text is cut short behind it.

- `Cursor.offset_after`: a cursor reaches the ends of the first segments, and no other offsets.
- `Cursor.Reaches.split`: so two such offsets divide the segments in three.
- `segmentsBetween_eq`: those in the middle are those that start between the offsets.
- **Slices have the same segments** (`slices_have_the_same_segments`).
-/
import FlowchartLexer.Proofs.PlacedSegments
import FlowchartLexer.Proofs.Truncation

namespace FlowchartLexer

open Calls

/-- the bytes of a text from an offset up to another one -/
def slice (a b : Nat) (t : Text) : Text :=
  takeBytes (b - a) (dropBytes a t)

theorem slice_append (u v w : Text) : slice (byteSize u) (byteSize (u ++ v)) (u ++ (v ++ w)) = v := by
  rw [slice, dropBytes_byteSize_append, byteSize_append, Nat.add_sub_cancel_left, takeBytes_byteSize_append]

/-! ## Segments between two offsets -/

/-- the segments of a source that start at an offset or behind it, and before another one -/
def segmentsBetween (source : Text) (a b : Nat) : List Segment :=
  ((withOffsets 0 (segmentsOf (Cursor.ofText source).drain.1)).filter fun x => a ≤ x.1 ∧ x.1 < b).map (·.2)

theorem withOffsets_append (o : Nat) (gs hs : List Segment) :
    withOffsets o (gs ++ hs) = withOffsets o gs ++ withOffsets (o + byteSize (textOf gs)) hs := by
  induction gs generalizing o with
  | nil => rfl
  | cons g gs ih =>
    rw [List.cons_append, withOffsets, withOffsets, ih, textOf_cons, byteSize_append, Nat.add_assoc]
    rfl

theorem map_snd_withOffsets (o : Nat) (gs : List Segment) : (withOffsets o gs).map (·.2) = gs := by
  induction gs generalizing o with
  | nil => rfl
  | cons g gs ih => rw [withOffsets, List.map_cons, ih]

theorem withOffsets_bounds {o : Nat} {gs : List Segment} (hne : ∀ g ∈ gs, g.text ≠ []) {x : Nat × Segment}
    (hx : x ∈ withOffsets o gs) : o ≤ x.1 ∧ x.1 < o + byteSize (textOf gs) := by
  induction gs generalizing o with
  | nil => cases hx
  | cons g gs ih =>
    obtain ⟨hg, hgs⟩ := List.forall_mem_cons.1 hne
    have hpos := byteSize_pos hg
    rw [textOf_cons, byteSize_append]
    rcases List.mem_cons.1 hx with rfl | hx
    · exact ⟨le_rfl, by simp only; omega⟩
    · have h := ih hgs hx
      omega

/-- with the segments divided in three, those in the middle start between the ends of the others -/
theorem filter_withOffsets {xs ys zs : List Segment} (hne : ∀ g ∈ xs ++ (ys ++ zs), g.text ≠ []) :
    ((withOffsets 0 (xs ++ (ys ++ zs))).filter fun x =>
      byteSize (textOf xs) ≤ x.1 ∧ x.1 < byteSize (textOf (xs ++ ys))).map (·.2) = ys := by
  simp only [List.forall_mem_append] at hne
  obtain ⟨hxs, hys, hzs⟩ := hne
  have hend : byteSize (textOf (xs ++ ys)) = byteSize (textOf xs) + byteSize (textOf ys) := by
    rw [textOf_append, byteSize_append]
  generalize hp :
    (fun x : Nat × Segment => decide (byteSize (textOf xs) ≤ x.1 ∧ x.1 < byteSize (textOf (xs ++ ys)))) = p
  have hiff : ∀ x, p x = true ↔ byteSize (textOf xs) ≤ x.1 ∧ x.1 < byteSize (textOf (xs ++ ys)) := by
    intro x
    rw [← hp, decide_eq_true_eq]
  have hbefore : (withOffsets 0 xs).filter p = [] := by
    refine List.filter_eq_nil_iff.2 fun x hx => ?_
    have h := withOffsets_bounds hxs hx
    rw [hiff]
    omega
  have hwithin : (withOffsets (0 + byteSize (textOf xs)) ys).filter p = withOffsets (0 + byteSize (textOf xs)) ys := by
    refine List.filter_eq_self.2 fun x hx => ?_
    have h := withOffsets_bounds hys hx
    rw [hiff]
    omega
  have hbehind : (withOffsets (0 + byteSize (textOf xs) + byteSize (textOf ys)) zs).filter p = [] := by
    refine List.filter_eq_nil_iff.2 fun x hx => ?_
    have h := withOffsets_bounds hzs hx
    rw [hiff]
    omega
  rw [withOffsets_append, withOffsets_append, List.filter_append, List.filter_append, hbefore, hwithin, hbehind,
    List.nil_append, List.append_nil, map_snd_withOffsets]

theorem segmentsBetween_eq {source : Text} {xs ys zs : List Segment}
    (h : (segmentation source).segments = xs ++ (ys ++ zs)) :
    segmentsBetween source (byteSize (textOf xs)) (byteSize (textOf (xs ++ ys))) = ys := by
  obtain ⟨left, -, -, hne⟩ := segmentation_covers source
  rw [h] at hne
  rw [segmentsBetween, segmentsOf_drain_ofText, h]
  exact filter_withOffsets hne

/-! ## Where a cursor gets to -/

namespace Cursor

/-- the cursor of a source is at the offset after some number of calls -/
def Reaches (source : Text) (o : Nat) : Prop :=
  ∃ n, (after next (ofText source) n).offset = o

theorem segmentsOf_take_items (s : Segmentation) (n : Nat) :
    segmentsOf (s.items.take n) = s.segments.take n := by
  obtain ⟨gs, u⟩ := s
  induction gs generalizing n with
  | nil => cases u <;> cases n <;> simp [Segmentation.items]
  | cons g gs ih =>
    cases n with
    | zero => rfl
    | succ n => exact congrArg (g :: ·) (ih n)

theorem segmentsOf_answers (source : Text) (n : Nat) :
    segmentsOf (answers next (ofText source) n) = (segmentation source).segments.take n := by
  rw [answers_eq_take, drain_ofText, segmentsOf_take_items]

/-- **A cursor reaches the ends of the first segments**, and no other offsets. -/
theorem offset_after (source : Text) (n : Nat) :
    (after next (ofText source) n).offset = byteSize (textOf ((segmentation source).segments.take n)) := by
  rw [(at_after source n).offset, segmentsOf_answers]

theorem Reaches.split {source : Text} {a b : Nat} (ha : Reaches source a) (hb : Reaches source b) (hab : a ≤ b) :
    ∃ xs ys zs, (segmentation source).segments = xs ++ (ys ++ zs) ∧ a = byteSize (textOf xs) ∧
      b = byteSize (textOf (xs ++ ys)) := by
  obtain ⟨n, rfl⟩ := ha
  obtain ⟨m, rfl⟩ := hb
  rw [offset_after, offset_after] at hab ⊢
  have hsplit := List.take_append_drop n (segmentation source).segments
  rcases Nat.le_total n m with hnm | hmn
  · obtain ⟨k, rfl⟩ := Nat.exists_eq_add_of_le hnm
    refine ⟨(segmentation source).segments.take n, ((segmentation source).segments.drop n).take k,
      ((segmentation source).segments.drop n).drop k, ?_, rfl, ?_⟩
    · rw [List.take_append_drop, hsplit]
    · rw [List.take_add]
  · -- the second offset is the smaller one then, so nothing is between them
    obtain ⟨k, rfl⟩ := Nat.exists_eq_add_of_le hmn
    refine ⟨(segmentation source).segments.take (m + k), [], (segmentation source).segments.drop (m + k),
      hsplit.symm, rfl, ?_⟩
    rw [List.take_add, textOf_append, byteSize_append] at hab
    rw [List.append_nil, List.take_add, textOf_append, byteSize_append]
    omega

end Cursor

/-! ## Slices have the same segments -/

theorem segmentation_slice {source : Text} {xs ys zs : List Segment}
    (h : (segmentation source).segments = xs ++ (ys ++ zs)) :
    slice (byteSize (textOf xs)) (byteSize (textOf (xs ++ ys))) source = textOf ys ∧
      segmentation (textOf ys) = ⟨ys, none⟩ := by
  obtain ⟨left, rfl, hleft⟩ := segmentation_of_append h
  have hys : (segmentation left).segments = ys ++ zs := by rw [hleft]
  obtain ⟨rest, rfl, -⟩ := segmentation_of_append hys
  rw [textOf_append]
  exact ⟨slice_append _ _ _, segmentation_textOf hys⟩

theorem drain_ofText_of_segmentation {t : Text} {gs : List Segment} {u : Option UnexpectedChar}
    (h : segmentation t = ⟨gs, u⟩) : (Cursor.ofText t).drain.1 = gs.map .ok ++ (u.map .error).toList := by
  rw [Cursor.drain_ofText, h]
  rfl

/-- before an error a stream gives the tokens that the text before the error has -/
theorem tokenize_before_error {source : Text} {e : LexicalError} (h : tokenize source = .error e) :
    ∃ ts, (TokenStream.ofText source).drain.1 = ts.map .ok ++ [.error e] ∧
      tokenize (takeBytes e.offset source) = .ok (ts ++ [.endOfInput e.position]) := by
  rw [tokenize_eq_placed, Segmentation.resultOf_eq_error_iff] at h
  refine ⟨tokensFrom .start (segmentation source).segments, ?_, ?_⟩
  · rw [TokenStream.drain_eq_placed, Segmentation.resultOf_eq_error_iff.2 h]
  obtain ⟨u, -, rfl⟩ := Option.map_eq_some_iff.1 h
  -- the text before the error is that of all segments
  obtain ⟨left, hsource, -, -⟩ := segmentation_covers source
  have hbefore : takeBytes (byteSize (textOf (segmentation source).segments)) source =
      textOf (segmentation source).segments :=
    (congrArg (takeBytes _) hsource.symm).trans (takeBytes_byteSize_append _ left)
  rw [hbefore, tokenize_eq_placed, segmentation_textOf (List.append_nil _).symm]
  rfl

/-- **Slices have the same segments.** Take any two offsets that the cursor of a source reaches, the one where it fails
included.
- The slice between them has exactly the segments that start between them in the source, and then it ends.
- So the text of each segment is that one segment.
- What the source gives is what it has before the offset and then what is left gives alone, a failure included.
- The text before a lexical error has the tokens that the source gives before the error, and then the end of the
  input. -/
theorem slices_have_the_same_segments (source : Text) :
    let items := (Cursor.ofText source).drain.1
    (∀ a b, Cursor.Reaches source a → Cursor.Reaches source b → a ≤ b →
      (Cursor.ofText (slice a b source)).drain.1 = (segmentsBetween source a b).map .ok) ∧
    (∀ g ∈ segmentsOf items, (Cursor.ofText g.text).drain.1 = [.ok g]) ∧
    (∀ a, Cursor.Reaches source a →
      items = (segmentsBetween source 0 a).map .ok ++ (Cursor.ofText (dropBytes a source)).drain.1) ∧
    ∀ e, tokenize source = .error e → ∃ ts, (TokenStream.ofText source).drain.1 = ts.map .ok ++ [.error e] ∧
      tokenize (takeBytes e.offset source) = .ok (ts ++ [.endOfInput e.position]) := by
  intro items
  refine ⟨fun a b ha hb hab => ?_, fun g hg => ?_, fun a ha => ?_, fun e h => ?_⟩
  · obtain ⟨xs, ys, zs, h, rfl, rfl⟩ := ha.split hb hab
    obtain ⟨hslice, hys⟩ := segmentation_slice h
    rw [segmentsBetween_eq h, hslice, drain_ofText_of_segmentation hys]
    exact List.append_nil _
  · rw [segmentsOf_drain_ofText] at hg
    obtain ⟨xs, zs, h⟩ := List.append_of_mem hg
    have hone : (segmentation source).segments = xs ++ ([g] ++ zs) := h
    have hg := (segmentation_slice hone).2
    rw [textOf_cons, textOf_nil, List.append_nil] at hg
    exact drain_ofText_of_segmentation hg
  · obtain ⟨xs, ys, zs, h, rfl, -⟩ := ha.split ha le_rfl
    have h0 : (segmentation source).segments = [] ++ (xs ++ (ys ++ zs)) := h
    have hbefore : segmentsBetween source 0 (byteSize (textOf xs)) = xs := segmentsBetween_eq h0
    obtain ⟨left, hsource, hleft⟩ := segmentation_of_append h
    have hdrop : dropBytes (byteSize (textOf xs)) source = left := by
      rw [hsource]
      exact dropBytes_byteSize_append _ _
    have hitems : items = (segmentation source).items := Cursor.drain_ofText source
    rw [hitems, hdrop, hbefore, drain_ofText_of_segmentation hleft, Segmentation.items, h, List.map_append,
      List.append_assoc]
  · exact tokenize_before_error h

end FlowchartLexer
