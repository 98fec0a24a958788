/-
Byte offsets into a text.

Offsets count bytes of UTF-8, so not every number up to the size of a text is the offset of a character. `takeBytes` and
`dropBytes` cut a text at an offset, and `IsCharBoundary` says that the cut falls between two characters.

- `isCharBoundary_iff`: the boundaries are the sizes of the beginnings of the text.
- `takeBytes_byteSize_append`, `dropBytes_byteSize_append`: cutting at the size of a beginning gives it back.
-/
import FlowchartLexer.Text

namespace FlowchartLexer

/-! ## Cutting at an offset -/

/-- the characters that end within a number of bytes -/
def takeBytes : Nat → Text → Text
  | _, [] => []
  | n, c :: t => if c.utf8Size ≤ n then c :: takeBytes (n - c.utf8Size) t else []

/-- what follows them -/
def dropBytes : Nat → Text → Text
  | _, [] => []
  | n, c :: t => if c.utf8Size ≤ n then dropBytes (n - c.utf8Size) t else c :: t

/-- a character begins at the offset, or the text ends there -/
def IsCharBoundary (t : Text) (n : Nat) : Prop :=
  byteSize (takeBytes n t) = n

instance (t : Text) (n : Nat) : Decidable (IsCharBoundary t n) :=
  inferInstanceAs (Decidable (byteSize (takeBytes n t) = n))

theorem takeBytes_append_dropBytes (n : Nat) (t : Text) : takeBytes n t ++ dropBytes n t = t := by
  fun_induction takeBytes n t with
  | case1 n => rfl
  | case2 n c t hc ih => rw [dropBytes, if_pos hc, List.cons_append, ih]
  | case3 n c t hc => rw [dropBytes, if_neg hc, List.nil_append]

@[simp] theorem takeBytes_zero (t : Text) : takeBytes 0 t = [] := by
  cases t with
  | nil => rfl
  | cons c t =>
    have hc := c.utf8Size_pos
    rw [takeBytes, if_neg (by omega)]

theorem takeBytes_byteSize_append (s t : Text) : takeBytes (byteSize s) (s ++ t) = s := by
  induction s with
  | nil => exact takeBytes_zero t
  | cons c s ih =>
    rw [List.cons_append, takeBytes, byteSize_cons, if_pos (Nat.le_add_right _ _), Nat.add_sub_cancel_left, ih]

theorem dropBytes_byteSize_append (s t : Text) : dropBytes (byteSize s) (s ++ t) = t := by
  have h := takeBytes_append_dropBytes (byteSize s) (s ++ t)
  rw [takeBytes_byteSize_append] at h
  exact List.append_cancel_left h

/-! ## Boundaries -/

theorem isCharBoundary_append (s t : Text) : IsCharBoundary (s ++ t) (byteSize s) := by
  unfold IsCharBoundary
  rw [takeBytes_byteSize_append]

theorem isCharBoundary_iff {t : Text} {n : Nat} : IsCharBoundary t n ↔ ∃ p q, p ++ q = t ∧ byteSize p = n := by
  constructor
  · intro h
    exact ⟨takeBytes n t, dropBytes n t, takeBytes_append_dropBytes n t, h⟩
  · rintro ⟨p, q, rfl, rfl⟩
    exact isCharBoundary_append p q

/-! ## Sizes -/

theorem length_le_byteSize (t : Text) : t.length ≤ byteSize t := by
  induction t with
  | nil => exact Nat.le_refl 0
  | cons c t ih =>
    have hc := c.utf8Size_pos
    rw [List.length_cons, byteSize_cons]
    omega

theorem byteSize_pos {t : Text} (h : t ≠ []) : 0 < byteSize t := by
  have ht := List.length_pos_iff.2 h
  have hl := length_le_byteSize t
  omega

end FlowchartLexer
