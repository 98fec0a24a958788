/-
Objects without blanks: nothing is lost, and there are no line breaks.

A member is a string, a colon and a scalar. A string ends itself, and a number ends at the comma or brace behind it, so
every member can be read back where it stands.

- `Json.readable_write`, `Json.readable_member`: scalars and members, in front of what ends a word.
- `Json.readable_compact`: objects, in front of anything.
- `Json.lineFeed_not_mem_compact`: an object stays on one line.
-/
import FlowchartLexer.Proofs.Escaping

namespace FlowchartLexer.Json

/-! ## Scalars and members -/

/-- a number does not look like a string -/
theorem decimal_append_ne_quote (n : Nat) (u v : Text) : decimal n ++ u ≠ '"' :: v := by
  intro h
  obtain ⟨c, t, hn⟩ := List.exists_cons_of_ne_nil (decimal_ne_nil n)
  rw [hn, List.cons_append] at h
  have hq : '"' ∈ decimal n := by simp [hn, (List.cons.inj h).1]
  exact (isWord_decimal n).not_mem (by decide) hq

theorem readable_write : ReadableBefore EndsWord Scalar.write := by
  intro x y u v hu hv h
  cases x with
  | string s =>
    cases y with
    | string t =>
      obtain ⟨rfl, huv⟩ := readable_writeString.of_eq h
      exact ⟨rfl, huv⟩
    | number n => exact absurd h.symm (decimal_append_ne_quote n v _)
  | number m =>
    cases y with
    | string t => exact absurd h (decimal_append_ne_quote m u _)
    | number n =>
      obtain ⟨rfl, huv⟩ := readable_decimal hu hv h
      exact ⟨rfl, huv⟩

/-- a named scalar in an object without blanks -/
def member (m : Text × Scalar) : Text :=
  writeString m.1 ++ ':' :: m.2.write

theorem readable_member : ReadableBefore EndsWord member := by
  rintro ⟨k, x⟩ ⟨l, y⟩ u v hu hv h
  simp only [member, List.append_assoc, List.cons_append] at h
  obtain ⟨rfl, hvalues⟩ := readable_writeString.of_eq h
  obtain ⟨rfl, huv⟩ := readable_write hu hv (List.cons.inj hvalues).2
  exact ⟨rfl, huv⟩

theorem lineFeed_not_mem_member (m : Text × Scalar) : '\n' ∉ member m := by
  have hvalue : '\n' ∉ m.2.write := by
    cases m.2 with
    | string t => exact lineFeed_not_mem_writeString t
    | number n => exact (isWord_decimal n).not_mem (by decide)
  simp [member, lineFeed_not_mem_writeString, hvalue]

/-! ## Objects -/

/-- no number goes on into the comma or brace behind it -/
theorem endsWord_members (o : Object) (u : Text) :
    EndsWord (o.flatMap (fun m => ',' :: member m) ++ '\x7d' :: u) := by
  cases o <;> simp

/-- members with a comma in front of each, up to the brace -/
theorem readable_members : SelfDelimiting fun o : Object => o.flatMap (fun m => ',' :: member m) ++ ['\x7d'] := by
  have hcomma : ReadableBefore EndsWord fun m => ',' :: member m := by
    intro m n u v hu hv h
    exact readable_member hu hv (List.cons.inj h).2
  exact hcomma.list (fun m => ⟨_, _, rfl, by decide⟩) endsWord_members

theorem compact_nil : Object.compact [] = ['\x7b', '\x7d'] := rfl

theorem compact_cons (m : Text × Scalar) (o : Object) :
    Object.compact (m :: o) = '\x7b' :: (member m ++ (o.flatMap (fun n => ',' :: member n) ++ ['\x7d'])) := by
  simp [Object.compact, separated, List.flatMap_map, member]

/-- **Objects can be read back** whatever follows. -/
theorem readable_compact : SelfDelimiting Object.compact := by
  intro o p u v _ _ h
  cases o with
  | nil =>
    cases p with
    | nil => exact ⟨rfl, by simpa [compact_nil] using h⟩
    | cons n p => simp [compact_nil, compact_cons, member, writeString] at h
  | cons m o =>
    cases p with
    | nil => simp [compact_nil, compact_cons, member, writeString] at h
    | cons n p =>
      simp only [compact_cons, List.cons_append, List.append_assoc, List.nil_append, List.cons.injEq, true_and] at h
      obtain ⟨rfl, hrest⟩ := readable_member (endsWord_members o u) (endsWord_members p v) h
      obtain ⟨rfl, huv⟩ := readable_members.of_eq (by simpa using hrest)
      exact ⟨rfl, huv⟩

theorem lineFeed_not_mem_compact (o : Object) : '\n' ∉ o.compact := by
  cases o with
  | nil => decide
  | cons m o => simp [compact_cons, lineFeed_not_mem_member]

end FlowchartLexer.Json
