/-
Writings that can be read back: what is written can be told from what follows it.

`ReadableBefore P f` says so of a way `f` of writing things, as long as what follows has `P`. With nothing behind it this
is injectivity; a writing that ends itself is readable in front of every tail.

- `readable_of_isWord`: words, that is texts of letters and digits, are readable in front of tails that end a word.
- `readable_toDigits`: so are numbers, in any base up to sixteen.
- `ReadableBefore.list`: a list with a mark behind it, where no entry starts with the mark.
-/
import FlowchartLexer.Text
import Mathlib.Data.Nat.Digits.Defs
import Mathlib.Tactic.Common

namespace FlowchartLexer

/-- what is written with `f` can be read back in front of any tail with `P`, and so can the tail -/
def ReadableBefore {α : Type} (P : Text → Prop) (f : α → Text) : Prop :=
  ∀ ⦃a b : α⦄ ⦃u v : Text⦄, P u → P v → f a ++ u = f b ++ v → a = b ∧ u = v

/-- readable whatever follows -/
abbrev SelfDelimiting {α : Type} (f : α → Text) : Prop :=
  ReadableBefore (fun _ => True) f

section

variable {α : Type} {P : Text → Prop} {f : α → Text}

theorem ReadableBefore.injective (h : ReadableBefore P f) (hnil : P []) : Function.Injective f := by
  intro a b hab
  exact (h hnil hnil (by rw [hab])).1

theorem SelfDelimiting.of_eq (h : SelfDelimiting f) {a b : α} {u v : Text} (he : f a ++ u = f b ++ v) :
    a = b ∧ u = v :=
  h trivial trivial he

/-! ## Words -/

/-- letters and digits only -/
def IsWord (t : Text) : Prop :=
  ∀ c ∈ t, c.isAlphanum

/-- a text with which no word goes on -/
def EndsWord (u : Text) : Prop :=
  ∀ c ∈ u.head?, ¬ c.isAlphanum

@[simp] theorem endsWord_nil : EndsWord [] := by simp [EndsWord]

@[simp] theorem endsWord_cons {c : Char} {u : Text} : EndsWord (c :: u) ↔ ¬ c.isAlphanum := by simp [EndsWord]

theorem IsWord.not_mem {t : Text} (h : IsWord t) {c : Char} (hc : c.isAlphanum = false) : c ∉ t := by
  intro hmem
  have := h c hmem
  rw [hc] at this
  cases this

/-- the word at the start of a text is what stands before its end -/
theorem IsWord.takeWhile_append {t u : Text} (ht : IsWord t) (hu : EndsWord u) :
    (t ++ u).takeWhile Char.isAlphanum = t := by
  rw [List.takeWhile_append_of_pos ht]
  cases u with
  | nil => exact List.append_nil t
  | cons c u => rw [List.takeWhile_cons_of_neg (endsWord_cons.1 hu), List.append_nil]

/-- **Words are readable** in front of what ends a word. -/
theorem readable_of_isWord (hf : Function.Injective f) (hw : ∀ a, IsWord (f a)) : ReadableBefore EndsWord f := by
  intro a b u v hu hv h
  have hab : f a = f b := by
    calc f a = (f a ++ u).takeWhile Char.isAlphanum := ((hw a).takeWhile_append hu).symm
      _ = (f b ++ v).takeWhile Char.isAlphanum := by rw [h]
      _ = f b := (hw b).takeWhile_append hv
  obtain rfl := hf hab
  exact ⟨rfl, List.append_cancel_left h⟩

/-! ## Lists with a mark behind them -/

/-- **A list can be read back up to its mark** if its entries can, and if none of them starts with the mark. -/
theorem ReadableBefore.list {mark : Char} (hf : ReadableBefore P f) (hstart : ∀ a, ∃ c t, f a = c :: t ∧ c ≠ mark)
    (hP : ∀ (as : List α) (u : Text), P (as.flatMap f ++ mark :: u)) :
    SelfDelimiting fun as : List α => as.flatMap f ++ [mark] := by
  intro as bs u v _ _ h
  simp only [List.append_assoc, List.singleton_append] at h
  -- entry by entry in both lists; where one of them ends, the mark stands against the start of an entry
  induction as generalizing bs with
  | nil =>
    cases bs with
    | nil => exact ⟨rfl, (List.cons.inj h).2⟩
    | cons b bs =>
      obtain ⟨c, t, hb, hc⟩ := hstart b
      rw [List.flatMap_cons, hb] at h
      exact absurd (List.cons.inj h).1.symm hc
  | cons a as ih =>
    cases bs with
    | nil =>
      obtain ⟨c, t, ha, hc⟩ := hstart a
      rw [List.flatMap_cons, ha] at h
      exact absurd (List.cons.inj h).1 hc
    | cons b bs =>
      rw [List.flatMap_cons, List.flatMap_cons, List.append_assoc, List.append_assoc] at h
      obtain ⟨rfl, hrest⟩ := hf (hP as u) (hP bs v) h
      obtain ⟨rfl, huv⟩ := ih hrest
      exact ⟨rfl, huv⟩

end

/-! ## Numbers -/

theorem digitChar_injective : ∀ m < 16, ∀ n < 16, Nat.digitChar m = Nat.digitChar n → m = n := by
  decide

theorem isAlphanum_digitChar : ∀ n < 16, (Nat.digitChar n).isAlphanum := by
  decide

section

variable {b : Nat}

theorem isWord_toDigits (h1 : 1 < b) (h16 : b ≤ 16) (n : Nat) : IsWord (Nat.toDigits b n) := by
  induction n using Nat.strong_induction_on with
  | _ n ih =>
    intro c hc
    rcases Nat.lt_or_ge n b with hn | hn
    · rw [Nat.toDigits_of_lt_base hn, List.mem_singleton] at hc
      exact hc ▸ isAlphanum_digitChar n (by omega)
    · rw [Nat.toDigits_of_base_le h1 hn, List.mem_append, List.mem_singleton] at hc
      rcases hc with hc | rfl
      · exact ih (n / b) (Nat.div_lt_self (by omega) h1) c hc
      · exact isAlphanum_digitChar _ ((Nat.mod_lt n (by omega)).trans_le h16)

theorem toDigits_injective (h1 : 1 < b) (h16 : b ≤ 16) : Function.Injective (Nat.toDigits b) := by
  -- a number with one digit never has the digits of one with more
  have hshort : ∀ m n, m < b → b ≤ n → Nat.toDigits b m ≠ Nat.toDigits b n := by
    intro m n hm hn h
    rw [Nat.toDigits_of_lt_base hm, Nat.toDigits_of_base_le h1 hn] at h
    have hl := congrArg List.length h
    simp [Nat.toDigits_ne_nil] at hl
  intro m
  induction m using Nat.strong_induction_on with
  | _ m ih =>
    intro n h
    rcases Nat.lt_or_ge m b with hm | hm <;> rcases Nat.lt_or_ge n b with hn | hn
    · rw [Nat.toDigits_of_lt_base hm, Nat.toDigits_of_lt_base hn] at h
      exact digitChar_injective m (by omega) n (by omega) (List.cons.inj h).1
    · exact absurd h (hshort m n hm hn)
    · exact absurd h.symm (hshort n m hn hm)
    · rw [Nat.toDigits_of_base_le h1 hm, Nat.toDigits_of_base_le h1 hn] at h
      obtain ⟨hdiv, hmod⟩ := List.append_inj' h rfl
      have hq : m / b = n / b := ih (m / b) (Nat.div_lt_self (by omega) h1) hdiv
      have hr : m % b = n % b :=
        digitChar_injective _ ((Nat.mod_lt m (by omega)).trans_le h16) _ ((Nat.mod_lt n (by omega)).trans_le h16)
          (List.cons.inj hmod).1
      rw [← Nat.div_add_mod m b, ← Nat.div_add_mod n b, hq, hr]

/-- **Numbers are readable** in front of what ends a word. -/
theorem readable_toDigits (h1 : 1 < b) (h16 : b ≤ 16) : ReadableBefore EndsWord (Nat.toDigits b) :=
  readable_of_isWord (toDigits_injective h1 h16) (isWord_toDigits h1 h16)

end

theorem isWord_decimal (n : Nat) : IsWord (decimal n) :=
  isWord_toDigits (by decide) (by decide) n

theorem decimal_ne_nil (n : Nat) : decimal n ≠ [] :=
  Nat.toDigits_ne_nil

theorem readable_decimal : ReadableBefore EndsWord decimal :=
  readable_toDigits (by decide) (by decide)

end FlowchartLexer
