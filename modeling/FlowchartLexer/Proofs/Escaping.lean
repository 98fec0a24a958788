/-
Texts in double quotes: nothing is lost, and they are told from what follows.

Quoted texts and JSON strings are written in the same way. Some characters have a letter that stands for them behind a
backslash, some are written by their code behind `\u`, and the others are written as they are. `Escaping` is what the two
have in common; they differ in their letters and in their codes.

- `Escaping.readable`: no two characters are written alike, and no writing is a beginning of another.
- `Escaping.readable_text`: so a text between two quotation marks ends at the second one, whatever it contains.
- `Escaping.lineFeed_not_mem_text`: and it stays on one line.
- `readable_quoted`, `Json.readable_writeString`: both ways of writing.
-/
import FlowchartLexer.Proofs.Readable
import FlowchartLexer.Text.Json
import FlowchartLexer.Text.Quoted
import Mathlib.Data.List.Nodup

namespace FlowchartLexer

/-! ## Letters, codes and plain characters -/

/-- a way of writing the characters between two double quotes -/
structure Escaping (escape : Char → Text) where
  /-- the letters, each with the character that it stands for -/
  letters : List (Char × Char)
  /-- what may be written by its code -/
  coded : Char → Prop
  code : Char → Text
  cases : ∀ c, (∃ x, (x, c) ∈ letters ∧ escape c = ['\\', x]) ∨ (coded c ∧ escape c = '\\' :: 'u' :: code c) ∨
    (c ∉ letters.map Prod.snd ∧ escape c = [c])
  /-- a letter stands for one character, and none of them is the one in front of a code -/
  nodup : ('u' :: letters.map Prod.fst).Nodup
  /-- these are never written as they are -/
  special : ∀ c ∈ ['"', '\\', '\n'], c ∈ letters.map Prod.snd
  readable_code : SelfDelimiting fun c : { c // coded c } => code c
  lineFeed_not_mem_letters : '\n' ∉ letters.map Prod.fst
  lineFeed_not_mem_code : ∀ c, coded c → '\n' ∉ code c

namespace Escaping

variable {escape : Char → Text} (e : Escaping escape)

theorem ne_of_plain {c : Char} (hc : c ∉ e.letters.map Prod.snd) : c ≠ '"' ∧ c ≠ '\\' ∧ c ≠ '\n' := by
  have h := fun d hd => ne_of_mem_of_not_mem (e.special d hd) hc
  exact ⟨(h '"' (by decide)).symm, (h '\\' (by decide)).symm, (h '\n' (by decide)).symm⟩

theorem letter_ne {x c : Char} (hx : (x, c) ∈ e.letters) : x ≠ 'u' :=
  ne_of_mem_of_not_mem (List.mem_map_of_mem hx) (List.nodup_cons.1 e.nodup).1

theorem letter_inj {x c d : Char} (hc : (x, c) ∈ e.letters) (hd : (x, d) ∈ e.letters) : c = d :=
  congrArg Prod.snd (List.inj_on_of_nodup_map (List.nodup_cons.1 e.nodup).2 hc hd rfl)

include e in
/-- **One character can be read back** whatever follows: by what stands behind the backslash, or by itself. -/
theorem readable : SelfDelimiting escape := by
  intro c d u v _ _ h
  -- a backslash tells the plain characters from the others, and what is behind it letters from codes
  rcases e.cases c with ⟨x, hx, hc⟩ | ⟨hx, hc⟩ | ⟨hx, hc⟩ <;>
    rcases e.cases d with ⟨y, hy, hd⟩ | ⟨hy, hd⟩ | ⟨hy, hd⟩ <;>
    simp only [hc, hd, List.cons_append, List.nil_append, List.cons.injEq, true_and] at h
  · obtain ⟨rfl, huv⟩ := h
    exact ⟨e.letter_inj hx hy, huv⟩
  · exact absurd h.1 (e.letter_ne hx)
  · exact absurd h.1.symm (e.ne_of_plain hy).2.1
  · exact absurd h.1.symm (e.letter_ne hy)
  · obtain ⟨hcd, huv⟩ := e.readable_code.of_eq (a := ⟨c, hx⟩) (b := ⟨d, hy⟩) h
    exact ⟨congrArg Subtype.val hcd, huv⟩
  · exact absurd h.1.symm (e.ne_of_plain hy).2.1
  · exact absurd h.1 (e.ne_of_plain hx).2.1
  · exact absurd h.1 (e.ne_of_plain hx).2.1
  · exact h

include e in
theorem exists_cons (c : Char) : ∃ d t, escape c = d :: t ∧ d ≠ '"' := by
  rcases e.cases c with ⟨x, -, hc⟩ | ⟨-, hc⟩ | ⟨hx, hc⟩
  · exact ⟨_, _, hc, by decide⟩
  · exact ⟨_, _, hc, by decide⟩
  · exact ⟨_, _, hc, (e.ne_of_plain hx).1⟩

include e in
theorem lineFeed_not_mem (c : Char) : '\n' ∉ escape c := by
  rcases e.cases c with ⟨x, hx, hc⟩ | ⟨hx, hc⟩ | ⟨hx, hc⟩
  · have hne := ne_of_mem_of_not_mem (List.mem_map_of_mem hx) e.lineFeed_not_mem_letters
    simpa [hc] using hne.symm
  · simpa [hc] using e.lineFeed_not_mem_code c hx
  · simpa [hc] using (e.ne_of_plain hx).2.2.symm

/-! ## Texts between two marks -/

include e in
/-- **A text between two marks can be read back** whatever follows. -/
theorem readable_text : SelfDelimiting fun t : Text => '"' :: (t.flatMap escape ++ ['"']) := by
  intro s t u v _ _ h
  exact (e.readable.list e.exists_cons fun _ _ => trivial).of_eq (List.cons.inj h).2

include e in
theorem lineFeed_not_mem_text (t : Text) : '\n' ∉ '"' :: (t.flatMap escape ++ ['"']) := by
  simpa using fun c _ => e.lineFeed_not_mem c

end Escaping

/-! ## Quoted texts -/

namespace Quoted

/-- the code in braces, as the number that it is -/
theorem readable_code : SelfDelimiting fun c : Char => '\x7b' :: (Nat.toDigits 16 c.toNat ++ ['\x7d']) := by
  intro c d u v _ _ h
  simp only [List.cons_append, List.append_assoc, List.cons.injEq, true_and] at h
  obtain ⟨hcd, huv⟩ := readable_toDigits (by decide) (by decide) (by simp) (by simp) h
  exact ⟨Char.toNat_inj.1 hcd, (List.cons.inj huv).2⟩

/-- quoted texts have six letters, and codes in braces -/
def escaping : Escaping (escape '"') where
  letters := [('0', '\x00'), ('t', '\t'), ('r', '\r'), ('n', '\n'), ('\\', '\\'), ('"', '"')]
  coded _ := True
  code c := '\x7b' :: (Nat.toDigits 16 c.toNat ++ ['\x7d'])
  cases c := by
    unfold escape codePoint
    split_ifs <;> simp_all
  nodup := by simp
  special := by simp
  readable_code := by
    intro c d u v _ _ h
    obtain ⟨hcd, huv⟩ := readable_code.of_eq h
    exact ⟨Subtype.ext hcd, huv⟩
  lineFeed_not_mem_letters := by decide
  lineFeed_not_mem_code c _ := by
    simpa using (isWord_toDigits (by decide) (by decide) c.toNat).not_mem (by decide)

end Quoted

theorem readable_quoted : SelfDelimiting quoted :=
  Quoted.escaping.readable_text

theorem lineFeed_not_mem_quoted (t : Text) : '\n' ∉ quoted t :=
  Quoted.escaping.lineFeed_not_mem_text t

/-! ## JSON strings -/

namespace Json

/-- two digits are enough for the characters below the blank -/
theorem readable_code :
    SelfDelimiting fun c : { c : Char // c.toNat < 0x20 } =>
      ['0', '0', Nat.digitChar (c.1.toNat / 16), Nat.digitChar (c.1.toNat % 16)] := by
  rintro ⟨c, hc⟩ ⟨d, hd⟩ u v - - h
  simp only [List.cons_append, List.nil_append, List.cons.injEq, true_and] at h hc hd
  obtain ⟨hhigh, hlow, huv⟩ := h
  have hq : c.toNat / 16 = d.toNat / 16 := digitChar_injective _ (by omega) _ (by omega) hhigh
  have hr : c.toNat % 16 = d.toNat % 16 := digitChar_injective _ (by omega) _ (by omega) hlow
  have hcd : c.toNat = d.toNat := by omega
  exact ⟨Subtype.ext (Char.toNat_inj.1 hcd), huv⟩

/-- JSON strings have seven letters, and codes with four digits -/
def escaping : Escaping escape where
  letters := [('"', '"'), ('\\', '\\'), ('n', '\n'), ('r', '\r'), ('t', '\t'), ('b', '\x08'), ('f', '\x0c')]
  coded c := c.toNat < 0x20
  code c := ['0', '0', Nat.digitChar (c.toNat / 16), Nat.digitChar (c.toNat % 16)]
  cases c := by
    unfold escape
    split_ifs with h
    · have hc : c = '"' ∨ c = '\\' := by simpa using h
      rcases hc with rfl | rfl <;> simp
    all_goals simp_all
  nodup := by simp
  special := by simp
  readable_code := readable_code
  lineFeed_not_mem_letters := by decide
  lineFeed_not_mem_code c hc := by
    have hdigit : ∀ n < 16, '\n' ≠ Nat.digitChar n := by decide
    simp [hdigit _ (show c.toNat / 16 < 16 by omega), hdigit _ (Nat.mod_lt c.toNat (show 0 < 16 by decide))]

theorem readable_writeString : SelfDelimiting writeString :=
  escaping.readable_text

theorem lineFeed_not_mem_writeString (t : Text) : '\n' ∉ writeString t :=
  escaping.lineFeed_not_mem_text t

end Json

end FlowchartLexer
