/-
Texts as lists of characters, and their size in UTF-8 bytes.

All of the library's definitions work on lists of characters, so that they can be reasoned about by induction. Byte
sizes are needed because offsets are reported in bytes.
-/
namespace FlowchartLexer

/-- a text, one Unicode scalar value per element -/
abbrev Text := List Char

/-- how many bytes a text takes in UTF-8 -/
def byteSize (t : Text) : Nat :=
  t.foldr (fun c n => c.utf8Size + n) 0

@[simp] theorem byteSize_nil : byteSize [] = 0 := rfl

@[simp] theorem byteSize_cons (c : Char) (t : Text) : byteSize (c :: t) = c.utf8Size + byteSize t := rfl

@[simp] theorem byteSize_append (s t : Text) : byteSize (s ++ t) = byteSize s + byteSize t := by
  induction s with
  | nil => simp
  | cons c s ih => simp [ih, Nat.add_assoc]

/-- the decimal digits of a number -/
def decimal (n : Nat) : Text :=
  Nat.toDigits 10 n

/-- a text put behind blanks so that it fills a field of at least the given width -/
def padLeft (width : Nat) (t : Text) : Text :=
  List.replicate (width - t.length) ' ' ++ t

end FlowchartLexer
