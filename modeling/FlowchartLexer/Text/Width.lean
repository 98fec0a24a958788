/-
The width of a text in terminal cells.

Most characters have a width of their own: none, one or two cells. But a character may merge with what follows it, so
the text is read from its end, and what has been read is summed up in a `Context`: a variation selector that waits for
its character, and the beginning of a ligature, flag or emoji sequence.

- An emoji sequence (characters joined by U+200D, with skin tones and selectors) takes two cells as a whole.
- A selector makes the character before it an emoji, which takes two cells, or a plain text character, which takes one.
- Letters that merge with the one before them take no further cell.
-/
import FlowchartLexer.Text
import FlowchartLexer.Unicode.Cells
import FlowchartLexer.Unicode.Emoji
import FlowchartLexer.Unicode.Joining

namespace FlowchartLexer.Width

open Unicode

/-! ## What follows a character -/

/-- a variation selector that waits for the character before it -/
inductive Selector where
  | emoji
  | text
  /-- a quotation mark of one cell -/
  | narrowQuote
  /-- a quotation mark of two cells -/
  | wideQuote
  deriving DecidableEq, Repr

/-- a letter that can be the end of a ligature -/
inductive LigatureEnd where
  | hebrewLamed
  | bugineseYa
  /-- the vowel I in front of a joined ya -/
  | bugineseVowelYa
  | tifinaghConsonant
  /-- the joiner in front of a consonant -/
  | tifinaghJoined
  | orkhonI
  | lisuTone
  | khmerLetter
  deriving DecidableEq, Repr

/-- where the tail of a joined emoji sequence stands -/
inductive Joined where
  /-- at the joiner -/
  | joiner
  /-- at a keycap in front of it -/
  | keycap
  /-- at the last half of a flag -/
  | flag
  /-- after an even number of halves -/
  | evenFlag
  /-- after an odd number of halves, three or more -/
  | oddFlag
  /-- in a tag sequence, after its end and a number of letters -/
  | tagLetters (n : Nat)
  /-- in a tag sequence, after a number of digits -/
  | tagDigits (n : Nat)
  deriving DecidableEq, Repr

/-- the beginning of what follows -/
inductive Start where
  /-- nothing that merges -/
  | plain
  | lineFeed
  /-- a skin tone -/
  | modifier
  /-- one half of a flag -/
  | flagHalf
  /-- more halves of flags -/
  | flagHalves
  | emoji
  | joined (j : Joined)
  | alef
  /-- a letter, and whether a joiner stands in front of it -/
  | ligature (e : LigatureEnd) (joiner : Bool)
  | kiratVowelE
  | kiratVowelAi
  deriving DecidableEq, Repr

/-- what follows a character -/
structure Context where
  start : Start
  selector : Option Selector
  deriving DecidableEq, Repr

namespace Context

/-- nothing that merges -/
def plain : Context :=
  ⟨.plain, none⟩

def of (s : Start) : Context :=
  ⟨s, none⟩

end Context

namespace Start

/-- a selector may stand in front of it without breaking a ligature -/
def isLigature : Start → Bool
  | .alef => true
  | .ligature _ _ => true
  | _ => false

/-- an emoji in front of it belongs to it -/
def isOpenJoin : Start → Bool
  | .joined .joiner => true
  | .joined .keycap => true
  | _ => false

end Start

/-! ## Selectors -/

namespace Context

/-- the character in front takes the emoji form -/
def selectEmoji (x : Context) : Context :=
  if x.start.isLigature || x.start.isOpenJoin then ⟨x.start, some .emoji⟩ else ⟨.plain, some .emoji⟩

/-- the character in front takes the text form -/
def selectText (x : Context) : Context :=
  if x.start.isLigature then ⟨x.start, some .text⟩ else ⟨.plain, some .text⟩

/-- the selector had no effect -/
def ignoreSelector (x : Context) : Context :=
  if x.start.isLigature then ⟨x.start, none⟩ else .plain

end Context

/-! ## Single characters -/

/-- U+200D, which joins emoji and letters -/
def joiner : Char :=
  '\u200D'

/-- the marks whose width a selector can choose -/
def isQuotationMark (c : Char) : Bool :=
  c = '‘' || c = '’' || c = '“' || c = '”'

/-- a text selector makes it narrow -/
def isNarrowedByText (c : Char) : Bool :=
  isSelectable c && isEmoji c && !(0x1F200 ≤ c.toNat && c.toNat ≤ 0x1F2FF)

/-- the width of a character in front of nothing that merges, and the context that it makes -/
def ofChar (c : Char) : Int × Context :=
  if c = '\uFE0F' then (0, ⟨.plain, some .emoji⟩)
  else if c = '\uFE0E' then (0, ⟨.plain, some .text⟩)
  else if c = '\uFE00' || c = '\uFE02' then (0, ⟨.plain, some .narrowQuote⟩)
  else if c = '\uFE01' then (0, ⟨.plain, some .wideQuote⟩)
  else if c = '\u05DC' then (1, .of (.ligature .hebrewLamed false))
  else if c = '\u1A10' then (1, .of (.ligature .bugineseYa false))
  else if isTifinagh c then (1, .of (.ligature .tifinaghConsonant false))
  else if c.toNat = 0x10C03 then (1, .of (.ligature .orkhonI false))
  else if c = '\uA4FC' || c = '\uA4FD' then (1, .of (.ligature .lisuTone true))
  else if isCoengLetter c then (1, .of (.ligature .khmerLetter true))
  else if isAlef c then (1, .of .alef)
  else if c.toNat = 0x16D67 then (1, .of .kiratVowelE)
  else if c.toNat = 0x16D68 then (1, .of .kiratVowelAi)
  else if isRegionalIndicator c then (1, .of .flagHalf)
  else if isModifier c then (2, .of .modifier)
  else if isEmoji c then (2, .of .emoji)
  else if c = '\u17D8' then (3, .plain)
  else if isZeroWidth c then (0, .plain)
  else if isWide c then (2, .plain)
  else (1, .plain)

/-! ## Characters that merge with what follows -/

/-- a character in front of the tail of a joined emoji sequence, if it belongs to the sequence -/
def beforeJoined? (c : Char) : Joined → Option (Int × Context)
  | .joiner =>
    if c = '\u20E3' then some (0, .of (.joined .keycap))
    else if isRegionalIndicator c then some (1, .of (.joined .flag))
    else if isModifier c then some (0, .of .modifier)
    else if c.toNat = 0xE007F then some (0, .of (.joined (.tagLetters 0)))
    else if isEmoji c then some (0, .of .emoji)
    else none
  | .keycap => none
  | .flag => if isRegionalIndicator c then some (-1, .of (.joined .evenFlag)) else none
  | .oddFlag => if isRegionalIndicator c then some (-1, .of (.joined .evenFlag)) else none
  | .evenFlag => if isRegionalIndicator c then some (3, .of (.joined .oddFlag)) else none
  | .tagLetters n =>
    if 0xE0061 ≤ c.toNat && c.toNat ≤ 0xE007A && n < 6 then some (0, .of (.joined (.tagLetters (n + 1))))
    else if 0xE0030 ≤ c.toNat && c.toNat ≤ 0xE0039 && n < 5 then some (0, .of (.joined (.tagDigits 1)))
    else if c.toNat = 0x1F3F4 && 3 ≤ n then some (0, .of .emoji)
    else none
  | .tagDigits n =>
    if 0xE0030 ≤ c.toNat && c.toNat ≤ 0xE0039 && n < 3 then some (0, .of (.joined (.tagDigits (n + 1))))
    else if c.toNat = 0x1F3F4 && n = 3 then some (0, .of .emoji)
    else none

/-- a letter in front of the end of a ligature, if they merge -/
def beforeLigature? (c : Char) (e : LigatureEnd) (joined : Bool) : Option (Int × Context) :=
  match e with
  | .hebrewLamed => if joined && c = '\u05D0' then some (0, .plain) else none
  | .khmerLetter => if c = '\u17D2' then some (-1, .plain) else none
  | .bugineseYa => if joined && c = '\u1A17' then some (0, .of (.ligature .bugineseVowelYa true)) else none
  | .bugineseVowelYa => if c = '\u1A15' then some (0, .plain) else none
  | .tifinaghConsonant =>
    if c = '\u2D7F' then some (1, .of (.ligature .tifinaghJoined true))
    else if joined && isTifinagh c then some (0, .plain)
    else none
  | .tifinaghJoined => if isTifinagh c then some (-1, .plain) else none
  | .lisuTone => if '\uA4F8' ≤ c && c ≤ '\uA4FB' then some (0, .plain) else none
  | .orkhonI => if joined && c.toNat = 0x10C32 then some (0, .plain) else none

/-- a character in front of something, if they merge -/
def merge? (c : Char) : Start → Option (Int × Context)
  | .plain => none
  | .lineFeed => none
  | .ligature e joined =>
    if c = joiner then some (0, .of (.ligature e true))
    else if isLigatureTransparent c then some (0, .of (.ligature e joined))
    else beforeLigature? c e joined
  | .alef =>
    if isLam c then some (0, .plain)
    else if isJoiningTransparent c then some (0, .of .alef)
    else none
  | .modifier =>
    if isModifierBase c then some (0, .of .emoji)
    else if c = joiner then some (0, .of (.joined .joiner))
    else none
  | .flagHalf => if isRegionalIndicator c then some (1, .of .flagHalves) else none
  | .flagHalves =>
    if isRegionalIndicator c then some (1, .of .flagHalves)
    else if c = joiner then some (0, .of (.joined .joiner))
    else none
  | .emoji => if c = joiner then some (0, .of (.joined .joiner)) else none
  | .joined j =>
    if c = joiner && (j = .evenFlag || j = .oddFlag) then some (0, .of (.joined .joiner)) else beforeJoined? c j
  | .kiratVowelE =>
    if c.toNat = 0x16D63 || c.toNat = 0x16D69 then some (0, .plain)
    else if c.toNat = 0x16D67 then some (0, .of .kiratVowelAi)
    else if c.toNat = 0x16D68 then some (1, .of .kiratVowelE)
    else none
  | .kiratVowelAi => if c.toNat = 0x16D63 then some (0, .plain) else none

/-! ## Texts -/

/-- a character beyond U+00A0 in front of something, where no emoji selector waits -/
def before (c : Char) (x : Context) : Int × Context :=
  if x = .plain then ofChar c
  else if c = '\uFE0F' then (0, x.selectEmoji)
  else if c = '\uFE0E' then (0, x.selectText)
  else
    match x.selector with
    | some .text => if isNarrowedByText c then (1, .plain) else rest { x with selector := none }
    | some .narrowQuote => if isQuotationMark c then (1, .plain) else ofChar c
    | some .wideQuote => if isQuotationMark c then (2, .plain) else ofChar c
    | _ => rest x
where
  /-- past the selectors -/
  rest (x : Context) : Int × Context :=
    (merge? c x.start).getD (ofChar c)

/-- the cells that a character adds to what follows it, and the context that it makes -/
def step (c : Char) (x : Context) : Int × Context :=
  if x.selector = some .emoji && isSelectable c then
    (if x.start.isOpenJoin then 0 else 2, .of .emoji)
  else
    let x := if x.selector = some .emoji then x.ignoreSelector else x
    if c.toNat ≤ 0xA0 then
      if c = '\n' then (1, .of .lineFeed)
      else if c = '\r' && x = .of .lineFeed then (0, .plain)
      else (1, .plain)
    else
      before c x

/-- the cells of a text and the context in front of it -/
def measure (t : Text) : Int × Context :=
  t.foldr (fun c r => let s := step c r.2; (r.1 + s.1, s.2)) (0, .plain)

end FlowchartLexer.Width

namespace FlowchartLexer

/-- the width of a text in terminal cells -/
def displayWidth (t : Text) : Nat :=
  (Width.measure t).1.toNat

end FlowchartLexer
