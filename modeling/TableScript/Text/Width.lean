import TableScript.Text.CharWidth
import TableScript.Text.Emoji

/-!
# Display width

How many columns of a terminal a text takes.  Mostly these are the widths of its characters, but what follows a
character can change its width: emoji vary and join, and some scripts write several letters in the place of one.  A
text is therefore read from its end, and `Following` says what decides on the character before.
-/

namespace TableScript.Text

/-- The last characters of ligatures, as far as they have been read. -/
inductive LigatureEnd where
  /-- The Arabic letter alef and those like it, before which a lam takes no columns. -/
  | alef
  | hebrewLamed
  | bugineseYa
  | bugineseIYa
  | tifinagh
  /-- A Tifinagh consonant after the sign that joins it. -/
  | tifinaghJoined
  | lisuTone
  | oldTurkicI
  /-- A Khmer letter that can be written below another. -/
  | khmer
  deriving DecidableEq, Repr

/-- What stands after a character, as far as it decides on the width of that character. -/
inductive Following where
  | other
  | lineFeed
  | skinTone
  | flagLetter
  | flagLetters
  | picture
  /-- A joiner before a picture. -/
  | joined
  /-- A keycap sign before a joiner. -/
  | joinedKeycap
  /-- A single letter of a flag before a joiner, or an even or odd number of several. -/
  | joinedFlagLetter
  | joinedFlagLetters (even : Bool)
  /-- The end of a flag's tags before a joiner, with the letters or digits before it. -/
  | joinedTagLetters (count : Nat)
  | joinedTagDigits (count : Nat)
  | kiratRaiE
  | kiratRaiAi
  /-- The end of a ligature, with a joiner before it or not. -/
  | ligature (last : LigatureEnd) (beforeJoiner : Bool)
  deriving DecidableEq, Repr

/-- What stands after a character, with the variation selectors directly after it: a picture, text or a wide quotation
mark may be asked for. -/
structure Context where
  following : Following := .other
  asPicture : Bool := false
  asText : Bool := false
  asWide : Bool := false
  deriving DecidableEq, Repr

/-- A character that does not interrupt ligatures other than Arabic ones. -/
def isLigatureTransparent (c : Char) : Bool :=
  inRanges [(0x34F, 0x34F), (0x17B4, 0x17B5), (0x180B, 0x180D), (0x180F, 0x180F), (0x200D, 0x200D),
    (0xFE00, 0xFE0F), (0xE0100, 0xE01EF)] c.toNat

/-- The Arabic letters with the joining group lam. -/
def isArabicLam (c : Char) : Bool :=
  inRanges [(0x644, 0x644), (0x6B5, 0x6B8), (0x76A, 0x76A), (0x8A6, 0x8A6), (0x8C7, 0x8C7)] c.toNat

/-- The Arabic letters with the joining group alef. -/
def isArabicAlef (c : Char) : Bool :=
  inRanges [(0x622, 0x623), (0x625, 0x625), (0x627, 0x627), (0x671, 0x673), (0x675, 0x675), (0x773, 0x774),
    (0x870, 0x882)] c.toNat

/-- The Tifinagh letters that the joiner can join. -/
def isTifinaghLetter (c : Char) : Bool :=
  inRanges [(0x2D31, 0x2D65), (0x2D6F, 0x2D6F)] c.toNat

/-- The Khmer letters that take no columns below another. -/
def isKhmerSubscript (c : Char) : Bool :=
  inRanges [(0x1780, 0x1782), (0x1784, 0x1787), (0x1789, 0x178C), (0x178E, 0x1793), (0x1795, 0x1798),
    (0x179B, 0x179D), (0x17A0, 0x17A0), (0x17A2, 0x17A2), (0x17A7, 0x17A7), (0x17AB, 0x17AC),
    (0x17AF, 0x17AF)] c.toNat

/-- The quotation marks that can be asked for as wide ones. -/
def isQuotationMark (c : Char) : Bool :=
  inRanges [(0x2018, 0x2019), (0x201C, 0x201D)] c.toNat

def isTagLetter (c : Char) : Bool :=
  0xE0061 ≤ c.toNat && c.toNat ≤ 0xE007A

def isTagDigit (c : Char) : Bool :=
  0xE0030 ≤ c.toNat && c.toNat ≤ 0xE0039

namespace Following

/-- What a character is for the one before it, whatever stands after it. -/
def ofChar (c : Char) : Following :=
  let n := c.toNat
  if isArabicAlef c then .ligature .alef false
  else if n = 0x5DC then .ligature .hebrewLamed false
  else if n = 0x1A10 then .ligature .bugineseYa false
  else if isKhmerSubscript c then .ligature .khmer false
  else if isTifinaghLetter c then .ligature .tifinagh false
  else if n = 0xA4FC ∨ n = 0xA4FD then .ligature .lisuTone false
  else if n = 0x10C03 then .ligature .oldTurkicI false
  else if n = 0x16D67 then .kiratRaiE
  else if n = 0x16D68 then .kiratRaiAi
  else if isFlagLetter c then .flagLetter
  else if isSkinTone c then .skinTone
  else if isPicture c then .picture
  else .other

/-- The columns that a ligature of a letter with what follows it adds, and what the letter becomes for the one before
it; nothing if they do not join. -/
def ligate (c : Char) (last : LigatureEnd) (beforeJoiner : Bool) : Option (Int × Following) :=
  let n := c.toNat
  match last with
  | .alef =>
    if isArabicLam c then some (0, .other)
    else if isTransparent c then some (0, .ligature .alef beforeJoiner)
    else none
  | .hebrewLamed => if beforeJoiner ∧ n = 0x5D0 then some (0, .other) else none
  | .bugineseYa => if beforeJoiner ∧ n = 0x1A17 then some (0, .ligature .bugineseIYa false) else none
  | .bugineseIYa => if n = 0x1A15 then some (0, .other) else none
  | .tifinagh =>
    if n = 0x2D7F then some (1, .ligature .tifinaghJoined false)
    else if beforeJoiner ∧ isTifinaghLetter c then some (0, .other)
    else none
  | .tifinaghJoined => if isTifinaghLetter c then some (-1, .other) else none
  | .lisuTone => if 0xA4F8 ≤ n ∧ n ≤ 0xA4FB then some (0, .other) else none
  | .oldTurkicI => if beforeJoiner ∧ n = 0x10C32 then some (0, .other) else none
  | .khmer => if n = 0x17D2 then some (-1, .other) else none

/-- The columns that a character adds where it forms a unit with what follows it, and what the unit is for the
character before it. -/
def combine (c : Char) : Following → Option (Int × Following)
  | .ligature last beforeJoiner =>
    if last ≠ .alef ∧ c = '\u200D' then some (0, .ligature last true)
    else if last ≠ .alef ∧ isLigatureTransparent c then some (0, .ligature last beforeJoiner)
    else ligate c last beforeJoiner
  | .skinTone =>
    if takesSkinTone c then some (0, .picture) else if c = '\u200D' then some (0, .joined) else none
  | .flagLetter => if isFlagLetter c then some (1, .flagLetters) else none
  | .flagLetters =>
    if isFlagLetter c then some (1, .flagLetters) else if c = '\u200D' then some (0, .joined) else none
  | .picture => if c = '\u200D' then some (0, .joined) else none
  | .joined =>
    if c.toNat = 0x20E3 then some (0, .joinedKeycap)
    else if isFlagLetter c then some (1, .joinedFlagLetter)
    else if isSkinTone c then some (0, .skinTone)
    else if c.toNat = 0xE007F then some (0, .joinedTagLetters 0)
    else if isPicture c then some (0, .picture)
    else none
  | .joinedFlagLetter => if isFlagLetter c then some (-1, .joinedFlagLetters true) else none
  | .joinedFlagLetters even =>
    if isFlagLetter c then some (if even then 3 else -1, .joinedFlagLetters !even)
    else if c = '\u200D' then some (0, .joined)
    else none
  | .joinedTagLetters count =>
    if isTagLetter c ∧ count < 6 then some (0, .joinedTagLetters (count + 1))
    else if isTagDigit c ∧ count < 5 then some (0, .joinedTagDigits 1)
    else if c.toNat = 0x1F3F4 ∧ 3 ≤ count then some (0, .picture)
    else none
  | .joinedTagDigits count =>
    if isTagDigit c ∧ count < 3 then some (0, .joinedTagDigits (count + 1))
    else if c.toNat = 0x1F3F4 ∧ count = 3 then some (0, .picture)
    else none
  | .kiratRaiE =>
    if c.toNat = 0x16D63 ∨ c.toNat = 0x16D69 then some (0, .other)
    else if c.toNat = 0x16D67 then some (0, .kiratRaiAi)
    else if c.toNat = 0x16D68 then some (1, .kiratRaiE)
    else none
  | .kiratRaiAi => if c.toNat = 0x16D63 then some (0, .other) else none
  | _ => none

def isLigature : Following → Bool
  | .ligature _ _ => true
  | _ => false

/-- Whether a picture has been joined to what comes next, so that it adds no columns. -/
def isJoined : Following → Bool
  | .joined => true
  | .joinedKeycap => true
  | _ => false

end Following

namespace Context

/-- The context without a request for a picture, which the character that it would be for does not follow. -/
def withoutPicture (context : Context) : Context :=
  if context.following.isLigature then { context with asPicture := false } else {}

/-- The context before a variation selector, if the character is one that changes widths. -/
def select? (context : Context) (c : Char) : Option Context :=
  let kept := context.following.isLigature
  if c = '\uFE0F' then
    some (if kept ∨ context.following.isJoined then { context with asPicture := true } else { asPicture := true })
  else if c = '\uFE0E' then
    some (if kept then { context with asText := true } else { asText := true })
  else if c = '\uFE01' then
    some (if kept then { context with asWide := true } else { asWide := true })
  else none

/-- The columns that a character beyond Latin takes in a context, and the context for the one before it. -/
def read (context : Context) (c : Char) : Int × Context :=
  match context.select? c with
  | some context => (0, context)
  | none =>
    if context.asText ∧ narrowsAsText c then (1, {})
    else if context.asWide ∧ isQuotationMark c then (2, {})
    else
      match context.following.combine c with
      | some (columns, following) => (columns, { following })
      | none => (charWidth c, { following := .ofChar c })

/-- The columns that a character takes in a context, and the context for the one before it. -/
def step (context : Context) (c : Char) : Int × Context :=
  if context.asPicture ∧ hasVariations c then
    (if context.following.isJoined then 0 else 2, { following := .picture })
  else
    let context := if context.asPicture then context.withoutPicture else context
    if c.toNat ≤ 0xA0 then
      if c = '\n' then (1, { following := .lineFeed })
      else if c = '\r' ∧ context.following = .lineFeed then (0, {})
      else (1, {})
    else context.read c

end Context

/-- The columns of a text in all, and the context that it makes for a character before it. -/
def measure (cs : List Char) : Int × Context :=
  cs.foldr (fun c (columns, context) =>
    let (more, context) := context.step c
    (columns + more, context)) (0, {})

/-- The columns that a text takes. -/
def width (cs : List Char) : Nat :=
  (measure cs).1.toNat

end TableScript.Text
