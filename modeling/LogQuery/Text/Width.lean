import LogQuery.Unicode.Width

/-! How many cells of a terminal a text takes.

Most characters take the cells that they take alone. Some join with what stands behind them, so the
text is read from its end, and what was read last is remembered as far as it matters.
-/

set_option autoImplicit false

namespace LogQuery.Text

/-- Letters that form a ligature with letters ahead of them. Where there is a flag, it tells whether
a joiner stands between. -/
inductive Ligature where
  | alef
  | lamed (joined : Bool)
  | ya (joined : Bool)
  | vowelBeforeYa
  | tifinagh (joined : Bool)
  | joinerBeforeTifinagh
  | toneLetter
  | orkhonI (joined : Bool)
  | khmerLetter
  deriving DecidableEq, Repr

inductive Behind where
  | plain
  | lineFeed
  | skinTone
  | regionalIndicator
  | regionalIndicators
  | emoji
  | joinedEmoji
  | joinedKeycap
  | joinedIndicator
  | joinedIndicatorPairs
  | joinedIndicatorsOdd
  | tagEnd
  | tagDigits (count : Nat)
  | tagLetters (count : Nat)
  | vowelE
  | vowelAi
  | ligature (letter : Ligature)
  | textSelector (rest : Behind)
  | emojiSelector (rest : Behind)
  deriving DecidableEq, Repr

namespace Behind

/-- What is left of `rest` when the selector ahead of it found no use: ligatures still form. -/
def withoutSelector : Behind → Behind
  | ligature letter => ligature letter
  | _ => plain

def isJoined : Behind → Bool
  | joinedEmoji | joinedKeycap => true
  | _ => false

def ofChar (c : Char) : Behind :=
  let code := c.toNat
  if code == 0x5DC then ligature (.lamed false)
  else if [0x622, 0x623, 0x625, 0x627, 0x671, 0x672, 0x673, 0x675, 0x773, 0x774].contains code
      || (0x870 ≤ code && code ≤ 0x882) then ligature .alef
  else if 0x1780 ≤ code && code ≤ 0x17AF then
    if [0x1783, 0x1788, 0x178D, 0x1794, 0x1799, 0x179A, 0x179E, 0x179F, 0x17A1, 0x17A3, 0x17A4,
        0x17A5, 0x17A6, 0x17A8, 0x17A9, 0x17AA, 0x17AD, 0x17AE].contains code then plain
    else ligature .khmerLetter
  else if code == 0x1A10 then ligature (.ya false)
  else if (0x2D31 ≤ code && code ≤ 0x2D65) || code == 0x2D6F then ligature (.tifinagh false)
  else if code == 0xA4FC || code == 0xA4FD then ligature .toneLetter
  else if code == 0x10C03 then ligature (.orkhonI false)
  else if code == 0x16D67 then vowelE
  else if code == 0x16D68 then vowelAi
  else if 0x1F1E6 ≤ code && code ≤ 0x1F1FF then regionalIndicator
  else if 0x1F3FB ≤ code && code ≤ 0x1F3FF then skinTone
  else if Unicode.emojiByDefault.contains c then emoji
  else plain

end Behind

def isJoiningIgnorable (c : Char) : Bool :=
  let code := c.toNat
  code == 0x34F || code == 0x17B4 || code == 0x17B5 || (0x180B ≤ code && code ≤ 0x180D)
    || code == 0x180F || code == 0x200D || (0xFE00 ≤ code && code ≤ 0xFE0F)
    || (0xE0100 ≤ code && code ≤ 0xE01EF)

def isTifinaghConsonant (c : Char) : Bool :=
  (0x2D31 ≤ c.toNat && c.toNat ≤ 0x2D65) || c.toNat == 0x2D6F

def isRegionalIndicator (c : Char) : Bool := 0x1F1E6 ≤ c.toNat && c.toNat ≤ 0x1F1FF

def isLam (c : Char) : Bool :=
  [0x644, 0x6B5, 0x6B6, 0x6B7, 0x6B8, 0x76A, 0x8A6, 0x8C7].contains c.toNat

def joinLetter? (c : Char) : Ligature → Option (Int × Behind)
  | .alef =>
    if isLam c then some (0, .plain)
    else if Unicode.joiningTransparent.contains c then some (0, .ligature .alef) else none
  | .lamed true => if c == '\u05d0' then some (0, .plain) else none
  | .khmerLetter => if c == '\u17d2' then some (-1, .plain) else none
  | .ya true => if c == '\u1a17' then some (0, .ligature .vowelBeforeYa) else none
  | .vowelBeforeYa => if c == '\u1a15' then some (0, .plain) else none
  | .tifinagh joined =>
    if c == '\u2d7f' then some (1, .ligature .joinerBeforeTifinagh)
    else if joined && isTifinaghConsonant c then some (0, .plain) else none
  | .joinerBeforeTifinagh => if isTifinaghConsonant c then some (-1, .plain) else none
  | .toneLetter => if 0xA4F8 ≤ c.toNat && c.toNat ≤ 0xA4FB then some (0, .plain) else none
  | .orkhonI true => if c.toNat == 0x10C32 then some (0, .plain) else none
  | _ => none

def Ligature.join : Ligature → Ligature
  | lamed _ => lamed true
  | ya _ => ya true
  | tifinagh _ => tifinagh true
  | orkhonI _ => orkhonI true
  | letter => letter

/-- The same for emoji: skin tones, flags, keycaps and sequences held together by joiners. -/
def joinEmoji? (c : Char) (behind : Behind) : Option (Int × Behind) :=
  let isTagLetter := 0xE0061 ≤ c.toNat && c.toNat ≤ 0xE007A
  let isTagDigit := 0xE0030 ≤ c.toNat && c.toNat ≤ 0xE0039
  let isBlackFlag := c.toNat == 0x1F3F4
  let joined : Option (Int × Behind) := if c == '\u200d' then some (0, .joinedEmoji) else none
  match behind with
  | .skinTone => if Unicode.emojiModifierBases.contains c then some (0, .emoji) else joined
  | .regionalIndicator => if isRegionalIndicator c then some (1, .regionalIndicators) else none
  | .regionalIndicators => if isRegionalIndicator c then some (1, .regionalIndicators) else joined
  | .emoji => joined
  | .joinedIndicator => if isRegionalIndicator c then some (-1, .joinedIndicatorPairs) else none
  | .joinedIndicatorsOdd => if isRegionalIndicator c then some (-1, .joinedIndicatorPairs) else joined
  | .joinedIndicatorPairs => if isRegionalIndicator c then some (3, .joinedIndicatorsOdd) else joined
  | .joinedEmoji =>
    if c == '\u20e3' then some (0, .joinedKeycap)
    else if isRegionalIndicator c then some (1, .joinedIndicator)
    else if 0x1F3FB ≤ c.toNat && c.toNat ≤ 0x1F3FF then some (0, .skinTone)
    else if c.toNat == 0xE007F then some (0, .tagEnd)
    else if Behind.ofChar c == .emoji then some (0, .emoji)
    else none
  | .tagEnd =>
    if isTagLetter then some (0, .tagLetters 1)
    else if isTagDigit then some (0, .tagDigits 1) else none
  | .tagDigits count =>
    if isTagDigit && count < 3 then some (0, .tagDigits (count + 1))
    else if isBlackFlag && count == 3 then some (0, .emoji) else none
  | .tagLetters count =>
    if isTagLetter && count < 6 then some (0, .tagLetters (count + 1))
    else if isTagDigit && count < 5 then some (0, .tagDigits 1)
    else if isBlackFlag && 3 ≤ count then some (0, .emoji) else none
  | .vowelE =>
    match c.toNat with
    | 0x16D63 | 0x16D69 => some (0, .plain)
    | 0x16D67 => some (0, .vowelAi)
    | 0x16D68 => some (1, .vowelE)
    | _ => none
  | .vowelAi => if c.toNat == 0x16D63 then some (0, .plain) else none
  | _ => none

/-- The change in width that a character brings, and what those ahead of it see, when no selector
stands behind it. -/
def cellsBefore (c : Char) (behind : Behind) : Int × Behind :=
  if c.toNat ≤ 0xA0 then
    if c == '\n' then (1, .lineFeed)
    else if c == '\r' && behind == .lineFeed then (0, .plain)
    else (1, .plain)
  else if c == '\ufe0f' then (0, .emojiSelector behind)
  else if c == '\ufe0e' then (0, .textSelector behind)
  else
    let alone : Int × Behind := (Unicode.cells c, .ofChar c)
    match behind with
    | .ligature .alef => (joinLetter? c .alef).getD alone
    | .ligature letter =>
      if c == '\u200d' then (0, .ligature letter.join)
      else if isJoiningIgnorable c then (0, behind)
      else (joinLetter? c letter).getD alone
    | _ => (joinEmoji? c behind).getD alone

def cellsAhead (c : Char) : Behind → Int × Behind
  | .emojiSelector rest =>
    if Unicode.selectableEmoji.contains c then (if rest.isJoined then 0 else 2, .emoji)
    else cellsBefore c rest.withoutSelector
  | .textSelector rest =>
    let isIdeograph := 0x1F200 ≤ c.toNat && c.toNat ≤ 0x1F2FF
    if Unicode.selectableEmoji.contains c && Unicode.emojiByDefault.contains c && !isIdeograph then
      (1, .plain)
    else cellsBefore c rest.withoutSelector
  | behind => cellsBefore c behind

def width (text : List Char) : Nat :=
  (text.foldr (fun c (total, behind) =>
    let (cells, behind) := cellsAhead c behind
    (total + cells, behind)) ((0 : Int), Behind.plain)).1.toNat

def takeCells (room : Nat) : List Char → List Char
  | [] => []
  | c :: rest =>
    if Unicode.cells c ≤ room then c :: takeCells (room - Unicode.cells c) rest else []

def truncate (text : String) (cells : Nat) : String :=
  if width text.toList ≤ cells then text
  else if cells == 0 then ""
  else String.ofList (takeCells (cells - 1) text.toList ++ ['…'])

end LogQuery.Text
