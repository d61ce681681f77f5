import SerialConsole.Text.Wide

/-!
# Ligatures

In several scripts two letters are drawn as one, so that together they take the
columns of one.  Text is measured from its end, so a ligature is known by the
part that comes last, its ending, and by what may have been passed since.
-/

namespace SerialConsole.Text

/-- The mark that asks for its neighbours to be joined. -/
def joiner : Char := '\u200D'

/-- Whether a character may stand anywhere in a ligature: the joiner, the
variation selectors and the other marks that can be ignored. -/
def isIgnorableMark (c : Char) : Bool :=
  inRanges [(0x034F, 0x034F), (0x17B4, 0x17B5), (0x180B, 0x180D), (0x180F, 0x180F),
    (0x200D, 0x200D), (0xFE00, 0xFE0F), (0xE0100, 0xE01EF)] c.toNat

/-! ### Letters that take part -/

/-- The Arabic letters of the joining group `Alef`. -/
def isAlef (c : Char) : Bool :=
  inRanges [(0x0622, 0x0623), (0x0625, 0x0625), (0x0627, 0x0627), (0x0671, 0x0673),
    (0x0675, 0x0675), (0x0773, 0x0774), (0x0870, 0x0882)] c.toNat

/-- The Arabic letters of the joining group `Lam`. -/
def isLam (c : Char) : Bool :=
  inRanges [(0x0644, 0x0644), (0x06B5, 0x06B8), (0x076A, 0x076A), (0x08A6, 0x08A6),
    (0x08C7, 0x08C7)] c.toNat

/-- The ranges of the characters without a column that Arabic letters are not
joined across, first and last. -/
def partingRanges : List (Nat × Nat) :=
  [(0x0605, 0x0605), (0x0890, 0x0891), (0x08E2, 0x08E2), (0x09BE, 0x09BE), (0x09D7, 0x09D7),
   (0x0B3E, 0x0B3E), (0x0B57, 0x0B57), (0x0BBE, 0x0BBE), (0x0BD7, 0x0BD7), (0x0CC0, 0x0CC0),
   (0x0CC2, 0x0CC2), (0x0CC7, 0x0CC8), (0x0CCA, 0x0CCB), (0x0CD5, 0x0CD6), (0x0D3E, 0x0D3E),
   (0x0D4E, 0x0D4E), (0x0D57, 0x0D57), (0x0DCF, 0x0DCF), (0x0DDF, 0x0DDF), (0x1160, 0x11FF),
   (0x1715, 0x1715), (0x1734, 0x1734), (0x180E, 0x180E), (0x1B35, 0x1B35), (0x1B3B, 0x1B3B),
   (0x1B3D, 0x1B3D), (0x1B43, 0x1B44), (0x1BAA, 0x1BAA), (0x1BF2, 0x1BF3), (0x200C, 0x200D),
   (0x2065, 0x2069), (0x302E, 0x302F), (0x3164, 0x3164), (0xA8FA, 0xA8FA), (0xA953, 0xA953),
   (0xA9C0, 0xA9C0), (0xD7B0, 0xD7C6), (0xD7CB, 0xD7FB), (0xFFA0, 0xFFA0), (0xFFF0, 0xFFF8),
   (0x111C0, 0x111C0), (0x111C2, 0x111C3), (0x11235, 0x11235), (0x1133E, 0x1133E),
   (0x1134D, 0x1134D), (0x11357, 0x11357), (0x113B8, 0x113B8), (0x113C2, 0x113C2),
   (0x113C5, 0x113C5), (0x113C7, 0x113C9), (0x113CF, 0x113CF), (0x113D1, 0x113D1),
   (0x114B0, 0x114B0), (0x114BD, 0x114BD), (0x115AF, 0x115AF), (0x116B6, 0x116B6),
   (0x11930, 0x11930), (0x1193D, 0x1193D), (0x1193F, 0x1193F), (0x11941, 0x11941),
   (0x11A84, 0x11A89), (0x11D46, 0x11D46), (0x11F02, 0x11F02), (0x11F41, 0x11F41),
   (0x16FF0, 0x16FF1), (0x1D165, 0x1D166), (0x1D16D, 0x1D172), (0xE0000, 0xE0000),
   (0xE0002, 0xE001F), (0xE0080, 0xE00FF), (0xE01F0, 0xE0FFF)]

/-- Whether Arabic letters are joined across a character. -/
def isJoinedAcross (c : Char) : Bool :=
  charWidth c == 0 && !inRanges partingRanges c.toNat

/-- The Khmer letters that can stand below another. -/
def isKhmerBelow (c : Char) : Bool :=
  inRanges [(0x1780, 0x1782), (0x1784, 0x1787), (0x1789, 0x178C), (0x178E, 0x1793),
    (0x1795, 0x1798), (0x179B, 0x179D), (0x17A0, 0x17A0), (0x17A2, 0x17A2), (0x17A7, 0x17A7),
    (0x17AB, 0x17AC), (0x17AF, 0x17AF)] c.toNat

def isTifinaghConsonant (c : Char) : Bool :=
  inRanges [(0x2D31, 0x2D65), (0x2D6F, 0x2D6F)] c.toNat

/-- The Lisu tones that can come first of two. -/
def isFirstTone (c : Char) : Bool :=
  0xA4F8 ≤ c.toNat && c.toNat ≤ 0xA4FB

/-- The Lisu tones that can come second of two. -/
def isSecondTone (c : Char) : Bool :=
  c == '\uA4FC' || c == '\uA4FD'

/-! ### Endings -/

/-- The last part of a ligature.  Where it matters, it is known whether a joiner
stands before it. -/
inductive Ending where
  | alef
  | lamed (joined : Bool)
  | ya (joined : Bool)
  /-- A vowel sign before a joined ya. -/
  | vowelYa
  | consonant (joined : Bool)
  /-- The joiner of consonants before a consonant. -/
  | joinedConsonant
  | secondTone
  | orkhonI (joined : Bool)
  | khmerBelow
  /-- The vowel sign e of Kirat Rai, or what is drawn like it. -/
  | vowelE
  | vowelAi
  deriving DecidableEq, Repr

namespace Ending

/-- The ending that a character can be. -/
def of? (c : Char) : Option Ending :=
  if isAlef c then some .alef
  else if c = '\u05DC' then some (.lamed false)
  else if c = '\u1A10' then some (.ya false)
  else if isTifinaghConsonant c then some (.consonant false)
  else if isSecondTone c then some .secondTone
  else if c.toNat = 0x10C03 then some (.orkhonI false)
  else if isKhmerBelow c then some .khmerBelow
  else if c.toNat = 0x16D67 then some .vowelE
  else if c.toNat = 0x16D68 then some .vowelAi
  else none

/-- Whether selectors before an ending leave it in sight. -/
def isLasting : Ending → Bool
  | .vowelE | .vowelAi => false
  | _ => true

/-- Whether marks that can be ignored leave an ending in sight. -/
def isPatient : Ending → Bool
  | .alef | .vowelE | .vowelAi => false
  | _ => true

/-- An ending with a joiner before it. -/
def afterJoiner : Ending → Ending
  | .lamed _ => .lamed true
  | .ya _ => .ya true
  | .consonant _ => .consonant true
  | .orkhonI _ => .orkhonI true
  | ending => ending

/-- What a letter before an ending adds to the columns, and the ending that is
then in sight, if the two are drawn as one. -/
def fuse? (c : Char) : Ending → Option (Int × Option Ending)
  | .alef =>
      if isLam c then some (0, none)
      else if isJoinedAcross c then some (0, some .alef)
      else none
  | .lamed joined => if joined && c == '\u05D0' then some (0, none) else none
  | .ya joined => if joined && c == '\u1A17' then some (0, some .vowelYa) else none
  | .vowelYa => if c = '\u1A15' then some (0, none) else none
  | .consonant joined =>
      if c = '\u2D7F' then some (1, some .joinedConsonant)
      else if joined && isTifinaghConsonant c then some (0, none)
      else none
  | .joinedConsonant => if isTifinaghConsonant c then some (-1, none) else none
  | .secondTone => if isFirstTone c then some (0, none) else none
  | .orkhonI joined => if joined && c.toNat == 0x10C32 then some (0, none) else none
  | .khmerBelow => if c = '\u17D2' then some (-1, none) else none
  | .vowelE =>
      if c.toNat = 0x16D63 ∨ c.toNat = 0x16D69 then some (0, none)
      else if c.toNat = 0x16D67 then some (0, some .vowelAi)
      else if c.toNat = 0x16D68 then some (1, some .vowelE)
      else none
  | .vowelAi => if c.toNat = 0x16D63 then some (0, none) else none

/-- What a character before an ending adds to the columns, and the ending that
is then in sight, if the two belong together. -/
def join? (ending : Ending) (c : Char) : Option (Int × Option Ending) :=
  if ending.isPatient && c == joiner then some (0, some ending.afterJoiner)
  else if ending.isPatient && isIgnorableMark c then some (0, some ending)
  else ending.fuse? c

end Ending

end SerialConsole.Text
