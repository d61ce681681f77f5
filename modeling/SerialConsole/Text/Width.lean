import SerialConsole.Text.Ligature
import SerialConsole.Text.Picture

/-!
# The width of text in columns

The columns of a line are not always those of its characters together: selectors
make a character wide or narrow, letters are drawn as one, and a joiner makes
one picture of several.  All of this hangs on what comes after a character, so
a line is measured from its end.
-/

namespace SerialConsole.Text

/-- What a character can be asked to show as by the mark after it. -/
inductive Selector where
  | text
  | picture
  | wide
  deriving DecidableEq, Repr

def Selector.of? (c : Char) : Option Selector :=
  if c = '\uFE0E' then some .text
  else if c = '\uFE0F' then some .picture
  else if c = '\uFE01' then some .wide
  else none

/-- How many flag letters stand before a joiner. -/
inductive FlagRun where
  | one
  | even
  | odd
  deriving DecidableEq, Repr

/-- What comes after a character, as far as it matters for the columns. -/
inductive Sight where
  | plain
  | ending (last : Ending)
  | picture
  | tone
  /-- One flag letter or several. -/
  | flag (several : Bool)
  /-- A joiner and a picture. -/
  | joined
  /-- The frame of a key, a joiner and a picture. -/
  | joinedKey
  /-- Flag letters, a joiner and a picture. -/
  | joinedFlag (run : FlagRun)
  /-- So many letters that end the name of a region, its end mark, a joiner and a
  picture. -/
  | tagLetters (count : Nat)
  /-- So many digits of the name of a region, the rest of it, its end mark, a
  joiner and a picture. -/
  | tagDigits (count : Nat)
  deriving DecidableEq, Repr

namespace Sight

/-- What is in sight after a character that belongs to nothing behind it. -/
def of (c : Char) : Sight :=
  match Ending.of? c with
  | some last => .ending last
  | none =>
      if isTone c then .tone
      else if isFlagLetter c then .flag false
      else if isPicture c then .picture
      else .plain

/-- What stays in sight beyond a selector. -/
def beyond (selector : Selector) : Sight → Sight
  | .ending last => if last.isLasting then .ending last else .plain
  | .joined => if selector = .picture then .joined else .plain
  | .joinedKey => if selector = .picture then .joinedKey else .plain
  | _ => .plain

/-- What stays in sight beyond a selector that asks for nothing. -/
def released : Sight → Sight
  | .ending last => .ending last
  | _ => .plain

def isJoined : Sight → Bool
  | .joined | .joinedKey => true
  | _ => false

/-- What a character adds to the columns of what is in sight, and what is then
in sight, if the two belong together. -/
def join? (c : Char) : Sight → Option (Int × Sight)
  | .plain => none
  | .ending last =>
      (last.join? c).map fun (columns, next?) => (columns, next?.elim .plain .ending)
  | .picture => if c = joiner then some (0, .joined) else none
  | .tone =>
      if isPerson c then some (0, .picture)
      else if c = joiner then some (0, .joined)
      else none
  | .flag several =>
      if isFlagLetter c then some (1, .flag true)
      else if several && c == joiner then some (0, .joined)
      else none
  | .joined =>
      if c = '\u20E3' then some (0, .joinedKey)
      else if isFlagLetter c then some (1, .joinedFlag .one)
      else if isTone c then some (0, .tone)
      else if c.toNat = 0xE007F then some (0, .tagLetters 0)
      else if isPicture c then some (0, .picture)
      else none
  | .joinedKey => none
  | .joinedFlag run =>
      if isFlagLetter c then
        match run with
        | .one | .odd => some (-1, .joinedFlag .even)
        | .even => some (3, .joinedFlag .odd)
      else if run ≠ .one ∧ c = joiner then some (0, .joined)
      else none
  | .tagLetters count =>
      if isTagLetter c && count < 6 then some (0, .tagLetters (count + 1))
      else if isTagDigit c && count < 5 then some (0, .tagDigits 1)
      else if c.toNat = 0x1F3F4 ∧ 3 ≤ count then some (0, .picture)
      else none
  | .tagDigits count =>
      if isTagDigit c && count < 3 then some (0, .tagDigits (count + 1))
      else if c.toNat = 0x1F3F4 ∧ count = 3 then some (0, .picture)
      else none

end Sight

/-- What follows a character: a selector for it, if there is one, and what is in
sight beyond. -/
structure Following where
  selector : Option Selector
  sight : Sight
  deriving DecidableEq, Repr

namespace Following

/-- Nothing that matters. -/
def nothing : Following := ⟨none, .plain⟩

/-- Whether a character is a quotation mark that can be asked to be wide. -/
def isQuote (c : Char) : Bool :=
  c == '\u2018' || c == '\u2019' || c == '\u201C' || c == '\u201D'

/-- The columns of a character as its selector wants it, if it can be so. -/
def selected? (f : Following) (c : Char) : Option (Int × Sight) :=
  match f.selector with
  | some .picture =>
      if canBePicture c then some (if f.sight.isJoined then 0 else 2, .picture) else none
  | some .text => if canBeText c then some (1, .plain) else none
  | some .wide => if isQuote c then some (2, .plain) else none
  | none => none

/-- The columns of a character that is no selector, and what is then in
sight. -/
def measure (f : Following) (c : Char) : Int × Sight :=
  match f.selected? c with
  | some measured => measured
  | none =>
      let sight := if f.selector.isSome then f.sight.released else f.sight
      if c.toNat ≤ 0xA0 then (1, .plain)
      else (sight.join? c).getD (charWidth c, Sight.of c)

/-- The columns that a character adds to a line, and what then follows the
character before it. -/
def step (f : Following) (c : Char) : Int × Following :=
  match Selector.of? c with
  | some selector =>
      let sight := if f.selector = some .picture then f.sight.released else f.sight
      (0, ⟨some selector, sight.beyond selector⟩)
  | none =>
      let (columns, sight) := f.measure c
      (columns, ⟨none, sight⟩)

end Following

/-- The columns of a line, and what its start lets a character before it
see. -/
def measureLine (line : List Char) : Int × Following :=
  line.foldr
    (fun c (columns, following) =>
      let (more, next) := following.step c
      (columns + more, next))
    (0, Following.nothing)

/-- The columns that a line of text takes. -/
def width (line : List Char) : Nat :=
  (measureLine line).1.toNat

end SerialConsole.Text
