/-!
# Searching text without regard to ASCII case

Tags in log records are found wherever they occur, and names are compared, up
to the case of the letters `A` to `Z`.  No other letter has a case here.
-/

namespace SerialConsole.Text

/-- The lower-case form of `A` to `Z`; every other character is kept. -/
def lowerAscii (c : Char) : Char :=
  if 'A' ≤ c ∧ c ≤ 'Z' then Char.ofNat (c.toNat + 32) else c

/-- Whether `needle` occurs as a run of consecutive characters. -/
def occursIn (needle : List Char) : List Char → Bool
  | [] => needle.isEmpty
  | c :: rest => needle.isPrefixOf (c :: rest) || occursIn needle rest

/-- Whether two texts differ at most in the case of ASCII letters. -/
def sameUpToCase (left right : List Char) : Bool :=
  left.map lowerAscii == right.map lowerAscii

theorem occursIn_iff {needle chars : List Char} :
    occursIn needle chars = true ↔ needle <:+: chars := by
  induction chars with
  | nil => simp [occursIn]
  | cons c rest ih =>
      simp [occursIn, ih, List.infix_cons_iff, List.isPrefixOf_iff_prefix]

end SerialConsole.Text
