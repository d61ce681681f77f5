/-!
# Decimal text of natural numbers

Printing with a least number of digits, and reading a number that has to fit a
given number of bits.  A leading `+` is allowed in what is read; the empty
text, inner blanks and digits outside ASCII are not.
-/

namespace SerialConsole.Text

/-- The decimal digits of a number, padded with zeros on the left to at least
`width` digits. -/
def paddedDigits (width value : Nat) : List Char :=
  let digits := Nat.toDigits 10 value
  List.replicate (width - digits.length) '0' ++ digits

theorem isDigit_of_mem_paddedDigits {width value : Nat} {c : Char}
    (hc : c ∈ paddedDigits width value) : c.isDigit = true := by
  rcases List.mem_append.mp hc with hpadding | hdigit
  · rw [List.eq_of_mem_replicate hpadding]
    rfl
  · exact Nat.isDigit_of_mem_toDigits (by decide) (by decide) hdigit

def digitValue? (c : Char) : Option Nat :=
  if '0' ≤ c ∧ c ≤ '9' then some (c.toNat - '0'.toNat) else none

/-- The value of a non-empty run of ASCII digits. -/
def readDigits? : List Char → Option Nat
  | [] => none
  | digits => digits.foldlM (fun value c => (digitValue? c).map (10 * value + ·)) 0

/-- A natural number below `bound`, with an optional `+` before its digits. -/
def readBelow? (bound : Nat) (chars : List Char) : Option Nat := do
  let digits := match chars with
    | '+' :: rest => rest
    | _ => chars
  let value ← readDigits? digits
  if value < bound then some value else none

end SerialConsole.Text
