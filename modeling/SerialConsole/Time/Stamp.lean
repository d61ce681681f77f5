import SerialConsole.Text.Decimal

/-!
# Calendar seconds and their stamps

Saved transcripts are named after the second they were saved in.  A year from
0 to 9999 is written with four digits, any other with a sign and at least four
digits; everything after the year has a fixed width.
-/

namespace SerialConsole.Time

def isLeapYear (year : Int) : Bool :=
  year % 4 == 0 && (year % 100 != 0 || year % 400 == 0)

/-- The number of days in a month; 0 for a month that does not exist. -/
def daysInMonth (year : Int) (month : Nat) : Nat :=
  match month with
  | 1 | 3 | 5 | 7 | 8 | 10 | 12 => 31
  | 4 | 6 | 9 | 11 => 30
  | 2 => if isLeapYear year then 29 else 28
  | _ => 0

/-- The years that the calendar holds. -/
def firstYear : Int := -262143

def lastYear : Int := 262142

/-- One second of the proleptic Gregorian calendar, in local time.  A leap second
has the number 60. -/
structure Stamp where
  year : Int
  month : Nat
  day : Nat
  hour : Nat
  minute : Nat
  second : Nat
  year_mem : firstYear ≤ year ∧ year ≤ lastYear
  day_mem : 1 ≤ day ∧ day ≤ daysInMonth year month
  time_mem : hour < 24 ∧ minute < 60 ∧ second ≤ 60
  deriving DecidableEq

namespace Stamp

/-- The second with the given fields, if the calendar has it.  Leap seconds cannot
be given by their fields. -/
def ofFields? (year : Int) (month day hour minute second : Nat) : Option Stamp :=
  if year_mem : firstYear ≤ year ∧ year ≤ lastYear then
    if day_mem : 1 ≤ day ∧ day ≤ daysInMonth year month then
      if time_mem : hour < 24 ∧ minute < 60 ∧ second < 60 then
        some
          { year, month, day, hour, minute, second, year_mem, day_mem
            time_mem := ⟨time_mem.1, time_mem.2.1, Nat.le_of_lt time_mem.2.2⟩ }
      else none
    else none
  else none

def yearChars (year : Int) : List Char :=
  let digits := Text.paddedDigits 4 year.natAbs
  if year < 0 then '-' :: digits
  else if 9999 < year then '+' :: digits
  else digits

/-- The stamp `YYYYmmdd_HHMMSS`. -/
def chars (s : Stamp) : List Char :=
  let two := Text.paddedDigits 2
  yearChars s.year ++ two s.month ++ two s.day ++ '_' :: two s.hour ++ two s.minute ++
    two s.second

def text (s : Stamp) : String :=
  String.ofList s.chars

theorem mem_yearChars {year : Int} {c : Char} (hc : c ∈ yearChars year) :
    c.isDigit = true ∨ c ∈ ['-', '+'] := by
  rw [yearChars] at hc
  split at hc
  · rcases List.mem_cons.mp hc with rfl | hdigit
    · exact .inr (by decide)
    · exact .inl (Text.isDigit_of_mem_paddedDigits hdigit)
  · split at hc
    · rcases List.mem_cons.mp hc with rfl | hdigit
      · exact .inr (by decide)
      · exact .inl (Text.isDigit_of_mem_paddedDigits hdigit)
    · exact .inl (Text.isDigit_of_mem_paddedDigits hc)

/-- A stamp is written with digits, signs and an underscore. -/
theorem mem_chars {s : Stamp} {c : Char} (hc : c ∈ s.chars) :
    c.isDigit = true ∨ c ∈ ['-', '+', '_'] := by
  simp only [chars, List.mem_append, List.mem_cons, or_assoc] at hc
  rcases hc with hyear | hdigit | hdigit | rfl | hdigit | hdigit | hdigit
  · rcases mem_yearChars hyear with hdigit | hsign
    · exact .inl hdigit
    · exact .inr (List.mem_append_left ['_'] hsign)
  · exact .inl (Text.isDigit_of_mem_paddedDigits hdigit)
  · exact .inl (Text.isDigit_of_mem_paddedDigits hdigit)
  · exact .inr (by decide)
  · exact .inl (Text.isDigit_of_mem_paddedDigits hdigit)
  · exact .inl (Text.isDigit_of_mem_paddedDigits hdigit)
  · exact .inl (Text.isDigit_of_mem_paddedDigits hdigit)

end Stamp

end SerialConsole.Time
