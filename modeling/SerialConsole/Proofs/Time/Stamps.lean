import SerialConsole.Proofs.Text.Numerals
import SerialConsole.Time.Stamp

/-!
# Stamps tell their second

Everything in a stamp but the year has a fixed width, so a stamp is read from its
end: the time of day, then the day and the month, and what is left is the year
with its sign.
-/

namespace SerialConsole.Time

open Text (paddedDigits)

theorem daysInMonth_le (year : Int) (month : Nat) : daysInMonth year month ≤ 31 := by
  unfold daysInMonth
  split
  case h_12 => split <;> decide
  all_goals decide

theorem daysInMonth_of_gt {month : Nat} (hmonth : 12 < month) (year : Int) :
    daysInMonth year month = 0 := by
  unfold daysInMonth
  split
  all_goals omega

namespace Stamp

variable (stamp later : Stamp)

/-! ### The year -/

theorem minus_mem_yearChars_iff {year : Int} : '-' ∈ yearChars year ↔ year < 0 := by
  have hdigits : '-' ∉ paddedDigits 4 year.natAbs := by
    intro hmem
    exact absurd (Text.isDigit_of_mem_paddedDigits hmem) (by decide)
  rw [yearChars]
  split
  · exact iff_of_true List.mem_cons_self ‹_›
  · refine iff_of_false ?_ ‹_›
    split
    · exact List.not_mem_cons_of_ne_of_not_mem (by decide) hdigits
    · exact hdigits

theorem filter_isDigit_yearChars (year : Int) :
    (yearChars year).filter Char.isDigit = paddedDigits 4 year.natAbs := by
  have hdigits : (paddedDigits 4 year.natAbs).filter Char.isDigit = paddedDigits 4 year.natAbs :=
    List.filter_eq_self.mpr fun c hc => Text.isDigit_of_mem_paddedDigits hc
  rw [yearChars]
  split
  · rw [List.filter_cons_of_neg (by decide), hdigits]
  · split
    · rw [List.filter_cons_of_neg (by decide), hdigits]
    · exact hdigits

/-- The digits give the year but for its sign, and the sign is written. -/
theorem yearChars_injective : Function.Injective yearChars := by
  intro year other hyears
  have hminus : year < 0 ↔ other < 0 := by
    rw [← minus_mem_yearChars_iff, hyears, minus_mem_yearChars_iff]
  have habs : year.natAbs = other.natAbs := by
    apply Text.paddedDigits_injective 4
    rw [← filter_isDigit_yearChars, hyears, filter_isDigit_yearChars]
  omega

/-! ### Date and time of day -/

def dateChars : List Char :=
  yearChars stamp.year ++ paddedDigits 2 stamp.month ++ paddedDigits 2 stamp.day

def timeChars : List Char :=
  paddedDigits 2 stamp.hour ++ paddedDigits 2 stamp.minute ++ paddedDigits 2 stamp.second

theorem chars_eq : stamp.chars = stamp.dateChars ++ '_' :: stamp.timeChars := by
  simp only [chars, dateChars, timeChars, List.append_assoc, List.cons_append]

theorem month_lt_and_day_lt : stamp.month < 100 ∧ stamp.day < 100 := by
  obtain ⟨hfirst, hlast⟩ := stamp.day_mem
  have hdays := daysInMonth_le stamp.year stamp.month
  refine ⟨?_, by omega⟩
  apply Nat.lt_of_not_le
  intro hmonth
  rw [daysInMonth_of_gt (by omega)] at hlast
  omega

theorem length_timeChars : stamp.timeChars.length = 6 := by
  obtain ⟨hhour, hminute, hsecond⟩ := stamp.time_mem
  simp only [timeChars, List.length_append]
  rw [Text.length_paddedDigits_two (by omega), Text.length_paddedDigits_two (by omega),
    Text.length_paddedDigits_two (by omega)]

/-- The underscore of a stamp stands before its time of day. -/
theorem underscore_notMem_dateChars : '_' ∉ stamp.dateChars := by
  intro hmem
  simp only [dateChars, List.mem_append] at hmem
  rcases hmem with (hyear | hmonth) | hday
  · rcases mem_yearChars hyear with hdigit | hsign
    · exact absurd hdigit (by decide)
    · exact absurd hsign (by decide)
  · exact absurd (Text.isDigit_of_mem_paddedDigits hmonth) (by decide)
  · exact absurd (Text.isDigit_of_mem_paddedDigits hday) (by decide)

variable {stamp later}

/-- The six fields are read one by one from the ends of the two parts. -/
theorem eq_of_dateChars_of_timeChars (hdate : stamp.dateChars = later.dateChars)
    (htime : stamp.timeChars = later.timeChars) : stamp = later := by
  obtain ⟨hmonth, hday⟩ := stamp.month_lt_and_day_lt
  obtain ⟨hmonth', hday'⟩ := later.month_lt_and_day_lt
  obtain ⟨hhour, hminute, hsecond⟩ := stamp.time_mem
  obtain ⟨hhour', hminute', hsecond'⟩ := later.time_mem
  obtain ⟨hdate, hdays⟩ := Text.append_paddedDigits_two_inj hday hday' hdate
  obtain ⟨hyear, hmonths⟩ := Text.append_paddedDigits_two_inj hmonth hmonth' hdate
  obtain ⟨htime, hseconds⟩ :=
    Text.append_paddedDigits_two_inj (by omega : stamp.second < 100) (by omega) htime
  obtain ⟨hhours, hminutes⟩ :=
    Text.append_paddedDigits_two_inj (by omega : stamp.minute < 100) (by omega) htime
  rw [Stamp.mk.injEq]
  exact ⟨yearChars_injective hyear, hmonths, hdays, Text.paddedDigits_injective 2 hhours, hminutes,
    hseconds⟩

end Stamp

end SerialConsole.Time
