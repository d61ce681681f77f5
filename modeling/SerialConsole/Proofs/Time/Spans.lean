import SerialConsole.Proofs.Text.Numerals
import SerialConsole.Proofs.Text.Trimming
import SerialConsole.Time.Span

/-!
# How spans are written

A span is written as a numeral and a unit with nothing between them.  The unit
begins at the first letter, so that `ms` is never taken for a number that ends
in `m` with the unit `s`, and a text has no second reading.
-/

namespace SerialConsole.Time

open Text (Digits Numeral trim trimChars)

/-- The units, one of which is not written. -/
inductive SpanUnit where
  | unwritten
  | seconds
  | milliseconds
  deriving DecidableEq, Repr

namespace SpanUnit

def chars : SpanUnit → List Char
  | unwritten => []
  | seconds => ['s']
  | milliseconds => ['m', 's']

/-- What a number of the unit comes to. -/
def span (unit : SpanUnit) (count : Nat) : Span :=
  match unit with
  | unwritten | seconds => { seconds := count, nanoseconds := 0 }
  | milliseconds => { seconds := count / 1000, nanoseconds := count % 1000 * 1000000 }

end SpanUnit

/-- The text is a numeral, for a number of 64 bits, and a unit, and the span is
what they come to. -/
inductive Written : List Char → Span → Prop where
  | intro {numeral : List Char} {count : Nat} (hnumeral : Numeral numeral count)
      (hcount : count < UInt64.size) (unit : SpanUnit) :
      Written (numeral ++ unit.chars) (unit.span count)

variable {text : String} {span : Span} {numeral chars : List Char} {count : Nat}

/-! ### Numeral and unit -/

theorem mem_numeral (hnumeral : Numeral numeral count) {c : Char} (hc : c ∈ numeral) :
    c.isDigit = true ∨ c = '+' := by
  cases hnumeral with
  | bare hdigits => exact .inl (hdigits.isDigit c hc)
  | plus hdigits =>
      rcases List.mem_cons.mp hc with hplus | hdigit
      · exact .inr hplus
      · exact .inl (hdigits.isDigit c hdigit)

/-- Neither the letters of a unit nor anything else but digits and a plus. -/
theorem letter_notMem_numeral (hnumeral : Numeral numeral count) {c : Char}
    (hdigit : c.isDigit = false) (hplus : c ≠ '+') : c ∉ numeral := by
  intro hc
  rcases mem_numeral hnumeral hc with hisDigit | hisPlus
  · rw [hdigit] at hisDigit
    cases hisDigit
  · exact hplus hisPlus

/-- Nothing is lost when the unit is split off. -/
theorem exists_unit (chars : List Char) :
    ∃ unit : SpanUnit, chars = (splitUnit chars).1 ++ unit.chars ∧
      (splitUnit chars).2 = unit.span := by
  unfold splitUnit
  split
  · rename_i count hend
    refine ⟨.milliseconds, ?_, rfl⟩
    rw [← List.reverse_reverse chars, hend, List.reverse_cons, List.reverse_cons,
      List.append_assoc]
    rfl
  · rename_i count _ hend
    refine ⟨.seconds, ?_, rfl⟩
    rw [← List.reverse_reverse chars, hend, List.reverse_cons]
    rfl
  · exact ⟨.unwritten, (List.append_nil chars).symm, rfl⟩

theorem splitUnit_append (hnumeral : Numeral numeral count) (unit : SpanUnit) :
    splitUnit (numeral ++ unit.chars) = (numeral, unit.span) := by
  have hs : 's' ∉ numeral.reverse :=
    mt List.mem_reverse.mp (letter_notMem_numeral hnumeral (by decide) (by decide))
  have hm : 'm' ∉ numeral.reverse :=
    mt List.mem_reverse.mp (letter_notMem_numeral hnumeral (by decide) (by decide))
  have hback := List.reverse_reverse numeral
  unfold splitUnit
  rw [List.reverse_append]
  generalize numeral.reverse = back at hs hm hback
  cases unit with
  | unwritten =>
      rw [SpanUnit.chars, List.reverse_nil, List.nil_append, List.append_nil]
      split
      · exact absurd List.mem_cons_self hs
      · exact absurd List.mem_cons_self hs
      · rfl
  | seconds =>
      rw [SpanUnit.chars, List.reverse_singleton, List.singleton_append]
      split
      · rename_i hend
        rw [(List.cons.inj hend).2] at hm
        exact absurd List.mem_cons_self hm
      · rename_i hend
        rw [← (List.cons.inj hend).2, hback]
        rfl
      · rename_i hother
        exact absurd rfl (hother back)
  | milliseconds => exact congrArg (·, Span.ofMillis) hback

theorem SpanUnit.chars_injective : Function.Injective SpanUnit.chars := by
  intro unit other hchars
  cases unit <;> cases other <;> first | rfl | cases hchars

/-- No text is read under two units, and none as two numbers. -/
theorem numeral_append_unit_inj {other : List Char} {number : Nat} {unit unit' : SpanUnit}
    (hnumeral : Numeral numeral count) (hother : Numeral other number)
    (hsame : numeral ++ unit.chars = other ++ unit'.chars) :
    numeral = other ∧ count = number ∧ unit = unit' := by
  have hsplit := congrArg splitUnit hsame
  rw [splitUnit_append hnumeral, splitUnit_append hother] at hsplit
  obtain rfl := congrArg Prod.fst hsplit
  exact ⟨rfl, hnumeral.unique hother, SpanUnit.chars_injective (List.append_cancel_left hsame)⟩

/-! ### Reading -/

/-- What is found wrong with a text that is not read. -/
def Span.faultOf (text : String) : SpanFault :=
  if trim text = "" then .blank else .malformed (trim text)

theorem Span.parse_of_blank (hblank : trim text = "") : Span.parse text = .error .blank := by
  have hchars : trimChars text.toList = [] := by
    rw [← Text.toList_trim, hblank, String.toList_empty]
  simp only [Span.parse, hchars, List.isEmpty_nil, if_true]

theorem Span.parse_of_not_blank (hblank : trim text ≠ "") :
    Span.parse text =
      match Text.readBelow? countBound (splitUnit (trim text).toList).1 with
      | some count => .ok ((splitUnit (trim text).toList).2 count)
      | none => .error (.malformed (trim text)) := by
  have hchars : (trimChars text.toList).isEmpty = false := by
    rwa [List.isEmpty_eq_false_iff, ← Text.toList_trim, ne_eq, String.toList_eq_nil_iff]
  rw [Span.parse, Text.toList_trim]
  simp only [hchars, Bool.false_eq_true, if_false]
  rfl

theorem Written.of_parse (hparse : Span.parse text = .ok span) :
    Written (trim text).toList span := by
  by_cases hblank : trim text = ""
  · rw [Span.parse_of_blank hblank] at hparse
    cases hparse
  · rw [Span.parse_of_not_blank hblank] at hparse
    obtain ⟨unit, hchars, hunit⟩ := exists_unit (trim text).toList
    split at hparse
    · rename_i count hread
      obtain ⟨hnumeral, hcount⟩ := Text.readBelow?_eq_some_iff.mp hread
      have hwritten := Written.intro hnumeral hcount unit
      rw [← hchars, ← hunit] at hwritten
      exact Except.ok.inj hparse ▸ hwritten
    · cases hparse

theorem Span.parse_of_numeral (hnumeral : Numeral numeral count) {unit : SpanUnit}
    (htext : (trim text).toList = numeral ++ unit.chars) :
    Span.parse text =
      if count < UInt64.size then .ok (unit.span count) else .error (.malformed (trim text)) := by
  have hblank : trim text ≠ "" := by
    rw [ne_eq, ← String.toList_eq_nil_iff, htext]
    exact List.append_ne_nil_of_left_ne_nil hnumeral.ne_nil _
  rw [Span.parse_of_not_blank hblank, htext, splitUnit_append hnumeral]
  by_cases hcount : count < UInt64.size
  · have hread : Text.readBelow? countBound numeral = some count :=
      Text.readBelow?_eq_some_iff.mpr ⟨hnumeral, hcount⟩
    simp only [hread, if_pos hcount]
  · simp only [if_neg hcount]
    cases hread : Text.readBelow? countBound numeral with
    | none => rfl
    | some number =>
        obtain ⟨hnumber, hlt⟩ := Text.readBelow?_eq_some_iff.mp hread
        exact absurd (hnumeral.unique hnumber ▸ hlt) hcount

theorem isBlank_of_mem_numeral_append_unit (hnumeral : Numeral numeral count) (unit : SpanUnit) :
    ∀ c ∈ numeral ++ unit.chars, Text.isBlank c = false := by
  have hunit : unit.chars.any Text.isBlank = false := by
    cases unit <;> decide
  intro c hc
  rcases List.mem_append.mp hc with hnumber | hletter
  · rcases mem_numeral hnumeral hnumber with hdigit | rfl
    · exact Text.isBlank_of_isDigit hdigit
    · decide
  · exact Text.isBlank_eq_false_of_any hunit c hletter

/-- The decimal text of a number is one of its numerals. -/
theorem Span.parse_toString_append (count : Nat) (unit : SpanUnit) :
    Span.parse (toString count ++ String.ofList unit.chars) =
      if count < UInt64.size then .ok (unit.span count)
      else .error (.malformed (toString count ++ String.ofList unit.chars)) := by
  have hnumeral := Text.numeral_toDigits count
  have hchars : (toString count ++ String.ofList unit.chars).toList =
      Nat.toDigits 10 count ++ unit.chars := by
    rw [Nat.toString_eq_ofList_toDigits, String.toList_append, String.toList_ofList,
      String.toList_ofList]
  have htrim : (trim (toString count ++ String.ofList unit.chars)).toList =
      Nat.toDigits 10 count ++ unit.chars := by
    rw [Text.toList_trim, hchars]
    exact (Text.trimmed_of_forall (isBlank_of_mem_numeral_append_unit hnumeral unit)).trimChars_eq
  have hsame : trim (toString count ++ String.ofList unit.chars) =
      toString count ++ String.ofList unit.chars :=
    String.toList_injective (htrim.trans hchars.symm)
  rw [Span.parse_of_numeral hnumeral htrim, hsame]

/-- What is written is read, and nothing else. -/
theorem Span.parse_eq_ok_iff : Span.parse text = .ok span ↔ Written (trim text).toList span := by
  constructor
  · exact Written.of_parse
  · intro hwritten
    generalize hchars : (trim text).toList = chars at hwritten
    obtain ⟨hnumeral, hcount, unit⟩ := hwritten
    rw [Span.parse_of_numeral hnumeral hchars, if_pos hcount]

theorem Span.parse_eq_error_iff :
    Span.parse text = .error (faultOf text) ↔ ∀ span, ¬Written (trim text).toList span := by
  constructor
  · intro hparse span hwritten
    rw [Span.parse_eq_ok_iff.mpr hwritten] at hparse
    cases hparse
  · intro hnone
    by_cases hblank : trim text = ""
    · rw [Span.parse_of_blank hblank, faultOf, if_pos hblank]
    · cases hparse : Span.parse text with
      | ok span => exact absurd (Written.of_parse hparse) (hnone span)
      | error fault =>
          rw [Span.parse_of_not_blank hblank] at hparse
          split at hparse
          · cases hparse
          · rw [faultOf, if_neg hblank, Except.error.inj hparse]

end SerialConsole.Time
