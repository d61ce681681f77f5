import SerialConsole.Proofs.Time.Spans

/-!
# The range of the clock

Instants and spans are counted in nanoseconds.  A span later is an instant of
the clock as long as the sum of the counts does not pass the last instant, and
then it is the instant with that count.  The spans that can be written reach
from the first second of the clock to the last, and no further.
-/

namespace SerialConsole.Time

/-- The nanoseconds of a span. -/
def Span.count (span : Span) : Nat :=
  span.seconds * 1000000000 + span.nanoseconds

/-- The nanoseconds from the zero of the clock to an instant. -/
def Instant.count (instant : Instant) : Int :=
  instant.seconds * 1000000000 + instant.nanoseconds

/-- The last instant of the clock. -/
def Instant.last : Instant :=
  ⟨Int64.maxValue.toInt, 999999999⟩

/-- The clock can hold the instant. -/
structure Instant.Held (instant : Instant) : Prop where
  first : Int64.minValue.toInt ≤ instant.seconds
  last : instant.seconds ≤ Int64.maxValue.toInt
  nanoseconds : instant.nanoseconds < 1000000000

theorem toInt_minValue : Int64.minValue.toInt = -9223372036854775808 := by decide

theorem toInt_maxValue : Int64.maxValue.toInt = 9223372036854775807 := by decide

/-! ### A span later -/

section Later

variable {now : Instant} {span : Span}

/-- Within the range of the clock the sum of the counts is the count of the sum. -/
theorem Instant.exists_add?_of_le (hnow : now.Held)
    (hle : now.count + span.count ≤ Instant.last.count) :
    ∃ later, now.add? span = some later ∧ later.Held ∧ later.count = now.count + span.count := by
  have hfirst := hnow.first
  have hnanoseconds := hnow.nanoseconds
  simp only [Instant.count, Span.count, Instant.last] at hle
  have hrange : Int64.minValue.toInt ≤
        now.seconds + span.seconds + (now.nanoseconds + span.nanoseconds) / 1000000000 ∧
      now.seconds + span.seconds + (now.nanoseconds + span.nanoseconds) / 1000000000 ≤
        Int64.maxValue.toInt := by
    omega
  refine ⟨_, if_pos hrange, ⟨hrange.1, hrange.2, Nat.mod_lt _ (by decide)⟩, ?_⟩
  simp only [Instant.count, Span.count]
  omega

theorem Instant.add?_of_lt (hlt : Instant.last.count < now.count + span.count) :
    now.add? span = none := by
  simp only [Instant.count, Span.count, Instant.last] at hlt
  apply if_neg
  intro hrange
  have hupper := hrange.2
  omega

theorem Instant.add?_eq_none_iff (hnow : now.Held) :
    now.add? span = none ↔ Instant.last.count < now.count + span.count := by
  refine ⟨fun hnone => ?_, Instant.add?_of_lt⟩
  apply Int.lt_of_not_ge
  intro hle
  obtain ⟨later, hsome, -⟩ := Instant.exists_add?_of_le hnow hle
  rw [hsome] at hnone
  cases hnone

end Later

/-! ### Spans as they are written -/

section Written

variable {text : String} {span : Span} {now : Instant}

theorem Span.count_ofSeconds (count : Nat) : (ofSeconds count).count = count * 1000000000 := by
  rw [Span.count, ofSeconds, Nat.add_zero]

theorem Span.count_ofMillis (count : Nat) : (ofMillis count).count = count * 1000000 := by
  simp only [Span.count, ofMillis]
  omega

/-- A span is a number of seconds or of milliseconds. -/
theorem Span.exists_of_parse (hparse : Span.parse text = .ok span) :
    ∃ count, count < countBound ∧ (span = ofSeconds count ∨ span = ofMillis count) := by
  have hwritten := Written.of_parse hparse
  generalize (Text.trim text).toList = chars at hwritten
  obtain ⟨hnumeral, hcount, unit⟩ := hwritten
  refine ⟨_, hcount, ?_⟩
  cases unit with
  | unwritten => exact .inl rfl
  | seconds => exact .inl rfl
  | milliseconds => exact .inr rfl

/-- The longest span that can be written. -/
def Span.longest : Span :=
  ofSeconds 18446744073709551615

theorem Span.parse_longest : Span.parse "18446744073709551615" = .ok longest := by
  rfl

theorem Span.count_le_longest (hparse : Span.parse text = .ok span) :
    span.count ≤ longest.count := by
  obtain ⟨count, hcount, rfl | rfl⟩ := Span.exists_of_parse hparse
  · rw [longest, count_ofSeconds, count_ofSeconds]
    exact Nat.mul_le_mul_right _ (Nat.le_sub_one_of_lt hcount)
  · rw [longest, count_ofSeconds, count_ofMillis]
    exact Nat.mul_le_mul (Nat.le_sub_one_of_lt hcount) (by decide)

/-- Only from the first second of the clock does it reach as far as spans can be written. -/
theorem Instant.forall_add?_isSome_iff (hnow : now.Held) :
    (∀ text span, Span.parse text = .ok span → (now.add? span).isSome) ↔
      now.seconds = Int64.minValue.toInt := by
  have hfirst := hnow.first
  have hnanoseconds := hnow.nanoseconds
  constructor
  · intro hsome
    have hlongest := hsome _ _ Span.parse_longest
    have hle : ¬Instant.last.count < now.count + Span.longest.count := by
      rw [← Instant.add?_eq_none_iff hnow, ← ne_eq, ← Option.isSome_iff_ne_none]
      exact hlongest
    simp only [Instant.count, Instant.last, Span.longest, Span.count_ofSeconds, toInt_maxValue,
      toInt_minValue] at hle hfirst ⊢
    omega
  · intro hseconds text span hparse
    have hspan := Span.count_le_longest hparse
    have hle : now.count + span.count ≤ Instant.last.count := by
      simp only [Instant.count, Instant.last, Span.longest, Span.count_ofSeconds, toInt_maxValue,
        hseconds, toInt_minValue] at hspan ⊢
      omega
    obtain ⟨later, hlater, -⟩ := Instant.exists_add?_of_le hnow hle
    rw [hlater]
    rfl

end Written

end SerialConsole.Time
