import SerialConsole.Text.Blank
import SerialConsole.Text.Decimal

/-!
# Spans of time

How long to listen is written as a number of seconds, with or without `s`, or
of milliseconds with `ms`.  The unit follows the digits directly.
-/

namespace SerialConsole.Time

/-- A length of time in seconds and nanoseconds below a second. -/
structure Span where
  seconds : Nat
  nanoseconds : Nat
  deriving DecidableEq, Repr

namespace Span

def zero : Span := ⟨0, 0⟩

def ofSeconds (count : Nat) : Span := ⟨count, 0⟩

def ofMillis (count : Nat) : Span := ⟨count / 1000, count % 1000 * 1000000⟩

/-- The whole milliseconds of a span. -/
def toMillis (span : Span) : Nat :=
  span.seconds * 1000 + span.nanoseconds / 1000000

end Span

/-- The numbers a span may be written with are those below this bound. -/
def countBound : Nat := UInt64.size

inductive SpanFault where
  | blank
  | malformed (text : String)
  deriving DecidableEq, Repr

def SpanFault.message : SpanFault → String
  | .blank => "duration must not be empty"
  | .malformed text => "invalid duration value: " ++ text

/-- The number and the unit of a trimmed text.  The unit `ms` is tried before
`s`, which it ends in. -/
def splitUnit (chars : List Char) : List Char × (Nat → Span) :=
  match chars.reverse with
  | 's' :: 'm' :: count => (count.reverse, Span.ofMillis)
  | 's' :: count => (count.reverse, Span.ofSeconds)
  | _ => (chars, Span.ofSeconds)

/-- Read a span, blanks around it aside. -/
def Span.parse (text : String) : Except SpanFault Span :=
  let chars := Text.trimChars text.toList
  if chars.isEmpty then .error .blank
  else
    let (count, unit) := splitUnit chars
    match Text.readBelow? countBound count with
    | some value => .ok (unit value)
    | none => .error (.malformed (String.ofList chars))

/-- A reading of the monotonic clock: whole seconds in 64 signed bits, and
nanoseconds below a second. -/
structure Instant where
  seconds : Int
  nanoseconds : Nat
  deriving DecidableEq, Repr

/-- The instant a span later, if the clock can hold it. -/
def Instant.add? (instant : Instant) (span : Span) : Option Instant :=
  let nanoseconds := instant.nanoseconds + span.nanoseconds
  let seconds := instant.seconds + span.seconds + nanoseconds / 1000000000
  if Int64.minValue.toInt ≤ seconds ∧ seconds ≤ Int64.maxValue.toInt then
    some ⟨seconds, nanoseconds % 1000000000⟩
  else none

end SerialConsole.Time
