import SerialConsole.Link.Fault
import SerialConsole.Wire.Splitter

/-!
# Reading records from a link

An intake asks its source for a bounded number of bytes at a time and hands
them to the splitter.  A source is the list of what its reads will find; bytes
that do not fit one read are found by the next.
-/

namespace SerialConsole.Link

open Wire

/-- What a read finds: some bytes, none if nothing came in time, or a
fault. -/
abbrev ReadOutcome := Except Fault (List Byte)

/-- What the reads of a link will find, in order; afterwards they find
nothing. -/
abbrev Source := List ReadOutcome

/-- One read of at most `limit` bytes. -/
def Source.read (source : Source) (limit : Nat) : ReadOutcome × Source :=
  match source with
  | [] => (.ok [], [])
  | .error fault :: rest => (.error fault, rest)
  | .ok bytes :: rest =>
      (.ok (bytes.take limit),
        if bytes.length ≤ limit then rest else .ok (bytes.drop limit) :: rest)

/-- How much is left to read: every outcome counts one, and one more for each
of its bytes. -/
def Source.weight : Source → Nat
  | [] => 0
  | .ok bytes :: rest => bytes.length + 1 + weight rest
  | .error _ :: rest => 1 + weight rest

theorem Source.weight_read_lt {source : Source} {limit : Nat} (hsource : source ≠ [])
    (hlimit : 0 < limit) : (source.read limit).2.weight < source.weight := by
  match source, hsource with
  | .error _ :: _, _ => simp [Source.read, Source.weight]
  | .ok bytes :: rest, _ =>
      simp only [Source.read]
      split
      · simp only [Source.weight]
        omega
      · simp only [Source.weight, List.length_drop]
        omega

/-- How records are read: the rule for shell lines, and the most bytes that
one read asks for. -/
structure IntakeSettings where
  rule : LineRule := .lenient
  readSize : Nat := defaultReadSize
  deriving DecidableEq, Repr

structure Intake where
  settings : IntakeSettings
  splitter : Splitter
  deriving DecidableEq, Repr

namespace Intake

def new (settings : IntakeSettings) : Intake where
  settings := settings
  splitter := Splitter.new settings.rule

/-- A read always asks for at least one byte. -/
def readLimit (intake : Intake) : Nat :=
  max 1 intake.settings.readSize

theorem readLimit_pos (intake : Intake) : 0 < intake.readLimit := by
  simp only [readLimit]
  omega

/-- Take in what a read found: how many bytes, and the records they complete.
A read that found nothing or failed leaves the splitter as it was. -/
def take (intake : Intake) (outcome : ReadOutcome) :
    Except WireFault (Nat × List Record) × Intake :=
  match outcome with
  | .error fault =>
      if fault.kind = .unexpectedEof then (.error .closedByPeer, intake)
      else (.error (.failed fault), intake)
  | .ok bytes =>
      let (splitter, records) := intake.splitter.feed bytes
      (.ok (bytes.length, records), { intake with splitter })

/-- Read once from a source. -/
def poll (intake : Intake) (source : Source) :
    Except WireFault (Nat × List Record) × Intake × Source :=
  let (outcome, source) := source.read intake.readLimit
  let (result, intake) := intake.take outcome
  (result, intake, source)

def pending (intake : Intake) : Pending :=
  intake.splitter.pending

/-- Drop what is unfinished and report how much that was. -/
def discard (intake : Intake) : Intake × Pending :=
  let (splitter, dropped) := intake.splitter.discard
  ({ intake with splitter }, dropped)

end Intake

end SerialConsole.Link
