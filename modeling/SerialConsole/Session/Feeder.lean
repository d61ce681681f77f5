import SerialConsole.Link.Intake

/-!
# The background reader

While a link is attached, a feeder reads it in the background and queues what
it finds.  It runs beside the session: its moves, and the outcomes of its
reads, may come at any time.  All it shares with the session is the flag that
keeps it going and the queue, which loses nothing and keeps its order.
-/

namespace SerialConsole.Session

open Wire Link

/-- What a feeder queues. -/
inductive Delivery where
  | record (record : Record)
  /-- A read failed.  After a hang-up this is the last delivery. -/
  | readFailed (fault : WireFault)
  deriving DecidableEq, Repr

namespace Feeder

/-- Where the feeder is between two of its moves. -/
inductive Phase where
  /-- About to look at the flag. -/
  | resting
  /-- Inside a read. -/
  | reading
  /-- Queueing the records of the last read, of which these are left. -/
  | queueing (left : List Record)
  /-- A read failed, and the flag has not been looked at since. -/
  | failed (fault : WireFault)
  /-- The flag was set after a read failed, which is now to be reported. -/
  | reporting (fault : WireFault)
  /-- Past the last look at the flag; the end has been signalled. -/
  | signalled
  /-- Gone, with its end of the queue closed. -/
  | ended
  deriving DecidableEq, Repr

end Feeder

structure Feeder where
  intake : Intake
  /-- The flag that keeps the feeder going. -/
  running : Bool
  phase : Feeder.Phase
  /-- Queued and not yet taken, oldest first. -/
  queue : List Delivery
  /-- Whether anyone still takes from the queue. -/
  heard : Bool
  deriving DecidableEq, Repr

namespace Feeder

def start (settings : IntakeSettings) : Feeder where
  intake := Intake.new settings
  running := true
  phase := .resting
  queue := []
  heard := true

/-- Whether the feeder can do nothing until a read returns, or ever again. -/
def isWaiting (f : Feeder) : Bool :=
  f.phase == .reading || f.phase == .ended

/-- After a failed read has been dealt with: a hang-up stops the feeder, any
other fault does not. -/
def afterFault (f : Feeder) (fault : WireFault) : Feeder :=
  if fault = .closedByPeer then { f with running := false, phase := .resting }
  else { f with phase := .resting }

/-- One move of the feeder that does not depend on the link. -/
def advance (f : Feeder) : Feeder :=
  match f.phase with
  | .resting =>
      if f.running then { f with phase := .reading }
      else { f with intake := f.intake.discard.1, phase := .signalled }
  | .reading => f
  | .queueing [] => { f with phase := .resting }
  | .queueing (record :: left) =>
      if f.heard then
        { f with queue := f.queue ++ [.record record], phase := .queueing left }
      else { f with running := false, phase := .resting }
  | .failed fault =>
      if f.running then { f with phase := .reporting fault } else f.afterFault fault
  | .reporting fault =>
      let f := if f.heard then { f with queue := f.queue ++ [.readFailed fault] } else f
      f.afterFault fault
  | .signalled => { f with phase := .ended }
  | .ended => f

/-- The read under way returns.  Nothing happens if none is. -/
def found (f : Feeder) (outcome : ReadOutcome) : Feeder :=
  match f.phase with
  | .reading =>
      match f.intake.take outcome with
      | (.ok (0, _), intake) => { f with intake, phase := .resting }
      | (.ok (_, records), intake) => { f with intake, phase := .queueing records }
      | (.error fault, intake) => { f with intake, phase := .failed fault }
  | _ => f

/-- A move of the feeder. -/
inductive Move where
  | advance
  | found (outcome : ReadOutcome)

def move (f : Feeder) : Move → Feeder
  | .advance => f.advance
  | .found outcome => f.found outcome

def moves (f : Feeder) (ms : List Move) : Feeder :=
  ms.foldl move f

/-- Clear the flag, let the feeder move for as long as it is waited for, and
tell whether it has ended.  One that has not is left to itself. -/
def stop (f : Feeder) (meanwhile : List Move) : Bool × Feeder :=
  let f := { f with running := false }.moves meanwhile
  match f.phase with
  | .signalled | .ended => (true, { f with phase := .ended })
  | _ => (false, f)

/-- What a feeder does when its link is idle and its flag is cleared: the read
under way finds nothing, and the feeder ends. -/
def lastMoves : List Move :=
  [.found (.ok []), .advance, .advance]

/-- The moves that a feeder makes while its link is let go. -/
structure Parting where
  /-- While it is waited for. -/
  meanwhile : List Move
  /-- While its queue is emptied.  A feeder that has ended makes none. -/
  afterwards : List Move := []

/-- A feeder that ends as soon as it is waited for. -/
def Parting.prompt : Parting where
  meanwhile := lastMoves

/-- A feeder that is stuck in a read. -/
def Parting.stuck : Parting where
  meanwhile := []

/-- Nobody takes from the queue any more; what is in it is lost. -/
def abandon (f : Feeder) : Feeder :=
  { f with queue := [], heard := false }

/-- A bound on the moves a feeder makes before it waits. -/
def distance (f : Feeder) : Nat :=
  match f.phase with
  | .reading | .ended => 0
  | .signalled => 1
  | .resting => 2
  | .queueing left => left.length + 3
  | .reporting _ => 3
  | .failed _ => 4

theorem distance_afterFault (f : Feeder) (fault : WireFault) :
    (f.afterFault fault).distance = 2 := by
  unfold afterFault
  split <;> rfl

theorem distance_advance_lt {f : Feeder} (hwaiting : f.isWaiting = false) :
    f.advance.distance < f.distance := by
  unfold advance
  split <;> rename_i hphase
  · split <;> simp [distance, hphase]
  · simp [isWaiting, hphase] at hwaiting
  · simp [distance, hphase]
  · split <;> simp [distance, hphase]
  · split
    · simp [distance, hphase]
    · rw [distance_afterFault]
      simp [distance, hphase]
  · rw [distance_afterFault]
    simp [distance, hphase]
  · simp [distance, hphase]
  · simp [isWaiting, hphase] at hwaiting

/-- Let the feeder move until it waits. -/
def settle (f : Feeder) : Feeder :=
  if _hwaiting : f.isWaiting then f else f.advance.settle
  termination_by f.distance
  decreasing_by exact distance_advance_lt (by simpa using _hwaiting)

/-- Let the feeder read until its source is used up or it has ended, and keep
the rest of the source. -/
def exhaust (f : Feeder) (source : Source) : Feeder × Source :=
  let settled := f.settle
  if _hsource : source = [] then (settled, [])
  else if settled.phase = .reading then
    let limit := settled.intake.readLimit
    exhaust (settled.found (source.read limit).1) (source.read limit).2
  else (settled, source)
  termination_by source.weight
  decreasing_by exact Source.weight_read_lt _hsource settled.intake.readLimit_pos

end Feeder

end SerialConsole.Session
