import SerialConsole.Link.Fault
import SerialConsole.Wire.Byte

/-!
# Sending commands over a link

A command is written until all of its bytes have been accepted, and then
flushed.  Transient faults are tried again; any other ends the attempt.  An
outlet knows beforehand how its writes and flushes will turn out.
-/

namespace SerialConsole.Link

open Wire

/-- How one write turns out. -/
inductive WriteOutcome where
  /-- At most this many of the bytes offered are accepted. -/
  | accept (limit : Nat)
  | fail (fault : Fault)
  deriving DecidableEq, Repr

structure Outlet where
  /-- How the next writes turn out. -/
  writes : List WriteOutcome
  /-- How the next flushes turn out; `none` is success. -/
  flushes : List (Option Fault)
  /-- Whether, after those, writes find the other end gone.  If not they are
  accepted whole. -/
  broken : Bool
  /-- All bytes accepted so far. -/
  wire : List Byte
  /-- The number of writes and flushes so far. -/
  calls : Nat
  deriving DecidableEq, Repr

namespace Outlet

def scripted (writes : List WriteOutcome) (flushes : List (Option Fault)) : Outlet where
  writes := writes
  flushes := flushes
  broken := false
  wire := []
  calls := 0

/-- An outlet that accepts everything. -/
def open_ : Outlet := scripted [] []

/-- The other end hangs up: nothing written later is accepted. -/
def hangUp (outlet : Outlet) : Outlet :=
  { outlet with writes := [], broken := true }

/-- One more write or flush has been made. -/
def counted (outlet : Outlet) : Outlet :=
  { outlet with calls := outlet.calls + 1 }

/-- Offer bytes to the outlet: how many it accepts. -/
def write (outlet : Outlet) (bytes : List Byte) : Except Fault Nat × Outlet :=
  match outlet.writes with
  | .fail fault :: rest => (.error fault, { outlet.counted with writes := rest })
  | .accept limit :: rest =>
      (.ok (min limit bytes.length),
        { outlet.counted with writes := rest, wire := outlet.wire ++ bytes.take limit })
  | [] =>
      if outlet.broken then (.error (.system .brokenPipe), outlet.counted)
      else (.ok bytes.length, { outlet.counted with wire := outlet.wire ++ bytes })

/-- Push accepted bytes out: one try. -/
def tryFlush (outlet : Outlet) : Except Fault Unit × Outlet :=
  match outlet.flushes with
  | [] => (.ok (), outlet.counted)
  | none :: rest => (.ok (), { outlet.counted with flushes := rest })
  | some fault :: rest => (.error fault, { outlet.counted with flushes := rest })

/-- A write that accepts something, or that is tried again, brings the end
nearer: it uses up an outcome, or all bytes are accepted. -/
theorem write_accepted_lt {outlet after : Outlet} {bytes : List Byte} {accepted : Nat}
    (hbytes : bytes ≠ []) (hwrite : outlet.write bytes = (.ok accepted, after)) :
    after.writes.length + (bytes.drop accepted).length <
      outlet.writes.length + bytes.length := by
  have hpositive : 0 < bytes.length := List.length_pos_iff.mpr hbytes
  unfold write at hwrite
  split at hwrite
  · simp at hwrite
  · rename_i limit rest hwrites
    simp only [Prod.mk.injEq, Except.ok.injEq] at hwrite
    obtain ⟨_, rfl⟩ := hwrite
    simp only [hwrites, List.length_cons, List.length_drop]
    omega
  · rename_i hwrites
    split at hwrite
    · simp at hwrite
    · simp only [Prod.mk.injEq, Except.ok.injEq] at hwrite
      obtain ⟨rfl, rfl⟩ := hwrite
      simpa [counted] using hpositive

theorem write_transient_lt {outlet after : Outlet} {bytes : List Byte} {fault : Fault}
    (htransient : fault.isTransient = true)
    (hwrite : outlet.write bytes = (.error fault, after)) :
    after.writes.length < outlet.writes.length := by
  unfold write at hwrite
  split at hwrite
  · rename_i rest hwrites
    simp only [Prod.mk.injEq, Except.error.injEq] at hwrite
    obtain ⟨_, rfl⟩ := hwrite
    simp [hwrites]
  · simp at hwrite
  · split at hwrite
    · simp only [Prod.mk.injEq, Except.error.injEq] at hwrite
      obtain ⟨rfl, _⟩ := hwrite
      simp [Fault.isTransient, Fault.kind, Errno.kind] at htransient
    · simp at hwrite

theorem tryFlush_error_lt {outlet after : Outlet} {fault : Fault}
    (hflush : outlet.tryFlush = (.error fault, after)) :
    after.flushes.length < outlet.flushes.length := by
  unfold tryFlush at hflush
  split at hflush
  · simp at hflush
  · simp at hflush
  · rename_i rest hflushes
    simp only [Prod.mk.injEq, Except.error.injEq] at hflush
    obtain ⟨_, rfl⟩ := hflush
    simp [hflushes]

/-- Write until every byte has been accepted. -/
def writeAll (outlet : Outlet) (bytes : List Byte) : Except WireFault Unit × Outlet :=
  if _hbytes : bytes = [] then (.ok (), outlet)
  else match _hwrite : outlet.write bytes with
    | (.ok accepted, after) =>
        if accepted = 0 then (.error .closedWhileWriting, after)
        else after.writeAll (bytes.drop accepted)
    | (.error fault, after) =>
        if _htransient : fault.isTransient then after.writeAll bytes
        else (.error (.failed fault), after)
  termination_by outlet.writes.length + bytes.length
  decreasing_by
    · exact write_accepted_lt _hbytes _hwrite
    · exact Nat.add_lt_add_right (write_transient_lt _htransient _hwrite) _

/-- Flush until it succeeds. -/
def flush (outlet : Outlet) : Except WireFault Unit × Outlet :=
  match _hflush : outlet.tryFlush with
  | (.ok (), after) => (.ok (), after)
  | (.error fault, after) =>
      if fault.isTransient then after.flush else (.error (.failed fault), after)
  termination_by outlet.flushes.length
  decreasing_by exact tryFlush_error_lt _hflush

/-- Send a command with its terminator: the number of bytes put on the wire.
A command that is not ASCII is refused before anything is written. -/
def send (outlet : Outlet) (command : String) : Except WireFault Nat × Outlet :=
  match encodeCommand command with
  | .error offset => (.error (.notAscii offset), outlet)
  | .ok bytes =>
      match outlet.writeAll bytes with
      | (.error fault, outlet) => (.error fault, outlet)
      | (.ok (), outlet) =>
          match outlet.flush with
          | (.error fault, outlet) => (.error fault, outlet)
          | (.ok (), outlet) => (.ok bytes.length, outlet)

end Outlet

end SerialConsole.Link
