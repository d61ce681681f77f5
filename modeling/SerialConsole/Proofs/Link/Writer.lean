import SerialConsole.Proofs.Link.Calls
import SerialConsole.Proofs.Link.SentLines

/-!
# Sending from a kept buffer

A writer keeps the buffer that it encodes commands into from one send to the
next, and writes from an offset that moves on by what was accepted.  Whatever a
send has left in the buffer, the next goes as if the outlet were given the
command's bytes themselves.
-/

namespace SerialConsole.Link

open Wire

namespace Outlet

theorem drop_ne_nil {buffer : List Byte} {offset : Nat} (hoffset : offset < buffer.length) :
    buffer.drop offset ≠ [] :=
  List.drop_eq_nil_iff.not.mpr (Nat.not_le.mpr hoffset)

/-- Write what a buffer holds from an offset on: the offset that this came to. -/
def writeFrom (outlet : Outlet) (buffer : List Byte) (offset : Nat) :
    Except WireFault Nat × Outlet :=
  if _hoffset : offset < buffer.length then
    match _hwrite : outlet.write (buffer.drop offset) with
    | (.ok accepted, after) =>
        if accepted = 0 then (.error .closedWhileWriting, after)
        else after.writeFrom buffer (offset + accepted)
    | (.error fault, after) =>
        if _htransient : fault.isTransient then after.writeFrom buffer offset
        else (.error (.failed fault), after)
  else (.ok offset, outlet)
  termination_by outlet.writes.length + (buffer.drop offset).length
  decreasing_by
    · rw [← List.drop_drop]
      exact write_accepted_lt (drop_ne_nil _hoffset) _hwrite
    · exact Nat.add_lt_add_right (write_transient_lt _htransient _hwrite) _

/-- Writing on from an offset is writing the bytes behind it. -/
theorem writeFrom_eq (outlet : Outlet) {buffer : List Byte} {offset : Nat}
    (hoffset : offset ≤ buffer.length) :
    outlet.writeFrom buffer offset =
      ((outlet.writeAll (buffer.drop offset)).1.map fun _ => buffer.length,
        (outlet.writeAll (buffer.drop offset)).2) := by
  fun_induction writeFrom outlet buffer offset with
  | case1 outlet offset hlt after hwrite =>
      have hleft := drop_ne_nil hlt
      rw [writeAll_of_accepted hleft hwrite, if_pos rfl]
      rfl
  | case2 outlet offset hlt accepted after hwrite hsome ih =>
      have hleft := drop_ne_nil hlt
      have haccepted := accepted_le hwrite
      rw [List.length_drop] at haccepted
      rw [ih (by omega), writeAll_of_accepted hleft hwrite, if_neg hsome, List.drop_drop]
  | case3 outlet offset hlt fault after hwrite htransient ih =>
      have hleft := drop_ne_nil hlt
      rw [ih hoffset, writeAll_of_failed hleft hwrite, if_pos htransient]
  | case4 outlet offset hlt fault after hwrite htransient =>
      have hleft := drop_ne_nil hlt
      rw [writeAll_of_failed hleft hwrite, if_neg htransient]
      rfl
  | case5 outlet offset hlt =>
      have hall : offset = buffer.length := by omega
      rw [hall, List.drop_length, writeAll_nil]
      rfl

end Outlet

/-- A writer: where it writes, and the buffer it encodes commands into. -/
structure Writer where
  outlet : Outlet
  buffer : List Byte

/-- Put the wire form of a command behind what a buffer holds, or leave the buffer as
it is and tell the offset of the command's first byte outside ASCII. -/
def encodeInto (buffer : List Byte) (command : String) : Option Nat × List Byte :=
  match encodeCommand command with
  | .error offset => (some offset, buffer)
  | .ok bytes => (none, buffer ++ bytes)

namespace Writer

/-- Forget the command that was encoded last. -/
def clear (writer : Writer) : Writer :=
  { writer with buffer := [] }

/-- Write what is in the buffer, and flush: the number of bytes written. -/
def writeOut (writer : Writer) : Except WireFault Nat × Writer :=
  match writer.outlet.writeFrom writer.buffer 0 with
  | (.error fault, outlet) => (.error fault, { writer with outlet })
  | (.ok written, outlet) =>
      match outlet.flush with
      | (.error fault, outlet) => (.error fault, { writer with outlet })
      | (.ok (), outlet) => (.ok written, { writer with outlet })

def send (writer : Writer) (command : String) : Except WireFault Nat × Writer :=
  match encodeInto writer.clear.buffer command with
  | (some offset, buffer) => (.error (.notAscii offset), { writer with buffer })
  | (none, buffer) => writeOut { writer with buffer }

/-- Commands sent one after the other from the same buffer: their results. -/
def sendEach (writer : Writer) : List String → List (Except WireFault Nat) × Writer
  | [] => ([], writer)
  | command :: later =>
      let (first, after) := writer.send command
      let (others, last) := after.sendEach later
      (first :: others, last)

/-- What the buffer has held before makes no difference. -/
theorem send_eq (writer : Writer) (command : String) :
    Prod.map id Writer.outlet (writer.send command) = writer.outlet.send command := by
  cases hencoded : encodeCommand command with
  | error offset => simp only [send, encodeInto, Outlet.send, hencoded, Prod.map, id]
  | ok bytes =>
      have hwritten := writer.outlet.writeFrom_eq (Nat.zero_le bytes.length)
      rw [List.drop_zero] at hwritten
      simp only [send, encodeInto, clear, writeOut, Outlet.send, hencoded, List.nil_append,
        hwritten]
      obtain ⟨result, after⟩ := writer.outlet.writeAll bytes
      cases result with
      | error fault => rfl
      | ok done =>
          simp only [Except.map]
          obtain ⟨flushed, last⟩ := after.flush
          cases flushed <;> rfl

theorem sendEach_eq (writer : Writer) (commands : List String) :
    (writer.sendEach commands).1 =
        (writer.outlet.attempts commands).1.map Attempt.result ∧
      (writer.sendEach commands).2.outlet = (writer.outlet.attempts commands).2 := by
  induction commands generalizing writer with
  | nil => exact ⟨rfl, rfl⟩
  | cons command later ih =>
      have hsend := writer.send_eq command
      have hfirst : (writer.send command).1 = (writer.outlet.send command).1 :=
        congrArg Prod.fst hsend
      have hafter : (writer.send command).2.outlet = (writer.outlet.send command).2 :=
        congrArg Prod.snd hsend
      obtain ⟨hothers, hlast⟩ := ih (writer.send command).2
      rw [hafter] at hothers hlast
      exact ⟨congrArg₂ List.cons hfirst hothers, hlast⟩

end Writer

end SerialConsole.Link
