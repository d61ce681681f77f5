import SerialConsole.Proofs.Link.Calls

/-!
# What sending puts on the wire

However a link takes the bytes it is offered, what an attempt to send has put
on the wire is a front part of the command and its terminator: all of it if the
attempt got as far as flushing, and less if a write ended it.  Transient faults
leave no mark.
-/

namespace SerialConsole.Link

open Wire

/-- All that an attempt to send a command can come to. -/
inductive Sending (outlet : Outlet) (command : String) :
    Except WireFault Nat × Outlet → Prop where
  /-- The command is not ASCII. -/
  | refused (offset : Nat) (hencoded : encodeCommand command = .error offset) :
      Sending outlet command (.error (.notAscii offset), outlet)
  | short (fault : WireFault) (after : Outlet) (accepted left : List Byte)
      (hline : commandLine command = accepted ++ left) (hleft : left ≠ [])
      (hwire : after.wire = outlet.wire ++ accepted) :
      Sending outlet command (.error fault, after)
  /-- All bytes were accepted, and then the flush failed. -/
  | unflushed (fault : WireFault) (after : Outlet)
      (hwire : after.wire = outlet.wire ++ commandLine command) :
      Sending outlet command (.error fault, after)
  | sent (after : Outlet) (hwire : after.wire = outlet.wire ++ commandLine command) :
      Sending outlet command (.ok (commandLine command).length, after)

theorem Outlet.sending_send (outlet : Outlet) (command : String) :
    Sending outlet command (outlet.send command) := by
  cases hencoded : encodeCommand command with
  | error offset =>
      have hsend : outlet.send command = (.error (.notAscii offset), outlet) := by
        simp only [send, hencoded]
      rw [hsend]
      exact .refused offset hencoded
  | ok bytes =>
      rw [encodeCommand_eq_ok hencoded] at hencoded
      obtain ⟨before, last, left, hmade, hdecided, hresult⟩ := outlet.exists_calls_send hencoded
      have hwire := hmade.wire
      rw [hdecided.acceptedIn_eq] at hwire
      generalize outlet.send command = ended at hwire hresult
      obtain ⟨result, after⟩ := ended
      subst hresult
      cases last with
      | write offered outcome =>
          obtain ⟨hline, hleft⟩ := hdecided.offers.offered
          cases outcome with
          | ok count =>
              exact .short .closedWhileWriting after (acceptedIn before) offered hline.symm hleft
                hwire
          | error fault =>
              exact .short (.failed fault) after (acceptedIn before) offered hline.symm hleft hwire
      | flush outcome =>
          rw [hdecided.offers.flushed] at hwire
          cases outcome with
          | ok done => exact .sent after hwire
          | error fault => exact .unflushed (.failed fault) after hwire

end SerialConsole.Link
