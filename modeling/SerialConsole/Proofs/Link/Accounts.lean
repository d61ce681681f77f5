import SerialConsole.Proofs.Link.Transience
import SerialConsole.Proofs.Link.Writer

/-!
# What a send comes to

The calls that a send makes account for everything: for its result, for the
bytes that it has added to the wire, and for how it ends.  Sends account for
themselves one by one: the wire is what they have added to it in turn, and none
depends on what those before have left behind.
-/

namespace SerialConsole.Link

open Wire

/-- Why a send that made these calls has failed. -/
inductive Cause (command : String) (calls : List Call) : WireFault → Prop where
  | notAscii {front back : List Byte} {b : Byte}
      (hbytes : command.toUTF8.toList = front ++ b :: back)
      (hfront : ∀ a ∈ front, isAscii a = true) (hb : isAscii b = false) :
      Cause command calls (.notAscii front.length)
  | closed {offered : List Byte} (hcall : .write offered (.ok 0) ∈ calls) :
      Cause command calls .closedWhileWriting
  | notWritten {offered : List Byte} {fault : Fault} (hcall : .write offered (.error fault) ∈ calls)
      (hlasting : fault.isTransient = false) : Cause command calls (.failed fault)
  | notFlushed {fault : Fault} (hcall : .flush (.error fault) ∈ calls)
      (hlasting : fault.isTransient = false) : Cause command calls (.failed fault)

/-- What a send that made these calls has come to. -/
structure SendAccount (outlet : Outlet) (command : String) (calls : List Call)
    (result : Except WireFault Nat) (after : Outlet) : Prop where
  made : outlet.Made calls after
  counted : after.calls = outlet.calls + calls.length
  bounded : calls.length ≤ outlet.writes.length + outlet.flushes.length + 2
  wire : after.wire = outlet.wire ++ acceptedIn calls
  /-- No call comes after one that decides how the send ends. -/
  goesOn : ∀ call ∈ calls.dropLast, call.goesOn = true
  /-- Each write offers what those before it have left over, neither less nor more. -/
  offered : ∀ before bytes outcome later, calls = before ++ .write bytes outcome :: later →
    acceptedIn before ++ bytes = commandLine command ∧ bytes ≠ []
  flushed : ∀ before outcome later, calls = before ++ .flush outcome :: later →
    acceptedIn before = commandLine command
  /-- A command is refused at its first byte outside ASCII, before any call. -/
  refused : ∀ front b back, command.toUTF8.toList = front ++ b :: back →
    (∀ a ∈ front, isAscii a = true) → isAscii b = false →
    result = .error (.notAscii front.length) ∧ calls = [] ∧ after = outlet
  sent : ∀ count, result = .ok count →
    acceptedIn calls = commandLine command ∧ count = (commandLine command).length ∧
      calls.getLast? = some (.flush (.ok ()))
  closed : ∀ bytes, .write bytes (.ok 0) ∈ calls →
    result = .error .closedWhileWriting ∧ acceptedIn calls ++ bytes = commandLine command ∧
      bytes ≠ []
  notWritten : ∀ bytes fault, .write bytes (.error fault) ∈ calls →
    fault.kind ≠ .interrupted → fault.kind ≠ .wouldBlock →
    result = .error (.failed fault) ∧ acceptedIn calls ++ bytes = commandLine command ∧
      bytes ≠ []
  notFlushed : ∀ fault, .flush (.error fault) ∈ calls →
    fault.kind ≠ .interrupted → fault.kind ≠ .wouldBlock →
    result = .error (.failed fault) ∧ acceptedIn calls = commandLine command
  cause : ∀ fault, result = .error fault → Cause command calls fault

theorem isTransient_eq_false {fault : Fault} (hinterrupted : fault.kind ≠ .interrupted)
    (hwouldBlock : fault.kind ≠ .wouldBlock) : fault.isTransient = false := by
  rw [Fault.isTransient, beq_false_of_ne hinterrupted, beq_false_of_ne hwouldBlock, Bool.false_or]

theorem eq_flush_of_verdict {last : Call} {length count : Nat}
    (hcount : (last.verdict.map fun _ => length) = .ok count) :
    last = .flush (.ok ()) ∧ count = length := by
  cases last with
  | write offered outcome => cases outcome <;> cases hcount
  | flush outcome =>
      cases outcome with
      | error fault => cases hcount
      | ok done => exact ⟨rfl, (Except.ok.inj hcount).symm⟩

theorem cause_of_verdict {command : String} {calls : List Call} {last : Call} {length : Nat}
    {fault : WireFault} (hdecides : last.goesOn = false) (hlast : last ∈ calls)
    (hfault : (last.verdict.map fun _ => length) = .error fault) : Cause command calls fault := by
  cases last with
  | write offered outcome =>
      cases outcome with
      | ok count =>
          obtain rfl : count = 0 := bne_eq_false_iff_eq.mp hdecides
          cases hfault
          exact .closed hlast
      | error reason =>
          cases hfault
          exact .notWritten hlast hdecides
  | flush outcome =>
      cases outcome with
      | ok done => cases hfault
      | error reason =>
          cases hfault
          exact .notFlushed hlast hdecides

/-- A command that is not ASCII. -/
theorem sendAccount_of_not_ascii (outlet : Outlet) {command : String} {front back : List Byte}
    {b : Byte} (hbytes : command.toUTF8.toList = front ++ b :: back)
    (hfront : ∀ a ∈ front, isAscii a = true) (hb : isAscii b = false) :
    SendAccount outlet command [] (outlet.send command).1 (outlet.send command).2 := by
  have hencoded := encodeCommand_of_not_ascii hbytes hfront hb
  have hsend : outlet.send command = (.error (.notAscii front.length), outlet) := by
    simp only [Outlet.send, hencoded]
  rw [hsend]
  constructor
  case made => exact .none outlet
  case counted => rfl
  case bounded => exact Nat.zero_le _
  case wire => exact (List.append_nil outlet.wire).symm
  case goesOn => rintro call ⟨⟩
  case offered =>
    intro before bytes outcome later hcalls
    exact absurd hcalls.symm (List.append_ne_nil_of_right_ne_nil before (List.cons_ne_nil _ _))
  case flushed =>
    intro before outcome later hcalls
    exact absurd hcalls.symm (List.append_ne_nil_of_right_ne_nil before (List.cons_ne_nil _ _))
  case refused =>
    intro earlier c later hearlier hascii hc
    have hthere := encodeCommand_of_not_ascii hearlier hascii hc
    rw [hencoded] at hthere
    rw [Except.error.inj hthere]
    exact ⟨rfl, rfl, rfl⟩
  case sent => rintro count ⟨⟩
  case closed => rintro bytes ⟨⟩
  case notWritten => rintro bytes fault ⟨⟩
  case notFlushed => rintro fault ⟨⟩
  case cause =>
    rintro fault ⟨⟩
    exact .notAscii hbytes hfront hb

/-- A command that is ASCII: the last call decides. -/
theorem exists_sendAccount_of_ascii (outlet : Outlet) {command : String}
    (hascii : ∀ b ∈ command.toUTF8.toList, isAscii b = true) :
    ∃ calls, SendAccount outlet command calls (outlet.send command).1 (outlet.send command).2 := by
  obtain ⟨before, last, left, hmade, hdecided, hresult⟩ :=
    outlet.exists_calls_send (encodeCommand_of_ascii hascii)
  have haccepted := hdecided.acceptedIn_eq
  refine ⟨before ++ [last], ?_⟩
  rw [hresult]
  constructor
  case made => exact hmade
  case counted => exact hmade.calls_eq
  case bounded =>
    obtain ⟨next, hbefore, _⟩ := hmade.exists_between
    obtain ⟨rest, hoffers, _⟩ := hdecided.offers.exists_between
    have hlength := hbefore.length_le hoffers hdecided.goesOn
    rw [List.length_append, List.length_singleton]
    omega
  case wire => exact hmade.wire
  case goesOn =>
    rw [List.dropLast_concat]
    exact hdecided.goesOn
  case offered =>
    intro earlier bytes outcome later hcalls
    have hoffers := hdecided.offers
    rw [hcalls] at hoffers
    exact hoffers.offered
  case flushed =>
    intro earlier outcome later hcalls
    have hoffers := hdecided.offers
    rw [hcalls] at hoffers
    exact hoffers.flushed
  case refused =>
    intro front b back hbytes _ hb
    have hthere := hascii b (hbytes ▸ List.mem_append_right front List.mem_cons_self)
    rw [hb] at hthere
    cases hthere
  case sent =>
    intro count hcount
    obtain ⟨rfl, hlength⟩ := eq_flush_of_verdict hcount
    rw [haccepted, List.getLast?_concat]
    exact ⟨hdecided.offers.flushed, hlength, rfl⟩
  case closed =>
    intro bytes hcall
    obtain rfl := hdecided.eq_last hcall rfl
    rw [haccepted]
    exact ⟨rfl, hdecided.offers.offered⟩
  case notWritten =>
    intro bytes fault hcall hinterrupted hwouldBlock
    obtain rfl := hdecided.eq_last hcall (isTransient_eq_false hinterrupted hwouldBlock)
    rw [haccepted]
    exact ⟨rfl, hdecided.offers.offered⟩
  case notFlushed =>
    intro fault hcall hinterrupted hwouldBlock
    obtain rfl := hdecided.eq_last hcall (isTransient_eq_false hinterrupted hwouldBlock)
    rw [haccepted]
    exact ⟨rfl, hdecided.offers.flushed⟩
  case cause =>
    intro fault hfault
    exact cause_of_verdict hdecided.decides (List.mem_append_right before List.mem_cons_self) hfault

theorem exists_sendAccount (outlet : Outlet) (command : String) :
    ∃ calls, SendAccount outlet command calls (outlet.send command).1 (outlet.send command).2 := by
  rcases ascii_or_exists_first command.toUTF8.toList with
    hascii | ⟨front, b, back, hbytes, hfront, hb⟩
  · exact exists_sendAccount_of_ascii outlet hascii
  · exact ⟨[], sendAccount_of_not_ascii outlet hbytes hfront hb⟩

/-- Attempts each with its account, one after the other. -/
inductive Accounted : Outlet → List Attempt → Outlet → Prop where
  | none (outlet : Outlet) : Accounted outlet [] outlet
  | send {outlet next last : Outlet} {attempt : Attempt} {later : List Attempt} {calls : List Call}
      (haccount : SendAccount outlet attempt.command calls attempt.result next)
      (haccepted : attempt.accepted = acceptedIn calls) (hlater : Accounted next later last) :
      Accounted outlet (attempt :: later) last

/-- What commands sent one after the other come to. -/
structure SendsAccount (outlet : Outlet) (commands : List String) : Prop where
  each : Accounted outlet (outlet.attempts commands).1 (outlet.attempts commands).2
  inTurn : (outlet.attempts commands).1.map Attempt.command = commands
  wire : (outlet.attempts commands).2.wire =
    outlet.wire ++ acceptedBy (outlet.attempts commands).1
  /-- Neither transient faults nor what is on the wire already make a difference. -/
  alike : ∀ other, outlet.Alike other →
    (outlet.attempts commands).1 = (other.attempts commands).1
  /-- Nor does what an earlier send has left in the buffer. -/
  buffered : ∀ writer : Writer, writer.outlet = outlet →
    (writer.sendEach commands).1 = (outlet.attempts commands).1.map Attempt.result ∧
      (writer.sendEach commands).2.outlet = (outlet.attempts commands).2

theorem accounted_attempts (outlet : Outlet) (commands : List String) :
    Accounted outlet (outlet.attempts commands).1 (outlet.attempts commands).2 := by
  induction commands generalizing outlet with
  | nil => exact .none outlet
  | cons command later ih =>
      obtain ⟨calls, haccount⟩ := exists_sendAccount outlet command
      generalize hsend : outlet.send command = ended at haccount
      obtain ⟨result, after⟩ := ended
      simp only [Outlet.attempts, attempt_eq hsend haccount.wire]
      exact .send haccount rfl (ih after)

/-- Whatever is sent over whatever outlet, the calls that are made for it tell its
result and what it adds to the wire, and what comes next starts afresh. -/
theorem every_send_is_accounted_for (outlet : Outlet) :
    (∀ command, ∃ calls,
      SendAccount outlet command calls (outlet.send command).1 (outlet.send command).2) ∧
      ∀ commands, SendsAccount outlet commands := by
  refine ⟨exists_sendAccount outlet, ?_⟩
  intro commands
  obtain ⟨_, hcommands, hwire⟩ := sound_attempts outlet commands
  exact
    { each := accounted_attempts outlet commands
      inTurn := hcommands
      wire := hwire
      alike := fun other halike => halike.attempts commands
      buffered := by
        rintro writer rfl
        exact writer.sendEach_eq commands }

end SerialConsole.Link
