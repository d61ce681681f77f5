import SerialConsole.Command.Send
import SerialConsole.Proofs.Link.Sending
import SerialConsole.Proofs.Session.Requests
import SerialConsole.Proofs.Text.Trimming
import SerialConsole.Proofs.Time.Instants

/-!
# The time to listen and the range of the clock

The deadline of a sent command is worked out when the command is on the wire
already.  The program breaks off there if the time to listen reaches past the
last instant of the clock, and for no other reason.
-/

namespace SerialConsole.Command

open Session Time
open Wire (Byte commandLine)

/-- The console has a live link, and these bytes are on its wire. -/
def OnWire (console : Console) (bytes : List Byte) : Prop :=
  ∃ link, console.attachment = .live link ∧ link.outlet.wire = bytes

section Sent

variable {console : Console} {tree : Files.Tree} {path command : String}
  {settings : Link.LinkSettings} {outlet : Link.Outlet}

theorem onWire_openLink
    (hopened : (console.openLink tree path settings outlet).result = .ok ()) :
    OnWire (console.openLink tree path settings outlet).console outlet.wire := by
  unfold Console.openLink at hopened ⊢
  split at hopened
  · cases hopened
  · rename_i hfree
    split at hopened
    · cases hopened
    · simp only [hfree, Console.connect]
      exact ⟨_, rfl, rfl⟩

theorem onWire_send {bytes : List Byte} {sent : Bool} (hlink : OnWire console bytes)
    (hblank : Text.allBlank command = false) (hsent : (console.send command).result = .ok sent) :
    OnWire (console.send command).console (bytes ++ commandLine (Text.trim command)) := by
  obtain ⟨link, hlive, rfl⟩ := hlink
  rw [← Text.isEmpty_trim] at hblank
  have hsending := link.outlet.sending_send (Text.trim command)
  cases hwire : link.outlet.send (Text.trim command) with
  | mk result after =>
      rw [hwire] at hsending
      cases result with
      | error fault =>
          rw [Console.send_of_failed hblank hlive hwire] at hsent
          cases hsent
      | ok count =>
          rw [Console.send_of_sent hblank hlive hwire]
          cases hsending with
          | sent _ hafter => exact ⟨_, rfl, hafter⟩

/-- The steps up to the deadline have all gone well. -/
structure WentWell (request : SendRequest) (opened : Outcome Unit) (now : Instant) (span : Span)
    (listening : Listening) : Prop where
  read : Span.parse request.listen = .ok span
  command : Text.allBlank request.command = false
  connected : opened.result = .ok ()
  sent : ∃ sent, (opened.console.send request.command).result = .ok sent
  console : listening.console = (opened.console.send request.command).console
  deadline : listening.deadline = now.add? span

variable {request : SendRequest} {now : Instant} {listening : Listening}

/-- One failure for each step that can end it; what is left is a run through. -/
theorem exists_wentWell (hsent : sendCommand request console tree outlet now = .ok listening) :
    ∃ span, WentWell request (console.openLink tree request.path request.settings outlet) now span
      listening := by
  generalize hopened : console.openLink tree request.path request.settings outlet = opened
  simp only [sendCommand, hopened] at hsent
  cases hparse : Span.parse request.listen with
  | error fault =>
      rw [hparse] at hsent
      cases hsent
  | ok span =>
      cases hblank : Text.allBlank request.command with
      | true =>
          rw [hparse, hblank] at hsent
          cases hsent
      | false =>
          cases hresult : opened.result with
          | error fault =>
              simp only [hparse, hblank, hresult] at hsent
              cases hsent
          | ok done =>
              cases hanswer : (opened.console.send request.command).result with
              | error fault =>
                  simp only [hparse, hblank, hresult, hanswer] at hsent
                  cases hsent
              | ok sent =>
                  simp only [hparse, hblank, hresult, hanswer, Bool.false_eq_true, if_false, bind,
                    Except.bind, pure, Except.pure, Except.ok.injEq] at hsent
                  refine ⟨span, hparse, hblank, hresult, ⟨sent, hanswer⟩, ?_, ?_⟩
                  · rw [← hsent]
                  · rw [← hsent]

theorem WentWell.onWire {span : Span}
    (hwent : WentWell request (console.openLink tree path settings outlet) now span listening) :
    OnWire listening.console (outlet.wire ++ commandLine (Text.trim request.command)) := by
  obtain ⟨sent, hsent⟩ := hwent.sent
  rw [hwent.console]
  exact onWire_send (onWire_openLink hwent.connected) hwent.command hsent

end Sent

/-! ### How listening ends -/

section Listening

theorem pumpEach_ne_clockOverflow (console : Console) (parting : Feeder.Parting)
    (polls : List (List Feeder.Move)) : (pumpEach console parting polls).2 ≠ .clockOverflow := by
  induction polls generalizing console with
  | nil =>
      unfold pumpEach
      split
      · rintro ⟨⟩
      · rintro ⟨⟩
  | cons arriving rest ih =>
      unfold pumpEach
      dsimp only
      split
      · rintro ⟨⟩
      · exact ih _

theorem run_eq_clockOverflow_iff (listening : Listening) (polls : List (List Feeder.Move))
    (parting : Feeder.Parting) :
    (listening.run polls parting).2 = .clockOverflow ↔ listening.deadline = none := by
  rw [Listening.run]
  cases hdeadline : listening.deadline with
  | none => exact iff_of_true rfl rfl
  | some deadline => exact iff_of_false (pumpEach_ne_clockOverflow _ _ _) (by rintro ⟨⟩)

end Listening

/-- When a command has been sent, the program breaks off if the time to listen
reaches past the last instant of the clock, and else has the deadline that is
so much later.  A time to listen that reaches too far can be written in every
second of the clock but its first. -/
theorem sending_breaks_off_beyond_clock (now : Instant) (hnow : now.Held) :
    ((∀ text span, Span.parse text = .ok span → (now.add? span).isSome) ↔
      now.seconds = Int64.minValue.toInt) ∧
    ∀ request console tree outlet listening,
      sendCommand request console tree outlet now = .ok listening →
      ∃ span, Span.parse request.listen = .ok span ∧
        OnWire listening.console (outlet.wire ++ commandLine (Text.trim request.command)) ∧
        (∀ polls parting, (listening.run polls parting).2 = .clockOverflow ↔
          Instant.last.count < now.count + span.count) ∧
        (now.count + span.count ≤ Instant.last.count → ∃ deadline,
          listening.deadline = some deadline ∧ deadline.count = now.count + span.count) := by
  refine ⟨Instant.forall_add?_isSome_iff hnow, ?_⟩
  intro request console tree outlet listening hsent
  obtain ⟨span, hwent⟩ := exists_wentWell hsent
  refine ⟨span, hwent.read, hwent.onWire, ?_, ?_⟩
  · intro polls parting
    rw [run_eq_clockOverflow_iff, hwent.deadline, Instant.add?_eq_none_iff hnow]
  · intro hle
    obtain ⟨deadline, hsome, -, hcount⟩ := Instant.exists_add?_of_le hnow hle
    exact ⟨deadline, hwent.deadline.trans hsome, hcount⟩

/-- A query that is to listen for the longest time. -/
def longQuery : SendRequest where
  path := "bridge.sock"
  settings := {}
  command := "q"
  listen := "18446744073709551615s"
  format := .raw

/-- The query is sent to a served socket when the clock starts at zero. -/
def longQuerySent : Except Failure Listening :=
  sendCommand longQuery (.new {}) (Files.Tree.empty.plant "bridge.sock" (.socket true)) .open_
    ⟨0, 0⟩

/-- The query reaches the device, and then the program breaks off. -/
theorem long_query_breaks_off :
    ∃ listening, longQuerySent = .ok listening ∧ OnWire listening.console [0x71, 0x0D, 0x0A] ∧
      ∀ polls parting, (listening.run polls parting).2 = .clockOverflow := by
  have hheld : Instant.Held ⟨0, 0⟩ := by
    constructor <;> decide
  have hok : longQuerySent.isOk = true := by decide +kernel
  cases hsent : longQuerySent with
  | error failure =>
      rw [hsent] at hok
      cases hok
  | ok listening =>
      obtain ⟨span, hparse, hwire, hover, -⟩ :=
        (sending_breaks_off_beyond_clock ⟨0, 0⟩ hheld).2 _ _ _ _ _ hsent
      have hspan : Span.parse longQuery.listen = .ok Span.longest := rfl
      rw [hspan] at hparse
      cases hparse
      have hline : Link.Outlet.open_.wire ++ commandLine (Text.trim longQuery.command) =
          [0x71, 0x0D, 0x0A] := by
        decide +kernel
      rw [hline] at hwire
      exact ⟨listening, rfl, hwire, fun polls parting => (hover polls parting).mpr (by decide)⟩

end SerialConsole.Command
