import SerialConsole.Command.Exit
import SerialConsole.Output.Printer
import SerialConsole.Session.Operation
import SerialConsole.Time.Span

/-!
# Sending one command

A command is sent over a link, and what comes back is printed until the time to
listen is up.  The time is read and the command looked at before anything is
opened.
-/

namespace SerialConsole.Command

open Output Session Time

structure SendRequest where
  path : String
  settings : Link.LinkSettings
  command : String
  /-- How long to listen, as written. -/
  listen : String
  format : Format

/-- How a run of the command ends. -/
inductive Ending where
  | ended (exit : Exit)
  | failed (failure : Failure)
  /-- The end of the time to listen lies beyond what the clock can hold, and
  the program breaks off. -/
  | clockOverflow
  deriving DecidableEq, Repr

/-- The exit code of a program that breaks off. -/
def brokenOffCode : Nat := 101

def Ending.code : Ending → Nat
  | .ended exit => exit.code
  | .failed failure => failure.exit.code
  | .clockOverflow => brokenOffCode

/-- What is printed last. -/
def Ending.printed : Ending → Printed
  | .ended _ => .nothing
  | .failed failure => .errorLine ("error: " ++ failure.message)
  | .clockOverflow => .errorLine "overflow when adding duration to instant"

/-- The command has been sent, and answers may come in until the deadline. -/
structure Listening where
  console : Console
  deadline : Option Instant
  /-- Whether there is any time to listen at all. -/
  anyTime : Bool
  updates : List Update

/-- Read how long to listen, look at the command, open the link and send. -/
def sendCommand (request : SendRequest) (console : Console) (tree : Files.Tree)
    (outlet : Link.Outlet) (now : Instant) : Except Failure Listening := do
  let span ← match Span.parse request.listen with
    | .ok span => .ok span
    | .error fault => .error { exit := .usage, message := fault.message }
  if Text.allBlank request.command then
    .error { exit := .usage, message := "command must not be empty" }
  let opened := console.openLink tree request.path request.settings outlet
  if let .error fault := opened.result then
    .error (.ofSessionFault "connect failed" fault)
  let sent := opened.console.send request.command
  if let .error fault := sent.result then
    .error (.ofSessionFault "send failed" fault)
  return {
    console := sent.console,
    deadline := now.add? span,
    anyTime := span != .zero,
    updates := opened.updates ++ sent.updates }

/-- Pump once for each list of moves, which the feeder makes beforehand, and
then let the link go.  A link that is lost ends everything. -/
def pumpEach (console : Console) (parting : Feeder.Parting) :
    List (List Feeder.Move) → List Update × Ending
  | [] =>
      if console.isConnected then
        let outcome := console.disconnect parting
        (outcome.updates, .ended .success)
      else ([], .ended .success)
  | arriving :: rest =>
      let outcome := (console.mapFeeder (·.moves arriving)).pump
      match outcome.result with
      | .error fault => (outcome.updates, .failed (.ofSessionFault "receive failed" fault))
      | .ok _ =>
          let (later, ending) := pumpEach outcome.console parting rest
          (outcome.updates ++ later, ending)

/-- Listen until the deadline.  Without any time nothing is pumped. -/
def Listening.run (listening : Listening) (polls : List (List Feeder.Move))
    (parting : Feeder.Parting) : List Update × Ending :=
  match listening.deadline with
  | none => ([], .clockOverflow)
  | some _ => pumpEach listening.console parting (if listening.anyTime then polls else [])

end SerialConsole.Command
