import SerialConsole.Session.Fault

/-!
# Exit codes and failures

A command that fails ends with one message and an exit code that tells what
kind of failure it was.  The kind of an input or output fault decides; a fault
of the session counts as the fault of the layer it comes from.
-/

namespace SerialConsole.Command

inductive Exit where
  | success
  | failure
  | transport
  | permissionDenied
  | invalidData
  | usage
  | timedOut
  | internal
  deriving DecidableEq, Repr

def Exit.code : Exit → Nat
  | .success => 0
  | .failure => 1
  | .transport => 3
  | .permissionDenied => 50
  | .invalidData => 60
  | .usage => 64
  | .timedOut => 124
  | .internal => 125

/-- How a command fails. -/
structure Failure where
  exit : Exit
  message : String
  deriving DecidableEq, Repr

namespace Failure

/-- The exit for an input or output fault. -/
def exitOf : FaultKind → Exit
  | .permissionDenied => .permissionDenied
  | .timedOut | .wouldBlock => .timedOut
  | .invalidData => .invalidData
  | .notFound | .connectionRefused => .failure
  | _ => .internal

/-- A failure whose message names what was under way. -/
def within (context : String) (exit : Exit) (message : String) : Failure where
  exit := exit
  message := context ++ ": " ++ message

def ofFault (context : String) (fault : Fault) : Failure :=
  within context (exitOf fault.kind) fault.message

def ofOpenFault (context : String) (fault : OpenFault) : Failure :=
  match fault with
  | .opening _ cause | .configuring _ cause =>
      let exit := if cause.kind = .permissionDenied then .permissionDenied else .transport
      within context exit fault.message
  | .failed cause => ofFault context cause
  | .unsupportedBaud _ => within context .usage fault.message
  | .unsupported => within context .transport fault.message

def ofWireFault (context : String) (fault : WireFault) : Failure :=
  match fault with
  | .failed cause => ofFault context cause
  | .notAscii _ => within context .invalidData fault.message
  | .closedByPeer | .closedWhileWriting => within context .transport fault.message

def ofLogFault (context : String) (fault : LogFault) : Failure :=
  match fault with
  | .unknownCategory _ | .unknownSubsystem _ => within context .usage fault.message
  | .save _ cause | .load _ cause => within context (exitOf cause.kind) fault.message

def ofSessionFault (context : String) (fault : SessionFault) : Failure :=
  match fault with
  | .opening cause => ofOpenFault context cause
  | .wire cause => ofWireFault context cause
  | .log cause => ofLogFault context cause
  | .starting cause => within context .internal ("failed to start reader: " ++ cause.message)
  | .linkLost _ => within context .transport fault.message
  | _ => within context .failure fault.message

end Failure

end SerialConsole.Command
