import SerialConsole.Link.Fault
import SerialConsole.Log.Fault

/-!
# Faults of a session
-/

namespace SerialConsole

inductive SessionFault where
  | opening (fault : OpenFault)
  | wire (fault : WireFault)
  | log (fault : LogFault)
  | alreadyConnected (label : String)
  | notConnected
  /-- The background reader ended by itself; the session is disconnected. -/
  | linkLost (label : String)
  /-- The operation is not available while a capture is replayed. -/
  | replayActive (path : String)
  | notInReplay
  /-- The background reader could not be started. -/
  | starting (fault : Fault)
  deriving DecidableEq, Repr

def SessionFault.message : SessionFault → String
  | .opening fault => "transport error: " ++ fault.message
  | .wire fault => "link error: " ++ fault.message
  | .log fault => "transcript error: " ++ fault.message
  | .alreadyConnected label => "already connected to " ++ label
  | .notConnected => "not connected"
  | .linkLost label => "link to " ++ label ++ " lost"
  | .replayActive path => "not available in replay mode (" ++ path ++ ")"
  | .notInReplay => "not in replay mode"
  | .starting fault => "failed to start reader thread: " ++ fault.message

end SerialConsole
