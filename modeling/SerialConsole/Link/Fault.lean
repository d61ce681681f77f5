import SerialConsole.Fault

/-!
# Faults of a link

Malformed input from the device is never a fault: a stray end byte is a record
of its own and a byte that is not ASCII is replaced.
-/

namespace SerialConsole

/-- What can go wrong while reading records or sending commands. -/
inductive WireFault where
  /-- The command has a byte outside ASCII at this offset. -/
  | notAscii (offset : Nat)
  | failed (fault : Fault)
  /-- The other end hung up: no further read will succeed. -/
  | closedByPeer
  /-- A write was accepted with no bytes. -/
  | closedWhileWriting
  deriving DecidableEq, Repr

def WireFault.message : WireFault → String
  | .notAscii offset =>
      "command is not ASCII (first offending byte at offset " ++ toString offset ++ ")"
  | .failed fault => "link I/O error: " ++ fault.message
  | .closedByPeer => "link closed by peer"
  | .closedWhileWriting => "link closed while writing"

/-- What can go wrong while opening a link. -/
inductive OpenFault where
  | opening (path : String) (fault : Fault)
  /-- The terminal settings could not be applied. -/
  | configuring (path : String) (fault : Fault)
  | unsupportedBaud (rate : Nat)
  | failed (fault : Fault)
  /-- There is no way to reach a serial device on this platform. -/
  | unsupported
  deriving DecidableEq, Repr

def OpenFault.message : OpenFault → String
  | .opening path fault => "failed to open " ++ path ++ ": " ++ fault.message
  | .configuring path fault => "failed to configure " ++ path ++ ": " ++ fault.message
  | .unsupportedBaud rate => "unsupported baud rate " ++ toString rate
  | .failed fault => "link I/O error: " ++ fault.message
  | .unsupported => "serial links are not supported on this platform"

end SerialConsole
