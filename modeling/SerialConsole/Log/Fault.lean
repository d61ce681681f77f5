import SerialConsole.Fault

/-!
# Faults of names and transcripts
-/

namespace SerialConsole

/-- What can go wrong with a filter name or a transcript file. -/
inductive LogFault where
  | unknownCategory (name : String)
  | unknownSubsystem (name : String)
  | save (path : String) (fault : Fault)
  | load (path : String) (fault : Fault)
  deriving DecidableEq, Repr

def LogFault.message : LogFault → String
  | .unknownCategory name =>
      "unknown category '" ++ name ++ "' (expected error, warn, info, detail or silabs)"
  | .unknownSubsystem name =>
      "unknown module '" ++ name ++ "' (expected zcl, dl, im, ot, svr, dis, swu or tst)"
  | .save path fault => "failed to save transcript " ++ path ++ ": " ++ fault.message
  | .load path fault => "failed to load transcript " ++ path ++ ": " ++ fault.message

end SerialConsole
