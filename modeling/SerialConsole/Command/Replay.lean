import SerialConsole.Command.Exit
import SerialConsole.Output.Printer
import SerialConsole.Session.Operation

/-!
# Printing a capture

A capture is loaded into a console whose selection is set beforehand, and what
it shows is printed in a batch.  Nothing is printed if it cannot be loaded.
-/

namespace SerialConsole.Command

open Output Session

/-- Load the capture at a path, from what reading it gave, and print it. -/
def replayCapture (console : Console) (draw : Drawing) (format : Format) (path : String)
    (content : Except Fault ByteArray) : Except Failure Printed :=
  let outcome := console.load path content .prompt
  match outcome.result with
  | .error fault => .error (.ofSessionFault "load failed" fault)
  | .ok _ =>
      let (printer, shown) := (Printer.batch draw format).takeAll outcome.updates
      .ok (shown ++ printer.finish.2)

end SerialConsole.Command
