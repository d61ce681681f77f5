import SerialConsole.Command.Exit
import SerialConsole.Output.Printer
import SerialConsole.Text.Lines

/-!
# Classifying lines

Every line that is not blank is classified as a log record and printed.
-/

namespace SerialConsole.Command

open Output

/-- Classify lines and print them in a batch. -/
def classifyLines (draw : Drawing) (format : Format) (lines : List String) : Printed :=
  let history := Log.History.ofTexts (lines.filter fun line => !Text.allBlank line)
  let updates := history.entries.toList.map Session.Update.log
  let (printer, shown) := (Printer.batch draw format).takeAll updates
  shown ++ printer.finish.2

/-- The lines to classify: those given, or else those of the input, all of
which must be UTF-8. -/
def linesToClassify (given : List String) (input : List UInt8) :
    Except Failure (List String) :=
  if given.isEmpty then
    let read := Text.readLines input
    if read.complete then .ok read.lines
    else .error (.ofFault "failed reading stdin" .notUtf8)
  else .ok given

end SerialConsole.Command
