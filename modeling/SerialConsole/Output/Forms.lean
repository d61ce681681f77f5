import SerialConsole.Session.Display
import SerialConsole.Text.Json

/-!
# The printed forms of log records and updates

A log record is printed as a line of fields, as a table row or as a JSON
event.  Line ends at the end of its text are left out but for the JSON event,
which has the text as it is.  How a table is drawn depends on what it is shown
on, and is left to those who print it.
-/

namespace SerialConsole.Output

open Log Session Text

/-- A text without the line ends at its end. -/
def withoutLineEnds (text : String) : List Char :=
  trimEndWhile (fun c => c == '\r' || c == '\n') text.toList

/-- The name of a subsystem, or a dash for none. -/
def subsystemField (subsystem : Option Subsystem) : String :=
  match subsystem with
  | none => "-"
  | some subsystem => subsystem.name

/-- A text filled up with spaces. -/
def filled (width : Nat) (text : String) : List Char :=
  text.toList ++ List.replicate (width - text.length) ' '

/-- The category, the subsystem and the text of a record on one line. -/
def prettyLine (entry : Entry) : String :=
  String.ofList (filled 6 entry.category.name ++ ' ' :: filled 3 (subsystemField entry.subsystem) ++
    ' ' :: withoutLineEnds entry.text)

/-- The texts of the cells of a table. -/
structure Table where
  header : List String
  rows : List (List String)
  deriving DecidableEq, Repr

/-- How tables are drawn, with no line feed at the end. -/
abbrev Drawing := Table → String

def tableRow (entry : Entry) : List String :=
  [toString entry.sequence, entry.category.name, subsystemField entry.subsystem,
   String.ofList (withoutLineEnds entry.text)]

def logTable (entries : List Entry) : Table where
  header := ["SEQ", "CATEGORY", "MODULE", "TEXT"]
  rows := entries.map tableRow

/-- The JSON event of a log record. -/
def logEvent (entry : Entry) : Json :=
  .object
    [("stream", .string "log"),
     ("sequence", .number entry.sequence),
     ("text", .string entry.text),
     ("category", .string entry.category.name),
     ("module", match entry.subsystem with
       | none => .null
       | some subsystem => .string subsystem.name)]

/-- The JSON event of a pane being cleared. -/
def clearEvent (pane : String) : Json :=
  .object [("stream", .string "clear"), ("pane", .string pane)]

/-- The JSON event of an update.  An error has none. -/
def event? : Update → Option Json
  | .log entry => some (logEvent entry)
  | .shell text => some (.object [("stream", .string "interactive"), ("text", .string text)])
  | .status message => some (.object [("stream", .string "status"), ("message", .string message)])
  | .clearLog => some (clearEvent "log")
  | .clearShell => some (clearEvent "interactive")
  | .error _ => none

end SerialConsole.Output
