import SerialConsole.Output.Forms

/-!
# Printing updates

A printer writes updates to the standard output and the standard error output
in one of four formats, and has its tables drawn.  A streaming printer writes
each log record as it comes; a batch printer holds the records back until it is
told to finish, and clearing the log pane drops those it holds.
-/

namespace SerialConsole.Output

open Log Session Text

inductive Format where
  | json
  | table
  | pretty
  | raw
  deriving DecidableEq, Repr

/-- What is written to the two outputs. -/
structure Printed where
  out : String
  err : String
  deriving DecidableEq, Repr

namespace Printed

def nothing : Printed := ⟨"", ""⟩

def raw (text : String) : Printed := ⟨text, ""⟩

def line (text : String) : Printed := ⟨text ++ "\n", ""⟩

def errorLine (text : String) : Printed := ⟨"", text ++ "\n"⟩

instance : Append Printed where
  append first second := ⟨first.out ++ second.out, first.err ++ second.err⟩

def join (parts : List Printed) : Printed :=
  parts.foldl (· ++ ·) nothing

end Printed

/-- A log record in a format, on its own. -/
def Format.printLog (format : Format) (draw : Drawing) (entry : Entry) : Printed :=
  match format with
  | .json => .line (logEvent entry).render
  | .table => .line (draw (logTable [entry]))
  | .pretty => .line (prettyLine entry)
  | .raw => .raw entry.text

/-- The log records of a batch.  In the table format they make one table. -/
def Format.printBatch (format : Format) (draw : Drawing) (entries : List Entry) : Printed :=
  match format with
  | .table => if entries.isEmpty then .nothing else .line (draw (logTable entries))
  | _ => .join (entries.map (format.printLog draw))

/-- What marks a cleared log pane. -/
def separator : String := String.ofList (List.replicate 40 '-')

structure Printer where
  draw : Drawing
  format : Format
  /-- The log records held back, for a batch printer. -/
  held : Option (List Entry)

namespace Printer

def streaming (draw : Drawing) (format : Format) : Printer where
  draw := draw
  format := format
  held := none

def batch (draw : Drawing) (format : Format) : Printer where
  draw := draw
  format := format
  held := some []

/-- The JSON event of an update on a line of its own. -/
def eventLine (update : Update) : Printed :=
  match event? update with
  | some event => .line event.render
  | none => .nothing

/-- Print an update that is not a log record and does not clear the log
pane. -/
def printOther (format : Format) (update : Update) : Printed :=
  match update, format with
  | .error message, _ => .errorLine ("error: " ++ message)
  | _, .json => eventLine update
  | .shell text, _ => .raw text
  | .status message, _ => .errorLine message
  | _, _ => .nothing

/-- Print the mark of a cleared log pane. -/
def printClear (format : Format) : Printed :=
  match format with
  | .json => eventLine .clearLog
  | .table | .pretty => .line separator
  | .raw => .nothing

/-- Take an update: the printer after it and what is written. -/
def take (printer : Printer) (update : Update) : Printer × Printed :=
  match update, printer.held with
  | .log entry, some held => ({ printer with held := some (held ++ [entry]) }, .nothing)
  | .log entry, none => (printer, printer.format.printLog printer.draw entry)
  | .clearLog, some _ => ({ printer with held := some [] }, .nothing)
  | .clearLog, none => (printer, printClear printer.format)
  | update, _ => (printer, printOther printer.format update)

/-- Take updates in order. -/
def takeAll (printer : Printer) : List Update → Printer × Printed
  | [] => (printer, .nothing)
  | update :: rest =>
      let (next, first) := printer.take update
      let (last, later) := next.takeAll rest
      (last, first ++ later)

/-- Print the records held back, and hold back none. -/
def finish (printer : Printer) : Printer × Printed :=
  match printer.held with
  | none => (printer, .nothing)
  | some held => ({ printer with held := some [] }, printer.format.printBatch printer.draw held)

end Printer

end SerialConsole.Output
