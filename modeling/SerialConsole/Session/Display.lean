import SerialConsole.Log.Selection

/-!
# The display

A session shows log records in one pane and the shell in another, and reports
errors and changes of status.  What it shows is a list of updates; a display
applies them in order.
-/

namespace SerialConsole.Session

open Log

inductive Update where
  | log (entry : Entry)
  | shell (text : String)
  | error (message : String)
  | status (message : String)
  | clearLog
  | clearShell
  deriving DecidableEq, Repr

/-- The updates that every display takes; one may ignore the others. -/
def Update.isEssential : Update → Bool
  | .log _ | .shell _ | .error _ => true
  | .status _ | .clearLog | .clearShell => false

/-- What the two panes hold. -/
structure Panes where
  log : List Entry
  shell : String
  deriving DecidableEq, Repr

namespace Panes

def blank : Panes where
  log := []
  shell := ""

def apply (panes : Panes) : Update → Panes
  | .log entry => { panes with log := panes.log ++ [entry] }
  | .shell text => { panes with shell := panes.shell ++ text }
  | .clearLog => { panes with log := [] }
  | .clearShell => { panes with shell := "" }
  | .error _ | .status _ => panes

def applyAll (panes : Panes) (updates : List Update) : Panes :=
  updates.foldl apply panes

end Panes

end SerialConsole.Session
