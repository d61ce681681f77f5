import SerialConsole.Monitor.Line
import SerialConsole.Session.Operation

/-!
# Responding to a line

A line is carried out on the console.  Whatever fails is shown as an error and
ends nothing; only the directive to quit does.
-/

namespace SerialConsole.Monitor

open Session Link

/-- What the surroundings contribute to a response. -/
structure Surroundings where
  /-- The local time. -/
  now : Time.Stamp
  saving : Log.SaveConditions
  /-- The moves of the feeder while its link is let go. -/
  parting : Feeder.Parting
  /-- How writes turn out on a link that is opened now. -/
  outlet : Outlet

/-- The device the monitor connects to. -/
structure Target where
  path : String
  settings : LinkSettings
  deriving DecidableEq, Repr

structure Response where
  console : Console
  tree : Files.Tree
  updates : List Update
  quit : Bool

namespace Response

def ofUpdates (tree : Files.Tree) (changed : Console × List Update) : Response where
  console := changed.1
  tree := tree
  updates := changed.2
  quit := false

/-- The response that an operation makes: the error shown if it failed, and
`closing` after what it shows if it did not. -/
def ofOutcome {α : Type} (tree : Files.Tree) (outcome : Outcome α) (closing : List Update) :
    Response where
  console := outcome.console
  tree := tree
  updates := match outcome.result with
    | .ok _ => outcome.updates ++ closing
    | .error fault => outcome.updates ++ [.error fault.message]
  quit := false

end Response

def connectedTo (path : String) : Update :=
  .status ("Connected to " ++ path)

/-- Carry out a directive. -/
def obey (c : Console) (tree : Files.Tree) (around : Surroundings) (target : Target) :
    Directive → Response
  | .save =>
      let (result, tree) := c.save tree around.saving around.now
      let shown : Update := match result with
        | .ok saved => .status ("Saved " ++ saved.logPath ++ " and " ++ saved.shellPath)
        | .error fault => .error fault.message
      .ofUpdates tree (c, [shown])
  | .filterCategory category => .ofUpdates tree (c.toggleCategory category)
  | .filterSubsystem subsystem => .ofUpdates tree (c.toggleSubsystem subsystem)
  | .allSubsystems shown => .ofUpdates tree (c.setAllSubsystems shown)
  | .load path => .ofOutcome tree (c.load path (tree.read path) around.parting) []
  | .close => .ofOutcome tree c.closeReplay []
  | .connect =>
      .ofOutcome tree (c.openLink tree target.path target.settings around.outlet)
        [connectedTo target.path]
  | .disconnect => .ofOutcome tree (c.disconnect around.parting) []
  | .quit => { console := c, tree, updates := [], quit := true }

/-- Carry out a line. -/
def respond (c : Console) (tree : Files.Tree) (around : Surroundings) (target : Target)
    (line : String) : Response :=
  match Line.parse line with
  | .error fault => .ofUpdates tree (c, [.error fault.message])
  | .ok (.command command) => .ofOutcome tree (c.send command) []
  | .ok (.directive directive) => obey c tree around target directive

end SerialConsole.Monitor
