import SerialConsole.Command.Exit
import SerialConsole.Monitor.Loop

/-!
# Starting the monitor
-/

namespace SerialConsole.Command

open Session Monitor

/-- Connect a console to the target and enter the loop: the loop and what is
shown first. -/
def startMonitor (console : Console) (tree : Files.Tree) (target : Target)
    (outlet : Link.Outlet) : Except Failure (Loop × List Update) :=
  let opened := console.openLink tree target.path target.settings outlet
  match opened.result with
  | .error fault => .error (.ofSessionFault "connect failed" fault)
  | .ok () => .ok (Loop.start target opened.console tree, [connectedTo target.path])

end SerialConsole.Command
