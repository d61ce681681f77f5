import SerialConsole.Command.Arguments
import SerialConsole.Command.Classify
import SerialConsole.Command.Replay
import SerialConsole.Command.Version
import SerialConsole.Output.Grid

/-!
# The command line program

Captures are replayed and lines classified; the commands that need a link fail,
since no link can be opened here.  Tables are drawn at their full width.
-/

open SerialConsole SerialConsole.Command SerialConsole.Output

/-- Values of the environment variables that give settings. -/
def readEnvironment : IO (String → Option String) := do
  let names := Setting.shared.filterMap Setting.environmentName?
  let values ← names.mapM fun name => do return (name, ← IO.getEnv name)
  return fun name => (values.lookup name).join

/-- All bytes of a stream. -/
partial def readAll (stream : IO.FS.Stream) (read : ByteArray) : IO ByteArray := do
  let more ← stream.read 65536
  if more.isEmpty then return read else readAll stream (read ++ more)

/-- The fault that an input or output error stands for. -/
def faultOf : IO.Error → Fault
  | .noFileOrDirectory .. => .system .noEntry
  | .permissionDenied .. => .described .permissionDenied "Permission denied (os error 13)"
  | .inappropriateType .. => .system .isADirectory
  | error => .described .other (toString error)

/-- What reading a file gives. -/
def readContent (path : String) : IO (Except Fault ByteArray) := do
  try return .ok (← IO.FS.readBinFile path)
  catch error => return .error (faultOf error)

def finishWith (printed : Printed) (code : Nat) : IO UInt32 := do
  IO.print printed.out
  IO.eprint printed.err
  return UInt32.ofNat code

def failWith (failure : Failure) : IO UInt32 :=
  finishWith (.errorLine ("error: " ++ failure.message)) failure.exit.code

def finish : Except Failure Printed → IO UInt32
  | .ok printed => finishWith printed Exit.success.code
  | .error failure => failWith failure

/-- The failure of a command that needs a link. -/
def noLink : Failure :=
  .ofOpenFault "connect failed" .unsupported

def runInvocation (i : Invocation) : IO UInt32 := do
  let format := i.format (← (← IO.getStdout).isTty)
  match i.request with
  | .replay path =>
      finish (replayCapture i.console Drawing.fullWidth format path (← readContent path))
  | .classify given =>
      let input ← if given.isEmpty then readAll (← IO.getStdin) .empty else pure .empty
      finish ((linesToClassify given input.toList).map (classifyLines Drawing.fullWidth format))
  | .version extended => finishWith (printVersion format extended) Exit.success.code
  | .monitor _ | .send .. => failWith noLink

def main (arguments : List String) : IO UInt32 := do
  match Invocation.read (← readEnvironment) arguments with
  | .ok invocation => runInvocation invocation
  | .error .version => finishWith (.line BuildInfo.current.title) 0
  | .error .help => finishWith (.line "usage: splitlink <command> [options]") 0
  | .error fault => finishWith (.errorLine "error: wrong arguments") fault.exitCode
