import SerialConsole.Command.Arguments
import SerialConsole.Command.Classify
import SerialConsole.Command.Monitor
import SerialConsole.Command.Replay
import SerialConsole.Command.Send
import SerialConsole.Command.Version

/-!
# Runs of the program

A run of the program is determined by its command line, its environment, the
directory tree, its input, the clock, the drawing of tables, and the device that
serves the first connection.  The device reads for a while, answers once, and
may then interrupt the program or hang up.
-/

namespace SerialConsole.Bench

open Command Output Session Link Wire

structure Device where
  /-- The number of bytes the device reads before it answers. -/
  reads : Nat
  reply : List Byte
  interrupts : Bool
  hangsUp : Bool
  deriving DecidableEq, Repr

structure World where
  environment : String → Option String
  tree : Files.Tree
  input : List UInt8
  device : Option Device
  now : Time.Stamp
  clock : Time.Instant
  draw : Drawing

/-- What a run leaves behind. -/
structure Run where
  code : Nat
  printed : Printed
  tree : Files.Tree
  /-- The bytes that the device got. -/
  wire : List Byte

namespace Device

/-- The device answers as soon as it has read enough. -/
def isReady (device : Device) (link : LiveLink) : Bool :=
  device.reads ≤ link.outlet.wire.length

/-- What reads find after the device has hung up.  Bytes that it has not read
are lost, which one read reports. -/
def farewell (device : Device) (link : LiveLink) : Source :=
  if device.reads < link.outlet.wire.length then [.error (.system .reset), .error .hungUp]
  else [.error .hungUp]

/-- What the answer makes of the link. -/
def answer (device : Device) (link : LiveLink) : LiveLink :=
  let source : Source :=
    .ok device.reply :: (if device.hangsUp then device.farewell link else [])
  { link with
    feeder := (link.feeder.exhaust source).1,
    outlet := if device.hangsUp then link.outlet.hangUp else link.outlet }

end Device

/-- What the device reads of the bytes written.  After hanging up it reads no
more. -/
def heard (device : Option Device) (answered : Bool) (written : List Byte) : List Byte :=
  match device with
  | some device => if answered && device.hangsUp then written.take device.reads else written
  | none => written

/-- The bytes written to the link that the device serves. -/
def wireOf (console : Console) : List Byte :=
  match console.attachment with
  | .live link => link.outlet.wire
  | _ => []

/-- Let the device answer on the live link, if it is ready to: whether it has
answered, and the console. -/
def answerOn (device : Option Device) (console : Console) : Bool × Console :=
  match device, console.attachment with
  | some device, .live link =>
      if device.isReady link then
        (true, { console with attachment := .live (device.answer link) })
      else (false, console)
  | _, _ => (false, console)

/-- The run of a command that fails without a trace. -/
def Run.failed (world : World) (failure : Failure) : Run where
  code := failure.exit.code
  printed := .errorLine ("error: " ++ failure.message)
  tree := world.tree
  wire := []

/-- A run of the command to send. -/
def runSend (world : World) (request : SendRequest) (console : Console) : Run :=
  match sendCommand request console world.tree .open_ world.clock with
  | .error failure => Run.failed world failure
  | .ok listening =>
      let (answered, console) := answerOn world.device listening.console
      let (updates, ending) :=
        { listening with console }.run [[], []] .prompt
      let printer := Printer.streaming world.draw request.format
      let (_, shown) := printer.takeAll (listening.updates ++ updates)
      { code := ending.code,
        printed := shown ++ ending.printed,
        tree := world.tree,
        wire := heard world.device answered (wireOf listening.console) }

/-! ### The monitor -/

/-- A run of the monitor that is under way. -/
structure Watch where
  loop : Monitor.Loop
  /-- All updates so far. -/
  shown : List Update
  /-- Whether the first connection is still attached. -/
  served : Bool
  answered : Bool
  wire : List Byte

namespace Watch

/-- Let the device answer while the loop waits for deliveries. -/
def letAnswer (w : Watch) (device : Option Device) : Watch :=
  if w.served && !w.answered && w.loop.phase == .pumping then
    let (answered, console) := answerOn device w.loop.console
    let interrupted := answered && (device.map (·.interrupts)).getD false
    { w with
      answered,
      loop := { w.loop with console, running := w.loop.running && !interrupted } }
  else w

/-- One step of the loop. -/
def step (w : Watch) (around : Monitor.Surroundings) : Watch :=
  let (loop, shown) := w.loop.step around
  let served := w.served && loop.console.isConnected
  { w with
    loop, served,
    shown := w.shown ++ shown,
    wire := if served then wireOf loop.console else w.wire }

/-- Run the loop until it has finished, for a bounded number of steps. -/
def run (w : Watch) (around : Monitor.Surroundings) (device : Option Device) : Nat → Watch
  | 0 => w
  | fuel + 1 =>
      if w.loop.phase = .finished then w
      else ((w.letAnswer device).step around).run around device fuel

end Watch

/-- Steps enough for every line and for what the device does. -/
def stepBound (lines : List String) : Nat :=
  8 * (lines.length + 8)

/-- A run of the monitor. -/
def runMonitor (world : World) (target : Monitor.Target) (format : Format)
    (console : Console) : Run :=
  match startMonitor console world.tree target .open_ with
  | .error failure => Run.failed world failure
  | .ok (loop, updates) =>
      let lines := (Text.readLines world.input).lines
      let start : Watch :=
        { loop := { loop with typed := lines, inputEnded := true },
          shown := updates, served := true, answered := false, wire := [] }
      let around : Monitor.Surroundings :=
        { now := world.now, saving := .undisturbed, parting := .prompt,
          outlet := .open_ }
      let ended := start.run around world.device (stepBound lines)
      let (_, shown) := (Printer.streaming world.draw format).takeAll ended.shown
      { code := Exit.success.code, printed := shown, tree := ended.loop.tree,
        wire := heard world.device ended.answered ended.wire }

/-! ### All commands -/

/-- A run that only prints. -/
def Run.prints (world : World) (printed : Printed) : Run where
  code := Exit.success.code
  printed := printed
  tree := world.tree
  wire := []

/-- A run that only prints, or fails. -/
def Run.ofResult (world : World) (result : Except Failure Printed) : Run :=
  match result with
  | .ok printed => Run.prints world printed
  | .error failure => Run.failed world failure

/-- The run that an invocation asks for. -/
def runInvocation (world : World) (i : Invocation) : Run :=
  let format := i.format false
  match i.request with
  | .monitor path =>
      runMonitor world { path, settings := i.linkSettings } format i.console
  | .replay path =>
      Run.ofResult world (replayCapture i.console world.draw format path (world.tree.read path))
  | .send path command listen =>
      runSend world { path, settings := i.linkSettings, command, listen, format } i.console
  | .classify texts =>
      Run.ofResult world ((linesToClassify texts world.input).map (classifyLines world.draw format))
  | .version extended => Run.prints world (printVersion format extended)

/-- A run of the program.  The text of help is not part of a run. -/
def runProgram (world : World) (arguments : List String) : Run :=
  match Invocation.read world.environment arguments with
  | .ok invocation => runInvocation world invocation
  | .error fault =>
      let printed := match fault with
        | .version => Printed.line BuildInfo.current.title
        | _ => .nothing
      { Run.prints world printed with code := fault.exitCode }

end SerialConsole.Bench
