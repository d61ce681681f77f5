import SerialConsole.Link.Outlet
import SerialConsole.Log.Capture
import SerialConsole.Session.Display
import SerialConsole.Session.Fault
import SerialConsole.Session.Feeder
import SerialConsole.Text.Inspect
import SerialConsole.Time.Span

/-!
# The state of a console

A console holds the history, the selection of what is shown, and at most one of
a live link and a loaded capture.  All changes to the history are made here, by
taking what the feeder of the link has queued.
-/

namespace SerialConsole.Session

open Log Link

structure Settings where
  intake : IntakeSettings := {}
  /-- The feeder rests this long after a read that found nothing. -/
  idlePause : Time.Span := Time.Span.ofMillis 10
  /-- The feeder rests this long after a read that failed. -/
  faultPause : Time.Span := Time.Span.ofMillis 100
  /-- A feeder that is told to stop is waited for at most this long. -/
  patience : Time.Span := Time.Span.ofSeconds 1
  captureDir : String := "."
  captureStem : String := defaultStem
  deriving DecidableEq, Repr

structure LiveLink where
  label : String
  feeder : Feeder
  outlet : Outlet
  deriving DecidableEq, Repr

/-- What a console is attached to. -/
inductive Attachment where
  | nothing
  | live (link : LiveLink)
  /-- A loaded capture, by its path. -/
  | replay (path : String)
  deriving DecidableEq, Repr

inductive Mode where
  | disconnected
  | live
  | replay
  deriving DecidableEq, Repr

structure Console where
  settings : Settings
  history : History
  selection : Selection
  attachment : Attachment

/-- The text shown in the shell pane for an end byte with no frame open. -/
def strayEndNotice : String := "Framing error occurred\n"

namespace Console

def new (settings : Settings) : Console where
  settings := settings
  history := .empty
  selection := .everything
  attachment := .nothing

def mode (c : Console) : Mode :=
  match c.attachment with
  | .nothing => .disconnected
  | .live _ => .live
  | .replay _ => .replay

def isConnected (c : Console) : Bool :=
  c.mode == .live

/-- The label of the live link. -/
def linkLabel? (c : Console) : Option String :=
  match c.attachment with
  | .live link => some link.label
  | _ => none

/-- The path of the loaded capture. -/
def replayPath? (c : Console) : Option String :=
  match c.attachment with
  | .replay path => some path
  | _ => none

/-- Change the feeder of the live link. -/
def mapFeeder (c : Console) (change : Feeder → Feeder) : Console :=
  match c.attachment with
  | .live link => { c with attachment := .live { link with feeder := change link.feeder } }
  | _ => c

/-- Take one delivery: the console after it and what it shows. -/
def take (c : Console) : Delivery → Console × List Update
  | .record (.frame content) =>
      let entry := c.history.nextEntry content.text
      ({ c with history := c.history.append content.text },
        if c.selection.shows entry then [.log entry] else [])
  | .record (.line content) =>
      ({ c with history := c.history.appendShell content.text }, [.shell content.text])
  | .record .strayEnd =>
      ({ c with history := c.history.appendShell strayEndNotice }, [.shell strayEndNotice])
  | .readFailed fault => (c, [.error ("Error reading serial: " ++ fault.message)])

/-- Take deliveries in order. -/
def takeAll (c : Console) : List Delivery → Console × List Update
  | [] => (c, [])
  | delivery :: rest =>
      let (next, shown) := c.take delivery
      let (last, later) := next.takeAll rest
      (last, shown ++ later)

/-- Clear the log pane and show every record that is selected. -/
def redraw (c : Console) : List Update :=
  .clearLog :: (c.history.visible c.selection).toList.map .log

/-- The one-line description of a console. -/
def summary (c : Console) : String :=
  let mode := match c.mode with
    | .disconnected => "Disconnected"
    | .live => "Live"
    | .replay => "Replay"
  let field (inspected? : Option String) : String :=
    inspected?.elim "None" fun inspected => "Some(" ++ inspected ++ ")"
  "Session \x7b mode: " ++ mode ++ ", link: " ++ field (c.linkLabel?.map Text.inspect) ++
    ", replay: " ++ field (c.replayPath?.map Text.inspectPath) ++
    ", records: " ++ toString c.history.size ++ " \x7d"

@[simp]
theorem takeAll_nil (c : Console) : c.takeAll [] = (c, []) := rfl

@[simp]
theorem takeAll_cons (c : Console) (delivery : Delivery) (rest : List Delivery) :
    c.takeAll (delivery :: rest) =
      (((c.take delivery).1.takeAll rest).1,
        (c.take delivery).2 ++ ((c.take delivery).1.takeAll rest).2) := rfl

end Console

end SerialConsole.Session
