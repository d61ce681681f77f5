import SerialConsole.Link.Channel
import SerialConsole.Session.Console

/-!
# Operations on a console

An operation yields its result, the console after it and the updates it shows,
in order.  One that fails shows nothing and leaves the console as it was, but
for a link found lost, and for what a failed command has left on its link.
-/

namespace SerialConsole.Session

open Log Link

structure Outcome (α : Type) where
  result : Except SessionFault α
  console : Console
  updates : List Update

namespace Outcome

def done {α : Type} (result : α) (console : Console) (updates : List Update) : Outcome α where
  result := .ok result
  console := console
  updates := updates

/-- Nothing is done and nothing shown. -/
def refused {α : Type} (fault : SessionFault) (console : Console) : Outcome α where
  result := .error fault
  console := console
  updates := []

end Outcome

namespace Console

/-! ### The live link -/

/-- A link can be attached while nothing is; a loaded capture is named before
a link is. -/
def checkFree (c : Console) : Except SessionFault Unit :=
  match c.attachment with
  | .nothing => .ok ()
  | .live link => .error (.alreadyConnected link.label)
  | .replay path => .error (.replayActive path)

/-- Attach a link that is open, and start to read it. -/
def connect (c : Console) (label : String) (outlet : Outlet) : Outcome Unit :=
  match c.checkFree with
  | .error fault => .refused fault c
  | .ok () =>
      let link := { label, feeder := Feeder.start c.settings.intake, outlet }
      .done () { c with attachment := .live link } []

/-- Open the link at a path and attach it under that path.  Its writes will
turn out as the outlet says. -/
def openLink (c : Console) (tree : Files.Tree) (path : String) (settings : LinkSettings)
    (outlet : Outlet) : Outcome Unit :=
  match c.checkFree with
  | .error fault => .refused fault c
  | .ok () =>
      match openAt tree path settings with
      | .error fault => .refused (.opening fault) c
      | .ok _ => c.connect path outlet

/-- Attach a link step by step: it is opened, its writing end is split off and a
feeder is started on it.  Each step may fail. -/
def attach (c : Console) (label : String) (opened : Except OpenFault Unit)
    (split : Except Fault Outlet) (started : Except Fault Unit) : Outcome Unit :=
  match c.checkFree with
  | .error fault => .refused fault c
  | .ok () =>
      match opened, split, started with
      | .error fault, _, _ => .refused (.opening fault) c
      | .ok (), .error fault, _ => .refused (.opening (.failed fault)) c
      | .ok (), .ok _, .error fault => .refused (.starting fault) c
      | .ok (), .ok outlet, .ok () => c.connect label outlet

theorem connect_eq_attach (c : Console) (label : String) (outlet : Outlet) :
    c.connect label outlet = c.attach label (.ok ()) (.ok outlet) (.ok ()) := by
  unfold attach connect
  cases c.checkFree <;> rfl

theorem openLink_eq_attach (c : Console) (tree : Files.Tree) (path : String)
    (settings : LinkSettings) (outlet : Outlet) :
    c.openLink tree path settings outlet =
      c.attach path ((openAt tree path settings).map fun _ => ()) (.ok outlet) (.ok ()) := by
  unfold attach openLink
  cases c.checkFree with
  | error fault => rfl
  | ok free => cases openAt tree path settings <;> rfl

/-- The status line for a link that has been let go. -/
def disconnectedFrom (label : String) : Update :=
  .status ("Disconnected from " ++ label)

/-- Stop the feeder, take everything it has queued, and let the link go.  The
feeder makes the moves given, and may go on queueing while its queue is emptied
if it was not waited for to the end. -/
def disconnect (c : Console) (parting : Feeder.Parting) : Outcome Unit :=
  match c.attachment with
  | .live link =>
      let (stopped, feeder) := link.feeder.stop parting.meanwhile
      let feeder := feeder.moves parting.afterwards
      let late : List Update :=
        if stopped then [] else [.error "reader thread did not stop in time"]
      let (c, shown) := { c with attachment := .nothing }.takeAll feeder.queue
      .done () c (late ++ shown ++ [disconnectedFrom link.label])
  | _ => .refused .notConnected c

/-- Take everything that is queued: how many deliveries.  An empty queue that
nothing can arrive in any more is a lost link. -/
def pump (c : Console) : Outcome Nat :=
  match c.attachment with
  | .live link =>
      match link.feeder.queue with
      | [] =>
          if link.feeder.phase = .ended then
            { result := .error (.linkLost link.label),
              console := { c with attachment := .nothing },
              updates := [disconnectedFrom link.label] }
          else .done 0 c []
      | queue =>
          let feeder := { link.feeder with queue := [] }
          let (c, shown) := { c with attachment := .live { link with feeder } }.takeAll queue
          .done queue.length c shown
  | _ => .done 0 c []

/-- How a command that was sent is shown in the shell pane. -/
def echo (command : String) : String :=
  "> " ++ command ++ "\n"

/-- Send a command, blanks around it aside.  A blank command is ignored in any
mode. -/
def send (c : Console) (command : String) : Outcome Bool :=
  let command := Text.trim command
  if command.isEmpty then .done false c []
  else match c.attachment with
    | .nothing => .refused .notConnected c
    | .replay path => .refused (.replayActive path) c
    | .live link =>
        match link.outlet.send command with
        | (.error fault, outlet) =>
            .refused (.wire fault) { c with attachment := .live { link with outlet } }
        | (.ok _, outlet) =>
            .done true
              { c with
                attachment := .live { link with outlet },
                history := c.history.appendShell (echo command) }
              [.shell (echo command)]

/-! ### Captures -/

/-- Save the history to the configured directory.  The tree after it is given
beside the result. -/
def save (c : Console) (tree : Files.Tree) (conditions : SaveConditions)
    (now : Time.Stamp) : Except SessionFault Saved × Files.Tree :=
  match c.attachment with
  | .replay path => (.error (.replayActive path), tree)
  | _ =>
      let (result, tree) :=
        saveCapture tree conditions c.history c.settings.captureDir c.settings.captureStem now
      (result.mapError .log, tree)

/-- Let the live link go, if there is one. -/
def release (c : Console) (parting : Feeder.Parting) : Outcome Unit :=
  if c.isConnected then c.disconnect parting else .done () c []

/-- The console that replays a capture.  The shell pane carries over. -/
def replaying (c : Console) (path : String) (capture : Capture) : Console :=
  { c with
    history := capture.toHistory.appendShell c.history.shell,
    attachment := .replay path }

/-- Load a capture from what reading its file gave, and replay it: how many
records it has.  A live link is let go first. -/
def load (c : Console) (path : String) (content : Except Fault ByteArray)
    (parting : Feeder.Parting) : Outcome Nat :=
  match c.attachment with
  | .replay current => .refused (.replayActive current) c
  | _ =>
      match Capture.ofRead path content with
      | .error fault => .refused (.log fault) c
      | .ok capture =>
          let released := c.release parting
          let loaded := released.console.replaying path capture
          .done loaded.history.size loaded
            (released.updates ++ loaded.redraw ++
              [.status ("Loaded: " ++ path ++ " (Replay Mode - Read Only)")])

/-- Leave the capture and start a new history. -/
def closeReplay (c : Console) : Outcome Unit :=
  match c.attachment with
  | .replay _ =>
      .done () { c with history := .empty, attachment := .nothing }
        [.clearLog, .clearShell, .status "Exited replay mode"]
  | _ => .refused .notInReplay c

/-! ### The selection -/

/-- Change the selection and redraw the log pane. -/
def select (c : Console) (selection : Selection) : Console × List Update :=
  let c := { c with selection }
  (c, c.redraw)

def toggleCategory (c : Console) (category : Category) : Console × List Update :=
  let (c, shown) := c.select (c.selection.toggleCategory category)
  (c, shown ++ [.status c.selection.categorySummary])

def toggleSubsystem (c : Console) (subsystem : Subsystem) : Console × List Update :=
  let (c, shown) := c.select (c.selection.toggleSubsystem subsystem)
  (c, shown ++ [.status c.selection.subsystemSummary])

def setAllSubsystems (c : Console) (enabled : Bool) : Console × List Update :=
  let (c, shown) := c.select (c.selection.setAllSubsystems enabled)
  (c, shown ++ [.status c.selection.subsystemSummary])

end Console

end SerialConsole.Session
