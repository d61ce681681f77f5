import SerialConsole.Monitor.Respond

/-!
# A console on the bench

A console can be tried without hardware: on a rig, a device sends, fails, hangs
up and stalls on demand, and after every operation the feeder reads all that
the device has sent.
-/

namespace SerialConsole.Bench

open Session Link Wire

inductive Medium where
  /-- A source and a sink that follow a script. -/
  | scripted
  | socket
  deriving DecidableEq, Repr

structure Rig where
  console : Console
  tree : Files.Tree
  medium : Medium
  /-- What the device has sent and the feeder has not read. -/
  source : Source
  /-- Whether reads of the link never return. -/
  stalled : Bool
  /-- Whether the device is at the other end of the link.  It is not if an
  earlier connection still waits to be served. -/
  reachable : Bool
  /-- The connections made that were let go before the device served them. -/
  unserved : Nat

namespace Rig

def new (console : Console) (tree : Files.Tree) : Rig where
  console := console
  tree := tree
  medium := .scripted
  source := []
  stalled := false
  reachable := true
  unserved := 0

/-- The live link. -/
def link? (rig : Rig) : Option LiveLink :=
  match rig.console.attachment with
  | .live link => some link
  | _ => none

/-- Let the feeder read all that the device has sent. -/
def settle (rig : Rig) : Rig :=
  match rig.console.attachment with
  | .live link =>
      let (feeder, source) :=
        if rig.stalled then (link.feeder.settle, rig.source) else link.feeder.exhaust rig.source
      let attachment := Attachment.live { link with feeder }
      { rig with console := { rig.console with attachment }, source }
  | _ => rig

/-- The console after an operation that attaches no link. -/
def continue_ (rig : Rig) (console : Console) : Rig :=
  { rig with console }.settle

/-- The console after a link to the device has been attached. -/
def attached (rig : Rig) (console : Console) (medium : Medium) : Rig :=
  { rig with console, medium, source := [], stalled := false, reachable := true }.settle

/-- The console after a connection has been made and attached.  It is served by
the device if no earlier one still waits. -/
def connected (rig : Rig) (console : Console) : Rig :=
  { rig.attached console .socket with reachable := rig.unserved == 0 }

/-- What a feeder does while it is waited for. -/
def parting (rig : Rig) : Feeder.Parting :=
  if rig.stalled then .stuck else .prompt

/-- Attach a link to the device. -/
def connect (rig : Rig) (label : String) (medium : Medium) (outlet : Outlet) :
    Except SessionFault Unit × Rig :=
  let outcome := rig.console.connect label outlet
  match outcome.result with
  | .ok () => (.ok (), rig.attached outcome.console medium)
  | .error fault => (.error fault, rig)

/-- Open the link at a path.  A connection that is let go because its settings
are refused still waits to be served. -/
def openLink (rig : Rig) (path : String) (settings : LinkSettings) :
    Except SessionFault Unit × Rig :=
  let outcome := rig.console.openLink rig.tree path settings .open_
  match outcome.result with
  | .ok () => (.ok (), rig.connected outcome.console)
  | .error fault =>
      let unserved := match fault with
        | .opening (.failed _) => rig.unserved + 1
        | _ => rig.unserved
      (.error fault, { rig with unserved })

/-- Respond to a line typed at the monitor. -/
def respond (rig : Rig) (now : Time.Stamp) (target : Monitor.Target) (line : String) :
    Monitor.Response × Rig :=
  let around : Monitor.Surroundings :=
    { now, saving := .undisturbed, parting := rig.parting, outlet := .open_ }
  let response := Monitor.respond rig.console rig.tree around target line
  let after := { rig with tree := response.tree }
  (response,
    if response.console.isConnected && !rig.console.isConnected then
      after.connected response.console
    else after.continue_ response.console)

/-! ### The device -/

/-- Let further reads of the link turn out in a certain way. -/
def deliver (rig : Rig) (outcomes : List ReadOutcome) : Rig :=
  match rig.link? with
  | some link =>
      if rig.reachable && !link.outlet.broken then
        { rig with source := rig.source ++ outcomes }.settle
      else rig
  | none => rig

def send (rig : Rig) (bytes : List Byte) : Rig :=
  rig.deliver [.ok bytes]

/-- One read fails.  Only a scripted source can be made to fail. -/
def fail (rig : Rig) (fault : Fault) : Rig :=
  if rig.medium = .scripted then rig.deliver [.error fault] else rig

def mapOutlet (rig : Rig) (change : Outlet → Outlet) : Rig :=
  match rig.console.attachment with
  | .live link =>
      let attachment := Attachment.live { link with outlet := change link.outlet }
      { rig with console := { rig.console with attachment } }
  | _ => rig

/-- Let further writes and flushes of a scripted sink turn out in a certain
way. -/
def script (rig : Rig) (writes : List WriteOutcome) (flushes : List (Option Fault)) : Rig :=
  if rig.medium = .scripted then
    rig.mapOutlet fun outlet =>
      { outlet with writes := outlet.writes ++ writes, flushes := outlet.flushes ++ flushes }
  else rig

/-- The device hangs up.  A scripted sink still takes what is written. -/
def hangUp (rig : Rig) : Rig :=
  let after := rig.deliver [.error .hungUp]
  if rig.reachable && rig.medium == .socket then after.mapOutlet Outlet.hangUp else after

/-- From now on reads of a scripted source never return. -/
def stall (rig : Rig) : Rig :=
  if rig.medium = .scripted then { rig with stalled := true } else rig

/-- What the device has got since the rig was in an earlier state. -/
def received (before rig : Rig) : List Byte :=
  match before.link?, rig.link? with
  | _, none => []
  | none, some link => if rig.reachable then link.outlet.wire else []
  | some earlier, some link =>
      if rig.reachable then link.outlet.wire.drop earlier.outlet.wire.length else []

end Rig

end SerialConsole.Bench
