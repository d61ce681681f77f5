import SerialConsole.Files.Tree
import SerialConsole.Link.Intake
import SerialConsole.Link.Terminal

/-!
# Open links

A link is a socket or a terminal.  They tell idleness from a hang-up in
different ways: a terminal read finds no bytes when nothing came in time, a
socket read then reports that it would block, and finds no bytes only when the
other end has closed.
-/

namespace SerialConsole.Link

open Wire

inductive ChannelKind where
  | socket
  | terminal
  deriving DecidableEq, Repr

def ChannelKind.name : ChannelKind → String
  | .socket => "socket"
  | .terminal => "tty"

/-- The one-line description of an open link. -/
def ChannelKind.summary (kind : ChannelKind) : String :=
  "LinkStream \x7b type: \"" ++ kind.name ++ "\" \x7d"

/-- What a read of `size` bytes means for the records: no bytes from a socket
are a hang-up, and running out of time is finding nothing. -/
def ChannelKind.outcome (kind : ChannelKind) (size : Nat) (read : ReadOutcome) : ReadOutcome :=
  match read with
  | .ok [] => if kind = .socket ∧ size ≠ 0 then .error .hungUp else .ok []
  | .ok bytes => .ok bytes
  | .error fault =>
      if fault.kind = .wouldBlock ∨ fault.kind = .timedOut ∨ fault.kind = .interrupted then .ok []
      else .error fault

/-- An open link and what is under way on it. -/
structure Channel where
  kind : ChannelKind
  /-- Bytes from the device that have not been read. -/
  incoming : List Byte
  /-- Bytes for the device that it has not taken. -/
  outgoing : List Byte
  /-- Whether the device has hung up. -/
  hungUp : Bool
  /-- Whether a read is still to report that the device hung up on bytes that it
  had not taken. -/
  reset : Bool
  deriving DecidableEq, Repr

namespace Channel

def new (kind : ChannelKind) : Channel where
  kind := kind
  incoming := []
  outgoing := []
  hungUp := false
  reset := false

/-- Read up to `size` bytes. -/
def read (c : Channel) (size : Nat) : ReadOutcome × Channel :=
  match c.kind, c.incoming, c.hungUp with
  | .socket, [], false => (.error (.system .tryAgain), c)
  | .socket, [], true =>
      if c.reset then (.error (.system .reset), { c with reset := false }) else (.ok [], c)
  | .terminal, _, true => (.ok [], c)
  | _, incoming, _ => (.ok (incoming.take size), { c with incoming := incoming.drop size })

/-- Read up to `size` bytes, telling idleness from a hang-up. -/
def readAvailable (c : Channel) (size : Nat) : ReadOutcome × Channel :=
  let (read, c) := c.read size
  (c.kind.outcome size read, c)

/-- Write bytes: how many are taken. -/
def write (c : Channel) (bytes : List Byte) : Except Fault Nat × Channel :=
  match c.kind, c.hungUp with
  | .socket, true => (.error (.system .brokenPipe), c)
  | .terminal, true => (.error (.system .inputOutput), c)
  | _, false => (.ok bytes.length, { c with outgoing := c.outgoing ++ bytes })

/-- Set the time a read waits.  A terminal has its time in its modes and
ignores this; a socket cannot wait for no time. -/
def setTimeout (c : Channel) (timeout : Option Time.Span) : Except OpenFault Unit :=
  if c.kind = .socket ∧ timeout = some Time.Span.zero then .error (.failed .zeroTimeout)
  else .ok ()

/-- The device sends bytes. -/
def deviceWrite (c : Channel) (bytes : List Byte) : Channel :=
  if c.hungUp then c else { c with incoming := c.incoming ++ bytes }

/-- The device takes everything written to it. -/
def deviceRead (c : Channel) : List Byte × Channel :=
  (c.outgoing, { c with outgoing := [] })

/-- The device hangs up.  A socket remembers if bytes for the device are
lost. -/
def hangUp (c : Channel) : Channel :=
  if c.hungUp then c
  else { c with hungUp := true, reset := c.kind == .socket && !c.outgoing.isEmpty }

end Channel

open Files (Tree)

/-- The bytes that the path of a socket must stay below to be an address. -/
def addressBytes : Nat := 108

/-- Connect to the socket at a path. -/
def connectTo (path : String) (served : Bool) (settings : LinkSettings) :
    Except OpenFault ChannelKind := do
  if addressBytes ≤ path.utf8ByteSize then throw (.opening path .longAddress)
  if !served then throw (.opening path (.system .refused))
  (Channel.new .socket).setTimeout (some settings.readTimeout)
  return .socket

/-- Open the link at a path: connect to a socket, or set up a terminal. -/
def openAt (tree : Tree) (path : String) (settings : LinkSettings) :
    Except OpenFault ChannelKind :=
  match tree.stat path with
  | .error fault => .error (.opening path fault)
  | .ok (.socket served) => connectTo path served settings
  | .ok node => do
      checkBaud settings.baud
      match node with
      | .directory => .error (.opening path (.system .isADirectory))
      | .terminal => return .terminal
      | _ => .error (.configuring path (.system .notATerminal))

end SerialConsole.Link
