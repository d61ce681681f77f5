import SerialConsole.Link.Fault
import SerialConsole.Time.Span

/-!
# Terminal settings of a serial device

A serial device is driven raw: eight data bits, no parity, one stop bit, and
every byte passes as it is in both directions.  A read waits at most the
configured time, which the terminal counts in tenths of a second.
-/

namespace SerialConsole.Link

/-- How a link is opened.  Only the read timeout matters for a socket. -/
structure LinkSettings where
  baud : Nat := 115200
  /-- Whether RTS and CTS control the flow. -/
  flowControl : Bool := true
  /-- Whether DTR is asserted after opening. -/
  assertDtr : Bool := true
  readTimeout : Time.Span := Time.Span.ofMillis 100
  deriving DecidableEq, Repr

/-- The line speeds that a terminal can be set to. -/
def baudRates : List Nat :=
  [1200, 2400, 4800, 9600, 19200, 38400, 57600, 115200, 230400, 460800, 921600]

/-- The modes of a terminal, as far as the console sets them. -/
structure TerminalModes where
  speed : Nat
  receiverOn : Bool
  ignoreModemLines : Bool
  eightDataBits : Bool
  parity : Bool
  twoStopBits : Bool
  hardwareFlow : Bool
  echo : Bool
  lineEditing : Bool
  crToNewline : Bool
  outputProcessing : Bool
  /-- The bytes a read waits for. -/
  minBytes : Nat
  /-- The tenths of a second a read waits. -/
  deciseconds : Nat
  deriving DecidableEq, Repr

/-- Whole milliseconds in tenths of a second, rounded up, at most 255. -/
def deciseconds (timeout : Time.Span) : Nat :=
  min 255 ((timeout.toMillis + 99) / 100)

def checkBaud (rate : Nat) : Except OpenFault Unit :=
  if rate ∈ baudRates then .ok () else .error (.unsupportedBaud rate)

/-- The modes that a terminal is put into. -/
def LinkSettings.modes (settings : LinkSettings) : TerminalModes where
  speed := settings.baud
  receiverOn := true
  ignoreModemLines := true
  eightDataBits := true
  parity := false
  twoStopBits := false
  hardwareFlow := settings.flowControl
  echo := false
  lineEditing := false
  crToNewline := false
  outputProcessing := false
  minBytes := 0
  deciseconds := deciseconds settings.readTimeout

end SerialConsole.Link
