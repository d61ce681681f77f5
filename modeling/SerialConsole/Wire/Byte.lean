/-!
# Bytes on the link

The device frames a log record between a start byte and an end byte, and ends
a line of its shell with CR LF.  All text on the link is ASCII; a byte above
`0x7F` is shown as the replacement character.
-/

namespace SerialConsole.Wire

abbrev Byte := UInt8

/-- The byte that opens a log frame. -/
def frameStart : Byte := 0x01

/-- The byte that closes a log frame. -/
def frameEnd : Byte := 0x04

def cr : Byte := 0x0D

def lf : Byte := 0x0A

/-- What ends a shell line, in both directions. -/
def terminator : List Byte := [cr, lf]

def replacement : Char := '\uFFFD'

/-- The most bytes that one read asks for, unless configured otherwise. -/
def defaultReadSize : Nat := 4096

def isAscii (b : Byte) : Bool :=
  b < 0x80

def decodeByte (b : Byte) : Char :=
  if isAscii b then Char.ofNat b.toNat else replacement

/-- Text recovered from raw bytes, with the number of bytes replaced. -/
structure Decoded where
  text : String
  replaced : Nat
  deriving DecidableEq, Repr

/-- Every byte becomes one character. -/
def decode (bytes : List Byte) : Decoded where
  text := String.ofList (bytes.map decodeByte)
  replaced := bytes.countP fun b => !isAscii b

@[simp]
theorem toList_text_decode (bytes : List Byte) :
    (decode bytes).text.toList = bytes.map decodeByte := by
  simp [decode]

/-- The frame that carries `payload`, as a device sends it. -/
def encodeFrame (payload : List Byte) : List Byte :=
  frameStart :: payload ++ [frameEnd]

/-- The wire form of a command, or the offset of its first byte outside
ASCII. -/
def encodeCommand (command : String) : Except Nat (List Byte) :=
  let bytes := command.toUTF8.toList
  match bytes.findIdx? fun b => !isAscii b with
  | some offset => .error offset
  | none => .ok (bytes ++ terminator)

end SerialConsole.Wire
