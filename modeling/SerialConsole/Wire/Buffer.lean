import SerialConsole.Wire.Byte

/-!
# Encoding into a buffer

Frames and commands are put into a buffer behind what it holds already, piece by
piece.  What has been put stays there whatever fails later, so a command is looked
at as a whole before any of it is put.
-/

namespace SerialConsole.Wire

/-- Something that puts bytes into a buffer and may fail on the way. -/
abbrev Putting (ε : Type) := ExceptT ε (StateM (List Byte))

def putBytes {ε : Type} (bytes : List Byte) : Putting ε Unit :=
  modify (· ++ bytes)

def putFrame {ε : Type} (payload : List Byte) : Putting ε Unit := do
  putBytes [frameStart]
  putBytes payload
  putBytes [frameEnd]

/-- Put the wire form of a command, or fail with the offset of its first byte
outside ASCII. -/
def putCommand (command : String) : Putting Nat Unit := do
  let bytes := command.toUTF8.toList
  if let some offset := bytes.findIdx? fun b => !isAscii b then
    throw offset
  putBytes bytes
  putBytes terminator

/-- How putting ends, and what the buffer holds then. -/
def Putting.into {ε : Type} (put : Putting ε Unit) (buffer : List Byte) :
    Except ε Unit × List Byte :=
  Id.run (put.run.run buffer)

end SerialConsole.Wire
