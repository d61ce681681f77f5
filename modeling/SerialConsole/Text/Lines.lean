/-!
# Lines of input

Input is cut into lines at each line feed; a carriage return right before the
line feed goes with it.  What follows the last line feed is a line if it is not
empty.  Reading stops at the first line that is not UTF-8.
-/

namespace SerialConsole.Text

/-- A line without the carriage return at its end. -/
def withoutReturn (line : List UInt8) : List UInt8 :=
  if line.getLast? = some 0x0D then line.dropLast else line

/-- The bytes of each line. -/
def lineBytes (input : List UInt8) : List (List UInt8) :=
  let pieces := input.splitOn 0x0A
  let last := pieces.getLast?.getD []
  pieces.dropLast.map withoutReturn ++ (if last.isEmpty then [] else [last])

/-- The lines that were read, and whether all of the input was. -/
structure InputLines where
  lines : List String
  complete : Bool
  deriving DecidableEq, Repr

/-- Decode lines up to the first that is not UTF-8. -/
def decodeLines : List (List UInt8) → InputLines
  | [] => { lines := [], complete := true }
  | line :: rest =>
      match String.fromUTF8? ⟨line.toArray⟩ with
      | none => { lines := [], complete := false }
      | some text =>
          let later := decodeLines rest
          { later with lines := text :: later.lines }

def readLines (input : List UInt8) : InputLines :=
  decodeLines (lineBytes input)

end SerialConsole.Text
