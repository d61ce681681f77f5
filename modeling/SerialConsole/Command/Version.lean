import SerialConsole.Output.Printer
import SerialConsole.Wire.Byte

/-!
# Version information

The version, and in the extended form how the program was built and what it
speaks on the link.
-/

namespace SerialConsole.Command

open Output Text

structure BuildInfo where
  name : String
  version : String
  target : String
  profile : String
  compiler : String
  features : List String
  links : List String
  deriving DecidableEq, Repr

/-- What is not recorded in a build. -/
def unknown : String := "unknown"

def BuildInfo.current : BuildInfo where
  name := "splitlink"
  version := "0.1.0"
  target := unknown
  profile := unknown
  compiler := unknown
  features := ["cli"]
  links := ["tty", "unix-socket"]

namespace BuildInfo

def title (info : BuildInfo) : String :=
  info.name ++ " " ++ info.version

def listed (items : List String) : String :=
  if items.isEmpty then "none" else ", ".intercalate items

/-- A byte as two hexadecimal digits. -/
def hexByte (b : Wire.Byte) : String :=
  String.ofList [hexDigit (b.toNat / 16), hexDigit b.toNat]

/-- What ends a line on the link. -/
def lineEnd : String := "CRLF"

def lines (info : BuildInfo) : List String :=
  [info.title,
   "target: " ++ info.target ++ " (" ++ info.profile ++ ")",
   "rustc: " ++ info.compiler,
   "features: " ++ listed info.features,
   "links: " ++ listed info.links,
   "framing: sof=0x" ++ hexByte Wire.frameStart ++ " eof=0x" ++ hexByte Wire.frameEnd ++
     " terminator=" ++ lineEnd]

def json (info : BuildInfo) : Json :=
  .object
    [("name", .string info.name),
     ("version", .string info.version),
     ("target", .string info.target),
     ("profile", .string info.profile),
     ("rustc", .string info.compiler),
     ("features", .array (info.features.map .string)),
     ("links", .array (info.links.map .string)),
     ("sof", .number Wire.frameStart.toNat),
     ("eof", .number Wire.frameEnd.toNat),
     ("terminator", .string lineEnd)]

end BuildInfo

/-- Print the version, or everything about the build. -/
def printVersion (format : Format) (extended : Bool) : Printed :=
  let info := BuildInfo.current
  if extended then
    match format with
    | .json => .line info.json.render
    | _ => .join (info.lines.map .line)
  else .line info.title

end SerialConsole.Command
