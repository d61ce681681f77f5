import SerialConsole.Log.Tag

/-!
# Lines typed at the monitor

A line whose first character is a colon is a directive to the monitor; every
other line is a command for the device.  A directive has a name and, after the
first blank, an argument.  Blanks around a line and around an argument are
dropped.
-/

namespace SerialConsole.Monitor

open Log

inductive Directive where
  | save
  | filterCategory (category : Category)
  | filterSubsystem (subsystem : Subsystem)
  | allSubsystems (shown : Bool)
  | load (path : String)
  | close
  | connect
  | disconnect
  | quit
  deriving DecidableEq, Repr

inductive Line where
  | command (text : String)
  | directive (directive : Directive)
  deriving DecidableEq, Repr

inductive LineFault where
  | unknownDirective (line : String)
  /-- A filter target that is no category and no subsystem. -/
  | unknownTarget (target : String)
  deriving DecidableEq, Repr

def LineFault.message : LineFault → String
  | .unknownDirective line => "unknown directive '" ++ line ++ "'"
  | .unknownTarget target => "'" ++ target ++ "' is neither a category nor a module"

/-- What a filter target names; categories are tried first. -/
def filterTarget (target : String) : Except LineFault Directive :=
  match Category.parse? target with
  | some category => .ok (.filterCategory category)
  | none =>
      match Subsystem.parse? target with
      | some subsystem => .ok (.filterSubsystem subsystem)
      | none => .error (.unknownTarget target)

/-- The name of a directive and its argument, which may be empty. -/
def splitDirective (chars : List Char) : List Char × List Char :=
  (chars.takeWhile fun c => !Text.isBlank c,
    Text.trimChars (chars.dropWhile fun c => !Text.isBlank c))

/-- The directive with a name and an argument.  The whole line is reported if
there is none. -/
def readDirective (line name argument : String) : Except LineFault Directive :=
  match name, argument with
  | "save", "" => .ok .save
  | "modules", "all" => .ok (.allSubsystems true)
  | "modules", "none" => .ok (.allSubsystems false)
  | "close", "" => .ok .close
  | "connect", "" => .ok .connect
  | "disconnect", "" => .ok .disconnect
  | "quit", "" => .ok .quit
  | "q", "" => .ok .quit
  | "filter", target => if target = "" then .error (.unknownDirective line) else filterTarget target
  | "load", path => if path = "" then .error (.unknownDirective line) else .ok (.load path)
  | _, _ => .error (.unknownDirective line)

/-- Read a line. -/
def Line.parse (line : String) : Except LineFault Line :=
  let trimmed := Text.trimChars line.toList
  match trimmed with
  | ':' :: rest =>
      let (name, argument) := splitDirective rest
      (readDirective (String.ofList trimmed) (String.ofList name) (String.ofList argument)).map
        .directive
  | _ => .ok (.command (String.ofList trimmed))

end SerialConsole.Monitor
