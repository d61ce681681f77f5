import SerialConsole.Link.Terminal
import SerialConsole.Log.Selection
import SerialConsole.Output.Printer
import SerialConsole.Text.Decimal
import SerialConsole.Wire.Splitter

/-!
# Settings given as options

A setting is given by an option `--word` on the command line, and some also by
an environment variable.  A setting with a value may be given once, but for the
two lists, whose options add up and whose values are separated by commas.
-/

namespace SerialConsole.Command

open Log Output Wire

/-- How diagnostics are written. -/
inductive LogFormat where
  | text
  | json
  deriving DecidableEq, Repr

/-- How much is written to the diagnostics, least first. -/
inductive LogLevel where
  | error
  | warn
  | info
  | debug
  | trace
  deriving DecidableEq, Repr

/-- What is wrong with the arguments, or asked of them in place of a
command. -/
inductive ArgumentFault where
  | help
  | version
  /-- No argument at all, which shows the help as an error. -/
  | helpInstead
  | unknownArgument
  | unknownSubcommand
  | missingSubcommand
  | missingArgument
  /-- A value that is none of those possible, or no value at all. -/
  | invalidValue
  /-- A value that cannot be read. -/
  | malformedValue
  /-- A value for an option that takes none. -/
  | needlessValue
  /-- An option given twice. -/
  | repeated
  deriving DecidableEq, Repr

/-- Asking for help or for the version is no error. -/
def ArgumentFault.exitCode : ArgumentFault → Nat
  | .help | .version => 0
  | _ => 2

inductive Setting where
  | format
  | logFormat
  | logLevel
  | hide
  | modules
  | terminator
  | baud
  | noFlowControl
  | saveDir
  | saveStem
  | listen
  | extended
  deriving DecidableEq, Repr

namespace Setting

/-- The settings that every subcommand has, and that may also stand before
it. -/
def shared : List Setting :=
  [.format, .logFormat, .logLevel, .hide, .modules, .terminator, .baud, .noFlowControl, .saveDir,
   .saveStem]

/-- The word of the option. -/
def word : Setting → String
  | .format => "format"
  | .logFormat => "log-format"
  | .logLevel => "log-level"
  | .hide => "hide"
  | .modules => "modules"
  | .terminator => "terminator"
  | .baud => "baud"
  | .noFlowControl => "no-flow-control"
  | .saveDir => "save-dir"
  | .saveStem => "save-prefix"
  | .listen => "listen"
  | .extended => "extended"

/-- Whether the option is followed by a value. -/
def hasValue : Setting → Bool
  | .noFlowControl | .extended => false
  | _ => true

/-- The environment variable that gives the setting where no option does. -/
def environmentName? : Setting → Option String
  | .logFormat => some "SPLITLINK_LOG_FORMAT"
  | .logLevel => some "SPLITLINK_LOG_LEVEL"
  | .terminator => some "SPLITLINK_TERMINATOR"
  | .baud => some "SPLITLINK_BAUD"
  | .noFlowControl => some "SPLITLINK_NO_FLOW_CONTROL"
  | .saveDir => some "SPLITLINK_SAVE_DIR"
  | .saveStem => some "SPLITLINK_SAVE_PREFIX"
  | _ => none

end Setting

/-! ### Reading values -/

/-- The value with a name among those possible, spelled exactly. -/
def readChoice {α : Type} (choices : List (String × α)) (text : String) :
    Except ArgumentFault α :=
  match choices.lookup text with
  | some value => .ok value
  | none => .error .invalidValue

def readFormat : String → Except ArgumentFault Format :=
  readChoice [("json", .json), ("table", .table), ("pretty", .pretty), ("raw", .raw)]

def readLogFormat : String → Except ArgumentFault LogFormat :=
  readChoice [("text", .text), ("json", .json)]

def readLogLevel : String → Except ArgumentFault LogLevel :=
  readChoice
    [("error", .error), ("warn", .warn), ("info", .info), ("debug", .debug), ("trace", .trace)]

def readRule : String → Except ArgumentFault LineRule :=
  readChoice [("lenient", .lenient), ("strict", .strict)]

def readFlag : String → Except ArgumentFault Bool :=
  readChoice [("true", true), ("false", false)]

/-- A path, which must not be empty. -/
def readPath (text : String) : Except ArgumentFault String :=
  if text.isEmpty then .error .invalidValue else .ok text

/-- A line speed: a number below `2 ^ 32` with an optional sign. -/
def readBaud (text : String) : Except ArgumentFault Nat :=
  let value? := match text.toList with
    | '-' :: digits => (Text.readDigits? digits).filter (· == 0)
    | chars => Text.readBelow? UInt32.size chars
  match value? with
  | some value => .ok value
  | none => .error .malformedValue

/-- Names separated by commas. -/
def readNames {α : Type} (parse? : String → Option α) (text : String) :
    Except ArgumentFault (List α) :=
  let names := (text.toList.splitOn ',').map String.ofList
  match names.mapM parse? with
  | some values => .ok values
  | none => .error .malformedValue

/-! ### Choices -/

/-- The settings that were given in one place. -/
structure Choices where
  format : Option Format := none
  logFormat : Option LogFormat := none
  logLevel : Option LogLevel := none
  hide : Option (List Category) := none
  modules : Option (List Subsystem) := none
  terminator : Option LineRule := none
  baud : Option Nat := none
  noFlowControl : Option Bool := none
  saveDir : Option String := none
  saveStem : Option String := none
  listen : Option String := none
  extended : Option Bool := none
  deriving DecidableEq, Repr

namespace Choices

def has (c : Choices) : Setting → Bool
  | .format => c.format.isSome
  | .logFormat => c.logFormat.isSome
  | .logLevel => c.logLevel.isSome
  | .hide => c.hide.isSome
  | .modules => c.modules.isSome
  | .terminator => c.terminator.isSome
  | .baud => c.baud.isSome
  | .noFlowControl => c.noFlowControl.isSome
  | .saveDir => c.saveDir.isSome
  | .saveStem => c.saveStem.isSome
  | .listen => c.listen.isSome
  | .extended => c.extended.isSome

/-- Whether any setting that stands in any place was given. -/
def hasAny (c : Choices) : Bool :=
  Setting.shared.any c.has

/-- A setting that may be given once.  That it was given before counts before
what is wrong with the value. -/
def once {α : Type} (current : Option α) (value : Except ArgumentFault α) :
    Except ArgumentFault (Option α) :=
  if current.isSome then .error .repeated else value.map some

/-- A setting whose values add up. -/
def more {α : Type} (current : Option (List α)) (values : Except ArgumentFault (List α)) :
    Except ArgumentFault (Option (List α)) :=
  values.map fun values => some (current.getD [] ++ values)

/-- Give a setting. -/
def give (c : Choices) (value : String) : Setting → Except ArgumentFault Choices
  | .format => (once c.format (readFormat value)).map ({ c with format := · })
  | .logFormat => (once c.logFormat (readLogFormat value)).map ({ c with logFormat := · })
  | .logLevel => (once c.logLevel (readLogLevel value)).map ({ c with logLevel := · })
  | .hide => (more c.hide (readNames Category.parse? value)).map ({ c with hide := · })
  | .modules => (more c.modules (readNames Subsystem.parse? value)).map ({ c with modules := · })
  | .terminator => (once c.terminator (readRule value)).map ({ c with terminator := · })
  | .baud => (once c.baud (readBaud value)).map ({ c with baud := · })
  | .noFlowControl => (once c.noFlowControl (readFlag value)).map ({ c with noFlowControl := · })
  | .saveDir => (once c.saveDir (readPath value)).map ({ c with saveDir := · })
  | .saveStem => (once c.saveStem (.ok value)).map ({ c with saveStem := · })
  | .listen => (once c.listen (.ok value)).map ({ c with listen := · })
  | .extended => (once c.extended (readFlag value)).map ({ c with extended := · })

/-- Every setting from the first choices that have it. -/
def orElse (first second : Choices) : Choices where
  format := first.format <|> second.format
  logFormat := first.logFormat <|> second.logFormat
  logLevel := first.logLevel <|> second.logLevel
  hide := first.hide <|> second.hide
  modules := first.modules <|> second.modules
  terminator := first.terminator <|> second.terminator
  baud := first.baud <|> second.baud
  noFlowControl := first.noFlowControl <|> second.noFlowControl
  saveDir := first.saveDir <|> second.saveDir
  saveStem := first.saveStem <|> second.saveStem
  listen := first.listen <|> second.listen
  extended := first.extended <|> second.extended

/-- What the environment gives where the choices have nothing. -/
def fromEnvironment (given : Choices) (environment : String → Option String) :
    Except ArgumentFault Choices :=
  Setting.shared.foldlM (fun found setting =>
    match given.has setting, setting.environmentName?.bind environment with
    | false, some value => found.give value setting
    | _, _ => .ok found) {}

end Choices

end SerialConsole.Command
