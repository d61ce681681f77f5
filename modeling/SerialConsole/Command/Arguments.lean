import SerialConsole.Command.Setting
import SerialConsole.Session.Console

/-!
# The command line

A command line names a subcommand and gives it words and settings.  Shared
settings may stand before the subcommand or after it, and count once in each
place; what is said after it wins.  Arguments are taken one by one from the
left.  An option waits for its value, and a value is read only when the next
argument that is known comes; so of two faults it is not always the first that
is reported.  A lone `--` ends the options.
-/

namespace SerialConsole.Command

/-! ### The shapes of arguments -/

inductive Shape where
  /-- A lone `--`. -/
  | separator
  /-- An argument `--name` or `--name=value`. -/
  | long (name : String) (value : Option String)
  /-- An argument `-letters`. -/
  | short (letters : List Char)
  | plain
  deriving DecidableEq, Repr

/-- The shape of an argument.  A lone `-` is plain. -/
def Shape.of (argument : String) : Shape :=
  match argument.toList with
  | ['-', '-'] => .separator
  | '-' :: '-' :: rest =>
      let name := String.ofList (rest.takeWhile (· != '='))
      match rest.dropWhile (· != '=') with
      | [] => .long name none
      | _ :: value => .long name (some (String.ofList value))
  | '-' :: letter :: letters => .short (letter :: letters)
  | _ => .plain

/-! ### Subcommands -/

inductive Subcommand where
  | monitor
  | replay
  | send
  | classify
  | version
  deriving DecidableEq, Repr

namespace Subcommand

def ofName? : String → Option Subcommand
  | "monitor" => some .monitor
  | "replay" => some .replay
  | "send" => some .send
  | "classify" => some .classify
  | "version" => some .version
  | _ => none

end Subcommand

/-- The word that asks for help in the place of a subcommand. -/
def helpWord : String := "help"

/-- What one word of a subcommand may be. -/
inductive Slot where
  /-- A path, which must not be empty. -/
  | path
  | text
  deriving DecidableEq, Repr

def Slot.read (slot : Slot) (word : String) : Except ArgumentFault String :=
  match slot with
  | .path => readPath word
  | .text => .ok word

/-- The place of an argument: before the subcommand, or after it. -/
inductive Level where
  | outer
  | inner (subcommand : Subcommand)
  deriving DecidableEq, Repr

namespace Level

def settings : Level → List Setting
  | .outer => Setting.shared
  | .inner .send => .listen :: Setting.shared
  | .inner .version => .extended :: Setting.shared
  | .inner _ => Setting.shared

/-- The slot of the word with a given index. -/
def slot? (level : Level) (index : Nat) : Option Slot :=
  match level with
  | .outer => none
  | .inner .monitor | .inner .replay => [Slot.path][index]?
  | .inner .send => [Slot.path, Slot.text][index]?
  | .inner .classify => some .text
  | .inner .version => none

/-- What is wrong with a word that has no slot. -/
def strayWord (level : Level) (word : String) : ArgumentFault :=
  match level with
  | .outer =>
      if (Subcommand.ofName? word).isSome || word = helpWord then .unknownArgument
      else .unknownSubcommand
  | .inner _ => .unknownArgument

end Level

/-! ### Taking arguments -/

/-- What has been taken and not yet read. -/
inductive Unread where
  | nothing
  /-- An option, and its value if that has come. -/
  | option (setting : Setting) (value : Option String)
  | word (text : String)
  deriving DecidableEq, Repr

structure Progress where
  choices : Choices := {}
  words : List String := []
  unread : Unread := .nothing
  /-- Whether a `--` has ended the options. -/
  literal : Bool := false
  deriving DecidableEq, Repr

namespace Progress

/-- Whether the next plain argument is the value of an option. -/
def awaitsValue (p : Progress) : Bool :=
  match p.unread with
  | .option _ none => !p.literal
  | _ => false

/-- The index that the next word gets. -/
def nextIndex (p : Progress) : Nat :=
  match p.unread with
  | .word _ => p.words.length + 1
  | _ => p.words.length

/-- Read what is unread. -/
def settle (p : Progress) (level : Level) : Except ArgumentFault Progress :=
  match p.unread with
  | .nothing => .ok p
  | .option _ none => .error .invalidValue
  | .option setting (some value) => do
      return { p with choices := ← p.choices.give value setting, unread := .nothing }
  | .word text => do
      let word ← ((level.slot? p.words.length).getD .text).read text
      return { p with words := p.words ++ [word], unread := .nothing }

def takeWord (p : Progress) (level : Level) (word : String) : Except ArgumentFault Progress :=
  match level.slot? p.nextIndex with
  | some _ => do return { ← p.settle level with unread := .word word }
  | none => .error (level.strayWord word)

/-- An argument that asks for something in place of a command. -/
def answer {α : Type} (p : Progress) (level : Level) (request : ArgumentFault)
    (value : Option String) : Except ArgumentFault α :=
  match value with
  | some _ => .error .needlessValue
  | none => do
      let _ ← p.settle level
      .error request

def takeLong (p : Progress) (level : Level) (name : String) (value : Option String) :
    Except ArgumentFault Progress :=
  if name = "help" then p.answer level .help value
  else if name = "version" ∧ level = .outer then p.answer level .version value
  else match level.settings.find? (·.word == name), value with
    | none, _ => .error .unknownArgument
    | some setting, some value =>
        if setting.hasValue then do
          let p ← p.settle level
          return { p with choices := ← p.choices.give value setting }
        else .error .needlessValue
    | some setting, none => do
        let p ← p.settle level
        if setting.hasValue then return { p with unread := .option setting none }
        else return { p with choices := ← p.choices.give "true" setting }

/-- The first letter decides, since no letter but those that ask for something
is known. -/
def takeShort (p : Progress) (level : Level) (letters : List Char) :
    Except ArgumentFault Progress :=
  match letters with
  | 'h' :: _ => p.answer level .help none
  | 'V' :: _ => if level = .outer then p.answer level .version none else .error .unknownArgument
  | _ => .error .unknownArgument

/-- Take one argument that names no subcommand. -/
def take (p : Progress) (level : Level) (argument : String) : Except ArgumentFault Progress :=
  if p.literal then p.takeWord level argument
  else match Shape.of argument with
    | .separator => .ok { p with literal := true }
    | .long name value => p.takeLong level name value
    | .short letters => p.takeShort level letters
    | .plain =>
        match p.unread with
        | .option setting none => .ok { p with unread := .option setting (some argument) }
        | _ => p.takeWord level argument

end Progress

/-! ### Reading the command line -/

/-- What is asked of the program: a subcommand with its words. -/
inductive Request where
  | monitor (path : String)
  | replay (path : String)
  | send (path command listen : String)
  | classify (texts : List String)
  | version (extended : Bool)
  deriving DecidableEq, Repr

/-- How long to listen, unless said otherwise. -/
def defaultListen : String := "1s"

/-- The request made of a subcommand and its words, if none is missing. -/
def Subcommand.request? (subcommand : Subcommand) (words : List String) (choices : Choices) :
    Option Request :=
  match subcommand, words with
  | .monitor, [path] => some (.monitor path)
  | .replay, [path] => some (.replay path)
  | .send, [path, command] => some (.send path command (choices.listen.getD defaultListen))
  | .classify, texts => some (.classify texts)
  | .version, [] => some (.version (choices.extended.getD false))
  | _, _ => none

/-- A command line that has been read. -/
structure Invocation where
  request : Request
  choices : Choices
  deriving DecidableEq, Repr

/-- Read all that is unread, and the environment. -/
def Progress.finish (p : Progress) (level : Level) (environment : String → Option String) :
    Except ArgumentFault (Progress × Choices) := do
  let p ← p.settle level
  return (p, ← p.choices.fromEnvironment environment)

/-- Read the arguments after a subcommand: the request and what they choose. -/
def readInner (environment : String → Option String) (subcommand : Subcommand)
    (arguments : List String) : Except ArgumentFault (Request × Choices) := do
  let level := Level.inner subcommand
  let p ← arguments.foldlM (fun p argument => p.take level argument) ({} : Progress)
  let (p, _) ← p.finish level environment
  match subcommand.request? p.words p.choices with
  | some request => return (request, p.choices)
  | none => .error .missingArgument

/-- The subcommand that help is asked about, if any, must exist and stand
alone. -/
def readHelp (arguments : List String) : ArgumentFault :=
  match arguments with
  | [] => .help
  | [name] =>
      if (Subcommand.ofName? name).isSome || name = helpWord then .help else .unknownSubcommand
  | _ => .unknownSubcommand

/-- Read a command line from the arguments before the subcommand on. -/
def readOuter (environment : String → Option String) (p : Progress) :
    List String → Except ArgumentFault Invocation
  | [] => do
      let (p, found) ← p.finish .outer environment
      .error (if p.choices.hasAny || found.hasAny then .missingSubcommand else .helpInstead)
  | argument :: rest =>
      let named := if p.literal || p.awaitsValue then none else Subcommand.ofName? argument
      match named with
      | some subcommand => do
          let (request, inner) ← readInner environment subcommand rest
          let (p, found) ← p.finish .outer environment
          return { request, choices := inner.orElse (p.choices.orElse found) }
      | none =>
          if argument = helpWord && !p.literal && !p.awaitsValue then .error (readHelp rest)
          else do readOuter environment (← p.take .outer argument) rest

/-- Read a command line. -/
def Invocation.read (environment : String → Option String) (arguments : List String) :
    Except ArgumentFault Invocation :=
  readOuter environment {} arguments

namespace Invocation

/-- The format of the output, by default JSON lines unless a person reads
them. -/
def format (i : Invocation) (interactive : Bool) : Output.Format :=
  i.choices.format.getD (if interactive then .pretty else .json)

def logFormat (i : Invocation) : LogFormat :=
  i.choices.logFormat.getD .text

def logLevel (i : Invocation) : LogLevel :=
  i.choices.logLevel.getD .warn

def selection (i : Invocation) : Log.Selection :=
  Log.Selection.choose (i.choices.hide.getD []) i.choices.modules

def linkSettings (i : Invocation) : Link.LinkSettings :=
  let handshaking := !i.choices.noFlowControl.getD false
  let standard : Link.LinkSettings := {}
  { standard with
    baud := i.choices.baud.getD standard.baud,
    flowControl := handshaking,
    assertDtr := handshaking }

def sessionSettings (i : Invocation) : Session.Settings :=
  let standard : Session.Settings := {}
  { standard with
    intake := { standard.intake with rule := i.choices.terminator.getD standard.intake.rule },
    captureDir := i.choices.saveDir.getD standard.captureDir,
    captureStem := i.choices.saveStem.getD standard.captureStem }

/-- The console that a command line sets up. -/
def console (i : Invocation) : Session.Console :=
  { Session.Console.new i.sessionSettings with selection := i.selection }

end Invocation

end SerialConsole.Command
