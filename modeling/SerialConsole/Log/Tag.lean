import SerialConsole.Log.Fault
import SerialConsole.Text.Blank
import SerialConsole.Text.Search

/-!
# Categories and subsystems of log records

A record states its severity category and the firmware subsystem it comes from
by bracketed tags in its text.  This module has the two sets of names, their
order on display, and how a name typed by the user is read.
-/

namespace SerialConsole.Log

inductive Category where
  | error
  | warn
  | info
  | detail
  | silabs
  deriving DecidableEq, Repr

namespace Category

/-- All categories, in display order. -/
def all : List Category :=
  [.error, .warn, .info, .detail, .silabs]

def name : Category → String
  | .error => "error"
  | .warn => "warn"
  | .info => "info"
  | .detail => "detail"
  | .silabs => "silabs"

/-- The tags that mark a record, in small letters.  Firmware pads short level
names, so a level has a plain and a padded spelling. -/
def tags : Category → List String
  | .error => ["[error]", "[error ]"]
  | .warn => ["[warn]", "[warn ]"]
  | .info => ["[info]", "[info ]"]
  | .detail => ["[detail]", "[detail ]"]
  | .silabs => ["[silabs]", "[silabs ]"]

end Category

inductive Subsystem where
  | zcl
  | dl
  | im
  | ot
  | svr
  | dis
  | swu
  | tst
  deriving DecidableEq, Repr

namespace Subsystem

/-- All subsystems, in display order. -/
def all : List Subsystem :=
  [.zcl, .dl, .im, .ot, .svr, .dis, .swu, .tst]

def name : Subsystem → String
  | .zcl => "zcl"
  | .dl => "dl"
  | .im => "im"
  | .ot => "ot"
  | .svr => "svr"
  | .dis => "dis"
  | .swu => "swu"
  | .tst => "tst"

/-- The long name, as status lines show it. -/
def label : Subsystem → String
  | .zcl => "Data Model"
  | .dl => "Device Layer"
  | .im => "Interaction Model"
  | .ot => "Open Thread"
  | .svr => "App Server"
  | .dis => "Discovery"
  | .swu => "Software Updates"
  | .tst => "Test"

/-- The tag that marks a record, in small letters. -/
def tag : Subsystem → String
  | .zcl => "[zcl]"
  | .dl => "[dl]"
  | .im => "[im]"
  | .ot => "[ot]"
  | .svr => "[svr]"
  | .dis => "[dis]"
  | .swu => "[swu]"
  | .tst => "[tst]"

end Subsystem

/-- The name inside what the user typed: blanks around it are dropped, then
brackets opening at its start and closing at its end. -/
def bareName (typed : String) : List Char :=
  Text.trimEndWhile (· == ']') ((Text.trimChars typed.toList).dropWhile (· == '['))

/-- Read a category name in any ASCII case, with or without brackets. -/
def Category.parse? (typed : String) : Option Category :=
  Category.all.find? fun category =>
    Text.sameUpToCase category.name.toList (bareName typed)

/-- Read a subsystem name in any ASCII case, with or without brackets. -/
def Subsystem.parse? (typed : String) : Option Subsystem :=
  Subsystem.all.find? fun subsystem =>
    Text.sameUpToCase subsystem.name.toList (bareName typed)

/-- Read a category name, or report it as it was typed. -/
def Category.parse (typed : String) : Except LogFault Category :=
  match Category.parse? typed with
  | some category => .ok category
  | none => .error (.unknownCategory typed)

/-- Read a subsystem name, or report it as it was typed. -/
def Subsystem.parse (typed : String) : Except LogFault Subsystem :=
  match Subsystem.parse? typed with
  | some subsystem => .ok subsystem
  | none => .error (.unknownSubsystem typed)

/-- Read a category name that is spelled exactly. -/
def Category.ofName? (name : String) : Option Category :=
  Category.all.find? fun category => category.name == name

/-- Read a subsystem name that is spelled exactly. -/
def Subsystem.ofName? (name : String) : Option Subsystem :=
  Subsystem.all.find? fun subsystem => subsystem.name == name

theorem Category.ofName?_name (category : Category) :
    Category.ofName? category.name = some category := by
  cases category <;> decide

theorem Subsystem.ofName?_name (subsystem : Subsystem) :
    Subsystem.ofName? subsystem.name = some subsystem := by
  cases subsystem <;> decide

theorem Category.mem_all (category : Category) : category ∈ Category.all := by
  cases category <;> decide

theorem Subsystem.mem_all (subsystem : Subsystem) : subsystem ∈ Subsystem.all := by
  cases subsystem <;> decide

end SerialConsole.Log
