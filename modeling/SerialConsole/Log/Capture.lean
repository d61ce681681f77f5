import SerialConsole.Files.Tree
import SerialConsole.Log.Fault
import SerialConsole.Log.History
import SerialConsole.Time.Stamp

/-!
# Saving and loading captures

A capture is a pair of files: the log records, each on a line of its own, and
the text of the shell pane.  Loading reads the log file back, one record for
every line that is not blank, through the same classification as live records.
Saving stages both files under temporary names and moves them into place, so
that after a failure neither new file remains.
-/

namespace SerialConsole.Log

/-- The file names of captures start with this, unless configured otherwise. -/
def defaultStem : String := "silabs"

/-- A log file, split into the records it replays as. -/
structure Capture where
  path : String
  records : List String
  deriving DecidableEq, Repr

namespace Capture

/-- The records of a log file: its lines that are not blank, each followed by
a line feed. -/
def recordsOf (content : String) : List String :=
  ((content.toList.splitOn '\n').filter fun line => !line.all Text.isBlank).map
    fun line => String.ofList (line ++ ['\n'])

def ofText (path content : String) : Capture where
  path := path
  records := recordsOf content

/-- The capture in a file, from what reading the file gave. -/
def ofRead (path : String) (read : Except Fault ByteArray) : Except LogFault Capture :=
  match read with
  | .error fault => .error (.load path fault)
  | .ok bytes =>
      match String.fromUTF8? bytes with
      | none => .error (.load path .notUtf8)
      | some content => .ok (ofText path content)

def toHistory (capture : Capture) : History :=
  History.ofTexts capture.records

end Capture

/-- The file name of the log records saved at a given second. -/
def logName (stem : String) (stamp : Time.Stamp) : String :=
  stem ++ "_logs_" ++ stamp.text ++ ".txt"

/-- The file name of the shell pane saved at a given second. -/
def shellName (stem : String) (stamp : Time.Stamp) : String :=
  stem ++ "_interactive_" ++ stamp.text ++ ".txt"

/-- A record as a log file holds it: it ends in a line feed. -/
def storedText (text : String) : String :=
  if text.toList.getLast? = some '\n' then text else text ++ "\n"

/-- The content of the log file of a history. -/
def History.logText (h : History) : String :=
  String.join (h.entries.toList.map fun entry => storedText entry.text)

/-- Where a capture was saved. -/
structure Saved where
  logPath : String
  shellPath : String
  deriving DecidableEq, Repr

/-- The steps of saving that can fail for a reason outside the directory tree,
such as a full disk. -/
inductive SaveStep where
  | createLog
  | writeLog
  | createShell
  | writeShell
  | placeLog
  | placeShell
  deriving DecidableEq, Repr

open Files (Tree Place TemporaryNames)

/-- What is decided about a save outside the directory tree. -/
structure SaveConditions where
  mishap : SaveStep → Option Fault
  names : TemporaryNames

/-- Nothing outside the directory tree goes wrong. -/
def SaveConditions.undisturbed : SaveConditions where
  mishap _ := none
  names := .longer

/-- Write a temporary file in a directory.  After a failure the tree is as it
was before. -/
def stage (tree : Tree) (conditions : SaveConditions) (create write : SaveStep)
    (dir content : String) : Except Fault (Place × Tree) :=
  match conditions.mishap create, tree.createTemporary conditions.names dir with
  | some fault, _ => .error fault
  | none, .error fault => .error fault
  | none, .ok (file, tree) =>
      match conditions.mishap write with
      | some fault => .error fault
      | none => .ok (file, tree.put file (.file content.toUTF8))

/-- Move a temporary file into place. -/
def placeFile (tree : Tree) (conditions : SaveConditions) (step : SaveStep) (file : Place)
    (path : String) : Except Fault Tree :=
  match conditions.mishap step with
  | some fault => .error fault
  | none => tree.rename file path

/-- Save a history in a directory under names made of a stem and a stamp.
Both files are staged before either is moved, and if the second move fails the
first file is removed again. -/
def saveCapture (tree : Tree) (conditions : SaveConditions) (h : History)
    (dir stem : String) (stamp : Time.Stamp) : Except LogFault Saved × Tree :=
  let logPath := Files.join dir (logName stem stamp)
  let shellPath := Files.join dir (shellName stem stamp)
  match stage tree conditions .createLog .writeLog dir h.logText with
  | .error fault => (.error (.save logPath fault), tree)
  | .ok (logFile, staged) =>
      match stage staged conditions .createShell .writeShell dir h.shell with
      | .error fault => (.error (.save shellPath fault), staged.erase logFile)
      | .ok (shellFile, staged) =>
          match placeFile staged conditions .placeLog logFile logPath with
          | .error fault =>
              (.error (.save logPath fault), (staged.erase logFile).erase shellFile)
          | .ok placed =>
              match placeFile placed conditions .placeShell shellFile shellPath with
              | .error fault =>
                  (.error (.save shellPath fault), (placed.erase shellFile).remove logPath)
              | .ok tree => (.ok { logPath, shellPath }, tree)

end SerialConsole.Log
