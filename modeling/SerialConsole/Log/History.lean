import SerialConsole.Log.Classification

/-!
# The history of a session

Log records are kept in order of arrival, numbered from zero and classified as
they arrive.  Beside them stands everything the shell has shown.  Nothing is
taken out of a history but by starting a new one.
-/

namespace SerialConsole.Log

structure Entry where
  /-- The arrival index. -/
  sequence : Nat
  text : String
  category : Category
  subsystem : Option Subsystem
  deriving DecidableEq, Repr

/-- The entry for a record that arrives at a given index. -/
def Entry.ofText (sequence : Nat) (text : String) : Entry :=
  let classification := classify text
  { sequence, text,
    category := classification.category,
    subsystem := classification.subsystem }

structure History where
  entries : Array Entry
  /-- All text of the shell pane. -/
  shell : String
  deriving DecidableEq, Repr

namespace History

def empty : History where
  entries := #[]
  shell := ""

def size (h : History) : Nat :=
  h.entries.size

def isEmpty (h : History) : Bool :=
  h.entries.isEmpty

/-- The entry that a record gets if it arrives now. -/
def nextEntry (h : History) (text : String) : Entry :=
  Entry.ofText h.size text

/-- Classify a record, number it and keep it. -/
def append (h : History) (text : String) : History :=
  { h with entries := h.entries.push (h.nextEntry text) }

def appendShell (h : History) (text : String) : History :=
  { h with shell := h.shell ++ text }

/-- The history of records arriving one after the other. -/
def ofTexts (texts : List String) : History :=
  texts.foldl append empty

@[simp]
theorem toList_append (h : History) (text : String) :
    (h.append text).entries.toList = h.entries.toList ++ [h.nextEntry text] := by
  simp [append]

@[simp]
theorem shell_append (h : History) (text : String) : (h.append text).shell = h.shell := rfl

@[simp]
theorem entries_appendShell (h : History) (text : String) :
    (h.appendShell text).entries = h.entries := rfl

end History

end SerialConsole.Log
