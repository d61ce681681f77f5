import SerialConsole.Log.History

/-!
# A history that counts

The number of a record need not be read off the records before it.  A ledger
has a counter for the next record, which goes up by one with every record and
back to zero on a reset.  Nothing in a ledger ties the counter to the records;
whatever is entered, it stays the number of them, so that a ledger is never
anything but a history with its size written beside it.
-/

namespace SerialConsole.Log

structure Ledger where
  entries : Array Entry
  shell : String
  /-- The number that the next record gets. -/
  next : Nat
  deriving DecidableEq, Repr

namespace Ledger

def new : Ledger where
  entries := #[]
  shell := ""
  next := 0

/-- Classify a record, give it the next number and keep it. -/
def append (l : Ledger) (text : String) : Ledger :=
  { l with entries := l.entries.push (Entry.ofText l.next text), next := l.next + 1 }

def appendShell (l : Ledger) (text : String) : Ledger :=
  { l with shell := l.shell ++ text }

/-- Drop all records and all text, and number from zero again. -/
def reset (l : Ledger) : Ledger :=
  { l with entries := #[], shell := "", next := 0 }

/-- The ledger of records arriving one after the other. -/
def ofTexts (texts : List String) : Ledger :=
  texts.foldl append new

/-- A history with the number of its records written beside it. -/
def ofHistory (h : History) : Ledger where
  entries := h.entries
  shell := h.shell
  next := h.size

theorem new_eq : new = ofHistory .empty := rfl

theorem append_ofHistory (h : History) (text : String) :
    (ofHistory h).append text = ofHistory (h.append text) := by
  have hnext : h.size + 1 = (h.append text).size := (Array.size_push (h.nextEntry text)).symm
  calc (ofHistory h).append text
      = { entries := (h.append text).entries, shell := h.shell, next := h.size + 1 } := rfl
    _ = ofHistory (h.append text) := by rw [hnext, ofHistory, History.shell_append]

theorem appendShell_ofHistory (h : History) (text : String) :
    (ofHistory h).appendShell text = ofHistory (h.appendShell text) := rfl

theorem reset_eq (l : Ledger) : l.reset = ofHistory .empty := rfl

/-- Records that are entered one after the other are counted. -/
theorem foldl_append_ofHistory (h : History) (texts : List String) :
    texts.foldl append (ofHistory h) = ofHistory (texts.foldl History.append h) := by
  induction texts generalizing h with
  | nil => rfl
  | cons text later ih => rw [List.foldl_cons, append_ofHistory, ih, List.foldl_cons]

theorem ofTexts_eq (texts : List String) : ofTexts texts = ofHistory (.ofTexts texts) :=
  foldl_append_ofHistory .empty texts

end Ledger

end SerialConsole.Log
