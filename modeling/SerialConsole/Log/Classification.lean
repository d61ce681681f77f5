import SerialConsole.Log.Tag

/-!
# Classifying log records

The category of a record is the first in order of urgency one of whose tags
occurs anywhere in the text; its subsystem is the first in display order whose
tag occurs.  Case does not matter for ASCII letters, and where in the text a
tag stands does not matter either.
-/

namespace SerialConsole.Log

/-- The categories in the order in which their tags are looked for. -/
def Category.byUrgency : List Category :=
  [.error, .warn, .silabs, .detail, .info]

structure Classification where
  category : Category
  /-- A record without a subsystem is not subject to the subsystem filter. -/
  subsystem : Option Subsystem
  deriving DecidableEq, Repr

def categoryIn (lowered : List Char) : Category :=
  (Category.byUrgency.find? fun category =>
    category.tags.any fun tag => Text.occursIn tag.toList lowered).getD .info

def subsystemIn (lowered : List Char) : Option Subsystem :=
  Subsystem.all.find? fun subsystem => Text.occursIn subsystem.tag.toList lowered

def categoryOf (text : String) : Category :=
  categoryIn (text.toList.map Text.lowerAscii)

def subsystemOf (text : String) : Option Subsystem :=
  subsystemIn (text.toList.map Text.lowerAscii)

/-- An untagged record is `info` with no subsystem. -/
def classify (text : String) : Classification where
  category := categoryOf text
  subsystem := subsystemOf text

end SerialConsole.Log
