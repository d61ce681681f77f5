import SerialConsole.Log.History

/-!
# Selecting what is shown

A selection says which categories and which subsystems are on display.  It
decides about showing only and takes nothing out of a history.
-/

namespace SerialConsole.Log

structure Selection where
  categories : Category → Bool
  subsystems : Subsystem → Bool

namespace Selection

/-- Everything is shown. -/
def everything : Selection where
  categories _ := true
  subsystems _ := true

/-- Whether a record so classified is shown.  A record without a subsystem is
subject to its category alone. -/
def allows (s : Selection) (category : Category) (subsystem : Option Subsystem) : Bool :=
  s.categories category && subsystem.all s.subsystems

def shows (s : Selection) (entry : Entry) : Bool :=
  s.allows entry.category entry.subsystem

def setCategory (s : Selection) (category : Category) (enabled : Bool) : Selection :=
  { s with categories := fun c => if c = category then enabled else s.categories c }

def setSubsystem (s : Selection) (subsystem : Subsystem) (enabled : Bool) : Selection :=
  { s with subsystems := fun m => if m = subsystem then enabled else s.subsystems m }

def toggleCategory (s : Selection) (category : Category) : Selection :=
  s.setCategory category !s.categories category

def toggleSubsystem (s : Selection) (subsystem : Subsystem) : Selection :=
  s.setSubsystem subsystem !s.subsystems subsystem

def setAllSubsystems (s : Selection) (enabled : Bool) : Selection :=
  { s with subsystems := fun _ => enabled }

def enabledCategories (s : Selection) : List Category :=
  Category.all.filter s.categories

def enabledSubsystems (s : Selection) : List Subsystem :=
  Subsystem.all.filter s.subsystems

def allSubsystemsEnabled (s : Selection) : Bool :=
  Subsystem.all.all s.subsystems

/-- Everything but the hidden categories, and of the subsystems only those
listed, if a list is given. -/
def choose (hidden : List Category) (only : Option (List Subsystem)) : Selection :=
  let shown := hidden.foldl (fun s category => s.setCategory category false) everything
  match only with
  | none => shown
  | some listed =>
      listed.foldl (fun s subsystem => s.setSubsystem subsystem true)
        (shown.setAllSubsystems false)

/-- The status line that lists the categories on display. -/
def categorySummary (s : Selection) : String :=
  match s.enabledCategories with
  | [] => "All filters disabled - no logs shown"
  | enabled => "Active filters: " ++ ", ".intercalate (enabled.map Category.name)

/-- The status line that lists the subsystems on display by their long
names. -/
def subsystemSummary (s : Selection) : String :=
  if s.allSubsystemsEnabled then "All module filters enabled"
  else match s.enabledSubsystems with
    | [] => "All module filters disabled - untagged logs only"
    | enabled => "Active module filters: " ++ ", ".intercalate (enabled.map Subsystem.label)

@[ext]
theorem ext {s t : Selection} (hcategories : ∀ c, s.categories c = t.categories c)
    (hsubsystems : ∀ m, s.subsystems m = t.subsystems m) : s = t := by
  cases s
  cases t
  simp only [mk.injEq]
  exact ⟨funext hcategories, funext hsubsystems⟩

end Selection

/-- The part of a history that a selection shows, with the records not yet
looked at.  A copy of it can be walked again from where it stands. -/
structure Visible where
  remaining : List Entry
  selection : Selection

namespace Visible

/-- Find the next record shown, passing over those that are not. -/
def next? (v : Visible) : Option (Entry × Visible) :=
  match v.remaining.dropWhile fun entry => !v.selection.shows entry with
  | [] => none
  | entry :: rest => some (entry, { v with remaining := rest })

/-- Everything still to come. -/
def toList (v : Visible) : List Entry :=
  v.remaining.filter v.selection.shows

/-- Take up to `count` records, and what is left. -/
def take (v : Visible) : Nat → List Entry × Visible
  | 0 => ([], v)
  | count + 1 =>
      match v.next? with
      | none => ([], { v with remaining := [] })
      | some (entry, rest) =>
          let (taken, left) := rest.take count
          (entry :: taken, left)

/-- Bounds on how many records are still to come: at least none, at most all
those not yet looked at. -/
def sizeBounds (v : Visible) : Nat × Nat :=
  (0, v.remaining.length)

end Visible

/-- The records of a history that a selection shows, in order of arrival. -/
def History.visible (h : History) (selection : Selection) : Visible where
  remaining := h.entries.toList
  selection := selection

end SerialConsole.Log
