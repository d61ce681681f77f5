import SerialConsole.Session.Operation

/-!
# Runs of a session

A run is any sequence of operations on a console.  Between two of them the
surroundings act: the feeder of the live link goes on, which may leave it in any
state with anything queued, and the way further writes turn out may change.
-/

namespace SerialConsole.Session

open Link Log

inductive Operation where
  | connect (label : String) (outlet : Outlet)
  | openLink (tree : Files.Tree) (path : String) (settings : LinkSettings) (outlet : Outlet)
  | disconnect (parting : Feeder.Parting)
  | pump
  | send (command : String)
  | save (tree : Files.Tree) (conditions : SaveConditions) (now : Time.Stamp)
  | load (path : String) (content : Except Fault ByteArray) (parting : Feeder.Parting)
  | closeReplay
  | toggleCategory (category : Category)
  | toggleSubsystem (subsystem : Subsystem)
  | setAllSubsystems (enabled : Bool)
  | select (selection : Selection)
  | redraw
  /-- The feeder has been at work. -/
  | feeder (change : Feeder → Feeder)
  /-- The other end of the link has been at work. -/
  | outlet (change : Outlet → Outlet)

namespace Console

/-- Change the outlet of the live link. -/
def mapOutlet (c : Console) (change : Outlet → Outlet) : Console :=
  match c.attachment with
  | .live link => { c with attachment := .live { link with outlet := change link.outlet } }
  | _ => c

/-- Carry out an operation: the console after it and what it shows.  What it
answers is left aside. -/
def perform (c : Console) : Operation → Console × List Update
  | .connect label outlet => let o := c.connect label outlet; (o.console, o.updates)
  | .openLink tree path settings outlet =>
      let o := c.openLink tree path settings outlet; (o.console, o.updates)
  | .disconnect parting => let o := c.disconnect parting; (o.console, o.updates)
  | .pump => let o := c.pump; (o.console, o.updates)
  | .send command => let o := c.send command; (o.console, o.updates)
  | .save _ _ _ => (c, [])
  | .load path content parting => let o := c.load path content parting; (o.console, o.updates)
  | .closeReplay => let o := c.closeReplay; (o.console, o.updates)
  | .toggleCategory category => c.toggleCategory category
  | .toggleSubsystem subsystem => c.toggleSubsystem subsystem
  | .setAllSubsystems enabled => c.setAllSubsystems enabled
  | .select selection => c.select selection
  | .redraw => (c, c.redraw)
  | .feeder change => (c.mapFeeder change, [])
  | .outlet change => (c.mapOutlet change, [])

/-- Carry out operations in order: the console after them and all they show. -/
def run (c : Console) : List Operation → Console × List Update
  | [] => (c, [])
  | operation :: rest =>
      let (next, shown) := c.perform operation
      let (last, later) := next.run rest
      (last, shown ++ later)

@[simp]
theorem run_nil (c : Console) : c.run [] = (c, []) := rfl

@[simp]
theorem run_cons (c : Console) (operation : Operation) (rest : List Operation) :
    c.run (operation :: rest) =
      (((c.perform operation).1.run rest).1,
        (c.perform operation).2 ++ ((c.perform operation).1.run rest).2) := rfl

/-! ### What the surroundings leave alone -/

section Surroundings

variable (c : Console) (changeFeeder : Feeder → Feeder) (changeOutlet : Outlet → Outlet)

@[simp]
theorem history_mapFeeder : (c.mapFeeder changeFeeder).history = c.history := by
  unfold mapFeeder
  split <;> rfl

@[simp]
theorem selection_mapFeeder : (c.mapFeeder changeFeeder).selection = c.selection := by
  unfold mapFeeder
  split <;> rfl

@[simp]
theorem history_mapOutlet : (c.mapOutlet changeOutlet).history = c.history := by
  unfold mapOutlet
  split <;> rfl

@[simp]
theorem selection_mapOutlet : (c.mapOutlet changeOutlet).selection = c.selection := by
  unfold mapOutlet
  split <;> rfl

end Surroundings

end Console

end SerialConsole.Session
