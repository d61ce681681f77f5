import SerialConsole.Monitor.Respond

/-!
# The monitor loop

The monitor takes turns between what the link has delivered and what is typed.
Around it lines arrive, the input ends, the feeder moves and the user
interrupts, each at any time; the loop itself moves in small steps, so that any
of these may come between two of them.
-/

namespace SerialConsole.Monitor

open Session

/-- Where the loop is between two of its steps. -/
inductive Phase where
  /-- About to look whether to go on. -/
  | deciding
  /-- A link is attached: about to take what it has delivered. -/
  | pumping
  /-- About to see whether a line has been typed. -/
  | asking
  /-- Holding a line to respond to. -/
  | holding (line : String)
  /-- Out of the loop, with a link perhaps still attached. -/
  | leaving
  | finished
  deriving DecidableEq, Repr

structure Loop where
  target : Target
  console : Console
  tree : Files.Tree
  /-- Cleared by an interrupt. -/
  running : Bool
  /-- Lines typed and not yet asked for, oldest first. -/
  typed : List String
  /-- Whether no more lines will be typed. -/
  inputEnded : Bool
  /-- Whether the loop still expects lines. -/
  expecting : Bool
  phase : Phase

/-- What may come next. -/
inductive Event where
  /-- A step of the loop. -/
  | step (around : Surroundings)
  | typed (line : String)
  | inputEnds
  | interrupt
  /-- A move of the feeder of the attached link. -/
  | feeder (move : Feeder.Move)

namespace Loop

/-- The loop over a console that has just been connected. -/
def start (target : Target) (console : Console) (tree : Files.Tree) : Loop where
  target := target
  console := console
  tree := tree
  running := true
  typed := []
  inputEnded := false
  expecting := true
  phase := .deciding

/-- One step of the loop, and what it shows. -/
def step (loop : Loop) (around : Surroundings) : Loop × List Update :=
  match loop.phase with
  | .deciding =>
      if loop.running then
        if loop.console.isConnected then ({ loop with phase := .pumping }, [])
        else if loop.expecting then ({ loop with phase := .asking }, [])
        else ({ loop with phase := .leaving }, [])
      else ({ loop with phase := .leaving }, [])
  | .pumping =>
      let outcome := loop.console.pump
      let failed : List Update := match outcome.result with
        | .ok _ => []
        | .error fault => [.error fault.message]
      ({ loop with console := outcome.console, phase := .asking }, outcome.updates ++ failed)
  | .asking =>
      match loop.typed with
      | line :: rest => ({ loop with typed := rest, phase := .holding line }, [])
      | [] =>
          ({ loop with expecting := loop.expecting && !loop.inputEnded, phase := .deciding }, [])
  | .holding line =>
      let response := respond loop.console loop.tree around loop.target line
      ({ loop with
          console := response.console,
          tree := response.tree,
          phase := if response.quit then .leaving else .deciding },
        response.updates)
  | .leaving =>
      if loop.console.isConnected then
        let outcome := loop.console.disconnect around.parting
        ({ loop with console := outcome.console, phase := .finished }, outcome.updates)
      else ({ loop with phase := .finished }, [])
  | .finished => (loop, [])

/-- What an event makes of the loop, and what is shown.  Nothing is typed after
the input has ended. -/
def take (loop : Loop) : Event → Loop × List Update
  | .step around => loop.step around
  | .typed line =>
      (if loop.inputEnded then loop else { loop with typed := loop.typed ++ [line] }, [])
  | .inputEnds => ({ loop with inputEnded := true }, [])
  | .interrupt => ({ loop with running := false }, [])
  | .feeder move => ({ loop with console := loop.console.mapFeeder (·.move move) }, [])

/-- What a run of events makes of the loop, and all that is shown. -/
def takeAll (loop : Loop) : List Event → Loop × List Update
  | [] => (loop, [])
  | event :: rest =>
      let (next, shown) := loop.take event
      let (last, later) := next.takeAll rest
      (last, shown ++ later)

end Loop

end SerialConsole.Monitor
