import SerialConsole.Monitor.Loop
import SerialConsole.Proofs.Monitor.Failures
import SerialConsole.Proofs.Session.Modes

/-!
# What the monitor loop can do

A step of the loop is one of nine things, and no other event moves the loop.
Whatever comes, a line that has arrived has been responded to, is held, or is
waiting, in the order of arrival.
-/

namespace SerialConsole.Monitor

open Session

/-- The lines that arrive: those typed before the input ends. -/
def arrivals : List Event → List String
  | [] => []
  | .typed line :: rest => line :: arrivals rest
  | .inputEnds :: _ => []
  | .step _ :: rest | .interrupt :: rest | .feeder _ :: rest => arrivals rest

def Event.isStep : Event → Bool
  | .step _ => true
  | _ => false

/-- How many steps the loop makes. -/
def stepsIn (events : List Event) : Nat :=
  events.countP Event.isStep

/-- Whether a line asks to quit. -/
def quits (line : String) : Bool :=
  match Line.parse line with
  | .ok (.directive .quit) => true
  | _ => false

namespace Loop

/-- The line that the loop is about to respond to. -/
def held (loop : Loop) : List String :=
  match loop.phase with
  | .holding line => [line]
  | _ => []

/-- What is still to be responded to. -/
def waiting (loop : Loop) : List String :=
  loop.held ++ loop.typed

def isOver (loop : Loop) : Bool :=
  match loop.phase with
  | .leaving | .finished => true
  | _ => false

/-- Nothing more can come: the loop has seen that the input has ended, and no
link is attached. -/
def isExhausted (loop : Loop) : Bool :=
  !loop.expecting && !loop.console.isConnected

/-- The line that an event makes the loop respond to. -/
def handledBy (loop : Loop) : Event → List String
  | .step _ => loop.held
  | .typed _ | .inputEnds | .interrupt | .feeder _ => []

/-- The lines that a run of events makes the loop respond to. -/
def handledIn (loop : Loop) : List Event → List String
  | [] => []
  | event :: rest => loop.handledBy event ++ (loop.take event).1.handledIn rest

/-- The lines that arrive in a run of events. -/
def arrivalsIn (loop : Loop) (events : List Event) : List String :=
  if loop.inputEnded then [] else arrivals events

/-- The loop after a run of events. -/
def after (loop : Loop) (events : List Event) : Loop :=
  (loop.takeAll events).1

/-- What a step can make of the loop. -/
inductive Pass (loop : Loop) : Loop → Prop where
  | visits (hphase : loop.phase = .deciding) (hrunning : loop.running = true)
      (hlink : loop.console.isConnected = true) : Pass loop { loop with phase := .pumping }
  | waits (hphase : loop.phase = .deciding) (hrunning : loop.running = true)
      (hexpecting : loop.expecting = true) : Pass loop { loop with phase := .asking }
  | ends (hphase : loop.phase = .deciding)
      (hwhy : loop.running = false ∨ loop.isExhausted = true) :
      Pass loop { loop with phase := .leaving }
  | pumps (hphase : loop.phase = .pumping) :
      Pass loop { loop with console := loop.console.pump.console, phase := .asking }
  | hears (line : String) (rest : List String) (hphase : loop.phase = .asking)
      (htyped : loop.typed = line :: rest) :
      Pass loop { loop with typed := rest, phase := .holding line }
  | hearsNothing (hphase : loop.phase = .asking) (htyped : loop.typed = []) :
      Pass loop
        { loop with expecting := loop.expecting && !loop.inputEnded, phase := .deciding }
  | responds (line : String) (response : Response) (hphase : loop.phase = .holding line)
      (hquit : response.quit = quits line) :
      Pass loop
        { loop with
          console := response.console,
          tree := response.tree,
          phase := if quits line then .leaving else .deciding }
  | leaves (console : Console) (hphase : loop.phase = .leaving)
      (hfree : console.isConnected = false) : Pass loop { loop with console, phase := .finished }
  | stays (hphase : loop.phase = .finished) : Pass loop loop

end Loop

theorem quits_iff {line : String} :
    quits line = true ↔ Line.parse line = .ok (.directive .quit) := by
  unfold quits
  split
  · rename_i hparse
    exact ⟨fun _ => hparse, fun _ => rfl⟩
  · rename_i hother
    exact ⟨Bool.noConfusion, fun hparse => absurd hparse hother⟩

theorem quit_respond_eq (c : Console) (tree : Files.Tree) (around : Surroundings)
    (target : Target) (line : String) :
    (respond c tree around target line).quit = quits line :=
  Bool.eq_iff_iff.mpr (quit_respond.trans quits_iff.symm)

theorem arrivals_isPrefix_append (events later : List Event) :
    arrivals events <+: arrivals (events ++ later) := by
  induction events with
  | nil => exact List.nil_prefix
  | cons event rest ih =>
      cases event with
      | typed line => exact (List.prefix_cons_inj line).mpr ih
      | inputEnds => exact List.nil_prefix
      | step around => exact ih
      | interrupt => exact ih
      | feeder move => exact ih

theorem Event.eq_step_or (event : Event) :
    (∃ around, event = .step around) ∨ event.isStep = false := by
  cases event with
  | step around => exact .inl ⟨around, rfl⟩
  | _ => exact .inr rfl

theorem stepsIn_cons (event : Event) (rest : List Event) :
    stepsIn (event :: rest) = stepsIn rest + if event.isStep then 1 else 0 :=
  List.countP_cons

theorem isConnected_mapFeeder (c : Console) (change : Feeder → Feeder) :
    (c.mapFeeder change).isConnected = c.isConnected :=
  congrArg (· == Mode.live) (c.mode_mapFeeder change)

theorem isConnected_pump {c : Console} (hfree : c.isConnected = false) :
    c.pump.console.isConnected = false := by
  obtain ⟨settings, history, selection, attachment⟩ := c
  cases attachment with
  | live link => cases hfree
  | nothing => rfl
  | replay path => rfl

namespace Loop

variable {loop next : Loop}

/-! ### What a step can do -/

theorem pass_step (loop : Loop) (around : Surroundings) : Pass loop (loop.step around).1 := by
  obtain ⟨target, console, tree, running, typed, inputEnded, expecting, phase⟩ := loop
  cases phase with
  | deciding =>
      cases running with
      | false => exact .ends rfl (.inl rfl)
      | true =>
          cases hlink : console.isConnected with
          | true =>
              simp only [step, hlink, if_true]
              exact .visits rfl rfl hlink
          | false =>
              cases expecting with
              | true =>
                  simp only [step, hlink, Bool.false_eq_true, if_false, if_true]
                  exact .waits rfl rfl rfl
              | false =>
                  simp only [step, hlink, Bool.false_eq_true, if_false, if_true]
                  exact .ends rfl (.inr (by rw [isExhausted, hlink]; rfl))
  | pumping => exact .pumps rfl
  | asking =>
      cases typed with
      | nil => exact .hearsNothing rfl rfl
      | cons line rest => exact .hears line rest rfl rfl
  | holding line =>
      have hquit := quit_respond_eq console tree around target line
      simp only [step, hquit]
      exact .responds line _ rfl hquit
  | leaving =>
      cases hlink : console.isConnected with
      | false =>
          simp only [step, hlink, Bool.false_eq_true, if_false]
          exact .leaves console rfl hlink
      | true =>
          obtain ⟨link, hlive⟩ := Console.exists_live (beq_iff_eq.mp hlink)
          simp only [step, hlink, if_true, Console.disconnect_live hlive]
          exact .leaves _ rfl rfl
  | finished => exact .stays rfl

theorem running_pass (hpass : Pass loop next) : next.running = loop.running := by
  cases hpass <;> rfl

theorem inputEnded_pass (hpass : Pass loop next) : next.inputEnded = loop.inputEnded := by
  cases hpass <;> rfl

theorem held_eq_nil {phase : Phase} (hphase : loop.phase = phase)
    (hother : ∀ line, phase ≠ .holding line) : loop.held = [] := by
  unfold held
  split
  · rename_i line hholding
    exact absurd (hphase.symm.trans hholding) (hother line)
  · rfl

theorem isOver_pass (hpass : Pass loop next) (hover : loop.isOver = true) :
    next.isOver = true := by
  cases hpass with
  | leaves console hphase hfree => rfl
  | stays hphase => exact hover
  | _ => simp only [isOver, *, Bool.false_eq_true] at hover

/-- A line that is held is responded to by the next step, and no step loses any
other. -/
theorem waiting_pass (hpass : Pass loop next) : loop.held ++ next.waiting = loop.waiting := by
  cases hpass with
  | responds line response hphase hquit =>
      cases quits line <;> simp only [waiting, held, hphase] <;> rfl
  | hears line rest hphase htyped =>
      simp only [waiting, held, hphase, htyped]
      rfl
  | _ =>
      simp only [waiting, held, *]
      rfl

/-! ### What no other event does -/

theorem phase_take (loop : Loop) {event : Event} (hevent : event.isStep = false) :
    (loop.take event).1.phase = loop.phase := by
  cases event with
  | step around => cases hevent
  | typed line =>
      rw [take]
      split <;> rfl
  | _ => rfl

theorem waiting_isPrefix_take (loop : Loop) {event : Event} (hevent : event.isStep = false) :
    loop.waiting <+: (loop.take event).1.waiting := by
  cases event with
  | step around => cases hevent
  | typed line =>
      rw [take]
      split
      · exact List.prefix_refl _
      · exact ⟨[line], List.append_assoc ..⟩
  | _ => exact List.prefix_refl _

theorem handledBy_eq_nil (loop : Loop) {event : Event} (hevent : event.isStep = false) :
    loop.handledBy event = [] := by
  cases event with
  | step around => cases hevent
  | _ => rfl

theorem isOver_take (hover : loop.isOver = true) (event : Event) :
    (loop.take event).1.isOver = true := by
  rcases event.eq_step_or with ⟨around, rfl⟩ | hevent
  · exact isOver_pass (loop.pass_step around) hover
  · rw [isOver, loop.phase_take hevent]
    exact hover

/-! ### Runs -/

theorem after_cons (loop : Loop) (event : Event) (rest : List Event) :
    loop.after (event :: rest) = (loop.take event).1.after rest := rfl

theorem after_append (loop : Loop) (events later : List Event) :
    loop.after (events ++ later) = (loop.after events).after later := by
  induction events generalizing loop with
  | nil => rfl
  | cons event rest ih => exact ih (loop.take event).1

theorem handledIn_append (loop : Loop) (events later : List Event) :
    loop.handledIn (events ++ later) =
      loop.handledIn events ++ (loop.after events).handledIn later := by
  induction events generalizing loop with
  | nil => rfl
  | cons event rest ih =>
      rw [List.cons_append, handledIn, handledIn, ih, List.append_assoc]
      rfl

theorem running_after (loop : Loop) (events : List Event) :
    (loop.after events).running = true ↔ loop.running = true ∧ .interrupt ∉ events := by
  induction events generalizing loop with
  | nil => simp [after, takeAll]
  | cons event rest ih =>
      rw [after_cons, ih, List.mem_cons, not_or]
      cases event with
      | step around =>
          rw [take, running_pass (loop.pass_step around)]
          simp
      | interrupt => simp [take]
      | typed line =>
          rw [take]
          split <;> simp
      | inputEnds => simp [take]
      | feeder move => simp [take]

theorem inputEnded_after (loop : Loop) (events : List Event) :
    (loop.after events).inputEnded = true ↔ loop.inputEnded = true ∨ .inputEnds ∈ events := by
  induction events generalizing loop with
  | nil => simp [after, takeAll]
  | cons event rest ih =>
      rw [after_cons, ih, List.mem_cons]
      cases event with
      | step around =>
          rw [take, inputEnded_pass (loop.pass_step around)]
          simp
      | inputEnds => simp [take]
      | typed line =>
          rw [take]
          split <;> simp
      | interrupt => simp [take]
      | feeder move => simp [take]

/-- Every line that has arrived has been responded to or is waiting, and stands
in its place. -/
theorem handledIn_append_waiting (loop : Loop) (events : List Event) :
    loop.handledIn events ++ (loop.after events).waiting =
      loop.waiting ++ loop.arrivalsIn events := by
  induction events generalizing loop with
  | nil =>
      rw [arrivalsIn, arrivals, ite_self, List.append_nil]
      rfl
  | cons event rest ih =>
      rw [handledIn, after_cons, List.append_assoc, ih, ← List.append_assoc]
      cases event with
      | step around =>
          have hpass := loop.pass_step around
          have harrivals : (loop.step around).1.arrivalsIn rest =
              loop.arrivalsIn (.step around :: rest) := by
            rw [arrivalsIn, inputEnded_pass hpass]
            rfl
          rw [handledBy, take, waiting_pass hpass, harrivals]
      | typed line =>
          obtain ⟨target, console, tree, running, typed, inputEnded, expecting, phase⟩ := loop
          cases inputEnded with
          | true => rfl
          | false =>
              simp only [handledBy, take, waiting, held, arrivalsIn, arrivals, List.nil_append,
                List.append_assoc, Bool.false_eq_true, if_false]
              rfl
      | inputEnds =>
          have hnone : loop.arrivalsIn (.inputEnds :: rest) = [] := ite_self _
          rw [hnone]
          rfl
      | interrupt => rfl
      | feeder move => rfl

theorem isOver_after (hover : loop.isOver = true) (events : List Event) :
    (loop.after events).isOver = true := by
  induction events generalizing loop with
  | nil => exact hover
  | cons event rest ih => exact ih (isOver_take hover event)

end Loop

end SerialConsole.Monitor
