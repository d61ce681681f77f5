import SerialConsole.Proofs.Monitor.Progress
import SerialConsole.Proofs.Session.Arrival

/-!
# Lines are answered in their order

Whatever comes between two steps of the monitor loop, each line typed is
responded to once and in its order, until one asks to quit or the user
interrupts.  Nothing else ends the loop while a link is attached or a line is
left, and a link that is still attached in the end is let go with all that its
feeder has queued.
-/

namespace SerialConsole.Monitor

open Session

/-- Lines up to the first that asks to quit, which is among them. -/
def untilQuit : List String → List String
  | [] => []
  | line :: rest => if quits line then [line] else line :: untilQuit rest

/-! ### Lines until one quits -/

theorem length_untilQuit_le (lines : List String) :
    (untilQuit lines).length ≤ lines.length := by
  induction lines with
  | nil => exact Nat.le_refl 0
  | cons line rest ih =>
      rw [untilQuit]
      split
      · exact Nat.succ_le_succ (Nat.zero_le _)
      · exact Nat.succ_le_succ ih

/-- What comes later does not change which lines come before one that quits. -/
theorem untilQuit_isPrefix_append (lines later : List String) :
    untilQuit lines <+: untilQuit (lines ++ later) := by
  induction lines with
  | nil => exact List.nil_prefix
  | cons line rest ih =>
      rw [List.cons_append, untilQuit, untilQuit]
      split
      · exact List.prefix_refl [line]
      · exact (List.prefix_cons_inj line).mpr ih

theorem isPrefix_untilQuit_append {lines : List String}
    (hquits : ∀ line ∈ lines.dropLast, quits line = false) (later : List String) :
    lines <+: untilQuit (lines ++ later) := by
  induction lines with
  | nil => exact List.nil_prefix
  | cons line rest ih =>
      rw [List.cons_append, untilQuit]
      cases rest with
      | nil =>
          split
          · exact List.prefix_refl [line]
          · exact (List.prefix_cons_inj line).mpr List.nil_prefix
      | cons next rest =>
          rw [List.dropLast_cons_cons] at hquits
          rw [hquits line List.mem_cons_self, if_neg Bool.false_ne_true]
          exact (List.prefix_cons_inj line).mpr
            (ih fun other hother => hquits other (List.mem_cons_of_mem line hother))

theorem length_untilQuit_append_le {lines : List String} {line : String} (hmem : line ∈ lines)
    (hquit : quits line = true) (later : List String) :
    (untilQuit (lines ++ later)).length ≤ lines.length := by
  induction lines with
  | nil => cases hmem
  | cons first rest ih =>
      rw [List.cons_append, untilQuit]
      split
      · exact Nat.succ_le_succ (Nat.zero_le _)
      · rename_i hfirst
        rcases List.mem_cons.mp hmem with rfl | hrest
        · exact absurd hquit hfirst
        · exact Nat.succ_le_succ (ih hrest)

namespace Loop

variable {loop next : Loop} {events : List Event}

/-! ### Why the loop ends -/

/-- What the lines responded to have to do with where the loop is. -/
structure Justified (handled : List String) (loop : Loop) : Prop where
  /-- Nothing is responded to after a line that quits. -/
  untilQuit : ∀ line ∈ handled.dropLast, quits line = false
  quitEnds : ∀ line ∈ handled, quits line = true → loop.isOver = true
  reason : loop.isOver = true →
    (∃ line ∈ handled, quits line = true) ∨ loop.running = false ∨ loop.isExhausted = true
  /-- The loop stops expecting lines when none is left. -/
  drained : loop.expecting = false → loop.inputEnded = true ∧ loop.waiting = []
  released : loop.phase = .finished → loop.console.isConnected = false

namespace Justified

variable {handled : List String}

theorem start (target : Target) (c : Console) (tree : Files.Tree) :
    Justified [] (Loop.start target c tree) where
  untilQuit _ hmem := absurd hmem List.not_mem_nil
  quitEnds _ hmem := absurd hmem List.not_mem_nil
  reason hover := Bool.noConfusion hover
  drained hexpecting := Bool.noConfusion hexpecting
  released hphase := Phase.noConfusion hphase

/-- A step that responds to no line. -/
theorem quiet (hjustified : Justified handled loop) (hpass : Pass loop next) {phase : Phase}
    (hphase : loop.phase = phase) (hother : ∀ line, phase ≠ .holding line)
    (hreason : next.isOver = true →
      loop.isOver = true ∧ (loop.isExhausted = true → next.isExhausted = true) ∨
        loop.running = false ∨ next.isExhausted = true)
    (hdrained : next.expecting = false →
      loop.expecting = false ∨ loop.inputEnded = true ∧ next.waiting = [])
    (hreleased : next.phase = .finished → next.console.isConnected = false) :
    Justified (handled ++ loop.held) next := by
  have hwaiting := waiting_pass hpass
  rw [held_eq_nil hphase hother, List.nil_append] at hwaiting
  rw [held_eq_nil hphase hother, List.append_nil]
  constructor
  case untilQuit => exact hjustified.untilQuit
  case quitEnds =>
    exact fun line hmem hquit => isOver_pass hpass (hjustified.quitEnds line hmem hquit)
  case reason =>
    intro hover
    rw [running_pass hpass]
    rcases hreason hover with ⟨hbefore, hkept⟩ | hstopped
    · rcases hjustified.reason hbefore with hquit | hrunning | hnone
      · exact .inl hquit
      · exact .inr (.inl hrunning)
      · exact .inr (.inr (hkept hnone))
    · exact .inr hstopped
  case drained =>
    intro hexpecting
    rw [inputEnded_pass hpass]
    rcases hdrained hexpecting with hbefore | hnow
    · rw [hwaiting]
      exact hjustified.drained hbefore
    · exact hnow
  case released => exact hreleased

/-- No line before the one that is held has asked to quit. -/
theorem responds (hjustified : Justified handled loop) {line : String} {response : Response}
    (hphase : loop.phase = .holding line) :
    Justified (handled ++ [line])
      { loop with
        console := response.console,
        tree := response.tree,
        phase := if quits line then .leaving else .deciding } where
  untilQuit other hmem := by
    rw [List.dropLast_concat] at hmem
    have hgoing : loop.isOver = false := by simp only [isOver, hphase]
    refine eq_false_of_ne_true fun hquit => ?_
    exact Bool.false_ne_true (hgoing.symm.trans (hjustified.quitEnds other hmem hquit))
  quitEnds other hmem hquit := by
    rcases List.mem_append.mp hmem with hbefore | hnow
    · have hover := hjustified.quitEnds other hbefore hquit
      simp only [isOver, hphase, Bool.false_eq_true] at hover
    · rw [List.mem_singleton.mp hnow] at hquit
      simp only [isOver, hquit, if_true]
  reason hover := by
    cases hquit : quits line with
    | true => exact .inl ⟨line, List.mem_append_right _ List.mem_cons_self, hquit⟩
    | false => simp only [isOver, hquit, Bool.false_eq_true, if_false] at hover
  drained hexpecting := by
    have hwaiting := (hjustified.drained hexpecting).2
    simp only [waiting, held, hphase, List.cons_append, List.cons_ne_nil] at hwaiting
  released hfinished := by
    cases hquit : quits line <;> simp only [hquit] at hfinished <;> cases hfinished

theorem pass (hjustified : Justified handled loop) (hpass : Pass loop next) :
    Justified (handled ++ loop.held) next := by
  have hquiet := @quiet loop next handled hjustified hpass
  cases hpass with
  | responds line response hphase hquit =>
      have hheld : loop.held = [line] := by rw [held, hphase]
      rw [hheld]
      exact hjustified.responds hphase
  | ends hphase hwhy =>
      exact hquiet hphase (fun _ => Phase.noConfusion) (fun _ => .inr hwhy) .inl
        Phase.noConfusion
  | hearsNothing hphase htyped =>
      refine hquiet hphase (fun _ => Phase.noConfusion) Bool.noConfusion ?_ Phase.noConfusion
      intro hexpecting
      rcases Bool.and_eq_false_iff.mp hexpecting with hbefore | hended
      · exact .inl hbefore
      · exact .inr ⟨by simpa using hended, htyped⟩
  | leaves console hphase hfree =>
      refine hquiet hphase (fun _ => Phase.noConfusion) ?_ .inl fun _ => hfree
      refine fun _ => .inl ⟨by simp only [isOver, hphase], fun hexhausted => ?_⟩
      simp only [isExhausted, hfree, Bool.and_eq_true] at hexhausted ⊢
      exact ⟨hexhausted.1, rfl⟩
  | hears line rest hphase htyped =>
      exact hquiet hphase (fun _ => Phase.noConfusion) Bool.noConfusion .inl Phase.noConfusion
  | stays hphase =>
      rw [held_eq_nil hphase fun _ => Phase.noConfusion, List.append_nil]
      exact hjustified
  | _ hphase =>
      exact hquiet hphase (fun _ => Phase.noConfusion) Bool.noConfusion .inl Phase.noConfusion

theorem take (hjustified : Justified handled loop) (event : Event) :
    Justified (handled ++ loop.handledBy event) (loop.take event).1 := by
  cases event with
  | step around => exact hjustified.pass (loop.pass_step around)
  | typed line =>
      rw [handledBy, List.append_nil, Loop.take]
      split
      · exact hjustified
      · rename_i hended
        exact { hjustified with
          drained := fun hexpecting => absurd (hjustified.drained hexpecting).1 hended }
  | inputEnds =>
      rw [handledBy, List.append_nil, Loop.take]
      exact { hjustified with
        drained := fun hexpecting => ⟨rfl, (hjustified.drained hexpecting).2⟩ }
  | interrupt =>
      rw [handledBy, List.append_nil, Loop.take]
      exact { hjustified with reason := fun _ => .inr (.inl rfl) }
  | feeder move =>
      have hlink := isConnected_mapFeeder loop.console fun f => f.move move
      rw [handledBy, List.append_nil, Loop.take]
      exact { hjustified with
        reason := fun hover => by
          rw [isExhausted, hlink]
          exact hjustified.reason hover
        released := fun hphase => hlink.trans (hjustified.released hphase) }

theorem run (hjustified : Justified handled loop) (events : List Event) :
    Justified (handled ++ loop.handledIn events) (loop.after events) := by
  induction events generalizing loop handled with
  | nil =>
      rw [handledIn, List.append_nil]
      exact hjustified
  | cons event rest ih =>
      rw [handledIn, ← List.append_assoc]
      exact ih (hjustified.take event)

end Justified

/-! ### From the start -/

section Start

variable (target : Target) (c : Console) (tree : Files.Tree) (events later : List Event)

theorem justified_start :
    Justified ((start target c tree).handledIn events) ((start target c tree).after events) :=
  (Justified.start target c tree).run events

theorem handledIn_start_append_waiting :
    (start target c tree).handledIn events ++ ((start target c tree).after events).waiting =
      arrivals events :=
  handledIn_append_waiting (start target c tree) events

theorem handledIn_start_isPrefix :
    (start target c tree).handledIn events <+: untilQuit (arrivals events) := by
  rw [← handledIn_start_append_waiting target c tree events]
  exact isPrefix_untilQuit_append (justified_start target c tree events).untilQuit _

theorem ends_start (hover : ((start target c tree).after events).isOver = true) :
    (∃ line ∈ (start target c tree).handledIn events, quits line = true) ∨
      .interrupt ∈ events ∨
        .inputEnds ∈ events ∧ (start target c tree).handledIn events = arrivals events ∧
          ((start target c tree).after events).console.isConnected = false := by
  have hjustified := justified_start target c tree events
  rcases hjustified.reason hover with hquit | hstopped | hexhausted
  · exact .inl hquit
  · refine .inr (.inl (Classical.byContradiction fun hnever => ?_))
    have hrunning := (running_after (start target c tree) events).mpr ⟨rfl, hnever⟩
    rw [hstopped] at hrunning
    cases hrunning
  · simp only [isExhausted, Bool.and_eq_true, Bool.not_eq_true'] at hexhausted
    obtain ⟨hended, hwaiting⟩ := hjustified.drained hexhausted.1
    have hall := handledIn_start_append_waiting target c tree events
    rw [hwaiting, List.append_nil] at hall
    have hinput := (inputEnded_after (start target c tree) events).mp hended
    exact .inr (.inr ⟨hinput.resolve_left Bool.noConfusion, hall, hexhausted.2⟩)

theorem length_untilQuit_arrivals_le (hnever : .interrupt ∉ events ++ later)
    (hsteps : 4 * (arrivals events).length ≤ stepsIn later) :
    (untilQuit (arrivals events)).length ≤
      ((start target c tree).handledIn (events ++ later)).length := by
  have hfew := length_untilQuit_le (arrivals events)
  have harrived := congrArg List.length (handledIn_start_append_waiting target c tree events)
  have hmore := handledIn_append (start target c tree) events later
  have hlonger := (arrivals_isPrefix_append events later).length_le
  rw [List.length_append] at harrived
  cases hwaiting : ((start target c tree).after events).waiting with
  | nil =>
      rw [hwaiting, List.length_nil] at harrived
      rw [hmore, List.length_append]
      omega
  | cons line rest =>
      have hdistance : ((start target c tree).after events).distance ≤ 4 := by
        unfold distance
        split <;> decide
      have hfirst : rest.length < ((start target c tree).after events).waiting.length := by
        rw [hwaiting]
        exact Nat.lt_add_one _
      have hreached : (((start target c tree).after events).after later).isOver = true ∨
          rest.length < (((start target c tree).after events).handledIn later).length :=
        isOver_or_lt_length_handledIn hfirst (by omega)
      rw [hwaiting, List.length_cons] at harrived
      rcases hreached with hover | henough
      · -- The loop has ended on the way, for one of two reasons that are left.
        rw [← after_append] at hover
        rcases ends_start target c tree (events ++ later) hover with
          ⟨last, hmem, hquit⟩ | hinterrupt | ⟨-, hall, -⟩
        · obtain ⟨others, hothers⟩ := arrivals_isPrefix_append events later
          have hfirst := (untilQuit_isPrefix_append (arrivals events) others).length_le
          have hlast := length_untilQuit_append_le hmem hquit
            ((start target c tree).after (events ++ later)).waiting
          rw [handledIn_start_append_waiting, ← hothers] at hlast
          exact Nat.le_trans hfirst hlast
        · exact absurd hinterrupt hnever
        · rw [hall]
          omega
      · rw [hmore, List.length_append]
        omega

end Start

end Loop

/-- What a run of the loop makes of the lines that arrive. -/
structure AnswersInOrder (start : Loop) (events : List Event) : Prop where
  /-- The lines responded to are the first to arrive, each once, and none
  after one that asks to quit. -/
  inOrder : start.handledIn events <+: untilQuit (arrivals events)
  /-- A run that goes on without an interrupt comes to respond to all of them. -/
  all : ∀ later, .interrupt ∉ events ++ later → 4 * (arrivals events).length ≤ stepsIn later →
    untilQuit (arrivals events) <+: start.handledIn (events ++ later)
  /-- A line is carried out, and the loop goes on unless it asks to quit. -/
  responds : ∀ line, (start.after events).phase = .holding line → ∀ around,
    let loop := start.after events
    let response := respond loop.console loop.tree around loop.target line
    loop.step around =
      ({ loop with
          console := response.console,
          tree := response.tree,
          phase := if quits line then .leaving else .deciding },
        response.updates)
  /-- Nothing but a line that quits, the interrupt, or the end of input, lines
  and link ends the loop. -/
  ends : (start.after events).isOver = true →
    (∃ line ∈ start.handledIn events, quits line = true) ∨ .interrupt ∈ events ∨
      .inputEnds ∈ events ∧ start.handledIn events = arrivals events ∧
        (start.after events).console.isConnected = false
  /-- A line that quits ends it. -/
  quitEnds : ∀ line ∈ start.handledIn events, quits line = true →
    (start.after events).isOver = true
  /-- The line in hand is the last that is responded to after an interrupt. -/
  interrupted : .interrupt ∈ events → ∀ later,
    ((start.after events).handledIn later).length ≤ 1
  /-- A loop that nothing keeps going has soon finished. -/
  finishes : (start.after events).IsBound → ∀ later, 5 ≤ stepsIn later →
    (start.after (events ++ later)).phase = .finished
  /-- A link that is attached in the end is let go, with all that is queued. -/
  letsGo : ∀ link, (start.after events).phase = .leaving →
    (start.after events).console.attachment = .live link → ∀ around,
      let loop := start.after events
      let queued := loop.console.queuedAfter around.parting
      let taken := loop.console.takeAll queued
      loop.console.queued <+: queued ∧
        loop.step around =
          ({ loop with console := { taken.1 with attachment := .nothing }, phase := .finished },
            (if loop.console.stopsInTime around.parting then [] else [Console.lateNotice]) ++
              taken.2 ++ [Console.disconnectedFrom link.label])
  released : (start.after events).phase = .finished →
    (start.after events).console.isConnected = false

/-- In whatever order lines, the end of the input, the moves of the feeder and
the interrupt come, each line is responded to once and in its turn until one
asks to quit; the loop does not end before, unless it is interrupted or nothing
is left to wait for, and it ends with no link attached. -/
theorem lines_are_answered_in_order (target : Target) (c : Console) (tree : Files.Tree)
    (events : List Event) : AnswersInOrder (Loop.start target c tree) events where
  inOrder := Loop.handledIn_start_isPrefix target c tree events
  all later hnever hsteps := by
    have hfirst : untilQuit (arrivals events) <+: untilQuit (arrivals (events ++ later)) := by
      obtain ⟨others, hothers⟩ := arrivals_isPrefix_append events later
      rw [← hothers]
      exact untilQuit_isPrefix_append (arrivals events) others
    exact List.prefix_of_prefix_length_le hfirst
      (Loop.handledIn_start_isPrefix target c tree (events ++ later))
      (Loop.length_untilQuit_arrivals_le target c tree events later hnever hsteps)
  responds line hphase around := by
    intro loop response
    simp only [Loop.step, loop, hphase]
    rw [quit_respond_eq]
  ends := Loop.ends_start target c tree events
  quitEnds := (Loop.justified_start target c tree events).quitEnds
  interrupted hinterrupt later := by
    have hstopped : ((Loop.start target c tree).after events).running = false :=
      eq_false_of_ne_true fun hrunning =>
        ((Loop.running_after _ events).mp hrunning).2 hinterrupt
    exact Nat.le_trans (Loop.length_handledIn_le hstopped later) (Loop.inHand_le_one _)
  finishes hbound later hsteps := by
    rw [Loop.after_append]
    exact Loop.finished_after hbound hsteps
  letsGo link hphase hlink around := by
    intro loop queued taken
    have hconnected : loop.console.isConnected = true :=
      beq_iff_eq.mpr (Console.mode_of_live hlink)
    refine ⟨Console.queued_isPrefix_queuedAfter _ _, ?_⟩
    simp only [Loop.step, loop, hphase]
    rw [if_pos hconnected, Console.disconnect_live hlink]
    rfl
  released := (Loop.justified_start target c tree events).released

end SerialConsole.Monitor
