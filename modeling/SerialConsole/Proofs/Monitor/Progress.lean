import SerialConsole.Proofs.Monitor.Passes

/-!
# How far a run of the monitor loop gets

A line that waits is responded to within a few steps, whatever comes between
them; after an interrupt at most the line in hand is; and a loop that nothing
keeps going has soon finished.
-/

namespace SerialConsole.Monitor

open Session

namespace Loop

/-- A bound on the steps until the first line that waits is responded to. -/
def distance (loop : Loop) : Nat :=
  match loop.phase with
  | .leaving | .finished => 0
  | .holding _ => 1
  | .asking => 2
  | .pumping => 3
  | .deciding => 4

/-- How many lines the loop may respond to before it looks whether to go on. -/
def inHand (loop : Loop) : Nat :=
  match loop.phase with
  | .deciding | .leaving | .finished => 0
  | .pumping | .asking | .holding _ => 1

/-- Whether nothing can keep the loop going. -/
def IsBound (loop : Loop) : Prop :=
  loop.running = false ∨ loop.isOver = true ∨
    loop.inputEnded = true ∧ loop.waiting = [] ∧ loop.console.isConnected = false

/-- A bound on the steps until a loop that nothing keeps going has finished. -/
def toEnd (loop : Loop) : Nat :=
  match loop.phase with
  | .finished => 0
  | .leaving => 1
  | .deciding => if loop.running && loop.expecting then 5 else 2
  | .holding _ => 3
  | .asking => 4
  | .pumping => 5

variable {loop next : Loop} {events : List Event}

/-! ### Lines that wait -/

/-- While a line is waiting, a step comes nearer to a response, or makes one. -/
theorem distance_pass (hpass : Pass loop next) (hwaiting : loop.waiting ≠ []) :
    next.isOver = true ∨ loop.held = [] ∧ next.distance < loop.distance ∨
      loop.held.length = 1 ∧ loop.distance = 1 ∧ next.distance = 4 := by
  cases hpass with
  | ends hphase hwhy => exact .inl rfl
  | leaves console hphase hfree => exact .inl rfl
  | stays hphase => exact .inl (by rw [isOver, hphase])
  | hearsNothing hphase htyped =>
      rw [waiting, held_eq_nil hphase fun _ => Phase.noConfusion, htyped] at hwaiting
      exact absurd rfl hwaiting
  | responds line response hphase hquit =>
      cases hquits : quits line with
      | true => exact .inl rfl
      | false =>
          refine .inr (.inr ⟨?_, ?_, rfl⟩)
          · rw [held, hphase]
            rfl
          · rw [distance, hphase]
  | hears line rest hphase htyped =>
      refine .inr (.inl ⟨held_eq_nil hphase fun _ => Phase.noConfusion, ?_⟩)
      simp only [distance, hphase, Nat.reduceLT]
  | _ hphase =>
      refine .inr (.inl ⟨held_eq_nil hphase fun _ => Phase.noConfusion, ?_⟩)
      simp only [distance, hphase, Nat.reduceLT]

/-- Four steps are enough for a line, whatever comes between them. -/
theorem isOver_or_lt_length_handledIn {n : Nat} (hwaiting : n < loop.waiting.length)
    (hsteps : 4 * n + loop.distance ≤ stepsIn events) :
    (loop.after events).isOver = true ∨ n < (loop.handledIn events).length := by
  induction events generalizing loop n with
  | nil =>
      obtain ⟨target, console, tree, running, typed, inputEnded, expecting, phase⟩ := loop
      have hnone : 4 * n + distance _ = 0 := Nat.le_zero.mp hsteps
      cases phase with
      | leaving => exact .inl rfl
      | finished => exact .inl rfl
      | _ => cases (Nat.add_eq_zero_iff.mp hnone).2
  | cons event rest ih =>
      rw [stepsIn_cons] at hsteps
      rw [after_cons, handledIn, List.length_append]
      rcases event.eq_step_or with ⟨around, rfl⟩ | hevent
      · have hpass : Pass loop (loop.take (.step around)).1 := loop.pass_step around
        have hsame := congrArg List.length (waiting_pass hpass)
        have hsome : loop.waiting ≠ [] := List.ne_nil_of_length_pos (Nat.zero_lt_of_lt hwaiting)
        rw [List.length_append] at hsame
        rw [Event.isStep, if_pos rfl] at hsteps
        rw [handledBy]
        rcases distance_pass hpass hsome with hover | ⟨hheld, hcloser⟩ | ⟨hheld, hone, hfour⟩
        · exact .inl (isOver_after hover rest)
        · rw [hheld, List.length_nil, Nat.zero_add] at hsame ⊢
          exact ih (hsame ▸ hwaiting) (by omega)
        · -- One line fewer waits, and the four steps it has used up are gone from the bound.
          cases n with
          | zero =>
              rw [hheld]
              exact .inr (Nat.add_pos_left Nat.one_pos _)
          | succ n =>
              exact (ih (n := n) (by omega) (by omega)).imp_right fun hmore => by omega
      · have hlonger := (loop.waiting_isPrefix_take hevent).length_le
        have hdistance : (loop.take event).1.distance = loop.distance := by
          rw [distance, loop.phase_take hevent]
          rfl
        rw [hevent, ← hdistance] at hsteps
        rw [loop.handledBy_eq_nil hevent, List.length_nil, Nat.zero_add]
        exact ih (Nat.lt_of_lt_of_le hwaiting hlonger) hsteps

/-! ### The interrupt -/

theorem inHand_pass (hpass : Pass loop next) (hrunning : loop.running = false) :
    loop.held.length + next.inHand ≤ loop.inHand := by
  cases hpass with
  | visits hphase hgoing hlink => cases hrunning.symm.trans hgoing
  | waits hphase hgoing hexpecting => cases hrunning.symm.trans hgoing
  | responds line response hphase hquit =>
      cases quits line <;> simp [held, inHand, hphase]
  | _ => simp [held, inHand, *]

theorem length_handledIn_le (hrunning : loop.running = false) (events : List Event) :
    (loop.handledIn events).length ≤ loop.inHand := by
  induction events generalizing loop with
  | nil => exact Nat.zero_le _
  | cons event rest ih =>
      have hlater : (loop.take event).1.running = false := by
        refine eq_false_of_ne_true fun hgoing => ?_
        have hbefore := ((running_after loop [event]).mp hgoing).1
        rw [hrunning] at hbefore
        cases hbefore
      have hspent : (loop.handledBy event).length + (loop.take event).1.inHand ≤ loop.inHand := by
        rcases event.eq_step_or with ⟨around, rfl⟩ | hevent
        · exact inHand_pass (loop.pass_step around) hrunning
        · rw [loop.handledBy_eq_nil hevent, inHand, loop.phase_take hevent, List.length_nil,
            Nat.zero_add]
          exact Nat.le_refl _
      rw [handledIn, List.length_append]
      exact Nat.le_trans (Nat.add_le_add_left (ih hlater) _) hspent

theorem inHand_le_one (loop : Loop) : loop.inHand ≤ 1 := by
  unfold inHand
  split <;> decide

/-! ### A loop that nothing keeps going -/

/-- A link is attached only in response to a line. -/
theorem isConnected_pass (hpass : Pass loop next) (hheld : loop.held = [])
    (hfree : loop.console.isConnected = false) : next.console.isConnected = false := by
  cases hpass with
  | pumps hphase => exact isConnected_pump hfree
  | leaves console hphase hlast => exact hlast
  | responds line response hphase hquit =>
      rw [held, hphase] at hheld
      cases hheld
  | _ => exact hfree

theorem isBound_pass (hpass : Pass loop next) (hbound : loop.IsBound) : next.IsBound := by
  rcases hbound with hstopped | hover | ⟨hended, hwaiting, hfree⟩
  · exact .inl ((running_pass hpass).trans hstopped)
  · exact .inr (.inl (isOver_pass hpass hover))
  · -- With no line in hand no step responds, so nothing can attach a link.
    have hheld := (List.append_eq_nil_iff.mp hwaiting).1
    have hnone := (waiting_pass hpass).trans hwaiting
    exact .inr (.inr ⟨(inputEnded_pass hpass).trans hended, (List.append_eq_nil_iff.mp hnone).2,
      isConnected_pass hpass hheld hfree⟩)

theorem toEnd_pass (hpass : Pass loop next) (hbound : loop.IsBound) :
    next.toEnd ≤ loop.toEnd - 1 := by
  cases hpass with
  | visits hphase hrunning hlink => simp [IsBound, isOver, hphase, hrunning, hlink] at hbound
  | waits hphase hrunning hexpecting => simp [toEnd, hphase, hrunning, hexpecting]
  | ends hphase hwhy =>
      simp only [toEnd, hphase]
      split <;> decide
  | hearsNothing hphase htyped =>
      rcases hbound with hstopped | hover | ⟨hended, -, -⟩
      · simp [toEnd, hphase, hstopped]
      · simp [isOver, hphase] at hover
      · simp [toEnd, hphase, hended]
  | responds line response hphase hquit =>
      rcases hbound with hstopped | hover | ⟨-, hwaiting, -⟩
      · cases quits line <;> simp [toEnd, hphase, hstopped]
      · simp [isOver, hphase] at hover
      · simp [waiting, held, hphase] at hwaiting
  | _ => simp [toEnd, *]

theorem isBound_take (hbound : loop.IsBound) (event : Event) : (loop.take event).1.IsBound := by
  cases event with
  | step around => exact isBound_pass (loop.pass_step around) hbound
  | typed line =>
      rw [take]
      split
      · exact hbound
      · rename_i hopen
        exact hbound.imp_right fun hrest => hrest.imp_right fun hidle => absurd hidle.1 hopen
  | inputEnds => exact hbound.imp_right fun hrest => hrest.imp_right fun hidle => ⟨rfl, hidle.2⟩
  | interrupt => exact .inl rfl
  | feeder move =>
      refine hbound.imp_right fun hrest => hrest.imp_right fun hidle => ⟨hidle.1, hidle.2.1, ?_⟩
      exact (isConnected_mapFeeder loop.console fun f => f.move move).trans hidle.2.2

theorem toEnd_take (loop : Loop) {event : Event} (hevent : event.isStep = false) :
    (loop.take event).1.toEnd ≤ loop.toEnd := by
  cases event with
  | step around => cases hevent
  | typed line =>
      rw [take]
      split <;> exact Nat.le_refl _
  | interrupt =>
      obtain ⟨target, console, tree, running, typed, inputEnded, expecting, phase⟩ := loop
      cases phase with
      | deciding =>
          simp only [take, toEnd, Bool.false_and, Bool.false_eq_true, if_false]
          split <;> decide
      | _ => exact Nat.le_refl _
  | inputEnds => exact Nat.le_refl _
  | feeder move => exact Nat.le_refl _

theorem toEnd_after (hbound : loop.IsBound) (events : List Event) :
    (loop.after events).toEnd ≤ loop.toEnd - stepsIn events := by
  induction events generalizing loop with
  | nil => exact Nat.le_refl _
  | cons event rest ih =>
      have hlater := ih (isBound_take hbound event)
      rw [stepsIn_cons, after_cons]
      rcases event.eq_step_or with ⟨around, rfl⟩ | hevent
      · have hcloser : (loop.take (.step around)).1.toEnd ≤ loop.toEnd - 1 :=
          toEnd_pass (loop.pass_step around) hbound
        rw [Event.isStep, if_pos rfl]
        omega
      · have hkept := loop.toEnd_take hevent
        rw [hevent, if_neg Bool.false_ne_true]
        omega

theorem toEnd_le_five (loop : Loop) : loop.toEnd ≤ 5 := by
  obtain ⟨target, console, tree, running, typed, inputEnded, expecting, phase⟩ := loop
  cases phase with
  | deciding =>
      simp only [toEnd]
      split <;> decide
  | _ => exact Nat.le_of_ble_eq_true rfl

theorem phase_of_toEnd_eq_zero (hnone : loop.toEnd = 0) : loop.phase = .finished := by
  obtain ⟨target, console, tree, running, typed, inputEnded, expecting, phase⟩ := loop
  cases phase with
  | finished => rfl
  | deciding =>
      simp only [toEnd] at hnone
      split at hnone <;> cases hnone
  | _ => cases hnone

/-- Five steps are enough to finish. -/
theorem finished_after (hbound : loop.IsBound) (hsteps : 5 ≤ stepsIn events) :
    (loop.after events).phase = .finished := by
  have hfew := loop.toEnd_le_five
  have hclose := toEnd_after hbound events
  exact phase_of_toEnd_eq_zero (by omega)

end Loop

end SerialConsole.Monitor
