import Mathlib.Data.List.Basic
import SerialConsole.Proofs.Session.Readings
import SerialConsole.Proofs.Session.Requests

/-!
# A hang-up is reported last and found once

When the other end hangs up while the feeder is wanted, the feeder reports it
once, after everything else, and ends; nothing else that a read comes to ends
it.  A session that does nothing but take what is queued finds the link lost
only when all of this has been taken, and it finds so once.
-/

namespace SerialConsole.Session

open Wire Link Log Feeder

/-- The text of a failed read. -/
def Delivery.notice? : Delivery → Option String
  | .record _ => none
  | .readFailed fault => some fault.message

def Delivery.isHangUp (delivery : Delivery) : Bool :=
  delivery.notice? == some "link closed by peer"

/-- One step while a link is attached. -/
inductive LinkStep where
  | move (m : LinkMove)
  /-- The session clears the flag. -/
  | clear
  /-- The session takes what is queued. -/
  | pump

/-- A session in progress, with the reads of its link. -/
structure Watch where
  progress : Progress
  readings : List Reading

namespace Watch

def start (c : Console) (label : String) (outlet : Outlet) : Watch where
  progress := Progress.start c label outlet
  readings := []

def console (w : Watch) : Console :=
  w.progress.console

/-- Everything queued so far, taken or not. -/
def emitted (w : Watch) : List Delivery :=
  w.progress.applied ++ w.console.queued

/-- What the feeder has in hand and not queued yet. -/
def inHand (w : Watch) : List Delivery :=
  w.console.unsent

def step (origin : Origin) (w : Watch) : LinkStep → Watch
  | .move m =>
      match w.console.feeder? with
      | none => w
      | some f =>
          { progress := w.progress.step (.feeder (m.on f origin)),
            readings := f.noted w.readings m }
  | .clear => { w with progress := w.progress.step .clear }
  | .pump => { w with progress := w.progress.step .pump }

def run (origin : Origin) (w : Watch) (steps : List LinkStep) : Watch :=
  steps.foldl (step origin) w

end Watch

/-! ### Where a hang-up stands -/

theorem append_ne_of_not_isPrefix {front back whole : String}
    (hfront : ¬front.toList <+: whole.toList) : front ++ back ≠ whole := by
  rintro rfl
  rw [String.toList_append] at hfront
  exact hfront (List.prefix_append _ _)

/-- No other fault has the text of a hang-up. -/
theorem message_eq_hangUp_iff {fault : WireFault} :
    fault.message = "link closed by peer" ↔ fault = .closedByPeer := by
  refine ⟨fun hmessage => ?_, fun hfault => hfault ▸ rfl⟩
  unfold WireFault.message at hmessage
  cases fault with
  | closedByPeer => rfl
  | closedWhileWriting => exact absurd hmessage (by decide)
  | failed fault =>
      have hletters : ¬"link I/O error: ".toList <+: "link closed by peer".toList := by
        decide +kernel
      exact absurd hmessage (append_ne_of_not_isPrefix hletters)
  | notAscii offset =>
      have hletters : ¬"command is not ASCII (first offending byte at offset ".toList <+:
          "link closed by peer".toList := by
        decide +kernel
      exact absurd ((String.append_assoc ..).symm.trans hmessage)
        (append_ne_of_not_isPrefix hletters)

theorem Delivery.isHangUp_iff {delivery : Delivery} :
    delivery.isHangUp = true ↔ delivery = .readFailed .closedByPeer := by
  cases delivery with
  | record record => simp [isHangUp, notice?]
  | readFailed fault => simp [isHangUp, notice?, message_eq_hangUp_iff]

theorem readFailed_mem_deliveries_iff {splitter : Splitter} {reads : List Read}
    {fault : WireFault} :
    .readFailed fault ∈ deliveries splitter reads ↔ .failed fault ∈ reads := by
  have hdelivered : .readFailed fault ∈ deliveries splitter reads ↔
      fault ∈ faultsIn (deliveries splitter reads) := by
    rw [faultsIn, List.mem_filterMap]
    constructor
    · exact fun hmem => ⟨_, hmem, rfl⟩
    · rintro ⟨_ | _, hmem, hsame⟩
      · cases hsame
      · exact Option.some.inj hsame ▸ hmem
  have hread : .failed fault ∈ reads ↔ fault ∈ failuresOf reads := by
    rw [failuresOf, List.mem_filterMap]
    constructor
    · exact fun hmem => ⟨_, hmem, rfl⟩
    · rintro ⟨_ | _, hmem, hsame⟩
      · cases hsame
      · exact Option.some.inj hsame ▸ hmem
  rw [hdelivered, hread, faultsIn_deliveries]

/-- A hang-up that is the last read to count is the last to be delivered. -/
theorem closedByPeer_notMem_dropLast_deliveries {splitter : Splitter} {reads : List Read}
    (hlast : .failed .closedByPeer ∉ reads.dropLast) :
    .readFailed .closedByPeer ∉ (deliveries splitter reads).dropLast := by
  rcases reads.eq_nil_or_concat' with rfl | ⟨front, read, rfl⟩
  · exact List.not_mem_nil
  · rw [List.dropLast_concat] at hlast
    intro hmem
    cases read with
    | failed fault =>
        rw [deliveries_append, deliveries, deliveries, List.dropLast_concat] at hmem
        exact hlast (readFailed_mem_deliveries_iff.mp hmem)
    | found bytes =>
        have hread := readFailed_mem_deliveries_iff.mp ((List.dropLast_sublist _).subset hmem)
        rcases List.mem_append.mp hread with hbefore | hnow
        · exact hlast hbefore
        · cases List.mem_singleton.mp hnow

/-- What nothing comes after is at the end. -/
theorem getLast?_of_notMem_dropLast {α : Type} {x : α} {front back : List α}
    (hlast : x ∉ (front ++ back).dropLast) (hmem : x ∈ front) :
    front.getLast? = some x ∧ back = [] := by
  rcases back.eq_nil_or_concat' with rfl | ⟨between, y, rfl⟩
  · refine ⟨?_, rfl⟩
    rw [List.append_nil] at hlast
    rcases front.eq_nil_or_concat' with rfl | ⟨before, y, rfl⟩
    · cases hmem
    · rw [List.dropLast_concat] at hlast
      obtain rfl : x = y := List.mem_singleton.mp ((List.mem_append.mp hmem).resolve_left hlast)
      exact List.getLast?_concat
  · rw [← List.append_assoc, List.dropLast_concat] at hlast
    exact absurd (List.mem_append_left between hmem) hlast

/-! ### What every step keeps -/

namespace Console

theorem feeder?_pump {c : Console} {g : Feeder} (hfeeder : c.pump.console.feeder? = some g) :
    ∃ f, c.feeder? = some f ∧ g = { f with queue := [] } := by
  cases hlink : c.attachment with
  | nothing =>
      simp [pump, hlink, Outcome.done, feeder?] at hfeeder
  | replay path =>
      simp [pump, hlink, Outcome.done, feeder?] at hfeeder
  | live link =>
      refine ⟨link.feeder, by rw [feeder?, hlink], ?_⟩
      by_cases hlost : link.feeder.queue = [] ∧ link.feeder.phase = .ended
      · rw [pump_lost hlink hlost.1 hlost.2] at hfeeder
        cases hfeeder
      · rw [(pump_live hlink (Classical.not_and_iff_not_or_not.mp hlost)).1] at hfeeder
        exact (Option.some.inj hfeeder).symm

theorem feeder?_mapFeeder (c : Console) (change : Feeder → Feeder) :
    (c.mapFeeder change).feeder? = c.feeder?.map change := by
  cases hlink : c.attachment <;> simp [mapFeeder, feeder?, hlink]

end Console

theorem Accounted.accounts {c : Console} {label : String} {p : Progress} {f : Feeder}
    (haccounted : Accounted c label p) (hfeeder : p.console.feeder? = some f) :
    Accounts c.settings.intake.rule f p.reads p.applied := by
  cases haccounted with
  | live link hconsole hupdates hlabel haccounts =>
      rw [hconsole] at hfeeder
      exact Option.some.inj hfeeder ▸ haccounts
  | lost hconsole hupdates hall =>
      rw [hconsole] at hfeeder
      cases hfeeder

/-- The session accounts for the reads that count, and the readings for its
feeder; one whose link was lost is remembered as it was last. -/
structure Watched (origin : Origin) (cleared : Prop) (c : Console) (label : String) (w : Watch) :
    Prop where
  accounted : Accounted c label w.progress
  noted : ∃ f, (∀ g, w.console.feeder? = some g → g = f) ∧
    Noted origin cleared f w.readings w.progress.reads

namespace Watched

variable {origin : Origin} {cleared : Prop} {c : Console} {label : String} {w : Watch}

theorem start (hfree : c.checkFree = .ok ()) (outlet : Outlet) :
    Watched origin cleared c label (Watch.start c label outlet) where
  accounted := .start hfree outlet
  noted := by
    refine ⟨Feeder.start c.settings.intake, ?_, .start c.settings.intake⟩
    intro g hfeeder
    have hconnect : (c.connect label outlet).console.feeder? =
        some (Feeder.start c.settings.intake) := by
      simp only [Console.connect, hfree]
      rfl
    exact Option.some.inj (hfeeder.symm.trans hconnect)

theorem step (hwatched : Watched origin cleared c label w) (s : LinkStep)
    (hcleared : s = .clear → cleared) : Watched origin cleared c label (w.step origin s) := by
  obtain ⟨f, hsame, hnoted⟩ := hwatched.noted
  cases s with
  | move m =>
      cases hfeeder : w.console.feeder? with
      | none =>
          simp only [Watch.step, hfeeder]
          exact hwatched
      | some g =>
          obtain rfl := hsame g hfeeder
          have hheard := (hwatched.accounted.accounts hfeeder).heard
          have hread : w.progress.console.readBy (m.on g origin) = g.readBy (m.on g origin) := by
            rw [Console.readBy, ← Watch.console, hfeeder, Option.elim_some]
          simp only [Watch.step, hfeeder]
          refine ⟨hwatched.accounted.step (.feeder (m.on g origin)), g.move (m.on g origin), ?_, ?_⟩
          · intro h hmoved
            rw [Watch.console, Progress.step, Console.feeder?_mapFeeder, ← Watch.console,
              hfeeder] at hmoved
            exact (Option.some.inj hmoved).symm
          · rw [Progress.step, hread]
            exact hnoted.move hheard m
  | clear =>
      refine ⟨hwatched.accounted.step .clear, { f with running := false }, ?_,
        hnoted.clear (hcleared rfl)⟩
      intro g hcleared
      rw [Watch.console, Watch.step, Progress.step, Console.feeder?_mapFeeder,
        Option.map_eq_some_iff] at hcleared
      obtain ⟨before, hbefore, rfl⟩ := hcleared
      rw [hsame before hbefore]
  | pump =>
      refine ⟨hwatched.accounted.step .pump, { f with queue := [] }, ?_, hnoted.taken⟩
      intro g hpumped
      obtain ⟨before, hbefore, rfl⟩ := Console.feeder?_pump hpumped
      rw [hsame before hbefore]

theorem run (hwatched : Watched origin cleared c label w) {steps : List LinkStep}
    (hcleared : .clear ∈ steps → cleared) :
    Watched origin cleared c label (w.run origin steps) := by
  induction steps generalizing w with
  | nil => exact hwatched
  | cons s later ih =>
      have hfirst : s = .clear → cleared := by
        rintro rfl
        exact hcleared List.mem_cons_self
      exact ih (hwatched.step s hfirst) fun hlater => hcleared (List.mem_cons_of_mem s hlater)

end Watched

/-! ### The report and the lost link -/

/-- What a feeder has told of its link at some point, where its flag may have
been cleared by the session if `cleared` holds. -/
structure ReportsHangUp (origin : Origin) (cleared : Prop) (c : Console) (w : Watch) :
    Prop where
  /-- What the reads have to deliver is queued or in hand, in their order. -/
  accounted : w.emitted ++ w.inHand =
    deliveries (Splitter.new c.settings.intake.rule) (w.readings.flatMap origin.counts)
  handed : (w.step origin (.move .advance)).emitted = w.emitted ++ w.inHand.take 1
  once : w.emitted.countP Delivery.isHangUp ≤ 1
  last : ∀ delivery ∈ w.emitted, delivery.isHangUp = true →
    w.emitted.getLast? = some delivery ∧ w.inHand = []
  exactly : (∃ delivery ∈ w.emitted ++ w.inHand, delivery.isHangUp = true) ↔
    ∃ reading ∈ w.readings, reading.seen = true ∧ origin.hangsUp reading.raw = true
  polls : ∀ f, w.console.feeder? = some f → f.phase = .reading → f.PollsOn origin
  /-- Nothing but a hang-up and the session stops a feeder. -/
  stops : ∀ f, w.console.feeder? = some f → f.running = false ∨ f.isDone = true →
    cleared ∨ ∃ reading ∈ w.readings, reading.seen = true ∧ origin.hangsUp reading.raw = true

/-- Of a session whose next look at the queue finds its link lost with this
fault. -/
structure FindsLost (origin : Origin) (c : Console) (label : String) (w : Watch)
    (fault : SessionFault) : Prop where
  named : fault = .linkLost label
  /-- Everything that the reads have to deliver has been taken. -/
  all : w.progress.applied =
    deliveries (Splitter.new c.settings.intake.rule) (w.readings.flatMap origin.counts)
  nothingLeft : w.emitted = w.progress.applied ∧ w.inHand = []
  hangUp : ∃ delivery, w.progress.applied.getLast? = some delivery ∧ delivery.isHangUp = true
  history : w.console.history = (c.takeAll w.progress.applied).1.history
  /-- All of it has been shown, the report of the hang-up with it. -/
  updates : w.progress.updates = (c.takeAll w.progress.applied).2
  /-- The link is let go, and nothing else has changed. -/
  letGo : (w.step origin .pump).console = { w.console with attachment := .nothing }
  lastShown : (w.step origin .pump).progress.updates =
    w.progress.updates ++ [Console.disconnectedFrom label]
  /-- From then on there is nothing to take, and nothing happens. -/
  afterwards : ∀ later,
    ((w.step origin .pump).run origin later).console = { w.console with attachment := .nothing } ∧
      ((w.step origin .pump).run origin later).console.pump =
        .done 0 { w.console with attachment := .nothing } []

theorem countP_isHangUp_le_one {delivered : List Delivery}
    (hlast : .readFailed .closedByPeer ∉ delivered.dropLast) :
    delivered.countP Delivery.isHangUp ≤ 1 := by
  rcases delivered.eq_nil_or_concat' with rfl | ⟨before, delivery, rfl⟩
  · exact Nat.zero_le 1
  · rw [List.dropLast_concat] at hlast
    have hbefore : before.countP Delivery.isHangUp = 0 := by
      rw [List.countP_eq_zero]
      intro other hother hhangUp
      exact hlast (Delivery.isHangUp_iff.mp hhangUp ▸ hother)
    rw [List.countP_append, hbefore, Nat.zero_add]
    exact List.countP_le_length

theorem pump_of_nothing {c : Console} (hfree : c.attachment = .nothing) :
    c.pump = .done 0 c [] := by
  simp only [Console.pump, hfree]

theorem step_of_nothing (origin : Origin) {w : Watch} (hfree : w.console.attachment = .nothing)
    (s : LinkStep) : (w.step origin s).console = w.console := by
  cases s with
  | move m =>
      have hfeeder : w.console.feeder? = none := by rw [Console.feeder?, hfree]
      simp only [Watch.step, hfeeder]
  | clear =>
      have hclear : ∀ change, w.console.mapFeeder change = w.console := by
        intro change
        rw [Console.mapFeeder, hfree]
      exact hclear fun f => { f with running := false }
  | pump => exact congrArg Outcome.console (pump_of_nothing hfree)

/-- Nothing happens in a session that is not attached to anything. -/
theorem run_of_nothing (origin : Origin) {w : Watch} (hfree : w.console.attachment = .nothing)
    (steps : List LinkStep) : (w.run origin steps).console = w.console := by
  induction steps generalizing w with
  | nil => rfl
  | cons s later ih =>
      have hfirst := step_of_nothing origin hfree s
      calc
        (w.run origin (s :: later)).console = (w.step origin s).console :=
          ih (w := w.step origin s) (by rw [hfirst, hfree])
        _ = w.console := hfirst

namespace Watched

variable {origin : Origin} {cleared : Prop} {c : Console} {label : String} {w : Watch}

theorem reportsHangUp (hwatched : Watched origin cleared c label w) :
    ReportsHangUp origin cleared c w := by
  obtain ⟨f, hsame, hnoted⟩ := hwatched.noted
  have haccounted : w.emitted ++ w.inHand =
      deliveries (Splitter.new c.settings.intake.rule) w.progress.reads :=
    hwatched.accounted.inReadOrder.accounted
  have hlast : .readFailed .closedByPeer ∉ (w.emitted ++ w.inHand).dropLast := by
    rw [haccounted]
    exact closedByPeer_notMem_dropLast_deliveries hnoted.last
  have hhangUp : (∃ delivery ∈ w.emitted ++ w.inHand, delivery.isHangUp = true) ↔
      .failed .closedByPeer ∈ w.progress.reads := by
    rw [haccounted]
    simp only [Delivery.isHangUp_iff, exists_eq_right, readFailed_mem_deliveries_iff]
  constructor
  case accounted => rw [haccounted, hnoted.counted]
  case handed =>
    cases hfeeder : w.console.feeder? with
    | none => simp [Watch.step, Watch.inHand, Console.unsent, hfeeder]
    | some g =>
        have hqueue : g.advance.queue = g.queue ++ g.unsent.take 1 := by
          rw [queue_advance, if_pos (hwatched.accounted.accounts hfeeder).heard]
        have hadvanced : (w.console.mapFeeder fun f => f.move .advance).feeder? =
            some g.advance := by
          rw [Console.feeder?_mapFeeder, hfeeder]
          rfl
        have hqueued : (w.step origin (.move .advance)).emitted =
            w.progress.applied ++ g.advance.queue := by
          simp only [Watch.step, hfeeder]
          exact congrArg (fun f : Option Feeder => w.progress.applied ++ f.elim [] Feeder.queue)
            hadvanced
        rw [hqueued, hqueue, ← List.append_assoc]
        simp only [Watch.emitted, Watch.inHand, Console.queued, Console.unsent, hfeeder,
          Option.elim_some]
  case once =>
    apply countP_isHangUp_le_one
    intro hmem
    obtain ⟨-, hnone⟩ :=
      getLast?_of_notMem_dropLast hlast ((List.dropLast_sublist w.emitted).subset hmem)
    rw [hnone, List.append_nil] at hlast
    exact hlast hmem
  case last =>
    intro delivery hdelivery hreport
    obtain rfl := Delivery.isHangUp_iff.mp hreport
    exact getLast?_of_notMem_dropLast hlast hdelivery
  case exactly => exact hhangUp.trans hnoted.hungUp_iff
  case polls =>
    intro g hfeeder hphase
    exact pollsOn origin hphase (hwatched.accounted.accounts hfeeder).heard
  case stops =>
    intro g hfeeder hstopped
    obtain rfl := hsame g hfeeder
    have hcleared : g.running = false := hstopped.elim id hnoted.done
    exact (hnoted.stopped hcleared).imp_right hnoted.hungUp_iff.mp

theorem findsLost (hwatched : Watched origin False c label w) {fault : SessionFault}
    (hpump : w.console.pump.result = .error fault) : FindsLost origin c label w fault := by
  have hreports := hwatched.reportsHangUp
  have hinOrder := hwatched.accounted.inReadOrder
  cases hwatched.accounted with
  | lost hconsole hupdates hall =>
      rw [pump_of_nothing (c := w.console) (by rw [Watch.console, hconsole])] at hpump
      cases hpump
  | live link hconsole hupdates hlabel haccounts =>
      have hlink : w.console.attachment = .live link := by rw [Watch.console, hconsole]
      have hlost : link.feeder.queue = [] ∧ link.feeder.phase = .ended := by
        apply Classical.byContradiction
        intro hgoing
        rw [Console.result_pump_live hlink (Classical.not_and_iff_not_or_not.mp hgoing)] at hpump
        cases hpump
      have hpumped := Console.pump_lost hlink hlost.1 hlost.2
      have hfeeder : w.console.feeder? = some link.feeder := by rw [Console.feeder?, hlink]
      have hemitted : w.emitted = w.progress.applied := by
        rw [Watch.emitted, Console.queued, hfeeder, Option.elim_some, hlost.1, List.append_nil]
      have hinHand : w.inHand = [] := by
        rw [Watch.inHand, Console.unsent, hfeeder, Option.elim_some, unsent, hlost.2]
      have hletGo : (w.step origin .pump).console = { w.console with attachment := .nothing } :=
        congrArg Outcome.console hpumped
      have hstays := run_of_nothing origin (w := w.step origin .pump) (by rw [hletGo])
      rw [hletGo] at hstays
      constructor
      case named =>
        rw [hpumped, hlabel] at hpump
        exact (Except.error.inj hpump).symm
      case all => rw [← hreports.accounted, hinHand, List.append_nil, hemitted]
      case nothingLeft => exact ⟨hemitted, hinHand⟩
      case hangUp =>
        have hdone : link.feeder.isDone = true := by simp [isDone, hlost.2]
        have hseen := (hreports.stops link.feeder hfeeder (.inr hdone)).resolve_left id
        obtain ⟨delivery, hdelivery, hreport⟩ := hreports.exactly.mpr hseen
        rw [hinHand, List.append_nil] at hdelivery
        rw [← hemitted]
        exact ⟨delivery, (hreports.last delivery hdelivery hreport).1, hreport⟩
      case history => exact hinOrder.history
      case updates => exact hupdates
      case letGo => exact hletGo
      case lastShown =>
        have hshown : w.console.pump.updates = [Console.disconnectedFrom link.label] :=
          congrArg Outcome.updates hpumped
        rw [← hlabel, ← hshown]
        rfl
      case afterwards =>
        intro later
        refine ⟨hstays later, ?_⟩
        rw [hstays later]
        rfl

end Watched

/-- Over any run of a link, its other end hanging up is reported once, after
everything else, if the flag is seen set after it, and nothing else but the
session ends the feeder.  A session that only takes what is queued finds the link
lost when it has taken all of this, and finds so once. -/
theorem hang_up_comes_last_and_is_found_once (origin : Origin) {c : Console}
    (hfree : c.checkFree = .ok ()) (label : String) (outlet : Outlet) (steps : List LinkStep) :
    ReportsHangUp origin (.clear ∈ steps) c ((Watch.start c label outlet).run origin steps) ∧
      (.clear ∉ steps → ∀ fault,
        ((Watch.start c label outlet).run origin steps).console.pump.result = .error fault →
          FindsLost origin c label ((Watch.start c label outlet).run origin steps) fault) := by
  constructor
  · exact ((Watched.start hfree outlet).run id).reportsHangUp
  · intro honlyPumps fault hpump
    exact ((Watched.start hfree outlet).run honlyPumps).findsLost hpump

/-- A read finds a stray end, the next one nothing, and the third that the other
end has hung up; the session takes what is queued before the feeder is gone. -/
def stepsToHangUp : List LinkStep :=
  [.move .advance, .move (.returns (.ok [frameEnd])), .move .advance, .move .advance,
    .move .advance, .move (.returns (.error (.system .tryAgain))), .move .advance,
    .move (.returns (.ok [])), .move .advance, .move .advance, .move .advance, .pump,
    .move .advance]

/-- A socket of which no bytes are asked for is still read one byte at a time. -/
theorem socket_hangs_up_after_stray_end :
    (Console.new { intake := { readSize := 0 } }).checkFree = .ok () ∧
      .clear ∉ stepsToHangUp ∧
      ((Watch.start (Console.new { intake := { readSize := 0 } }) "dev" Outlet.open_).run
        (.link .socket) stepsToHangUp).console.pump.result = .error (.linkLost "dev") ∧
      ((Watch.start (Console.new { intake := { readSize := 0 } }) "dev" Outlet.open_).run
        (.link .socket) stepsToHangUp).emitted =
          [.record .strayEnd, .readFailed .closedByPeer] ∧
      ReportsHangUp (.link .socket) (.clear ∈ stepsToHangUp)
        (Console.new { intake := { readSize := 0 } })
        ((Watch.start (Console.new { intake := { readSize := 0 } }) "dev" Outlet.open_).run
          (.link .socket) stepsToHangUp) ∧
      FindsLost (.link .socket) (Console.new { intake := { readSize := 0 } }) "dev"
        ((Watch.start (Console.new { intake := { readSize := 0 } }) "dev" Outlet.open_).run
          (.link .socket) stepsToHangUp) (.linkLost "dev") := by
  have honlyPumps : .clear ∉ stepsToHangUp := by simp [stepsToHangUp]
  obtain ⟨hreports, hfinds⟩ := hang_up_comes_last_and_is_found_once (.link .socket)
    (c := Console.new { intake := { readSize := 0 } }) rfl "dev" Outlet.open_ stepsToHangUp
  exact ⟨rfl, honlyPumps, rfl, rfl, hreports, hfinds honlyPumps _ rfl⟩

end SerialConsole.Session
