import SerialConsole.Proofs.Session.Feeding
import SerialConsole.Proofs.Wire.Lengths
import SerialConsole.Session.Operation

/-!
# Deliveries arrive in the order of the reads

While a link is attached, its feeder and the session take their steps in any
order.  Whatever the order is, nothing that the reads have to deliver is lost,
doubled or moved: the session has taken the first of it, the queue holds what
follows, and the feeder has the rest in hand.  So the history and the display
are told by what has been taken, and once the feeder has stopped, by the reads
alone.
-/

namespace SerialConsole.Session

open Wire Link Log Feeder

/-- One step while a link is attached. -/
inductive Step where
  | feeder (m : Move)
  /-- The session clears the flag. -/
  | clear
  /-- The session takes what is queued. -/
  | pump

namespace Console

def feeder? (c : Console) : Option Feeder :=
  match c.attachment with
  | .live link => some link.feeder
  | _ => none

def queued (c : Console) : List Delivery :=
  c.feeder?.elim [] Feeder.queue

def unsent (c : Console) : List Delivery :=
  c.feeder?.elim [] Feeder.unsent

def readBy (c : Console) (m : Move) : List Read :=
  c.feeder?.elim [] fun f => f.readBy m

/-- Whether the feeder stops in time when the link is let go. -/
def stopsInTime (c : Console) (parting : Parting) : Bool :=
  c.feeder?.elim false fun f => (f.part parting).1

def readsDuring (c : Console) (parting : Parting) : List Read :=
  c.feeder?.elim [] fun f => f.readsDuring parting

/-- What is taken from the queue when the link is let go. -/
def queuedAfter (c : Console) (parting : Parting) : List Delivery :=
  c.feeder?.elim [] fun f => (f.part parting).2.queue

def lateNotice : Update :=
  .error "reader thread did not stop in time"

end Console

/-- A session in progress, with the reads of its feeder, the deliveries it has
taken, and what it has shown. -/
structure Progress where
  console : Console
  reads : List Read
  applied : List Delivery
  updates : List Update

namespace Progress

/-- A link has just been attached. -/
def start (c : Console) (label : String) (outlet : Outlet) : Progress where
  console := (c.connect label outlet).console
  reads := []
  applied := []
  updates := (c.connect label outlet).updates

def step (p : Progress) : Step → Progress
  | .feeder m =>
      { p with
        console := p.console.mapFeeder fun f => f.move m,
        reads := p.reads ++ p.console.readBy m }
  | .clear => { p with console := p.console.mapFeeder fun f => { f with running := false } }
  | .pump =>
      { p with
        console := p.console.pump.console,
        applied := p.applied ++ p.console.queued,
        updates := p.updates ++ p.console.pump.updates }

def run (p : Progress) (steps : List Step) : Progress :=
  steps.foldl step p

/-- The link is let go. -/
def disconnect (p : Progress) (parting : Parting) : Progress where
  console := (p.console.disconnect parting).console
  reads := p.reads ++ p.console.readsDuring parting
  applied := p.applied ++ p.console.queuedAfter parting
  updates := p.updates ++ (p.console.disconnect parting).updates

end Progress

/-! ### Taking deliveries -/

namespace Console

theorem take_attachment (c : Console) (attachment : Attachment) (delivery : Delivery) :
    { c with attachment }.take delivery =
      ({ (c.take delivery).1 with attachment }, (c.take delivery).2) := by
  match delivery with
  | .record (.frame content) => rfl
  | .record (.line content) => rfl
  | .record .strayEnd => rfl
  | .readFailed fault => rfl

/-- What a console is attached to has no influence on what it takes. -/
theorem takeAll_attachment (c : Console) (attachment : Attachment)
    (taken : List Delivery) :
    { c with attachment }.takeAll taken =
      ({ (c.takeAll taken).1 with attachment }, (c.takeAll taken).2) := by
  induction taken generalizing c with
  | nil => rfl
  | cons delivery later ih =>
      rw [takeAll_cons, takeAll_cons, take_attachment, ih]

theorem takeAll_append (c : Console) (taken later : List Delivery) :
    c.takeAll (taken ++ later) =
      (((c.takeAll taken).1.takeAll later).1,
        (c.takeAll taken).2 ++ ((c.takeAll taken).1.takeAll later).2) := by
  induction taken generalizing c with
  | nil => rfl
  | cons delivery taken ih =>
      rw [List.cons_append, takeAll_cons, takeAll_cons, ih, List.append_assoc]

/-- A failed read is shown and changes nothing. -/
theorem takeAll_recordsIn (c : Console) (taken : List Delivery) :
    (c.takeAll ((recordsIn taken).map .record)).1 = (c.takeAll taken).1 := by
  induction taken generalizing c with
  | nil => rfl
  | cons delivery later ih =>
      cases delivery with
      | record record => exact ih (c.take (.record record)).1
      | readFailed fault => exact ih c

variable {c : Console} {link : LiveLink}

/-- A link that is not lost is pumped by taking all that is queued. -/
theorem pump_live (hlink : c.attachment = .live link)
    (hgoing : link.feeder.queue ≠ [] ∨ link.feeder.phase ≠ .ended) :
    c.pump.console =
        { (c.takeAll link.feeder.queue).1 with
          attachment := .live { link with feeder := { link.feeder with queue := [] } } } ∧
      c.pump.updates = (c.takeAll link.feeder.queue).2 := by
  obtain ⟨label, ⟨intake, running, phase, queue, heard⟩, outlet⟩ := link
  cases queue with
  | nil =>
      have hphase : phase ≠ .ended := hgoing.resolve_left fun hqueue => hqueue rfl
      simp only [pump, hlink, hphase, if_false]
      rw [takeAll_nil, ← hlink]
      exact ⟨rfl, rfl⟩
  | cons delivery later =>
      simp only [pump, hlink]
      rw [takeAll_attachment]
      exact ⟨rfl, rfl⟩

theorem pump_lost (hlink : c.attachment = .live link) (hqueue : link.feeder.queue = [])
    (hphase : link.feeder.phase = .ended) :
    c.pump =
      { result := .error (.linkLost link.label),
        console := { c with attachment := .nothing },
        updates := [disconnectedFrom link.label] } := by
  simp only [pump, hlink, hqueue, hphase, if_true]

theorem disconnect_live (hlink : c.attachment = .live link) (parting : Parting) :
    c.disconnect parting = .done ()
      { (c.takeAll (c.queuedAfter parting)).1 with attachment := .nothing }
      ((if c.stopsInTime parting then [] else [lateNotice]) ++
        (c.takeAll (c.queuedAfter parting)).2 ++ [disconnectedFrom link.label]) := by
  have hfeeder : c.feeder? = some link.feeder := by rw [feeder?, hlink]
  simp only [disconnect, hlink, takeAll_attachment, queuedAfter, stopsInTime, hfeeder,
    Option.elim_some, part, lateNotice]

/-- What is queued when the link is let go is taken. -/
theorem queued_isPrefix_queuedAfter (c : Console) (parting : Parting) :
    c.queued <+: c.queuedAfter parting := by
  rw [queued, queuedAfter]
  cases c.feeder? with
  | none => exact List.nil_prefix
  | some f => exact queue_isPrefix_part f parting

end Console

/-! ### What every step keeps -/

/-- The console has taken what was applied and nothing else, and the feeder
accounts for the rest of the reads until its link is lost. -/
inductive Accounted (c : Console) (label : String) (p : Progress) : Prop where
  | live (link : LiveLink)
      (hconsole : p.console = { (c.takeAll p.applied).1 with attachment := .live link })
      (hupdates : p.updates = (c.takeAll p.applied).2) (hlabel : link.label = label)
      (haccounts : Accounts c.settings.intake.rule link.feeder p.reads p.applied)
  | lost (hconsole : p.console = { (c.takeAll p.applied).1 with attachment := .nothing })
      (hupdates : p.updates = (c.takeAll p.applied).2 ++ [Console.disconnectedFrom label])
      (hall : p.applied = deliveries (Splitter.new c.settings.intake.rule) p.reads)

namespace Accounted

variable {c : Console} {label : String} {p : Progress}

theorem start (hfree : c.checkFree = .ok ()) (outlet : Outlet) :
    Accounted c label (Progress.start c label outlet) := by
  have hconnect : c.connect label outlet =
      .done () { c with
        attachment := .live { label, feeder := Feeder.start c.settings.intake, outlet } } [] := by
    simp only [Console.connect, hfree]
  refine .live { label, feeder := Feeder.start c.settings.intake, outlet } ?_ ?_ rfl
    (Accounts.start c.settings.intake)
  · rw [Progress.start, hconnect]
    rfl
  · rw [Progress.start, hconnect]
    rfl

theorem feeder (haccounted : Accounted c label p) (m : Move) :
    Accounted c label (p.step (.feeder m)) := by
  cases haccounted with
  | live link hconsole hupdates hlabel haccounts =>
      have hread : p.console.readBy m = link.feeder.readBy m := by
        rw [hconsole]
        rfl
      refine .live { link with feeder := link.feeder.move m } ?_ hupdates hlabel ?_
      · rw [Progress.step, hconsole]
        rfl
      · rw [Progress.step, hread]
        exact haccounts.move m
  | lost hconsole hupdates hall =>
      have hread : p.console.readBy m = [] := by
        rw [hconsole]
        rfl
      refine .lost ?_ hupdates ?_
      · rw [Progress.step, hconsole]
        rfl
      · rw [Progress.step, hread, List.append_nil]
        exact hall

theorem clear (haccounted : Accounted c label p) : Accounted c label (p.step .clear) := by
  cases haccounted with
  | live link hconsole hupdates hlabel haccounts =>
      refine .live { link with feeder := { link.feeder with running := false } } ?_ hupdates hlabel
        haccounts.cleared
      rw [Progress.step, hconsole]
      rfl
  | lost hconsole hupdates hall =>
      refine .lost ?_ hupdates hall
      rw [Progress.step, hconsole]
      rfl

theorem pump (haccounted : Accounted c label p) : Accounted c label (p.step .pump) := by
  cases haccounted with
  | live link hconsole hupdates hlabel haccounts =>
      have hlink : p.console.attachment = .live link := by rw [hconsole]
      have hqueued : p.console.queued = link.feeder.queue := by
        rw [hconsole]
        rfl
      by_cases hlost : link.feeder.queue = [] ∧ link.feeder.phase = .ended
      · obtain ⟨hqueue, hphase⟩ := hlost
        have happlied : p.applied ++ p.console.queued = p.applied := by
          rw [hqueued, hqueue, List.append_nil]
        have hdelivered := haccounts.delivered
        rw [hqueue, unsent, hphase, List.append_nil, List.append_nil] at hdelivered
        rw [Progress.step, Console.pump_lost hlink hqueue hphase, happlied]
        refine .lost ?_ ?_ hdelivered
        · rw [hconsole]
        · rw [hupdates, hlabel]
      · have hgoing : link.feeder.queue ≠ [] ∨ link.feeder.phase ≠ .ended :=
          Classical.not_and_iff_not_or_not.mp hlost
        obtain ⟨hpumped, hshown⟩ := Console.pump_live hlink hgoing
        have htaken : p.console.takeAll link.feeder.queue =
            ({ ((c.takeAll p.applied).1.takeAll link.feeder.queue).1 with
                attachment := .live link },
              ((c.takeAll p.applied).1.takeAll link.feeder.queue).2) := by
          rw [hconsole, Console.takeAll_attachment]
        rw [Progress.step, hpumped, hshown, hqueued, htaken]
        refine .live { link with feeder := { link.feeder with queue := [] } } ?_ ?_ hlabel
          haccounts.taken
        · rw [Console.takeAll_append]
        · rw [Console.takeAll_append, hupdates]
  | lost hconsole hupdates hall =>
      have hqueued : p.console.queued = [] := by
        rw [hconsole]
        rfl
      have hpump : p.console.pump = .done 0 p.console [] := by
        rw [hconsole]
        rfl
      rw [Progress.step, hpump, hqueued, Outcome.done, List.append_nil, List.append_nil]
      exact .lost hconsole hupdates hall

theorem step (haccounted : Accounted c label p) (s : Step) : Accounted c label (p.step s) := by
  cases s with
  | feeder m => exact haccounted.feeder m
  | clear => exact haccounted.clear
  | pump => exact haccounted.pump

theorem run (haccounted : Accounted c label p) (steps : List Step) :
    Accounted c label (p.run steps) := by
  induction steps generalizing p with
  | nil => exact haccounted
  | cons s later ih => exact ih (haccounted.step s)

end Accounted

/-! ### The order of arrival -/

/-- Of a session `p` that began with a free console `c`, at any point before its
link is let go. -/
structure InReadOrder (c : Console) (label : String) (p : Progress) : Prop where
  accounted : p.applied ++ p.console.queued ++ p.console.unsent =
    deliveries (Splitter.new c.settings.intake.rule) p.reads
  /-- The records are those of all bytes found, whichever reads have found
  them. -/
  records : recordsIn (deliveries (Splitter.new c.settings.intake.rule) p.reads) =
    (Splitter.new c.settings.intake.rule).records (bytesOf p.reads)
  faults : faultsIn (deliveries (Splitter.new c.settings.intake.rule) p.reads) =
    failuresOf p.reads
  history : p.console.history = (c.takeAll p.applied).1.history
  /-- A link that was lost is reported after everything else. -/
  updates : p.updates = (c.takeAll p.applied).2 ++
    if p.console.isConnected then [] else [Console.disconnectedFrom label]

/-- Of the same session when its link is let go. -/
structure LetGo (c : Console) (label : String) (p : Progress) (parting : Parting) : Prop where
  done : (p.console.disconnect parting).result = .ok ()
  free : (p.disconnect parting).console.attachment = .nothing
  history : (p.disconnect parting).console.history =
    (c.takeAll (p.disconnect parting).applied).1.history
  updates : (p.disconnect parting).updates =
    (c.takeAll p.applied).2 ++
      (if p.console.stopsInTime parting then [] else [Console.lateNotice]) ++
      ((c.takeAll p.applied).1.takeAll (p.console.queuedAfter parting)).2 ++
      [Console.disconnectedFrom label]
  /-- What was applied comes first among what the reads have to deliver. -/
  inOrder : (p.disconnect parting).applied <+:
    deliveries (Splitter.new c.settings.intake.rule) (p.disconnect parting).reads
  /-- All of it was applied if the feeder has stopped in time. -/
  whole : p.console.stopsInTime parting = true →
    (p.disconnect parting).applied =
      deliveries (Splitter.new c.settings.intake.rule) (p.disconnect parting).reads
  shown : p.console.stopsInTime parting = true →
    (p.disconnect parting).updates =
      (c.takeAll (p.disconnect parting).applied).2 ++ [Console.disconnectedFrom label]
  /-- Then the history depends on the bytes alone, however they were spread over
  reads and whatever failed between them. -/
  settled : p.console.stopsInTime parting = true →
    (p.disconnect parting).console.history =
      (c.takeAll (((Splitter.new c.settings.intake.rule).records
        (bytesOf (p.disconnect parting).reads)).map .record)).1.history
  /-- Then every byte is in a record that was applied, but for those of an open
  frame and of an unfinished line. -/
  dropped : p.console.stopsInTime parting = true →
    (bytesOf (p.disconnect parting).reads).length =
      ((recordsIn (p.disconnect parting).applied).map Record.wireLength).sum +
        ((Splitter.new c.settings.intake.rule).after
          (bytesOf (p.disconnect parting).reads)).held

theorem Accounted.inReadOrder {c : Console} {label : String} {p : Progress}
    (haccounted : Accounted c label p) : InReadOrder c label p := by
  cases haccounted with
  | live link hconsole hupdates hlabel haccounts =>
      refine ⟨?_, recordsIn_deliveries _ _, faultsIn_deliveries _ _, ?_, ?_⟩
      · rw [hconsole]
        exact haccounts.delivered
      · rw [hconsole]
      · rw [hconsole, hupdates]
        exact (List.append_nil _).symm
  | lost hconsole hupdates hall =>
      refine ⟨?_, recordsIn_deliveries _ _, faultsIn_deliveries _ _, ?_, ?_⟩
      · rw [hconsole, ← hall]
        simp [Console.queued, Console.unsent, Console.feeder?]
      · rw [hconsole]
      · rw [hconsole, hupdates]
        rfl

/-! ### Letting the link go -/

namespace Progress

variable {c : Console} {p : Progress} {link : LiveLink} {rule : LineRule}

theorem disconnect_live
    (hconsole : p.console = { (c.takeAll p.applied).1 with attachment := .live link })
    (parting : Parting) :
    p.console.disconnect parting = .done ()
      { (c.takeAll (p.disconnect parting).applied).1 with attachment := .nothing }
      ((if p.console.stopsInTime parting then [] else [Console.lateNotice]) ++
        ((c.takeAll p.applied).1.takeAll (p.console.queuedAfter parting)).2 ++
        [Console.disconnectedFrom link.label]) := by
  have hlink : p.console.attachment = .live link := by rw [hconsole]
  have htaken : p.console.takeAll (p.console.queuedAfter parting) =
      ({ (c.takeAll (p.disconnect parting).applied).1 with attachment := .live link },
        ((c.takeAll p.applied).1.takeAll (p.console.queuedAfter parting)).2) := by
    rw [disconnect, Console.takeAll_append]
    generalize p.console.queuedAfter parting = queued
    rw [hconsole, Console.takeAll_attachment]
  rw [Console.disconnect_live hlink, htaken]

theorem applied_disconnect (hfeeder : p.console.feeder? = some link.feeder) (parting : Parting) :
    (p.disconnect parting).applied = p.applied ++ (link.feeder.part parting).2.queue := by
  rw [disconnect, Console.queuedAfter, hfeeder, Option.elim_some]

/-- The account of the feeder when its queue has been emptied. -/
theorem accounts_part (hfeeder : p.console.feeder? = some link.feeder)
    (haccounts : Accounts rule link.feeder p.reads p.applied) (parting : Parting) :
    Accounts rule (link.feeder.part parting).2 (p.disconnect parting).reads p.applied := by
  have hreads : p.console.readsDuring parting = link.feeder.readsDuring parting := by
    rw [Console.readsDuring, hfeeder, Option.elim_some]
  rw [disconnect, hreads]
  exact haccounts.part parting

theorem applied_prefix (hfeeder : p.console.feeder? = some link.feeder)
    (haccounts : Accounts rule link.feeder p.reads p.applied) (parting : Parting) :
    (p.disconnect parting).applied <+:
      deliveries (Splitter.new rule) (p.disconnect parting).reads := by
  rw [applied_disconnect hfeeder, ← (accounts_part hfeeder haccounts parting).delivered]
  exact List.prefix_append _ _

/-- A feeder that has stopped in time has nothing left in hand. -/
theorem applied_of_stopsInTime (hfeeder : p.console.feeder? = some link.feeder)
    (haccounts : Accounts rule link.feeder p.reads p.applied) {parting : Parting}
    (hstopped : p.console.stopsInTime parting = true) :
    (p.disconnect parting).applied =
      deliveries (Splitter.new rule) (p.disconnect parting).reads := by
  have hdone : (link.feeder.part parting).1 = true := by
    rw [← hstopped, Console.stopsInTime, hfeeder, Option.elim_some]
  have hunsent : (link.feeder.part parting).2.unsent = [] := by rw [unsent, phase_part hdone]
  have hdelivered := (accounts_part hfeeder haccounts parting).delivered
  rw [hunsent, List.append_nil] at hdelivered
  rw [applied_disconnect hfeeder, hdelivered]

end Progress

theorem Accounted.letGo {c : Console} {label : String} {p : Progress}
    (haccounted : Accounted c label p) (hlive : p.console.isConnected = true)
    (parting : Parting) : LetGo c label p parting := by
  cases haccounted with
  | live link hconsole hupdates hlabel haccounts =>
      have hfeeder : p.console.feeder? = some link.feeder := by rw [hconsole, Console.feeder?]
      have hdisconnect := Progress.disconnect_live hconsole parting
      rw [hlabel] at hdisconnect
      have hhistory : (p.disconnect parting).console.history =
          (c.takeAll (p.disconnect parting).applied).1.history :=
        congrArg (fun outcome => outcome.console.history) hdisconnect
      have hshown : (p.disconnect parting).updates =
          (c.takeAll p.applied).2 ++
            (if p.console.stopsInTime parting then [] else [Console.lateNotice]) ++
            ((c.takeAll p.applied).1.takeAll (p.console.queuedAfter parting)).2 ++
            [Console.disconnectedFrom label] := by
        calc
          (p.disconnect parting).updates
              = (c.takeAll p.applied).2 ++ (p.console.disconnect parting).updates := by
                rw [Progress.disconnect, hupdates]
          _ = _ := by
                rw [hdisconnect]
                simp only [Outcome.done, List.append_assoc]
      have hwhole : p.console.stopsInTime parting = true → _ :=
        Progress.applied_of_stopsInTime hfeeder haccounts
      constructor
      case done => rw [hdisconnect]; rfl
      case free => exact congrArg (fun outcome => outcome.console.attachment) hdisconnect
      case history => exact hhistory
      case updates => exact hshown
      case inOrder => exact Progress.applied_prefix hfeeder haccounts parting
      case whole => exact hwhole
      case shown =>
        intro hstopped
        rw [hshown, if_pos hstopped, List.append_nil, Progress.disconnect, Console.takeAll_append]
      case settled =>
        intro hstopped
        rw [hhistory, hwhole hstopped, ← Console.takeAll_recordsIn, recordsIn_deliveries]
      case dropped =>
        intro hstopped
        rw [hwhole hstopped, recordsIn_deliveries, Splitter.sum_wireLength_records]
        exact (Nat.zero_add _).symm
  | lost hconsole hupdates hall =>
      rw [hconsole] at hlive
      cases hlive

/-- A link is attached to a free console, and its feeder and the session take
their steps in any order, the flag being cleared between any two of them.  What
was applied, what is queued and what the feeder has in hand are at every point
together what the reads so far have to deliver; letting the link go then applies
all of it if the feeder stops in time, and otherwise what comes first. -/
theorem deliveries_arrive_in_read_order {c : Console} (hfree : c.checkFree = .ok ())
    (label : String) (outlet : Outlet) (steps : List Step) :
    InReadOrder c label ((Progress.start c label outlet).run steps) ∧
      (((Progress.start c label outlet).run steps).console.isConnected = true →
        ∀ parting, LetGo c label ((Progress.start c label outlet).run steps) parting) := by
  have haccounted : Accounted c label ((Progress.start c label outlet).run steps) :=
    (Accounted.start hfree outlet).run steps
  exact ⟨haccounted.inReadOrder, haccounted.letGo⟩

/-- The flag is cleared when one of the two records of a read has been queued;
the other still arrives. -/
theorem cleared_between_records_still_arrives :
    (Console.new {}).checkFree = .ok () ∧
      ((Progress.start (Console.new {}) "dev" Outlet.open_).run
        [.feeder .advance, .feeder (.found (.ok [frameStart, 0x61, frameEnd, frameEnd, 0x62])),
          .feeder .advance, .pump, .clear]).console.isConnected = true ∧
      (((Progress.start (Console.new {}) "dev" Outlet.open_).run
        [.feeder .advance, .feeder (.found (.ok [frameStart, 0x61, frameEnd, frameEnd, 0x62])),
          .feeder .advance, .pump, .clear]).disconnect
            ⟨[.advance, .advance, .advance], []⟩).applied =
        [.record (.frame (decode [0x61])), .record .strayEnd] := by
  obtain ⟨-, hletGo⟩ := deliveries_arrive_in_read_order (c := Console.new {}) rfl "dev"
    Outlet.open_ [.feeder .advance,
      .feeder (.found (.ok [frameStart, 0x61, frameEnd, frameEnd, 0x62])),
      .feeder .advance, .pump, .clear]
  exact ⟨rfl, rfl, ((hletGo rfl ⟨[.advance, .advance, .advance], []⟩).whole rfl).trans rfl⟩

end SerialConsole.Session
