import SerialConsole.Session.Feeder

/-!
# What a feeder owes

The reads of a feeder say what it has to deliver: the records that the bytes
found complete, whichever read has found which of them, and a fault wherever a
read failed and the flag was then still seen set.  At every moment this is what
has been taken from the queue, what is in it, and what the feeder still has in
hand, in that order.
-/

namespace SerialConsole.Session

open Wire Link

namespace Feeder

/-- A read that counts. -/
inductive Read where
  | found (bytes : List Byte)
  /-- It failed, and the flag was seen set after it. -/
  | failed (fault : WireFault)
  deriving DecidableEq, Repr

/-- All bytes found, one read after the other. -/
def bytesOf (reads : List Read) : List Byte :=
  reads.flatMap fun
    | .found bytes => bytes
    | .failed _ => []

def failuresOf (reads : List Read) : List WireFault :=
  reads.filterMap fun
    | .found _ => none
    | .failed fault => some fault

/-- What reads have to deliver, from the splitter that they start with. -/
def deliveries (splitter : Splitter) : List Read → List Delivery
  | [] => []
  | .found bytes :: later =>
      (splitter.records bytes).map .record ++ deliveries (splitter.after bytes) later
  | .failed fault :: later => .readFailed fault :: deliveries splitter later

def recordsIn (delivered : List Delivery) : List Record :=
  delivered.filterMap fun
    | .record record => some record
    | .readFailed _ => none

def faultsIn (delivered : List Delivery) : List WireFault :=
  delivered.filterMap fun
    | .record _ => none
    | .readFailed fault => some fault

/-- The read that a move completes. -/
def readBy (f : Feeder) : Move → List Read
  | .found (.ok bytes) => if f.phase = .reading then [.found bytes] else []
  | .found (.error _) => []
  | .advance =>
      match f.phase with
      | .failed fault => if f.running then [.failed fault] else []
      | _ => []

/-- The reads that moves complete. -/
def readsBy (f : Feeder) : List Move → List Read
  | [] => []
  | m :: later => f.readBy m ++ (f.move m).readsBy later

/-- What the feeder has in hand and not queued yet. -/
def unsent (f : Feeder) : List Delivery :=
  match f.phase with
  | .queueing left => left.map .record
  | .reporting fault => [.readFailed fault]
  | .resting | .reading | .failed _ | .signalled | .ended => []

/-- Whether the feeder has stopped in time, and the feeder when its queue has
been emptied. -/
def part (f : Feeder) (parting : Parting) : Bool × Feeder :=
  ((f.stop parting.meanwhile).1, (f.stop parting.meanwhile).2.moves parting.afterwards)

/-- The reads that a feeder completes while its link is let go. -/
def readsDuring (f : Feeder) (parting : Parting) : List Read :=
  { f with running := false }.readsBy parting.meanwhile ++
    (f.stop parting.meanwhile).2.readsBy parting.afterwards

/-- The feeder is past its last look at the flag. -/
def isDone (f : Feeder) : Bool :=
  f.phase == .signalled || f.phase == .ended

/-! ### Reads and deliveries -/

theorem bytesOf_append (reads more : List Read) :
    bytesOf (reads ++ more) = bytesOf reads ++ bytesOf more :=
  List.flatMap_append

theorem deliveries_append (splitter : Splitter) (reads more : List Read) :
    deliveries splitter (reads ++ more) =
      deliveries splitter reads ++ deliveries (splitter.after (bytesOf reads)) more := by
  induction reads generalizing splitter with
  | nil => rfl
  | cons read later ih =>
      cases read with
      | found bytes =>
          have hafter : splitter.after (bytesOf (.found bytes :: later)) =
              (splitter.after bytes).after (bytesOf later) :=
            splitter.after_append bytes (bytesOf later)
          rw [List.cons_append, deliveries, deliveries, ih, hafter, List.append_assoc]
      | failed fault =>
          rw [List.cons_append, deliveries, deliveries, ih, List.cons_append]
          rfl

/-- How the bytes are spread over reads has no influence on the records. -/
theorem recordsIn_deliveries (splitter : Splitter) (reads : List Read) :
    recordsIn (deliveries splitter reads) = splitter.records (bytesOf reads) := by
  induction reads generalizing splitter with
  | nil => rfl
  | cons read later ih =>
      cases read with
      | found bytes =>
          have hwhole : ∀ records : List Record, recordsIn (records.map .record) = records := by
            intro records
            rw [recordsIn, List.filterMap_map]
            exact List.filterMap_some
          have hbytes : bytesOf (.found bytes :: later) = bytes ++ bytesOf later := rfl
          rw [deliveries, recordsIn, List.filterMap_append, ← recordsIn, ← recordsIn, hwhole, ih,
            hbytes, splitter.records_append]
      | failed fault => exact ih splitter

theorem faultsIn_deliveries (splitter : Splitter) (reads : List Read) :
    faultsIn (deliveries splitter reads) = failuresOf reads := by
  induction reads generalizing splitter with
  | nil => rfl
  | cons read later ih =>
      cases read with
      | found bytes =>
          have hnone : ∀ records : List Record, faultsIn (records.map .record) = [] := by
            intro records
            rw [faultsIn, List.filterMap_map]
            exact List.filterMap_eq_nil_iff.mpr fun record hrecord => rfl
          rw [deliveries, faultsIn, List.filterMap_append, ← faultsIn, ← faultsIn, hnone, ih]
          rfl
      | failed fault => exact congrArg (fault :: ·) (ih splitter)

/-- Only a read that is under way can return. -/
theorem found_of_ne_reading {f : Feeder} (hphase : f.phase ≠ .reading) (outcome : ReadOutcome) :
    f.found outcome = f ∧ f.readBy (.found outcome) = [] := by
  constructor
  · unfold found
    split
    · contradiction
    · rfl
  · cases outcome with
    | ok bytes => rw [readBy, if_neg hphase]
    | error fault => rfl

/-! ### The queue -/

/-- The first of what is in hand is queued by the next move, as long as anyone
takes from the queue. -/
theorem queue_advance (f : Feeder) :
    f.advance.queue = f.queue ++ if f.heard then f.unsent.take 1 else [] := by
  obtain ⟨intake, running, phase, queue, heard⟩ := f
  have hkept : queue = queue ++ if heard = true then [] else [] := by
    rw [ite_self, List.append_nil]
  cases phase with
  | resting => cases running <;> exact hkept
  | reading => exact hkept
  | queueing left =>
      cases left with
      | nil => exact hkept
      | cons record left =>
          cases heard with
          | true => rfl
          | false => exact hkept
  | failed fault =>
      cases running with
      | true => exact hkept
      | false =>
          simp only [advance, afterFault, Bool.false_eq_true, if_false]
          split <;> exact hkept
  | reporting fault =>
      cases heard with
      | true =>
          simp only [advance, afterFault]
          split <;> rfl
      | false =>
          simp only [advance, afterFault]
          split <;> exact hkept
  | signalled => exact hkept
  | ended => exact hkept

theorem queue_found (f : Feeder) (outcome : ReadOutcome) : (f.found outcome).queue = f.queue := by
  unfold found
  split
  · split <;> rfl
  · rfl

/-- What is queued stays until it is taken. -/
theorem queue_isPrefix_moves (f : Feeder) (ms : List Move) : f.queue <+: (f.moves ms).queue := by
  induction ms generalizing f with
  | nil => exact List.prefix_refl f.queue
  | cons m ms ih =>
      have hmove : f.queue <+: (f.move m).queue := by
        cases m with
        | advance => exact ⟨_, (queue_advance f).symm⟩
        | found outcome => exact ⟨[], (List.append_nil _).trans (queue_found f outcome).symm⟩
      exact hmove.trans (ih (f.move m))

/-! ### The account of a feeder -/

/-- What the reads have to deliver is gone, queued or in hand, in this order;
`gone` has been taken from the queue. -/
structure Accounts (rule : LineRule) (f : Feeder) (reads : List Read) (gone : List Delivery) :
    Prop where
  heard : f.heard = true
  delivered : gone ++ f.queue ++ f.unsent = deliveries (Splitter.new rule) reads
  /-- The splitter has taken all bytes, and at the end drops what is
  unfinished. -/
  splitter : f.intake.splitter =
    if f.isDone then ((Splitter.new rule).after (bytesOf reads)).discard.1
    else (Splitter.new rule).after (bytesOf reads)

namespace Accounts

variable {rule : LineRule} {f g : Feeder} {reads : List Read} {gone : List Delivery}

theorem start (settings : IntakeSettings) :
    Accounts settings.rule (Feeder.start settings) [] [] where
  heard := rfl
  delivered := rfl
  splitter := rfl

/-- A move that completes no read only passes on what is in hand. -/
theorem keep (haccounts : Accounts rule f reads gone) {more : List Read} (hmore : more = [])
    (hheard : g.heard = true) (hdelivered : g.queue ++ g.unsent = f.queue ++ f.unsent)
    (hintake : g.intake = f.intake) (hdone : g.isDone = f.isDone) :
    Accounts rule g (reads ++ more) gone := by
  rw [hmore, List.append_nil]
  constructor
  · exact hheard
  · rw [List.append_assoc, hdelivered, ← List.append_assoc, haccounts.delivered]
  · rw [hintake, hdone]
    exact haccounts.splitter

/-- A move that completes a read puts in hand what the read has to deliver. -/
theorem extend (haccounts : Accounts rule f reads gone) {more : List Read}
    (hheard : g.heard = true)
    (hdelivered : g.queue ++ g.unsent = f.queue ++ f.unsent ++ deliveries f.intake.splitter more)
    (hsplitter : g.intake.splitter = f.intake.splitter.after (bytesOf more))
    (hbefore : f.isDone = false) (hafter : g.isDone = false) :
    Accounts rule g (reads ++ more) gone := by
  have hreached : f.intake.splitter = (Splitter.new rule).after (bytesOf reads) := by
    have hsplitter := haccounts.splitter
    rwa [hbefore, if_neg Bool.false_ne_true] at hsplitter
  constructor
  · exact hheard
  · rw [deliveries_append, ← haccounts.delivered, ← hreached, List.append_assoc, hdelivered]
    simp only [List.append_assoc]
  · rw [hafter, if_neg Bool.false_ne_true, hsplitter, hreached, bytesOf_append,
      Splitter.after_append]

/-- After a fault the feeder rests, its flag cleared or not. -/
theorem afterFault (haccounts : Accounts rule f reads gone) (fault : WireFault)
    (hunsent : f.unsent = []) (hdone : f.isDone = false) :
    Accounts rule (f.afterFault fault) (reads ++ []) gone := by
  have hqueue : f.queue ++ [] = f.queue ++ f.unsent := by rw [hunsent]
  unfold Feeder.afterFault
  split
  · exact haccounts.keep rfl haccounts.heard hqueue rfl hdone.symm
  · exact haccounts.keep rfl haccounts.heard hqueue rfl hdone.symm

theorem advance (haccounts : Accounts rule f reads gone) :
    Accounts rule f.advance (reads ++ f.readBy .advance) gone := by
  obtain ⟨intake, running, phase, queue, heard⟩ := f
  obtain rfl : heard = true := haccounts.heard
  cases phase with
  | resting =>
      cases running with
      | true => exact haccounts.keep rfl rfl rfl rfl rfl
      | false =>
          have hsplitter := congrArg (fun s => s.discard.1) haccounts.splitter
          rw [readBy, List.append_nil]
          exact ⟨rfl, haccounts.delivered, hsplitter⟩
  | reading => exact haccounts.keep rfl rfl rfl rfl rfl
  | queueing left =>
      cases left with
      | nil => exact haccounts.keep rfl rfl rfl rfl rfl
      | cons record left =>
          have hdelivered : queue ++ [.record record] ++ left.map .record =
              queue ++ (record :: left).map .record := by
            rw [List.append_assoc, List.map_cons, List.singleton_append]
          exact haccounts.keep rfl rfl hdelivered rfl rfl
  | failed fault =>
      cases running with
      | true =>
          have hdelivered : queue ++ [.readFailed fault] = queue ++ [] ++ [.readFailed fault] := by
            rw [List.append_nil]
          exact haccounts.extend rfl hdelivered rfl rfl rfl
      | false => exact haccounts.afterFault fault rfl rfl
  | reporting fault =>
      have hreported : Accounts rule
          ⟨intake, running, .resting, queue ++ [.readFailed fault], true⟩ (reads ++ []) gone :=
        haccounts.keep rfl rfl (List.append_nil _) rfl rfl
      rw [List.append_nil] at hreported
      exact hreported.afterFault fault rfl rfl
  | signalled => exact haccounts.keep rfl rfl rfl rfl rfl
  | ended => exact haccounts.keep rfl rfl rfl rfl rfl

theorem found (haccounts : Accounts rule f reads gone) (outcome : ReadOutcome) :
    Accounts rule (f.found outcome) (reads ++ f.readBy (.found outcome)) gone := by
  by_cases hphase : f.phase = .reading
  · obtain ⟨intake, running, phase, queue, heard⟩ := f
    obtain rfl : heard = true := haccounts.heard
    obtain rfl : phase = .reading := hphase
    cases outcome with
    | error fault =>
        by_cases hkind : fault.kind = .unexpectedEof
        · simp only [Feeder.found, Intake.take, hkind, if_true]
          exact haccounts.keep rfl rfl rfl rfl rfl
        · simp only [Feeder.found, Intake.take, hkind, if_false]
          exact haccounts.keep rfl rfl rfl rfl rfl
    | ok bytes =>
        cases bytes with
        | nil => exact haccounts.extend rfl (List.append_nil _).symm rfl rfl rfl
        | cons b bytes =>
            have hdelivered : queue ++ (intake.splitter.records (b :: bytes)).map .record =
                queue ++ [] ++ ((intake.splitter.records (b :: bytes)).map .record ++ []) := by
              rw [List.append_nil, List.append_nil]
            have hsplitter : intake.splitter.after (b :: bytes) =
                intake.splitter.after (b :: bytes ++ []) := by
              rw [List.append_nil]
            exact haccounts.extend rfl hdelivered hsplitter rfl rfl
  · obtain ⟨hsame, hread⟩ := found_of_ne_reading hphase outcome
    rw [hsame]
    exact haccounts.keep hread haccounts.heard rfl rfl rfl

theorem move (haccounts : Accounts rule f reads gone) (m : Move) :
    Accounts rule (f.move m) (reads ++ f.readBy m) gone := by
  cases m with
  | advance => exact haccounts.advance
  | found outcome => exact haccounts.found outcome

theorem moves (haccounts : Accounts rule f reads gone) (ms : List Move) :
    Accounts rule (f.moves ms) (reads ++ f.readsBy ms) gone := by
  induction ms generalizing f reads with
  | nil => exact haccounts.keep rfl haccounts.heard rfl rfl rfl
  | cons m ms ih =>
      rw [readsBy, ← List.append_assoc]
      exact ih (haccounts.move m)

/-- The flag may be cleared at any time. -/
theorem cleared (haccounts : Accounts rule f reads gone) :
    Accounts rule { f with running := false } reads gone :=
  ⟨haccounts.heard, haccounts.delivered, haccounts.splitter⟩

/-- Taking everything from the queue. -/
theorem taken (haccounts : Accounts rule f reads gone) :
    Accounts rule { f with queue := [] } reads (gone ++ f.queue) where
  heard := haccounts.heard
  delivered := by
    rw [← haccounts.delivered, List.append_nil]
    rfl
  splitter := haccounts.splitter

theorem ended (haccounts : Accounts rule f reads gone) (hdone : f.isDone = true) :
    Accounts rule { f with phase := .ended } reads gone := by
  have hunsent : f.unsent = [] := by
    rw [isDone, Bool.or_eq_true, beq_iff_eq, beq_iff_eq] at hdone
    rcases hdone with hphase | hphase
    · rw [unsent, hphase]
    · rw [unsent, hphase]
  have hkept : Accounts rule { f with phase := .ended } (reads ++ []) gone :=
    haccounts.keep rfl haccounts.heard (by rw [hunsent]; rfl) rfl (by rw [hdone]; rfl)
  rwa [List.append_nil] at hkept

end Accounts

/-! ### Letting the feeder go -/

theorem stop_eq (f : Feeder) (meanwhile : List Move) :
    f.stop meanwhile =
      if ({ f with running := false }.moves meanwhile).isDone then
        (true, { { f with running := false }.moves meanwhile with phase := .ended })
      else (false, { f with running := false }.moves meanwhile) := by
  rw [stop]
  generalize { f with running := false }.moves meanwhile = moved
  obtain ⟨intake, running, phase, queue, heard⟩ := moved
  cases phase <;> rfl

theorem Accounts.stop {rule : LineRule} {f : Feeder} {reads : List Read} {gone : List Delivery}
    (haccounts : Accounts rule f reads gone) (meanwhile : List Move) :
    Accounts rule (f.stop meanwhile).2
      (reads ++ { f with running := false }.readsBy meanwhile) gone := by
  have hmoved := haccounts.cleared.moves meanwhile
  rw [stop_eq]
  split
  · rename_i hdone
    exact hmoved.ended hdone
  · exact hmoved

theorem queue_isPrefix_part (f : Feeder) (parting : Parting) :
    f.queue <+: (f.part parting).2.queue := by
  have hstop : f.queue <+: (f.stop parting.meanwhile).2.queue := by
    have hmoved := queue_isPrefix_moves { f with running := false } parting.meanwhile
    rw [stop_eq]
    split <;> exact hmoved
  exact hstop.trans (queue_isPrefix_moves _ parting.afterwards)

theorem Accounts.part {rule : LineRule} {f : Feeder} {reads : List Read} {gone : List Delivery}
    (haccounts : Accounts rule f reads gone) (parting : Parting) :
    Accounts rule (f.part parting).2 (reads ++ f.readsDuring parting) gone := by
  rw [readsDuring, ← List.append_assoc]
  exact (haccounts.stop parting.meanwhile).moves parting.afterwards

theorem moves_of_ended {f : Feeder} (hphase : f.phase = .ended) (ms : List Move) :
    f.moves ms = f ∧ f.readsBy ms = [] := by
  induction ms with
  | nil => exact ⟨rfl, rfl⟩
  | cons m ms ih =>
      have hstay : f.move m = f ∧ f.readBy m = [] := by
        cases m with
        | advance =>
            rw [move, Feeder.advance, readBy, hphase]
            exact ⟨rfl, rfl⟩
        | found outcome =>
            exact found_of_ne_reading (by rw [hphase]; exact Phase.noConfusion) outcome
      constructor
      · rw [moves, List.foldl_cons, hstay.1]
        exact ih.1
      · rw [readsBy, hstay.1, hstay.2, ih.2]
        rfl

/-- A feeder that has stopped in time makes no further moves. -/
theorem phase_part {f : Feeder} {parting : Parting} (hstopped : (f.part parting).1 = true) :
    (f.part parting).2.phase = .ended := by
  have hended : (f.stop parting.meanwhile).2.phase = .ended := by
    rw [part, stop_eq] at hstopped
    rw [stop_eq]
    split
    · rfl
    · rename_i hdone
      rw [if_neg hdone] at hstopped
      cases hstopped
  rw [part, (moves_of_ended hended parting.afterwards).1]
  exact hended

end Feeder

end SerialConsole.Session
