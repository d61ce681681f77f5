import Mathlib.Data.List.ModifyLast
import SerialConsole.Link.Channel
import SerialConsole.Proofs.Session.Feeding

/-!
# What the reads of a link come to

A read of a link may find bytes, come to nothing, fail, or tell that the other
end has hung up, and which of these it is depends on the link.  This module
follows a feeder through the reads of its link as the system reports them, each
with what the feeder saw of its flag afterwards: they say which reads count,
and a hang-up is the last one that does.
-/

namespace SerialConsole.Session

open Wire Link Feeder

/-- What a feeder reads from. -/
inductive Origin where
  | link (kind : ChannelKind)
  /-- Any other source, whose reads are taken as they are. -/
  | source
  deriving DecidableEq, Repr

namespace Origin

/-- What a read of `size` bytes is to the feeder. -/
def outcome (origin : Origin) (size : Nat) (raw : ReadOutcome) : ReadOutcome :=
  match origin with
  | link kind => kind.outcome size raw
  | source => raw

/-- The read tells that the other end has hung up. -/
def hangsUp (origin : Origin) : ReadOutcome → Bool
  | .ok bytes => bytes.isEmpty && origin == .link .socket
  | .error fault => fault.kind == .unexpectedEof

/-- The read tells that nothing came in time. -/
def isIdle (origin : Origin) : ReadOutcome → Bool
  | .ok bytes => bytes.isEmpty && origin != .link .socket
  | .error fault =>
      origin != .source &&
        (fault.kind == .wouldBlock || fault.kind == .timedOut || fault.kind == .interrupted)

/-- The fault of a read, unless it found bytes or came to nothing. -/
def fault? (origin : Origin) (raw : ReadOutcome) : Option WireFault :=
  if origin.hangsUp raw then some .closedByPeer
  else if origin.isIdle raw then none
  else match raw with
    | .ok _ => none
    | .error fault => some (.failed fault)

end Origin

def bytesFound : ReadOutcome → List Byte
  | .ok bytes => bytes
  | .error _ => []

/-- A read of the link, and whether the flag was seen set after it. -/
structure Reading where
  raw : ReadOutcome
  seen : Bool

namespace Reading

/-- A read that has just returned. -/
def fresh (raw : ReadOutcome) : Reading where
  raw := raw
  seen := false

def sawFlag (reading : Reading) : Reading :=
  { reading with seen := true }

end Reading

/-- What counts of a reading: a failure only if the flag was seen set. -/
def Origin.counts (origin : Origin) (reading : Reading) : List Read :=
  match origin.fault? reading.raw with
  | some fault => if reading.seen then [.failed fault] else []
  | none => [.found (bytesFound reading.raw)]

/-- A move of a feeder on its link. -/
inductive LinkMove where
  | advance
  /-- The read under way returns. -/
  | returns (raw : ReadOutcome)

def LinkMove.on (f : Feeder) (origin : Origin) : LinkMove → Move
  | advance => .advance
  | returns raw => .found (origin.outcome f.intake.readLimit raw)

/-- The readings after a move. -/
def Feeder.noted (f : Feeder) (readings : List Reading) : LinkMove → List Reading
  | .advance =>
      match f.phase with
      | .failed _ => if f.running then readings.modifyLast Reading.sawFlag else readings
      | _ => readings
  | .returns raw => if f.phase = .reading then readings ++ [.fresh raw] else readings

/-! ### One read -/

namespace Origin

variable {origin : Origin} {raw : ReadOutcome} {size : Nat}

theorem outcome_of_hangsUp (hsize : 0 < size) (hgone : origin.hangsUp raw = true) :
    ∃ cause, origin.outcome size raw = .error cause ∧ cause.kind = .unexpectedEof := by
  cases raw with
  | ok bytes =>
      obtain ⟨rfl, rfl⟩ : bytes = [] ∧ origin = .link .socket := by simpa [hangsUp] using hgone
      have hsocket : ChannelKind.socket = .socket ∧ size ≠ 0 := ⟨rfl, Nat.ne_of_gt hsize⟩
      exact ⟨.hungUp, if_pos hsocket, rfl⟩
  | error fault =>
      have hkind : fault.kind = .unexpectedEof := by simpa [hangsUp] using hgone
      refine ⟨fault, ?_, hkind⟩
      cases origin with
      | source => rfl
      | link kind => simp [outcome, ChannelKind.outcome, hkind]

theorem outcome_of_isIdle (size : Nat) (hidle : origin.isIdle raw = true) :
    origin.outcome size raw = .ok [] ∧ bytesFound raw = [] := by
  cases raw with
  | ok bytes =>
      obtain ⟨rfl, horigin⟩ : bytes = [] ∧ origin ≠ .link .socket := by simpa [isIdle] using hidle
      refine ⟨?_, rfl⟩
      match origin with
      | .source => rfl
      | .link .terminal => rfl
      | .link .socket => contradiction
  | error fault =>
      refine ⟨?_, rfl⟩
      cases origin with
      | source => simp [isIdle] at hidle
      | link kind =>
          have hkind : fault.kind = .wouldBlock ∨ fault.kind = .timedOut ∨
              fault.kind = .interrupted := by
            simpa [isIdle, or_assoc] using hidle
          simp only [outcome, ChannelKind.outcome, if_pos hkind]

theorem outcome_ok {bytes : List Byte} (hgone : origin.hangsUp (.ok bytes) = false) :
    origin.outcome size (.ok bytes) = .ok bytes := by
  match origin, bytes with
  | .source, _ => rfl
  | .link _, _ :: _ => rfl
  | .link .terminal, [] => rfl
  | .link .socket, [] => simp [hangsUp] at hgone

theorem outcome_error (size : Nat) {fault : Fault} (hgone : origin.hangsUp (.error fault) = false)
    (hidle : origin.isIdle (.error fault) = false) :
    origin.outcome size (.error fault) = .error fault ∧ fault.kind ≠ .unexpectedEof := by
  refine ⟨?_, by simpa [hangsUp] using hgone⟩
  cases origin with
  | source => rfl
  | link kind =>
      have hkind : ¬(fault.kind = .wouldBlock ∨ fault.kind = .timedOut ∨
          fault.kind = .interrupted) := by
        simpa [isIdle, not_or, and_assoc] using hidle
      simp only [outcome, ChannelKind.outcome, if_neg hkind]

/-- A read without a fault is to the feeder what it found. -/
theorem outcome_of_fault?_eq_none (hfault : origin.fault? raw = none) :
    origin.outcome size raw = .ok (bytesFound raw) := by
  unfold fault? at hfault
  split at hfault
  · cases hfault
  · rename_i hgone
    split at hfault
    · rename_i hidle
      obtain ⟨houtcome, hfound⟩ := outcome_of_isIdle size hidle
      rw [houtcome, hfound]
    · split at hfault
      · exact outcome_ok (eq_false_of_ne_true hgone)
      · cases hfault

/-- A read with a fault fails, whatever the size asked for. -/
theorem outcome_of_fault?_eq_some (hsize : 0 < size) {fault : WireFault}
    (hfault : origin.fault? raw = some fault) :
    ∃ cause, origin.outcome size raw = .error cause ∧
      fault = if cause.kind = .unexpectedEof then .closedByPeer else .failed cause := by
  unfold fault? at hfault
  split at hfault
  · rename_i hgone
    obtain ⟨cause, houtcome, hkind⟩ := outcome_of_hangsUp hsize hgone
    refine ⟨cause, houtcome, ?_⟩
    rw [if_pos hkind]
    exact (Option.some.inj hfault).symm
  · rename_i hgone
    split at hfault
    · cases hfault
    · rename_i hidle
      split at hfault
      · cases hfault
      · obtain ⟨houtcome, hkind⟩ := outcome_error size
          (eq_false_of_ne_true hgone) (eq_false_of_ne_true hidle)
        refine ⟨_, houtcome, ?_⟩
        rw [if_neg hkind]
        exact (Option.some.inj hfault).symm

theorem fault?_eq_closedByPeer_iff :
    origin.fault? raw = some .closedByPeer ↔ origin.hangsUp raw = true := by
  unfold fault?
  split
  · rename_i hgone
    exact iff_of_true rfl hgone
  · rename_i hgone
    refine iff_of_false ?_ hgone
    split
    · exact nofun
    · split <;> exact nofun

theorem failed_mem_counts_iff {reading : Reading} {fault : WireFault} :
    .failed fault ∈ origin.counts reading ↔
      reading.seen = true ∧ origin.fault? reading.raw = some fault := by
  unfold counts
  cases hfault : origin.fault? reading.raw with
  | none => simp
  | some other =>
      cases reading.seen with
      | false => simp
      | true => simp [eq_comm]

end Origin

/-! ### What a feeder makes of it -/

namespace Feeder

variable {origin : Origin} {f : Feeder} {raw : ReadOutcome}

/-- The fault of a read that is not dealt with yet. -/
def failure? (f : Feeder) : Option WireFault :=
  match f.phase with
  | .failed fault | .reporting fault => some fault
  | .resting | .reading | .queueing _ | .signalled | .ended => none

theorem ne_failed_of_failure?_eq_none (hquiet : f.failure? = none) (fault : WireFault) :
    f.phase ≠ .failed fault ∧ f.phase ≠ .reporting fault := by
  constructor
  · intro hphase
    simp [failure?, hphase] at hquiet
  · intro hphase
    simp [failure?, hphase] at hquiet

theorem found_of_fault?_eq_some {fault : WireFault} (hphase : f.phase = .reading)
    (hfault : origin.fault? raw = some fault) :
    f.move (LinkMove.on f origin (.returns raw)) = { f with phase := .failed fault } ∧
      f.readBy (LinkMove.on f origin (.returns raw)) = [] := by
  obtain ⟨cause, houtcome, rfl⟩ :=
    Origin.outcome_of_fault?_eq_some f.intake.readLimit_pos hfault
  have htake : f.intake.take (.error cause) =
      (.error (if cause.kind = .unexpectedEof then .closedByPeer else .failed cause),
        f.intake) := by
    simp only [Intake.take]
    split <;> rfl
  rw [LinkMove.on, houtcome]
  refine ⟨?_, rfl⟩
  simp only [move, found, hphase, htake]

/-- A read without a fault leaves the flag alone, and nothing is to be dealt
with after it but its records. -/
theorem found_of_fault?_eq_none (hphase : f.phase = .reading) (hfault : origin.fault? raw = none) :
    (f.move (LinkMove.on f origin (.returns raw))).running = f.running ∧
      (f.move (LinkMove.on f origin (.returns raw))).failure? = none ∧
      (f.move (LinkMove.on f origin (.returns raw))).isDone = false ∧
      f.readBy (LinkMove.on f origin (.returns raw)) = [.found (bytesFound raw)] := by
  rw [LinkMove.on, Origin.outcome_of_fault?_eq_none hfault]
  cases hfound : bytesFound raw with
  | nil => simp [move, found, hphase, Intake.take, readBy, failure?, isDone]
  | cons b bytes => simp [move, found, hphase, Intake.take, readBy, failure?, isDone]

/-- A feeder that has seen the other end hang up is about to report it, or its
flag is cleared and it does not read again. -/
def HasStopped (f : Feeder) : Prop :=
  match f.phase with
  | .reporting fault => fault = .closedByPeer
  | .resting | .signalled | .ended => f.running = false
  | .reading | .queueing _ | .failed _ => False

/-- What the readings of a feeder say of it and of the reads that count, where
its flag may have been cleared from outside if `cleared` holds. -/
structure Noted (origin : Origin) (cleared : Prop) (f : Feeder) (readings : List Reading)
    (reads : List Read) : Prop where
  counted : reads = readings.flatMap origin.counts
  /-- A failure after which the flag is still to be looked at is the last
  reading. -/
  failing : ∀ fault, f.phase = .failed fault → ∃ earlier raw,
    readings = earlier ++ [.fresh raw] ∧ origin.fault? raw = some fault
  reporting : ∀ fault, f.phase = .reporting fault → .failed fault ∈ reads
  /-- Nothing counts after a hang-up. -/
  last : .failed .closedByPeer ∉ reads.dropLast
  closing : .failed .closedByPeer ∈ reads → f.HasStopped
  stopped : f.running = false → cleared ∨ .failed .closedByPeer ∈ reads
  done : f.isDone = true → f.running = false

namespace Noted

variable {cleared : Prop} {readings : List Reading} {reads : List Read}

theorem start (settings : IntakeSettings) :
    Noted origin cleared (Feeder.start settings) [] [] where
  counted := rfl
  failing _ hphase := Phase.noConfusion hphase
  reporting _ hphase := Phase.noConfusion hphase
  last := List.not_mem_nil
  closing hclosed := absurd hclosed List.not_mem_nil
  stopped hstopped := Bool.noConfusion hstopped
  done hdone := Bool.noConfusion hdone

/-- A move that adds no reading leaves the feeder where it may be. -/
theorem keep {g : Feeder} (hnoted : Noted origin cleared f readings reads)
    (hquiet : g.failure? = none) (hclosing : .failed .closedByPeer ∈ reads → g.HasStopped)
    (hstopped : g.running = false → cleared ∨ .failed .closedByPeer ∈ reads)
    (hdone : g.isDone = false ∨ g.running = false) :
    Noted origin cleared g readings (reads ++ []) := by
  rw [List.append_nil]
  have hphase := ne_failed_of_failure?_eq_none hquiet
  constructor
  case counted => exact hnoted.counted
  case failing => exact fun fault hfailed => absurd hfailed (hphase fault).1
  case reporting => exact fun fault hreporting => absurd hreporting (hphase fault).2
  case last => exact hnoted.last
  case closing => exact hclosing
  case stopped => exact hstopped
  case done => exact fun hended => hdone.resolve_left (by simp [hended])

/-- A read that counts is added while none before it was a hang-up. -/
theorem extend {g : Feeder} (hnoted : Noted origin cleared f readings reads) {read : Read}
    {noted : List Reading} (hopen : .failed .closedByPeer ∉ reads)
    (hcounted : reads ++ [read] = noted.flatMap origin.counts)
    (hafter : g.failure? = none ∨ ∃ fault, g.phase = .reporting fault ∧ read = .failed fault)
    (hclosing : read = .failed .closedByPeer → g.HasStopped)
    (hrunning : g.running = f.running) (hdone : g.isDone = false) :
    Noted origin cleared g noted (reads ++ [read]) := by
  constructor
  case counted => exact hcounted
  case failing =>
    intro fault hphase
    rcases hafter with hquiet | ⟨other, hreporting, -⟩
    · exact absurd hphase (ne_failed_of_failure?_eq_none hquiet fault).1
    · rw [hreporting] at hphase
      cases hphase
  case reporting =>
    intro fault hphase
    rcases hafter with hquiet | ⟨other, hreporting, rfl⟩
    · exact absurd hphase (ne_failed_of_failure?_eq_none hquiet fault).2
    · obtain rfl := Phase.reporting.inj (hphase.symm.trans hreporting)
      exact List.mem_append_right reads List.mem_cons_self
  case last => rwa [List.dropLast_concat]
  case closing =>
    intro hclosed
    rcases List.mem_append.mp hclosed with hbefore | hnow
    · exact absurd hbefore hopen
    · exact hclosing (List.mem_singleton.mp hnow).symm
  case stopped =>
    intro hstopped
    rw [hrunning] at hstopped
    exact (hnoted.stopped hstopped).imp_right (List.mem_append_left [read])
  case done =>
    intro hended
    rw [hdone] at hended
    cases hended

theorem advance (hnoted : Noted origin cleared f readings reads) (hheard : f.heard = true) :
    Noted origin cleared f.advance (f.noted readings .advance) (reads ++ f.readBy .advance) := by
  obtain ⟨intake, running, phase, queue, heard⟩ := f
  obtain rfl : heard = true := hheard
  have hclosing := hnoted.closing
  have hstopped := hnoted.stopped
  cases phase with
  | resting =>
      cases running with
      | true =>
          have hopen : .failed .closedByPeer ∉ reads := fun hclosed => nomatch hclosing hclosed
          exact hnoted.keep rfl (fun hclosed => absurd hclosed hopen) hstopped (.inl rfl)
      | false => exact hnoted.keep rfl (fun _ => rfl) hstopped (.inr rfl)
  | reading => exact hnoted.keep rfl hclosing hstopped (.inl rfl)
  | queueing left =>
      cases left with
      | nil => exact hnoted.keep rfl (fun hclosed => (hclosing hclosed).elim) hstopped (.inl rfl)
      | cons record left => exact hnoted.keep rfl hclosing hstopped (.inl rfl)
  | failed fault =>
      cases running with
      | true =>
          -- the flag is seen set, and the last reading counts from now on
          obtain ⟨earlier, raw, rfl, hfault⟩ := hnoted.failing fault rfl
          have hcounted : reads ++ [.failed fault] =
              ((earlier ++ [Reading.fresh raw]).modifyLast Reading.sawFlag).flatMap
                origin.counts := by
            rw [hnoted.counted, List.modifyLast_concat]
            simp [Origin.counts, Reading.fresh, Reading.sawFlag, hfault]
          exact hnoted.extend hclosing hcounted (.inr ⟨fault, rfl, rfl⟩) Read.failed.inj rfl rfl
      | false =>
          simp only [Feeder.advance, afterFault, Bool.false_eq_true, if_false]
          split
          · exact hnoted.keep rfl (fun _ => rfl) hstopped (.inl rfl)
          · exact hnoted.keep rfl (fun _ => rfl) hstopped (.inl rfl)
  | reporting fault =>
      simp only [Feeder.advance, afterFault]
      split
      · rename_i hfault
        have hclosed : .failed .closedByPeer ∈ reads := hfault ▸ hnoted.reporting fault rfl
        exact hnoted.keep rfl (fun _ => rfl) (fun _ => .inr hclosed) (.inl rfl)
      · rename_i hfault
        exact hnoted.keep rfl (fun hclosed => absurd (hclosing hclosed) hfault) hstopped (.inl rfl)
  | signalled => exact hnoted.keep rfl hclosing hstopped (.inr (hnoted.done rfl))
  | ended => exact hnoted.keep rfl hclosing hstopped (.inr (hnoted.done rfl))

theorem returns (hnoted : Noted origin cleared f readings reads) (raw : ReadOutcome) :
    Noted origin cleared (f.move (LinkMove.on f origin (.returns raw)))
      (f.noted readings (.returns raw))
      (reads ++ f.readBy (LinkMove.on f origin (.returns raw))) := by
  by_cases hphase : f.phase = .reading
  · have hopen : .failed .closedByPeer ∉ reads := by
      intro hclosed
      have hstopped := hnoted.closing hclosed
      rwa [HasStopped, hphase] at hstopped
    rw [noted, if_pos hphase]
    cases hfault : origin.fault? raw with
    | some fault =>
        obtain ⟨hmove, hread⟩ := found_of_fault?_eq_some hphase hfault
        rw [hmove, hread, List.append_nil]
        constructor
        case counted =>
          rw [hnoted.counted]
          simp [Origin.counts, Reading.fresh, hfault]
        case failing =>
          intro other hother
          obtain rfl := Phase.failed.inj hother
          exact ⟨readings, raw, rfl, hfault⟩
        case reporting => exact fun other hother => Phase.noConfusion hother
        case last => exact hnoted.last
        case closing => exact fun hclosed => absurd hclosed hopen
        case stopped => exact hnoted.stopped
        case done => exact fun hended => Bool.noConfusion hended
    | none =>
        obtain ⟨hrunning, hquiet, hdone, hread⟩ := found_of_fault?_eq_none hphase hfault
        have hcounted : reads ++ [.found (bytesFound raw)] =
            (readings ++ [Reading.fresh raw]).flatMap origin.counts := by
          rw [hnoted.counted]
          simp [Origin.counts, Reading.fresh, hfault]
        rw [hread]
        exact hnoted.extend hopen hcounted (.inl hquiet) (fun hclosed => Read.noConfusion hclosed)
          hrunning hdone
  · obtain ⟨hsame, hread⟩ := found_of_ne_reading hphase
      (origin.outcome f.intake.readLimit raw)
    rw [noted, if_neg hphase, LinkMove.on, move, hsame, hread, List.append_nil]
    exact hnoted

theorem move (hnoted : Noted origin cleared f readings reads) (hheard : f.heard = true)
    (m : LinkMove) :
    Noted origin cleared (f.move (m.on f origin)) (f.noted readings m)
      (reads ++ f.readBy (m.on f origin)) := by
  cases m with
  | advance => exact hnoted.advance hheard
  | returns raw => exact hnoted.returns raw

/-- The flag is cleared from outside. -/
theorem clear (hnoted : Noted origin cleared f readings reads) (hcleared : cleared) :
    Noted origin cleared { f with running := false } readings reads := by
  obtain ⟨intake, running, phase, queue, heard⟩ := f
  refine { hnoted with closing := ?_, stopped := fun _ => .inl hcleared, done := fun _ => rfl }
  intro hclosed
  have hstopped := hnoted.closing hclosed
  cases phase with
  | resting => rfl
  | reading => exact hstopped
  | queueing left => exact hstopped
  | failed fault => exact hstopped
  | reporting fault => exact hstopped
  | signalled => rfl
  | ended => rfl

theorem taken (hnoted : Noted origin cleared f readings reads) :
    Noted origin cleared { f with queue := [] } readings reads :=
  { hnoted with }

/-- A hang-up counts if the flag was seen set after it. -/
theorem hungUp_iff (hnoted : Noted origin cleared f readings reads) :
    .failed .closedByPeer ∈ reads ↔
      ∃ reading ∈ readings, reading.seen = true ∧ origin.hangsUp reading.raw = true := by
  simp only [hnoted.counted, List.mem_flatMap, Origin.failed_mem_counts_iff,
    Origin.fault?_eq_closedByPeer_iff]

end Noted

/-! ### Polling -/

/-- Of a feeder inside a read: one that comes to nothing leaves all as it was,
one that fails is reported, and while its flag is set the feeder then reads
again. -/
structure PollsOn (origin : Origin) (f : Feeder) : Prop where
  idle : ∀ raw, origin.isIdle raw = true →
    f.found (origin.outcome f.intake.readLimit raw) = { f with phase := .resting }
  failed : ∀ fault, origin.hangsUp (.error fault) = false →
    origin.isIdle (.error fault) = false → f.running = true →
      (f.found (origin.outcome f.intake.readLimit (.error fault))).moves [.advance, .advance] =
        { f with phase := .resting, queue := f.queue ++ [.readFailed (.failed fault)] }
  again : f.running = true → ∀ queue, { f with phase := .resting, queue }.advance = { f with queue }

theorem pollsOn (origin : Origin) (hphase : f.phase = .reading) (hheard : f.heard = true) :
    f.PollsOn origin := by
  obtain ⟨intake, running, phase, queue, heard⟩ := f
  obtain rfl : phase = .reading := hphase
  obtain rfl : heard = true := hheard
  constructor
  case idle =>
    intro raw hidle
    rw [(Origin.outcome_of_isIdle _ hidle).1]
    rfl
  case failed =>
    intro fault hgone hidle hrunning
    obtain rfl : running = true := hrunning
    obtain ⟨houtcome, hkind⟩ := Origin.outcome_error intake.readLimit hgone hidle
    rw [houtcome]
    simp only [found, Intake.take, if_neg hkind]
    rfl
  case again =>
    intro hrunning later
    obtain rfl : running = true := hrunning
    rfl

end Feeder

end SerialConsole.Session
