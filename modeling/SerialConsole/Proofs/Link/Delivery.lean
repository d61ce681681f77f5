import SerialConsole.Link.Intake

/-!
# Reading, however the bytes come

The records read from a link are those of the bytes found, taken as one stream.
Neither the size of the reads nor idle or failed reads between them make a
difference: a read that finds nothing or fails leaves everything as it was, and
bytes that do not fit one read are found by the next.
-/

namespace SerialConsole.Link

open Wire

/-- All bytes in the outcomes of reads. -/
def bytesIn (outcomes : List ReadOutcome) : List Byte :=
  outcomes.flatMap fun
    | .ok bytes => bytes
    | .error _ => []

/-- What a number of reads find, one after the other, and what is left. -/
def Source.reads (source : Source) (limit : Nat) : Nat → List ReadOutcome × Source
  | 0 => ([], source)
  | count + 1 =>
      let (outcome, rest) := source.read limit
      let (outcomes, last) := rest.reads limit count
      (outcome :: outcomes, last)

/-- How a read is reported: by the number of bytes it found, or by its fault,
where the end of the stream means that the other end has hung up. -/
def reported : ReadOutcome → Except WireFault Nat
  | .ok bytes => .ok bytes.length
  | .error fault =>
      .error (if fault.kind = .unexpectedEof then .closedByPeer else .failed fault)

/-- An intake on its source, with the list that it appends its records to. -/
structure Reader where
  intake : Intake
  source : Source
  out : List Record

namespace Reader

def new (settings : IntakeSettings) (source : Source) (out : List Record) : Reader where
  intake := Intake.new settings
  source := source
  out := out

/-- Read once, and append the records that are complete. -/
def poll (r : Reader) : Except WireFault Nat × Reader :=
  match r.intake.poll r.source with
  | (.ok (count, records), intake, source) =>
      (.ok count, { intake, source, out := r.out ++ records })
  | (.error fault, intake, source) => (.error fault, { r with intake, source })

/-- Read a number of times. -/
def polls (r : Reader) : Nat → List (Except WireFault Nat) × Reader
  | 0 => ([], r)
  | count + 1 =>
      let (result, next) := r.poll
      let (results, last) := next.polls count
      (result :: results, last)

/-- Drop what is unfinished. -/
def discard (r : Reader) : Pending × Reader :=
  (r.intake.discard.2, { r with intake := r.intake.discard.1 })

/-- The reader once reads have found these outcomes: the splitter takes the bytes
in them as one run. -/
def fed (r : Reader) (outcomes : List ReadOutcome) (rest : Source) : Reader where
  intake := { r.intake with splitter := r.intake.splitter.after (bytesIn outcomes) }
  source := rest
  out := r.out ++ r.intake.splitter.records (bytesIn outcomes)

/-- A reader with these settings can come to this by reading and discarding. -/
inductive Reached (settings : IntakeSettings) : Reader → Prop where
  | new (source : Source) (out : List Record) : Reached settings (new settings source out)
  | poll {r : Reader} (hr : Reached settings r) : Reached settings r.poll.2
  | discard {r : Reader} (hr : Reached settings r) : Reached settings r.discard.2

end Reader

/-! ### Sources -/

theorem bytesIn_append (outcomes more : List ReadOutcome) :
    bytesIn (outcomes ++ more) = bytesIn outcomes ++ bytesIn more :=
  List.flatMap_append

theorem bytesIn_cons (outcome : ReadOutcome) (outcomes : List ReadOutcome) :
    bytesIn (outcome :: outcomes) = bytesIn [outcome] ++ bytesIn outcomes :=
  bytesIn_append [outcome] outcomes

theorem bytesIn_ok (bytes : List Byte) : bytesIn [.ok bytes] = bytes :=
  List.append_nil bytes

namespace Source

theorem bytesIn_read (source : Source) (limit : Nat) :
    bytesIn [(source.read limit).1] ++ bytesIn (source.read limit).2 = bytesIn source := by
  match source with
  | [] => rfl
  | .error fault :: rest => rfl
  | .ok bytes :: rest =>
      rw [bytesIn_cons (.ok bytes) rest]
      simp only [read]
      split
      · rename_i hfits
        rw [List.take_of_length_le hfits]
      · rw [bytesIn_cons (.ok (bytes.drop limit)) rest, ← List.append_assoc]
        refine congrArg (· ++ bytesIn rest) ?_
        simp only [bytesIn, List.flatMap_singleton, List.take_append_drop]

/-- Nothing is lost between reads. -/
theorem bytesIn_reads (source : Source) (limit count : Nat) :
    bytesIn (source.reads limit count).1 ++ bytesIn (source.reads limit count).2 =
      bytesIn source := by
  induction count generalizing source with
  | zero => rfl
  | succ count ih =>
      simp only [reads]
      rw [bytesIn_cons, List.append_assoc, ih, bytesIn_read]

theorem eq_nil_of_weight_eq_zero {source : Source} (hweight : source.weight = 0) :
    source = [] := by
  match source with
  | [] => rfl
  | .error fault :: rest =>
      simp only [weight] at hweight
      omega
  | .ok bytes :: rest =>
      simp only [weight] at hweight
      omega

theorem weight_read_le (source : Source) {limit : Nat} (hlimit : 0 < limit) :
    (source.read limit).2.weight ≤ source.weight - 1 := by
  by_cases hsource : source = []
  · subst hsource
    exact Nat.le_refl 0
  · exact Nat.le_sub_one_of_lt (weight_read_lt hsource hlimit)

/-- A source is used up after as many reads as it weighs. -/
theorem reads_eq_nil_of_weight_le {source : Source} {limit count : Nat} (hlimit : 0 < limit)
    (hcount : source.weight ≤ count) : (source.reads limit count).2 = [] := by
  induction count generalizing source with
  | zero => exact eq_nil_of_weight_eq_zero (Nat.le_zero.mp hcount)
  | succ count ih =>
      have hless := source.weight_read_le hlimit
      have hrest : (source.read limit).2.weight ≤ count := by omega
      exact ih hrest

end Source

/-! ### Polls -/

namespace Reader

theorem fed_of_bytesIn_eq_nil (r : Reader) {outcomes : List ReadOutcome} (rest : Source)
    (hnone : bytesIn outcomes = []) : r.fed outcomes rest = { r with source := rest } := by
  rw [fed, hnone, Splitter.after_nil, Splitter.records_nil, List.append_nil]

theorem poll_eq (r : Reader) :
    r.poll =
      (reported (r.source.read r.intake.readLimit).1,
        r.fed [(r.source.read r.intake.readLimit).1] (r.source.read r.intake.readLimit).2) := by
  simp only [poll, Intake.poll]
  generalize r.source.read r.intake.readLimit = found
  obtain ⟨outcome, rest⟩ := found
  cases outcome with
  | ok bytes =>
      rw [fed, bytesIn_ok]
      rfl
  | error fault =>
      rw [r.fed_of_bytesIn_eq_nil rest rfl]
      by_cases hend : fault.kind = .unexpectedEof
      · simp only [Intake.take, reported, if_pos hend]
      · simp only [Intake.take, reported, if_neg hend]

theorem fed_fed (r : Reader) (outcomes more : List ReadOutcome) (rest last : Source) :
    (r.fed outcomes rest).fed more last = r.fed (outcomes ++ more) last := by
  simp only [fed, bytesIn_append, Splitter.after_append, Splitter.records_append,
    List.append_assoc]

/-- Any number of polls take what they find as one run. -/
theorem polls_eq (r : Reader) (count : Nat) :
    r.polls count =
      ((r.source.reads r.intake.readLimit count).1.map reported,
        r.fed (r.source.reads r.intake.readLimit count).1
          (r.source.reads r.intake.readLimit count).2) := by
  induction count generalizing r with
  | zero =>
      simp only [polls, Source.reads]
      rw [r.fed_of_bytesIn_eq_nil r.source rfl]
      rfl
  | succ count ih =>
      simp only [polls, Source.reads, poll_eq, ih, fed_fed, List.map_cons]
      rfl

/-- Reading and discarding change neither the settings nor the rule. -/
theorem Reached.keeps {settings : IntakeSettings} {r : Reader} (hr : Reached settings r) :
    r.intake.settings = settings ∧ r.intake.splitter.rule = settings.rule := by
  induction hr with
  | new source out => exact ⟨rfl, rfl⟩
  | @poll r hr ih =>
      rw [poll_eq]
      exact ⟨ih.1, (Splitter.rule_after _ _).trans ih.2⟩
  | discard hr ih => exact ih

theorem discard_eq_new {settings : IntakeSettings} {r : Reader} (hr : Reached settings r) :
    r.discard = (r.intake.pending, new settings r.source r.out) := by
  obtain ⟨hsettings, hrule⟩ := hr.keeps
  simp only [discard, Intake.discard, Splitter.discard, new, Intake.new, Intake.pending,
    hsettings, hrule]

end Reader

/-- What reads have found makes the same records and leaves the same pending as
the bytes in it, taken as one run; and these are what the source has given. -/
structure ReadAsOne (rule : LineRule) (source : Source) (out : List Record) (count : Nat)
    (outcomes : List ReadOutcome) (ended : List (Except WireFault Nat) × Reader) : Prop where
  results : ended.1 = outcomes.map reported
  records : ended.2.out = out ++ (Splitter.new rule).records (bytesIn outcomes)
  splitter : ended.2.intake.splitter = (Splitter.new rule).after (bytesIn outcomes)
  pending : ended.2.intake.pending = ((Splitter.new rule).after (bytesIn outcomes)).pending
  /-- What has not been found yet is still there. -/
  rest : bytesIn outcomes ++ bytesIn ended.2.source = bytesIn source
  /-- Enough reads find everything. -/
  whole : source.weight ≤ count → bytesIn outcomes = bytesIn source

/-- What one read, or dropping what is unfinished, does and does not do. -/
structure Steady (settings : IntakeSettings) (r : Reader) : Prop where
  /-- Records read before stay as they are. -/
  kept : r.out <+: r.poll.2.out
  result : r.poll.1 = reported (r.source.read r.intake.readLimit).1
  /-- A read that finds nothing or fails leaves all but the source as it was. -/
  idle : (r.source.read r.intake.readLimit).1 = .ok [] ∨
      (∃ fault, (r.source.read r.intake.readLimit).1 = .error fault) →
    r.poll.2 = { r with source := (r.source.read r.intake.readLimit).2 }
  /-- What is dropped is what was pending, and what goes on reading is as new. -/
  discarded : r.discard = (r.intake.pending, Reader.new settings r.source r.out)

theorem Reader.Reached.steady {settings : IntakeSettings} {r : Reader}
    (hr : Reader.Reached settings r) : Steady settings r where
  kept := by
    rw [Reader.poll_eq]
    exact List.prefix_append r.out _
  result := by rw [Reader.poll_eq]
  idle := by
    intro hidle
    rw [Reader.poll_eq]
    refine r.fed_of_bytesIn_eq_nil _ ?_
    rcases hidle with hnone | ⟨fault, hfault⟩
    · rw [hnone]
      rfl
    · rw [hfault]
      rfl
  discarded := Reader.discard_eq_new hr

theorem readAsOne_polls (settings : IntakeSettings) (source : Source) (out : List Record)
    (count : Nat) :
    ReadAsOne settings.rule source out count
      (source.reads (max 1 settings.readSize) count).1
      ((Reader.new settings source out).polls count) := by
  rw [Reader.polls_eq]
  have hrest := source.bytesIn_reads (max 1 settings.readSize) count
  refine
    { results := rfl
      records := rfl
      splitter := rfl
      pending := rfl
      rest := hrest
      whole := ?_ }
  intro hcount
  rw [Source.reads_eq_nil_of_weight_le (Nat.le_max_left 1 _) hcount] at hrest
  rw [← hrest]
  exact (List.append_nil _).symm

/-- Records and pending bytes are told by the bytes found, as one stream: where
reads cut it, which of them found nothing or failed, and how much they ask for
makes no difference.  Readers that have found the same bytes have read the same
records. -/
theorem records_do_not_depend_on_delivery (settings : IntakeSettings) (source : Source)
    (out : List Record) (count : Nat) :
    ReadAsOne settings.rule source out count
        (source.reads (max 1 settings.readSize) count).1
        ((Reader.new settings source out).polls count) ∧
      (∀ r, Reader.Reached settings r → Steady settings r) ∧
      (∀ size otherSource otherCount,
        bytesIn (Source.reads otherSource (max 1 size) otherCount).1 =
            bytesIn (source.reads (max 1 settings.readSize) count).1 →
          ((Reader.new { settings with readSize := size } otherSource out).polls otherCount).2.out =
              ((Reader.new settings source out).polls count).2.out ∧
            ((Reader.new { settings with readSize := size } otherSource out).polls
                otherCount).2.intake.pending =
              ((Reader.new settings source out).polls count).2.intake.pending) := by
  have hread := readAsOne_polls settings source out count
  refine ⟨hread, fun r hr => hr.steady, ?_⟩
  intro size otherSource otherCount hsame
  have hother := readAsOne_polls { settings with readSize := size } otherSource out otherCount
  constructor
  · rw [hother.records, hread.records, hsame]
  · rw [hother.pending, hread.pending, hsame]

/-- Read byte by byte, with an idle read within the frame and a failed one
between CR and LF, or in one go. -/
theorem byte_by_byte_reads_as_in_one_go :
    bytesIn (Source.reads [.ok [frameStart, 0x61], .ok [], .ok [0x62, frameEnd, cr],
        .error .hungUp, .ok [lf]] (max 1 0) 8).1 =
      bytesIn (Source.reads [.ok [frameStart, 0x61, 0x62, frameEnd, cr, lf]]
        (max 1 defaultReadSize) 1).1 ∧
      ((Reader.new ⟨.strict, 0⟩ [.ok [frameStart, 0x61], .ok [], .ok [0x62, frameEnd, cr],
          .error .hungUp, .ok [lf]] []).polls 8).2.out =
        ((Reader.new ⟨.strict, defaultReadSize⟩
          [.ok [frameStart, 0x61, 0x62, frameEnd, cr, lf]] []).polls 1).2.out := by
  have hsame : bytesIn (Source.reads [.ok [frameStart, 0x61], .ok [], .ok [0x62, frameEnd, cr],
        .error .hungUp, .ok [lf]] (max 1 0) 8).1 =
      bytesIn (Source.reads [.ok [frameStart, 0x61, 0x62, frameEnd, cr, lf]]
        (max 1 defaultReadSize) 1).1 := by
    decide
  exact ⟨hsame, ((records_do_not_depend_on_delivery ⟨.strict, defaultReadSize⟩ _ [] 1).2.2
    0 _ 8 hsame).1⟩

end SerialConsole.Link
