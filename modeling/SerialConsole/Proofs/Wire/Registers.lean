import SerialConsole.Proofs.Wire.Consistency

/-!
# A splitter in registers

A splitter can be kept in registers of fixed use: two buffers, of which the one
for payloads is there whether or not a frame is open, and two flags.  Nothing in
such a record ties them together; every operation has to see to it.  Read as a
splitter, the registers take every byte as a splitter does, and as long as no
payload stays behind when a frame is closed they also tell how much is pending.
-/

namespace SerialConsole.Wire

open LineRule

structure Registers where
  rule : LineRule
  inFrame : Bool
  frame : List Byte
  line : List Byte
  armed : Bool
  deriving DecidableEq, Repr

namespace Registers

def new (rule : LineRule) : Registers where
  rule := rule
  inFrame := false
  frame := []
  line := []
  armed := false

def pending (r : Registers) : Pending where
  frame := r.frame.length
  line := r.line.length

def pushLine (r : Registers) (b : Byte) : Registers × Option Record :=
  let line := r.line ++ [b]
  if b = cr then ({ r with line, armed := true }, none)
  else if r.armed ∧ b = lf then
    ({ r with line := [], armed := false }, some (.line (decode line)))
  else if r.rule = .strict then ({ r with line, armed := false }, none)
  else ({ r with line }, none)

def push (r : Registers) (b : Byte) : Registers × Option Record :=
  if r.inFrame then
    if b = frameEnd then
      ({ r with inFrame := false, frame := [] }, some (.frame (decode r.frame)))
    else ({ r with frame := r.frame ++ [b] }, none)
  else if b = frameStart then ({ r with inFrame := true, frame := [] }, none)
  else if b = frameEnd then (r, some .strayEnd)
  else r.pushLine b

def feed (r : Registers) : List Byte → Registers × List Record
  | [] => (r, [])
  | b :: rest =>
      let (next, emitted) := r.push b
      let (last, later) := next.feed rest
      (last, emitted.toList ++ later)

def discard (r : Registers) : Registers × Pending :=
  ({ r with inFrame := false, frame := [], line := [], armed := false }, r.pending)

def use (r : Registers) : Use → Registers × List Record
  | .push b => ((r.push b).1, (r.push b).2.toList)
  | .feed bytes => r.feed bytes
  | .discard => (r.discard.1, [])

/-- The registers after any number of uses, and all records that these emit. -/
def uses (r : Registers) : List Use → Registers × List Record
  | [] => (r, [])
  | use :: later =>
      let (next, records) := r.use use
      let (last, others) := next.uses later
      (last, records ++ others)

/-- The splitter that the registers stand for. -/
def splitter (r : Registers) : Splitter where
  rule := r.rule
  frame := if r.inFrame then some r.frame else none
  line := r.line
  armed := r.armed

/-- Nothing of a closed frame stays behind. -/
def Tidy (r : Registers) : Prop :=
  r.inFrame = false → r.frame = []

end Registers

/-! ### Registers read as a splitter -/

namespace Registers

variable (r : Registers)

theorem splitter_pushLine (b : Byte) (hframe : r.inFrame = false) :
    r.splitter.pushLine b = ((r.pushLine b).1.splitter, (r.pushLine b).2) := by
  have harmed : r.splitter.armed = r.armed := rfl
  unfold pushLine Splitter.pushLine
  rw [harmed]
  by_cases hcr : b = cr
  · simp only [if_pos hcr, splitter, hframe]
  · by_cases hends : r.armed = true ∧ b = lf
    · simp only [if_neg hcr, if_pos hends, splitter, hframe]
    · simp only [if_neg hcr, if_neg hends]
      cases hrule : r.rule <;> simp [splitter, hrule, hframe]

/-- The registers take a byte as the splitter does that they stand for. -/
theorem splitter_push (b : Byte) :
    r.splitter.push b = ((r.push b).1.splitter, (r.push b).2) := by
  cases hframe : r.inFrame with
  | true =>
      have hopen : r.splitter.frame = some r.frame := by simp only [splitter, hframe, if_true]
      by_cases hend : b = frameEnd
      · simp only [push, Splitter.push, hopen, hframe, if_true, if_pos hend]
        rfl
      · simp only [push, Splitter.push, hopen, hframe, if_true, if_neg hend]
        simp only [splitter, hframe, if_true]
  | false =>
      have houtside : r.splitter.frame = none := by simp [splitter, hframe]
      by_cases hstart : b = frameStart
      · simp only [push, Splitter.push, houtside, hframe, Bool.false_eq_true, if_false,
          if_pos hstart]
        rfl
      · by_cases hend : b = frameEnd
        · simp only [push, Splitter.push, houtside, hframe, Bool.false_eq_true, if_false,
            if_neg hstart, if_pos hend]
        · simp only [push, Splitter.push, houtside, hframe, Bool.false_eq_true, if_false,
            if_neg hstart, if_neg hend]
          exact r.splitter_pushLine b hframe

theorem splitter_feed (bytes : List Byte) :
    r.splitter.feed bytes = ((r.feed bytes).1.splitter, (r.feed bytes).2) := by
  induction bytes generalizing r with
  | nil => rfl
  | cons b rest ih =>
      have hpush := r.splitter_push b
      have hrest := ih (r.push b).1
      refine Prod.ext ?_ ?_
      · calc
          r.splitter.after (b :: rest)
              = (r.splitter.push b).1.after rest := rfl
          _ = ((r.push b).1.feed rest).1.splitter := by
            rw [hpush]
            exact congrArg Prod.fst hrest
      · calc
          r.splitter.records (b :: rest)
              = (r.splitter.push b).2.toList ++ (r.splitter.push b).1.records rest :=
            r.splitter.records_cons b rest
          _ = (r.push b).2.toList ++ ((r.push b).1.feed rest).2 := by
            rw [hpush]
            exact congrArg ((r.push b).2.toList ++ ·) (congrArg Prod.snd hrest)

theorem splitter_use (use : Use) :
    r.splitter.use use = ((r.use use).1.splitter, (r.use use).2) := by
  cases use with
  | push b => simp only [Splitter.use, Registers.use, r.splitter_push b]
  | feed bytes => exact r.splitter_feed bytes
  | discard => rfl

theorem splitter_uses (uses : List Use) :
    r.splitter.uses uses = ((r.uses uses).1.splitter, (r.uses uses).2) := by
  induction uses generalizing r with
  | nil => rfl
  | cons use later ih => simp only [Splitter.uses, Registers.uses, r.splitter_use use, ih]

/-! ### What stays behind of a frame -/

variable {r}

theorem Tidy.push (htidy : r.Tidy) (b : Byte) : (r.push b).1.Tidy := by
  unfold Registers.push
  split
  · split
    · exact fun _ => rfl
    · rename_i hframe _
      exact fun hclosed => absurd hclosed (by simp [hframe])
  · split
    · exact fun hclosed => absurd hclosed (by simp)
    · split
      · exact htidy
      · -- neither the flag nor the payload is touched
        unfold pushLine
        split
        · exact htidy
        · split
          · exact htidy
          · split <;> exact htidy

theorem Tidy.feed (htidy : r.Tidy) (bytes : List Byte) : (r.feed bytes).1.Tidy := by
  induction bytes generalizing r with
  | nil => exact htidy
  | cons b rest ih => exact ih (htidy.push b)

theorem Tidy.uses (htidy : r.Tidy) (uses : List Use) : (r.uses uses).1.Tidy := by
  induction uses generalizing r with
  | nil => exact htidy
  | cons use later ih =>
      cases use with
      | push b => exact ih (htidy.push b)
      | feed bytes => exact ih (htidy.feed bytes)
      | discard => exact ih fun _ => rfl

theorem Tidy.pending (htidy : r.Tidy) : r.splitter.pending = r.pending := by
  cases hframe : r.inFrame with
  | true => simp [Splitter.pending, Registers.pending, splitter, hframe]
  | false => simp [Splitter.pending, Registers.pending, splitter, hframe, htidy hframe]

end Registers

end SerialConsole.Wire
