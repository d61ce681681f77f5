import SerialConsole.Wire.Byte

/-!
# Splitting the link into frames and shell lines

One stream carries two channels.  Bytes between a start byte and the next end
byte are a log frame; every other byte belongs to the shell, whose lines end
in CR LF and may be interrupted by any number of frames.  The splitter takes
one byte at a time, never looks ahead, and emits a record at the byte that
completes it.
-/

namespace SerialConsole.Wire

/-- When an LF outside frames ends a shell line. -/
inductive LineRule where
  /-- A CR came somewhere earlier in the line. -/
  | lenient
  /-- The byte before it in the line is CR. -/
  | strict
  deriving DecidableEq, Repr

/-- What the splitter emits. -/
inductive Record where
  | frame (content : Decoded)
  /-- A shell line, its terminator included. -/
  | line (content : Decoded)
  /-- An end byte with no frame open. -/
  | strayEnd
  deriving DecidableEq, Repr

namespace Record

def text? : Record → Option String
  | .frame content | .line content => some content.text
  | .strayEnd => none

def replaced : Record → Nat
  | .frame content | .line content => content.replaced
  | .strayEnd => 0

end Record

/-- How many bytes of unfinished records are held. -/
structure Pending where
  frame : Nat
  line : Nat
  deriving DecidableEq, Repr

structure Splitter where
  rule : LineRule
  /-- The payload so far of the open frame, if one is open. -/
  frame : Option (List Byte)
  /-- The bytes so far of the unfinished shell line. -/
  line : List Byte
  /-- Whether a CR waits for its LF. -/
  armed : Bool
  deriving DecidableEq, Repr

namespace Splitter

def new (rule : LineRule) : Splitter where
  rule := rule
  frame := none
  line := []
  armed := false

def inFrame (s : Splitter) : Bool :=
  s.frame.isSome

def pending (s : Splitter) : Pending where
  frame := (s.frame.getD []).length
  line := s.line.length

/-- A byte of the shell channel: append it to the line, and complete the line
at an LF that a CR has armed. -/
def pushLine (s : Splitter) (b : Byte) : Splitter × Option Record :=
  let line := s.line ++ [b]
  if b = cr then ({ s with line, armed := true }, none)
  else if s.armed ∧ b = lf then
    ({ s with line := [], armed := false }, some (.line (decode line)))
  else match s.rule with
    | .lenient => ({ s with line }, none)
    | .strict => ({ s with line, armed := false }, none)

/-- Take one byte.  Inside a frame only the end byte has a meaning. -/
def push (s : Splitter) (b : Byte) : Splitter × Option Record :=
  match s.frame with
  | some payload =>
      if b = frameEnd then ({ s with frame := none }, some (.frame (decode payload)))
      else ({ s with frame := some (payload ++ [b]) }, none)
  | none =>
      if b = frameStart then ({ s with frame := some [] }, none)
      else if b = frameEnd then (s, some .strayEnd)
      else s.pushLine b

/-- The state after a run of bytes, and what each of them emitted. -/
def trace (s : Splitter) : List Byte → Splitter × List (Option Record)
  | [] => (s, [])
  | b :: rest =>
      let (next, emitted) := s.push b
      let (last, later) := next.trace rest
      (last, emitted :: later)

/-- Take a run of bytes: the state after it and the records it completes. -/
def feed (s : Splitter) (bytes : List Byte) : Splitter × List Record :=
  let (last, emitted) := s.trace bytes
  (last, emitted.filterMap id)

/-- Drop what is unfinished and report how much that was. -/
def discard (s : Splitter) : Splitter × Pending :=
  (new s.rule, s.pending)

/-- The state after a run of bytes. -/
def after (s : Splitter) (bytes : List Byte) : Splitter :=
  (s.feed bytes).1

/-- The records completed by a run of bytes. -/
def records (s : Splitter) (bytes : List Byte) : List Record :=
  (s.feed bytes).2

@[simp]
theorem after_nil (s : Splitter) : s.after [] = s := rfl

@[simp]
theorem records_nil (s : Splitter) : s.records [] = [] := rfl

@[simp]
theorem after_cons (s : Splitter) (b : Byte) (bytes : List Byte) :
    s.after (b :: bytes) = (s.push b).1.after bytes := rfl

@[simp]
theorem records_cons (s : Splitter) (b : Byte) (bytes : List Byte) :
    s.records (b :: bytes) = (s.push b).2.toList ++ (s.push b).1.records bytes := by
  simp only [records, feed, trace]
  cases (s.push b).2 <;> rfl

theorem after_append (s : Splitter) (left right : List Byte) :
    s.after (left ++ right) = (s.after left).after right := by
  induction left generalizing s with
  | nil => rfl
  | cons b left ih => simp [ih]

/-- Where a run is cut in two does not matter. -/
theorem records_append (s : Splitter) (left right : List Byte) :
    s.records (left ++ right) = s.records left ++ (s.after left).records right := by
  induction left generalizing s with
  | nil => rfl
  | cons b left ih => simp [ih]

theorem rule_pushLine (s : Splitter) (b : Byte) : (s.pushLine b).1.rule = s.rule := by
  unfold pushLine
  split
  · rfl
  · split
    · rfl
    · split <;> rfl

theorem rule_push (s : Splitter) (b : Byte) : (s.push b).1.rule = s.rule := by
  unfold push
  split
  · split <;> rfl
  · split
    · rfl
    · split
      · rfl
      · exact s.rule_pushLine b

@[simp]
theorem rule_after (s : Splitter) (bytes : List Byte) : (s.after bytes).rule = s.rule := by
  induction bytes generalizing s with
  | nil => rfl
  | cons b bytes ih => rw [after_cons, ih, rule_push]

end Splitter

end SerialConsole.Wire
