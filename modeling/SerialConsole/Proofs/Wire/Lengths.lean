import Mathlib.Algebra.GroupWithZero.Nat
import SerialConsole.Wire.Splitter

/-!
# No byte is lost

Every byte that a splitter takes ends up in a record or is held back for one:
each record is as long on the wire as the bytes it was made of.
-/

namespace SerialConsole.Wire

@[simp]
theorem length_text_decode (raw : List Byte) : (decode raw).text.length = raw.length := by
  rw [← String.length_toList, toList_text_decode, List.length_map]

/-- How many bytes of the wire a record was made of. -/
def Record.wireLength : Record → Nat
  | .frame content => content.text.length + 2
  | .line content => content.text.length
  | .strayEnd => 1

namespace Splitter

/-- How many bytes are held back: those of the open frame, its start byte too,
and those of the unfinished line. -/
def held (s : Splitter) : Nat :=
  s.pending.frame + s.pending.line + if s.inFrame then 1 else 0

theorem held_pushLine {s : Splitter} (hframe : s.frame = none) (b : Byte) :
    ((s.pushLine b).2.toList.map Record.wireLength).sum + (s.pushLine b).1.held =
      s.held + 1 := by
  unfold pushLine
  split
  · simp [held, pending, inFrame, hframe]
  · split
    · simp [held, pending, inFrame, hframe, Record.wireLength]
    · split
      · simp [held, pending, inFrame, hframe]
      · simp [held, pending, inFrame, hframe]

theorem held_push (s : Splitter) (b : Byte) :
    ((s.push b).2.toList.map Record.wireLength).sum + (s.push b).1.held = s.held + 1 := by
  cases hframe : s.frame with
  | some payload =>
      simp only [push, hframe]
      split
      · simp [held, pending, inFrame, hframe, Record.wireLength]
        omega
      · simp [held, pending, inFrame, hframe]
        omega
  | none =>
      simp only [push, hframe]
      split
      · simp [held, pending, inFrame, hframe]
      · split
        · simp [Record.wireLength, Nat.add_comm]
        · exact held_pushLine hframe b

/-- What is taken is in the records or held. -/
theorem sum_wireLength_records (s : Splitter) (bytes : List Byte) :
    ((s.records bytes).map Record.wireLength).sum + (s.after bytes).held =
      s.held + bytes.length := by
  induction bytes generalizing s with
  | nil => simp
  | cons b bytes ih =>
      have hpush := s.held_push b
      have hlater := ih (s.push b).1
      rw [records_cons, after_cons, List.map_append, List.sum_append, List.length_cons]
      omega

end Splitter

end SerialConsole.Wire
