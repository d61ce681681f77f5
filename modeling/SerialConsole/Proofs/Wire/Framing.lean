import SerialConsole.Wire.Splitter

/-!
# The framed channel, byte by byte

What a byte does to the framed channel is told by the open frame alone: neither
the line rule nor the unfinished line has a part in it.  Two splitters with the
same frame open, or with none, therefore stay together on the framed channel,
whatever becomes of their lines.
-/

namespace SerialConsole.Wire

/-- Whether the record belongs to the shell channel. -/
def Record.isLine : Record → Bool
  | line _ => true
  | frame _ | strayEnd => false

/-- The frames and stray ends among what bytes emitted, each at its byte. -/
def framingAt (emitted : List (Option Record)) : List (Option Record) :=
  emitted.map (Option.filter fun record => !record.isLine)

namespace Splitter

variable (s : Splitter) (b : Byte)

@[simp]
theorem frame_pushLine : (s.pushLine b).1.frame = s.frame := by
  unfold pushLine
  split
  · rfl
  · split
    · rfl
    · split <;> rfl

/-- A byte of the shell never completes a frame. -/
theorem filter_pushLine : (s.pushLine b).2.filter (fun record => !record.isLine) = none := by
  unfold pushLine
  split
  · rfl
  · split
    · rfl
    · split <;> rfl

variable {s} {b}

theorem push_frameEnd_of_outside (hframe : s.frame = none) :
    s.push frameEnd = (s, some .strayEnd) := by
  have hstart : frameEnd ≠ frameStart := by decide
  simp only [push, hframe, if_neg hstart, if_true]

theorem push_shell_of_outside (hframe : s.frame = none) (hstart : b ≠ frameStart)
    (hend : b ≠ frameEnd) : s.push b = s.pushLine b := by
  simp only [push, hframe, if_neg hstart, if_neg hend]

/-- An end byte leaves no frame open. -/
theorem frame_push_frameEnd (s : Splitter) : (s.push frameEnd).1.frame = none := by
  cases hframe : s.frame with
  | some payload => simp only [push, hframe, if_true]
  | none => rw [push_frameEnd_of_outside hframe, hframe]

variable {t : Splitter}

theorem framing_push (hframe : s.frame = t.frame) (b : Byte) :
    (s.push b).1.frame = (t.push b).1.frame ∧
      (s.push b).2.filter (fun record => !record.isLine) =
        (t.push b).2.filter (fun record => !record.isLine) := by
  cases hs : s.frame with
  | some payload =>
      have ht : t.frame = some payload := hframe ▸ hs
      simp only [push, hs, ht]
      by_cases hend : b = frameEnd
      · simp only [if_pos hend, and_self]
      · simp only [if_neg hend, and_self]
  | none =>
      have ht : t.frame = none := hframe ▸ hs
      simp only [push, hs, ht]
      by_cases hstart : b = frameStart
      · simp only [if_pos hstart, and_self]
      · by_cases hend : b = frameEnd
        · simp only [if_neg hstart, if_pos hend, hs, ht, and_self]
        · simp only [if_neg hstart, if_neg hend, frame_pushLine, filter_pushLine, hs, ht, and_self]

/-- The same open frame to begin with is the same open frame at the end, and the
same frames and stray ends on the way. -/
theorem framing_trace (hframe : s.frame = t.frame) (bytes : List Byte) :
    (s.after bytes).frame = (t.after bytes).frame ∧
      framingAt (s.trace bytes).2 = framingAt (t.trace bytes).2 := by
  induction bytes generalizing s t with
  | nil => exact ⟨hframe, rfl⟩
  | cons b bytes ih =>
      obtain ⟨hnext, hhere⟩ := framing_push hframe b
      obtain ⟨hlast, hthere⟩ := ih hnext
      refine ⟨hlast, ?_⟩
      calc
        framingAt (s.trace (b :: bytes)).2
            = (s.push b).2.filter (fun record => !record.isLine) ::
                framingAt ((s.push b).1.trace bytes).2 := rfl
        _ = (t.push b).2.filter (fun record => !record.isLine) ::
                framingAt ((t.push b).1.trace bytes).2 := by rw [hhere, hthere]

end Splitter

end SerialConsole.Wire
