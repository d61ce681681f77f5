import SerialConsole.Proofs.Wire.Lines
import SerialConsole.Proofs.Wire.Parts

/-!
# The splitter agrees with the reference

A splitter looks at one byte at a time; the reference cuts the whole stream into
parts and the shell channel into lines.  This module shows that they agree at
every byte of every stream, from any state between two frames.
-/

namespace SerialConsole.Wire

open LineRule

/-! ### The states of a splitter -/

namespace Splitter

/-- The splitter that holds a payload and an unfinished line.  Whether a CR
waits for its LF can be read off the line. -/
def holding (rule : LineRule) (frame : Option (List Byte)) (line : List Byte) : Splitter where
  rule := rule
  frame := frame
  line := line
  armed := rule.arms line

section Fields

variable (rule : LineRule) (frame : Option (List Byte)) (line : List Byte)

@[simp]
theorem rule_holding : (holding rule frame line).rule = rule := rfl

@[simp]
theorem frame_holding : (holding rule frame line).frame = frame := rfl

@[simp]
theorem line_holding : (holding rule frame line).line = line := rfl

@[simp]
theorem armed_holding : (holding rule frame line).armed = rule.arms line := rfl

end Fields

theorem new_eq_holding (rule : LineRule) : new rule = holding rule none [] := by
  simp [new, holding]

section Push

variable (rule : LineRule) (line : List Byte)

theorem push_strayEnd_holding :
    (holding rule none line).push frameEnd = (holding rule none line, some .strayEnd) := rfl

variable {rule line}

/-- The flag does what the bytes of the line say. -/
theorem push_shell_holding {b : Byte} (hstart : b ≠ frameStart) (hend : b ≠ frameEnd) :
    (holding rule none line).push b =
      if rule.Completes (line ++ [b]) then
        (holding rule none [], some (.line (decode (line ++ [b]))))
      else (holding rule none (line ++ [b]), none) := by
  rw [push, frame_holding]
  simp only [if_neg hstart, if_neg hend, completes_append_singleton]
  unfold pushLine
  by_cases hcr : b = cr
  · have hlf : ¬(b = lf ∧ rule.arms line = true) := by
      rintro ⟨hsame, -⟩
      exact absurd (hcr ▸ hsame) (by decide)
    rw [if_pos hcr, if_neg hlf, hcr]
    simp [holding, arms_append_cr]
  · rw [if_neg hcr]
    by_cases hcomplete : b = lf ∧ rule.arms line = true
    · have harmed : (holding rule none line).armed = true ∧ b = lf := hcomplete.symm
      rw [if_pos hcomplete, if_pos harmed]
      simp [holding]
    · have harmed : ¬((holding rule none line).armed = true ∧ b = lf) :=
        mt And.symm hcomplete
      rw [if_neg hcomplete, if_neg harmed]
      cases rule <;> simp [holding, arms, hcr, Ne.symm hcr]

end Push

theorem trace_cons (s : Splitter) (b : Byte) (rest : List Byte) :
    s.trace (b :: rest) =
      (((s.push b).1.trace rest).1, (s.push b).2 :: ((s.push b).1.trace rest).2) := rfl

theorem trace_append (s : Splitter) (left right : List Byte) :
    s.trace (left ++ right) =
      (((s.trace left).1.trace right).1,
        (s.trace left).2 ++ ((s.trace left).1.trace right).2) := by
  induction left generalizing s with
  | nil => rfl
  | cons b left ih => simp [trace_cons, ih]

theorem after_eq_trace (s : Splitter) (bytes : List Byte) :
    s.after bytes = (s.trace bytes).1 := rfl

theorem records_eq_trace (s : Splitter) (bytes : List Byte) :
    s.records bytes = (s.trace bytes).2.filterMap id := rfl

/-- Inside a frame bytes pile up without a record, and nothing else changes. -/
theorem trace_payload (s : Splitter) (held : List Byte) {payload : List Byte}
    (hpayload : frameEnd ∉ payload) :
    { s with frame := some held }.trace payload =
      ({ s with frame := some (held ++ payload) }, List.replicate payload.length none) := by
  induction payload generalizing held with
  | nil => simp [trace]
  | cons b payload ih =>
      have hb : b ≠ frameEnd := fun hend => hpayload (hend ▸ List.mem_cons_self)
      have hrest : frameEnd ∉ payload := fun hmem => hpayload (List.mem_cons_of_mem b hmem)
      have hpush : { s with frame := some held }.push b =
          ({ s with frame := some (held ++ [b]) }, none) := by
        simp [push, hb]
      rw [trace_cons, hpush, ih (held ++ [b]) hrest]
      simp [List.replicate_succ]

section BetweenFrames

variable {s : Splitter} (hframe : s.frame = none) {payload : List Byte}
  (hpayload : frameEnd ∉ payload)
include hframe hpayload

theorem trace_openFrame :
    s.trace (frameStart :: payload) =
      ({ s with frame := some payload }, List.replicate (payload.length + 1) none) := by
  have hpush : s.push frameStart = ({ s with frame := some [] }, none) := by
    simp [push, hframe]
  rw [trace_cons, hpush, trace_payload s [] hpayload]
  simp [List.replicate_succ]

/-- A frame comes as one record, at its end byte, and leaves the rest alone. -/
theorem trace_encodeFrame :
    s.trace (encodeFrame payload) =
      (s, List.replicate (payload.length + 1) none ++ [some (.frame (decode payload))]) := by
  have hpush : { s with frame := some payload }.push frameEnd =
      (s, some (.frame (decode payload))) := by
    simp [push, ← hframe]
  rw [encodeFrame, trace_append, trace_openFrame hframe hpayload, trace_cons, hpush]
  rfl

end BetweenFrames

end Splitter

/-! ### What each byte emits -/

/-- What each byte of the parts emits, byte by byte, where the shell line begun
before is given. -/
def emissions (rule : LineRule) (line : List Byte) : List Part → List (Option Record)
  | [] => []
  | .frame payload :: later =>
      List.replicate (payload.length + 1) none ++ [some (.frame (decode payload))] ++
        emissions rule line later
  | .openFrame payload :: later =>
      List.replicate (payload.length + 1) none ++ emissions rule line later
  | .strayEnd :: later => some .strayEnd :: emissions rule line later
  | .shell b :: later =>
      if rule.Completes (line ++ [b]) then
        some (.line (decode (line ++ [b]))) :: emissions rule [] later
      else none :: emissions rule (line ++ [b]) later

/-- The splitter and the reference agree, whatever line was begun before. -/
theorem Splitter.trace_holding (rule : LineRule) (line stream : List Byte) :
    (holding rule none line).trace stream =
      (holding rule (openPayload? (partsOf stream))
          (rule.cut line (shellOf (partsOf stream))).2,
        emissions rule line (partsOf stream)) := by
  induction stream using stream_induction generalizing line with
  | nil => simp [trace, openPayload?, cut, emissions]
  | openFrame payload hpayload =>
      rw [partsOf_openFrame hpayload, trace_openFrame rfl hpayload]
      simp [openPayload?, cut, emissions, holding]
  | frame payload later hpayload ih =>
      rw [partsOf_frame hpayload, trace_append, trace_encodeFrame rfl hpayload, ih line]
      rfl
  | strayEnd later ih =>
      rw [partsOf_strayEnd, trace_cons, push_strayEnd_holding, ih line]
      rfl
  | shell b later hstart hend ih =>
      rw [partsOf_shell hstart hend, trace_cons, push_shell_holding hstart hend]
      have hshell : shellOf (.shell b :: partsOf later) = b :: shellOf (partsOf later) := rfl
      by_cases hcomplete : rule.Completes (line ++ [b])
      · rw [if_pos hcomplete, ih [], hshell, cut_cons_of_completes hcomplete]
        simp only [emissions, if_pos hcomplete, openPayload?]
      · rw [if_neg hcomplete, ih (line ++ [b]), hshell, cut_cons_of_not_completes hcomplete]
        simp only [emissions, if_neg hcomplete, openPayload?]

/-! ### A fresh splitter -/

namespace Splitter

theorem after_new (rule : LineRule) (stream : List Byte) :
    (new rule).after stream =
      holding rule (openPayload? (partsOf stream)) (rule.cut [] (shellOf (partsOf stream))).2 := by
  rw [after_eq_trace, new_eq_holding, trace_holding]

theorem records_new (rule : LineRule) (stream : List Byte) :
    (new rule).records stream = (emissions rule [] (partsOf stream)).filterMap id := by
  rw [records_eq_trace, new_eq_holding, trace_holding]

end Splitter

end SerialConsole.Wire
