import SerialConsole.Proofs.Wire.Agreement
import SerialConsole.Proofs.Wire.Framing

/-!
# Recovery from damage

A splitter that has lost a part of the stream, or was started in the middle of
it, takes payload for shell bytes and shell bytes for payload.  It finds its way
back by itself.  The next end byte settles where frames begin and end, whatever
was believed before; from then on the first CR LF of the shell channel settles
where its lines begin, and nothing of the damage is left.
-/

namespace SerialConsole.Wire

/-- A stream that ends outside frames if it starts outside them. -/
def EndsOutside (stream : List Byte) : Prop :=
  openPayload? (partsOf stream) = none

/-- A stream of whole frames and stray ends alone. -/
def WithoutShell (stream : List Byte) : Prop :=
  EndsOutside stream ∧ shellOf (partsOf stream) = []

instance (stream : List Byte) : Decidable (EndsOutside stream) :=
  inferInstanceAs (Decidable (_ = _))

instance (stream : List Byte) : Decidable (WithoutShell stream) :=
  inferInstanceAs (Decidable (_ ∧ _))

/-! ### A stream that starts outside frames -/

namespace Splitter

variable {s : Splitter} (hframe : s.frame = none)
include hframe

/-- The open frame is the one that the stream ends in. -/
theorem frame_after_of_outside (stream : List Byte) :
    (s.after stream).frame = openPayload? (partsOf stream) := by
  induction stream using stream_induction generalizing s with
  | nil => rw [partsOf_nil, after_nil, hframe, openPayload?]
  | openFrame payload hpayload =>
      rw [partsOf_openFrame hpayload, after_eq_trace, trace_openFrame hframe hpayload, openPayload?]
  | frame payload later hpayload ih =>
      rw [partsOf_frame hpayload, after_append, after_eq_trace s,
        trace_encodeFrame hframe hpayload, openPayload?]
      exact ih hframe
  | strayEnd later ih =>
      rw [partsOf_strayEnd, after_cons, push_frameEnd_of_outside hframe, openPayload?]
      exact ih hframe
  | shell b later hstart hend ih =>
      rw [partsOf_shell hstart hend, after_cons, push_shell_of_outside hframe hstart hend,
        openPayload?]
      exact ih ((s.frame_pushLine b).trans hframe)

/-- Frames and stray ends leave everything as it was. -/
theorem after_of_withoutShell {stream : List Byte} (hstream : WithoutShell stream) :
    s.after stream = s := by
  obtain ⟨houtside, hshell⟩ := hstream
  rw [EndsOutside] at houtside
  induction stream using stream_induction with
  | nil => rfl
  | openFrame payload hpayload =>
      rw [partsOf_openFrame hpayload] at houtside
      cases houtside
  | frame payload later hpayload ih =>
      rw [partsOf_frame hpayload] at houtside hshell
      rw [after_append, after_eq_trace s, trace_encodeFrame hframe hpayload]
      exact ih houtside hshell
  | strayEnd later ih =>
      rw [partsOf_strayEnd] at houtside hshell
      rw [after_cons, push_frameEnd_of_outside hframe]
      exact ih houtside hshell
  | shell b later hstart hend ih =>
      rw [partsOf_shell hstart hend] at hshell
      cases hshell

/-- A CR arms the LF that is next on the shell channel, under either rule, and
that LF leaves a fresh splitter behind. -/
theorem after_terminator {between : List Byte} (hbetween : WithoutShell between) :
    s.after (cr :: between ++ [lf]) = new s.rule := by
  let armed : Splitter := { s with line := s.line ++ [cr], armed := true }
  have hcr : s.push cr = (armed, none) := push_shell_of_outside hframe (by decide) (by decide)
  have harmed : armed.frame = none := hframe
  have hkept : armed.after between = armed := after_of_withoutShell harmed hbetween
  have hlf : armed.push lf =
      ({ armed with line := [], armed := false }, some (.line (decode (armed.line ++ [lf])))) :=
    push_shell_of_outside harmed (by decide) (by decide)
  calc
    s.after (cr :: between ++ [lf])
        = ((s.push cr).1.after between).after [lf] := by
      rw [List.cons_append, after_cons, after_append]
    _ = (armed.push lf).1 := by rw [hcr, hkept, after_cons, after_nil]
    _ = new s.rule := by
      rw [hlf, new, ← hframe]

end Splitter

/-! ### Two splitters -/

/-- Two splitters that take the same bytes, from an end byte on. -/
structure Recovers (s t : Splitter) (front back : List Byte) : Prop where
  /-- The same frame is open, with the same payload so far, or none is. -/
  frame : (s.after (front ++ frameEnd :: back)).frame = (t.after (front ++ frameEnd :: back)).frame
  /-- Every byte behind the end byte completes the same frame or stray end. -/
  framing : framingAt ((s.after (front ++ [frameEnd])).trace back).2 =
    framingAt ((t.after (front ++ [frameEnd])).trace back).2
  /-- Behind a CR LF of the shell channel both are as good as new, and all that
  they emit is the same. -/
  all : ∀ before between later, back = before ++ (cr :: between ++ [lf]) ++ later →
    EndsOutside before → WithoutShell between →
    s.after (front ++ frameEnd :: (before ++ (cr :: between ++ [lf]))) = .new s.rule ∧
      t.after (front ++ frameEnd :: (before ++ (cr :: between ++ [lf]))) = .new s.rule ∧
      (s.after (front ++ frameEnd :: (before ++ (cr :: between ++ [lf])))).trace later =
        (t.after (front ++ frameEnd :: (before ++ (cr :: between ++ [lf])))).trace later

namespace Splitter

theorem frame_after_frameEnd (s : Splitter) (front : List Byte) :
    (s.after (front ++ [frameEnd])).frame = none := by
  rw [after_append]
  exact frame_push_frameEnd (s.after front)

theorem after_frameEnd (s : Splitter) (front back : List Byte) :
    s.after (front ++ frameEnd :: back) = (s.after (front ++ [frameEnd])).after back := by
  rw [← after_append, List.append_assoc, List.singleton_append]

/-- Whatever the splitter held, it is fresh behind an end byte and a CR LF. -/
theorem after_frameEnd_terminator (s : Splitter) (front : List Byte)
    {before between : List Byte} (hbefore : EndsOutside before)
    (hbetween : WithoutShell between) :
    s.after (front ++ frameEnd :: (before ++ (cr :: between ++ [lf]))) = new s.rule := by
  have houtside : ((s.after (front ++ [frameEnd])).after before).frame = none :=
    (frame_after_of_outside (s.frame_after_frameEnd front) before).trans hbefore
  rw [after_frameEnd, after_append, after_terminator houtside hbetween, rule_after, rule_after]

end Splitter

/-- Whatever two splitters with one rule hold, the next end byte brings their
framed channels together, and the CR LF after it all the rest. -/
theorem splitters_recover_from_damage {s t : Splitter} (hrule : s.rule = t.rule)
    (front back : List Byte) : Recovers s t front back := by
  have hframe : (s.after (front ++ [frameEnd])).frame = (t.after (front ++ [frameEnd])).frame := by
    rw [s.frame_after_frameEnd, t.frame_after_frameEnd]
  obtain ⟨hlast, hframing⟩ := Splitter.framing_trace hframe back
  constructor
  case frame => rw [s.after_frameEnd, t.after_frameEnd, hlast]
  case framing => exact hframing
  case all =>
    intro before between later _ hbefore hbetween
    have hs := s.after_frameEnd_terminator front hbefore hbetween
    have ht := t.after_frameEnd_terminator front hbefore hbetween
    rw [← hrule] at ht
    exact ⟨hs, ht, by rw [hs, ht]⟩

/-- One splitter has lost the front of the stream, and takes an end byte for a
stray one where the other closes a frame; a frame stands between CR and LF. -/
theorem lost_front_is_made_up_for :
    ((Splitter.new .strict).after [0x61, cr, frameStart, 0x62]).rule =
        (Splitter.new .strict).rule ∧
      Recovers ((Splitter.new .strict).after [0x61, cr, frameStart, 0x62]) (.new .strict) [0x63]
        ([] ++ (cr :: encodeFrame [lf] ++ [lf]) ++ [0x64]) ∧
      ((Splitter.new .strict).after [0x61, cr, frameStart, 0x62]).after [0x63, frameEnd] ≠
        (Splitter.new .strict).after [0x63, frameEnd] ∧
      EndsOutside [] ∧ WithoutShell (encodeFrame [lf]) := by
  have hrule : ((Splitter.new .strict).after [0x61, cr, frameStart, 0x62]).rule =
      (Splitter.new .strict).rule := rfl
  exact ⟨hrule, splitters_recover_from_damage hrule _ _, by decide, by decide +kernel,
    by decide +kernel⟩

end SerialConsole.Wire
