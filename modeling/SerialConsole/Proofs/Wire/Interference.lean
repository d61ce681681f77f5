import Mathlib.Logic.Relation
import SerialConsole.Proofs.Wire.TwoChannels

/-!
# The two channels do not interfere

What one channel carries has no influence on what is made of the other.  Two
streams with the same shell bytes give the same lines, whatever frames stand
between those bytes; and a stream may be edited outside its frames, or split
under another rule, without a change to its frames and stray ends.
-/

namespace SerialConsole.Wire

open LineRule

/-- The frames and stray ends among records, in order. -/
def framingIn (records : List Record) : List Record :=
  records.filter fun
    | .frame _ | .strayEnd => true
    | .line _ => false

/-- What a part gives rise to on the framed channel. -/
def Part.framing? : Part → Option Record
  | frame payload => some (.frame (decode payload))
  | strayEnd => some .strayEnd
  | openFrame _ | shell _ => none

def framingOf (parts : List Part) : List Record :=
  parts.filterMap Part.framing?

/-- Bytes of the shell are put into a stream at a place outside its frames. -/
inductive ShellEdit : List Byte → List Byte → Prop where
  | insert (front inserted back : List Byte) (houtside : openPayload? (partsOf front) = none)
      (hstart : frameStart ∉ inserted) (hend : frameEnd ∉ inserted) :
      ShellEdit (front ++ back) (front ++ inserted ++ back)

/-- Each stream comes from the other by shell bytes put in and taken out at any
number of places outside frames. -/
def EditedOutside : List Byte → List Byte → Prop :=
  Relation.EqvGen ShellEdit

/-! ### The framed channel -/

theorem framingIn_emissions (rule : LineRule) (line : List Byte) (parts : List Part) :
    framingIn ((emissions rule line parts).filterMap id) = framingOf parts := by
  induction parts generalizing line with
  | nil => rfl
  | cons part later ih =>
      cases part with
      | frame payload =>
          rw [records_emissions_frame]
          exact congrArg (.frame (decode payload) :: ·) (ih line)
      | openFrame payload =>
          rw [records_emissions_openFrame]
          exact ih line
      | strayEnd =>
          rw [records_emissions_strayEnd]
          exact congrArg (.strayEnd :: ·) (ih line)
      | shell b =>
          by_cases hcomplete : rule.Completes (line ++ [b])
          · rw [records_emissions_of_completes later hcomplete]
            exact ih []
          · rw [records_emissions_of_not_completes later hcomplete]
            exact ih (line ++ [b])

theorem framingOf_map_shell (bytes : List Byte) : framingOf (bytes.map .shell) = [] := by
  rw [framingOf, List.filterMap_map]
  exact List.filterMap_eq_nil_iff.mpr fun b hb => rfl

theorem openPayload?_append (parts later : List Part) :
    openPayload? (parts ++ later) = (openPayload? parts).or (openPayload? later) := by
  induction parts with
  | nil => rfl
  | cons part parts ih =>
      cases part with
      | openFrame payload => rfl
      | frame payload => exact ih
      | strayEnd => exact ih
      | shell b => exact ih

theorem openPayload?_map_shell (bytes : List Byte) : openPayload? (bytes.map .shell) = none := by
  induction bytes with
  | nil => rfl
  | cons b bytes ih => exact ih

theorem ShellEdit.framing_eq {left right : List Byte} (hedit : ShellEdit left right) :
    framingOf (partsOf left) = framingOf (partsOf right) ∧
      openPayload? (partsOf left) = openPayload? (partsOf right) := by
  obtain ⟨front, inserted, back, houtside, hstart, hend⟩ := hedit
  have hinserted : partsOf (front ++ inserted ++ back) =
      partsOf front ++ (inserted.map .shell ++ partsOf back) := by
    have hnone := openPayload?_map_shell inserted
    rw [← partsOf_of_not_mem hstart hend] at hnone
    rw [List.append_assoc, partsOf_append houtside, partsOf_append hnone,
      partsOf_of_not_mem hstart hend]
  rw [hinserted, partsOf_append houtside]
  constructor
  · simp only [framingOf, List.filterMap_append]
    rw [← framingOf, ← framingOf, ← framingOf, framingOf_map_shell, List.nil_append]
  · simp only [openPayload?_append, openPayload?_map_shell, Option.none_or]

/-- However often a stream is edited outside its frames, they stay as they
are. -/
theorem EditedOutside.framing_eq {left right : List Byte} (hedited : EditedOutside left right) :
    framingOf (partsOf left) = framingOf (partsOf right) ∧
      openPayload? (partsOf left) = openPayload? (partsOf right) := by
  induction hedited with
  | rel left right hedit => exact hedit.framing_eq
  | refl stream => exact ⟨rfl, rfl⟩
  | symm left right _ ih => exact ⟨ih.1.symm, ih.2.symm⟩
  | trans left middle right _ _ ih later => exact ⟨ih.1.trans later.1, ih.2.trans later.2⟩

/-! ### Two runs -/

/-- Two runs agree on the shell channel: in the lines emitted, in the
unfinished one and in whether a CR waits for its LF. -/
structure SameShell (s t : Splitter) (emitted others : List Record) : Prop where
  lines : linesIn emitted = linesIn others
  line : s.line = t.line
  pending : s.pending.line = t.pending.line
  armed : s.armed = t.armed

/-- Two runs agree on the framed channel: in the frames and stray ends emitted
and in the frame that is open. -/
structure SameFraming (s t : Splitter) (emitted others : List Record) : Prop where
  framing : framingIn emitted = framingIn others
  frame : s.frame = t.frame
  inFrame : s.inFrame = t.inFrame
  pending : s.pending.frame = t.pending.frame

/-- Whatever else two streams carry, the same shell bytes make the same of the
shell channel, under either rule; and neither shell bytes put in or taken out
between frames nor the rule make a difference to the framed channel. -/
theorem channels_do_not_interfere (rule other : LineRule) (left right : List Byte) :
    (shellOf (partsOf left) = shellOf (partsOf right) →
        SameShell ((Splitter.new rule).after left) ((Splitter.new rule).after right)
          ((Splitter.new rule).records left) ((Splitter.new rule).records right)) ∧
      (EditedOutside left right →
        SameFraming ((Splitter.new rule).after left) ((Splitter.new other).after right)
          ((Splitter.new rule).records left) ((Splitter.new other).records right)) := by
  simp only [Splitter.after_new, Splitter.records_new]
  constructor
  · intro hshell
    refine ⟨?_, ?_, ?_, ?_⟩
    · rw [linesIn_emissions, linesIn_emissions, hshell]
    · rw [Splitter.line_holding, Splitter.line_holding, hshell]
    · rw [Splitter.pending, Splitter.pending, Splitter.line_holding, Splitter.line_holding, hshell]
    · rw [Splitter.armed_holding, Splitter.armed_holding, hshell]
  · intro hedited
    obtain ⟨hframing, hopen⟩ := hedited.framing_eq
    refine ⟨?_, ?_, ?_, ?_⟩
    · rw [framingIn_emissions, framingIn_emissions, hframing]
    · rw [Splitter.frame_holding, Splitter.frame_holding, hopen]
    · rw [Splitter.inFrame, Splitter.inFrame, Splitter.frame_holding, Splitter.frame_holding, hopen]
    · rw [Splitter.pending, Splitter.pending, Splitter.frame_holding, Splitter.frame_holding, hopen]

/-- A frame, a stray end and the start of another frame stand between CR and LF;
then shell bytes are put before a frame and behind it, under the other rule. -/
theorem frames_between_cr_and_lf_do_not_interfere :
    shellOf (partsOf [0x61, cr, lf]) =
        shellOf (partsOf ([0x61, cr] ++ (encodeFrame [0x62, lf] ++ [frameEnd, lf, frameStart]))) ∧
      EditedOutside (encodeFrame [0x62] ++ [frameStart, 0x63])
        ([0x61, cr] ++ encodeFrame [0x62] ++ [lf] ++ [frameStart, 0x63]) ∧
      SameShell ((Splitter.new .strict).after [0x61, cr, lf])
        ((Splitter.new .strict).after
          ([0x61, cr] ++ (encodeFrame [0x62, lf] ++ [frameEnd, lf, frameStart])))
        ((Splitter.new .strict).records [0x61, cr, lf])
        ((Splitter.new .strict).records
          ([0x61, cr] ++ (encodeFrame [0x62, lf] ++ [frameEnd, lf, frameStart]))) ∧
      SameFraming ((Splitter.new .strict).after (encodeFrame [0x62] ++ [frameStart, 0x63]))
        ((Splitter.new .lenient).after
          ([0x61, cr] ++ encodeFrame [0x62] ++ [lf] ++ [frameStart, 0x63]))
        ((Splitter.new .strict).records (encodeFrame [0x62] ++ [frameStart, 0x63]))
        ((Splitter.new .lenient).records
          ([0x61, cr] ++ encodeFrame [0x62] ++ [lf] ++ [frameStart, 0x63])) := by
  have hshell : shellOf (partsOf [0x61, cr, lf]) =
      shellOf (partsOf ([0x61, cr] ++ (encodeFrame [0x62, lf] ++ [frameEnd, lf, frameStart]))) := by
    decide +kernel
  have hbefore : ShellEdit (encodeFrame [0x62] ++ [frameStart, 0x63])
      ([0x61, cr] ++ (encodeFrame [0x62] ++ [frameStart, 0x63])) :=
    .insert [] [0x61, cr] (encodeFrame [0x62] ++ [frameStart, 0x63]) (by decide +kernel)
      (by decide) (by decide)
  have hbehind : ShellEdit ([0x61, cr] ++ encodeFrame [0x62] ++ [frameStart, 0x63])
      ([0x61, cr] ++ encodeFrame [0x62] ++ [lf] ++ [frameStart, 0x63]) :=
    .insert ([0x61, cr] ++ encodeFrame [0x62]) [lf] [frameStart, 0x63] (by decide +kernel)
      (by decide) (by decide)
  have hedited : EditedOutside (encodeFrame [0x62] ++ [frameStart, 0x63])
      ([0x61, cr] ++ encodeFrame [0x62] ++ [lf] ++ [frameStart, 0x63]) :=
    .trans _ _ _ (.rel _ _ hbefore) (.rel _ _ hbehind)
  exact ⟨hshell, hedited, (channels_do_not_interfere .strict .lenient _ _).1 hshell,
    (channels_do_not_interfere .strict .lenient _ _).2 hedited⟩

end SerialConsole.Wire
