import SerialConsole.Proofs.Wire.Registers

/-!
# The representation of a splitter

Everything that is done to a splitter keeps its buffers and flags in the relation
that the rest of its behaviour rests on, and every line that it emits has the
form that its rule asks for.
-/

namespace SerialConsole.Wire

open LineRule

/-- What holds of the buffers and the flag of a splitter. -/
structure WellKept (rule : LineRule) (s : Splitter) : Prop where
  sameRule : s.rule = rule
  payload : ∀ payload, s.frame = some payload → frameEnd ∉ payload
  line : frameStart ∉ s.line ∧ frameEnd ∉ s.line
  /-- The lenient rule is armed by a CR anywhere in the line, and no LF can follow
  it there. -/
  lenient : rule = .lenient → (s.armed = true ↔ cr ∈ s.line) ∧
    ∀ front back, s.line = front ++ cr :: back → lf ∉ back
  /-- The strict rule is armed by a CR at the end of the line. -/
  strict : rule = .strict → (s.armed = true ↔ s.line.getLast? = some cr) ∧
    ¬terminator <:+: s.line
  unfinished : ∀ front, front <+: s.line → ¬rule.Completes front
  /-- Once emptied, it answers whatever comes as a new one does. -/
  renewed : ∀ bytes, s.discard.1.trace bytes = (Splitter.new rule).trace bytes

/-- What holds of a line that was emitted, and of the bytes it was made of. -/
structure WholeLine (rule : LineRule) (content : Decoded) (raw : List Byte) : Prop where
  content : content = decode raw
  form : rule.IsLine raw
  noSentinel : frameStart ∉ raw ∧ frameEnd ∉ raw
  /-- It could not have been cut off earlier. -/
  first : ∀ front, front <+: raw → front ≠ raw → ¬rule.Completes front

/-- What holds of registers, next to the splitter that they stand for and with
all records that either has emitted. -/
structure Mirrors (kept : Registers × List Record) (told : Splitter × List Record) : Prop where
  tidy : kept.1.inFrame = false → kept.1.frame = []
  splitter : kept.1.splitter = told.1
  records : kept.2 = told.2
  pending : kept.1.pending = told.1.pending

theorem Splitter.Consistent.wellKept {s : Splitter} (hs : s.Consistent) : WellKept s.rule s where
  sameRule := rfl
  payload := hs.payload
  line := ⟨hs.noStart, hs.noEnd⟩
  lenient := by
    intro hrule
    have harmed := hs.armed
    have hline := hs.unfinished
    rw [hrule] at harmed hline
    exact ⟨by rw [harmed, arms_lenient_iff], unfinished_lenient_iff.mp hline⟩
  strict := by
    intro hrule
    have harmed := hs.armed
    have hline := hs.unfinished
    rw [hrule] at harmed hline
    exact ⟨by rw [harmed, arms_strict_iff], unfinished_strict_iff.mp hline⟩
  unfinished := hs.unfinished
  renewed := fun _ => rfl

theorem Record.Whole.wholeLine {rule : LineRule} {content : Decoded}
    (hwhole : (Record.line content).Whole rule) : ∃ raw, WholeLine rule content raw := by
  cases hwhole with
  | @line raw hcomplete hfirst hstart hend =>
      exact ⟨raw,
        { content := rfl
          form := isLine_of_completes hcomplete hfirst
          noSentinel := ⟨hstart, hend⟩
          first := fun front hfront hproper =>
            not_completes_of_prefix hfirst hfront hproper }⟩

theorem mirrors_uses (rule : LineRule) (uses : List Use) :
    Mirrors ((Registers.new rule).uses uses) ((Splitter.new rule).uses uses) := by
  have hnew : (Registers.new rule).Tidy := fun _ => rfl
  have htidy := hnew.uses uses
  have htold : (Splitter.new rule).uses uses =
      (((Registers.new rule).uses uses).1.splitter, ((Registers.new rule).uses uses).2) :=
    (Registers.new rule).splitter_uses uses
  rw [htold]
  exact { tidy := htidy, splitter := rfl, records := rfl, pending := htidy.pending.symm }

/-- However a splitter is used, its buffers stay free of the bytes that they
cannot hold, its flag tells what its line tells, and the lines that it emits are
lines of its rule.  Kept in registers, it leaves no payload behind. -/
theorem splitter_keeps_its_representation (rule : LineRule) (uses : List Use) :
    WellKept rule ((Splitter.new rule).uses uses).1 ∧
      (∀ content, .line content ∈ ((Splitter.new rule).uses uses).2 →
        ∃ raw, WholeLine rule content raw) ∧
      Mirrors ((Registers.new rule).uses uses) ((Splitter.new rule).uses uses) := by
  obtain ⟨hlast, hrule, hwhole⟩ := (Splitter.consistent_new rule).uses uses
  have hkept := hlast.wellKept
  rw [hrule] at hkept
  exact ⟨hkept, fun content hline => (hwhole _ hline).wholeLine, mirrors_uses rule uses⟩

end SerialConsole.Wire
