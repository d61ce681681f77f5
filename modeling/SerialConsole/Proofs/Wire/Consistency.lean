import SerialConsole.Proofs.Wire.Agreement
import SerialConsole.Proofs.Wire.LineForms

/-!
# What a splitter keeps

The flag of a splitter is history: it was set by a byte that may lie far back,
and frames have passed since.  It can be read off the unfinished line all the
same, in every state that a splitter comes to by taking bytes and by being
emptied.  What is held is never a whole record, and what is emitted always is.
-/

namespace SerialConsole.Wire

open LineRule

/-- What a splitter can emit: a payload without an end byte, or shell bytes up
to the first LF that a CR has armed, or a stray end. -/
inductive Record.Whole (rule : LineRule) : Record → Prop where
  | frame {payload : List Byte} (hpayload : frameEnd ∉ payload) :
      Whole rule (.frame (decode payload))
  | line {raw : List Byte} (hcomplete : rule.Completes raw)
      (hfirst : rule.Unfinished raw.dropLast) (hstart : frameStart ∉ raw)
      (hend : frameEnd ∉ raw) : Whole rule (.line (decode raw))
  | strayEnd : Whole rule .strayEnd

/-- What can be done to a splitter. -/
inductive Use where
  | push (b : Byte)
  | feed (bytes : List Byte)
  | discard
  deriving DecidableEq, Repr

namespace Splitter

def use (s : Splitter) : Use → Splitter × List Record
  | .push b => ((s.push b).1, (s.push b).2.toList)
  | .feed bytes => s.feed bytes
  | .discard => (s.discard.1, [])

/-- The splitter after any number of uses, and all records that these emit. -/
def uses (s : Splitter) : List Use → Splitter × List Record
  | [] => (s, [])
  | use :: later =>
      let (next, records) := s.use use
      let (last, others) := next.uses later
      (last, records ++ others)

/-- What the parts of a splitter's state have to do with each other. -/
structure Consistent (s : Splitter) : Prop where
  payload : ∀ payload, s.frame = some payload → frameEnd ∉ payload
  noStart : frameStart ∉ s.line
  noEnd : frameEnd ∉ s.line
  armed : s.armed = s.rule.arms s.line
  unfinished : s.rule.Unfinished s.line

theorem consistent_new (rule : LineRule) : (new rule).Consistent where
  payload := by rintro payload ⟨⟩
  noStart := List.not_mem_nil
  noEnd := List.not_mem_nil
  armed := rule.arms_nil.symm
  unfinished := rule.unfinished_nil

variable {s : Splitter}

theorem Consistent.eq_holding (hs : s.Consistent) : s = holding s.rule s.frame s.line := by
  rw [holding, ← hs.armed]

/-- A byte of the shell makes the line longer, or it completes it. -/
theorem Consistent.push_shell (hs : s.Consistent) (hframe : s.frame = none) {b : Byte}
    (hstart : b ≠ frameStart) (hend : b ≠ frameEnd) :
    s.push b =
      if s.rule.Completes (s.line ++ [b]) then
        (new s.rule, some (.line (decode (s.line ++ [b]))))
      else (holding s.rule none (s.line ++ [b]), none) := by
  have hholding := hs.eq_holding
  rw [hframe] at hholding
  rw [hholding, push_shell_holding hstart hend, new_eq_holding, rule_holding, line_holding]

/-- One byte keeps the state consistent, and what it completes is whole. -/
theorem Consistent.push (hs : s.Consistent) (b : Byte) :
    (s.push b).1.Consistent ∧ ∀ record ∈ (s.push b).2, record.Whole s.rule := by
  cases hframe : s.frame with
  | some payload =>
      have hpayload := hs.payload payload hframe
      by_cases hend : b = frameEnd
      · have hpush : s.push b = ({ s with frame := none }, some (.frame (decode payload))) := by
          simp only [Splitter.push, hframe, if_pos hend]
        rw [hpush]
        refine ⟨{ hs with payload := by rintro other ⟨⟩ }, ?_⟩
        rintro record ⟨⟩
        exact .frame hpayload
      · have hpush : s.push b = ({ s with frame := some (payload ++ [b]) }, none) := by
          simp only [Splitter.push, hframe, if_neg hend]
        rw [hpush]
        refine ⟨{ hs with payload := ?_ }, by rintro record ⟨⟩⟩
        rintro longer ⟨⟩
        rw [List.mem_append, List.mem_singleton, not_or]
        exact ⟨hpayload, Ne.symm hend⟩
  | none =>
      by_cases hstart : b = frameStart
      · have hpush : s.push b = ({ s with frame := some [] }, none) := by
          simp only [Splitter.push, hframe, if_pos hstart]
        rw [hpush]
        refine ⟨{ hs with payload := ?_ }, by rintro record ⟨⟩⟩
        rintro payload ⟨⟩
        exact List.not_mem_nil
      · by_cases hend : b = frameEnd
        · have hpush : s.push b = (s, some .strayEnd) := by
            simp only [Splitter.push, hframe, if_neg hstart, if_pos hend]
          rw [hpush]
          refine ⟨hs, ?_⟩
          rintro record ⟨⟩
          exact .strayEnd
        · have hnoStart : frameStart ∉ s.line ++ [b] := by
            rw [List.mem_append, List.mem_singleton, not_or]
            exact ⟨hs.noStart, Ne.symm hstart⟩
          have hnoEnd : frameEnd ∉ s.line ++ [b] := by
            rw [List.mem_append, List.mem_singleton, not_or]
            exact ⟨hs.noEnd, Ne.symm hend⟩
          rw [hs.push_shell hframe hstart hend]
          by_cases hcomplete : s.rule.Completes (s.line ++ [b])
          · rw [if_pos hcomplete]
            refine ⟨consistent_new s.rule, ?_⟩
            rintro record ⟨⟩
            refine .line hcomplete ?_ hnoStart hnoEnd
            rw [List.dropLast_concat]
            exact hs.unfinished
          · rw [if_neg hcomplete]
            exact
              ⟨{ payload := by rintro payload ⟨⟩
                 noStart := hnoStart
                 noEnd := hnoEnd
                 armed := rfl
                 unfinished := hs.unfinished.append_singleton hcomplete },
                by rintro record ⟨⟩⟩

/-- So does any run of bytes. -/
theorem Consistent.feed (hs : s.Consistent) (bytes : List Byte) :
    (s.after bytes).Consistent ∧ ∀ record ∈ s.records bytes, record.Whole s.rule := by
  induction bytes generalizing s with
  | nil => exact ⟨hs, List.forall_mem_nil _⟩
  | cons b bytes ih =>
      obtain ⟨hnext, hhere⟩ := hs.push b
      obtain ⟨hlast, hthere⟩ := ih hnext
      refine ⟨hlast, ?_⟩
      intro record hrecord
      rw [records_cons, List.mem_append, Option.mem_toList] at hrecord
      rcases hrecord with hrecord | hrecord
      · exact hhere record hrecord
      · rw [← s.rule_push b]
        exact hthere record hrecord

theorem rule_use (s : Splitter) (use : Use) : (s.use use).1.rule = s.rule := by
  cases use with
  | push b => exact s.rule_push b
  | feed bytes => exact s.rule_after bytes
  | discard => rfl

theorem Consistent.use (hs : s.Consistent) (use : Use) :
    (s.use use).1.Consistent ∧ ∀ record ∈ (s.use use).2, record.Whole s.rule := by
  cases use with
  | push b =>
      obtain ⟨hnext, hemitted⟩ := hs.push b
      exact ⟨hnext, fun record hrecord => hemitted record (Option.mem_toList.mp hrecord)⟩
  | feed bytes => exact hs.feed bytes
  | discard => exact ⟨consistent_new s.rule, List.forall_mem_nil _⟩

theorem Consistent.uses (hs : s.Consistent) (uses : List Use) :
    (s.uses uses).1.Consistent ∧ (s.uses uses).1.rule = s.rule ∧
      ∀ record ∈ (s.uses uses).2, record.Whole s.rule := by
  induction uses generalizing s with
  | nil => exact ⟨hs, rfl, List.forall_mem_nil _⟩
  | cons use later ih =>
      obtain ⟨hnext, hhere⟩ := hs.use use
      obtain ⟨hlast, hrule, hthere⟩ := ih hnext
      rw [s.rule_use use] at hrule hthere
      refine ⟨hlast, hrule, ?_⟩
      intro record hrecord
      rcases List.mem_append.mp hrecord with hrecord | hrecord
      · exact hhere record hrecord
      · exact hthere record hrecord

end Splitter

end SerialConsole.Wire
