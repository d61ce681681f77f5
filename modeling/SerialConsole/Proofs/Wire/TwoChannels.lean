import SerialConsole.Proofs.Wire.Agreement
import SerialConsole.Proofs.Wire.Lengths

/-!
# The account of a stream

What a fresh splitter emits for a stream, and what it is left with, are told by
the parts of the stream alone: frames are the payloads between sentinels, stray
ends are the other end bytes, lines are the shell channel cut at its armed LFs,
and every byte is accounted for.
-/

namespace SerialConsole.Wire

open LineRule

def framesIn (records : List Record) : List Decoded :=
  records.filterMap fun
    | .frame content => some content
    | .line _ | .strayEnd => none

def linesIn (records : List Record) : List Decoded :=
  records.filterMap fun
    | .line content => some content
    | .frame _ | .strayEnd => none

def strayEndsIn (records : List Record) : Nat :=
  records.count .strayEnd

/-- One character stands for each raw byte: the same one if it is ASCII, the
replacement character if not, and the latter are counted. -/
structure Decoded.Shows (content : Decoded) (raw : List Byte) : Prop where
  text : content.text.toList =
    raw.map fun b => if b < 0x80 then Char.ofNat b.toNat else '\uFFFD'
  replaced : content.replaced = raw.countP fun b => 0x80 ≤ b

theorem decode_shows (raw : List Byte) : (decode raw).Shows raw := by
  constructor
  · rw [toList_text_decode]
    apply List.map_congr_left
    intro b _
    simp [decodeByte, isAscii, replacement]
  · simp only [decode]
    apply List.countP_congr
    intro b _
    simp [isAscii]

/-! ### The records of the reference -/

section Records

variable (record : Record) (records : List Record)

@[simp]
theorem framesIn_cons : framesIn (record :: records) =
    (match record with
      | .frame content => [content]
      | .line _ | .strayEnd => []) ++ framesIn records := by
  cases record <;> rfl

@[simp]
theorem linesIn_cons : linesIn (record :: records) =
    (match record with
      | .line content => [content]
      | .frame _ | .strayEnd => []) ++ linesIn records := by
  cases record <;> rfl

@[simp]
theorem strayEndsIn_cons : strayEndsIn (record :: records) =
    strayEndsIn records + if record = .strayEnd then 1 else 0 := by
  simp [strayEndsIn, List.count_cons]

end Records

section Reference

variable (rule : LineRule) (line : List Byte) (later : List Part)

theorem records_emissions_frame (payload : List Byte) :
    (emissions rule line (.frame payload :: later)).filterMap id =
      .frame (decode payload) :: (emissions rule line later).filterMap id := by
  simp [emissions]

theorem records_emissions_openFrame (payload : List Byte) :
    (emissions rule line (.openFrame payload :: later)).filterMap id =
      (emissions rule line later).filterMap id := by
  simp [emissions]

theorem records_emissions_strayEnd :
    (emissions rule line (.strayEnd :: later)).filterMap id =
      .strayEnd :: (emissions rule line later).filterMap id := rfl

variable {rule line} {b : Byte}

theorem records_emissions_of_completes (hcomplete : rule.Completes (line ++ [b])) :
    (emissions rule line (.shell b :: later)).filterMap id =
      .line (decode (line ++ [b])) :: (emissions rule [] later).filterMap id := by
  rw [emissions, if_pos hcomplete]
  rfl

theorem records_emissions_of_not_completes (hcomplete : ¬rule.Completes (line ++ [b])) :
    (emissions rule line (.shell b :: later)).filterMap id =
      (emissions rule (line ++ [b]) later).filterMap id := by
  rw [emissions, if_neg hcomplete]
  rfl

end Reference

theorem framesIn_emissions (rule : LineRule) (line : List Byte) (parts : List Part) :
    framesIn ((emissions rule line parts).filterMap id) = (payloadsOf parts).map decode := by
  induction parts generalizing line with
  | nil => rfl
  | cons part later ih =>
      cases part with
      | frame payload =>
          rw [records_emissions_frame, framesIn_cons, ih]
          rfl
      | openFrame payload =>
          rw [records_emissions_openFrame, ih]
          rfl
      | strayEnd =>
          rw [records_emissions_strayEnd, framesIn_cons, ih]
          rfl
      | shell b =>
          by_cases hcomplete : rule.Completes (line ++ [b])
          · rw [records_emissions_of_completes later hcomplete, framesIn_cons, ih]
            rfl
          · rw [records_emissions_of_not_completes later hcomplete, ih]
            rfl

theorem linesIn_emissions (rule : LineRule) (line : List Byte) (parts : List Part) :
    linesIn ((emissions rule line parts).filterMap id) =
      (rule.cut line (shellOf parts)).1.map decode := by
  induction parts generalizing line with
  | nil => rfl
  | cons part later ih =>
      cases part with
      | frame payload =>
          rw [records_emissions_frame, linesIn_cons, ih]
          rfl
      | openFrame payload =>
          rw [records_emissions_openFrame, ih]
          rfl
      | strayEnd =>
          rw [records_emissions_strayEnd, linesIn_cons, ih]
          rfl
      | shell b =>
          have hshell : shellOf (.shell b :: later) = b :: shellOf later := rfl
          rw [hshell]
          by_cases hcomplete : rule.Completes (line ++ [b])
          · rw [records_emissions_of_completes later hcomplete, linesIn_cons, ih,
              cut_cons_of_completes hcomplete]
            rfl
          · rw [records_emissions_of_not_completes later hcomplete, ih,
              cut_cons_of_not_completes hcomplete]

theorem strayEndsIn_emissions (rule : LineRule) (line : List Byte) (parts : List Part) :
    strayEndsIn ((emissions rule line parts).filterMap id) = strayEndsOf parts := by
  induction parts generalizing line with
  | nil => rfl
  | cons part later ih =>
      cases part with
      | frame payload =>
          rw [records_emissions_frame, strayEndsIn_cons, ih]
          simp
      | openFrame payload =>
          rw [records_emissions_openFrame, ih]
          simp
      | strayEnd =>
          rw [records_emissions_strayEnd, strayEndsIn_cons, ih]
          simp
      | shell b =>
          by_cases hcomplete : rule.Completes (line ++ [b])
          · rw [records_emissions_of_completes later hcomplete, strayEndsIn_cons, ih]
            simp
          · rw [records_emissions_of_not_completes later hcomplete, ih]
            simp

/-! ### The account -/

/-- What each byte of a stream made a splitter emit, and what it is left with,
accounted for by the parts of the stream. -/
structure TwoChannels (rule : LineRule) (stream : List Byte) (last : Splitter)
    (emitted : List (Option Record)) : Prop where
  /-- The parts are the stream itself, cut at its sentinels. -/
  whole : (partsOf stream).flatMap Part.bytes = stream
  wellFormed : ∀ part ∈ partsOf stream, part.WellFormed
  /-- Only the last part can be a frame that is still open. -/
  openLast : ∀ payload, .openFrame payload ∉ (partsOf stream).dropLast
  /-- Each record comes at the byte that completes it. -/
  timely : emitted = emissions rule [] (partsOf stream)
  frames : framesIn (emitted.filterMap id) = (payloadsOf (partsOf stream)).map decode
  strayEnds : strayEndsIn (emitted.filterMap id) = strayEndsOf (partsOf stream)
  frameEnds : (framesIn (emitted.filterMap id)).length + strayEndsIn (emitted.filterMap id) =
    stream.count frameEnd
  lines : linesIn (emitted.filterMap id) =
    (rule.cut [] (shellOf (partsOf stream))).1.map decode
  /-- The lines and the unfinished one are the shell channel. -/
  shell : (rule.cut [] (shellOf (partsOf stream))).1.flatten ++ last.line =
    shellOf (partsOf stream)
  /-- A line is cut off as soon as it is complete. -/
  complete : ∀ line ∈ (rule.cut [] (shellOf (partsOf stream))).1,
    rule.Completes line ∧ rule.Unfinished line.dropLast
  unfinished : rule.Unfinished last.line
  /-- The state is told by the open frame and the unfinished line. -/
  left : last = Splitter.holding rule (openPayload? (partsOf stream))
    (rule.cut [] (shellOf (partsOf stream))).2
  length : stream.length =
    ((framesIn (emitted.filterMap id)).map fun content => content.text.length + 2).sum +
      ((linesIn (emitted.filterMap id)).map fun content => content.text.length).sum +
      strayEndsIn (emitted.filterMap id) + last.pending.frame + last.pending.line +
      if last.inFrame then 1 else 0
  decoded : ∀ raw ∈ payloadsOf (partsOf stream) ++ (rule.cut [] (shellOf (partsOf stream))).1,
    (decode raw).Shows raw

/-- The lengths of records, kind by kind. -/
theorem sum_wireLength_eq (records : List Record) :
    (records.map Record.wireLength).sum =
      ((framesIn records).map fun content => content.text.length + 2).sum +
        ((linesIn records).map fun content => content.text.length).sum +
        strayEndsIn records := by
  induction records with
  | nil => rfl
  | cons record records ih =>
      rw [List.map_cons, List.sum_cons, ih]
      cases record with
      | frame content =>
          simp [Record.wireLength]
          omega
      | line content =>
          simp [Record.wireLength]
          omega
      | strayEnd =>
          simp [Record.wireLength]
          omega

/-- A fresh splitter separates the two channels of every stream. -/
theorem splitter_separates_channels (rule : LineRule) (stream : List Byte) :
    TwoChannels rule stream ((Splitter.new rule).trace stream).1
      ((Splitter.new rule).trace stream).2 := by
  rw [Splitter.new_eq_holding, Splitter.trace_holding]
  exact
    { whole := flatMap_bytes_partsOf stream
      wellFormed := wellFormed_of_mem_partsOf stream
      openLast := openFrame_not_mem_dropLast stream
      timely := rfl
      frames := framesIn_emissions rule [] _
      strayEnds := strayEndsIn_emissions rule [] _
      frameEnds := by
        rw [framesIn_emissions, strayEndsIn_emissions, List.length_map, count_frameEnd]
      lines := linesIn_emissions rule [] _
      shell := by simpa using rule.flatten_cut [] (shellOf (partsOf stream))
      complete := completes_of_mem_cut rule.unfinished_nil
      unfinished := unfinished_cut rule.unfinished_nil
      left := rfl
      length := by
        have hfresh : (Splitter.new rule).held = 0 := rfl
        have hlength := (Splitter.new rule).sum_wireLength_records stream
        rw [hfresh, Nat.zero_add, sum_wireLength_eq, Splitter.records_eq_trace,
          Splitter.after_eq_trace, Splitter.new_eq_holding, Splitter.trace_holding] at hlength
        rw [← hlength, Splitter.held, ← Nat.add_assoc, ← Nat.add_assoc]
      decoded := fun raw _ => decode_shows raw }

end SerialConsole.Wire
