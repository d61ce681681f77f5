import Mathlib.Data.List.Basic
import SerialConsole.Proofs.Wire.Commands
import SerialConsole.Proofs.Wire.Consistency
import SerialConsole.Proofs.Wire.Lengths

/-!
# Records written back

Records can be written back as bytes, one after the other.  The stream that
comes of this need not be the one that they were read from: frames no longer
stand inside lines, and what was unfinished is gone.  But every record that a
splitter emits is whole, so unless a byte was replaced, the new stream splits
into the same records and leaves nothing behind.  A single frame passes whole
through any splitter between two frames exactly if its payload has no end byte.
-/

namespace SerialConsole.Wire

open LineRule

/-- A record as a device would send it. -/
def Record.bytes : Record → List Byte
  | .frame content => encodeFrame content.text.toUTF8.toList
  | .line content => content.text.toUTF8.toList
  | .strayEnd => [frameEnd]

def writeBack (records : List Record) : List Byte :=
  records.flatMap Record.bytes

/-! ### Text as bytes -/

theorem utf8EncodeChar_decodeByte {b : Byte} (hascii : isAscii b = true) :
    String.utf8EncodeChar (decodeByte b) = [b] := by
  have hb : b.toNat < 128 := UInt8.lt_iff_toNat_lt.mp (of_decide_eq_true hascii)
  have hvalid : b.toNat.isValidChar := Or.inl (by omega)
  have hval : (Char.ofNat b.toNat).val.toNat = b.toNat := by
    rw [Char.ofNat, dif_pos hvalid]
    rfl
  rw [decodeByte, if_pos hascii, String.utf8EncodeChar.eq_1]
  simp only [hval]
  rw [if_pos (by omega), UInt8.ofNat_toNat]

/-- Text in which no byte was replaced has the bytes that it was decoded
from. -/
theorem toUTF8_decode {raw : List Byte} (hlossless : (decode raw).replaced = 0) :
    (decode raw).text.toUTF8.toList = raw := by
  have hascii : ∀ b ∈ raw, isAscii b = true := by
    intro b hb
    have hkept := List.countP_eq_zero.mp hlossless b hb
    simpa using hkept
  rw [toList_toUTF8, toList_text_decode, List.flatMap_map]
  calc
    raw.flatMap (fun b => String.utf8EncodeChar (decodeByte b))
        = raw.flatMap fun b => [b] :=
      List.flatMap_congr fun b hb => utf8EncodeChar_decodeByte (hascii b hb)
    _ = raw := List.flatMap_singleton' raw

/-! ### Whole records are emitted again -/

theorem whole_of_mem_records {rule : LineRule} {stream : List Byte} {record : Record}
    (hrecord : record ∈ (Splitter.new rule).records stream) : record.Whole rule :=
  ((Splitter.consistent_new rule).feed stream).2 record hrecord

namespace Splitter

/-- A line comes as one record, at the byte that completes it. -/
theorem trace_line {rule : LineRule} {line front : List Byte} {b : Byte}
    (hfirst : rule.Unfinished (line ++ front)) (hcomplete : rule.Completes (line ++ front ++ [b]))
    (hstart : frameStart ∉ front ++ [b]) (hend : frameEnd ∉ front ++ [b]) :
    (holding rule none line).trace (front ++ [b]) =
      (new rule,
        List.replicate front.length none ++ [some (.line (decode (line ++ front ++ [b])))]) := by
  induction front generalizing line with
  | nil =>
      rw [List.append_nil] at hcomplete
      rw [List.nil_append, List.mem_singleton] at hstart hend
      rw [List.nil_append, trace_cons, push_shell_holding (Ne.symm hstart) (Ne.symm hend),
        if_pos hcomplete, new_eq_holding, List.append_nil]
      rfl
  | cons first front ih =>
      have hsplit : line ++ first :: front = line ++ [first] ++ front := by simp
      rw [hsplit] at hfirst hcomplete ⊢
      rw [List.cons_append, List.mem_cons, not_or] at hstart hend
      have hearly : ¬rule.Completes (line ++ [first]) := hfirst _ (List.prefix_append _ front)
      rw [List.cons_append, trace_cons, push_shell_holding (Ne.symm hstart.1) (Ne.symm hend.1),
        if_neg hearly, ih hfirst hcomplete hstart.2 hend.2]
      rfl

theorem feed_append (s : Splitter) (left right : List Byte) :
    s.feed (left ++ right) =
      (((s.feed left).1.feed right).1, (s.feed left).2 ++ ((s.feed left).1.feed right).2) :=
  Prod.ext (s.after_append left right) (s.records_append left right)

end Splitter

/-- A fresh splitter emits a whole record again, and is then as fresh as
before. -/
theorem Record.Whole.feed {rule : LineRule} {record : Record} (hwhole : record.Whole rule)
    (hlossless : record.replaced = 0) :
    (Splitter.new rule).feed record.bytes = (Splitter.new rule, [record]) := by
  cases hwhole with
  | frame hpayload =>
      rw [Record.bytes, toUTF8_decode hlossless, Splitter.feed,
        Splitter.trace_encodeFrame rfl hpayload]
      simp
  | @line raw hcomplete hfirst hstart hend =>
      have hraw : raw ≠ [] := by
        rintro rfl
        exact rule.not_completes_nil hcomplete
      obtain ⟨front, b, rfl⟩ : ∃ front b, raw = front ++ [b] :=
        ⟨raw.dropLast, raw.getLast hraw, (List.dropLast_concat_getLast hraw).symm⟩
      rw [List.dropLast_concat] at hfirst
      rw [Record.bytes, toUTF8_decode hlossless, Splitter.feed, Splitter.new_eq_holding,
        Splitter.trace_line hfirst hcomplete hstart hend]
      simp [Splitter.new_eq_holding]
  | strayEnd => rfl

theorem feed_writeBack {rule : LineRule} {records : List Record}
    (hwhole : ∀ record ∈ records, record.Whole rule)
    (hlossless : ∀ record ∈ records, record.replaced = 0) :
    (Splitter.new rule).feed (writeBack records) = (Splitter.new rule, records) := by
  induction records with
  | nil => rfl
  | cons record later ih =>
      obtain ⟨hhere, hthere⟩ := List.forall_mem_cons.mp hwhole
      obtain ⟨hkept, hrest⟩ := List.forall_mem_cons.mp hlossless
      rw [writeBack, List.flatMap_cons, ← writeBack, Splitter.feed_append, hhere.feed hkept,
        ih hthere hrest]
      rfl

/-! ### One frame through any splitter -/

namespace Splitter

/-- The frame of a payload comes out as that payload and nothing else, and
nothing of the shell channel has changed. -/
structure PassesFrame (s : Splitter) (payload : List Byte) : Prop where
  records : s.records (encodeFrame payload) = [.frame (decode payload)]
  line : (s.after (encodeFrame payload)).line = s.line
  armed : (s.after (encodeFrame payload)).armed = s.armed
  inFrame : (s.after (encodeFrame payload)).inFrame = s.inFrame

variable {s : Splitter} (hframe : s.frame = none)
include hframe

theorem feed_encodeFrame {payload : List Byte} (hpayload : frameEnd ∉ payload) :
    s.feed (encodeFrame payload) = (s, [.frame (decode payload)]) := by
  rw [feed, trace_encodeFrame hframe hpayload]
  simp

/-- The first end byte of a payload closes the frame, and the payload comes out
cut short. -/
theorem records_encodeFrame_append_frameEnd {front : List Byte} (hfront : frameEnd ∉ front)
    (back : List Byte) :
    s.records (encodeFrame (front ++ frameEnd :: back)) =
      .frame (decode front) :: s.records (back ++ [frameEnd]) := by
  have hcut : encodeFrame (front ++ frameEnd :: back) =
      encodeFrame front ++ (back ++ [frameEnd]) := by
    simp [encodeFrame]
  have hclosed := s.feed_append (encodeFrame front) (back ++ [frameEnd])
  rw [feed_encodeFrame hframe hfront, ← hcut] at hclosed
  exact congrArg Prod.snd hclosed

theorem passesFrame_iff (payload : List Byte) : s.PassesFrame payload ↔ frameEnd ∉ payload := by
  constructor
  · intro hpasses hmem
    obtain ⟨front, back, rfl, hfront⟩ := List.eq_append_cons_of_mem hmem
    have hrecords := hpasses.records
    rw [records_encodeFrame_append_frameEnd hframe hfront] at hrecords
    have hdecoded : decode front = decode (front ++ frameEnd :: back) :=
      Record.frame.inj (List.cons.inj hrecords).1
    have hlength := congrArg (fun content => content.text.length) hdecoded
    simp at hlength
  · intro hpayload
    obtain ⟨hafter, hrecords⟩ := Prod.ext_iff.mp (feed_encodeFrame hframe hpayload)
    rw [← after] at hafter
    constructor
    case records => exact hrecords
    case line => rw [hafter]
    case armed => rw [hafter]
    case inFrame => rw [hafter]

end Splitter

/-! ### Both directions -/

/-- Records written back split into themselves, and nothing is left behind. -/
structure SplitsAgain (rule : LineRule) (records : List Record) : Prop where
  same : (Splitter.new rule).records (writeBack records) = records
  outside : ((Splitter.new rule).after (writeBack records)).inFrame = false
  pending : ((Splitter.new rule).after (writeBack records)).pending = ⟨0, 0⟩
  disarmed : ((Splitter.new rule).after (writeBack records)).armed = false

/-- If no byte was replaced, the records of a stream can be written back and read
again, under either rule; and any splitter that no frame is open in passes the
frame of a payload exactly if the payload has no end byte. -/
theorem records_split_again (rule : LineRule) :
    (∀ stream, (∀ record ∈ (Splitter.new rule).records stream, record.replaced = 0) →
        SplitsAgain rule ((Splitter.new rule).records stream)) ∧
      ∀ s : Splitter, s.frame = none → ∀ payload, s.PassesFrame payload ↔ frameEnd ∉ payload := by
  constructor
  · intro stream hlossless
    obtain ⟨hafter, hsame⟩ := Prod.ext_iff.mp
      (feed_writeBack (fun record hrecord => whole_of_mem_records hrecord) hlossless)
    rw [← Splitter.after] at hafter
    constructor
    case same => exact hsame
    case outside => rw [hafter]; rfl
    case pending => rw [hafter]; rfl
    case disarmed => rw [hafter]; rfl
  · intro s hframe payload
    exact Splitter.passesFrame_iff hframe payload

/-- A frame with a start byte and an LF in it stands between CR and LF, and the
stream ends inside a line: written back, the frame comes before the line. -/
theorem frame_inside_line_splits_again :
    (∀ record ∈ (Splitter.new .strict).records
        ([0x61, cr] ++ encodeFrame [frameStart, lf] ++ [lf, frameEnd, 0x62, cr]),
        record.replaced = 0) ∧
      writeBack ((Splitter.new .strict).records
          ([0x61, cr] ++ encodeFrame [frameStart, lf] ++ [lf, frameEnd, 0x62, cr])) =
        encodeFrame [frameStart, lf] ++ [0x61, cr, lf] ++ [frameEnd] ∧
      SplitsAgain .strict ((Splitter.new .strict).records
        ([0x61, cr] ++ encodeFrame [frameStart, lf] ++ [lf, frameEnd, 0x62, cr])) ∧
      ((Splitter.new .strict).after [0x62, cr]).frame = none ∧
      ¬((Splitter.new .strict).after [0x62, cr]).PassesFrame [0x63, frameEnd] := by
  have hlossless : ∀ record ∈ (Splitter.new .strict).records
      ([0x61, cr] ++ encodeFrame [frameStart, lf] ++ [lf, frameEnd, 0x62, cr]),
      record.replaced = 0 := by
    decide +kernel
  have hbroken := ((records_split_again .strict).2 ((Splitter.new .strict).after [0x62, cr]) rfl
    [0x63, frameEnd]).not.mpr (by decide)
  exact ⟨hlossless, by decide +kernel, (records_split_again .strict).1 _ hlossless, rfl, hbroken⟩

end SerialConsole.Wire
