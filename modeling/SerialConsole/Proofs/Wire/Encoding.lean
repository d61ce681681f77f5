import SerialConsole.Proofs.Wire.Interference
import SerialConsole.Proofs.Wire.Rewriting
import SerialConsole.Wire.Buffer

/-!
# What is encoded is split again

Commands and frames are put behind what a buffer holds, and a command that is
refused puts nothing.  Commands without sentinels and LF, put one after the other,
split into one line each, under either rule and with CRs wherever they like; and
frames put in anywhere between their bytes come out as frames, and change no line.
-/

namespace SerialConsole.Wire

open LineRule

/-- The command is sent as one line, and nothing else, whatever the line rule. -/
structure Sendable (command : String) : Prop where
  ascii : ∀ c ∈ command.toList, c.toNat < 0x80
  noStart : '\x01' ∉ command.toList
  noEnd : '\x04' ∉ command.toList
  noLineFeed : '\n' ∉ command.toList

/-- What a splitter makes of a command that was sent. -/
def sentLine (command : String) : Decoded where
  text := command ++ "\r\n"
  replaced := 0

/-- Frames with the given payloads have been put between the bytes of a stream, the
first and the last place included. -/
inductive FramesPut : List (List Byte) → List Byte → List Byte → Prop where
  | nil : FramesPut [] [] []
  | byte (b : Byte) {payloads : List (List Byte)} {shell stream : List Byte}
      (hrest : FramesPut payloads shell stream) : FramesPut payloads (b :: shell) (b :: stream)
  | frame {payload : List Byte} (hpayload : frameEnd ∉ payload) {payloads : List (List Byte)}
      {shell stream : List Byte} (hrest : FramesPut payloads shell stream) :
      FramesPut (payload :: payloads) shell (encodeFrame payload ++ stream)

/-! ### Into a buffer -/

section Buffer

variable {ε : Type} (buffer : List Byte)

theorem Putting.into_bind (put later : Putting ε Unit) :
    Putting.into (do put; later) buffer =
      match put.into buffer with
      | (.ok (), held) => later.into held
      | (.error e, held) => (.error e, held) := by
  cases hput : put.into buffer with
  | mk result held =>
      have hrun : put.run.run buffer = (result, held) := hput
      rw [Putting.into, ExceptT.run_bind, StateT.run_bind, hrun]
      cases result with
      | ok done => rfl
      | error e => rfl

theorem into_putBytes (bytes : List Byte) :
    (putBytes bytes : Putting ε Unit).into buffer = (.ok (), buffer ++ bytes) := rfl

theorem into_putFrame (payload : List Byte) :
    (putFrame payload : Putting ε Unit).into buffer = (.ok (), buffer ++ encodeFrame payload) := by
  simp only [putFrame, Putting.into_bind, into_putBytes, encodeFrame, List.append_assoc,
    List.cons_append, List.nil_append]

/-- All of the wire form is put, or nothing. -/
theorem into_putCommand (command : String) :
    (putCommand command).into buffer =
      match encodeCommand command with
      | .ok bytes => (.ok (), buffer ++ bytes)
      | .error offset => (.error offset, buffer) := by
  rw [putCommand, encodeCommand]
  cases hfirst : command.toUTF8.toList.findIdx? fun b => !isAscii b with
  | some offset => rfl
  | none => simp only [Putting.into_bind, into_putBytes, List.append_assoc]

end Buffer

/-! ### Commands as bytes -/

section Bytes

variable {command : String} {chars : List Char}

/-- A character of ASCII is what one byte is decoded to. -/
theorem exists_decodeByte_eq {c : Char} (hc : c.toNat < 0x80) :
    ∃ b, isAscii b = true ∧ decodeByte b = c := by
  have hnat : (UInt8.ofNat c.toNat).toNat = c.toNat :=
    UInt8.toNat_ofNat_of_lt' (Nat.lt_trans hc (by decide))
  have hascii : isAscii (UInt8.ofNat c.toNat) = true := by
    apply decide_eq_true
    rw [UInt8.lt_iff_toNat_lt, hnat]
    exact hc
  refine ⟨UInt8.ofNat c.toNat, hascii, ?_⟩
  rw [decodeByte, if_pos hascii, hnat, Char.ofNat_toNat]

theorem exists_map_decodeByte_eq (hchars : ∀ c ∈ chars, c.toNat < 0x80) :
    ∃ raw : List Byte, (∀ b ∈ raw, isAscii b = true) ∧ raw.map decodeByte = chars := by
  induction chars with
  | nil => exact ⟨[], List.forall_mem_nil _, rfl⟩
  | cons c chars ih =>
      obtain ⟨hc, hrest⟩ := List.forall_mem_cons.mp hchars
      obtain ⟨b, hb, rfl⟩ := exists_decodeByte_eq hc
      obtain ⟨raw, hraw, rfl⟩ := ih hrest
      exact ⟨b :: raw, List.forall_mem_cons.mpr ⟨hb, hraw⟩, rfl⟩

/-- The bytes of an ASCII text are decoded to it again. -/
theorem decode_toUTF8 (hascii : ∀ c ∈ command.toList, c.toNat < 0x80) :
    decode command.toUTF8.toList = { text := command, replaced := 0 } := by
  obtain ⟨raw, hraw, hchars⟩ := exists_map_decodeByte_eq hascii
  have htext : (decode raw).text = command := by
    rw [decode, hchars, String.ofList_toList]
  have hlossless : (decode raw).replaced = 0 := by
    apply List.countP_eq_zero.mpr
    intro b hb
    rw [hraw b hb]
    decide
  rw [← htext, toUTF8_decode hlossless, htext, ← hlossless, ← htext]

theorem isAscii_of_replaced_eq_zero {bytes : List Byte} (hlossless : (decode bytes).replaced = 0) :
    ∀ b ∈ bytes, isAscii b = true := by
  intro b hb
  simpa using List.countP_eq_zero.mp hlossless b hb

theorem decode_append (front back : List Byte) :
    decode (front ++ back) =
      { text := (decode front).text ++ (decode back).text
        replaced := (decode front).replaced + (decode back).replaced } := by
  simp only [decode, List.map_append, List.countP_append, String.ofList_append]

variable (hcommand : Sendable command)
include hcommand

/-- What is decoded to no sentinel and no line feed is none. -/
theorem Sendable.notMem_bytes :
    frameStart ∉ command.toUTF8.toList ∧ frameEnd ∉ command.toUTF8.toList ∧
      lf ∉ command.toUTF8.toList := by
  have hnotMem : ∀ b, decodeByte b ∉ command.toList → b ∉ command.toUTF8.toList := by
    intro b hchar hb
    have hdecoded := toList_text_decode command.toUTF8.toList
    rw [decode_toUTF8 hcommand.ascii] at hdecoded
    exact hchar (hdecoded ▸ List.mem_map_of_mem hb)
  exact ⟨hnotMem _ hcommand.noStart, hnotMem _ hcommand.noEnd, hnotMem _ hcommand.noLineFeed⟩

theorem Sendable.encodeCommand : encodeCommand command = .ok (commandLine command) := by
  apply encodeCommand_of_ascii
  apply isAscii_of_replaced_eq_zero
  rw [decode_toUTF8 hcommand.ascii]

theorem Sendable.decode_commandLine : decode (commandLine command) = sentLine command := by
  rw [commandLine, decode_append, decode_toUTF8 hcommand.ascii]
  rfl

end Bytes

/-! ### Lines of commands -/

section Lines

variable {commands : List String} (hcommands : ∀ command ∈ commands, Sendable command)
include hcommands

theorem into_forM_putCommand (buffer : List Byte) :
    Putting.into (commands.forM putCommand) buffer =
      (.ok (), buffer ++ commands.flatMap commandLine) := by
  induction commands generalizing buffer with
  | nil =>
      rw [List.flatMap_nil, List.append_nil]
      rfl
  | cons command later ih =>
      obtain ⟨hcommand, hlater⟩ := List.forall_mem_cons.mp hcommands
      have hforM : (command :: later).forM putCommand =
          (do putCommand command; later.forM putCommand) := rfl
      rw [hforM, Putting.into_bind, into_putCommand, hcommand.encodeCommand, List.flatMap_cons,
        ← List.append_assoc]
      exact ih hlater _

/-- One line is cut off for each command. -/
theorem cut_flatMap_commandLine (rule : LineRule) :
    rule.cut [] (commands.flatMap commandLine) = (commands.map commandLine, []) := by
  induction commands with
  | nil => rfl
  | cons command later ih =>
      obtain ⟨hcommand, hlater⟩ := List.forall_mem_cons.mp hcommands
      rw [List.flatMap_cons, commandLine, cut_terminator hcommand.notMem_bytes.2.2, ih hlater]
      rfl

theorem map_decode_commandLine :
    (commands.map commandLine).map decode = commands.map sentLine := by
  rw [List.map_map]
  exact List.map_congr_left fun command hcommand => (hcommands command hcommand).decode_commandLine

theorem sentinels_notMem_commands :
    ∀ b ∈ commands.flatMap commandLine, b ≠ frameStart ∧ b ≠ frameEnd := by
  intro b hb
  obtain ⟨command, hcommand, hline⟩ := List.mem_flatMap.mp hb
  obtain ⟨hstart, hend, -⟩ := (hcommands command hcommand).notMem_bytes
  rcases List.mem_append.mp hline with hbody | hterminator
  · exact ⟨fun hsame => hstart (hsame ▸ hbody), fun hsame => hend (hsame ▸ hbody)⟩
  · have hstart : frameStart ∉ terminator := by decide
    have hend : frameEnd ∉ terminator := by decide
    exact ⟨fun hsame => hstart (hsame ▸ hterminator), fun hsame => hend (hsame ▸ hterminator)⟩

end Lines

/-! ### Frames between their bytes -/

/-- Cut into its parts, the stream gives back what was put together. -/
theorem FramesPut.parts {payloads : List (List Byte)} {shell stream : List Byte}
    (hput : FramesPut payloads shell stream)
    (hshell : ∀ b ∈ shell, b ≠ frameStart ∧ b ≠ frameEnd) :
    framingOf (partsOf stream) = payloads.map (fun payload => .frame (decode payload)) ∧
      shellOf (partsOf stream) = shell ∧ openPayload? (partsOf stream) = none := by
  induction hput with
  | nil =>
      rw [partsOf_nil]
      exact ⟨rfl, rfl, rfl⟩
  | byte b _ ih =>
      obtain ⟨⟨hstart, hend⟩, hrest⟩ := List.forall_mem_cons.mp hshell
      obtain ⟨hframes, hbytes, hopen⟩ := ih hrest
      rw [partsOf_shell hstart hend]
      exact ⟨hframes, congrArg (b :: ·) hbytes, hopen⟩
  | @frame payload hpayload _ _ _ _ ih =>
      obtain ⟨hframes, hbytes, hopen⟩ := ih hshell
      rw [partsOf_frame hpayload]
      exact ⟨congrArg (List.cons (Record.frame (decode payload))) hframes, hbytes, hopen⟩

/-- A splitter with no frame open and nothing of a line is as a new one. -/
theorem Splitter.Consistent.eq_new {s : Splitter} (hs : s.Consistent) (hframe : s.frame = none)
    (hline : s.line = []) : s = new s.rule := by
  have hholding := hs.eq_holding
  rw [hframe, hline, ← new_eq_holding] at hholding
  exact hholding

/-- A stream has been split into one line for each command and one frame for each
payload, and nothing is left of it. -/
structure SplitAsEncoded (s : Splitter) (commands : List String) (payloads : List (List Byte))
    (stream : List Byte) : Prop where
  lines : linesIn (s.records stream) = commands.map sentLine
  /-- The records that are no lines, stray ends among them. -/
  framing : framingIn (s.records stream) = payloads.map fun payload => .frame (decode payload)
  after : s.after stream = s
  pending : (s.after stream).pending = ⟨0, 0⟩

theorem splitAsEncoded_new {rule : LineRule} {commands : List String}
    (hcommands : ∀ command ∈ commands, Sendable command) {payloads : List (List Byte)}
    {stream : List Byte} (hput : FramesPut payloads (commands.flatMap commandLine) stream) :
    SplitAsEncoded (Splitter.new rule) commands payloads stream := by
  obtain ⟨hframes, hshell, hopen⟩ := hput.parts (sentinels_notMem_commands hcommands)
  have hcut := cut_flatMap_commandLine hcommands rule
  have hafter : (Splitter.new rule).after stream = Splitter.new rule := by
    rw [Splitter.after_new, hopen, hshell, hcut, ← Splitter.new_eq_holding]
  constructor
  case lines =>
    rw [Splitter.records_new, linesIn_emissions, hshell, hcut, map_decode_commandLine hcommands]
  case framing => rw [Splitter.records_new, framingIn_emissions, hframes]
  case after => exact hafter
  case pending =>
    rw [hafter]
    rfl

theorem framesPut_nil (shell : List Byte) : FramesPut [] shell shell := by
  induction shell with
  | nil => exact .nil
  | cons b shell ih => exact .byte b ih

theorem eq_map_line_of_framingIn_eq_nil {records : List Record} (hnone : framingIn records = []) :
    records = (linesIn records).map .line := by
  induction records with
  | nil => rfl
  | cons record later ih =>
      cases record with
      | line content => exact congrArg (List.cons (Record.line content)) (ih hnone)
      | frame content => cases hnone
      | strayEnd => cases hnone

/-- Without frames the records are the lines of the commands. -/
theorem SplitAsEncoded.feed_eq {s : Splitter} {commands : List String} {stream : List Byte}
    (hsplit : SplitAsEncoded s commands [] stream) :
    s.feed stream = (s, commands.map fun command => .line (sentLine command)) := by
  refine Prod.ext hsplit.after ?_
  have hlines := eq_map_line_of_framingIn_eq_nil hsplit.framing
  rw [hsplit.lines, List.map_map] at hlines
  exact hlines

/-- Between two lines any splitter, however it was used before, splits encoded commands
into one line each; and frames that are put in between the bytes of the commands, also
between CR and LF, are frames and change no line.  Encoding puts bytes behind what a
buffer holds, and nothing if it fails. -/
theorem encoded_commands_split_into_lines :
    (∀ rule uses s commands, ((Splitter.new rule).uses uses).1 = s →
      s.frame = none → s.line = [] → (∀ command ∈ commands, Sendable command) →
        (commands.forM putCommand).into [] = (.ok (), commands.flatMap commandLine) ∧
        s.feed (commands.flatMap commandLine) =
          (s, commands.map fun command => .line (sentLine command)) ∧
        ∀ payloads stream, FramesPut payloads (commands.flatMap commandLine) stream →
          SplitAsEncoded s commands payloads stream) ∧
    (∀ payload buffer,
      (putFrame payload : Putting Nat Unit).into buffer = (.ok (), buffer ++ encodeFrame payload)) ∧
    ∀ command buffer,
      (∀ bytes, encodeCommand command = .ok bytes →
        (putCommand command).into buffer = (.ok (), buffer ++ bytes)) ∧
      ∀ offset, encodeCommand command = .error offset →
        (putCommand command).into buffer = (.error offset, buffer) := by
  refine ⟨?_, fun payload buffer => into_putFrame buffer payload, ?_⟩
  · intro rule uses s commands huses hframe hline hcommands
    obtain ⟨hconsistent, -, -⟩ := (Splitter.consistent_new rule).uses uses
    rw [huses] at hconsistent
    rw [hconsistent.eq_new hframe hline]
    refine ⟨?_, ?_, ?_⟩
    · exact into_forM_putCommand hcommands []
    · exact (splitAsEncoded_new hcommands (framesPut_nil _)).feed_eq
    · intro payloads stream hput
      exact splitAsEncoded_new hcommands hput
  · intro command buffer
    rw [into_putCommand]
    constructor
    · rintro bytes hencoded
      rw [hencoded]
    · rintro offset hencoded
      rw [hencoded]

/-- A CR begins the command, and a frame with a start byte and an LF in it stands
between the CR and the LF that end it; the splitter has been emptied in the middle of a
line before. -/
theorem frame_inside_terminator_adds_itself :
    ((Splitter.new .lenient).uses [.feed [0x61, cr], .discard, .push frameEnd]).1 =
        Splitter.new .lenient ∧
      (∀ command ∈ ["\rhi"], Sendable command) ∧
      FramesPut [[frameStart, lf]] (["\rhi"].flatMap commandLine)
        ([cr, 0x68, 0x69, cr] ++ encodeFrame [frameStart, lf] ++ [lf]) ∧
      SplitAsEncoded (Splitter.new .lenient) ["\rhi"] [[frameStart, lf]]
        ([cr, 0x68, 0x69, cr] ++ encodeFrame [frameStart, lf] ++ [lf]) ∧
      (putCommand "h\u00e9").into [0x61] = (.error 1, [0x61]) := by
  have huses : ((Splitter.new .lenient).uses [.feed [0x61, cr], .discard, .push frameEnd]).1 =
      Splitter.new .lenient := rfl
  have hcommands : ∀ command ∈ ["\rhi"], Sendable command := by
    intro command hcommand
    rw [List.mem_singleton.mp hcommand]
    exact ⟨by simp, by decide, by decide, by decide⟩
  have hbytes : ["\rhi"].flatMap commandLine = [cr, 0x68, 0x69, cr, lf] := by
    decide +kernel
  have hput : FramesPut [[frameStart, lf]] (["\rhi"].flatMap commandLine)
      ([cr, 0x68, 0x69, cr] ++ encodeFrame [frameStart, lf] ++ [lf]) := by
    rw [hbytes]
    exact .byte _ (.byte _ (.byte _ (.byte _ (.frame (by decide) (.byte _ .nil)))))
  obtain ⟨hsplit, -, hencoded⟩ := encoded_commands_split_into_lines
  obtain ⟨-, -, hframes⟩ := hsplit .lenient _ _ _ huses rfl rfl hcommands
  exact ⟨huses, hcommands, hput, hframes _ _ hput, (hencoded _ _).2 1 (by decide +kernel)⟩

end SerialConsole.Wire
