import SerialConsole.Wire.Byte

/-!
# Commands as bytes

A command goes over the link as its bytes and CR LF.  A byte that is an LF
comes from a line feed in the text and from nothing else, so a command without
line feeds has no LF on the wire but the one that ends it.
-/

namespace SerialConsole.Wire

/-- What a command puts on the wire if all of it is accepted. -/
def commandLine (command : String) : List Byte :=
  command.toUTF8.toList ++ terminator

theorem encodeCommand_eq_ok {command : String} {bytes : List Byte}
    (hencoded : encodeCommand command = .ok bytes) : bytes = commandLine command := by
  simp only [encodeCommand] at hencoded
  split at hencoded
  · cases hencoded
  · exact (Except.ok.inj hencoded).symm

theorem findIdx?_of_ascii {bytes : List Byte} (hascii : ∀ b ∈ bytes, isAscii b = true) :
    bytes.findIdx? (fun b => !isAscii b) = none := by
  apply List.findIdx?_eq_none_iff.mpr
  intro b hb
  rw [hascii b hb, Bool.not_true]

theorem encodeCommand_of_ascii {command : String}
    (hascii : ∀ b ∈ command.toUTF8.toList, isAscii b = true) :
    encodeCommand command = .ok (commandLine command) := by
  simp only [encodeCommand, findIdx?_of_ascii hascii]
  rfl

/-- A command is refused at its first byte that is not ASCII. -/
theorem encodeCommand_of_not_ascii {command : String} {front back : List Byte} {b : Byte}
    (hbytes : command.toUTF8.toList = front ++ b :: back)
    (hfront : ∀ a ∈ front, isAscii a = true) (hb : isAscii b = false) :
    encodeCommand command = .error front.length := by
  have hfind : command.toUTF8.toList.findIdx? (fun b => !isAscii b) = some front.length := by
    rw [hbytes, List.findIdx?_append, findIdx?_of_ascii hfront, List.findIdx?_cons, hb,
      Bool.not_false, if_pos rfl, Option.map_some, Nat.zero_add, Option.none_or]
  simp only [encodeCommand, hfind]

/-- Either all bytes of a text are ASCII, or there is a first that is not. -/
theorem ascii_or_exists_first (bytes : List Byte) :
    (∀ b ∈ bytes, isAscii b = true) ∨
      ∃ front b back, bytes = front ++ b :: back ∧ (∀ a ∈ front, isAscii a = true) ∧
        isAscii b = false := by
  induction bytes with
  | nil => exact .inl (List.forall_mem_nil _)
  | cons first later ih =>
      cases hfirst : isAscii first with
      | false => exact .inr ⟨[], first, later, rfl, List.forall_mem_nil _, hfirst⟩
      | true =>
          rcases ih with hlater | ⟨front, b, back, rfl, hfront, hb⟩
          · exact .inl (List.forall_mem_cons.mpr ⟨hfirst, hlater⟩)
          · exact .inr ⟨first :: front, b, back, rfl, List.forall_mem_cons.mpr ⟨hfirst, hfront⟩,
              hb⟩

theorem toList_loop_eq (bytes : ByteArray) (index : Nat) (done : List UInt8) :
    ByteArray.toList.loop bytes index done = done.reverse ++ bytes.data.toList.drop index := by
  fun_induction ByteArray.toList.loop bytes index done with
  | case1 index done hindex ih =>
      have hbyte : index < bytes.data.toList.length := hindex
      have hget : bytes.get! index = bytes.data.toList[index] :=
        getElem!_pos bytes.data index hindex
      rw [ih, List.drop_eq_getElem_cons hbyte, hget, List.reverse_cons, List.append_assoc,
        List.singleton_append]
  | case2 index done hindex =>
      rw [List.drop_eq_nil_of_le (Nat.le_of_not_lt hindex), List.append_nil]

theorem toList_toUTF8 (text : String) :
    text.toUTF8.toList = text.toList.flatMap String.utf8EncodeChar := by
  calc
    text.toUTF8.toList = text.toUTF8.data.toList := by
      rw [ByteArray.toList, toList_loop_eq, List.reverse_nil, List.nil_append, List.drop_zero]
    _ = text.toList.utf8Encode.data.toList := by rw [String.toUTF8, String.utf8Encode_toList]
    _ = text.toList.flatMap String.utf8EncodeChar := by
      rw [List.utf8Encode, List.toList_data_toByteArray]

theorem eq_ten_of_lf_eq_ofNat {code : Nat} (hcode : code < 256) (hlf : lf = UInt8.ofNat code) :
    code = 10 := by
  have hnat := congrArg UInt8.toNat hlf
  rw [UInt8.toNat_ofNat_of_lt' hcode] at hnat
  exact hnat.symm

/-- All bytes of a character outside ASCII are above `0x7F`. -/
theorem eq_lineFeed_of_lf_mem {c : Char} (hlf : lf ∈ String.utf8EncodeChar c) : c = '\n' := by
  have hhigh : ∀ code, 0x80 ≤ code → code < 256 → lf ≠ UInt8.ofNat code := by
    intro code hle hlt hbyte
    have hten := eq_ten_of_lf_eq_ofNat hlt hbyte
    omega
  rw [String.utf8EncodeChar.eq_1] at hlf
  split at hlf
  · have hten := eq_ten_of_lf_eq_ofNat (by omega) (List.mem_singleton.mp hlf)
    exact Char.ext (UInt32.toNat_inj.mp hten)
  · exfalso
    split at hlf
    · simp only [List.mem_cons, List.not_mem_nil, or_false] at hlf
      rcases hlf with hlf | hlf
      all_goals exact hhigh _ (by omega) (by omega) hlf
    · split at hlf
      · simp only [List.mem_cons, List.not_mem_nil, or_false] at hlf
        rcases hlf with hlf | hlf | hlf
        all_goals exact hhigh _ (by omega) (by omega) hlf
      · simp only [List.mem_cons, List.not_mem_nil, or_false] at hlf
        rcases hlf with hlf | hlf | hlf | hlf
        all_goals exact hhigh _ (by omega) (by omega) hlf

theorem lf_notMem_toUTF8 {text : String} (htext : '\n' ∉ text.toList) :
    lf ∉ text.toUTF8.toList := by
  rw [toList_toUTF8]
  intro hlf
  obtain ⟨c, hc, hbyte⟩ := List.mem_flatMap.mp hlf
  exact htext (eq_lineFeed_of_lf_mem hbyte ▸ hc)

end SerialConsole.Wire
