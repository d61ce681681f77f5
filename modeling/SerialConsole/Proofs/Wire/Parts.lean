import Mathlib.Data.List.TakeWhile
import SerialConsole.Wire.Splitter

/-!
# The parts of a stream

A stream can be read without a splitter: it is cut, from its start, into whole
frames, single end bytes that no frame is open for, and single bytes of the
shell, and it may end inside a frame.  The cut is made by looking ahead for the
next end byte, which a splitter never does, and so it serves as the reference
that a splitter is compared with.
-/

namespace SerialConsole.Wire

inductive Part where
  /-- A frame, from a start byte to the first end byte after it. -/
  | frame (payload : List Byte)
  /-- A frame that the stream ends in. -/
  | openFrame (payload : List Byte)
  /-- An end byte outside frames. -/
  | strayEnd
  /-- Any other byte outside frames. -/
  | shell (b : Byte)
  deriving DecidableEq, Repr

namespace Part

/-- What the part is made of on the wire. -/
def bytes : Part → List Byte
  | frame payload => encodeFrame payload
  | openFrame payload => frameStart :: payload
  | strayEnd => [frameEnd]
  | shell b => [b]

/-- Payloads go up to the first end byte, and neither sentinel belongs to the
shell. -/
def WellFormed : Part → Prop
  | frame payload => frameEnd ∉ payload
  | openFrame payload => frameEnd ∉ payload
  | strayEnd => True
  | shell b => b ≠ frameStart ∧ b ≠ frameEnd

@[simp]
def payload? : Part → Option (List Byte)
  | frame payload => some payload
  | openFrame _ | strayEnd | shell _ => none

@[simp]
def shell? : Part → Option Byte
  | shell b => some b
  | frame _ | openFrame _ | strayEnd => none

@[simp]
def isStray : Part → Bool
  | strayEnd => true
  | frame _ | openFrame _ | shell _ => false

end Part

/-- Cut a stream into its parts. -/
def partsOf : List Byte → List Part
  | [] => []
  | b :: rest =>
      if b = frameStart then
        match _hlater : rest.dropWhile (· != frameEnd) with
        | [] => [.openFrame (rest.takeWhile (· != frameEnd))]
        | _ :: later => .frame (rest.takeWhile (· != frameEnd)) :: partsOf later
      else if b = frameEnd then .strayEnd :: partsOf rest
      else .shell b :: partsOf rest
  termination_by bytes => bytes.length
  decreasing_by
    · have hlength := (List.dropWhile_sublist (l := rest) (· != frameEnd)).length_le
      simp only [_hlater, List.length_cons] at hlength
      simp only [List.length_cons]
      omega
    · simp
    · simp

/-- The payloads of the whole frames, in order. -/
def payloadsOf (parts : List Part) : List (List Byte) :=
  parts.filterMap Part.payload?

/-- The bytes of the shell channel, in order. -/
def shellOf (parts : List Part) : List Byte :=
  parts.filterMap Part.shell?

/-- How many end bytes no frame was open for. -/
def strayEndsOf (parts : List Part) : Nat :=
  parts.countP Part.isStray

/-- The payload of the frame that the stream ends in. -/
def openPayload? : List Part → Option (List Byte)
  | [] => none
  | .openFrame payload :: _ => some payload
  | .frame _ :: later | .strayEnd :: later | .shell _ :: later => openPayload? later

section Projections

variable (part : Part) (later : List Part)

@[simp]
theorem payloadsOf_nil : payloadsOf [] = [] := rfl

@[simp]
theorem payloadsOf_cons : payloadsOf (part :: later) = part.payload?.toList ++ payloadsOf later := by
  cases part <;> rfl

@[simp]
theorem shellOf_nil : shellOf [] = [] := rfl

@[simp]
theorem shellOf_cons : shellOf (part :: later) = part.shell?.toList ++ shellOf later := by
  cases part <;> rfl

@[simp]
theorem strayEndsOf_nil : strayEndsOf [] = 0 := rfl

@[simp]
theorem strayEndsOf_cons :
    strayEndsOf (part :: later) = strayEndsOf later + if part.isStray then 1 else 0 := by
  simp [strayEndsOf, List.countP_cons]

end Projections

/-! ### The cut, case by case -/

@[simp]
theorem partsOf_nil : partsOf [] = [] := by
  rw [partsOf]

theorem frameStart_ne_frameEnd : frameStart ≠ frameEnd := by
  decide

/-- Up to the first end byte the stream is a payload. -/
theorem partsOf_frame {payload : List Byte} (hpayload : frameEnd ∉ payload) (later : List Byte) :
    partsOf (encodeFrame payload ++ later) = .frame payload :: partsOf later := by
  have hkept : ∀ b ∈ payload, (b != frameEnd) = true := by
    intro b hb
    exact bne_iff_ne.mpr fun hend => hpayload (hend ▸ hb)
  have htake : (payload ++ frameEnd :: later).takeWhile (· != frameEnd) = payload := by
    simp [List.takeWhile_append_of_pos hkept]
  have hdrop : (payload ++ frameEnd :: later).dropWhile (· != frameEnd) = frameEnd :: later := by
    simp [List.dropWhile_append_of_pos hkept]
  simp only [encodeFrame, List.cons_append, List.append_assoc, List.nil_append]
  rw [partsOf, if_pos rfl]
  split
  · rename_i hnone
    simp [hdrop] at hnone
  · rename_i hsome
    rw [hdrop, List.cons.injEq] at hsome
    rw [htake, ← hsome.2]

theorem partsOf_openFrame {payload : List Byte} (hpayload : frameEnd ∉ payload) :
    partsOf (frameStart :: payload) = [.openFrame payload] := by
  have hkept : ∀ b ∈ payload, (b != frameEnd) = true := by
    intro b hb
    exact bne_iff_ne.mpr fun hend => hpayload (hend ▸ hb)
  have hdrop : payload.dropWhile (· != frameEnd) = [] := List.dropWhile_eq_nil_iff.mpr hkept
  rw [partsOf, if_pos rfl]
  split
  · rw [List.takeWhile_eq_self_iff.mpr hkept]
  · rename_i hsome
    simp [hdrop] at hsome

@[simp]
theorem partsOf_strayEnd (later : List Byte) :
    partsOf (frameEnd :: later) = .strayEnd :: partsOf later := by
  rw [partsOf, if_neg frameStart_ne_frameEnd.symm, if_pos rfl]

theorem partsOf_shell {b : Byte} (hstart : b ≠ frameStart) (hend : b ≠ frameEnd)
    (later : List Byte) : partsOf (b :: later) = .shell b :: partsOf later := by
  rw [partsOf, if_neg hstart, if_neg hend]

/-- To show something of every stream, show it of the empty one, of one that
ends in a frame, and past a frame, a stray end byte or a byte of the shell. -/
theorem stream_induction {motive : List Byte → Prop} (nil : motive [])
    (openFrame : ∀ payload, frameEnd ∉ payload → motive (frameStart :: payload))
    (frame : ∀ payload later, frameEnd ∉ payload → motive later →
      motive (encodeFrame payload ++ later))
    (strayEnd : ∀ later, motive later → motive (frameEnd :: later))
    (shell : ∀ b later, b ≠ frameStart → b ≠ frameEnd → motive later → motive (b :: later))
    (bytes : List Byte) : motive bytes := by
  fun_induction partsOf bytes with
  | case1 => exact nil
  | case2 rest hnone =>
      refine openFrame rest fun hmem => ?_
      have hkept := List.dropWhile_eq_nil_iff.mp hnone frameEnd hmem
      simp at hkept
  | case3 rest found later hsome ih =>
      have hfound : found = frameEnd := by
        have hhead := List.head?_dropWhile_not (· != frameEnd) rest
        simpa [hsome] using hhead
      have hpayload : frameEnd ∉ rest.takeWhile (· != frameEnd) := by
        intro hmem
        simpa using List.mem_takeWhile_imp hmem
      have hrest : frameStart :: rest =
          encodeFrame (rest.takeWhile (· != frameEnd)) ++ later := by
        have hsplit := List.takeWhile_append_dropWhile (p := (· != frameEnd)) (l := rest)
        rw [hsome, hfound] at hsplit
        simp [encodeFrame, hsplit]
      rw [hrest]
      exact frame _ later hpayload ih
  | case4 rest _ ih => exact strayEnd rest ih
  | case5 b rest hstart hend ih => exact shell b rest hstart hend ih

/-- Where no frame is open, a stream can be cut into its parts piece by piece. -/
theorem partsOf_append {front : List Byte} (houtside : openPayload? (partsOf front) = none)
    (back : List Byte) : partsOf (front ++ back) = partsOf front ++ partsOf back := by
  induction front using stream_induction with
  | nil => rw [partsOf_nil, List.nil_append, List.nil_append]
  | openFrame payload hpayload =>
      rw [partsOf_openFrame hpayload] at houtside
      cases houtside
  | frame payload later hpayload ih =>
      rw [partsOf_frame hpayload] at houtside ⊢
      rw [List.append_assoc, partsOf_frame hpayload, ih houtside, List.cons_append]
  | strayEnd later ih =>
      rw [partsOf_strayEnd] at houtside ⊢
      rw [List.cons_append, partsOf_strayEnd, ih houtside, List.cons_append]
  | shell b later hstart hend ih =>
      rw [partsOf_shell hstart hend] at houtside ⊢
      rw [List.cons_append, partsOf_shell hstart hend, ih houtside, List.cons_append]

/-- Bytes that are no sentinels are all of the shell. -/
theorem partsOf_of_not_mem {bytes : List Byte} (hstart : frameStart ∉ bytes)
    (hend : frameEnd ∉ bytes) : partsOf bytes = bytes.map .shell := by
  induction bytes with
  | nil => exact partsOf_nil
  | cons b rest ih =>
      rw [List.mem_cons, not_or] at hstart hend
      rw [partsOf_shell (Ne.symm hstart.1) (Ne.symm hend.1), ih hstart.2 hend.2, List.map_cons]

/-- Nothing of the stream is left out. -/
theorem flatMap_bytes_partsOf (bytes : List Byte) :
    (partsOf bytes).flatMap Part.bytes = bytes := by
  induction bytes using stream_induction with
  | nil => simp
  | openFrame payload hpayload => simp [partsOf_openFrame hpayload, Part.bytes]
  | frame payload later hpayload ih =>
      rw [partsOf_frame hpayload, List.flatMap_cons, ih]
      rfl
  | strayEnd later ih => simp [Part.bytes, ih]
  | shell b later hstart hend ih => simp [partsOf_shell hstart hend, Part.bytes, ih]

theorem wellFormed_of_mem_partsOf (bytes : List Byte) :
    ∀ part ∈ partsOf bytes, part.WellFormed := by
  induction bytes using stream_induction with
  | nil => simp
  | openFrame payload hpayload =>
      simpa [partsOf_openFrame hpayload, Part.WellFormed] using hpayload
  | frame payload later hpayload ih =>
      rw [partsOf_frame hpayload]
      exact List.forall_mem_cons.mpr ⟨hpayload, ih⟩
  | strayEnd later ih =>
      rw [partsOf_strayEnd]
      exact List.forall_mem_cons.mpr ⟨trivial, ih⟩
  | shell b later hstart hend ih =>
      rw [partsOf_shell hstart hend]
      exact List.forall_mem_cons.mpr ⟨⟨hstart, hend⟩, ih⟩

/-- Only the last part can be a frame that the stream ends in. -/
theorem openFrame_not_mem_dropLast (bytes payload : List Byte) :
    .openFrame payload ∉ (partsOf bytes).dropLast := by
  have hcons : ∀ (part : Part) (later : List Part), part ≠ .openFrame payload →
      .openFrame payload ∉ later.dropLast →
      .openFrame payload ∉ (part :: later).dropLast := by
    intro part later hpart hlater hmem
    cases later with
    | nil => simp at hmem
    | cons next later =>
        rw [List.dropLast_cons_cons, List.mem_cons] at hmem
        rcases hmem with hhere | hthere
        · exact hpart hhere.symm
        · exact hlater hthere
  induction bytes using stream_induction with
  | nil => simp
  | openFrame held hheld => simp [partsOf_openFrame hheld]
  | frame held later hheld ih =>
      rw [partsOf_frame hheld]
      exact hcons _ _ (by simp) ih
  | strayEnd later ih =>
      rw [partsOf_strayEnd]
      exact hcons _ _ (by simp) ih
  | shell b later hstart hend ih =>
      rw [partsOf_shell hstart hend]
      exact hcons _ _ (by simp) ih

/-- Every end byte closes a frame or is a stray one. -/
theorem count_frameEnd (bytes : List Byte) :
    bytes.count frameEnd =
      (payloadsOf (partsOf bytes)).length + strayEndsOf (partsOf bytes) := by
  induction bytes using stream_induction with
  | nil => simp
  | openFrame payload hpayload =>
      have hcount : payload.count frameEnd = 0 := List.count_eq_zero.mpr hpayload
      rw [partsOf_openFrame hpayload, List.count_cons_of_ne frameStart_ne_frameEnd, hcount]
      simp
  | frame payload later hpayload ih =>
      have hcount : (encodeFrame payload).count frameEnd = 1 := by
        simp [encodeFrame, List.count_eq_zero.mpr hpayload, frameStart_ne_frameEnd]
      rw [partsOf_frame hpayload, List.count_append, hcount, ih]
      simp only [payloadsOf_cons, Part.payload?, List.length_append, Option.toList_some,
        List.length_singleton, strayEndsOf_cons, Part.isStray, Bool.false_eq_true, if_false]
      omega
  | strayEnd later ih =>
      rw [partsOf_strayEnd, List.count_cons_self, ih]
      simp
      omega
  | shell b later hstart hend ih =>
      rw [partsOf_shell hstart hend, List.count_cons_of_ne hend, ih]
      simp

end SerialConsole.Wire
