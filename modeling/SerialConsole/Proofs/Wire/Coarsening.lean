import SerialConsole.Proofs.Wire.Framing
import SerialConsole.Proofs.Wire.LineForms
import SerialConsole.Proofs.Wire.TwoChannels

/-!
# The strict rule coarsens the lenient one

A strict and a lenient splitter that take the same bytes drift apart, as the
lenient one ends lines that the strict one goes on with.  What stands between
them is the lenient lines since the last strict one: the unfinished line of the
strict splitter is these lines and then the unfinished line of the lenient one.
A line that ends for the strict splitter takes all of them in, and the two are
together again.
-/

namespace SerialConsole.Wire

open LineRule

/-- Texts one behind the other, their replaced bytes counted together. -/
def Decoded.join (parts : List Decoded) : Decoded where
  text := String.join (parts.map Decoded.text)
  replaced := (parts.map Decoded.replaced).sum

/-- The byte ends no line: a frame, a stray end or nothing comes of it. -/
def EndsNoLine (emitted : Option Record) : Prop :=
  ∀ content, emitted ≠ some (.line content)

theorem endsNoLine_none : EndsNoLine none := by
  rintro content ⟨⟩

theorem endsNoLine_frame (content : Decoded) : EndsNoLine (some (.frame content)) := by
  rintro other ⟨⟩

theorem endsNoLine_strayEnd : EndsNoLine (some .strayEnd) := by
  rintro content ⟨⟩

/-- Byte by byte, what a strict splitter emits is made of what a lenient one
emits.  `held` are the lenient lines that wait for a strict line to take them in,
`parts` the lenient lines still to come, and `left` those that wait at the end. -/
inductive Merges : (held : List (List Byte)) → (strict lenient : List (Option Record)) →
    (parts left : List (List Byte)) → Prop where
  | done (held : List (List Byte)) : Merges held [] [] [] held
  | alike {held : List (List Byte)} {strict lenient : List (Option Record)}
      {parts left : List (List Byte)} (emitted : Option Record)
      (hemitted : EndsNoLine emitted) (hlater : Merges held strict lenient parts left) :
      Merges held (emitted :: strict) (emitted :: lenient) parts left
  /-- A lenient line ends within a strict one. -/
  | within {held : List (List Byte)} {strict lenient : List (Option Record)}
      {parts left : List (List Byte)} (part : List Byte)
      (hlater : Merges (held ++ [part]) strict lenient parts left) :
      Merges held (none :: strict) (some (.line (decode part)) :: lenient) (part :: parts) left
  /-- A strict line ends, and with it the last of the lenient lines in it. -/
  | together {held : List (List Byte)} {strict lenient : List (Option Record)}
      {parts left : List (List Byte)} (part : List Byte)
      (hlater : Merges [] strict lenient parts left) :
      Merges held (some (.line (decode (held ++ [part]).flatten)) :: strict)
        (some (.line (decode part)) :: lenient) (part :: parts) left

/-! ### Where the lines end -/

/-- All of these lines end in an LF. -/
def AllEnded (lines : List (List Byte)) : Prop :=
  ∀ line ∈ lines, line.getLast? = some lf

theorem allEnded_nil : AllEnded [] :=
  List.forall_mem_nil _

theorem AllEnded.concat {held : List (List Byte)} {part : List Byte} (hheld : AllEnded held)
    (hpart : lenient.Completes part) : AllEnded (held ++ [part]) :=
  List.forall_mem_append.mpr ⟨hheld, List.forall_mem_singleton.mpr hpart.1⟩

/-- Lines that have ended do not arm anything: if the strict rule is armed, the CR
is in the unfinished line. -/
theorem arms_lenient_of_strict {held : List (List Byte)} (hheld : AllEnded held)
    {line : List Byte} (hstrict : strict.arms (held.flatten ++ line) = true) :
    lenient.arms line = true := by
  rw [arms_strict_iff, List.getLast?_append] at hstrict
  rw [arms_lenient_iff]
  cases hlast : line.getLast? with
  | some b =>
      rw [hlast] at hstrict
      have hcr : b = cr := Option.some.inj hstrict
      exact hcr ▸ List.mem_of_getLast? hlast
  | none =>
      rw [hlast, Option.none_or] at hstrict
      obtain hnone | ⟨front, part, hconcat⟩ := held.eq_nil_or_concat
      · rw [hnone] at hstrict
        cases hstrict
      · have hpart := hheld part (by rw [hconcat]; simp)
        rw [hconcat, List.concat_eq_append, List.flatten_append, List.flatten_singleton,
          List.getLast?_append, hpart] at hstrict
        cases hstrict

/-- An LF that ends a strict line ends a lenient one. -/
theorem completes_lenient_of_strict {held : List (List Byte)} (hheld : AllEnded held)
    {line : List Byte} {b : Byte} (hstrict : strict.Completes (held.flatten ++ line ++ [b])) :
    lenient.Completes (line ++ [b]) := by
  rw [completes_append_singleton] at hstrict ⊢
  exact ⟨hstrict.1, arms_lenient_of_strict hheld hstrict.2⟩

/-! ### Byte by byte -/

theorem Merges.append_alike {held parts left : List (List Byte)}
    {front strict lenient : List (Option Record)}
    (hfront : ∀ emitted ∈ front, EndsNoLine emitted)
    (hlater : Merges held strict lenient parts left) :
    Merges held (front ++ strict) (front ++ lenient) parts left := by
  induction front with
  | nil => exact hlater
  | cons emitted front ih =>
      obtain ⟨hhere, hthere⟩ := List.forall_mem_cons.mp hfront
      exact .alike emitted hhere (ih hthere)

/-- What is emitted under either rule, and what is left, if the strict splitter
goes on with lines that have ended for the lenient one. -/
theorem merges_emissions {held : List (List Byte)} (hheld : AllEnded held) (line : List Byte)
    (parts : List Part) :
    ∃ left, Merges held (emissions strict (held.flatten ++ line) parts)
          (emissions lenient line parts) (lenient.cut line (shellOf parts)).1 left ∧
        AllEnded left ∧
        (strict.cut (held.flatten ++ line) (shellOf parts)).2 =
          left.flatten ++ (lenient.cut line (shellOf parts)).2 := by
  induction parts generalizing held line with
  | nil => exact ⟨held, .done held, hheld, rfl⟩
  | cons part later ih =>
      cases part with
      | frame payload =>
          obtain ⟨left, hmerges, hleft⟩ := ih hheld line
          refine ⟨left, Merges.append_alike ?_ hmerges, hleft⟩
          intro emitted hemitted
          rcases List.mem_append.mp hemitted with hnone | hframe
          · rw [List.eq_of_mem_replicate hnone]
            exact endsNoLine_none
          · rw [List.mem_singleton.mp hframe]
            exact endsNoLine_frame (decode payload)
      | openFrame payload =>
          obtain ⟨left, hmerges, hleft⟩ := ih hheld line
          refine ⟨left, Merges.append_alike ?_ hmerges, hleft⟩
          intro emitted hnone
          rw [List.eq_of_mem_replicate hnone]
          exact endsNoLine_none
      | strayEnd =>
          obtain ⟨left, hmerges, hleft⟩ := ih hheld line
          exact ⟨left, .alike (some .strayEnd) endsNoLine_strayEnd hmerges, hleft⟩
      | shell b =>
          have hshell : shellOf (.shell b :: later) = b :: shellOf later := rfl
          rw [hshell]
          by_cases hlenient : lenient.Completes (line ++ [b])
          · rw [emissions, emissions, if_pos hlenient, cut_cons_of_completes hlenient]
            by_cases hstrict : strict.Completes (held.flatten ++ line ++ [b])
            · obtain ⟨left, hmerges, hleft⟩ := @ih [] allEnded_nil []
              rw [if_pos hstrict, cut_cons_of_completes hstrict]
              refine ⟨left, ?_, hleft⟩
              have hwhole : held.flatten ++ line ++ [b] = (held ++ [line ++ [b]]).flatten := by
                simp
              rw [hwhole]
              exact .together (line ++ [b]) hmerges
            · obtain ⟨left, hmerges, hleft⟩ := ih (hheld.concat hlenient) []
              have hwithin : (held ++ [line ++ [b]]).flatten ++ [] =
                  held.flatten ++ line ++ [b] := by
                simp
              rw [hwithin] at hmerges hleft
              rw [if_neg hstrict, cut_cons_of_not_completes hstrict]
              exact ⟨left, .within (line ++ [b]) hmerges, hleft⟩
          · have hstrict : ¬strict.Completes (held.flatten ++ line ++ [b]) :=
              mt (completes_lenient_of_strict hheld) hlenient
            obtain ⟨left, hmerges, hleft⟩ := ih hheld (line ++ [b])
            rw [← List.append_assoc] at hmerges hleft
            rw [emissions, emissions, if_neg hlenient, if_neg hstrict,
              cut_cons_of_not_completes hlenient, cut_cons_of_not_completes hstrict]
            exact ⟨left, .alike none endsNoLine_none hmerges, hleft⟩

/-! ### What merging amounts to -/

theorem decode_flatten (parts : List (List Byte)) :
    decode parts.flatten = .join (parts.map decode) := by
  induction parts with
  | nil => rfl
  | cons part parts ih =>
      have htext := congrArg Decoded.text ih
      have hreplaced := congrArg Decoded.replaced ih
      simp only [decode, Decoded.join] at htext hreplaced
      simp only [decode, Decoded.join, List.flatten_cons, List.map_append, List.countP_append,
        String.ofList_append, List.map_cons, String.join_cons, List.sum_cons, htext, hreplaced]

theorem linesIn_cons_of_endsNoLine {emitted : Option Record} (hemitted : EndsNoLine emitted)
    (later : List (Option Record)) :
    linesIn ((emitted :: later).filterMap id) = linesIn (later.filterMap id) := by
  cases emitted with
  | none => rfl
  | some record =>
      cases record with
      | frame content => rfl
      | strayEnd => rfl
      | line content => exact absurd rfl (hemitted content)

namespace Merges

variable {held parts left : List (List Byte)} {strict lenient : List (Option Record)}

/-- Where a strict line ends, a lenient one does. -/
theorem exists_line (hmerges : Merges held strict lenient parts left) {place : Nat}
    {whole : Decoded} (hwhole : strict[place]? = some (some (.line whole))) :
    ∃ part, lenient[place]? = some (some (.line part)) := by
  induction hmerges generalizing place with
  | done held => cases hwhole
  | alike emitted hemitted _ ih =>
      cases place with
      | zero => exact absurd (Option.some.inj hwhole) (hemitted whole)
      | succ place => exact ih hwhole
  | within part _ ih =>
      cases place with
      | zero => cases hwhole
      | succ place => exact ih hwhole
  | together part _ ih =>
      cases place with
      | zero => exact ⟨decode part, rfl⟩
      | succ place => exact ih hwhole

theorem linesIn_lenient (hmerges : Merges held strict lenient parts left) :
    linesIn (lenient.filterMap id) = parts.map decode := by
  induction hmerges with
  | done held => rfl
  | alike emitted hemitted _ ih => exact (linesIn_cons_of_endsNoLine hemitted _).trans ih
  | within part _ ih => exact congrArg (decode part :: ·) ih
  | together part _ ih => exact congrArg (decode part :: ·) ih

/-- The lenient lines fall into runs, one for each strict line, and a rest that
no strict line has taken in. -/
theorem exists_runs (hmerges : Merges held strict lenient parts left) :
    ∃ runs : List (List (List Byte)), held ++ parts = runs.flatten ++ left ∧
      (∀ run ∈ runs, run ≠ []) ∧
        linesIn (strict.filterMap id) = runs.map fun run => .join (run.map decode) := by
  induction hmerges with
  | done held => exact ⟨[], List.append_nil held, List.forall_mem_nil _, rfl⟩
  | alike emitted hemitted _ ih =>
      obtain ⟨runs, hparts, hruns, hlines⟩ := ih
      exact ⟨runs, hparts, hruns, (linesIn_cons_of_endsNoLine hemitted _).trans hlines⟩
  | within part _ ih =>
      obtain ⟨runs, hparts, hruns, hlines⟩ := ih
      exact ⟨runs, by rw [← hparts, List.append_assoc, List.singleton_append], hruns, hlines⟩
  | @together held _ _ _ _ part _ ih =>
      obtain ⟨runs, hparts, hruns, hlines⟩ := ih
      refine ⟨(held ++ [part]) :: runs, ?_, ?_, ?_⟩
      · rw [List.flatten_cons, List.append_assoc, List.append_assoc, ← hparts]
        rfl
      · exact List.forall_mem_cons.mpr ⟨by simp, hruns⟩
      · rw [List.map_cons, ← hlines, ← decode_flatten]
        rfl

end Merges

/-- A strict and a lenient splitter after the same bytes: the lenient lines fall
into `runs`, one for each strict line, and into those `left` since the last. -/
structure Coarsens (stream : List Byte) (strict lenient : Splitter × List (Option Record))
    (runs : List (List (List Byte))) (left : List (List Byte)) : Prop where
  /-- Frames and stray ends are the same, and come at the same bytes. -/
  framing : framingAt strict.2 = framingAt lenient.2
  /-- A byte that ends a strict line ends a lenient one. -/
  together : ∀ (place : Nat) (whole : Decoded), strict.2[place]? = some (some (.line whole)) →
    ∃ part, lenient.2[place]? = some (some (.line part))
  /-- The bytes of the lenient lines, in order. -/
  parts : (LineRule.lenient.cut [] (shellOf (partsOf stream))).1 = runs.flatten ++ left
  lenientLines : linesIn (lenient.2.filterMap id) = (runs.flatten ++ left).map decode
  nonempty : ∀ run ∈ runs, run ≠ []
  /-- Each strict line is a run of lenient ones, with as many bytes replaced. -/
  strictLines : linesIn (strict.2.filterMap id) = runs.map fun run => .join (run.map decode)
  /-- The last lenient line of a run ends at the byte that ends the strict one. -/
  merges : Merges [] strict.2 lenient.2 (runs.flatten ++ left) left
  unfinished : strict.1.line = left.flatten ++ lenient.1.line
  armed : strict.1.armed = true → lenient.1.armed = true

/-- Whatever the bytes, the strict rule ends a line only where the lenient rule
does, so that its lines are made of whole lenient lines. -/
theorem strict_rule_coarsens_lenient (stream : List Byte) :
    ∃ runs left, Coarsens stream ((Splitter.new .strict).trace stream)
      ((Splitter.new .lenient).trace stream) runs left := by
  obtain ⟨left, hmerges, hleft, hline⟩ :=
    @merges_emissions [] allEnded_nil [] (partsOf stream)
  obtain ⟨runs, hparts, hruns, hlines⟩ := hmerges.exists_runs
  have hframing := (@Splitter.framing_trace (.new .strict) (.new .lenient) rfl stream).2
  rw [Splitter.new_eq_holding, Splitter.new_eq_holding, Splitter.trace_holding,
    Splitter.trace_holding] at hframing ⊢
  rw [List.nil_append] at hparts
  rw [hparts] at hmerges
  exact ⟨runs, left,
    { framing := hframing
      together := fun place whole hwhole => hmerges.exists_line hwhole
      parts := hparts
      lenientLines := hmerges.linesIn_lenient
      nonempty := hruns
      strictLines := hlines
      merges := hmerges
      unfinished := hline
      armed := by
        intro hstrict
        rw [Splitter.armed_holding] at hstrict ⊢
        exact arms_lenient_of_strict hleft (hline ▸ hstrict) }⟩

end SerialConsole.Wire
