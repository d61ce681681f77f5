import SerialConsole.Proofs.Wire.Lines

/-!
# The form of a line

What arms an LF, which bytes can still be those of an unfinished line and which
are those of a whole one, said of the bytes themselves and for each rule apart.
-/

namespace SerialConsole.Wire

namespace LineRule

/-- Lenient lines go up to the first LF behind the first CR, strict ones up to the
first CR LF. -/
def IsLine : LineRule → List Byte → Prop
  | lenient, line =>
      ∃ front middle, line = front ++ cr :: middle ++ [lf] ∧ cr ∉ front ∧ lf ∉ middle
  | strict, line =>
      terminator <:+ line ∧ ∀ front back, line = front ++ terminator ++ back → back = []

variable {line : List Byte}

theorem arms_lenient_iff : lenient.arms line = true ↔ cr ∈ line := by
  rw [arms, List.contains_iff_mem]

theorem arms_strict_iff : strict.arms line = true ↔ line.getLast? = some cr := by
  rw [arms, beq_iff_eq]

theorem exists_of_completes {rule : LineRule} (hline : rule.Completes line) :
    ∃ body, line = body ++ [lf] ∧ rule.arms body = true := by
  obtain ⟨body, rfl⟩ := List.getLast?_eq_some_iff.mp hline.1
  exact ⟨body, rfl, (rule.completes_append_singleton body lf).mp hline |>.2⟩

theorem completes_strict_iff : strict.Completes line ↔ terminator <:+ line := by
  constructor
  · intro hline
    obtain ⟨front, rfl, harms⟩ := exists_of_completes hline
    obtain ⟨body, rfl⟩ := List.getLast?_eq_some_iff.mp (arms_strict_iff.mp harms)
    exact ⟨body, (List.append_assoc body [cr] [lf]).symm⟩
  · rintro ⟨body, rfl⟩
    have hline : body ++ terminator = body ++ [cr] ++ [lf] :=
      (List.append_assoc body [cr] [lf]).symm
    rw [hline, completes_append_singleton]
    exact ⟨rfl, strict.arms_append_cr body⟩

/-! ### Unfinished lines -/

theorem unfinished_lenient_iff :
    lenient.Unfinished line ↔ ∀ front back, line = front ++ cr :: back → lf ∉ back := by
  constructor
  · rintro hline front back rfl hlf
    obtain ⟨middle, rest, rfl⟩ := List.append_of_mem hlf
    have hfront : front ++ cr :: middle ++ [lf] <+: front ++ cr :: (middle ++ lf :: rest) :=
      ⟨rest, by simp⟩
    apply hline _ hfront
    rw [completes_append_singleton, arms_lenient_iff]
    exact ⟨rfl, List.mem_append_right front List.mem_cons_self⟩
  · rintro hline front ⟨rest, rfl⟩ hcomplete
    obtain ⟨body, rfl, harms⟩ := exists_of_completes hcomplete
    obtain ⟨before, middle, rfl⟩ := List.append_of_mem (arms_lenient_iff.mp harms)
    apply hline before (middle ++ lf :: rest) (by simp)
    exact List.mem_append_right middle List.mem_cons_self

theorem unfinished_strict_iff : strict.Unfinished line ↔ ¬terminator <:+: line := by
  constructor
  · rintro hline ⟨front, back, rfl⟩
    apply hline (front ++ terminator) (List.prefix_append _ back)
    exact completes_strict_iff.mpr (List.suffix_append front terminator)
  · intro hline front hfront hcomplete
    exact hline ((completes_strict_iff.mp hcomplete).isInfix.trans hfront.isInfix)

/-! ### Whole lines -/

/-- A line cut off where it is complete, and no earlier, has the form of a line. -/
theorem isLine_of_completes {rule : LineRule} (hcomplete : rule.Completes line)
    (hfirst : rule.Unfinished line.dropLast) : rule.IsLine line := by
  obtain ⟨body, rfl, harms⟩ := exists_of_completes hcomplete
  rw [List.dropLast_concat] at hfirst
  cases rule with
  | lenient =>
      obtain ⟨front, middle, rfl, hfront⟩ := List.eq_append_cons_of_mem (arms_lenient_iff.mp harms)
      exact ⟨front, middle, rfl, hfront, unfinished_lenient_iff.mp hfirst front middle rfl⟩
  | strict =>
      refine ⟨completes_strict_iff.mp hcomplete, ?_⟩
      intro front back hsplit
      obtain hnone | ⟨rest, b, hlast⟩ := back.eq_nil_or_concat
      · exact hnone
      · -- the CR LF would stand in the bytes before the last one
        exfalso
        rw [hlast, List.concat_eq_append, ← List.append_assoc] at hsplit
        obtain ⟨hbody, -⟩ := List.append_inj' hsplit rfl
        exact unfinished_strict_iff.mp hfirst ⟨front, rest, hbody.symm⟩

/-- No front part of a line is a line. -/
theorem not_completes_of_prefix {rule : LineRule} (hfirst : rule.Unfinished line.dropLast)
    {front : List Byte} (hfront : front <+: line) (hproper : front ≠ line) :
    ¬rule.Completes front := by
  obtain hnone | ⟨body, b, hlast⟩ := line.eq_nil_or_concat
  · rw [hnone, List.prefix_nil] at hfront
    exact absurd (hfront.trans hnone.symm) hproper
  · rw [hlast, List.concat_eq_append] at hfront hproper hfirst
    rw [List.dropLast_concat] at hfirst
    exact hfirst front ((List.prefix_concat_iff.mp hfront).resolve_left hproper)

end LineRule

end SerialConsole.Wire
