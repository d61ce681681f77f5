import SerialConsole.Wire.Splitter

/-!
# Lines of the shell channel

Which lines a rule finds in the shell channel can be said of the bytes alone: a
line ends at the first LF that something before it in the line has armed.  No
flag is carried along, and what has been cut off has no influence on the rest.
-/

namespace SerialConsole.Wire

namespace LineRule

/-- Whether an LF that follows these bytes of a line ends it. -/
def arms : LineRule → List Byte → Bool
  | lenient, line => line.contains cr
  | strict, line => line.getLast? == some cr

/-- The line ends in an LF that the bytes before it have armed. -/
def Completes (rule : LineRule) (line : List Byte) : Prop :=
  line.getLast? = some lf ∧ rule.arms line.dropLast = true

instance (rule : LineRule) (line : List Byte) : Decidable (rule.Completes line) :=
  inferInstanceAs (Decidable (_ ∧ _))

/-- No line ends within these bytes. -/
def Unfinished (rule : LineRule) (line : List Byte) : Prop :=
  ∀ front, front <+: line → ¬rule.Completes front

@[simp]
theorem arms_nil (rule : LineRule) : rule.arms [] = false := by
  cases rule <;> rfl

theorem arms_append_cr (rule : LineRule) (line : List Byte) :
    rule.arms (line ++ [cr]) = true := by
  cases rule <;> simp [arms]

@[simp]
theorem completes_append_singleton (rule : LineRule) (line : List Byte) (b : Byte) :
    rule.Completes (line ++ [b]) ↔ b = lf ∧ rule.arms line = true := by
  simp [Completes]

theorem not_completes_nil (rule : LineRule) : ¬rule.Completes [] := by
  simp [Completes]

theorem unfinished_nil (rule : LineRule) : rule.Unfinished [] := by
  intro front hfront
  rw [List.prefix_nil.mp hfront]
  exact rule.not_completes_nil

theorem Unfinished.append_singleton {rule : LineRule} {line : List Byte} {b : Byte}
    (hline : rule.Unfinished line) (hb : ¬rule.Completes (line ++ [b])) :
    rule.Unfinished (line ++ [b]) := by
  intro front hfront
  rcases List.prefix_concat_iff.mp hfront with hwhole | hwithin
  · rwa [hwhole]
  · exact hline front hwithin

/-- The lines found in bytes that continue a line begun before, and the bytes of
the line left unfinished. -/
def cut (rule : LineRule) (line : List Byte) : List Byte → List (List Byte) × List Byte
  | [] => ([], line)
  | b :: rest =>
      if rule.Completes (line ++ [b]) then
        let (lines, left) := rule.cut [] rest
        ((line ++ [b]) :: lines, left)
      else rule.cut (line ++ [b]) rest

theorem cut_cons_of_completes {rule : LineRule} {line : List Byte} {b : Byte}
    (hline : rule.Completes (line ++ [b])) (rest : List Byte) :
    rule.cut line (b :: rest) =
      ((line ++ [b]) :: (rule.cut [] rest).1, (rule.cut [] rest).2) := by
  rw [cut, if_pos hline]

theorem cut_cons_of_not_completes {rule : LineRule} {line : List Byte} {b : Byte}
    (hline : ¬rule.Completes (line ++ [b])) (rest : List Byte) :
    rule.cut line (b :: rest) = rule.cut (line ++ [b]) rest := by
  rw [cut, if_neg hline]

/-- Cutting keeps every byte in its place. -/
theorem flatten_cut (rule : LineRule) (line shell : List Byte) :
    (rule.cut line shell).1.flatten ++ (rule.cut line shell).2 = line ++ shell := by
  induction shell generalizing line with
  | nil => simp [cut]
  | cons b rest ih =>
      by_cases hline : rule.Completes (line ++ [b])
      · rw [cut_cons_of_completes hline]
        simpa using ih []
      · rw [cut_cons_of_not_completes hline]
        simpa using ih (line ++ [b])

/-- Without an LF nothing is cut off. -/
theorem cut_of_lf_notMem {rule : LineRule} {front : List Byte} (hfront : lf ∉ front)
    (line back : List Byte) : rule.cut line (front ++ back) = rule.cut (line ++ front) back := by
  induction front generalizing line with
  | nil => rw [List.nil_append, List.append_nil]
  | cons b front ih =>
      rw [List.mem_cons, not_or] at hfront
      obtain ⟨hb, hrest⟩ := hfront
      have hopen : ¬rule.Completes (line ++ [b]) := by
        rw [completes_append_singleton]
        exact fun hcomplete => hb hcomplete.1.symm
      rw [List.cons_append, cut_cons_of_not_completes hopen, ih hrest, List.append_assoc,
        List.singleton_append]

/-- CR LF ends a line under either rule, CRs before it or not. -/
theorem cut_terminator {rule : LineRule} {body : List Byte} (hbody : lf ∉ body)
    (line back : List Byte) :
    rule.cut line (body ++ terminator ++ back) =
      ((line ++ (body ++ terminator)) :: (rule.cut [] back).1, (rule.cut [] back).2) := by
  have hbytes : body ++ terminator ++ back = body ++ [cr] ++ lf :: back := by
    simp only [terminator, List.append_assoc, List.cons_append, List.nil_append]
  have hopen : lf ∉ body ++ [cr] := by
    rw [List.mem_append, List.mem_singleton, not_or]
    exact ⟨hbody, by decide⟩
  have hline : line ++ (body ++ [cr]) ++ [lf] = line ++ (body ++ terminator) := by
    simp only [terminator, List.append_assoc, List.cons_append, List.nil_append]
  have hcomplete : rule.Completes (line ++ (body ++ [cr]) ++ [lf]) := by
    rw [completes_append_singleton, ← List.append_assoc]
    exact ⟨rfl, rule.arms_append_cr (line ++ body)⟩
  rw [hbytes, cut_of_lf_notMem hopen, cut_cons_of_completes hcomplete, hline]

/-- A line is cut off where it is complete and no earlier. -/
theorem completes_of_mem_cut {rule : LineRule} {line shell : List Byte}
    (hline : rule.Unfinished line) :
    ∀ found ∈ (rule.cut line shell).1,
      rule.Completes found ∧ rule.Unfinished found.dropLast := by
  induction shell generalizing line with
  | nil => simp [cut]
  | cons b rest ih =>
      by_cases hcomplete : rule.Completes (line ++ [b])
      · rw [cut_cons_of_completes hcomplete]
        refine List.forall_mem_cons.mpr ⟨⟨hcomplete, ?_⟩, ih rule.unfinished_nil⟩
        rwa [List.dropLast_concat]
      · rw [cut_cons_of_not_completes hcomplete]
        exact ih (hline.append_singleton hcomplete)

theorem unfinished_cut {rule : LineRule} {line shell : List Byte}
    (hline : rule.Unfinished line) : rule.Unfinished (rule.cut line shell).2 := by
  induction shell generalizing line with
  | nil => exact hline
  | cons b rest ih =>
      by_cases hcomplete : rule.Completes (line ++ [b])
      · rw [cut_cons_of_completes hcomplete]
        exact ih rule.unfinished_nil
      · rw [cut_cons_of_not_completes hcomplete]
        exact ih (hline.append_singleton hcomplete)

end LineRule

end SerialConsole.Wire
