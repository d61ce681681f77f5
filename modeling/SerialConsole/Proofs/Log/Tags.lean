import SerialConsole.Log.Classification
import SerialConsole.Proofs.Log.LetterCase

/-!
# Tags and lines

A text bears a tag if the tag stands anywhere in it, in any case of its letters.
No tag contains a character that ends a line, so a tag never reaches over the
end of a line: it stands in a text exactly if it stands in one of its lines.
-/

namespace SerialConsole

namespace Text

theorem isPrefix_append_cons {needle front back : List Char} {c : Char} (hc : c ∉ needle) :
    needle <+: front ++ c :: back ↔ needle <+: front := by
  induction front generalizing needle with
  | nil =>
      cases needle with
      | nil => simp
      | cons first needle =>
          have hfirst : first ≠ c := by
            rintro rfl
            exact hc List.mem_cons_self
          simp [List.cons_prefix_cons, hfirst]
  | cons d front ih =>
      cases needle with
      | nil => simp
      | cons first needle =>
          rw [List.cons_append, List.cons_prefix_cons, List.cons_prefix_cons,
            ih fun hmem => hc (List.mem_cons_of_mem first hmem)]

/-- What does not contain a character occurs before it or after it. -/
theorem isInfix_append_cons {needle front back : List Char} {c : Char} (hc : c ∉ needle) :
    needle <:+: front ++ c :: back ↔ needle <:+: front ∨ needle <:+: back := by
  induction front with
  | nil =>
      have hstart : needle <+: [] ++ c :: back ↔ needle <+: [] := isPrefix_append_cons hc
      rw [List.nil_append] at hstart
      rw [List.nil_append, List.infix_cons_iff, hstart, List.prefix_nil, List.infix_nil]
  | cons d front ih =>
      have hstart : needle <+: d :: front ++ c :: back ↔ needle <+: d :: front :=
        isPrefix_append_cons hc
      rw [List.cons_append] at hstart
      rw [List.cons_append, List.infix_cons_iff, hstart, ih, List.infix_cons_iff, or_assoc]

end Text

namespace Log

open Text (lowerAscii Recased)

/-- A tag stands somewhere in a text, in any case of its letters. -/
def Bears (text tag : String) : Prop :=
  ∃ run, run <:+: text.toList ∧ Recased tag.toList run

/-- The two spellings of the tag of a category. -/
def Category.spellings (category : Category) : List String :=
  ["[" ++ category.name ++ "]", "[" ++ category.name ++ " ]"]

def Subsystem.spelling (subsystem : Subsystem) : String :=
  "[" ++ subsystem.name ++ "]"

variable {text other later tag : String}

theorem bears_iff :
    Bears text tag ↔ tag.toList.map lowerAscii <:+: text.toList.map lowerAscii :=
  Text.infix_map_lowerAscii_iff.symm

theorem Bears.append_right (hbears : Bears text tag) (later : String) :
    Bears (text ++ later) tag := by
  obtain ⟨run, hrun, htag⟩ := hbears
  refine ⟨run, hrun.trans ?_, htag⟩
  rw [String.toList_append]
  exact (List.prefix_append text.toList later.toList).isInfix

theorem Bears.append_left (hbears : Bears later tag) (text : String) :
    Bears (text ++ later) tag := by
  obtain ⟨run, hrun, htag⟩ := hbears
  refine ⟨run, hrun.trans ?_, htag⟩
  rw [String.toList_append]
  exact (List.suffix_append text.toList later.toList).isInfix

/-- Of two texts that differ in case, both bear a tag or neither does. -/
theorem bears_congr (hcase : Recased text.toList other.toList) : Bears text tag ↔ Bears other tag := by
  rw [bears_iff, bears_iff, Text.map_lowerAscii_eq_iff.mpr hcase]

/-- A tag does not reach over a character that it does not contain. -/
theorem bears_append_append {separator : Char}
    (hseparator : lowerAscii separator ∉ tag.toList.map lowerAscii) :
    Bears (text ++ String.singleton separator ++ later) tag ↔ Bears text tag ∨ Bears later tag := by
  have hchars : (text ++ String.singleton separator ++ later).toList.map lowerAscii =
      text.toList.map lowerAscii ++ lowerAscii separator :: later.toList.map lowerAscii := by
    simp only [String.toList_append, String.toList_singleton, List.map_append, List.map_cons,
      List.append_assoc, List.singleton_append]
  rw [bears_iff, bears_iff, bears_iff, hchars, Text.isInfix_append_cons hseparator]

/-- The tags that are looked for are the spellings of the name. -/
theorem Category.tags_eq (category : Category) : category.tags = category.spellings := by
  cases category <;> decide

theorem Subsystem.tag_eq (subsystem : Subsystem) : subsystem.tag = subsystem.spelling := by
  cases subsystem <;> decide

theorem Category.map_lowerAscii_spellings (category : Category) :
    ∀ tag ∈ category.spellings, tag.toList.map lowerAscii = tag.toList := by
  cases category <;> decide

theorem Subsystem.map_lowerAscii_spelling (subsystem : Subsystem) :
    subsystem.spelling.toList.map lowerAscii = subsystem.spelling.toList := by
  cases subsystem <;> decide

theorem Category.any_tags_iff (category : Category) (text : String) :
    (category.tags.any fun tag => Text.occursIn tag.toList (text.toList.map lowerAscii)) = true ↔
      ∃ tag ∈ category.spellings, Bears text tag := by
  rw [category.tags_eq, List.any_eq_true]
  apply exists_congr
  intro tag
  apply and_congr_right
  intro htag
  rw [Text.occursIn_iff, bears_iff, category.map_lowerAscii_spellings tag htag]

theorem Subsystem.occursIn_tag_iff (subsystem : Subsystem) (text : String) :
    Text.occursIn subsystem.tag.toList (text.toList.map lowerAscii) = true ↔
      Bears text subsystem.spelling := by
  rw [subsystem.tag_eq, Text.occursIn_iff, bears_iff, subsystem.map_lowerAscii_spelling]

/-- The characters that end a line. -/
def lineEnds : List Char := ['\n', '\r']

theorem Category.lineEnd_notMem_spellings (category : Category) :
    ∀ tag ∈ category.spellings, ∀ c ∈ lineEnds, lowerAscii c ∉ tag.toList.map lowerAscii := by
  have hall : (category.spellings.all fun tag => lineEnds.all fun c =>
      decide (lowerAscii c ∉ tag.toList.map lowerAscii)) = true := by
    cases category <;> decide +kernel
  simpa only [List.all_eq_true, decide_eq_true_eq] using hall

theorem Subsystem.lineEnd_notMem_spelling (subsystem : Subsystem) :
    ∀ c ∈ lineEnds, lowerAscii c ∉ subsystem.spelling.toList.map lowerAscii := by
  have hall : (lineEnds.all fun c =>
      decide (lowerAscii c ∉ subsystem.spelling.toList.map lowerAscii)) = true := by
    cases subsystem <;> decide +kernel
  simpa only [List.all_eq_true, decide_eq_true_eq] using hall

end Log

end SerialConsole
