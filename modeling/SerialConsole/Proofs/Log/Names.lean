import SerialConsole.Proofs.Log.Urgency
import SerialConsole.Proofs.Text.Trimming

/-!
# The names of categories and subsystems

A category or a subsystem is named by its name in any case, in any number of
brackets, with blanks around it all.  The names differ in more than case, so a
text names one thing at most; and its name part, put in brackets once, is a tag
by which a record is classified as what was named.
-/

namespace SerialConsole.Log

open Text (lowerAscii Recased SameLetter trim)

/-- Blanks around it aside, the text is the core behind any number of opening
brackets and in front of any number of closing ones. -/
def InBrackets (core typed : String) : Prop :=
  ∃ opening closing : Nat, (trim typed).toList =
    List.replicate opening '[' ++ core.toList ++ List.replicate closing ']'

/-- The text is a name in any case, in brackets or not. -/
def Names (typed name : String) : Prop :=
  ∃ core, InBrackets core typed ∧ Recased name.toList core.toList

/-- What a text has in its brackets. -/
structure NamePart (typed core : String) : Prop where
  inBrackets : InBrackets core typed
  opening : '[' ∉ core.toList
  closing : ']' ∉ core.toList

/-- A name in small letters that has no brackets. -/
structure PlainName (name : String) : Prop where
  opening : '[' ∉ name.toList
  closing : ']' ∉ name.toList
  small : name.toList.map lowerAscii = name.toList

/-- A list of all there is to name, and plain names that tell it apart. -/
structure NameTable {α : Type} (all : List α) (name : α → String) : Prop where
  complete : ∀ a, a ∈ all
  plain : ∀ a, PlainName (name a)
  injective : Function.Injective name

/-! ### The name part of a text -/

section Part

variable {typed core name other : String}

theorem NamePart.bareName_eq (hpart : NamePart typed core) : bareName typed = core.toList := by
  obtain ⟨opening, closing, htyped⟩ := hpart.inBrackets
  rw [bareName, ← Text.toList_trim, Text.trimEndWhile_dropWhile_eq_iff]
  refine ⟨fun c hc => ?_, fun c hc => ?_, _, _, fun c hc => ?_, fun c hc => ?_, htyped⟩
  · rw [beq_eq_false_iff_ne]
    rintro rfl
    exact hpart.opening (List.mem_of_mem_head? hc)
  · rw [beq_eq_false_iff_ne]
    rintro rfl
    exact hpart.closing (List.mem_of_mem_getLast? hc)
  · exact beq_iff_eq.mpr (List.eq_of_mem_replicate hc)
  · exact beq_iff_eq.mpr (List.eq_of_mem_replicate hc)

theorem NamePart.unique (hpart : NamePart typed core) (hother : NamePart typed other) :
    other = core := by
  apply String.toList_injective
  rw [← hother.bareName_eq, hpart.bareName_eq]

theorem inBrackets_bareName (typed : String) :
    InBrackets (String.ofList (bareName typed)) typed := by
  obtain ⟨-, -, before, after, hbefore, hafter, htyped⟩ :=
    Text.trimEndWhile_dropWhile_eq_iff.mp (Eq.refl (bareName typed))
  have hopening : before = List.replicate before.length '[' :=
    List.eq_replicate_of_mem fun c hc => beq_iff_eq.mp (hbefore c hc)
  have hclosing : after = List.replicate after.length ']' :=
    List.eq_replicate_of_mem fun c hc => beq_iff_eq.mp (hafter c hc)
  refine ⟨before.length, after.length, ?_⟩
  rw [Text.toList_trim, String.toList_ofList, ← hopening, ← hclosing, htyped]

/-- The case of letters brings no brackets into a plain name. -/
theorem PlainName.namePart (hplain : PlainName name) (hbrackets : InBrackets core typed)
    (hcase : Recased name.toList core.toList) : NamePart typed core where
  inBrackets := hbrackets
  opening := hcase.notMem
    (fun _ hsame => hsame.eq_of_not_letter (by decide) (by decide)) hplain.opening
  closing := hcase.notMem
    (fun _ hsame => hsame.eq_of_not_letter (by decide) (by decide)) hplain.closing

theorem PlainName.names_iff (hplain : PlainName name) :
    Names typed name ↔ Recased name.toList (bareName typed) := by
  constructor
  · rintro ⟨core, hbrackets, hcase⟩
    rwa [(hplain.namePart hbrackets hcase).bareName_eq]
  · intro hcase
    refine ⟨_, inBrackets_bareName typed, ?_⟩
    rwa [String.toList_ofList]

/-- Blanks around a text do not matter. -/
theorem names_trim : Names (trim typed) name ↔ Names typed name := by
  simp only [Names, InBrackets, Text.trim_trim]

/-- Plain names of one text are the same. -/
theorem PlainName.unique (hname : PlainName name) (hother : PlainName other)
    (hnames : Names typed name) (hothers : Names typed other) : name = other := by
  apply String.toList_injective
  calc
    name.toList = name.toList.map lowerAscii := hname.small.symm
    _ = (bareName typed).map lowerAscii :=
      Text.map_lowerAscii_eq_iff.mpr (hname.names_iff.mp hnames)
    _ = other.toList.map lowerAscii :=
      (Text.map_lowerAscii_eq_iff.mpr (hother.names_iff.mp hothers)).symm
    _ = other.toList := hother.small

end Part

/-! ### Looking a name up -/

theorem NameTable.find?_eq_some_iff {α : Type} {all : List α} {name : α → String}
    (htable : NameTable all name) {typed : String} {a : α} :
    (all.find? fun b => Text.sameUpToCase (name b).toList (bareName typed)) = some a ↔
      Names typed (name a) := by
  have hfits : ∀ b, Text.sameUpToCase (name b).toList (bareName typed) = true ↔
      Names typed (name b) := by
    intro b
    rw [Text.sameUpToCase_iff, (htable.plain b).names_iff]
  constructor
  · intro hfound
    have hfit := List.find?_some hfound
    exact (hfits a).mp hfit
  · intro hnames
    cases hfound : all.find? fun b => Text.sameUpToCase (name b).toList (bareName typed) with
    | none => exact absurd ((hfits a).mpr hnames) (List.find?_eq_none.mp hfound a (htable.complete a))
    | some b =>
        have hfit := List.find?_some hfound
        have hsame := (htable.plain b).unique (htable.plain a) ((hfits b).mp hfit) hnames
        rw [htable.injective hsame]

/-- Names that can be read back are told apart. -/
theorem injective_of_read {α : Type} {name : α → String} {read : String → Option α}
    (hread : ∀ a, read (name a) = some a) : Function.Injective name := by
  intro a b hname
  apply Option.some.inj
  rw [← hread a, hname, hread b]

theorem Category.nameTable : NameTable Category.all Category.name where
  complete := Category.mem_all
  plain category := by
    cases category <;> exact ⟨by decide, by decide, by decide⟩
  injective := injective_of_read Category.ofName?_name

theorem Subsystem.nameTable : NameTable Subsystem.all Subsystem.name where
  complete := Subsystem.mem_all
  plain subsystem := by
    cases subsystem <;> exact ⟨by decide, by decide, by decide⟩
  injective := injective_of_read Subsystem.ofName?_name

section Reading

variable {typed core : String} {category : Category} {subsystem : Subsystem} {fault : LogFault}

theorem Category.parse?_eq_some_iff :
    Category.parse? typed = some category ↔ Names typed category.name :=
  Category.nameTable.find?_eq_some_iff

theorem Subsystem.parse?_eq_some_iff :
    Subsystem.parse? typed = some subsystem ↔ Names typed subsystem.name :=
  Subsystem.nameTable.find?_eq_some_iff

theorem Category.parse_eq_ok_iff :
    Category.parse typed = .ok category ↔ Names typed category.name := by
  rw [← Category.parse?_eq_some_iff, Category.parse]
  cases Category.parse? typed <;> simp

theorem Subsystem.parse_eq_ok_iff :
    Subsystem.parse typed = .ok subsystem ↔ Names typed subsystem.name := by
  rw [← Subsystem.parse?_eq_some_iff, Subsystem.parse]
  cases Subsystem.parse? typed <;> simp

/-- What names no category is reported as it was typed. -/
theorem Category.parse_eq_error_iff :
    Category.parse typed = .error fault ↔
      fault = .unknownCategory typed ∧ ∀ category : Category, ¬Names typed category.name := by
  simp only [← Category.parse?_eq_some_iff, Category.parse]
  cases Category.parse? typed <;> simp [eq_comm]

theorem Subsystem.parse_eq_error_iff :
    Subsystem.parse typed = .error fault ↔
      fault = .unknownSubsystem typed ∧ ∀ subsystem : Subsystem, ¬Names typed subsystem.name := by
  simp only [← Subsystem.parse?_eq_some_iff, Subsystem.parse]
  cases Subsystem.parse? typed <;> simp [eq_comm]

/-- No text names a category and a subsystem. -/
theorem not_names_subsystem (hcategory : Names typed category.name) :
    ¬Names typed subsystem.name := by
  intro hsubsystem
  have hsame := (Category.nameTable.plain category).unique (Subsystem.nameTable.plain subsystem)
    hcategory hsubsystem
  have hnone : Subsystem.ofName? category.name = none := by
    cases category <;> decide
  rw [hsame, Subsystem.ofName?_name] at hnone
  cases hnone

/-! ### Names as tags -/

theorem recased_tag {name : String} (hcase : Recased name.toList core.toList) :
    Recased ("[" ++ name ++ "]").toList ("[" ++ core ++ "]").toList := by
  rw [← Text.map_lowerAscii_eq_iff] at hcase ⊢
  simp only [String.toList_append, List.map_append, hcase]

theorem Category.classify_tag (hcase : Recased category.name.toList core.toList) :
    classify ("[" ++ core ++ "]") = ⟨category, none⟩ := by
  rw [classify_congr (recased_tag hcase)]
  cases category <;> decide

theorem Subsystem.classify_tag (hcase : Recased subsystem.name.toList core.toList) :
    classify ("[" ++ core ++ "]") = ⟨.info, some subsystem⟩ := by
  rw [classify_congr (recased_tag hcase)]
  cases subsystem <;> decide

end Reading

end SerialConsole.Log
