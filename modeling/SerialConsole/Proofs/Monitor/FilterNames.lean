import SerialConsole.Monitor.Respond
import SerialConsole.Proofs.Log.Names
import SerialConsole.Proofs.Monitor.Grammar

/-!
# What a filter directive names

A filter target is read by the grammar of names, and it names a category or a
subsystem but never both.  So the directive toggles what is named, and it does not
matter which of the two is tried first.
-/

namespace SerialConsole.Monitor

open Log
open Text (Blanks isBlank trim trimChars)

/-- What a filter target names if subsystems are tried first. -/
def subsystemsFirst (target : String) : Except LineFault Directive :=
  match Subsystem.parse? target with
  | some subsystem => .ok (.filterSubsystem subsystem)
  | none =>
      match Category.parse? target with
      | some category => .ok (.filterCategory category)
      | none => .error (.unknownTarget target)

/-- How a text is read as a name, and what comes of it. -/
structure ReadAsName (typed : String) : Prop where
  category : ∀ category, Category.parse typed = .ok category ↔ Names typed category.name
  subsystem : ∀ subsystem, Subsystem.parse typed = .ok subsystem ↔ Names typed subsystem.name
  /-- What names nothing is reported as it was typed. -/
  categoryFault : ∀ fault, Category.parse typed = .error fault ↔
    fault = .unknownCategory typed ∧ ∀ category : Category, ¬Names typed category.name
  subsystemFault : ∀ fault, Subsystem.parse typed = .error fault ↔
    fault = .unknownSubsystem typed ∧ ∀ subsystem : Subsystem, ¬Names typed subsystem.name
  notBoth : ∀ category subsystem, Category.parse typed = .ok category →
    Subsystem.parse typed ≠ .ok subsystem
  anyOrder : filterTarget typed = subsystemsFirst typed
  togglesCategory : ∀ category, Category.parse typed = .ok category →
    ∀ console tree around target, respond console tree around target (":filter " ++ typed) =
      .ofUpdates tree (console.toggleCategory category)
  togglesSubsystem : ∀ subsystem, Subsystem.parse typed = .ok subsystem →
    ∀ console tree around target, respond console tree around target (":filter " ++ typed) =
      .ofUpdates tree (console.toggleSubsystem subsystem)
  /-- The name part of the text is a tag of what it names. -/
  categoryTag : ∀ category, Category.parse typed = .ok category →
    ∃ core, NamePart typed core ∧ (∀ other, NamePart typed other → other = core) ∧
      classify ("[" ++ core ++ "]") = ⟨category, none⟩
  subsystemTag : ∀ subsystem, Subsystem.parse typed = .ok subsystem →
    ∃ core, NamePart typed core ∧ (∀ other, NamePart typed other → other = core) ∧
      classify ("[" ++ core ++ "]") = ⟨.info, some subsystem⟩

variable {typed : String} {category : Category} {subsystem : Subsystem}

theorem parse?_eq_none_of_names (hnames : Names typed subsystem.name) :
    Category.parse? typed = none := by
  cases hcategory : Category.parse? typed with
  | none => rfl
  | some category =>
      exact absurd hnames (not_names_subsystem (Category.parse?_eq_some_iff.mp hcategory))

theorem filterTarget_eq_subsystemsFirst (target : String) :
    filterTarget target = subsystemsFirst target := by
  rw [filterTarget, subsystemsFirst]
  cases hsubsystem : Subsystem.parse? target with
  | none => cases Category.parse? target <;> rfl
  | some subsystem =>
      rw [parse?_eq_none_of_names (Subsystem.parse?_eq_some_iff.mp hsubsystem)]

/-! ### The directive -/

/-- The target of the directive is what is typed behind its name, trimmed. -/
theorem parse_filter {directive : Directive} (hmeans : Means "filter" (trim typed) directive) :
    Line.parse (":filter " ++ typed) = .ok (.directive directive) := by
  obtain ⟨before, after, hbefore, hafter, htyped⟩ := Text.exists_blanks_trimChars typed.toList
  have hname : ":filter " = ":" ++ "filter" ++ " " := by decide
  have htext : typed = String.ofList before ++ trim typed ++ String.ofList after := by
    apply String.toList_injective
    simp only [String.toList_append, String.toList_ofList, Text.toList_trim]
    exact htyped
  have hline : ":filter " ++ typed =
      ":" ++ "filter" ++ (" " ++ String.ofList before) ++ trim typed ++ String.ofList after := by
    rw [congrArg₂ (· ++ ·) hname htext]
    simp only [String.append_assoc]
  have hspaces : (" " ++ String.ofList before).toList = [' '] ++ before := by
    simp only [String.toList_append, String.toList_ofList]
    rfl
  have hblanks : Blanks (" " ++ String.ofList before).toList := by
    rw [hspaces]
    exact Blanks.append (by decide) hbefore
  have hnonempty : " " ++ String.ofList before ≠ "" := by
    rw [ne_eq, ← String.toList_eq_nil_iff, hspaces]
    exact List.cons_ne_nil ' ' before
  have htarget : Text.Trimmed (trim typed).toList := by
    rw [Text.toList_trim]
    exact Text.trimmed_trimChars typed.toList
  rw [parse_eq_directive_iff, hline]
  refine directs_line hmeans htarget hnonempty hblanks ?_
  rwa [String.toList_ofList]

theorem respond_filter_category (hnames : Names typed category.name)
    (console : Session.Console) (tree : Files.Tree) (around : Surroundings) (target : Target) :
    respond console tree around target (":filter " ++ typed) =
      .ofUpdates tree (console.toggleCategory category) := by
  have hread := Category.parse?_eq_some_iff.mpr (names_trim.mpr hnames)
  rw [respond, parse_filter (.filterCategory _ category hread)]
  rfl

theorem respond_filter_subsystem (hnames : Names typed subsystem.name)
    (console : Session.Console) (tree : Files.Tree) (around : Surroundings) (target : Target) :
    respond console tree around target (":filter " ++ typed) =
      .ofUpdates tree (console.toggleSubsystem subsystem) := by
  have htrimmed := names_trim.mpr hnames
  have hread := Subsystem.parse?_eq_some_iff.mpr htrimmed
  rw [respond, parse_filter (.filterSubsystem _ subsystem (parse?_eq_none_of_names htrimmed) hread)]
  rfl

/-! ### Names -/

/-- A name is read if it is spelled in any case and in any number of brackets, with
blanks around it all, and otherwise is reported as it was typed.  It names a category
or a subsystem and never both, the filter directive toggles whichever it names, and
what stands in the brackets is a tag that says the same of a record. -/
theorem names_are_read_without_ambiguity (typed : String) : ReadAsName typed where
  category _ := Category.parse_eq_ok_iff
  subsystem _ := Subsystem.parse_eq_ok_iff
  categoryFault _ := Category.parse_eq_error_iff
  subsystemFault _ := Subsystem.parse_eq_error_iff
  notBoth category subsystem hcategory hsubsystem :=
    not_names_subsystem (Category.parse_eq_ok_iff.mp hcategory)
      (Subsystem.parse_eq_ok_iff.mp hsubsystem)
  anyOrder := filterTarget_eq_subsystemsFirst typed
  togglesCategory category hcategory :=
    respond_filter_category (Category.parse_eq_ok_iff.mp hcategory)
  togglesSubsystem subsystem hsubsystem :=
    respond_filter_subsystem (Subsystem.parse_eq_ok_iff.mp hsubsystem)
  categoryTag category hcategory := by
    obtain ⟨core, hbrackets, hcase⟩ := Category.parse_eq_ok_iff.mp hcategory
    have hpart := (Category.nameTable.plain category).namePart hbrackets hcase
    exact ⟨core, hpart, fun other hother => hpart.unique hother, Category.classify_tag hcase⟩
  subsystemTag subsystem hsubsystem := by
    obtain ⟨core, hbrackets, hcase⟩ := Subsystem.parse_eq_ok_iff.mp hsubsystem
    have hpart := (Subsystem.nameTable.plain subsystem).namePart hbrackets hcase
    exact ⟨core, hpart, fun other hother => hpart.unique hother, Subsystem.classify_tag hcase⟩

example : Category.parse " [[Warn]\t" = .ok .warn ∧ Subsystem.parse "[ dl]" =
    .error (.unknownSubsystem "[ dl]") := by
  decide +kernel

end SerialConsole.Monitor
