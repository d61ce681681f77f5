import SerialConsole.Monitor.Line
import SerialConsole.Proofs.Text.Trimming

/-!
# The grammar of monitor lines

A line that does not begin with a colon, blanks aside, is a command.  Any other
is cut at the first blank after the colon into a name and an argument, and is a
directive exactly if the two together mean one.
-/

namespace SerialConsole.Monitor

open Log
open Text (Blanks Trimmed isBlank trim trimChars)

/-- A text is cut at its first blank into a name and, blanks around it aside,
an argument. -/
inductive Cut : List Char → List Char → List Char → Prop where
  | bare (name : List Char) (hname : ∀ c ∈ name, isBlank c = false) : Cut name name []
  | blank (name later : List Char) (c : Char) (hname : ∀ d ∈ name, isBlank d = false)
      (hc : isBlank c = true) : Cut (name ++ c :: later) name (trimChars later)

/-- What a name and an argument mean.  The target of a filter is a category if
it can be read as one, or else a subsystem. -/
inductive Means : String → String → Directive → Prop where
  | save : Means "save" "" .save
  | close : Means "close" "" .close
  | connect : Means "connect" "" .connect
  | disconnect : Means "disconnect" "" .disconnect
  | quit : Means "quit" "" .quit
  | q : Means "q" "" .quit
  | showAll : Means "modules" "all" (.allSubsystems true)
  | showNone : Means "modules" "none" (.allSubsystems false)
  | load (path : String) (hpath : path ≠ "") : Means "load" path (.load path)
  | filterCategory (target : String) (category : Category)
      (hcategory : Category.parse? target = some category) :
      Means "filter" target (.filterCategory category)
  | filterSubsystem (target : String) (subsystem : Subsystem)
      (hcategory : Category.parse? target = none)
      (hsubsystem : Subsystem.parse? target = some subsystem) :
      Means "filter" target (.filterSubsystem subsystem)

def StartsWithColon (text : String) : Prop :=
  text.toList.head? = some ':'

/-- The line gives a directive. -/
def Directs (line : String) (directive : Directive) : Prop :=
  ∃ rest name argument, (trim line).toList = ':' :: rest ∧
    Cut rest (String.toList name) (String.toList argument) ∧ Means name argument directive

/-! ### Name and argument -/

section Cutting

variable {rest name argument : List Char}

theorem trimChars_cons_of_isBlank {c : Char} (hc : isBlank c = true) (later : List Char) :
    trimChars (c :: later) = trimChars later := by
  rw [trimChars, List.dropWhile_cons_of_pos hc, ← trimChars]

theorem cut_splitDirective (rest : List Char) :
    Cut rest (splitDirective rest).1 (splitDirective rest).2 := by
  have hsplit := List.takeWhile_append_dropWhile (p := fun c => !isBlank c) (l := rest)
  have hname : ∀ c ∈ rest.takeWhile fun c => !isBlank c, isBlank c = false := by
    intro c hc
    simpa using List.all_eq_true.mp List.all_takeWhile c hc
  have hhead := Text.head?_dropWhile_eq_false (fun c => !isBlank c) rest
  rw [splitDirective]
  generalize rest.takeWhile (fun c => !isBlank c) = name at hsplit hname ⊢
  generalize rest.dropWhile (fun c => !isBlank c) = later at hsplit hhead ⊢
  subst hsplit
  cases later with
  | nil =>
      rw [List.append_nil]
      exact .bare name hname
  | cons c later =>
      have hc : isBlank c = true := by simpa using hhead
      rw [trimChars_cons_of_isBlank hc]
      exact .blank name later c hname hc

/-- A name ends where the first blank stands. -/
theorem splitDirective_append {later : List Char} (hname : ∀ c ∈ name, isBlank c = false)
    (hlater : ∀ c ∈ later.head?, isBlank c = true) :
    splitDirective (name ++ later) = (name, trimChars later) := by
  have hgoes : ∀ c ∈ name, (!isBlank c) = true := by
    intro c hc
    rw [hname c hc, Bool.not_false]
  have hstops : ∀ c ∈ later.head?, (!isBlank c) = false := by
    intro c hc
    rw [hlater c hc, Bool.not_true]
  rw [splitDirective, Text.takeWhile_append_of_head hgoes hstops,
    Text.dropWhile_append_of_head hgoes hstops]

theorem Cut.splitDirective_eq (hcut : Cut rest name argument) :
    splitDirective rest = (name, argument) := by
  cases hcut with
  | bare name hname =>
      have hend : ∀ c ∈ ([] : List Char).head?, isBlank c = true := by
        rintro c ⟨⟩
      have hsplit := splitDirective_append hname hend
      rwa [List.append_nil] at hsplit
  | blank name later c hname hc =>
      have hhead : ∀ d ∈ (c :: later).head?, isBlank d = true := by
        rintro d ⟨⟩
        exact hc
      rw [splitDirective_append hname hhead, trimChars_cons_of_isBlank hc]

end Cutting

/-! ### The directive that is meant -/

theorem filterTarget_eq_ok {target : String} {directive : Directive}
    (htarget : filterTarget target = .ok directive) : Means "filter" target directive := by
  rw [filterTarget] at htarget
  split at htarget
  · rename_i category hcategory
    cases htarget
    exact .filterCategory target category hcategory
  · rename_i hcategory
    split at htarget
    · rename_i subsystem hsubsystem
      cases htarget
      exact .filterSubsystem target subsystem hcategory hsubsystem
    · cases htarget

theorem means_of_readDirective {line name argument : String} {directive : Directive}
    (hread : readDirective line name argument = .ok directive) : Means name argument directive := by
  unfold readDirective at hread
  split at hread
  · cases hread
    exact .save
  · cases hread
    exact .showAll
  · cases hread
    exact .showNone
  · cases hread
    exact .close
  · cases hread
    exact .connect
  · cases hread
    exact .disconnect
  · cases hread
    exact .quit
  · cases hread
    exact .q
  · split at hread
    · cases hread
    · exact filterTarget_eq_ok hread
  · split at hread
    · cases hread
    · cases hread
      exact .load _ ‹_›
  · cases hread

theorem Means.readDirective_eq {line name argument : String} {directive : Directive}
    (hmeans : Means name argument directive) :
    readDirective line name argument = .ok directive := by
  cases hmeans with
  | save => rfl
  | close => rfl
  | connect => rfl
  | disconnect => rfl
  | quit => rfl
  | q => rfl
  | showAll => rfl
  | showNone => rfl
  | load path hpath => simp [readDirective, hpath]
  | filterCategory _ category hcategory =>
      have htarget : argument ≠ "" := by
        rintro rfl
        have hnone : Category.parse? "" = none := by decide
        rw [hnone] at hcategory
        cases hcategory
      simp [readDirective, htarget, filterTarget, hcategory]
  | filterSubsystem _ subsystem hcategory hsubsystem =>
      have htarget : argument ≠ "" := by
        rintro rfl
        have hnone : Subsystem.parse? "" = none := by decide
        rw [hnone] at hsubsystem
        cases hsubsystem
      simp [readDirective, htarget, filterTarget, hcategory, hsubsystem]

/-! ### Whole lines -/

section Lines

variable {line : String} {directive : Directive}

theorem parse_of_not_startsWithColon (hcolon : ¬StartsWithColon (trim line)) :
    Line.parse line = .ok (.command (trim line)) := by
  unfold Line.parse
  dsimp only
  split
  · rename_i rest hrest
    refine absurd ?_ hcolon
    rw [StartsWithColon, Text.toList_trim, hrest]
    rfl
  · rfl

theorem parse_of_colon {rest : List Char} (hrest : (trim line).toList = ':' :: rest) :
    Line.parse line =
      (readDirective (trim line) (String.ofList (splitDirective rest).1)
        (String.ofList (splitDirective rest).2)).map .directive := by
  rw [Text.toList_trim] at hrest
  simp only [Line.parse, hrest]
  rw [trim, hrest]

theorem exists_rest_of_startsWithColon (hcolon : StartsWithColon (trim line)) :
    ∃ rest, (trim line).toList = ':' :: rest :=
  List.head?_eq_some_iff.mp hcolon

/-- The directives a line gives are those its grammar gives it. -/
theorem parse_eq_directive_iff :
    Line.parse line = .ok (.directive directive) ↔ Directs line directive := by
  constructor
  · intro hparse
    by_cases hcolon : StartsWithColon (trim line)
    · obtain ⟨rest, hrest⟩ := exists_rest_of_startsWithColon hcolon
      rw [parse_of_colon hrest] at hparse
      refine ⟨rest, String.ofList (splitDirective rest).1, String.ofList (splitDirective rest).2,
        hrest, ?_, ?_⟩
      · rw [String.toList_ofList, String.toList_ofList]
        exact cut_splitDirective rest
      · cases hread : readDirective (trim line) (String.ofList (splitDirective rest).1)
          (String.ofList (splitDirective rest).2) with
        | error fault =>
            rw [hread] at hparse
            cases hparse
        | ok read =>
            rw [hread] at hparse
            cases hparse
            exact means_of_readDirective hread
    · rw [parse_of_not_startsWithColon hcolon] at hparse
      cases hparse
  · rintro ⟨rest, name, argument, hrest, hcut, hmeans⟩
    rw [parse_of_colon hrest, hcut.splitDirective_eq, String.ofList_toList, String.ofList_toList,
      hmeans.readDirective_eq]
    rfl

theorem parse_eq_command_iff {text : String} :
    Line.parse line = .ok (.command text) ↔ text = trim line ∧ ¬StartsWithColon (trim line) := by
  constructor
  · intro hparse
    by_cases hcolon : StartsWithColon (trim line)
    · obtain ⟨rest, hrest⟩ := exists_rest_of_startsWithColon hcolon
      rw [parse_of_colon hrest] at hparse
      cases hread : readDirective (trim line) (String.ofList (splitDirective rest).1)
          (String.ofList (splitDirective rest).2) with
      | error fault =>
          rw [hread] at hparse
          cases hparse
      | ok read =>
          rw [hread] at hparse
          cases hparse
    · rw [parse_of_not_startsWithColon hcolon] at hparse
      cases hparse
      exact ⟨rfl, hcolon⟩
  · rintro ⟨rfl, hcolon⟩
    exact parse_of_not_startsWithColon hcolon

/-- A line is no line of the grammar if it begins with a colon and no directive
is meant. -/
theorem exists_parse_eq_error_iff :
    (∃ fault, Line.parse line = .error fault) ↔
      StartsWithColon (trim line) ∧ ∀ directive, ¬Directs line directive := by
  constructor
  · rintro ⟨fault, hparse⟩
    refine ⟨?_, fun directive hdirects => ?_⟩
    · apply Classical.byContradiction
      intro hcolon
      rw [parse_of_not_startsWithColon hcolon] at hparse
      cases hparse
    · rw [parse_eq_directive_iff.mpr hdirects] at hparse
      cases hparse
  · rintro ⟨hcolon, hnone⟩
    cases hparse : Line.parse line with
    | error fault => exact ⟨fault, rfl⟩
    | ok read =>
        cases read with
        | command text => exact absurd hcolon (parse_eq_command_iff.mp hparse).2
        | directive directive =>
            exact absurd (parse_eq_directive_iff.mp hparse) (hnone directive)

end Lines

/-! ### Lines for a directive -/

section Writing

variable {name argument : String} {directive : Directive}

theorem Means.name_ne_blank (hmeans : Means name argument directive) :
    ∀ c ∈ name.toList, isBlank c = false := by
  have hany : name.toList.any isBlank = false := by
    cases hmeans <;> decide
  exact Text.isBlank_eq_false_of_any hany

theorem path_of_directs_load {line : String} {path : String}
    (hdirects : Directs line (.load path)) : path ≠ "" ∧ Trimmed path.toList := by
  obtain ⟨rest, name, argument, -, hcut, hmeans⟩ := hdirects
  cases hmeans with
  | load path hpath =>
      refine ⟨hpath, ?_⟩
      generalize path.toList = chars at hcut
      cases hcut with
      | bare => exact Text.trimmed_nil
      | blank name later => exact Text.trimmed_trimChars later

/-- A line whose argument is empty is trimmed down to the name, so that
nothing is cut; with an argument it is cut at the first of the blanks. -/
theorem directs_line {spaces trailing : String} (hmeans : Means name argument directive)
    (hargument : Trimmed argument.toList) (hnonempty : spaces ≠ "")
    (hspaces : Blanks spaces.toList) (htrailing : Blanks trailing.toList) :
    Directs (":" ++ name ++ spaces ++ argument ++ trailing) directive := by
  have hname := hmeans.name_ne_blank
  have hline : (":" ++ name ++ spaces ++ argument ++ trailing).toList =
      ':' :: name.toList ++ spaces.toList ++ argument.toList ++ trailing.toList := by
    simp only [String.toList_append]
    rfl
  have hcolon : isBlank ':' = false := by decide
  by_cases hempty : argument = ""
  · subst hempty
    have hcore : Trimmed (':' :: name.toList) :=
      Text.trimmed_of_forall (List.forall_mem_cons.mpr ⟨hcolon, hname⟩)
    refine ⟨name.toList, name, "", ?_, .bare name.toList hname, hmeans⟩
    rw [Text.toList_trim, hline, String.toList_empty, List.append_nil, List.append_assoc]
    exact hcore.trimChars_append (hspaces.append htrailing)
  · have hchars : argument.toList ≠ [] := by
      rwa [ne_eq, String.toList_eq_nil_iff]
    have hcore := hargument.cons_append hcolon hchars (name.toList ++ spaces.toList)
    refine ⟨name.toList ++ spaces.toList ++ argument.toList, name, argument, ?_, ?_, hmeans⟩
    · rw [Text.toList_trim, hline]
      exact hcore.trimChars_append htrailing
    · cases hfirst : spaces.toList with
      | nil => exact absurd (String.toList_eq_nil_iff.mp hfirst) hnonempty
      | cons c more =>
          rw [hfirst] at hspaces
          have hafter := Text.trimChars_append_append
            (List.forall_mem_cons.mp hspaces).2 hargument Text.blanks_nil
          rw [List.append_nil] at hafter
          have hcut := Cut.blank name.toList (more ++ argument.toList) c hname
            (hspaces c List.mem_cons_self)
          rwa [hafter, ← List.cons_append, ← List.append_assoc] at hcut

/-- Every directive is meant by some name and argument, a path aside that
cannot be one. -/
theorem exists_means (hpath : ∀ path, directive = .load path → path ≠ "" ∧ Trimmed path.toList) :
    ∃ name argument, Means name argument directive ∧ Trimmed (String.toList argument) := by
  cases directive with
  | save => exact ⟨"save", "", .save, Text.trimmed_nil⟩
  | close => exact ⟨"close", "", .close, Text.trimmed_nil⟩
  | connect => exact ⟨"connect", "", .connect, Text.trimmed_nil⟩
  | disconnect => exact ⟨"disconnect", "", .disconnect, Text.trimmed_nil⟩
  | quit => exact ⟨"quit", "", .quit, Text.trimmed_nil⟩
  | load path =>
      obtain ⟨hnonempty, htrimmed⟩ := hpath path rfl
      exact ⟨"load", path, .load path hnonempty, htrimmed⟩
  | allSubsystems shown =>
      cases shown
      · exact ⟨"modules", "none", .showNone, Text.trimmed_of_any (by decide)⟩
      · exact ⟨"modules", "all", .showAll, Text.trimmed_of_any (by decide)⟩
  | filterCategory category =>
      refine ⟨"filter", category.name, .filterCategory _ category ?_, Text.trimmed_of_any ?_⟩
      · cases category <;> decide +kernel
      · cases category <;> decide
  | filterSubsystem subsystem =>
      refine ⟨"filter", subsystem.name, .filterSubsystem _ subsystem ?_ ?_,
        Text.trimmed_of_any ?_⟩
      · cases subsystem <;> decide +kernel
      · cases subsystem <;> decide +kernel
      · cases subsystem <;> decide

/-- The paths that can be written are those that are left when a text is trimmed. -/
theorem exists_parse_eq_directive_iff :
    (∃ line, Line.parse line = .ok (.directive directive)) ↔
      ∀ path, directive = .load path → path ≠ "" ∧ Trimmed path.toList := by
  constructor
  · rintro ⟨line, hparse⟩ path rfl
    exact path_of_directs_load (parse_eq_directive_iff.mp hparse)
  · intro hpath
    obtain ⟨name, argument, hmeans, hargument⟩ := exists_means hpath
    refine ⟨":" ++ name ++ " " ++ argument ++ "", parse_eq_directive_iff.mpr ?_⟩
    exact directs_line hmeans hargument (by decide) (by decide) Text.blanks_nil

end Writing

/-! ### The grammar -/

/-- What a line is read as, told by the grammar. -/
structure ReadByGrammar (line : String) : Prop where
  /-- Blanks around a line do not matter. -/
  trimmed : Line.parse (trim line) = Line.parse line
  command : ∀ text, Line.parse line = .ok (.command text) ↔
    text = trim line ∧ ¬StartsWithColon (trim line)
  directive : ∀ directive, Line.parse line = .ok (.directive directive) ↔ Directs line directive
  otherwise : (∃ fault, Line.parse line = .error fault) ↔
    StartsWithColon (trim line) ∧ ∀ directive, ¬Directs line directive

theorem parse_trim (line : String) : Line.parse (trim line) = Line.parse line := by
  rw [Line.parse, ← Text.toList_trim, Text.trim_trim, Text.toList_trim, ← Line.parse]

theorem readByGrammar (line : String) : ReadByGrammar line where
  trimmed := parse_trim line
  command _ := parse_eq_command_iff
  directive _ := parse_eq_directive_iff
  otherwise := exists_parse_eq_error_iff

/-- The path is taken as it stands between the blanks, blanks inside it and all. -/
theorem parse_load {path spaces trailing : String} (hpath : path ≠ "")
    (htrimmed : Trimmed path.toList) (hnonempty : spaces ≠ "") (hspaces : Blanks spaces.toList)
    (htrailing : Blanks trailing.toList) :
    Line.parse (":load" ++ spaces ++ path ++ trailing) = .ok (.directive (.load path)) := by
  have hname : ":load" = ":" ++ "load" := by decide
  rw [parse_eq_directive_iff, hname]
  exact directs_line (.load path hpath) htrimmed hnonempty hspaces htrailing

example : (Line.parse " :load\t my  log.txt ").toOption = some (.directive (.load "my  log.txt")) := by
  decide +kernel

/-- The monitor reads lines by their grammar.  It has a line for every directive
but a path that is empty or has blanks around it, and for any other path a line
of any width. -/
theorem lines_are_read_by_grammar :
    (∀ line, ReadByGrammar line) ∧
    (∀ directive, (∃ line, Line.parse line = .ok (.directive directive)) ↔
      ∀ path, directive = .load path → path ≠ "" ∧ Trimmed path.toList) ∧
    ∀ path spaces trailing : String, path ≠ "" → Trimmed path.toList → spaces ≠ "" →
      Blanks spaces.toList → Blanks trailing.toList →
      Line.parse (":load" ++ spaces ++ path ++ trailing) = .ok (.directive (.load path)) := by
  refine ⟨readByGrammar, fun _ => exists_parse_eq_directive_iff, ?_⟩
  intro path spaces trailing hpath htrimmed hnonempty hspaces htrailing
  exact parse_load hpath htrimmed hnonempty hspaces htrailing

end SerialConsole.Monitor
