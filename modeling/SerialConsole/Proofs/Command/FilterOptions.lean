import Mathlib.Data.List.Basic
import SerialConsole.Command.Arguments

/-!
# Options that filter, as they are typed

The options that hide categories and list subsystems may be typed any number of
times, in any order and on either side of the word of a subcommand; their
values add up.
-/

namespace SerialConsole.Command

open Log

/-- An option that filters, with its value as it is typed and as it is read. -/
inductive FilterOption where
  | hide (value : String) (categories : List Category) (hplain : Shape.of value = .plain)
      (hread : readNames Category.parse? value = .ok categories)
  | modules (value : String) (subsystems : List Subsystem) (hplain : Shape.of value = .plain)
      (hread : readNames Subsystem.parse? value = .ok subsystems)

namespace FilterOption

def words : FilterOption → List String
  | .hide value _ _ _ => ["--hide", value]
  | .modules value _ _ _ => ["--modules", value]

def hidden : FilterOption → List Category
  | .hide _ categories _ _ => categories
  | .modules _ _ _ _ => []

def listed : FilterOption → List Subsystem
  | .hide _ _ _ _ => []
  | .modules _ subsystems _ _ => subsystems

def lists : FilterOption → Bool
  | .hide _ _ _ _ => false
  | .modules _ _ _ _ => true

/-- What the option adds to what was chosen before. -/
def addTo (c : Choices) : FilterOption → Choices
  | .hide _ categories _ _ => { c with hide := some (c.hide.getD [] ++ categories) }
  | .modules _ subsystems _ _ => { c with modules := some (c.modules.getD [] ++ subsystems) }

end FilterOption

/-- All categories hidden by options. -/
def hiddenBy (options : List FilterOption) : List Category :=
  options.flatMap FilterOption.hidden

/-- All subsystems listed by options, if any option lists some. -/
def listedBy (options : List FilterOption) : Option (List Subsystem) :=
  if options.any FilterOption.lists then some (options.flatMap FilterOption.listed) else none

/-- The command line that replays a file in the raw format, with options on
either side of the path. -/
def replayLine (path : String) (before after : List FilterOption) : List String :=
  "--format" :: "raw" :: "replay" ::
    (before.flatMap FilterOption.words ++ path :: after.flatMap FilterOption.words)

/-- The environment gives no setting. -/
def IsQuiet (environment : String → Option String) : Prop :=
  ∀ setting : Setting, setting.environmentName?.bind environment = none

/-! ### What options add up to -/

theorem hide_foldl_addTo (options : List FilterOption) (c : Choices) :
    (options.foldl FilterOption.addTo c).hide.getD [] = c.hide.getD [] ++ hiddenBy options := by
  induction options generalizing c with
  | nil => exact (List.append_nil _).symm
  | cons option rest ih =>
      rw [List.foldl_cons, ih]
      cases option with
      | hide value categories hplain hread => exact List.append_assoc ..
      | modules value subsystems hplain hread => rfl

theorem modules_foldl_addTo (options : List FilterOption) (c : Choices) :
    (options.foldl FilterOption.addTo c).modules =
      if options.any FilterOption.lists then
        some (c.modules.getD [] ++ options.flatMap FilterOption.listed)
      else c.modules := by
  induction options generalizing c with
  | nil => rfl
  | cons option rest ih =>
      rw [List.foldl_cons, ih]
      cases option with
      | hide value categories hplain hread => rfl
      | modules value subsystems hplain hread =>
          have hnone : rest.any FilterOption.lists = false →
              rest.flatMap FilterOption.listed = [] := by
            intro hlists
            refine List.flatMap_eq_nil_iff.mpr fun option hoption => ?_
            have hother := List.any_eq_false.mp hlists option hoption
            cases option with
            | hide value categories hplain hread => rfl
            | modules value subsystems hplain hread => exact absurd rfl hother
          rw [List.any_cons, List.flatMap_cons]
          cases hlists : rest.any FilterOption.lists with
          | true => exact congrArg some (List.append_assoc ..)
          | false =>
              rw [hnone hlists]
              exact congrArg (fun ms => some (c.modules.getD [] ++ ms)) (List.append_nil _).symm

theorem format_foldl_addTo (options : List FilterOption) (c : Choices) :
    (options.foldl FilterOption.addTo c).format = c.format := by
  induction options generalizing c with
  | nil => rfl
  | cons option rest ih =>
      rw [List.foldl_cons, ih]
      cases option <;> rfl

namespace FilterOption

def ofCategory (category : Category) : FilterOption :=
  .hide category.name [category] (by cases category <;> rfl) (by cases category <;> rfl)

def ofSubsystem (subsystem : Subsystem) : FilterOption :=
  .modules subsystem.name [subsystem] (by cases subsystem <;> rfl) (by cases subsystem <;> rfl)

end FilterOption

/-- Options can hide any categories and list any subsystems, in any order and
with any repetitions; those that list name at least one. -/
theorem exists_options (hidden : List Category) (only : Option (List Subsystem))
    (honly : only ≠ some []) :
    ∃ options, hiddenBy options = hidden ∧ listedBy options = only := by
  have hcategories : hiddenBy (hidden.map .ofCategory) = hidden ∧
      (hidden.map FilterOption.ofCategory).any FilterOption.lists = false ∧
        (hidden.map FilterOption.ofCategory).flatMap FilterOption.listed = [] := by
    induction hidden with
    | nil => exact ⟨rfl, rfl, rfl⟩
    | cons category rest ih => exact ⟨congrArg (category :: ·) ih.1, ih.2.1, ih.2.2⟩
  have hsubsystems : ∀ listed : List Subsystem, hiddenBy (listed.map .ofSubsystem) = [] ∧
      (listed.map FilterOption.ofSubsystem).flatMap FilterOption.listed = listed := by
    intro listed
    induction listed with
    | nil => exact ⟨rfl, rfl⟩
    | cons subsystem rest ih => exact ⟨ih.1, congrArg (subsystem :: ·) ih.2⟩
  obtain ⟨hhidden, hlists, hnone⟩ := hcategories
  cases only with
  | none => exact ⟨hidden.map .ofCategory, hhidden, by rw [listedBy, hlists]; rfl⟩
  | some listed =>
      obtain ⟨subsystem, rest, rfl⟩ := List.exists_cons_of_ne_nil fun hnil => honly (hnil ▸ rfl)
      obtain ⟨hquiet, hlisted⟩ := hsubsystems (subsystem :: rest)
      refine ⟨hidden.map .ofCategory ++ (subsystem :: rest).map .ofSubsystem, ?_, ?_⟩
      · rw [hiddenBy, List.flatMap_append]
        rw [hiddenBy] at hhidden hquiet
        rw [hhidden, hquiet, List.append_nil]
      · have hany : (hidden.map FilterOption.ofCategory ++
            (subsystem :: rest).map FilterOption.ofSubsystem).any FilterOption.lists = true := by
          rw [List.any_append, hlists]
          rfl
        rw [listedBy, if_pos hany, List.flatMap_append, hnone, hlisted, List.nil_append]

/-! ### Taking words -/

namespace Progress

/-- Arguments are taken, one after the other. -/
def Takes (level : Level) (p : Progress) (arguments : List String) (q : Progress) : Prop :=
  arguments.foldlM (fun p argument => p.take level argument) p = .ok q

/-- What a progress comes to if no more is typed. -/
structure Holds (p : Progress) (level : Level) (choices : Choices) (words : List String) :
    Prop where
  settled : p.settle level = .ok { choices, words }
  index : p.nextIndex = words.length
  literal : p.literal = false
  ready : p.awaitsValue = false

variable {p q r : Progress} {level : Level} {choices chosen : Choices} {words : List String}

theorem Takes.cons {argument : String} {rest : List String}
    (hargument : p.take level argument = .ok q) (hrest : Takes level q rest r) :
    Takes level p (argument :: rest) r := by
  rw [Takes, List.foldlM_cons, hargument]
  exact hrest

theorem Takes.append {arguments rest : List String} (harguments : Takes level p arguments q)
    (hrest : Takes level q rest r) : Takes level p (arguments ++ rest) r := by
  induction arguments generalizing p with
  | nil =>
      cases harguments
      exact hrest
  | cons argument others ih =>
      rw [Takes, List.foldlM_cons] at harguments
      cases htake : p.take level argument with
      | error fault =>
          rw [htake] at harguments
          cases harguments
      | ok next =>
          rw [htake] at harguments
          exact .cons htake (ih harguments)

theorem holds_start (level : Level) : ({} : Progress).Holds level {} [] :=
  ⟨rfl, rfl, rfl, rfl⟩

/-- An option is taken together with its value. -/
theorem Holds.take_option (hholds : p.Holds level choices words) (argument : String)
    {value : String} {setting : Setting} (hlong : Shape.of argument = .long setting.word none)
    (hvalue : setting.hasValue = true) (hword : setting.word ≠ "help" ∧ setting.word ≠ "version")
    (hsetting : level.settings.find? (·.word == setting.word) = some setting)
    (hplain : Shape.of value = .plain) (hgive : choices.give value setting = .ok chosen) :
    ∃ q, Takes level p [argument, value] q ∧ q.Holds level chosen words := by
  refine ⟨{ choices, words, unread := .option setting (some value) }, ?_, ?_⟩
  · have hargument : p.take level argument =
        .ok { choices, words, unread := .option setting none } := by
      rw [take, hholds.literal, if_neg Bool.false_ne_true, hlong]
      simp only [takeLong, hword.1, hword.2, false_and, if_false, hsetting, hholds.settled,
        hvalue, if_true]
      rfl
    refine .cons hargument (.cons ?_ rfl)
    rw [take, if_neg Bool.false_ne_true, hplain]
  · refine ⟨?_, rfl, rfl, rfl⟩
    simp only [settle, hgive]
    rfl

/-- A plain word is taken for the next slot. -/
theorem Holds.take_word (hholds : p.Holds level choices words) {word : String} {slot : Slot}
    (hplain : Shape.of word = .plain) (hslot : level.slot? words.length = some slot)
    (hread : slot.read word = .ok word) :
    ∃ q, Takes level p [word] q ∧ q.Holds level choices (words ++ [word]) := by
  refine ⟨{ choices, words, unread := .word word }, ?_, ?_⟩
  · have htake : p.take level word = p.takeWord level word := by
      obtain ⟨earlier, others, unread, literal⟩ := p
      obtain rfl : literal = false := hholds.literal
      have hready := hholds.ready
      rw [take, if_neg Bool.false_ne_true, hplain]
      cases unread with
      | option setting value =>
          cases value with
          | none => cases hready
          | some value => rfl
      | _ => rfl
    refine .cons ?_ rfl
    rw [htake, takeWord, hholds.index, hslot]
    simp only [hholds.settled]
    rfl
  · refine ⟨?_, ?_, rfl, rfl⟩
    · simp only [settle, hslot, Option.getD_some, hread]
      rfl
    · rw [List.length_append]
      rfl

/-- Options that filter may come at any point of a replay. -/
theorem Holds.take_filters (hholds : p.Holds (.inner .replay) choices words)
    (options : List FilterOption) :
    ∃ q, Takes (.inner .replay) p (options.flatMap FilterOption.words) q ∧
      q.Holds (.inner .replay) (options.foldl FilterOption.addTo choices) words := by
  induction options generalizing p choices with
  | nil => exact ⟨p, rfl, hholds⟩
  | cons option rest ih =>
      have hfirst : ∃ q, Takes (.inner .replay) p option.words q ∧
          q.Holds (.inner .replay) (option.addTo choices) words := by
        cases option with
        | hide value categories hplain hread =>
            have hgive : choices.give value .hide =
                .ok (FilterOption.addTo choices (.hide value categories hplain hread)) := by
              rw [Choices.give, hread]
              rfl
            exact hholds.take_option "--hide" rfl rfl (by decide) rfl hplain hgive
        | modules value subsystems hplain hread =>
            have hgive : choices.give value .modules =
                .ok (FilterOption.addTo choices (.modules value subsystems hplain hread)) := by
              rw [Choices.give, hread]
              rfl
            exact hholds.take_option "--modules" rfl rfl (by decide) rfl hplain hgive
      obtain ⟨q, htakes, hnext⟩ := hfirst
      obtain ⟨r, hlater, hlast⟩ := ih hnext
      exact ⟨r, htakes.append hlater, hlast⟩

end Progress

/-! ### The whole line -/

theorem fromEnvironment_of_isQuiet {environment : String → Option String}
    (hquiet : IsQuiet environment) (given : Choices) :
    given.fromEnvironment environment = .ok {} := by
  rw [Choices.fromEnvironment]
  generalize Setting.shared = settings
  induction settings with
  | nil => rfl
  | cons setting rest ih =>
      rw [List.foldlM_cons, hquiet setting]
      cases given.has setting <;> exact ih

theorem Progress.Holds.finish {p : Progress} {level : Level} {choices : Choices}
    {words : List String} (hholds : p.Holds level choices words)
    {environment : String → Option String} (hquiet : IsQuiet environment) :
    p.finish level environment = .ok ({ choices, words }, {}) := by
  rw [Progress.finish, hholds.settled]
  simp only [bind, Except.bind, fromEnvironment_of_isQuiet hquiet]
  rfl

theorem readInner_replay {environment : String → Option String} (hquiet : IsQuiet environment)
    {path : String} (hplain : Shape.of path = .plain) (hpath : path ≠ "")
    (before after : List FilterOption) :
    readInner environment .replay
        (before.flatMap FilterOption.words ++ path :: after.flatMap FilterOption.words) =
      .ok (.replay path, (before ++ after).foldl FilterOption.addTo {}) := by
  obtain ⟨p, hbefore, hholds⟩ := (Progress.holds_start (.inner .replay)).take_filters before
  have hread : Slot.path.read path = .ok path := by
    rw [Slot.read, readPath, if_neg (by simpa using hpath)]
  obtain ⟨q, hword, hnext⟩ := hholds.take_word hplain rfl hread
  obtain ⟨r, hafter, hlast⟩ := hnext.take_filters after
  have htakes : Progress.Takes (.inner .replay) {}
      (before.flatMap FilterOption.words ++ path :: after.flatMap FilterOption.words) r :=
    hbefore.append (hword.append hafter)
  rw [readInner, htakes, List.foldl_append]
  simp only [bind, Except.bind, hlast.finish hquiet]
  rfl

/-- The command line asks for the replay in the raw format, with the filters of
all its options. -/
theorem read_replayLine {environment : String → Option String} (hquiet : IsQuiet environment)
    {path : String} (hplain : Shape.of path = .plain) (hpath : path ≠ "")
    (before after : List FilterOption) :
    ∃ i, Invocation.read environment (replayLine path before after) = .ok i ∧
      i.request = .replay path ∧ i.choices.format = some .raw ∧
        i.choices.hide.getD [] = hiddenBy (before ++ after) ∧
          i.choices.modules = listedBy (before ++ after) := by
  -- The words before the path are fixed, so taking them is a matter of computing.
  have hopen : Invocation.read environment (replayLine path before after) =
      (readInner environment .replay
        (before.flatMap FilterOption.words ++ path :: after.flatMap FilterOption.words)).bind
        fun asked => (({ unread := .option .format (some "raw") } : Progress).finish .outer
          environment).bind
          fun finished => .ok
            { request := asked.1,
              choices := asked.2.orElse (finished.1.choices.orElse finished.2) } := rfl
  have houter : ({ unread := .option .format (some "raw") } : Progress).Holds .outer
      { format := some .raw } [] := ⟨rfl, rfl, rfl, rfl⟩
  rw [hopen, readInner_replay hquiet hplain hpath]
  simp only [Except.bind, houter.finish hquiet]
  have hinner : ∀ {α : Type} (given : Option α), (given <|> none <|> none) = given := by
    intro α given
    cases given <;> rfl
  refine ⟨_, rfl, rfl, ?_, ?_, ?_⟩
  · simp only [Choices.orElse, format_foldl_addTo]
    rfl
  · exact (congrArg (Option.getD · []) (hinner _)).trans (hide_foldl_addTo (before ++ after) {})
  · exact (hinner _).trans (modules_foldl_addTo (before ++ after) {})

end SerialConsole.Command
