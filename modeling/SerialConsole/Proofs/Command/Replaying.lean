import SerialConsole.Bench.Program
import SerialConsole.Output.Grid
import SerialConsole.Proofs.Command.FilterOptions
import SerialConsole.Proofs.Log.Choosing
import SerialConsole.Proofs.Log.Reload
import SerialConsole.Proofs.Output.Batch
import SerialConsole.Proofs.Session.Requests

/-!
# A replay prints the lines that were asked for

The command to replay takes a file through every layer: the options become a
selection, the file becomes lines, lines become classified records, a console
redraws those that the selection shows, and a batch printer writes them.  What
comes out in the raw format are the lines asked for, as they stand in the file.
-/

namespace SerialConsole

open Log Session Output Command Bench

namespace Log

/-- The lines of a file that are asked for, each ended by a line feed. -/
def linesAskedFor (hidden : List Category) (only : Option (List Subsystem)) (content : String) :
    List String :=
  let lines := (linesOf content.toList).map String.ofList
  (lines.filter fun line => IsAskedFor hidden only (categoryOf line) (subsystemOf line)).map
    (· ++ "\n")

theorem storedLine_eq_append (line : List Char) : storedLine line = String.ofList line ++ "\n" := by
  apply String.toList_injective
  rw [storedLine, String.toList_ofList, String.toList_append, String.toList_ofList]
  rfl

theorem classify_storedLine (line : List Char) :
    classify (storedLine line) = classify (String.ofList line) := by
  rw [storedLine_eq_append, classify_append_lineFeed]

/-- A record is shown or not for the sake of its text. -/
theorem map_text_visible_ofTexts (s : Selection) (texts : List String) :
    ((History.ofTexts texts).visible s).toList.map Entry.text =
      texts.filter fun text => s.allows (classify text).category (classify text).subsystem := by
  have hshows : ∀ entry ∈ texts.mapIdx Entry.ofText, s.shows entry =
      s.allows (classify entry.text).category (classify entry.text).subsystem := by
    intro entry hentry
    obtain ⟨index, hindex, rfl⟩ := List.mem_mapIdx.mp hentry
    rfl
  rw [History.visible, Visible.toList, entries_ofTexts, List.filter_congr hshows]
  conv => rhs; rw [← map_text_mapIdx texts, List.filter_map]
  rfl

/-- What a selection that was asked for shows of a file. -/
theorem map_text_visible_ofText (hidden : List Category) (only : Option (List Subsystem))
    (path content : String) :
    ((Capture.ofText path content).toHistory.visible
        (Selection.choose hidden only)).toList.map Entry.text =
      linesAskedFor hidden only content := by
  have hrecords : (Capture.ofText path content).records =
      (linesOf content.toList).map storedLine := rfl
  have hasked :
      (fun text => (Selection.choose hidden only).allows (classify text).category
          (classify text).subsystem) ∘ storedLine =
        (fun line => decide (IsAskedFor hidden only (categoryOf line) (subsystemOf line))) ∘
          String.ofList := by
    funext line
    rw [Function.comp_apply, Function.comp_apply, classify_storedLine, Bool.eq_iff_iff,
      Selection.allows_choose_iff, decide_eq_true_iff]
    rfl
  rw [Capture.toHistory, map_text_visible_ofTexts, hrecords, linesAskedFor, List.filter_map,
    List.filter_map, List.map_map, hasked]
  exact List.map_congr_left fun line hline => storedLine_eq_append line

end Log

namespace Command

variable {c : Console}

/-- A console that is attached to nothing prints what it shows of the capture,
after saying that it is loaded. -/
theorem replayCapture_of_nothing (hlink : c.attachment = .nothing) (draw : Drawing)
    (format : Format) (path : String) (content : Except Fault ByteArray) :
    replayCapture c draw format path content =
      match Capture.ofRead path content with
      | .error fault => .error (.ofLogFault "load failed" fault)
      | .ok capture => .ok (Printer.printOther format (Console.loadedNotice path) ++
          format.printBatch draw (capture.toHistory.visible c.selection).toList) := by
  have hfree : c.replayPath? = none := by rw [Console.replayPath?, hlink]
  rw [replayCapture, Console.load_of_free hfree, Console.release_of_nothing hlink]
  cases Capture.ofRead path content with
  | error fault => rfl
  | ok capture =>
      simp only [Outcome.done, List.nil_append, Console.redraw, Printer.batch,
        Console.loadedNotice, Printer.takeAll_redraw]
      rfl

theorem Exit.code_ne_zero {exit : Exit} (hexit : exit ≠ .success) : exit.code ≠ 0 := by
  cases exit with
  | success => exact absurd rfl hexit
  | _ => decide

theorem Failure.exit_ofLogFault (context : String) (fault : LogFault) :
    (ofLogFault context fault).exit ≠ .success := by
  have hkind : ∀ kind, exitOf kind ≠ .success := by
    intro kind
    cases kind <;> decide
  cases fault with
  | unknownCategory name => exact Exit.noConfusion
  | unknownSubsystem name => exact Exit.noConfusion
  | save path cause => exact hkind cause.kind
  | load path cause => exact hkind cause.kind

end Command

theorem Files.Tree.read_of_absent {t : Files.Tree} {path : String}
    (habsent : ∀ place node, t.resolve path ≠ .ok (.present place node)) :
    ∃ fault, t.read path = .error fault := by
  rw [read, stat]
  cases hresolve : t.resolve path with
  | error fault => exact ⟨fault, rfl⟩
  | ok target =>
      cases target with
      | present place node => exact absurd hresolve (habsent place node)
      | free place => exact ⟨_, rfl⟩

namespace Bench

/-- The run fails and prints no record. -/
structure PrintsNothing (run : Run) : Prop where
  out : run.printed.out = ""
  code : run.code ≠ 0

/-- Two command lines ask for the same filter, with their lists taken as
sets. -/
structure SameFilter (i j : Invocation) : Prop where
  hidden : ∀ c, c ∈ i.choices.hide.getD [] ↔ c ∈ j.choices.hide.getD []
  given : i.choices.modules.isSome = j.choices.modules.isSome
  listed : ∀ m, m ∈ i.choices.modules.getD [] ↔ m ∈ j.choices.modules.getD []

/-- A command line that asks for the replay of a file. -/
structure AsksReplay (world : World) (path : String) (arguments : List String) (i : Invocation) :
    Prop where
  read : Invocation.read world.environment arguments = .ok i
  request : i.request = .replay path

/-- What the command to replay a file makes of it. -/
structure PrintsLinesAskedFor (world : World) (path : String) : Prop where
  /-- In the raw format the lines asked for are printed and nothing else. -/
  prints : ∀ arguments i bytes content, AsksReplay world path arguments i →
    i.choices.format = some .raw → world.tree.read path = .ok bytes →
      String.fromUTF8? bytes = some content →
        (runProgram world arguments).printed.out =
            String.join (linesAskedFor (i.choices.hide.getD []) i.choices.modules content) ∧
          (runProgram world arguments).code = 0
  /-- The options may be typed in any order and any number of times. -/
  typed : IsQuiet world.environment → Shape.of path = .plain → path ≠ "" →
    ∀ before after bytes content, world.tree.read path = .ok bytes →
      String.fromUTF8? bytes = some content →
        (runProgram world (replayLine path before after)).printed.out =
            String.join (linesAskedFor (hiddenBy (before ++ after)) (listedBy (before ++ after))
              content) ∧
          (runProgram world (replayLine path before after)).code = 0
  /-- There are options for any lists, if subsystems are listed for at least one. -/
  anyLists : ∀ (hidden : List Category) (only : Option (List Subsystem)), only ≠ some [] →
    ∃ options, hiddenBy options = hidden ∧ listedBy options = only
  /-- The selection depends on the two lists as sets alone. -/
  filter : ∀ i j : Invocation, SameFilter i j → i.selection = j.selection
  /-- So does all that a run does. -/
  same : ∀ arguments others i j, AsksReplay world path arguments i →
    AsksReplay world path others j → i.choices.format = j.choices.format → SameFilter i j →
      runProgram world arguments = runProgram world others
  unreadable : ∀ arguments i fault, AsksReplay world path arguments i →
    world.tree.read path = .error fault → PrintsNothing (runProgram world arguments)
  absent : ∀ arguments i, AsksReplay world path arguments i →
    (∀ place node, world.tree.resolve path ≠ .ok (.present place node)) →
      PrintsNothing (runProgram world arguments)
  notText : ∀ arguments i bytes, AsksReplay world path arguments i →
    world.tree.read path = .ok bytes → String.fromUTF8? bytes = none →
      PrintsNothing (runProgram world arguments)

variable {world : World} {path : String} {arguments : List String} {i : Invocation}

theorem AsksReplay.run (hasks : AsksReplay world path arguments i) :
    runProgram world arguments =
      match Capture.ofRead path (world.tree.read path) with
      | .error fault => Run.failed world (.ofLogFault "load failed" fault)
      | .ok capture => Run.prints world
          (Printer.printOther (i.format false) (Console.loadedNotice path) ++
            (i.format false).printBatch world.draw
              (capture.toHistory.visible i.selection).toList) := by
  rw [runProgram, hasks.read]
  simp only [runInvocation, hasks.request]
  rw [replayCapture_of_nothing (c := i.console) rfl]
  cases Capture.ofRead path (world.tree.read path) with
  | error fault => rfl
  | ok capture => rfl

theorem AsksReplay.fails (hasks : AsksReplay world path arguments i) {fault : LogFault}
    (hload : Capture.ofRead path (world.tree.read path) = .error fault) :
    PrintsNothing (runProgram world arguments) := by
  rw [hasks.run, hload]
  exact ⟨rfl, Exit.code_ne_zero (Failure.exit_ofLogFault _ fault)⟩

theorem AsksReplay.fails_of_unreadable (hasks : AsksReplay world path arguments i)
    {fault : Fault} (hread : world.tree.read path = .error fault) :
    PrintsNothing (runProgram world arguments) := by
  have hload : Capture.ofRead path (world.tree.read path) = .error (.load path fault) := by
    rw [hread, Capture.ofRead]
  exact hasks.fails hload

theorem AsksReplay.prints (hasks : AsksReplay world path arguments i)
    (hformat : i.choices.format = some .raw) {bytes : ByteArray} {content : String}
    (hread : world.tree.read path = .ok bytes) (htext : String.fromUTF8? bytes = some content) :
    (runProgram world arguments).printed.out =
        String.join (linesAskedFor (i.choices.hide.getD []) i.choices.modules content) ∧
      (runProgram world arguments).code = 0 := by
  have hload : Capture.ofRead path (world.tree.read path) = .ok (.ofText path content) := by
    rw [hread, Capture.ofRead, htext]
  have hraw : i.format false = .raw := by rw [Invocation.format, hformat, Option.getD_some]
  rw [hasks.run, hload]
  simp only [hraw, Format.printBatch_raw, Invocation.selection, map_text_visible_ofText]
  exact ⟨String.empty_append, rfl⟩

theorem SameFilter.selection {j : Invocation} (hsame : SameFilter i j) :
    i.selection = j.selection :=
  Selection.choose_congr hsame.hidden hsame.given hsame.listed

/-- Whatever is in the file and whatever filter is asked for, replaying the file
in the raw format prints those of its lines that are not blank and are asked
for, in their order, each ended by a line feed.  A file that is not there or not
text prints nothing, and the run fails. -/
theorem replay_prints_lines_asked_for (world : World) (path : String) :
    PrintsLinesAskedFor world path where
  prints arguments i bytes content hasks hformat hread htext :=
    hasks.prints hformat hread htext
  typed hquiet hplain hpath before after bytes content hread htext := by
    obtain ⟨i, hline, hrequest, hformat, hhide, hmodules⟩ :=
      read_replayLine hquiet hplain hpath before after
    have hasks : AsksReplay world path (replayLine path before after) i := ⟨hline, hrequest⟩
    have hprints := hasks.prints hformat hread htext
    rwa [hhide, hmodules] at hprints
  anyLists hidden only honly := exists_options hidden only honly
  filter i j hsame := hsame.selection
  same arguments others i j hasks hother hformat hsame := by
    rw [hasks.run, hother.run, hsame.selection, Invocation.format, Invocation.format, hformat]
  unreadable arguments i fault hasks hread := hasks.fails_of_unreadable hread
  absent arguments i hasks habsent := by
    obtain ⟨fault, hread⟩ := Files.Tree.read_of_absent habsent
    exact hasks.fails_of_unreadable hread
  notText arguments i bytes hasks hread htext := by
    have hload : Capture.ofRead path (world.tree.read path) = .error (.load path .notUtf8) := by
      rw [hread, Capture.ofRead, htext]
    exact hasks.fails hload

example :
    let world : World :=
      { environment := fun _ => none,
        tree := Files.Tree.empty.plant "x.txt"
          (.file "[detail] [ZCL] a\n \n[info] [DL] b\n[warn] c\n[warn] [ZCL] d".toUTF8),
        input := [],
        device := none,
        now := ⟨2024, 3, 9, 14, 5, 7, by decide, by decide, by decide⟩,
        clock := ⟨0, 0⟩,
        draw := .fullWidth }
    let arguments :=
      ["--format", "raw", "replay", "--hide", "detail,detail", "x.txt", "--modules=zcl"]
    (runProgram world arguments).printed =
      ⟨"[warn] c\n[warn] [ZCL] d\n", "Loaded: x.txt (Replay Mode - Read Only)\n"⟩ := by
  decide +kernel

end Bench

end SerialConsole
