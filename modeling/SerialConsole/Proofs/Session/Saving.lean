import SerialConsole.Proofs.Log.Saving
import SerialConsole.Proofs.Session.Requests

/-!
# Saving keeps both files or nothing

Saving takes six steps, each of which can fail.  A failure leaves the tree as it
was, with one exception: if the shell file cannot be moved into place, the log
file is in place already and is removed again, and with it goes what was at its
path before.
-/

namespace SerialConsole.Session

open Files (Tree Place join)
open Log

/-- The line is the text, followed by a line feed if the text lacks one. -/
structure EndsLine (text line : String) : Prop where
  kept : (∃ front, text = front ++ "\n") → line = text
  ended : (¬∃ front, text = front ++ "\n") → line = text ++ "\n"

/-- The text holds the records of the history in order, each on a line. -/
def HoldsRecords (h : History) (content : String) : Prop :=
  ∃ lines, List.Forall₂ EndsLine (h.entries.toList.map Entry.text) lines ∧
    content = String.join lines

/-- Both paths hold what was saved, and only where they lead has the tree
changed. -/
structure KeptBoth (before after : Tree) (h : History) (saved : Saved) : Prop where
  changed : ∃ logPlace shellPlace, logPlace ≠ shellPlace ∧
    before.LeadsTo saved.logPath logPlace ∧ before.LeadsTo saved.shellPath shellPlace ∧
    before.SameBut after [logPlace, shellPlace]
  log : ∃ content, HoldsRecords h content ∧ after.read saved.logPath = .ok content.toUTF8
  shell : after.read saved.shellPath = .ok h.shell.toUTF8

/-- The tree has lost what was at a path if something was undone, and else
nothing; no new file is left in it, under a temporary name or another. -/
structure KeptNothing (before after : Tree) (path : String) (undone : Prop) : Prop where
  untouched : ¬undone → before.SameBut after [] ∧ ∀ path, after.stat path = before.stat path
  emptied : undone → ∃ place, before.LeadsTo path place ∧ before.SameBut after [place] ∧
    after.find? place = none ∧ after.stat path = .error (.system .noEntry)
  within : after.Within before
  read : ∀ path content, after.read path = .ok content → before.read path = .ok content

/-! ### What the log file holds -/

theorem endsLine_storedText (text : String) : EndsLine text (storedText text) where
  kept := by
    rintro ⟨front, rfl⟩
    have hlast : (front ++ "\n").toList.getLast? = some '\n' := by
      rw [String.toList_append]
      exact List.getLast?_concat
    rw [storedText, if_pos hlast]
  ended := by
    intro hnone
    rw [storedText, if_neg]
    intro hlast
    obtain ⟨front, hfront⟩ := List.getLast?_eq_some_iff.mp hlast
    refine hnone ⟨String.ofList front, String.toList_inj.mp ?_⟩
    rw [hfront, String.toList_append, String.toList_ofList]
    rfl

theorem holdsRecords_logText (h : History) : HoldsRecords h h.logText := by
  refine ⟨h.entries.toList.map fun entry : Entry => storedText entry.text, ?_, rfl⟩
  rw [List.forall₂_map_left_iff, List.forall₂_map_right_iff, List.forall₂_same]
  intro entry _
  exact endsLine_storedText entry.text

theorem keptBoth_of_placed {before after : Tree} {h : History} {saved : Saved}
    {logPlace shellPlace : Place} (hplaced : Placed before after h saved logPlace shellPlace) :
    KeptBoth before after h saved where
  changed := ⟨logPlace, shellPlace, hplaced.apart, hplaced.logLeads, hplaced.shellLeads,
    hplaced.same⟩
  log := ⟨h.logText, holdsRecords_logText h, hplaced.read_logPath⟩
  shell := hplaced.read_shellPath

/-! ### Failures -/

theorem keptNothing_of_same {before after : Tree} (hsame : before.SameBut after []) (path : String)
    {undone : Prop} (hnot : ¬undone) : KeptNothing before after path undone := by
  have hwithin : after.Within before := hsame.within nofun
  exact {
    untouched := fun _ => ⟨hsame, hsame.stat_eq⟩
    emptied := fun hundone => absurd hundone hnot
    within := hwithin
    read := fun _ _ hread => hwithin.read_eq_ok hread }

theorem keptNothing_of_halfPlaced {before half : Tree} {h : History} {path : String}
    {logPlace shellFile : Place} (hhalf : HalfPlaced before half h path logPlace shellFile)
    {undone : Prop} (hundone : undone) :
    KeptNothing before ((half.erase shellFile).remove path) path undone := by
  obtain ⟨hsame, hgone, hleads⟩ := hhalf.undone
  have hwithin : ((half.erase shellFile).remove path).Within before :=
    hsame.within (by simpa using hgone)
  exact {
    untouched := fun hnot => absurd hundone hnot
    emptied := fun _ => ⟨logPlace, hhalf.leads, hsame, hgone, hleads.stat_eq_noEntry hgone⟩
    within := hwithin
    read := fun _ _ hread => hwithin.read_eq_ok hread }

variable {tree after : Tree} {conditions : SaveConditions} {h : History}
  {dir stem : String} {stamp : Time.Stamp}

/-- A save that fails at an earlier step does not fail at the last one, for it
stages the same files every time. -/
theorem keptNothing_of_ending {fault : LogFault}
    (hending : Ending tree conditions h dir stem stamp (.error fault) after) :
    KeptNothing tree after (join dir (logName stem stamp))
      (ShellMoveFails tree conditions h dir stem stamp) := by
  cases hending with
  | logUnstaged hlog =>
      refine keptNothing_of_same (.refl tree) _ ?_
      rintro ⟨_, _, _, _, _, ⟨_, hlog', _⟩, _⟩
      rw [hlog] at hlog'
      cases hlog'
  | shellUnstaged hlog hshell =>
      refine keptNothing_of_same (stage_eq_ok hlog).undone _ ?_
      rintro ⟨_, _, _, _, _, ⟨_, hlog', hshell'⟩, _⟩
      rw [hlog] at hlog'
      cases hlog'
      rw [hshell] at hshell'
      cases hshell'
  | logUnplaced hstaged hlog =>
      refine keptNothing_of_same hstaged.waiting.undone _ ?_
      rintro ⟨_, _, _, _, _, hstaged', hlog', _⟩
      obtain ⟨rfl, rfl, rfl⟩ := hstaged.unique hstaged'
      rw [hlog] at hlog'
      cases hlog'
  | shellUnplaced hstaged hlog hshell =>
      obtain ⟨logPlace, hplacing⟩ := placeFile_eq_ok hlog
      exact keptNothing_of_halfPlaced (hstaged.waiting.halfPlaced hplacing)
        ⟨_, _, _, _, _, hstaged, hlog, hshell⟩

/-- Whatever the tree, the history, the directory, the stem and the second, and
whichever step fails: saving either keeps both files, and changes the tree
nowhere but where their two paths lead, or fails and adds nothing to the tree.
A failure takes nothing from the tree either, unless it is the last step that
fails; then the path of the log file leads to nothing any more.  A console that
is asked to save does just this, unless it replays a capture, and stays as it is
itself. -/
theorem saving_keeps_both_or_nothing {result : Except LogFault Saved}
    (hsave : saveCapture tree conditions h dir stem stamp = (result, after)) :
    (∀ saved, result = .ok saved →
      saved = ⟨join dir (logName stem stamp), join dir (shellName stem stamp)⟩ ∧
        KeptBoth tree after h saved) ∧
    (∀ fault, result = .error fault →
      KeptNothing tree after (join dir (logName stem stamp))
        (ShellMoveFails tree conditions h dir stem stamp)) ∧
    ∀ c : Console, (c.perform (.save tree conditions stamp)).1 = c ∧
      (c.replayPath? = none → c.history = h → c.settings.captureDir = dir →
        c.settings.captureStem = stem →
          c.save tree conditions stamp = (result.mapError .log, after)) := by
  have hending := ending_saveCapture tree conditions h dir stem stamp
  rw [hsave] at hending
  refine ⟨?_, ?_, fun c => ⟨by simp only [Console.perform], ?_⟩⟩
  · rintro saved rfl
    obtain ⟨hpaths, logPlace, shellPlace, hplaced⟩ := hending.placed
    exact ⟨hpaths, keptBoth_of_placed hplaced⟩
  · rintro fault rfl
    exact keptNothing_of_ending hending
  · intro hfree hhistory hdir hstem
    rw [Console.save_of_free hfree, hhistory, hdir, hstem, hsave]

/-- A log file, and a directory where the shell file of the same second is to
go. -/
def obstructed : Tree :=
  (Tree.empty.put ["dev_logs_20240309_140507.txt"] (.file "old\n".toUTF8)).put
    ["dev_interactive_20240309_140507.txt"] .directory

theorem older_log_goes_with_the_newer :
    ∃ fault after,
      saveCapture obstructed .undisturbed ((History.ofTexts ["[info] new"]).appendShell "> x\n")
          "." "dev" ⟨2024, 3, 9, 14, 5, 7, by decide, by decide, by decide⟩ =
        (.error fault, after) ∧
      after.stat "./dev_logs_20240309_140507.txt" = .error (.system .noEntry) ∧
      ∀ place node, after.find? place = some node → obstructed.find? place = some node := by
  have hfailed : (saveCapture obstructed .undisturbed
      ((History.ofTexts ["[info] new"]).appendShell "> x\n") "." "dev"
      ⟨2024, 3, 9, 14, 5, 7, by decide, by decide, by decide⟩).1 =
        .error (.save "./dev_interactive_20240309_140507.txt" (.system .isADirectory)) := by
    decide +kernel
  have hsave : saveCapture obstructed .undisturbed _ "." "dev" _ = (.error _, _) :=
    Prod.ext hfailed rfl
  have hpath : join "." (logName "dev"
      ⟨2024, 3, 9, 14, 5, 7, by decide, by decide, by decide⟩) =
        "./dev_logs_20240309_140507.txt" := by
    decide +kernel
  obtain ⟨-, hfailure, -⟩ := saving_keeps_both_or_nothing hsave
  have hnothing := hfailure _ rfl
  rw [hpath] at hnothing
  refine ⟨_, _, hsave, ?_, hnothing.within.find?_eq⟩
  -- The older file is gone, which is so only if it was the last step that failed.
  have hlost : ¬¬ShellMoveFails obstructed .undisturbed
      ((History.ofTexts ["[info] new"]).appendShell "> x\n") "." "dev"
      ⟨2024, 3, 9, 14, 5, 7, by decide, by decide, by decide⟩ := by
    intro hnot
    have hsame := (hnothing.untouched hnot).1.find?_eq ["dev_logs_20240309_140507.txt"] nofun
    exact absurd hsame (by decide +kernel)
  obtain ⟨place, -, -, -, hstat⟩ := hnothing.emptied (not_not.mp hlost)
  exact hstat

end SerialConsole.Session
