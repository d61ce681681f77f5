import SerialConsole.Proofs.Files.Changes
import SerialConsole.Proofs.Log.FileNames

/-!
# What saving leaves in the tree

Saving stages two temporary files and then moves each into place.  The two end
under different names, and neither name is one that temporary files can get.  So the
second move disturbs nothing that the first has done, and at every step on the
way the new files can be taken out of the tree without a trace of them.
-/

namespace SerialConsole

namespace Files

theorem toList_suffix_join (dir path : String) : path.toList <:+ (join dir path).toList := by
  rw [join]
  split
  · exact List.suffix_rfl
  · split
    · rw [String.toList_append]
      exact List.suffix_append dir.toList path.toList
    · rw [String.toList_append]
      exact List.suffix_append (dir ++ "/").toList path.toList

theorem exists_getLast?_splitOn {chars tail : List Char} (htail : tail <:+ chars)
    (hslash : '/' ∉ tail) :
    ∃ name, (chars.splitOn '/').getLast? = some name ∧ tail <:+ name := by
  obtain ⟨front, rfl⟩ := htail
  induction front with
  | nil =>
      rw [List.nil_append, List.splitOn_eq_singleton hslash]
      exact ⟨tail, rfl, List.suffix_rfl⟩
  | cons c front ih =>
      obtain ⟨name, hname, hsuffix⟩ := ih
      rw [List.cons_append, List.splitOn_cons_eq_if_modifyHead]
      obtain ⟨first, others, hpieces⟩ :=
        List.exists_cons_of_ne_nil (List.splitOn_ne_nil '/' (front ++ tail))
      rw [hpieces] at hname ⊢
      split
      · exact ⟨name, by rw [List.getLast?_cons_cons, hname], hsuffix⟩
      · cases others with
        | nil =>
            rw [List.getLast?_singleton, Option.some.injEq] at hname
            exact ⟨c :: first, rfl, hname ▸ hsuffix.trans (List.suffix_cons c name)⟩
        | cons next others =>
            rw [List.getLast?_cons_cons] at hname
            exact ⟨name, by rw [List.modifyHead_cons, List.getLast?_cons_cons, hname], hsuffix⟩

/-- The last name of a path ends as the path does, up to the last slash. -/
theorem exists_getLast?_components {path : String} {tail : List Char}
    (htail : tail <:+ path.toList) (hslash : '/' ∉ tail) :
    ∃ name, (components path).getLast? = some name ∧ tail <:+ name.toList := by
  obtain ⟨name, hname, hsuffix⟩ := exists_getLast?_splitOn htail hslash
  refine ⟨String.ofList name, ?_, by rwa [String.toList_ofList]⟩
  rw [components, List.getLast?_map, hname]
  rfl

end Files

namespace Log

open Files

/-! ### Names of captures -/

theorem logTail_suffix (dir stem : String) (stamp : Time.Stamp) :
    logTail stamp <:+ (join dir (logName stem stamp)).toList := by
  refine List.IsSuffix.trans ?_ (toList_suffix_join dir _)
  rw [toList_logName]
  exact List.suffix_append stem.toList (logTail stamp)

theorem shellTail_suffix (dir stem : String) (stamp : Time.Stamp) :
    shellTail stamp <:+ (join dir (shellName stem stamp)).toList := by
  refine List.IsSuffix.trans ?_ (toList_suffix_join dir _)
  rw [toList_shellName]
  exact List.suffix_append stem.toList (shellTail stamp)

theorem slash_notMem_stampTail (stamp : Time.Stamp) : '/' ∉ stampTail stamp := by
  have hchars : '/' ∉ stamp.chars := by
    intro hslash
    rcases Time.Stamp.mem_chars hslash with hdigit | hsign
    · exact absurd hdigit (by decide)
    · exact absurd hsign (by decide)
  simp [stampTail, hchars]

theorem slash_notMem_logTail (stamp : Time.Stamp) : '/' ∉ logTail stamp := by
  simp [logTail, slash_notMem_stampTail stamp]

theorem slash_notMem_shellTail (stamp : Time.Stamp) : '/' ∉ shellTail stamp := by
  simp [shellTail, slash_notMem_stampTail stamp]

/-- Names of captures have an underscore, temporary names have none. -/
theorem not_stampTail_suffix_of_isTemporaryName (stamp : Time.Stamp) {name : String}
    (hname : IsTemporaryName name) : ¬stampTail stamp <:+ name.toList := by
  intro htail
  have hunderscore : '_' ∈ stampTail stamp := List.mem_cons_self
  exact hname.underscore_notMem (htail.subset hunderscore)

/-- The file that a path leads to is called what the path ends in. -/
theorem exists_last_of_leadsTo {tree : Tree} {path : String} {file : Place}
    (hleads : tree.LeadsTo path file) {tail : List Char} (htail : tail <:+ path.toList)
    (hslash : '/' ∉ tail) : ∃ name, file.getLast? = some name ∧ tail <:+ name.toList := by
  rw [hleads.way.getLast?_eq]
  exact exists_getLast?_components htail hslash

/-- The place has a name that a temporary file can get. -/
def IsTemporary (place : Place) : Prop :=
  ∃ dir name, place = dir ++ [name] ∧ IsTemporaryName name

/-- A path that ends like the name of a capture leads to no temporary file. -/
theorem not_isTemporary_of_leadsTo {tree : Tree} {path : String} {file : Place}
    {stamp : Time.Stamp} (hleads : tree.LeadsTo path file)
    (htail : stampTail stamp <:+ path.toList) : ¬IsTemporary file := by
  rintro ⟨dir, temporary, rfl, htemporary⟩
  obtain ⟨name, hname, hsuffix⟩ :=
    exists_last_of_leadsTo hleads htail (slash_notMem_stampTail stamp)
  rw [List.getLast?_concat, Option.some.injEq] at hname
  exact not_stampTail_suffix_of_isTemporaryName stamp htemporary (hname ▸ hsuffix)

/-- The two files of a capture are told apart by their last names, in whatever
tree the paths are followed. -/
theorem places_ne_of_leadsTo {tree later : Tree} {dir stem : String} {stamp : Time.Stamp}
    {logPlace shellPlace : Place}
    (hlog : tree.LeadsTo (join dir (logName stem stamp)) logPlace)
    (hshell : later.LeadsTo (join dir (shellName stem stamp)) shellPlace) :
    logPlace ≠ shellPlace := by
  rintro rfl
  obtain ⟨logLast, hlogLast, hlogTail⟩ := exists_last_of_leadsTo hlog
    (logTail_suffix dir stem stamp) (slash_notMem_logTail stamp)
  obtain ⟨shellLast, hshellLast, hshellTail⟩ := exists_last_of_leadsTo hshell
    (shellTail_suffix dir stem stamp) (slash_notMem_shellTail stamp)
  rw [hlogLast, Option.some.injEq] at hshellLast
  exact not_shellTail_of_logTail hlogTail (hshellLast ▸ hshellTail)

/-! ### Staging and placing -/

/-- A new temporary file has been written, and nothing else changed. -/
structure Staging (before after : Tree) (file : Place) (content : String) : Prop where
  named : IsTemporary file
  fresh : before.find? file = none
  written : after.find? file = some (.file content.toUTF8)
  same : before.SameBut after [file]

/-- A file has been moved to where a path leads, and nothing else changed. -/
structure Placing (before after : Tree) (source file : Place) (path : String) : Prop where
  leads : before.LeadsTo path file
  moved : after.find? file = before.find? source
  gone : source ≠ [] → source ≠ file → after.find? source = none
  same : before.SameBut after [source, file]

theorem stage_eq_ok {tree after : Tree} {conditions : SaveConditions} {create write : SaveStep}
    {dir content : String} {file : Place}
    (hstage : stage tree conditions create write dir content = .ok (file, after)) :
    Staging tree after file content := by
  cases hbegin : conditions.mishap create with
  | some fault =>
      simp only [stage, hbegin] at hstage
      cases hstage
  | none =>
      cases hcreate : tree.createTemporary conditions.names dir with
      | error fault =>
          simp only [stage, hbegin, hcreate] at hstage
          cases hstage
      | ok created =>
          obtain ⟨temporary, begun⟩ := created
          cases hwrite : conditions.mishap write with
          | some fault =>
              simp only [stage, hbegin, hcreate, hwrite] at hstage
              cases hstage
          | none =>
              simp only [stage, hbegin, hcreate, hwrite] at hstage
              cases hstage
              obtain ⟨place, name, hfile, hname, hfresh, hbegun⟩ :=
                Tree.createTemporary_eq_ok hcreate
              exact {
                named := ⟨place, name, hfile, hname⟩
                fresh := hfresh
                written := Tree.find?_put_self (Tree.ne_root_of_find?_eq_none hfresh)
                same := {
                  base_eq := by rw [Tree.base_put, hbegun, Tree.base_put]
                  find?_eq := by
                    intro other hother
                    have hne := List.ne_of_not_mem_cons hother
                    rw [Tree.find?_put_ne hne, hbegun, Tree.find?_put_ne hne] } }

theorem placeFile_eq_ok {tree after : Tree} {conditions : SaveConditions} {step : SaveStep}
    {source : Place} {path : String}
    (hplace : placeFile tree conditions step source path = .ok after) :
    ∃ file, Placing tree after source file path := by
  cases hmishap : conditions.mishap step with
  | some fault =>
      simp only [placeFile, hmishap] at hplace
      cases hplace
  | none =>
      simp only [placeFile, hmishap] at hplace
      obtain ⟨file, node, hleads, hsource, hafter⟩ := Tree.rename_eq_ok hplace
      refine ⟨file, { leads := hleads, moved := ?_, gone := ?_, same := ⟨?_, ?_⟩ }⟩
      · rw [hafter, Tree.find?_put_self hleads.way.ne_root, hsource]
      · intro hroot hne
        rw [hafter, Tree.find?_put_ne hne, Tree.find?_erase_self hroot]
      · rw [hafter, Tree.base_put, Tree.base_erase]
      · intro place hother
        have hsource := List.ne_of_not_mem_cons hother
        have hfile := List.ne_of_not_mem_cons (List.not_mem_of_not_mem_cons hother)
        rw [hafter, Tree.find?_put_ne hfile, Tree.find?_erase_ne hsource]

/-! ### The three states on the way -/

/-- Both new files wait under temporary names. -/
structure Waiting (before after : Tree) (h : History) (logFile shellFile : Place) : Prop where
  logNamed : IsTemporary logFile
  shellNamed : IsTemporary shellFile
  logFresh : before.find? logFile = none
  shellFresh : before.find? shellFile = none
  apart : logFile ≠ shellFile
  log : after.find? logFile = some (.file h.logText.toUTF8)
  shell : after.find? shellFile = some (.file h.shell.toUTF8)
  same : before.SameBut after [logFile, shellFile]

/-- The log file is in place, and the shell file still waits. -/
structure HalfPlaced (before after : Tree) (h : History) (logPath : String)
    (logPlace shellFile : Place) : Prop where
  leads : before.LeadsTo logPath logPlace
  shellNamed : IsTemporary shellFile
  shellFresh : before.find? shellFile = none
  apart : logPlace ≠ shellFile
  log : after.find? logPlace = some (.file h.logText.toUTF8)
  shell : after.find? shellFile = some (.file h.shell.toUTF8)
  same : before.SameBut after [shellFile, logPlace]

/-- Both files are where the paths lead, and nothing else changed. -/
structure Placed (before after : Tree) (h : History) (saved : Saved)
    (logPlace shellPlace : Place) : Prop where
  logLeads : before.LeadsTo saved.logPath logPlace
  shellLeads : before.LeadsTo saved.shellPath shellPlace
  apart : logPlace ≠ shellPlace
  log : after.find? logPlace = some (.file h.logText.toUTF8)
  shell : after.find? shellPlace = some (.file h.shell.toUTF8)
  same : before.SameBut after [logPlace, shellPlace]

section States

variable {before begun staged half after : Tree} {h : History} {dir stem : String}
  {stamp : Time.Stamp} {logFile shellFile logPlace shellPlace : Place}

theorem Staging.undone {file : Place} {content : String}
    (hstaging : Staging before staged file content) : before.SameBut (staged.erase file) [] :=
  hstaging.same.erase_fresh hstaging.fresh

theorem Staging.waiting (hlog : Staging before begun logFile h.logText)
    (hshell : Staging begun staged shellFile h.shell) :
    Waiting before staged h logFile shellFile := by
  have hapart : logFile ≠ shellFile := by
    rintro rfl
    have hfresh := hshell.fresh
    rw [hlog.written] at hfresh
    cases hfresh
  exact {
    logNamed := hlog.named
    shellNamed := hshell.named
    logFresh := hlog.fresh
    shellFresh := by
      rw [← hlog.same.find?_eq shellFile (by simpa using hapart.symm), hshell.fresh]
    apart := hapart
    log := by rw [hshell.same.find?_eq logFile (by simpa using hapart), hlog.written]
    shell := hshell.written
    same := hlog.same.trans hshell.same }

namespace Waiting

theorem undone (hwaiting : Waiting before staged h logFile shellFile) :
    before.SameBut ((staged.erase logFile).erase shellFile) [] :=
  (hwaiting.same.erase_fresh hwaiting.logFresh).erase_fresh hwaiting.shellFresh

/-- With only temporary files added, paths lead where they led. -/
theorem leadsTo (hwaiting : Waiting before staged h logFile shellFile) {path : String}
    {file : Place} (hpath : staged.LeadsTo path file) : before.LeadsTo path file := by
  refine hwaiting.same.symm.leadsTo ?_ ?_ hpath
  · simp [hwaiting.log, hwaiting.shell]
  · simp [hwaiting.logFresh, hwaiting.shellFresh]

theorem halfPlaced (hwaiting : Waiting before staged h logFile shellFile)
    (hplacing : Placing staged half logFile logPlace (join dir (logName stem stamp))) :
    HalfPlaced before half h (join dir (logName stem stamp)) logPlace shellFile := by
  have htail : stampTail stamp <:+ (join dir (logName stem stamp)).toList :=
    (stampTail_suffix_logTail stamp).trans (logTail_suffix dir stem stamp)
  have hnamed : ¬IsTemporary logPlace := not_isTemporary_of_leadsTo hplacing.leads htail
  have hmoved : logFile ≠ logPlace := fun hsame => hnamed (hsame ▸ hwaiting.logNamed)
  have hstayed : logPlace ≠ shellFile := fun hsame => hnamed (hsame ▸ hwaiting.shellNamed)
  have hgone : half.find? logFile = none :=
    hplacing.gone (Tree.ne_root_of_find?_eq_none hwaiting.logFresh) hmoved
  exact {
    leads := hwaiting.leadsTo hplacing.leads
    shellNamed := hwaiting.shellNamed
    shellFresh := hwaiting.shellFresh
    apart := hstayed
    log := by rw [hplacing.moved, hwaiting.log]
    shell := by
      rw [hplacing.same.find?_eq shellFile (by simp [hwaiting.apart.symm, hstayed.symm]),
        hwaiting.shell]
    same := by
      refine (hwaiting.same.trans hplacing.same).shrink ?_
      simp [hgone, hwaiting.logFresh] }

end Waiting

namespace HalfPlaced

variable {logPath : String}

/-- Without its other half, the log file is removed again. -/
theorem undone (hhalf : HalfPlaced before half h logPath logPlace shellFile) :
    before.SameBut ((half.erase shellFile).remove logPath) [logPlace] ∧
      ((half.erase shellFile).remove logPath).find? logPlace = none ∧
      ((half.erase shellFile).remove logPath).LeadsTo logPath logPlace := by
  have hsame : before.SameBut (half.erase shellFile) [logPlace] :=
    hhalf.same.erase_fresh hhalf.shellFresh
  have hlog : (half.erase shellFile).find? logPlace = some (.file h.logText.toUTF8) := by
    rw [Tree.find?_erase_ne hhalf.apart, hhalf.log]
  have hleads : (half.erase shellFile).LeadsTo logPath logPlace := by
    refine hsame.leadsTo ?_ ?_ hhalf.leads
    · simpa using hhalf.leads.way.find?_ne_directory
    · simp [hlog]
  rw [Tree.remove_eq_erase hleads hlog]
  have herased := hsame.erase List.mem_cons_self
  have hgone := Tree.find?_erase_self (t := half.erase shellFile) hhalf.leads.way.ne_root
  refine ⟨herased, hgone, herased.leadsTo ?_ ?_ hhalf.leads⟩
  · simpa using hhalf.leads.way.find?_ne_directory
  · simp [hgone]

/-- With the log file in place, other paths lead where they led. -/
theorem leadsTo (hhalf : HalfPlaced before half h logPath logPlace shellFile) {path : String}
    {file : Place} (hpath : half.LeadsTo path file) : before.LeadsTo path file := by
  refine hhalf.same.symm.leadsTo ?_ ?_ hpath
  · simp [hhalf.log, hhalf.shell]
  · simp [hhalf.shellFresh, hhalf.leads.way.find?_ne_directory]

theorem placed
    (hhalf : HalfPlaced before half h (join dir (logName stem stamp)) logPlace shellFile)
    (hplacing : Placing half after shellFile shellPlace (join dir (shellName stem stamp))) :
    Placed before after h ⟨join dir (logName stem stamp), join dir (shellName stem stamp)⟩
      logPlace shellPlace := by
  have htail : stampTail stamp <:+ (join dir (shellName stem stamp)).toList :=
    (stampTail_suffix_shellTail stamp).trans (shellTail_suffix dir stem stamp)
  have hmoved : shellFile ≠ shellPlace := fun hsame =>
    not_isTemporary_of_leadsTo hplacing.leads htail (hsame ▸ hhalf.shellNamed)
  have hapart : logPlace ≠ shellPlace := places_ne_of_leadsTo hhalf.leads hplacing.leads
  have hgone : after.find? shellFile = none :=
    hplacing.gone (Tree.ne_root_of_find?_eq_none hhalf.shellFresh) hmoved
  exact {
    logLeads := hhalf.leads
    shellLeads := hhalf.leadsTo hplacing.leads
    apart := hapart
    log := by
      rw [hplacing.same.find?_eq logPlace (by simp [hhalf.apart, hapart]), hhalf.log]
    shell := by rw [hplacing.moved, hhalf.shell]
    same := by
      refine (hhalf.same.trans hplacing.same).shrink ?_
      simp [hgone, hhalf.shellFresh] }

end HalfPlaced

namespace Placed

variable {saved : Saved}

theorem leadsTo (hplaced : Placed before after h saved logPlace shellPlace) {path : String}
    {file : Place} (hpath : before.LeadsTo path file) : after.LeadsTo path file := by
  refine hplaced.same.leadsTo ?_ ?_ hpath
  · simp [hplaced.logLeads.way.find?_ne_directory, hplaced.shellLeads.way.find?_ne_directory]
  · simp [hplaced.log, hplaced.shell]

theorem read_logPath (hplaced : Placed before after h saved logPlace shellPlace) :
    after.read saved.logPath = .ok h.logText.toUTF8 :=
  (hplaced.leadsTo hplaced.logLeads).read_eq_ok hplaced.log

theorem read_shellPath (hplaced : Placed before after h saved logPlace shellPlace) :
    after.read saved.shellPath = .ok h.shell.toUTF8 :=
  (hplaced.leadsTo hplaced.shellLeads).read_eq_ok hplaced.shell

end Placed

end States

/-! ### Every way that saving ends -/

section Endings

variable (tree : Tree) (conditions : SaveConditions) (h : History) (dir stem : String)
  (stamp : Time.Stamp)

/-- Both files are staged, the log file first. -/
def StagesBoth (logFile shellFile : Place) (staged : Tree) : Prop :=
  ∃ begun,
    stage tree conditions .createLog .writeLog dir h.logText = .ok (logFile, begun) ∧
    stage begun conditions .createShell .writeShell dir h.shell = .ok (shellFile, staged)

/-- The last step fails, and none before it. -/
def ShellMoveFails : Prop :=
  ∃ logFile shellFile staged placed fault,
    StagesBoth tree conditions h dir logFile shellFile staged ∧
    placeFile staged conditions .placeLog logFile (join dir (logName stem stamp)) = .ok placed ∧
    placeFile placed conditions .placeShell shellFile (join dir (shellName stem stamp)) =
      .error fault

/-- Every way that saving ends, by the step that fails. -/
inductive Ending : Except LogFault Saved → Tree → Prop where
  | logUnstaged {fault : Fault}
      (hlog : stage tree conditions .createLog .writeLog dir h.logText = .error fault) :
      Ending (.error (.save (join dir (logName stem stamp)) fault)) tree
  | shellUnstaged {logFile : Place} {begun : Tree} {fault : Fault}
      (hlog : stage tree conditions .createLog .writeLog dir h.logText = .ok (logFile, begun))
      (hshell : stage begun conditions .createShell .writeShell dir h.shell = .error fault) :
      Ending (.error (.save (join dir (shellName stem stamp)) fault)) (begun.erase logFile)
  | logUnplaced {logFile shellFile : Place} {staged : Tree} {fault : Fault}
      (hstaged : StagesBoth tree conditions h dir logFile shellFile staged)
      (hlog : placeFile staged conditions .placeLog logFile (join dir (logName stem stamp)) =
        .error fault) :
      Ending (.error (.save (join dir (logName stem stamp)) fault))
        ((staged.erase logFile).erase shellFile)
  | shellUnplaced {logFile shellFile : Place} {staged placed : Tree} {fault : Fault}
      (hstaged : StagesBoth tree conditions h dir logFile shellFile staged)
      (hlog : placeFile staged conditions .placeLog logFile (join dir (logName stem stamp)) =
        .ok placed)
      (hshell : placeFile placed conditions .placeShell shellFile
        (join dir (shellName stem stamp)) = .error fault) :
      Ending (.error (.save (join dir (shellName stem stamp)) fault))
        ((placed.erase shellFile).remove (join dir (logName stem stamp)))
  | saved {logFile shellFile : Place} {staged placed after : Tree}
      (hstaged : StagesBoth tree conditions h dir logFile shellFile staged)
      (hlog : placeFile staged conditions .placeLog logFile (join dir (logName stem stamp)) =
        .ok placed)
      (hshell : placeFile placed conditions .placeShell shellFile
        (join dir (shellName stem stamp)) = .ok after) :
      Ending (.ok ⟨join dir (logName stem stamp), join dir (shellName stem stamp)⟩) after

theorem ending_saveCapture :
    Ending tree conditions h dir stem stamp (saveCapture tree conditions h dir stem stamp).1
      (saveCapture tree conditions h dir stem stamp).2 := by
  simp only [saveCapture]
  split
  · rename_i fault hlog
    exact .logUnstaged hlog
  · rename_i logFile begun hlog
    split
    · rename_i fault hshell
      exact .shellUnstaged hlog hshell
    · rename_i shellFile staged hshell
      have hstaged : StagesBoth tree conditions h dir logFile shellFile staged :=
        ⟨begun, hlog, hshell⟩
      split
      · rename_i fault hplaceLog
        exact .logUnplaced hstaged hplaceLog
      · rename_i placed hplaceLog
        split
        · rename_i fault hplaceShell
          exact .shellUnplaced hstaged hplaceLog hplaceShell
        · rename_i after hplaceShell
          exact .saved hstaged hplaceLog hplaceShell

end Endings

section Results

variable {tree after : Tree} {conditions : SaveConditions} {h : History}
  {dir stem : String} {stamp : Time.Stamp} {saved : Saved}

theorem StagesBoth.waiting {logFile shellFile : Place} {staged : Tree}
    (hstaged : StagesBoth tree conditions h dir logFile shellFile staged) :
    Waiting tree staged h logFile shellFile := by
  obtain ⟨begun, hlog, hshell⟩ := hstaged
  exact (stage_eq_ok hlog).waiting (stage_eq_ok hshell)

/-- The same files are staged every time. -/
theorem StagesBoth.unique {logFile shellFile otherLog otherShell : Place} {staged other : Tree}
    (hstaged : StagesBoth tree conditions h dir logFile shellFile staged)
    (hother : StagesBoth tree conditions h dir otherLog otherShell other) :
    logFile = otherLog ∧ shellFile = otherShell ∧ staged = other := by
  obtain ⟨begun, hlog, hshell⟩ := hstaged
  obtain ⟨otherBegun, hotherLog, hotherShell⟩ := hother
  rw [hlog] at hotherLog
  cases hotherLog
  rw [hshell] at hotherShell
  cases hotherShell
  exact ⟨rfl, rfl, rfl⟩

theorem Ending.placed (hending : Ending tree conditions h dir stem stamp (.ok saved) after) :
    saved = ⟨join dir (logName stem stamp), join dir (shellName stem stamp)⟩ ∧
      ∃ logPlace shellPlace, Placed tree after h saved logPlace shellPlace := by
  cases hending with
  | saved hstaged hlog hshell =>
      obtain ⟨logPlace, hlogPlacing⟩ := placeFile_eq_ok hlog
      obtain ⟨shellPlace, hshellPlacing⟩ := placeFile_eq_ok hshell
      exact ⟨rfl, logPlace, shellPlace,
        (hstaged.waiting.halfPlaced hlogPlacing).placed hshellPlacing⟩

/-- The path of a saved log file reads back as the text of the log. -/
theorem read_logPath
    (hsave : saveCapture tree conditions h dir stem stamp = (.ok saved, after)) :
    after.read saved.logPath = .ok h.logText.toUTF8 := by
  have hending := ending_saveCapture tree conditions h dir stem stamp
  rw [hsave] at hending
  obtain ⟨-, logPlace, shellPlace, hplaced⟩ := hending.placed
  exact hplaced.read_logPath

end Results

end Log

end SerialConsole
