import Mathlib.Data.List.Induction
import SerialConsole.Log.Selection
import SerialConsole.Proofs.Log.Saving
import SerialConsole.Proofs.Log.Urgency
import SerialConsole.Proofs.Text.Pieces

/-!
# What a saved history reloads as

A log file is lines, and loading makes one record of every line that is not
blank.  So each record comes back as the lines it was written on: itself, if it
was one line and not blank, but as several records if it had line feeds inside,
and not at all if it was blank.
-/

namespace SerialConsole.Log

open Files (Tree)

/-- The line or lines that a record is stored on, less the line feed that ends
them. -/
def lineOf (text : String) : List Char :=
  if text.toList.getLast? = some '\n' then text.toList.dropLast else text.toList

/-- The lines of a text that are not blank. -/
def linesOf (chars : List Char) : List (List Char) :=
  (chars.splitOn '\n').filter fun line => !line.all Text.isBlank

def storedLine (line : List Char) : String :=
  String.ofList (line ++ ['\n'])

/-- The record is stored on a line of its own, which is not blank. -/
def OneLine (text : String) : Prop :=
  '\n' ∉ lineOf text ∧ (lineOf text).all Text.isBlank = false

instance (text : String) : Decidable (OneLine text) :=
  inferInstanceAs (Decidable (_ ∧ _))

/-- The entry as its record is stored. -/
def Entry.stored (entry : Entry) : Entry :=
  { entry with text := storedText entry.text }

/-- The history in the log file at a path. -/
def History.load (tree : Tree) (path : String) : Except LogFault History :=
  (Capture.ofRead path (tree.read path)).map Capture.toHistory

/-! ### Lines of a log file -/

theorem toList_storedText (text : String) : (storedText text).toList = lineOf text ++ ['\n'] := by
  rw [storedText, lineOf]
  split
  · rename_i hlast
    obtain ⟨front, hfront⟩ := List.getLast?_eq_some_iff.mp hlast
    rw [hfront, List.dropLast_concat]
  · rw [String.toList_append]
    rfl

theorem storedText_eq_storedLine (text : String) : storedText text = storedLine (lineOf text) := by
  rw [storedLine, ← toList_storedText, String.ofList_toList]

theorem storedLine_injective : Function.Injective storedLine := by
  intro left right hlines
  exact List.append_cancel_right (String.ofList_injective hlines)

theorem linesOf_nil : linesOf [] = [] := rfl

/-- A line feed keeps apart the lines before it and after it. -/
theorem linesOf_append_cons (front back : List Char) :
    linesOf (front ++ '\n' :: back) = linesOf front ++ linesOf back := by
  rw [linesOf, List.splitOn_append_cons_self, List.filter_append]
  rfl

theorem of_mem_linesOf {chars line : List Char} (hline : line ∈ linesOf chars) :
    '\n' ∉ line ∧ line.all Text.isBlank = false := by
  obtain ⟨hsplit, hblank⟩ := List.mem_filter.mp hline
  exact ⟨Text.notMem_of_mem_splitOn hsplit, by simpa using hblank⟩

theorem linesOf_eq_singleton {line : List Char} (hfeed : '\n' ∉ line)
    (hblank : line.all Text.isBlank = false) : linesOf line = [line] := by
  rw [linesOf, List.splitOn_eq_singleton hfeed]
  simp [hblank]

/-- The lines of stored records are those of each record in turn. -/
theorem linesOf_flatMap_stored (texts : List String) :
    linesOf (texts.flatMap fun text => lineOf text ++ ['\n']) =
      texts.flatMap fun text => linesOf (lineOf text) := by
  induction texts with
  | nil => exact linesOf_nil
  | cons text texts ih =>
      rw [List.flatMap_cons, List.flatMap_cons, List.append_assoc, List.singleton_append,
        linesOf_append_cons, ih]

/-- Every record comes back as its one line exactly if each of them is one. -/
theorem flatMap_linesOf_eq_map_iff {texts : List String} :
    (texts.flatMap fun text => linesOf (lineOf text)) = texts.map lineOf ↔
      ∀ text ∈ texts, OneLine text := by
  constructor
  · intro hlines text htext
    have hmem : lineOf text ∈ texts.map lineOf := List.mem_map_of_mem htext
    rw [← hlines] at hmem
    obtain ⟨other, -, hother⟩ := List.mem_flatMap.mp hmem
    exact of_mem_linesOf hother
  · intro hone
    induction texts with
    | nil => rfl
    | cons text texts ih =>
        obtain ⟨htext, hrest⟩ := List.forall_mem_cons.mp hone
        rw [List.flatMap_cons, List.map_cons, ih hrest, linesOf_eq_singleton htext.1 htext.2,
          List.singleton_append]

/-! ### Histories and what they reload as -/

theorem entries_ofTexts (texts : List String) :
    (History.ofTexts texts).entries.toList = texts.mapIdx Entry.ofText := by
  induction texts using List.reverseRecOn with
  | nil => rfl
  | append_singleton texts text ih =>
      have hsize : (History.ofTexts texts).size = texts.length := by
        rw [History.size, ← Array.length_toList, ih, List.length_mapIdx]
      rw [History.ofTexts, List.foldl_append, ← History.ofTexts, List.mapIdx_concat]
      change ((History.ofTexts texts).append text).entries.toList = _
      rw [History.toList_append, ih, History.nextEntry, hsize]

/-- A history knows the records it was made of. -/
theorem map_text_mapIdx (texts : List String) :
    (texts.mapIdx Entry.ofText).map Entry.text = texts := by
  refine List.ext_getElem? fun index => ?_
  rw [List.getElem?_map, List.getElem?_mapIdx, Option.map_map]
  exact Option.map_id'

theorem mapIdx_ofText_injective :
    Function.Injective fun texts : List String => texts.mapIdx Entry.ofText := by
  intro left right hentries
  have htexts := congrArg (List.map Entry.text) hentries
  simpa only [map_text_mapIdx] using htexts

theorem classify_storedText (text : String) : classify (storedText text) = classify text := by
  rw [storedText]
  split
  · rfl
  · exact classify_append_lineFeed text

theorem stored_ofText (sequence : Nat) (text : String) :
    (Entry.ofText sequence text).stored = Entry.ofText sequence (storedText text) := by
  rw [Entry.ofText, Entry.ofText, classify_storedText]
  rfl

theorem map_stored_mapIdx (texts : List String) :
    (texts.mapIdx Entry.ofText).map Entry.stored = (texts.map storedText).mapIdx Entry.ofText := by
  refine List.ext_getElem? fun index => ?_
  rw [List.getElem?_map, List.getElem?_mapIdx, List.getElem?_mapIdx, List.getElem?_map,
    Option.map_map, Option.map_map]
  exact congrArg (Option.map · texts[index]?) (funext (stored_ofText index))

theorem toList_logText (h : History) :
    h.logText.toList = (h.entries.toList.map Entry.text).flatMap
      fun text => lineOf text ++ ['\n'] := by
  rw [History.logText, String.toList_join, List.flatMap_map, List.flatMap_map]
  exact List.flatMap_congr fun entry hentry => toList_storedText entry.text

/-- What loads from the file of a history: the lines of one record after
another. -/
theorem recordsOf_logText (h : History) :
    Capture.recordsOf h.logText =
      ((h.entries.toList.map Entry.text).flatMap fun text => linesOf (lineOf text)).map
        storedLine := by
  rw [← linesOf_flatMap_stored, ← toList_logText]
  rfl

/-- Loading gives back the entries as they are stored exactly if each record is
one line. -/
theorem entries_reloaded_iff {h : History} {texts : List String}
    (hentries : h.entries.toList = texts.mapIdx Entry.ofText) :
    (History.ofTexts (Capture.recordsOf h.logText)).entries.toList =
        h.entries.toList.map Entry.stored ↔
      ∀ text ∈ texts, OneLine text := by
  have hrecords : Capture.recordsOf h.logText =
      (texts.flatMap fun text => linesOf (lineOf text)).map storedLine := by
    rw [recordsOf_logText, hentries, map_text_mapIdx]
  have hstored : texts.map storedText = (texts.map lineOf).map storedLine := by
    rw [List.map_map]
    exact List.map_congr_left fun text htext => storedText_eq_storedLine text
  rw [entries_ofTexts, hentries, map_stored_mapIdx, mapIdx_ofText_injective.eq_iff, hrecords,
    hstored, storedLine_injective.list_map.eq_iff, flatMap_linesOf_eq_map_iff]

/-- A selection shows a record as stored exactly if it shows the record. -/
theorem toList_visible_stored {h loaded : History}
    (hentries : loaded.entries.toList = h.entries.toList.map Entry.stored)
    (selection : Selection) :
    (loaded.visible selection).toList = (h.visible selection).toList.map Entry.stored := by
  rw [History.visible, History.visible, Visible.toList, Visible.toList, hentries,
    List.filter_map]
  rfl

theorem ofRead_toUTF8 (path content : String) :
    Capture.ofRead path (.ok content.toUTF8) = .ok (Capture.ofText path content) := by
  have hcontent : String.fromUTF8? content.toUTF8 = some content := by
    rw [String.fromUTF8?]
    exact dif_pos content.isValidUTF8
  rw [Capture.ofRead, hcontent]

theorem load_logPath {tree after : Tree} {conditions : SaveConditions} {h : History}
    {dir stem : String} {stamp : Time.Stamp} {saved : Saved}
    (hsave : saveCapture tree conditions h dir stem stamp = (.ok saved, after)) :
    History.load after saved.logPath = .ok (History.ofTexts (Capture.recordsOf h.logText)) := by
  rw [History.load, read_logPath hsave, ofRead_toUTF8]
  rfl

/-- A saved history can be loaded again.  What loads are the lines of its
records that are not blank; the history comes back record for record, each with
its number, category and subsystem and with its text ended by a line feed,
exactly if each record was one line, and then every selection shows of the two
histories the same. -/
theorem saved_history_reloads_iff_one_line {tree after : Tree} {conditions : SaveConditions}
    {texts : List String} {shell dir stem : String} {stamp : Time.Stamp} {saved : Saved}
    (hsave : saveCapture tree conditions ((History.ofTexts texts).appendShell shell) dir stem
      stamp = (.ok saved, after)) :
    ∃ loaded, History.load after saved.logPath = .ok loaded ∧
      loaded.entries.toList.map Entry.text =
        (texts.flatMap fun text => linesOf (lineOf text)).map storedLine ∧
      (loaded.entries.toList = (History.ofTexts texts).entries.toList.map Entry.stored ↔
        ∀ text ∈ texts, OneLine text) ∧
      ((∀ text ∈ texts, OneLine text) → ∀ selection : Selection,
        (loaded.visible selection).toList =
          ((History.ofTexts texts).visible selection).toList.map Entry.stored) := by
  have hentries := entries_ofTexts texts
  have hiff := entries_reloaded_iff (h := (History.ofTexts texts).appendShell shell) hentries
  refine ⟨_, load_logPath hsave, ?_, hiff, ?_⟩
  · rw [entries_ofTexts, map_text_mapIdx, recordsOf_logText, History.entries_appendShell,
      hentries, map_text_mapIdx]
  · intro hone selection
    exact toList_visible_stored (hiff.mpr hone) selection

theorem two_lines_reload_as_two_records :
    ∃ saved after loaded,
      saveCapture Tree.empty .undisturbed
          ((History.ofTexts ["[warn] one", "[error] [DL] two\r\n"]).appendShell "> x\n") "." "dev"
          ⟨2024, 3, 9, 14, 5, 7, by decide, by decide, by decide⟩ = (.ok saved, after) ∧
        History.load after saved.logPath = .ok loaded ∧
        loaded.entries.toList =
          (History.ofTexts ["[warn] one", "[error] [DL] two\r\n"]).entries.toList.map
            Entry.stored := by
  have hsaved : (saveCapture Tree.empty .undisturbed
      ((History.ofTexts ["[warn] one", "[error] [DL] two\r\n"]).appendShell "> x\n") "." "dev"
      ⟨2024, 3, 9, 14, 5, 7, by decide, by decide, by decide⟩).1 =
        .ok ⟨"./dev_logs_20240309_140507.txt", "./dev_interactive_20240309_140507.txt"⟩ := by
    decide +kernel
  have hsave : saveCapture Tree.empty .undisturbed _ "." "dev" _ = (.ok _, _) := Prod.ext hsaved rfl
  obtain ⟨loaded, hload, -, hiff, -⟩ := saved_history_reloads_iff_one_line hsave
  exact ⟨_, _, loaded, hsave, hload, hiff.mpr (by decide +kernel)⟩

/-- A record with a line feed inside is stored on two lines, and each of them
reloads as a record of its own. -/
theorem record_on_two_lines_reloads_as_two :
    ∃ saved after loaded,
      saveCapture Tree.empty .undisturbed
          (History.ofTexts ["[warn] [DL] one\n[error] [ZCL] two"]) "." "dev"
          ⟨2024, 3, 9, 14, 5, 7, by decide, by decide, by decide⟩ = (.ok saved, after) ∧
        History.load after saved.logPath = .ok loaded ∧
        loaded.entries.toList =
          [⟨0, "[warn] [DL] one\n", .warn, some .dl⟩,
            ⟨1, "[error] [ZCL] two\n", .error, some .zcl⟩] := by
  have hsaved : (saveCapture Tree.empty .undisturbed
      (History.ofTexts ["[warn] [DL] one\n[error] [ZCL] two"]) "." "dev"
      ⟨2024, 3, 9, 14, 5, 7, by decide, by decide, by decide⟩).1 =
        .ok ⟨"./dev_logs_20240309_140507.txt", "./dev_interactive_20240309_140507.txt"⟩ := by
    decide +kernel
  have hsave : saveCapture Tree.empty .undisturbed _ "." "dev" _ = (.ok _, _) := Prod.ext hsaved rfl
  exact ⟨_, _, _, hsave, load_logPath hsave, by decide +kernel⟩

end SerialConsole.Log
