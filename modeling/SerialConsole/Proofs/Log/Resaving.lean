import SerialConsole.Proofs.Log.Reload

/-!
# Saving what was loaded

Any history that is saved loads as the lines of its records that are not blank,
each as a record of its own.  Records that were loaded are such lines already,
and so a history that was loaded from one file comes back unchanged from the
file it is saved to.
-/

namespace SerialConsole.Log

open Files (Tree)

/-- A record that is one line: it has a line feed at its end and nowhere else,
and something before it that is not blank. -/
structure IsLine (record : String) : Prop where
  notBlank : Text.allBlank record = false
  oneFeed : record.toList.count '\n' = 1
  ended : record.toList.getLast? = some '\n'

/-- The records that the entries of a history load as, if it is saved. -/
def History.linewise (h : History) : List String :=
  (h.entries.toList.flatMap fun entry => linesOf entry.text.toList).map storedLine

/-! ### Lines of records -/

theorem isLine_storedLine {line : List Char} (hfeed : '\n' ∉ line)
    (hblank : line.all Text.isBlank = false) : IsLine (storedLine line) where
  notBlank := by
    rw [Text.allBlank, storedLine, String.toList_ofList, List.all_append, hblank]
    rfl
  oneFeed := by
    rw [storedLine, String.toList_ofList, List.count_append, List.count_eq_zero.mpr hfeed]
    rfl
  ended := by rw [storedLine, String.toList_ofList, List.getLast?_concat]

theorem linesOf_lineOf (text : String) : linesOf (lineOf text) = linesOf text.toList := by
  rw [lineOf]
  split
  · rename_i hlast
    obtain ⟨front, hfront⟩ := List.getLast?_eq_some_iff.mp hlast
    rw [hfront, List.dropLast_concat, linesOf_append_cons, linesOf_nil, List.append_nil]
  · rfl

theorem linesOf_storedLine {line : List Char} (hfeed : '\n' ∉ line)
    (hblank : line.all Text.isBlank = false) : linesOf (storedLine line).toList = [line] := by
  rw [storedLine, String.toList_ofList, linesOf_append_cons, linesOf_nil, List.append_nil,
    linesOf_eq_singleton hfeed hblank]

theorem IsLine.toList_eq {record : String} (hrecord : IsLine record) :
    record.toList = lineOf record ++ ['\n'] := by
  rw [← toList_storedText, storedText, if_pos hrecord.ended]

namespace Capture

theorem recordsOf_eq (content : String) :
    recordsOf content = (linesOf content.toList).map storedLine :=
  rfl

theorem isLine_of_mem_recordsOf {content record : String} (hrecord : record ∈ recordsOf content) :
    IsLine record := by
  obtain ⟨line, hline, rfl⟩ := List.mem_map.mp hrecord
  exact isLine_storedLine (of_mem_linesOf hline).1 (of_mem_linesOf hline).2

/-- A line feed between two texts keeps their records apart. -/
theorem recordsOf_append_lineFeed (front back : String) :
    recordsOf (front ++ "\n" ++ back) = recordsOf front ++ recordsOf back := by
  have hchars : (front ++ "\n" ++ back).toList = front.toList ++ '\n' :: back.toList := by
    rw [String.toList_append, String.toList_append, List.append_assoc]
    rfl
  rw [recordsOf_eq, hchars, linesOf_append_cons, List.map_append]
  rfl

/-- A record that was read from lines has that one line. -/
theorem flatMap_linesOf_recordsOf (content : String) :
    ((recordsOf content).flatMap fun record => linesOf record.toList) =
      linesOf content.toList := by
  have hlines : ∀ line ∈ linesOf content.toList, linesOf (storedLine line).toList = [line] :=
    fun line hline => linesOf_storedLine (of_mem_linesOf hline).1 (of_mem_linesOf hline).2
  rw [recordsOf_eq, List.flatMap_map, List.flatMap_congr hlines, List.flatMap_singleton']

/-- Records written one after the other are read as these records. -/
theorem recordsOf_join_recordsOf (content : String) :
    recordsOf (String.join (recordsOf content)) = recordsOf content := by
  have hended : ∀ record ∈ recordsOf content, record.toList = lineOf record ++ ['\n'] :=
    fun record hrecord => (isLine_of_mem_recordsOf hrecord).toList_eq
  have hlines : linesOf (String.join (recordsOf content)).toList = linesOf content.toList :=
    calc
      linesOf (String.join (recordsOf content)).toList
          = linesOf ((recordsOf content).flatMap fun record => lineOf record ++ ['\n']) := by
            rw [String.toList_join, List.flatMap_congr hended]
      _ = (recordsOf content).flatMap fun record => linesOf (lineOf record) :=
            linesOf_flatMap_stored (recordsOf content)
      _ = (recordsOf content).flatMap fun record => linesOf record.toList :=
            List.flatMap_congr fun record _ => linesOf_lineOf record
      _ = linesOf content.toList := flatMap_linesOf_recordsOf content
  rw [recordsOf_eq, hlines, recordsOf_eq]

end Capture

/-! ### Histories -/

theorem recordsOf_logText_eq_linewise (h : History) :
    Capture.recordsOf h.logText = h.linewise := by
  rw [recordsOf_logText, History.linewise, List.flatMap_map]
  exact congrArg (List.map storedLine) (List.flatMap_congr fun entry _ => linesOf_lineOf entry.text)

/-- A history that was loaded has the records of some text. -/
theorem exists_content_of_load {tree : Tree} {path : String} {h : History}
    (hload : History.load tree path = .ok h) :
    ∃ content, h.entries.toList = (Capture.recordsOf content).mapIdx Entry.ofText := by
  cases hread : tree.read path with
  | error fault =>
      rw [History.load, hread] at hload
      cases hload
  | ok bytes =>
      rw [History.load, hread] at hload
      cases hcontent : String.fromUTF8? bytes with
      | none =>
          simp only [Capture.ofRead, hcontent] at hload
          cases hload
      | some content =>
          simp only [Capture.ofRead, hcontent] at hload
          cases hload
          exact ⟨content, entries_ofTexts (Capture.recordsOf content)⟩

/-- The records of a text are lines already. -/
theorem linewise_of_recordsOf {h : History} {content : String}
    (hentries : h.entries.toList = (Capture.recordsOf content).mapIdx Entry.ofText) :
    h.linewise = Capture.recordsOf content := by
  have htexts : h.entries.toList.map Entry.text = Capture.recordsOf content := by
    rw [hentries, map_text_mapIdx]
  have hlines : (h.entries.toList.flatMap fun entry => linesOf entry.text.toList) =
      linesOf content.toList :=
    calc
      (h.entries.toList.flatMap fun entry => linesOf entry.text.toList)
          = (h.entries.toList.map Entry.text).flatMap fun text => linesOf text.toList := by
            rw [List.flatMap_map]
      _ = (Capture.recordsOf content).flatMap fun text => linesOf text.toList := by rw [htexts]
      _ = linesOf content.toList := Capture.flatMap_linesOf_recordsOf content
  rw [History.linewise, hlines, Capture.recordsOf_eq]

/-- A saved history can be loaded again, and loads as the lines of its records
that are not blank, in order and numbered from zero, each classified on its own.
What is read from a text are such lines, text by text if a line feed stands
between two, and written one after the other they are read again; so a history
that was loaded comes back with the entries it had. -/
theorem saved_history_loads_line_by_line {tree after : Tree} {conditions : SaveConditions}
    {h : History} {dir stem : String} {stamp : Time.Stamp} {saved : Saved}
    (hsave : saveCapture tree conditions h dir stem stamp = (.ok saved, after)) :
    ∃ loaded, History.load after saved.logPath = .ok loaded ∧
      loaded.entries.toList = h.linewise.mapIdx Entry.ofText ∧
      (∀ content, ∀ record ∈ Capture.recordsOf content, IsLine record) ∧
      (∀ front back, Capture.recordsOf (front ++ "\n" ++ back) =
        Capture.recordsOf front ++ Capture.recordsOf back) ∧
      (∀ content, Capture.recordsOf (String.join (Capture.recordsOf content)) =
        Capture.recordsOf content) ∧
      (∀ earlier path, History.load earlier path = .ok h → loaded.entries = h.entries) := by
  have hentries : (History.ofTexts (Capture.recordsOf h.logText)).entries.toList =
      h.linewise.mapIdx Entry.ofText := by
    rw [entries_ofTexts, recordsOf_logText_eq_linewise]
  refine ⟨_, load_logPath hsave, hentries, ?_, ?_, ?_, ?_⟩
  · intro content record hrecord
    exact Capture.isLine_of_mem_recordsOf hrecord
  · exact Capture.recordsOf_append_lineFeed
  · exact Capture.recordsOf_join_recordsOf
  · intro earlier path hload
    obtain ⟨content, hcontent⟩ := exists_content_of_load hload
    rw [linewise_of_recordsOf hcontent, ← hcontent] at hentries
    exact Array.toList_inj.mp hentries

/-- A file with blank lines and CRs, and no line feed at its end. -/
def untidy : Tree :=
  Tree.empty.put ["old.txt"] (.file "[warn] one\n \t\n\n[DL] two\r\nthree".toUTF8)

/-- Loaded, saved beside the old file and loaded again. -/
theorem loaded_lines_come_back :
    ∃ h saved after loaded,
      History.load untidy "old.txt" = .ok h ∧
        saveCapture untidy .undisturbed h "." "dev"
            ⟨2024, 3, 9, 14, 5, 7, by decide, by decide, by decide⟩ = (.ok saved, after) ∧
        History.load after saved.logPath = .ok loaded ∧
        loaded.entries.toList =
          ["[warn] one\n", "[DL] two\r\n", "three\n"].mapIdx Entry.ofText ∧
        loaded.entries = h.entries := by
  have hload : History.load untidy "old.txt" =
      .ok (History.ofTexts ["[warn] one\n", "[DL] two\r\n", "three\n"]) := by
    decide +kernel
  have hsaved : (saveCapture untidy .undisturbed
      (History.ofTexts ["[warn] one\n", "[DL] two\r\n", "three\n"]) "." "dev"
      ⟨2024, 3, 9, 14, 5, 7, by decide, by decide, by decide⟩).1 =
        .ok ⟨"./dev_logs_20240309_140507.txt", "./dev_interactive_20240309_140507.txt"⟩ := by
    decide +kernel
  have hsave : saveCapture untidy .undisturbed _ "." "dev" _ = (.ok _, _) := Prod.ext hsaved rfl
  obtain ⟨loaded, hloaded, -, -, -, -, hsame⟩ := saved_history_loads_line_by_line hsave
  have hentries := hsame _ _ hload
  refine ⟨_, _, _, loaded, hload, hsave, hloaded, ?_, hentries⟩
  rw [hentries, entries_ofTexts]

end SerialConsole.Log
