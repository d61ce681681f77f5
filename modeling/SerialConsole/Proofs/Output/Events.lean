import Mathlib.Data.List.Basic
import SerialConsole.Output.Grid
import SerialConsole.Proofs.Output.Batch
import SerialConsole.Proofs.Text.JsonReading

/-!
# The events of a streaming printer

In the JSON format a streaming printer writes every update but an error as one
line on the standard output, and the line tells which update it was and all it
was about.  The lines can be told apart whatever texts they quote, so what was
shown can be read back from the output as a whole.
-/

namespace SerialConsole.Output

open Log Session Text

/-! ### Reading an event -/

def entryOf? (event : Json) : Option Entry := do
  let sequence ← (event.field? "sequence").bind Json.natural?
  let text ← (event.field? "text").bind Json.text?
  let category ← ((event.field? "category").bind Json.text?).bind Category.ofName?
  let subsystem ← (event.field? "module").bind
    (Json.orNull? fun name => name.text?.bind Subsystem.ofName?)
  some ⟨sequence, text, category, subsystem⟩

/-- The update that empties the pane of a name. -/
def clearing? (pane : String) : Option Update :=
  if pane = "log" then some .clearLog
  else if pane = "interactive" then some .clearShell
  else none

/-- The update that an event tells of. -/
def update? (event : Json) : Option Update :=
  ((event.field? "stream").bind Json.text?).bind fun stream =>
    if stream = "log" then (entryOf? event).map .log
    else if stream = "interactive" then ((event.field? "text").bind Json.text?).map .shell
    else if stream = "status" then ((event.field? "message").bind Json.text?).map .status
    else if stream = "clear" then ((event.field? "pane").bind Json.text?).bind clearing?
    else none

/-- The update that a line of the output tells of. -/
def readLine? (line : String) : Option Update :=
  (Json.read? line).bind update?

theorem entryOf?_logEvent (entry : Entry) : entryOf? (logEvent entry) = some entry := by
  obtain ⟨sequence, text, category, subsystem⟩ := entry
  cases subsystem with
  | none =>
      have hread : entryOf? (logEvent ⟨sequence, text, category, none⟩) =
          (Category.ofName? category.name).bind fun category =>
            some ⟨sequence, text, category, none⟩ := rfl
      rw [hread, Category.ofName?_name]
      rfl
  | some subsystem =>
      have hread : entryOf? (logEvent ⟨sequence, text, category, some subsystem⟩) =
          (Category.ofName? category.name).bind fun category =>
            ((Subsystem.ofName? subsystem.name).map some).bind fun subsystem =>
              some ⟨sequence, text, category, subsystem⟩ := rfl
      rw [hread, Category.ofName?_name, Subsystem.ofName?_name]
      rfl

/-- An event tells the update it is the event of. -/
theorem update?_of_event? {update : Update} {event : Json} (hevent : event? update = some event) :
    update? event = some update := by
  cases update with
  | log entry =>
      cases hevent
      have hread : update? (logEvent entry) = (entryOf? (logEvent entry)).map .log := rfl
      rw [hread, entryOf?_logEvent]
      rfl
  | error message => cases hevent
  | _ =>
      cases hevent
      rfl

theorem readLine?_render {update : Update} {event : Json} (hevent : event? update = some event) :
    readLine? event.render = some update := by
  rw [readLine?, Json.read?_render, Option.bind_some, update?_of_event? hevent]

theorem exists_event (update : Update) (hupdate : ∀ message, update ≠ .error message) :
    ∃ event, event? update = some event := by
  cases update with
  | error message => exact absurd rfl (hupdate message)
  | _ => exact ⟨_, rfl⟩

/-! ### Lines -/

/-- A text that consists of lines, each ended by the only line feed in it. -/
structure Lined (text : String) (lines : List String) : Prop where
  eq_join : text = String.join (lines.map (· ++ "\n"))
  lf_notMem : ∀ line ∈ lines, '\n' ∉ line.toList

theorem lined_nil : Lined "" [] where
  eq_join := rfl
  lf_notMem := List.forall_mem_nil _

theorem Lined.cons {line text : String} {lines : List String} (hline : '\n' ∉ line.toList)
    (htext : Lined text lines) : Lined (line ++ "\n" ++ text) (line :: lines) where
  eq_join := by rw [List.map_cons, String.join_cons, ← htext.eq_join]
  lf_notMem := List.forall_mem_cons.mpr ⟨hline, htext.lf_notMem⟩

/-- The lines stand between the line feeds, and nothing is left behind the last. -/
theorem splitOn_join {lines : List String} (hfeeds : ∀ line ∈ lines, '\n' ∉ line.toList) :
    (String.join (lines.map (· ++ "\n"))).toList.splitOn '\n' =
      lines.map String.toList ++ [[]] := by
  induction lines with
  | nil => rfl
  | cons line lines ih =>
      obtain ⟨hline, hafter⟩ := List.forall_mem_cons.mp hfeeds
      have hchars : (String.join ((line :: lines).map (· ++ "\n"))).toList =
          line.toList ++ '\n' :: (String.join (lines.map (· ++ "\n"))).toList := by
        rw [List.map_cons, String.join_cons, String.toList_append, String.toList_append,
          List.append_assoc]
        rfl
      rw [hchars, List.splitOn_append_cons_self, List.splitOn_eq_singleton hline, ih hafter,
        List.map_cons, List.singleton_append, List.cons_append]

/-- A text can be cut into such lines in one way only. -/
theorem Lined.unique {text : String} {lines others : List String} (hlines : Lined text lines)
    (hothers : Lined text others) : lines = others := by
  have hsame : lines.map String.toList ++ [[]] = others.map String.toList ++ [[]] := by
    rw [← splitOn_join hlines.lf_notMem, ← splitOn_join hothers.lf_notMem, ← hlines.eq_join,
      ← hothers.eq_join]
  exact List.map_injective_iff.mpr (fun _ _ => String.toList_injective)
    (List.append_cancel_right hsame)

/-! ### The output -/

section Output

variable {draw : Drawing}

/-- What a streaming printer writes to the standard output in the JSON format. -/
def jsonOutput (draw : Drawing) (updates : List Update) : String :=
  ((Printer.streaming draw .json).takeAll updates).2.out

theorem jsonOutput_cons (update : Update) (updates : List Update) :
    jsonOutput draw (update :: updates) =
      ((Printer.streaming draw .json).take update).2.out ++ jsonOutput draw updates := by
  have hstays : ((Printer.streaming draw .json).take update).1 = .streaming draw .json := by
    cases update <;> rfl
  rw [jsonOutput, Printer.takeAll_cons, hstays]
  rfl

theorem out_take_streaming_json {update : Update} {event : Json}
    (hevent : event? update = some event) :
    ((Printer.streaming draw .json).take update).2.out = event.render ++ "\n" := by
  cases update with
  | error message => cases hevent
  | _ =>
      cases hevent
      rfl

/-- Every update that is no error is one line, and can be read from it. -/
theorem exists_lines {updates : List Update} (hcalls : ∀ message, Update.error message ∉ updates) :
    ∃ lines, Lined (jsonOutput draw updates) lines ∧ lines.map readLine? = updates.map some := by
  induction updates with
  | nil => exact ⟨[], lined_nil, rfl⟩
  | cons update updates ih =>
      obtain ⟨lines, hlined, hread⟩ :=
        ih fun message hmem => hcalls message (List.mem_cons_of_mem update hmem)
      obtain ⟨event, hevent⟩ :=
        exists_event update fun message heq => hcalls message (heq ▸ List.mem_cons_self)
      refine ⟨event.render :: lines, ?_, ?_⟩
      · rw [jsonOutput_cons, out_take_streaming_json hevent]
        exact hlined.cons (Json.lf_notMem_render event)
      · rw [List.map_cons, List.map_cons, readLine?_render hevent, hread]

/-- Whatever the texts are, the output has one line for each update, which ends in its
only line feed and, read as JSON, tells the update as it was; so different updates are
never printed alike. -/
theorem jsonOutput_is_read_line_by_line (draw : Drawing) {updates : List Update}
    (hcalls : ∀ message, Update.error message ∉ updates) :
    (∃ lines, Lined (jsonOutput draw updates) lines ∧ lines.length = updates.length ∧
      lines.map readLine? = updates.map some) ∧
    ∀ others : List Update, (∀ message, Update.error message ∉ others) →
      jsonOutput draw others = jsonOutput draw updates → others = updates := by
  obtain ⟨lines, hlined, hread⟩ := exists_lines hcalls
  refine ⟨⟨lines, hlined, ?_, hread⟩, fun others hothers hsame => ?_⟩
  · rw [← List.length_map readLine?, hread, List.length_map]
  · obtain ⟨otherLines, hotherLined, hotherRead⟩ := exists_lines hothers
    rw [hsame] at hotherLined
    rw [hlined.unique hotherLined, hotherRead] at hread
    exact List.map_injective_iff.mpr (fun _ _ => Option.some.inj) hread

end Output

/-- A text is shown with its line feed inside the line, and in what pane it was
shown can be told. -/
theorem shell_text_is_told_from_status_text :
    (∃ lines, Lined (jsonOutput .fullWidth [.shell "up\n", .clearShell]) lines ∧ lines.length = 2 ∧
      lines.map readLine? = [some (.shell "up\n"), some .clearShell]) ∧
    jsonOutput .fullWidth [.status "up\n", .clearShell] ≠
      jsonOutput .fullWidth [.shell "up\n", .clearShell] := by
  have hcalls : ∀ message, Update.error message ∉ [.shell "up\n", .clearShell] := by simp
  obtain ⟨hlines, hothers⟩ := jsonOutput_is_read_line_by_line .fullWidth hcalls
  refine ⟨hlines, fun hsame => ?_⟩
  exact absurd (hothers [.status "up\n", .clearShell] (by simp) hsame) (by decide)

end SerialConsole.Output
