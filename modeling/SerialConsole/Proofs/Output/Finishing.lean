import Mathlib.Data.List.DropRight
import Mathlib.Data.List.Induction
import SerialConsole.Proofs.Output.Batch
import SerialConsole.Proofs.Output.Tables

/-!
# What finishing a batch prints

Whatever a batch printer is asked and in whatever order, it holds back the records
logged since the log pane was last cleared or the last batch was finished.  Finishing
prints these as a streaming printer would have, or has one table of them drawn, and
leaves the printer as it was when it was new.
-/

namespace SerialConsole.Output

open Log Session

/-- What a printer is asked: to take an update, or to finish what it holds back. -/
inductive Call where
  | take (update : Update)
  | finish
  deriving DecidableEq, Repr

namespace Call

/-- Nothing is held back after the call. -/
def empties : Call → Bool
  | .take .clearLog | .finish => true
  | .take _ => false

/-- The record that is logged. -/
def record? : Call → Option Entry
  | .take (.log entry) => some entry
  | _ => none

end Call

/-- The records logged since the log pane was last cleared or a batch finished. -/
def loggedSince (calls : List Call) : List Entry :=
  (calls.rtakeWhile fun call => !call.empties).filterMap Call.record?

/-- What there is to finish where a call stands in a run: the records logged since, among
the calls before it. -/
def batchAt (calls : List Call) (index : Nat) : List Entry :=
  loggedSince (calls.take index)

/-- The batches of a run, one for each call to finish. -/
def batches (calls : List Call) : List (List Entry) :=
  (List.range calls.length).filterMap fun index =>
    if calls[index]? = some Call.finish then some (batchAt calls index) else none

namespace Printer

def answer (printer : Printer) : Call → Printer × Printed
  | .take update => printer.take update
  | .finish => printer.finish

/-- The printer after some calls. -/
def after (printer : Printer) (calls : List Call) : Printer :=
  calls.foldl (fun printer call => (printer.answer call).1) printer

/-- What each call writes. -/
def writes (printer : Printer) : List Call → List Printed
  | [] => []
  | call :: rest => (printer.answer call).2 :: (printer.answer call).1.writes rest

/-- What a streaming printer writes for some records. -/
def streamed (draw : Drawing) (format : Format) (entries : List Entry) : Printed :=
  ((streaming draw format).takeAll (entries.map .log)).2

end Printer

/-- How a batch printer answers the calls of a run. -/
structure PrintsInBatches (draw : Drawing) (format : Format) (calls : List Call)
    (written : List Printed) : Prop where
  log : ∀ (index : Nat) (entry : Entry), calls[index]? = some (Call.take (.log entry)) →
    written[index]? = some Printed.nothing
  clear : ∀ index : Nat, calls[index]? = some (Call.take .clearLog) →
    written[index]? = some Printed.nothing
  /-- All that is not about the log pane is written as by a streaming printer. -/
  others : ∀ (index : Nat) (update : Update), calls[index]? = some (Call.take update) →
    (∀ entry, update ≠ .log entry) → update ≠ .clearLog →
      written[index]? = some ((Printer.streaming draw format).take update).2
  finish : format ≠ .table → ∀ index : Nat, calls[index]? = some Call.finish →
    written[index]? = some (Printer.streamed draw format (batchAt calls index))
  noTable : format = .table → ∀ index : Nat, calls[index]? = some Call.finish →
    batchAt calls index = [] → written[index]? = some Printed.nothing
  table : format = .table → ∀ index : Nat, calls[index]? = some Call.finish →
    batchAt calls index ≠ [] →
      ∃ table : Table, written[index]? = some (Printed.line (draw table)) ∧
        table.header = ["SEQ", "CATEGORY", "MODULE", "TEXT"] ∧
        List.Forall₂ HoldsFields (batchAt calls index) table.rows
  /-- Then the records can be read in what is written, if it is drawn faithfully. -/
  shown : draw.IsFaithful → format = .table → ∀ index : Nat, calls[index]? = some Call.finish →
    batchAt calls index ≠ [] →
      ∃ text, written[index]? = some (Printed.line text) ∧
        OneTable Displays (batchAt calls index) text
  /-- Nothing that was logged before a batch was finished, or before the log pane was
  cleared, has a part in what is written after it. -/
  afresh : ∀ (index : Nat) (call : Call), calls[index]? = some call → call.empties = true →
    written.drop (index + 1) = (Printer.batch draw format).writes (calls.drop (index + 1))
  again : ∀ index : Nat, calls[index]? = some Call.finish → calls[index + 1]? = some Call.finish →
    written[index + 1]? = some Printed.nothing
  /-- A record that is logged once is in one batch at most, and once. -/
  once : (batches calls).flatten.Sublist (calls.filterMap Call.record?)

/-! ### Calls one after the other -/

namespace Printer

theorem after_concat (printer : Printer) (calls : List Call) (call : Call) :
    printer.after (calls ++ [call]) = ((printer.after calls).answer call).1 := by
  rw [after, List.foldl_append]
  rfl

theorem drop_writes (printer : Printer) (calls : List Call) (index : Nat) :
    (printer.writes calls).drop index =
      (printer.after (calls.take index)).writes (calls.drop index) := by
  induction calls generalizing printer index with
  | nil =>
      rw [List.take_nil, List.drop_nil]
      exact List.drop_nil
  | cons call rest ih =>
      cases index with
      | zero => rfl
      | succ index => exact ih (printer.answer call).1 index

/-- What a call writes is settled by the calls before it. -/
theorem getElem?_writes (printer : Printer) (calls : List Call) (index : Nat) :
    (printer.writes calls)[index]? =
      calls[index]?.map fun call => ((printer.after (calls.take index)).answer call).2 := by
  rw [← List.head?_drop, ← List.head?_drop, drop_writes]
  cases calls.drop index <;> rfl

end Printer

/-! ### The records held back -/

section Held

variable {calls : List Call} {call : Call}

theorem filterMap_record?_singleton (call : Call) :
    [call].filterMap Call.record? = call.record?.toList := by
  cases hrecord : call.record? with
  | none => rw [List.filterMap_cons_none hrecord, List.filterMap_nil, Option.toList_none]
  | some entry => rw [List.filterMap_cons_some hrecord, List.filterMap_nil, Option.toList_some]

theorem loggedSince_concat_of_empties (hempties : call.empties = true) :
    loggedSince (calls ++ [call]) = [] := by
  rw [loggedSince, List.rtakeWhile_concat_neg _ _ _ (by simp [hempties]), List.filterMap_nil]

theorem loggedSince_concat_of_not_empties (hempties : call.empties = false) :
    loggedSince (calls ++ [call]) = loggedSince calls ++ call.record?.toList := by
  rw [loggedSince, List.rtakeWhile_concat_pos _ _ _ (by simp [hempties]), List.filterMap_append,
    ← loggedSince, filterMap_record?_singleton]

/-- What is held back follows what is logged through one call. -/
theorem held_answer (draw : Drawing) (format : Format) (calls : List Call) (call : Call) :
    ((Printer.mk draw format (some (loggedSince calls))).answer call).1 =
      .mk draw format (some (loggedSince (calls ++ [call]))) := by
  cases call with
  | finish =>
      rw [loggedSince_concat_of_empties rfl]
      rfl
  | take update =>
      cases update with
      | clearLog =>
          rw [loggedSince_concat_of_empties rfl]
          rfl
      | log entry =>
          rw [loggedSince_concat_of_not_empties rfl]
          rfl
      | _ =>
          rw [loggedSince_concat_of_not_empties rfl]
          exact congrArg (fun held => Printer.mk draw format (some held)) (List.append_nil _).symm

/-- After any calls, the records logged since are held back and no others. -/
theorem after_batch (draw : Drawing) (format : Format) (calls : List Call) :
    (Printer.batch draw format).after calls = .mk draw format (some (loggedSince calls)) := by
  induction calls using List.reverseRecOn with
  | nil => rfl
  | append_singleton calls call ih => rw [Printer.after_concat, ih, held_answer]

theorem getElem?_writes_batch (draw : Drawing) (format : Format) (calls : List Call)
    (index : Nat) :
    ((Printer.batch draw format).writes calls)[index]? = calls[index]?.map fun call =>
      ((Printer.mk draw format (some (batchAt calls index))).answer call).2 := by
  rw [Printer.getElem?_writes, after_batch, ← batchAt]

theorem batchAt_succ_of_empties {index : Nat} (hcall : calls[index]? = some call)
    (hempties : call.empties = true) : batchAt calls (index + 1) = [] := by
  rw [batchAt, List.take_add_one, hcall]
  exact loggedSince_concat_of_empties hempties

end Held

/-! ### The batches of a run -/

theorem batches_concat (calls : List Call) (call : Call) :
    batches (calls ++ [call]) =
      batches calls ++ (if call = .finish then [loggedSince calls] else []) := by
  have hbefore : ∀ index ∈ List.range calls.length,
      (if (calls ++ [call])[index]? = some .finish then some (batchAt (calls ++ [call]) index)
        else none) =
      if calls[index]? = some .finish then some (batchAt calls index) else none := by
    intro index hindex
    have hlt := List.mem_range.mp hindex
    rw [List.getElem?_append_left hlt, batchAt, batchAt,
      List.take_append_of_le_length (Nat.le_of_lt hlt)]
  have hlast : batchAt (calls ++ [call]) calls.length = loggedSince calls := by
    rw [batchAt, List.take_left]
  rw [batches, List.length_append, List.length_singleton, List.range_succ, List.filterMap_append,
    List.filterMap_congr hbefore, ← batches, List.filterMap_cons, List.getElem?_concat_length,
    hlast]
  by_cases hfinish : call = .finish
  · rw [if_pos (congrArg some hfinish), if_pos hfinish]
    rfl
  · rw [if_neg fun heq => hfinish (Option.some.inj heq), if_neg hfinish]
    rfl

/-- The batches and what is held back come from what was logged, with nothing twice. -/
theorem flatten_batches_append_sublist (calls : List Call) :
    ((batches calls).flatten ++ loggedSince calls).Sublist (calls.filterMap Call.record?) := by
  induction calls using List.reverseRecOn with
  | nil => exact List.Sublist.slnil
  | append_singleton calls call ih =>
      have hbatches : (batches calls).flatten.Sublist (calls.filterMap Call.record?) :=
        (List.sublist_append_left _ _).trans ih
      rw [batches_concat, List.filterMap_append]
      by_cases hfinish : call = .finish
      · subst hfinish
        have hbatch : (batches calls ++ [loggedSince calls]).flatten =
            (batches calls).flatten ++ loggedSince calls := by
          rw [List.flatten_append, List.flatten_singleton]
        rw [if_pos rfl, hbatch, loggedSince_concat_of_empties rfl, List.append_nil]
        exact ih.trans (List.sublist_append_left _ _)
      · rw [if_neg hfinish, List.append_nil]
        cases hempties : call.empties with
        | true =>
            rw [loggedSince_concat_of_empties hempties, List.append_nil]
            exact hbatches.trans (List.sublist_append_left _ _)
        | false =>
            rw [loggedSince_concat_of_not_empties hempties, ← List.append_assoc,
              filterMap_record?_singleton]
            exact ih.append (List.Sublist.refl _)

/-! ### Printing as a streaming printer does -/

theorem streamed_eq (draw : Drawing) (format : Format) (entries : List Entry) :
    Printer.streamed draw format entries = .join (entries.map (format.printLog draw)) := by
  induction entries with
  | nil => rfl
  | cons entry rest ih =>
      rw [List.map_cons, Printed.join_cons, ← ih]
      rfl

theorem printBatch_eq_streamed (draw : Drawing) {format : Format} (hformat : format ≠ .table)
    (entries : List Entry) :
    format.printBatch draw entries = Printer.streamed draw format entries := by
  rw [streamed_eq]
  cases format with
  | table => exact absurd rfl hformat
  | _ => rfl

theorem printBatch_table (draw : Drawing) {entries : List Entry} (hentries : entries ≠ []) :
    Format.table.printBatch draw entries = .line (draw (logTable entries)) := by
  cases entries with
  | nil => exact absurd rfl hentries
  | cons entry rest => rfl

theorem printBatch_nil (draw : Drawing) (format : Format) :
    format.printBatch draw [] = .nothing := by
  cases format <;> rfl

theorem getElem?_writes_table (draw : Drawing) {format : Format} (hformat : format = .table)
    {calls : List Call} {index : Nat} (hcall : calls[index]? = some .finish)
    (hentries : batchAt calls index ≠ []) :
    ((Printer.batch draw format).writes calls)[index]? =
      some (.line (draw (logTable (batchAt calls index)))) := by
  rw [getElem?_writes_batch, hcall, ← printBatch_table draw hentries, hformat]
  rfl

/-- Whatever a batch printer is asked and in whatever order, it prints log records
only when it is told to finish, and then those logged since the last time that the
batch was finished or the log pane cleared, in order: one by one as a streaming
printer, or in one table with a row for each. -/
theorem batches_print_as_streaming (draw : Drawing) (format : Format) (calls : List Call) :
    PrintsInBatches draw format calls ((Printer.batch draw format).writes calls) where
  log index entry hcall := by
    rw [getElem?_writes_batch, hcall]
    rfl
  clear index hcall := by
    rw [getElem?_writes_batch, hcall]
    rfl
  others index update hcall hlog hclear := by
    rw [getElem?_writes_batch, hcall]
    cases update with
    | log entry => exact absurd rfl (hlog entry)
    | clearLog => exact absurd rfl hclear
    | _ => rfl
  finish hformat index hcall := by
    rw [getElem?_writes_batch, hcall, ← printBatch_eq_streamed draw hformat]
    rfl
  noTable hformat index hcall hnone := by
    rw [getElem?_writes_batch, hcall, hnone, hformat]
    rfl
  table hformat index hcall hentries := by
    refine ⟨logTable (batchAt calls index), ?_, rfl, rows_logTable _⟩
    exact getElem?_writes_table draw hformat hcall hentries
  shown hdraw hformat index hcall hentries := by
    refine ⟨draw (logTable (batchAt calls index)), ?_, hdraw.oneTable_logTable hentries⟩
    exact getElem?_writes_table draw hformat hcall hentries
  afresh index call hcall hempties := by
    rw [Printer.drop_writes, after_batch, ← batchAt, batchAt_succ_of_empties hcall hempties]
    rfl
  again index hcall hnext := by
    rw [getElem?_writes_batch, hnext, batchAt_succ_of_empties hcall rfl]
    exact congrArg some (printBatch_nil draw format)
  once := (List.sublist_append_left _ _).trans (flatten_batches_append_sublist calls)

/-- A record that is dropped, one that ends in a carriage return and a line feed, and a
batch with nothing in it. -/
def callsWithDrop : List Call :=
  [.take (.log (.ofText 0 "[info] stale")), .take .clearLog,
    .take (.log (.ofText 1 "[warn] [OT] fresh\r\n")), .finish, .finish]

theorem dropped_record_is_not_printed :
    ∃ text, ((Printer.batch .fullWidth .table).writes callsWithDrop)[3]? = some (.line text) ∧
      OneTable Displays [.ofText 1 "[warn] [OT] fresh\r\n"] text ∧
      ((Printer.batch .fullWidth .table).writes callsWithDrop)[4]? = some .nothing := by
  have hprints := batches_print_as_streaming .fullWidth .table callsWithDrop
  have hbatch : batchAt callsWithDrop 3 = [.ofText 1 "[warn] [OT] fresh\r\n"] := rfl
  have hentries : batchAt callsWithDrop 3 ≠ [] := hbatch ▸ List.cons_ne_nil _ _
  obtain ⟨text, hwritten, htable⟩ :=
    hprints.shown Drawing.isFaithful_fullWidth rfl 3 rfl hentries
  exact ⟨text, hwritten, hbatch ▸ htable, hprints.again 3 rfl rfl⟩

example : (Printer.batch .fullWidth .pretty).writes callsWithDrop =
    [.nothing, .nothing, .nothing, .line "warn   ot  [warn] [OT] fresh", .nothing] := by
  decide +kernel

end SerialConsole.Output
