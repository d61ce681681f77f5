import SerialConsole.Output.Printer

/-!
# What a batch printer holds and prints

A batch printer that is told to redraw ends up with the records of the redraw,
whatever it held before, and in the raw format these are printed as they are.
-/

namespace SerialConsole.Output

open Log Session

namespace Printed

@[ext]
theorem ext {p q : Printed} (hout : p.out = q.out) (herr : p.err = q.err) : p = q := by
  cases p
  cases q
  simp only [mk.injEq]
  exact ⟨hout, herr⟩

theorem nothing_append (p : Printed) : nothing ++ p = p :=
  ext String.empty_append String.empty_append

theorem append_nothing (p : Printed) : p ++ nothing = p :=
  ext String.append_empty String.append_empty

theorem append_assoc (p q r : Printed) : p ++ q ++ r = p ++ (q ++ r) :=
  ext (String.append_assoc ..) (String.append_assoc ..)

theorem foldl_append (start : Printed) (parts : List Printed) :
    parts.foldl (· ++ ·) start =
      start ++ ⟨String.join (parts.map out), String.join (parts.map err)⟩ := by
  induction parts generalizing start with
  | nil => exact (append_nothing start).symm
  | cons part rest ih =>
      rw [List.foldl_cons, ih, append_assoc, List.map_cons, List.map_cons, String.join_cons,
        String.join_cons]
      rfl

theorem join_eq (parts : List Printed) :
    join parts = ⟨String.join (parts.map out), String.join (parts.map err)⟩ := by
  rw [join, foldl_append, nothing_append]

theorem join_cons (part : Printed) (parts : List Printed) :
    join (part :: parts) = part ++ join parts := by
  rw [join_eq, join_eq, List.map_cons, List.map_cons, String.join_cons, String.join_cons]
  rfl

end Printed

theorem Format.printBatch_raw (draw : Drawing) (entries : List Entry) :
    Format.raw.printBatch draw entries = .raw (String.join (entries.map Entry.text)) := by
  have hquiet : String.join (entries.map fun _ => "") = "" := by
    induction entries with
    | nil => rfl
    | cons entry rest ih =>
        rw [List.map_cons, String.join_cons, ih]
        rfl
  have hjoin : Format.raw.printBatch draw entries =
      .join (entries.map (Format.raw.printLog draw)) := rfl
  rw [hjoin, Printed.join_eq, List.map_map, List.map_map]
  exact Printed.ext rfl hquiet

namespace Printer

theorem takeAll_cons (printer : Printer) (update : Update) (rest : List Update) :
    printer.takeAll (update :: rest) =
      (((printer.take update).1.takeAll rest).1,
        (printer.take update).2 ++ ((printer.take update).1.takeAll rest).2) := rfl

theorem takeAll_append (printer : Printer) (updates later : List Update) :
    printer.takeAll (updates ++ later) =
      (((printer.takeAll updates).1.takeAll later).1,
        (printer.takeAll updates).2 ++ ((printer.takeAll updates).1.takeAll later).2) := by
  induction updates generalizing printer with
  | nil => exact congrArg (Prod.mk _) (Printed.nothing_append _).symm
  | cons update rest ih =>
      rw [List.cons_append, takeAll_cons, ih, takeAll_cons, Printed.append_assoc]

/-- Records are held back, one behind the other. -/
theorem takeAll_map_log (draw : Drawing) (format : Format) (held entries : List Entry) :
    (Printer.mk draw format (some held)).takeAll (entries.map .log) =
      (.mk draw format (some (held ++ entries)), .nothing) := by
  induction entries generalizing held with
  | nil =>
      rw [List.append_nil]
      rfl
  | cons entry rest ih =>
      have htake : (Printer.mk draw format (some held)).take (.log entry) =
          (.mk draw format (some (held ++ [entry])), .nothing) := rfl
      rw [List.map_cons, takeAll_cons, htake, ih, Printed.nothing_append, List.append_assoc,
        List.singleton_append]

/-- A redraw takes the place of what was held back, and what is said after it is
printed before it. -/
theorem takeAll_redraw (draw : Drawing) (format : Format) (dropped entries : List Entry)
    (message : String) :
    (Printer.mk draw format (some dropped)).takeAll
        (.clearLog :: entries.map .log ++ [.status message]) =
      (.mk draw format (some entries), printOther format (.status message)) := by
  have hclear : (Printer.mk draw format (some dropped)).take .clearLog =
      (.mk draw format (some []), .nothing) := rfl
  have hstatus : (Printer.mk draw format (some entries)).takeAll [.status message] =
      (.mk draw format (some entries), printOther format (.status message) ++ .nothing) := rfl
  rw [List.cons_append, takeAll_cons, hclear, takeAll_append, takeAll_map_log, List.nil_append,
    hstatus, Printed.nothing_append, Printed.nothing_append, Printed.append_nothing]

end Printer

end SerialConsole.Output
