import Mathlib.Data.List.DropRight
import SerialConsole.Proofs.Log.Numbering
import SerialConsole.Proofs.Log.Reload
import SerialConsole.Proofs.Session.Panes
import SerialConsole.Proofs.Session.Requests

/-!
# The history is told by what happened

Deliveries are applied, commands sent, captures loaded and closed: of all that
goes on in a session this is what bears on its history.  A run leaves a trace of
such happenings, and the history is told by what has happened since a capture
was last closed, whatever else was asked of the session and refused.
-/

namespace SerialConsole.Log

/-- A history that has only grown at the end since. -/
structure History.IsFrontOf (h later : History) : Prop where
  entries : h.entries.toList <+: later.entries.toList
  shell : h.shell.toList <+: later.shell.toList

namespace History.IsFrontOf

theorem refl (h : History) : h.IsFrontOf h :=
  ⟨List.prefix_rfl, List.prefix_rfl⟩

theorem trans {h later last : History} (hfirst : h.IsFrontOf later)
    (hsecond : later.IsFrontOf last) : h.IsFrontOf last :=
  ⟨hfirst.entries.trans hsecond.entries, hfirst.shell.trans hsecond.shell⟩

theorem append (h : History) (text : String) : h.IsFrontOf (h.append text) :=
  ⟨by rw [toList_append]; exact List.prefix_append _ _, List.prefix_rfl⟩

theorem appendShell (h : History) (text : String) : h.IsFrontOf (h.appendShell text) :=
  ⟨List.prefix_rfl, by rw [History.appendShell, String.toList_append]; exact List.prefix_append _ _⟩

end History.IsFrontOf

theorem Capture.path_ofRead {path : String} {read : Except Fault ByteArray} {capture : Capture}
    (hread : ofRead path read = .ok capture) : capture.path = path := by
  unfold ofRead at hread
  split at hread
  · cases hread
  · split at hread
    · cases hread
    · cases hread
      rfl

end SerialConsole.Log

namespace SerialConsole.Session

open Wire Link Log

inductive Happening where
  | applied (delivery : Delivery)
  /-- A command was sent, and is given without the blanks around it. -/
  | sent (command : String)
  | loaded (capture : Capture)
  | closed
  deriving DecidableEq, Repr

namespace Happening

/-- The text of the frame that has arrived. -/
def frame? : Happening → Option String
  | applied (.record (.frame content)) => some content.text
  | _ => none

/-- What there is to read in the shell pane. -/
def shell? : Happening → Option String
  | applied (.record (.line content)) => some content.text
  | applied (.record .strayEnd) => some strayEndNotice
  | sent command => some ("> " ++ command ++ "\n")
  | _ => none

def capture? : Happening → Option Capture
  | loaded capture => some capture
  | _ => none

/-- What a happening makes of a history. -/
def change (h : History) : Happening → History
  | applied (.record (.frame content)) => h.append content.text
  | applied (.record (.line content)) => h.appendShell content.text
  | applied (.record .strayEnd) => h.appendShell strayEndNotice
  | applied (.readFailed _) => h
  | sent command => h.appendShell (Console.echo command)
  | loaded capture => capture.toHistory.appendShell h.shell
  | closed => .empty

/-- What is entered for a happening where records are numbered by a counter. -/
def enter (l : Ledger) : Happening → Ledger
  | applied (.record (.frame content)) => l.append content.text
  | applied (.record (.line content)) => l.appendShell content.text
  | applied (.record .strayEnd) => l.appendShell strayEndNotice
  | applied (.readFailed _) => l
  | sent command => l.appendShell (Console.echo command)
  | loaded capture => (Ledger.ofTexts capture.records).appendShell l.shell
  | closed => l.reset

/-- A happening leaves the counter at the number of records. -/
theorem enter_ofHistory (h : History) (happening : Happening) :
    happening.enter (.ofHistory h) = .ofHistory (happening.change h) := by
  match happening with
  | applied (.record (.frame content)) => exact Ledger.append_ofHistory h content.text
  | applied (.record (.line content)) => exact Ledger.appendShell_ofHistory h content.text
  | applied (.record .strayEnd) => exact Ledger.appendShell_ofHistory h strayEndNotice
  | applied (.readFailed fault) => rfl
  | sent command => exact Ledger.appendShell_ofHistory h (Console.echo command)
  | loaded capture =>
      rw [enter, Ledger.ofTexts_eq]
      exact Ledger.appendShell_ofHistory capture.toHistory h.shell
  | closed => exact Ledger.reset_eq (.ofHistory h)

/-- So does all that happens. -/
theorem foldl_enter_ofHistory (h : History) (trace : List Happening) :
    trace.foldl enter (.ofHistory h) = .ofHistory (trace.foldl change h) := by
  induction trace generalizing h with
  | nil => rfl
  | cons happening later ih => rw [List.foldl_cons, enter_ofHistory, ih, List.foldl_cons]

/-- Short of loading and closing, a frame is the only thing to become a record. -/
theorem entries_change (h : History) {happening : Happening} (hopen : happening ≠ .closed)
    (hcapture : happening.capture? = none) :
    (happening.change h).entries.toList =
      h.entries.toList ++ happening.frame?.toList.map (Entry.ofText h.size) := by
  match happening with
  | applied (.record (.frame content)) => exact h.toList_append content.text
  | applied (.record (.line content)) => exact (List.append_nil _).symm
  | applied (.record .strayEnd) => exact (List.append_nil _).symm
  | applied (.readFailed fault) => exact (List.append_nil _).symm
  | sent command => exact (List.append_nil _).symm
  | loaded capture => cases hcapture
  | closed => exact absurd rfl hopen

theorem shell_change (h : History) {happening : Happening} (hopen : happening ≠ .closed)
    (hcapture : happening.capture? = none) :
    (happening.change h).shell = h.shell ++ happening.shell?.getD "" := by
  match happening with
  | applied (.record (.frame content)) => exact (String.append_empty).symm
  | applied (.record (.line content)) => rfl
  | applied (.record .strayEnd) => rfl
  | applied (.readFailed fault) => exact (String.append_empty).symm
  | sent command => rfl
  | loaded capture => cases hcapture
  | closed => exact absurd rfl hopen

end Happening

/-- What has happened since a capture was last closed. -/
def sinceClosed (trace : List Happening) : List Happening :=
  trace.rtakeWhile (· ≠ .closed)

/-- The texts of the frames that have arrived. -/
def frameTexts (trace : List Happening) : List String :=
  trace.filterMap Happening.frame?

/-- All text of the shell: lines, notices of stray ends and commands sent. -/
def shellText (trace : List Happening) : String :=
  String.join (trace.filterMap Happening.shell?)

/-- The captures that were loaded. -/
def capturesIn (trace : List Happening) : List Capture :=
  trace.filterMap Happening.capture?

namespace Console

/-- What a request makes happen that is not refused. -/
def happeningsOf (c : Console) : Request → List Happening
  | .operation (.disconnect parting) => (c.queuedAfter parting).map .applied
  | .operation .pump => c.queued.map .applied
  | .operation (.send command) =>
      match (c.send command).result with
      | .ok true => [.sent (Text.trim command)]
      | _ => []
  | .operation (.load path content parting) =>
      match Capture.ofRead path content with
      | .ok capture => (c.queuedAfter parting).map .applied ++ [.loaded capture]
      | .error _ => []
  | .operation .closeReplay => [.closed]
  | _ => []

/-- What a request makes happen. -/
def happenings (c : Console) (request : Request) : List Happening :=
  match (c.ask request).result with
  | .ok () => c.happeningsOf request
  | .error _ => []

/-- What requests make happen, one after the other. -/
def trace (c : Console) : List Request → List Happening
  | [] => []
  | request :: later => c.happenings request ++ (c.ask request).console.trace later

end Console

namespace Request

/-- Whether a request has nothing to do with the history, but to save it. -/
def isIdle : Request → Bool
  | .operation (.disconnect _) | .operation .pump | .operation (.send _)
  | .operation (.load _ _ _) | .operation .closeReplay => false
  | _ => true

/-- Whether a request, if it is not refused, starts the history anew. -/
def startsAnew : Request → Bool
  | .operation (.load _ _ _) | .operation .closeReplay => true
  | _ => false

theorem isIdle_of_attaches {request : Request} (hattaches : request.attaches = true) :
    request.isIdle = true := by
  cases request with
  | attach label opened split started => rfl
  | operation operation => cases operation <;> first | contradiction | rfl

theorem isIdle_of_selects {operation : Operation} (hselects : operation.selects = true) :
    (Request.operation operation).isIdle = true := by
  cases operation <;> first | contradiction | rfl

theorem isIdle_of_isForeign {operation : Operation} (hforeign : operation.isForeign = true) :
    (Request.operation operation).isIdle = true := by
  cases operation <;> first | contradiction | rfl

end Request

/-- What a request makes happen, and what comes of it: the history, and whether
a capture is loaded. -/
inductive Chronicled (c : Console) : Request → List Happening → Console → Prop where
  | quiet {d : Console} (request : Request) (hhistory : d.history = c.history)
      (hpath : d.replayPath? = c.replayPath?) : Chronicled c request [] d
  | applied {d : Console} (request : Request) (deliveries : List Delivery)
      (hbefore : c.replayPath? = none)
      (hhistory : d.history = (c.takeAll deliveries).1.history)
      (hafter : d.replayPath? = none) : Chronicled c request (deliveries.map .applied) d
  | sent {d : Console} (command : String) (hbefore : c.replayPath? = none)
      (hhistory : d.history = c.history.appendShell (Console.echo (Text.trim command)))
      (hafter : d.replayPath? = none) :
      Chronicled c (.operation (.send command)) [.sent (Text.trim command)] d
  | loaded {d : Console} (path : String) (content : Except Fault ByteArray)
      (parting : Feeder.Parting) (deliveries : List Delivery) (capture : Capture)
      (hbefore : c.replayPath? = none)
      (hhistory : d.history =
        capture.toHistory.appendShell (c.takeAll deliveries).1.history.shell)
      (hafter : d.replayPath? = some capture.path) :
      Chronicled c (.operation (.load path content parting))
        (deliveries.map .applied ++ [.loaded capture]) d
  | closed {d : Console} (path : String) (hbefore : c.replayPath? = some path)
      (hhistory : d.history = .empty) (hafter : d.replayPath? = none) :
      Chronicled c (.operation .closeReplay) [.closed] d

/-! ### What one request makes happen -/

namespace Console

variable (c : Console)

theorem history_takeAll (taken : List Delivery) :
    (c.takeAll taken).1.history = (taken.map .applied).foldl Happening.change c.history := by
  induction taken generalizing c with
  | nil => rfl
  | cons delivery later ih =>
      rw [takeAll_cons, List.map_cons, List.foldl_cons, ih]
      match delivery with
      | .record (.frame content) => rfl
      | .record (.line content) => rfl
      | .record .strayEnd => rfl
      | .readFailed fault => rfl

/-- Taking deliveries only adds to the history. -/
theorem isFrontOf_takeAll (taken : List Delivery) :
    c.history.IsFrontOf (c.takeAll taken).1.history := by
  induction taken generalizing c with
  | nil => exact .refl c.history
  | cons delivery later ih =>
      have htaken : c.history.IsFrontOf (c.take delivery).1.history := by
        match delivery with
        | .record (.frame content) => exact .append c.history content.text
        | .record (.line content) => exact .appendShell c.history content.text
        | .record .strayEnd => exact .appendShell c.history strayEndNotice
        | .readFailed fault => exact .refl c.history
      exact htaken.trans (ih (c.take delivery).1)

/-- Letting the link go applies what it has queued by then. -/
theorem history_release (parting : Feeder.Parting) :
    (c.release parting).console.history = (c.takeAll (c.queuedAfter parting)).1.history := by
  cases hlink : c.attachment with
  | live link =>
      rw [release_of_live hlink, disconnect_live hlink]
      rfl
  | nothing =>
      rw [release_of_nothing hlink, queuedAfter, feeder?, hlink]
      rfl
  | replay path =>
      rw [release, isConnected, mode_of_replay hlink, queuedAfter, feeder?, hlink]
      rfl

theorem replayPath?_mapFeeder (change : Feeder → Feeder) :
    (c.mapFeeder change).replayPath? = c.replayPath? := by
  obtain ⟨settings, history, selection, attachment⟩ := c
  cases attachment <;> rfl

theorem replayPath?_mapOutlet (change : Outlet → Outlet) :
    (c.mapOutlet change).replayPath? = c.replayPath? := by
  obtain ⟨settings, history, selection, attachment⟩ := c
  cases attachment <;> rfl

theorem happeningsOf_of_isIdle {request : Request} (hidle : request.isIdle = true) :
    c.happeningsOf request = [] := by
  cases request with
  | attach label opened split started => rfl
  | operation operation => cases operation <;> first | contradiction | rfl

/-- A request makes nothing happen, or one of four things. -/
theorem chronicled_ask (request : Request) :
    Chronicled c request (c.happenings request) (c.ask request).console := by
  have heffect := c.effect_ask request
  unfold happenings
  generalize c.ask request = outcome at heffect ⊢
  cases heffect with
  | refused request hpump fault => exact .quiet request rfl rfl
  | failed command fault change =>
      exact .quiet _ (c.history_mapOutlet change) (c.replayPath?_mapOutlet change)
  | attached request hattaches hnothing link =>
      simp only [Outcome.done, c.happeningsOf_of_isIdle (Request.isIdle_of_attaches hattaches)]
      exact .quiet request rfl (by rw [replayPath?, replayPath?, hnothing])
  | parted parting link hlink =>
      exact .applied _ (c.queuedAfter parting) (replayPath?_of_live hlink) rfl rfl
  | pumped link hlink => exact .applied _ c.queued (replayPath?_of_live hlink) rfl rfl
  | lost link hlink hqueued => exact .quiet _ rfl (replayPath?_of_live hlink).symm
  | unlinked hlink =>
      simp only [Outcome.done, happeningsOf, queued, hlink]
      exact .quiet _ rfl rfl
  | ignored command hblank =>
      simp only [Outcome.done, happeningsOf, hblank]
      exact .quiet _ rfl rfl
  | sent command link hlink outlet hsent =>
      simp only [Outcome.done, happeningsOf, hsent]
      exact .sent command (replayPath?_of_live hlink) rfl rfl
  | saved tree conditions now => exact .quiet _ rfl rfl
  | loaded path content parting capture hfree hread =>
      simp only [Outcome.done, happeningsOf, hread]
      refine .loaded path content parting (c.queuedAfter parting) capture hfree ?_ ?_
      · rw [← history_release]
        rfl
      · rw [Capture.path_ofRead hread]
        rfl
  | closed path hpath =>
      refine .closed path ?_ rfl rfl
      rw [replayPath?, hpath]
  | selected operation hselects selection updates =>
      simp only [Outcome.done, c.happeningsOf_of_isIdle (Request.isIdle_of_selects hselects)]
      exact .quiet _ rfl rfl
  | worked operation hforeign feeder outlet =>
      simp only [Outcome.done, c.happeningsOf_of_isIdle (Request.isIdle_of_isForeign hforeign)]
      exact .quiet _ (by rw [history_mapOutlet, history_mapFeeder])
        (by rw [replayPath?_mapOutlet, replayPath?_mapFeeder])

end Console

namespace Chronicled

variable {c d : Console} {request : Request} {happenings : List Happening}

/-- The history is what the happenings make of it. -/
theorem history (hchronicled : Chronicled c request happenings d) :
    d.history = happenings.foldl Happening.change c.history := by
  cases hchronicled with
  | quiet request hhistory hpath => exact hhistory
  | applied request deliveries hbefore hhistory hafter =>
      rw [hhistory, Console.history_takeAll]
  | sent command hbefore hhistory hafter => exact hhistory
  | loaded path content parting deliveries capture hbefore hhistory hafter =>
      rw [hhistory, Console.history_takeAll, List.foldl_append]
      rfl
  | closed path hbefore hhistory hafter => exact hhistory

/-- Only a capture that is loaded or closed does not leave the history as the
front of what it becomes. -/
theorem continues (hchronicled : Chronicled c request happenings d)
    (hanew : request.startsAnew = false) : c.history.IsFrontOf d.history := by
  cases hchronicled with
  | quiet request hhistory hpath => exact hhistory ▸ .refl c.history
  | applied request deliveries hbefore hhistory hafter =>
      rw [hhistory]
      exact c.isFrontOf_takeAll deliveries
  | sent command hbefore hhistory hafter => exact hhistory ▸ .appendShell c.history _
  | loaded path content parting deliveries capture hbefore hhistory hafter => cases hanew
  | closed path hbefore hhistory hafter => cases hanew

/-- While a capture is replayed nothing happens but that it is closed. -/
theorem quiet_of_replayed (hchronicled : Chronicled c request happenings d) {path : String}
    (hpath : c.replayPath? = some path) (hclose : request ≠ .operation .closeReplay) :
    d.history = c.history := by
  cases hchronicled with
  | quiet request hhistory hpath => exact hhistory
  | applied request deliveries hbefore hhistory hafter => rw [hpath] at hbefore; cases hbefore
  | sent command hbefore hhistory hafter => rw [hpath] at hbefore; cases hbefore
  | loaded path content parting deliveries capture hbefore hhistory hafter =>
      rw [hpath] at hbefore
      cases hbefore
  | closed path hbefore hhistory hafter => exact absurd rfl hclose

end Chronicled

/-! ### The order in which things happen -/

/-- The traces that a session can leave, with the path of the capture that is
loaded by then: it takes a capture to be loaded for it to be closed, and while
one is loaded nothing else happens. -/
inductive Orderly : List Happening → Option String → Prop where
  | start : Orderly [] none
  | applied {trace : List Happening} (horderly : Orderly trace none) (delivery : Delivery) :
      Orderly (trace ++ [.applied delivery]) none
  | sent {trace : List Happening} (horderly : Orderly trace none) (command : String) :
      Orderly (trace ++ [.sent command]) none
  | loaded {trace : List Happening} (horderly : Orderly trace none) (capture : Capture) :
      Orderly (trace ++ [.loaded capture]) (some capture.path)
  | closed {trace : List Happening} {path : String} (horderly : Orderly trace (some path)) :
      Orderly (trace ++ [.closed]) none

namespace Orderly

variable {trace : List Happening} {path? : Option String}

theorem applyAll (horderly : Orderly trace none) (deliveries : List Delivery) :
    Orderly (trace ++ deliveries.map .applied) none := by
  induction deliveries generalizing trace with
  | nil => rwa [List.map_nil, List.append_nil]
  | cons delivery later ih =>
      rw [List.map_cons, List.append_cons]
      exact ih (horderly.applied delivery)

/-- A request keeps the trace in order. -/
theorem step {c d : Console} {request : Request} {happenings : List Happening}
    (horderly : Orderly trace c.replayPath?) (hchronicled : Chronicled c request happenings d) :
    Orderly (trace ++ happenings) d.replayPath? := by
  cases hchronicled with
  | quiet request hhistory hpath => rwa [List.append_nil, hpath]
  | applied request deliveries hbefore hhistory hafter =>
      rw [hbefore] at horderly
      rw [hafter]
      exact horderly.applyAll deliveries
  | sent command hbefore hhistory hafter =>
      rw [hbefore] at horderly
      rw [hafter]
      exact horderly.sent _
  | loaded path content parting deliveries capture hbefore hhistory hafter =>
      rw [hbefore] at horderly
      rw [hafter, ← List.append_assoc]
      exact (horderly.applyAll deliveries).loaded capture
  | closed path hbefore hhistory hafter =>
      rw [hbefore] at horderly
      rw [hafter]
      exact horderly.closed

theorem run {c : Console} (horderly : Orderly trace c.replayPath?) (requests : List Request) :
    Orderly (trace ++ c.trace requests) (c.reached requests).replayPath? := by
  induction requests generalizing trace c with
  | nil => rwa [Console.trace, List.append_nil]
  | cons request later ih =>
      rw [Console.trace, ← List.append_assoc]
      exact ih (horderly.step (c.chronicled_ask request))

end Orderly

/-- The history after a run is what its trace makes of the one before. -/
theorem Console.history_reached (c : Console) (requests : List Request) :
    (c.reached requests).history = (c.trace requests).foldl Happening.change c.history := by
  induction requests generalizing c with
  | nil => rfl
  | cons request later ih =>
      rw [Console.trace, List.foldl_append, ← (c.chronicled_ask request).history]
      exact ih (c.ask request).console

/-! ### What an orderly trace tells -/

theorem sinceClosed_concat (trace : List Happening) {happening : Happening}
    (hopen : happening ≠ .closed) :
    sinceClosed (trace ++ [happening]) = sinceClosed trace ++ [happening] :=
  List.rtakeWhile_concat_pos _ _ _ (by simpa using hopen)

theorem sinceClosed_closed (trace : List Happening) : sinceClosed (trace ++ [.closed]) = [] :=
  List.rtakeWhile_concat_neg _ _ _ (by simp)

theorem frameTexts_append (trace later : List Happening) :
    frameTexts (trace ++ later) = frameTexts trace ++ frameTexts later :=
  List.filterMap_append

theorem capturesIn_append (trace later : List Happening) :
    capturesIn (trace ++ later) = capturesIn trace ++ capturesIn later :=
  List.filterMap_append

theorem shellText_append (trace later : List Happening) :
    shellText (trace ++ later) = shellText trace ++ shellText later := by
  rw [shellText, List.filterMap_append, String.join_append, ← shellText, ← shellText]

/-- What a history comes to, given the path of the capture that is loaded. -/
structure Told (trace : List Happening) (path? : Option String) (h : History) : Prop where
  arrived : path? = none → capturesIn (sinceClosed trace) = [] ∧
    h.entries.toList = (frameTexts (sinceClosed trace)).mapIdx Entry.ofText
  replayed : ∀ path, path? = some path → ∃ capture : Capture,
    capturesIn (sinceClosed trace) = [capture] ∧ capture.path = path ∧
      h.entries.toList = capture.records.mapIdx Entry.ofText
  shell : h.shell = shellText (sinceClosed trace)

namespace Told

variable {trace : List Happening} {h : History}

/-- Of what happens without a capture loaded, frames go to the records and the
rest to the shell. -/
theorem live {happening : Happening} (htold : Told trace none h) (hopen : happening ≠ .closed)
    (hcapture : happening.capture? = none) :
    Told (trace ++ [happening]) none (happening.change h) where
  arrived _ := by
    obtain ⟨hcaptures, htexts⟩ := htold.arrived rfl
    have hsize : h.size = (frameTexts (sinceClosed trace)).length := by
      rw [History.size, ← Array.length_toList, htexts, List.length_mapIdx]
    rw [sinceClosed_concat trace hopen, Happening.entries_change h hopen hcapture, htexts, hsize,
      capturesIn_append, hcaptures, frameTexts_append]
    constructor
    · simp [capturesIn, hcapture]
    · cases hframe : happening.frame? <;> simp [frameTexts, hframe, List.mapIdx_append]
  replayed _ hpath := nomatch hpath
  shell := by
    rw [sinceClosed_concat trace hopen, Happening.shell_change h hopen hcapture,
      htold.shell, shellText_append]
    cases hshown : happening.shell? <;> simp [shellText, hshown]

/-- A capture brings all its records and no text of the shell. -/
theorem loaded (htold : Told trace none h) (capture : Capture) :
    Told (trace ++ [.loaded capture]) (some capture.path)
      (capture.toHistory.appendShell h.shell) where
  arrived hfree := nomatch hfree
  replayed path hpath := by
    refine ⟨capture, ?_, Option.some.inj hpath, entries_ofTexts capture.records⟩
    rw [sinceClosed_concat trace (by simp), capturesIn_append, (htold.arrived rfl).1]
    rfl
  shell := by
    rw [sinceClosed_concat trace (by simp), shellText_append, ← htold.shell, History.appendShell,
      Capture.toHistory, Shows.shell_ofTexts, String.empty_append]
    exact String.append_empty.symm

theorem closed (trace : List Happening) : Told (trace ++ [.closed]) none .empty where
  arrived _ := by
    rw [sinceClosed_closed]
    exact ⟨rfl, rfl⟩
  replayed _ hpath := nomatch hpath
  shell := by
    rw [sinceClosed_closed]
    rfl

end Told

/-- What an orderly trace makes of the empty history can be told without it. -/
theorem Orderly.told {trace : List Happening} {path? : Option String}
    (horderly : Orderly trace path?) :
    Told trace path? (trace.foldl Happening.change .empty) := by
  induction horderly with
  | start => exact ⟨fun _ => ⟨rfl, rfl⟩, fun _ hpath => (nomatch hpath), rfl⟩
  | applied horderly delivery ih =>
      rw [List.foldl_append]
      exact ih.live (by simp) rfl
  | sent horderly command ih =>
      rw [List.foldl_append]
      exact ih.live (by simp) rfl
  | loaded horderly capture ih =>
      rw [List.foldl_append]
      exact ih.loaded capture
  | closed horderly ih =>
      rw [List.foldl_append]
      exact .closed _

/-- The history is told by the trace of a run. -/
structure Recorded (c : Console) (trace : List Happening) : Prop where
  folded : c.history = trace.foldl Happening.change .empty
  /-- A counter started with the session stands at the number of records. -/
  counted : trace.foldl Happening.enter .new = .ofHistory c.history
  /-- Outside replay the records are the frames that have arrived, in order. -/
  arrived : c.mode ≠ .replay →
    c.history.entries.toList = (frameTexts (sinceClosed trace)).mapIdx Entry.ofText
  /-- In replay they are those of the capture, which was the only one loaded. -/
  replayed : c.mode = .replay → ∃ capture : Capture,
    capturesIn (sinceClosed trace) = [capture] ∧ c.replayPath? = some capture.path ∧
      c.history.entries.toList = capture.records.mapIdx Entry.ofText
  shell : c.history.shell = shellText (sinceClosed trace)

/-- What one request leaves of a history. -/
structure Kept (c : Console) (request : Request) : Prop where
  front : request.startsAnew = false → c.history.IsFrontOf (c.ask request).console.history
  idle : request.isIdle = true → (c.ask request).console.history = c.history
  refused : ∀ fault, (c.ask request).result = .error fault →
    (c.ask request).console.history = c.history
  replayed : c.mode = .replay → request ≠ .operation .closeReplay →
    (c.ask request).console.history = c.history

theorem Console.kept (c : Console) (request : Request) : Kept c request := by
  have hchronicled := c.chronicled_ask request
  have hsame : c.happenings request = [] → (c.ask request).console.history = c.history := by
    intro hquiet
    rw [hchronicled.history, hquiet]
    rfl
  refine ⟨hchronicled.continues, fun hidle => hsame ?_, fun fault hfault => hsame ?_, ?_⟩
  · rw [happenings, c.happeningsOf_of_isIdle hidle]
    split <;> rfl
  · rw [happenings, hfault]
  · intro hreplay hclose
    obtain ⟨path, hpath⟩ := Console.mode_eq_replay_iff.mp hreplay
    exact hchronicled.quiet_of_replayed hpath hclose

/-- After every run the records are the frames that have arrived since a capture
was last closed, or those of the capture that is replayed, and the shell has all
lines, notices and commands.  Of what is stored nothing is lost or altered by a
request that does not start the history anew. -/
theorem history_is_told_by_trace (settings : Settings) (requests : List Request) :
    Recorded ((Console.new settings).reached requests) ((Console.new settings).trace requests) ∧
      ∀ request, Kept ((Console.new settings).reached requests) request := by
  have horderly : Orderly ((Console.new settings).trace requests)
      ((Console.new settings).reached requests).replayPath? :=
    Orderly.run (c := Console.new settings) .start requests
  have hfolded : ((Console.new settings).reached requests).history =
      ((Console.new settings).trace requests).foldl Happening.change .empty :=
    (Console.new settings).history_reached requests
  have htold := horderly.told
  rw [← hfolded] at htold
  refine ⟨⟨hfolded, ?_, ?_, ?_, htold.shell⟩, fun request => Console.kept _ request⟩
  · rw [hfolded, Ledger.new_eq]
    exact Happening.foldl_enter_ofHistory .empty _
  · intro hmode
    rw [ne_eq, Console.mode_eq_replay_iff, ← Option.isSome_iff_exists] at hmode
    exact (htold.arrived (by simpa using hmode)).2
  · intro hmode
    obtain ⟨path, hpath⟩ := Console.mode_eq_replay_iff.mp hmode
    obtain ⟨capture, hcaptures, hcapture, hentries⟩ := htold.replayed path hpath
    exact ⟨capture, hcaptures, hcapture ▸ hpath, hentries⟩

end SerialConsole.Session
