import SerialConsole.Proofs.Session.Run

/-!
# The panes always show the history

A display is brought up to date in two ways: delivery by delivery as they are
taken, and from scratch when the selection or the history is replaced.  Either
way the log pane holds the records that the selection shows and the shell pane
holds all shell text, after every operation of every run.
-/

namespace SerialConsole.Session

open Log

namespace Panes

@[simp]
theorem applyAll_nil (panes : Panes) : panes.applyAll [] = panes := rfl

@[simp]
theorem applyAll_cons (panes : Panes) (update : Update) (later : List Update) :
    panes.applyAll (update :: later) = (panes.apply update).applyAll later := rfl

@[simp]
theorem applyAll_append (panes : Panes) (updates later : List Update) :
    panes.applyAll (updates ++ later) = (panes.applyAll updates).applyAll later := by
  simp [applyAll, List.foldl_append]

/-- Records shown one after the other pile up in the log pane. -/
theorem applyAll_map_log (panes : Panes) (entries : List Entry) :
    panes.applyAll (entries.map .log) = { panes with log := panes.log ++ entries } := by
  induction entries generalizing panes with
  | nil => simp
  | cons entry entries ih =>
      rw [List.map_cons, applyAll_cons, ih]
      simp [apply]

end Panes

/-- The panes are what a redraw from scratch would show. -/
structure Shows (c : Console) (panes : Panes) : Prop where
  log : panes.log = (c.history.visible c.selection).toList
  shell : panes.shell = c.history.shell

namespace Shows

variable {c d : Console} {panes : Panes}

theorem congr (hshows : Shows c panes) (hhistory : d.history = c.history)
    (hselection : d.selection = c.selection) : Shows d panes where
  log := by rw [hhistory, hselection, hshows.log]
  shell := by rw [hhistory, hshows.shell]

/-- A new record is visible, or not, behind all others. -/
theorem visible_append (h : History) (selection : Selection) (text : String) :
    ((h.append text).visible selection).toList =
      (h.visible selection).toList ++
        if selection.shows (h.nextEntry text) then [h.nextEntry text] else [] := by
  simp only [History.visible, Visible.toList, History.toList_append, List.filter_append]
  by_cases hshown : selection.shows (h.nextEntry text) = true
  · simp [hshown]
  · simp [hshown]

theorem take (hshows : Shows c panes) (delivery : Delivery) :
    Shows (c.take delivery).1 (panes.applyAll (c.take delivery).2) := by
  match delivery with
  | .record (.frame content) =>
      constructor
      · simp only [Console.take]
        rw [visible_append, ← hshows.log]
        by_cases hshown : c.selection.shows (c.history.nextEntry content.text) = true
        · rw [if_pos hshown, if_pos hshown]
          rfl
        · rw [if_neg hshown, if_neg hshown]
          simp
      · have hkept : (panes.applyAll (c.take (.record (.frame content))).2).shell =
            panes.shell := by
          simp only [Console.take]
          split <;> rfl
        rw [hkept, hshows.shell]
        rfl
  | .record (.line content) =>
      exact ⟨hshows.log, by simp [Console.take, Panes.apply, History.appendShell, hshows.shell]⟩
  | .record .strayEnd =>
      exact ⟨hshows.log, by simp [Console.take, Panes.apply, History.appendShell, hshows.shell]⟩
  | .readFailed fault => exact ⟨hshows.log, hshows.shell⟩

theorem takeAll (hshows : Shows c panes) (deliveries : List Delivery) :
    Shows (c.takeAll deliveries).1 (panes.applyAll (c.takeAll deliveries).2) := by
  induction deliveries generalizing c panes with
  | nil => exact hshows
  | cons delivery rest ih =>
      rw [Console.takeAll_cons, Panes.applyAll_append]
      exact ih (hshows.take delivery)

/-- A redraw shows the records whatever the log pane held before. -/
theorem redraw (hshell : panes.shell = c.history.shell) :
    Shows c (panes.applyAll c.redraw) := by
  rw [Console.redraw, Panes.applyAll_cons, Panes.applyAll_map_log]
  exact ⟨rfl, hshell⟩

theorem select (hshows : Shows c panes) (selection : Selection) :
    Shows (c.select selection).1 (panes.applyAll (c.select selection).2) :=
  redraw hshows.shell

/-! ### Operations -/

theorem disconnect (hshows : Shows c panes) (parting : Feeder.Parting) :
    Shows (c.disconnect parting).console
      (panes.applyAll (c.disconnect parting).updates) := by
  unfold Console.disconnect
  split
  · rename_i link _
    have hlate : ∀ stopped : Bool, panes.applyAll
        (if stopped then [] else [.error "reader thread did not stop in time"]) = panes := by
      intro stopped
      cases stopped <;> rfl
    have hfree : Shows { c with attachment := .nothing } panes := hshows.congr rfl rfl
    simp only [Outcome.done, Panes.applyAll_append, hlate]
    exact hfree.takeAll _
  · exact hshows

theorem pump (hshows : Shows c panes) :
    Shows c.pump.console (panes.applyAll c.pump.updates) := by
  unfold Console.pump
  split
  · rename_i link _
    split
    · split
      · exact hshows.congr rfl rfl
      · exact hshows
    · have hemptied : Shows { c with
          attachment := .live { link with feeder := { link.feeder with queue := [] } } } panes :=
        hshows.congr rfl rfl
      exact hemptied.takeAll _
  · exact hshows

theorem connect (hshows : Shows c panes) (label : String) (outlet : Link.Outlet) :
    Shows (c.connect label outlet).console
      (panes.applyAll (c.connect label outlet).updates) := by
  unfold Console.connect
  split
  · exact hshows
  · exact hshows.congr rfl rfl

theorem openLink (hshows : Shows c panes) (tree : Files.Tree) (path : String)
    (settings : Link.LinkSettings) (outlet : Link.Outlet) :
    Shows (c.openLink tree path settings outlet).console
      (panes.applyAll (c.openLink tree path settings outlet).updates) := by
  unfold Console.openLink
  split
  · exact hshows
  · split
    · exact hshows
    · exact hshows.connect path outlet

theorem send (hshows : Shows c panes) (command : String) :
    Shows (c.send command).console (panes.applyAll (c.send command).updates) := by
  unfold Console.send
  dsimp only
  split
  · exact hshows
  · split
    · exact hshows
    · exact hshows
    · split
      · exact hshows.congr rfl rfl
      · exact ⟨hshows.log, by
          simp [Outcome.done, Panes.apply, History.appendShell, hshows.shell]⟩

theorem release (hshows : Shows c panes) (parting : Feeder.Parting) :
    Shows (c.release parting).console (panes.applyAll (c.release parting).updates) := by
  unfold Console.release
  split
  · exact hshows.disconnect parting
  · exact hshows

/-- A capture brings no shell text of its own. -/
theorem shell_ofTexts (texts : List String) : (History.ofTexts texts).shell = "" := by
  have hkept : ∀ h : History, (texts.foldl History.append h).shell = h.shell := by
    induction texts with
    | nil => exact fun _ => rfl
    | cons text texts ih => exact fun h => ih (h.append text)
  exact hkept .empty

theorem replaying (hshows : Shows c panes) (path : String) (capture : Capture) :
    Shows (c.replaying path capture)
      (panes.applyAll (c.replaying path capture).redraw) := by
  apply redraw
  rw [hshows.shell]
  simp [Console.replaying, History.appendShell, Capture.toHistory, shell_ofTexts]

theorem load (hshows : Shows c panes) (path : String) (content : Except Fault ByteArray)
    (parting : Feeder.Parting) :
    Shows (c.load path content parting).console
      (panes.applyAll (c.load path content parting).updates) := by
  unfold Console.load
  split
  · exact hshows
  · split
    · exact hshows
    · rename_i capture _
      simp only [Outcome.done, Panes.applyAll_append]
      exact (hshows.release parting).replaying path capture

theorem closeReplay (hshows : Shows c panes) :
    Shows c.closeReplay.console (panes.applyAll c.closeReplay.updates) := by
  unfold Console.closeReplay
  split
  · exact ⟨rfl, rfl⟩
  · exact hshows

theorem toggleCategory (hshows : Shows c panes) (category : Category) :
    Shows (c.toggleCategory category).1 (panes.applyAll (c.toggleCategory category).2) := by
  simp only [Console.toggleCategory, Panes.applyAll_append]
  exact hshows.select _

theorem toggleSubsystem (hshows : Shows c panes) (subsystem : Subsystem) :
    Shows (c.toggleSubsystem subsystem).1 (panes.applyAll (c.toggleSubsystem subsystem).2) := by
  simp only [Console.toggleSubsystem, Panes.applyAll_append]
  exact hshows.select _

theorem setAllSubsystems (hshows : Shows c panes) (enabled : Bool) :
    Shows (c.setAllSubsystems enabled).1 (panes.applyAll (c.setAllSubsystems enabled).2) := by
  simp only [Console.setAllSubsystems, Panes.applyAll_append]
  exact hshows.select _

/-- No operation leaves the panes behind. -/
theorem perform (hshows : Shows c panes) (operation : Operation) :
    Shows (c.perform operation).1 (panes.applyAll (c.perform operation).2) := by
  cases operation with
  | connect label outlet => exact hshows.connect label outlet
  | openLink tree path settings outlet => exact hshows.openLink tree path settings outlet
  | disconnect parting => exact hshows.disconnect parting
  | pump => exact hshows.pump
  | send command =>
      simp only [Console.perform]
      exact hshows.send command
  | save tree conditions now => exact hshows
  | load path content parting => exact hshows.load path content parting
  | closeReplay => exact hshows.closeReplay
  | toggleCategory category => exact hshows.toggleCategory category
  | toggleSubsystem subsystem => exact hshows.toggleSubsystem subsystem
  | setAllSubsystems enabled => exact hshows.setAllSubsystems enabled
  | select selection => exact hshows.select selection
  | redraw => exact redraw hshows.shell
  | feeder change => exact hshows.congr (c.history_mapFeeder change) (c.selection_mapFeeder change)
  | outlet change => exact hshows.congr (c.history_mapOutlet change) (c.selection_mapOutlet change)

theorem run (hshows : Shows c panes) (operations : List Operation) :
    Shows (c.run operations).1 (panes.applyAll (c.run operations).2) := by
  induction operations generalizing c panes with
  | nil => exact hshows
  | cons operation rest ih =>
      rw [Console.run_cons, Panes.applyAll_append]
      exact ih (hshows.perform operation)

theorem new (settings : Settings) : Shows (Console.new settings) .blank :=
  ⟨rfl, rfl⟩

end Shows

/-- What all updates since the start have left in the panes of a display. -/
def panesAfter (settings : Settings) (operations : List Operation) : Panes :=
  Panes.blank.applyAll ((Console.new settings).run operations).2

/-- After every run the log pane holds the records that the selection shows and
the shell pane all shell text.  What piled up update by update is what a redraw
from scratch shows, so that the order in which records came and the selection
changed has left no trace. -/
theorem panes_show_history (settings : Settings) (operations : List Operation) :
    (panesAfter settings operations).log =
        (((Console.new settings).run operations).1.history.visible
          ((Console.new settings).run operations).1.selection).toList ∧
      (panesAfter settings operations).shell =
        ((Console.new settings).run operations).1.history.shell ∧
      (panesAfter settings operations).applyAll
          ((Console.new settings).run operations).1.redraw =
        panesAfter settings operations := by
  have hshows : Shows ((Console.new settings).run operations).1 (panesAfter settings operations) :=
    (Shows.new settings).run operations
  refine ⟨hshows.log, hshows.shell, ?_⟩
  rw [Console.redraw, Panes.applyAll_cons, Panes.applyAll_map_log, ← hshows.log]
  rfl

end SerialConsole.Session
