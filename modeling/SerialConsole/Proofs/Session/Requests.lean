import SerialConsole.Proofs.Session.Arrival
import SerialConsole.Proofs.Session.Run

/-!
# What a request comes to

A request is an operation on a session, or an attempt to attach a link of which
any step may fail.  It is answered with success or a fault.  All that a request
can come to is said here once, as the cases of `Effect`; what is kept, changed
or refused along a run is read off these cases.
-/

namespace SerialConsole.Session

open Link Log

inductive Request where
  | operation (operation : Operation)
  /-- To attach a link, where opening it, splitting off its writing end and
  starting a feeder turn out as given. -/
  | attach (label : String) (opened : Except OpenFault Unit) (split : Except Fault Outlet)
      (started : Except Fault Unit)

/-- Whether a link is to be attached. -/
def Request.attaches : Request → Bool
  | .operation (.connect _ _) | .operation (.openLink _ _ _ _) | .attach _ _ _ _ => true
  | .operation _ => false

/-- Whether only the selection and what is shown of it are concerned. -/
def Operation.selects : Operation → Bool
  | .toggleCategory _ | .toggleSubsystem _ | .setAllSubsystems _ | .select _ | .redraw => true
  | _ => false

/-- Whether it is the surroundings that act. -/
def Operation.isForeign : Operation → Bool
  | .feeder _ | .outlet _ => true
  | _ => false

namespace Console

/-- The answer to an operation, with its value left aside. -/
def answer (c : Console) : Operation → Except SessionFault Unit
  | .connect label outlet => (c.connect label outlet).result
  | .openLink tree path settings outlet => (c.openLink tree path settings outlet).result
  | .disconnect parting => (c.disconnect parting).result
  | .pump => c.pump.result.map fun _ => ()
  | .send command => (c.send command).result.map fun _ => ()
  | .save tree conditions now => (c.save tree conditions now).1.map fun _ => ()
  | .load path content parting => (c.load path content parting).result.map fun _ => ()
  | .closeReplay => c.closeReplay.result
  | .toggleCategory _ | .toggleSubsystem _ | .setAllSubsystems _ | .select _ | .redraw
  | .feeder _ | .outlet _ => .ok ()

def ask (c : Console) : Request → Outcome Unit
  | .operation operation =>
      { result := c.answer operation,
        console := (c.perform operation).1,
        updates := (c.perform operation).2 }
  | .attach label opened split started => c.attach label opened split started

/-- For use in place of unfolding, which would compute with the command. -/
theorem ask_send (c : Console) (command : String) :
    c.ask (.operation (.send command)) =
      { result := (c.send command).result.map fun _ => (),
        console := (c.send command).console,
        updates := (c.send command).updates } := by
  simp only [ask, answer, perform]

theorem ask_load (c : Console) (path : String) (content : Except Fault ByteArray)
    (parting : Feeder.Parting) :
    c.ask (.operation (.load path content parting)) =
      { result := (c.load path content parting).result.map fun _ => (),
        console := (c.load path content parting).console,
        updates := (c.load path content parting).updates } :=
  rfl

/-- The console after requests made one after the other. -/
def reached (c : Console) (requests : List Request) : Console :=
  requests.foldl (fun c request => (c.ask request).console) c

/-- What is shown when a capture has been loaded. -/
def loadedNotice (path : String) : Update :=
  .status ("Loaded: " ++ path ++ " (Replay Mode - Read Only)")

/-- All that a request can come to. -/
inductive Effect (c : Console) : Request → Outcome Unit → Prop where
  | refused (request : Request) (hpump : request ≠ .operation .pump) (fault : SessionFault) :
      Effect c request (.refused fault c)
  /-- A command that fails may leave something on its link. -/
  | failed (command : String) (fault : WireFault) (change : Outlet → Outlet) :
      Effect c (.operation (.send command)) (.refused (.wire fault) (c.mapOutlet change))
  | attached (request : Request) (hattaches : request.attaches = true)
      (hfree : c.attachment = .nothing) (link : LiveLink) :
      Effect c request (.done () { c with attachment := .live link } [])
  | parted (parting : Feeder.Parting) (link : LiveLink) (hlink : c.attachment = .live link) :
      Effect c (.operation (.disconnect parting)) (.done ()
        { (c.takeAll (c.queuedAfter parting)).1 with attachment := .nothing }
        ((if c.stopsInTime parting then [] else [lateNotice]) ++
          (c.takeAll (c.queuedAfter parting)).2 ++ [disconnectedFrom link.label]))
  | pumped (link : LiveLink) (hlink : c.attachment = .live link) :
      Effect c (.operation .pump) (.done ()
        { (c.takeAll c.queued).1 with
          attachment := .live { link with feeder := { link.feeder with queue := [] } } }
        (c.takeAll c.queued).2)
  | lost (link : LiveLink) (hlink : c.attachment = .live link) (hqueued : c.queued = []) :
      Effect c (.operation .pump)
        { result := .error (.linkLost link.label),
          console := { c with attachment := .nothing },
          updates := [disconnectedFrom link.label] }
  /-- There is no link to take anything from. -/
  | unlinked (hlink : c.feeder? = none) : Effect c (.operation .pump) (.done () c [])
  /-- A blank command is ignored. -/
  | ignored (command : String) (hblank : (c.send command).result = .ok false) :
      Effect c (.operation (.send command)) (.done () c [])
  | sent (command : String) (link : LiveLink) (hlink : c.attachment = .live link)
      (outlet : Outlet) (hsent : (c.send command).result = .ok true) :
      Effect c (.operation (.send command)) (.done ()
        { c with
          attachment := .live { link with outlet },
          history := c.history.appendShell (echo (Text.trim command)) }
        [.shell (echo (Text.trim command))])
  | saved (tree : Files.Tree) (conditions : SaveConditions) (now : Time.Stamp) :
      Effect c (.operation (.save tree conditions now)) (.done () c [])
  | loaded (path : String) (content : Except Fault ByteArray) (parting : Feeder.Parting)
      (capture : Capture) (hfree : c.replayPath? = none)
      (hread : Capture.ofRead path content = .ok capture) :
      Effect c (.operation (.load path content parting)) (.done ()
        ((c.release parting).console.replaying path capture)
        ((c.release parting).updates ++
          ((c.release parting).console.replaying path capture).redraw ++ [loadedNotice path]))
  | closed (path : String) (hpath : c.attachment = .replay path) :
      Effect c (.operation .closeReplay) (.done ()
        { c with history := .empty, attachment := .nothing }
        [.clearLog, .clearShell, .status "Exited replay mode"])
  /-- The selection is another, or the same one for a redraw. -/
  | selected (operation : Operation) (hselects : operation.selects = true)
      (selection : Selection) (updates : List Update) :
      Effect c (.operation operation) (.done () { c with selection } updates)
  /-- The surroundings have been at work on the live link. -/
  | worked (operation : Operation) (hforeign : operation.isForeign = true)
      (feeder : Feeder → Feeder) (outlet : Outlet → Outlet) :
      Effect c (.operation operation) (.done () ((c.mapFeeder feeder).mapOutlet outlet) [])

/-! ### Operations by what the console is attached to -/

section Attached

variable {c : Console} {link : LiveLink} {path command : String}

theorem result_pump_live (hlink : c.attachment = .live link)
    (hgoing : link.feeder.queue ≠ [] ∨ link.feeder.phase ≠ .ended) :
    c.pump.result = .ok link.feeder.queue.length := by
  obtain ⟨label, ⟨intake, running, phase, queue, heard⟩, outlet⟩ := link
  cases queue with
  | nil =>
      have hphase : phase ≠ .ended := hgoing.resolve_left fun hqueue => hqueue rfl
      simp only [pump, hlink, hphase, if_false]
      rfl
  | cons delivery later =>
      simp only [pump, hlink]
      rfl

theorem send_of_blank (c : Console) (hblank : (Text.trim command).isEmpty = true) :
    c.send command = .done false c [] := by
  simp only [send, hblank, if_true]

theorem send_of_nothing (hblank : (Text.trim command).isEmpty = false)
    (hlink : c.attachment = .nothing) : c.send command = .refused .notConnected c := by
  simp only [send, hblank, hlink]
  rfl

theorem send_of_replay (hblank : (Text.trim command).isEmpty = false)
    (hlink : c.attachment = .replay path) : c.send command = .refused (.replayActive path) c := by
  simp only [send, hblank, hlink]
  rfl

theorem send_of_failed (hblank : (Text.trim command).isEmpty = false)
    (hlink : c.attachment = .live link) {fault : WireFault} {outlet : Outlet}
    (hwire : link.outlet.send (Text.trim command) = (.error fault, outlet)) :
    c.send command = .refused (.wire fault) (c.mapOutlet fun _ => outlet) := by
  simp only [send, hblank, hlink, hwire, mapOutlet]
  rfl

theorem send_of_sent (hblank : (Text.trim command).isEmpty = false)
    (hlink : c.attachment = .live link) {count : Nat} {outlet : Outlet}
    (hwire : link.outlet.send (Text.trim command) = (.ok count, outlet)) :
    c.send command = .done true
      { c with
        attachment := .live { link with outlet },
        history := c.history.appendShell (echo (Text.trim command)) }
      [.shell (echo (Text.trim command))] := by
  simp only [send, hblank, hlink, hwire]
  rfl

theorem mode_of_nothing (hlink : c.attachment = .nothing) : c.mode = .disconnected := by
  rw [mode, hlink]

theorem mode_of_live (hlink : c.attachment = .live link) : c.mode = .live := by
  rw [mode, hlink]

theorem mode_of_replay (hlink : c.attachment = .replay path) : c.mode = .replay := by
  rw [mode, hlink]

theorem exists_live (hmode : c.mode = .live) : ∃ link, c.attachment = .live link := by
  unfold mode at hmode
  split at hmode
  · cases hmode
  · exact ⟨_, ‹_›⟩
  · cases hmode

theorem mode_eq_replay_iff : c.mode = .replay ↔ ∃ path, c.replayPath? = some path := by
  unfold mode replayPath?
  cases c.attachment <;> simp

theorem replayPath?_of_live (hlink : c.attachment = .live link) : c.replayPath? = none := by
  rw [replayPath?, hlink]

theorem attachment_of_linkLabel? {label : String} (hlabel : c.linkLabel? = some label) :
    ∃ link, c.attachment = .live link ∧ link.label = label := by
  unfold linkLabel? at hlabel
  split at hlabel
  · exact ⟨_, ‹_›, Option.some.inj hlabel⟩
  · cases hlabel

theorem attachment_of_replayPath? (hpath : c.replayPath? = some path) :
    c.attachment = .replay path := by
  unfold replayPath? at hpath
  split at hpath
  · rename_i current hlink
    rw [hlink, Option.some.inj hpath]
  · cases hpath

/-- Without a capture loaded, loading one depends on its file alone. -/
theorem load_of_free (hfree : c.replayPath? = none) (content : Except Fault ByteArray)
    (parting : Feeder.Parting) :
    c.load path content parting =
      match Capture.ofRead path content with
      | .error fault => .refused (.log fault) c
      | .ok capture =>
          .done ((c.release parting).console.replaying path capture).history.size
            ((c.release parting).console.replaying path capture)
            ((c.release parting).updates ++
              ((c.release parting).console.replaying path capture).redraw ++
              [loadedNotice path]) := by
  unfold load
  split
  · rename_i current hlink
    rw [replayPath?, hlink] at hfree
    cases hfree
  · rfl

/-- Without a capture loaded, there is nothing to keep the history from being
saved. -/
theorem save_of_free (hfree : c.replayPath? = none) (tree : Files.Tree)
    (conditions : SaveConditions) (now : Time.Stamp) :
    c.save tree conditions now =
      ((saveCapture tree conditions c.history c.settings.captureDir c.settings.captureStem
          now).1.mapError .log,
        (saveCapture tree conditions c.history c.settings.captureDir c.settings.captureStem
          now).2) := by
  unfold save
  split
  · rename_i current hlink
    rw [replayPath?, hlink] at hfree
    cases hfree
  · rfl

theorem release_of_nothing (hlink : c.attachment = .nothing) (parting : Feeder.Parting) :
    c.release parting = .done () c [] := by
  simp only [release, isConnected, mode, hlink]
  rfl

theorem release_of_live (hlink : c.attachment = .live link) (parting : Feeder.Parting) :
    c.release parting = c.disconnect parting := by
  simp only [release, isConnected, mode, hlink]
  rfl

/-- Whether or not there is a link, it can be let go, and then there is none. -/
theorem release_of_free (hfree : c.replayPath? = none) (parting : Feeder.Parting) :
    (c.release parting).result = .ok () ∧ (c.release parting).console.attachment = .nothing := by
  cases hlink : c.attachment with
  | nothing =>
      rw [release_of_nothing hlink]
      exact ⟨rfl, hlink⟩
  | live link =>
      rw [release_of_live hlink, disconnect_live hlink]
      exact ⟨rfl, rfl⟩
  | replay path =>
      rw [replayPath?, hlink] at hfree
      cases hfree

end Attached

/-! ### Every case of every request -/

section Cases

variable (c : Console)

theorem mapOutlet_id : c.mapOutlet id = c := by
  obtain ⟨settings, history, selection, attachment⟩ := c
  cases attachment <;> rfl

theorem mapFeeder_id : c.mapFeeder id = c := by
  obtain ⟨settings, history, selection, attachment⟩ := c
  cases attachment <;> rfl

theorem effect_attach (request : Request) (hattaches : request.attaches = true)
    (hpump : request ≠ .operation .pump) (label : String) (opened : Except OpenFault Unit)
    (split : Except Fault Outlet) (started : Except Fault Unit) :
    Effect c request (c.attach label opened split started) := by
  unfold attach
  cases hcheck : c.checkFree with
  | error fault => exact .refused request hpump fault
  | ok free =>
      have hfree : c.attachment = .nothing := by
        unfold checkFree at hcheck
        split at hcheck
        · assumption
        · cases hcheck
        · cases hcheck
      match opened, split, started with
      | .error fault, _, _ => exact .refused request hpump _
      | .ok (), .error fault, _ => exact .refused request hpump _
      | .ok (), .ok outlet, .error fault => exact .refused request hpump _
      | .ok (), .ok outlet, .ok () =>
          simp only [connect, hcheck]
          exact .attached request hattaches hfree _

theorem effect_disconnect (parting : Feeder.Parting) :
    Effect c (.operation (.disconnect parting)) (c.disconnect parting) := by
  cases hlink : c.attachment with
  | live link =>
      rw [disconnect_live hlink]
      exact .parted parting link hlink
  | nothing =>
      simp only [disconnect, hlink]
      exact .refused _ (by simp) _
  | replay path =>
      simp only [disconnect, hlink]
      exact .refused _ (by simp) _

theorem effect_pump : Effect c (.operation .pump) (c.ask (.operation .pump)) := by
  cases hlink : c.attachment with
  | live link =>
      have hqueued : c.queued = link.feeder.queue := by
        rw [queued, feeder?, hlink, Option.elim_some]
      by_cases hlost : link.feeder.queue = [] ∧ link.feeder.phase = .ended
      · simp only [ask, answer, perform, pump_lost hlink hlost.1 hlost.2]
        exact .lost link hlink (hqueued.trans hlost.1)
      · have hgoing := Classical.not_and_iff_not_or_not.mp hlost
        obtain ⟨hconsole, hupdates⟩ := pump_live hlink hgoing
        simp only [ask, answer, perform, result_pump_live hlink hgoing, hconsole, hupdates,
          ← hqueued]
        exact .pumped link hlink
  | nothing =>
      simp only [ask, answer, perform, pump, hlink]
      exact .unlinked (by rw [feeder?, hlink])
  | replay path =>
      simp only [ask, answer, perform, pump, hlink]
      exact .unlinked (by rw [feeder?, hlink])

theorem effect_send (command : String) :
    Effect c (.operation (.send command)) (c.ask (.operation (.send command))) := by
  cases hblank : (Text.trim command).isEmpty with
  | true =>
      have hsend := c.send_of_blank hblank
      simp only [ask, answer, perform, hsend]
      exact .ignored command (by rw [hsend]; rfl)
  | false =>
      cases hlink : c.attachment with
      | nothing =>
          simp only [ask, answer, perform, send_of_nothing hblank hlink]
          exact .refused _ (by simp) _
      | replay path =>
          simp only [ask, answer, perform, send_of_replay hblank hlink]
          exact .refused _ (by simp) _
      | live link =>
          rcases hwire : link.outlet.send (Text.trim command) with ⟨fault | count, outlet⟩
          · simp only [ask, answer, perform, send_of_failed hblank hlink hwire]
            exact .failed command fault fun _ => outlet
          · have hsend := send_of_sent hblank hlink hwire
            simp only [ask, answer, perform, hsend]
            exact .sent command link hlink outlet (by rw [hsend]; rfl)

theorem effect_save (tree : Files.Tree) (conditions : SaveConditions) (now : Time.Stamp) :
    Effect c (.operation (.save tree conditions now))
      (c.ask (.operation (.save tree conditions now))) := by
  simp only [ask, answer, perform]
  cases (c.save tree conditions now).1 with
  | error fault => exact .refused _ (by simp) fault
  | ok saved => exact .saved tree conditions now

theorem effect_load (path : String) (content : Except Fault ByteArray)
    (parting : Feeder.Parting) :
    Effect c (.operation (.load path content parting))
      (c.ask (.operation (.load path content parting))) := by
  cases hpath : c.replayPath? with
  | some current =>
      simp only [ask, answer, perform, load, attachment_of_replayPath? hpath]
      exact .refused _ (by simp) _
  | none =>
      simp only [ask, answer, perform, load_of_free hpath]
      cases hread : Capture.ofRead path content with
      | error fault => exact .refused _ (by simp) _
      | ok capture => exact .loaded path content parting capture hpath hread

theorem effect_closeReplay : Effect c (.operation .closeReplay) c.closeReplay := by
  cases hlink : c.attachment with
  | replay path =>
      simp only [closeReplay, hlink]
      exact .closed path hlink
  | nothing =>
      simp only [closeReplay, hlink]
      exact .refused _ (by simp) _
  | live link =>
      simp only [closeReplay, hlink]
      exact .refused _ (by simp) _

/-- A request comes to one of the cases, whatever the session is in. -/
theorem effect_ask (request : Request) : Effect c request (c.ask request) := by
  match request with
  | .attach label opened split started =>
      exact c.effect_attach _ rfl (by simp) label opened split started
  | .operation operation =>
      cases operation with
      | connect label outlet =>
          have hconnect := c.effect_attach (.operation (.connect label outlet)) rfl
            (by simp) label (.ok ()) (.ok outlet) (.ok ())
          rwa [← connect_eq_attach] at hconnect
      | openLink tree path settings outlet =>
          have hopen := c.effect_attach
            (.operation (.openLink tree path settings outlet)) rfl (by simp) path
            ((openAt tree path settings).map fun _ => ()) (.ok outlet) (.ok ())
          rwa [← openLink_eq_attach] at hopen
      | disconnect parting => exact c.effect_disconnect parting
      | pump => exact c.effect_pump
      | send command => exact c.effect_send command
      | save tree conditions now => exact c.effect_save tree conditions now
      | load path content parting => exact c.effect_load path content parting
      | closeReplay => exact c.effect_closeReplay
      | toggleCategory category => exact .selected _ rfl _ _
      | toggleSubsystem subsystem => exact .selected _ rfl _ _
      | setAllSubsystems enabled => exact .selected _ rfl _ _
      | select selection => exact .selected _ rfl _ _
      | redraw => exact .selected _ rfl c.selection _
      | feeder change =>
          have hworked := Effect.worked (c := c) (.feeder change) rfl change id
          rwa [mapOutlet_id] at hworked
      | outlet change =>
          have hworked := Effect.worked (c := c) (.outlet change) rfl id change
          rwa [mapFeeder_id] at hworked

end Cases

end Console

end SerialConsole.Session
