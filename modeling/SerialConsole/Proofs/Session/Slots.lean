import SerialConsole.Proofs.Session.Requests

/-!
# A session with two slots

Instead of saying what it is attached to, a session can hold a link and the path
of a capture side by side, each of which may be missing.  Nothing in such a
record keeps both from being there at once: it takes the checks that every
request makes.  With these it answers as a console does, request by request, and
is never anything but a console spread out on two slots.
-/

namespace SerialConsole.Session

open Link Log

structure Slots where
  settings : Settings
  history : History
  selection : Selection
  live : Option LiveLink
  replay : Option String

namespace Slots

def new (settings : Settings) : Slots where
  settings := settings
  history := .empty
  selection := .everything
  live := none
  replay := none

def mode (s : Slots) : Mode :=
  if s.live.isSome then .live
  else if s.replay.isSome then .replay
  else .disconnected

/-- Not both slots are taken. -/
def Exclusive (s : Slots) : Prop :=
  ¬ (s.live.isSome = true ∧ s.replay.isSome = true)

def withLive (s : Slots) (live : Option LiveLink) : Slots :=
  { s with live }

/-- The session without what is in its slots. -/
def bare (s : Slots) : Console where
  settings := s.settings
  history := s.history
  selection := s.selection
  attachment := .nothing

/-- A console, spread out on two slots. -/
def ofConsole (c : Console) : Slots where
  settings := c.settings
  history := c.history
  selection := c.selection
  live := match c.attachment with
    | .live link => some link
    | _ => none
  replay := c.replayPath?

end Slots

/-- What comes of a request to two slots. -/
structure Reply where
  result : Except SessionFault Unit
  slots : Slots
  updates : List Update

namespace Reply

def done (slots : Slots) (updates : List Update) : Reply where
  result := .ok ()
  slots := slots
  updates := updates

def refused (fault : SessionFault) (slots : Slots) : Reply where
  result := .error fault
  slots := slots
  updates := []

def ofOutcome (outcome : Outcome Unit) : Reply where
  result := outcome.result
  slots := .ofConsole outcome.console
  updates := outcome.updates

end Reply

namespace Slots

/-! ### Requests -/

/-- Take deliveries in order. -/
def takeAll (s : Slots) (taken : List Delivery) : Slots × List Update :=
  ({ s with history := (s.bare.takeAll taken).1.history }, (s.bare.takeAll taken).2)

def checkFree (s : Slots) : Except SessionFault Unit :=
  match s.replay, s.live with
  | some path, _ => .error (.replayActive path)
  | none, some link => .error (.alreadyConnected link.label)
  | none, none => .ok ()

def attach (s : Slots) (label : String) (opened : Except OpenFault Unit)
    (split : Except Fault Outlet) (started : Except Fault Unit) : Reply :=
  match s.checkFree with
  | .error fault => .refused fault s
  | .ok () =>
      match opened, split, started with
      | .error fault, _, _ => .refused (.opening fault) s
      | .ok (), .error fault, _ => .refused (.opening (.failed fault)) s
      | .ok (), .ok _, .error fault => .refused (.starting fault) s
      | .ok (), .ok outlet, .ok () =>
          let link := { label, feeder := Feeder.start s.settings.intake, outlet }
          .done (s.withLive (some link)) []

/-- Empty the slot of the link, whatever is in the other one. -/
def disconnect (s : Slots) (parting : Feeder.Parting) : Reply :=
  match s.live with
  | none => .refused .notConnected s
  | some link =>
      let parted := link.feeder.part parting
      let taken := (s.withLive none).takeAll parted.2.queue
      .done taken.1 ((if parted.1 then [] else [Console.lateNotice]) ++ taken.2 ++
        [Console.disconnectedFrom link.label])

def pump (s : Slots) : Reply :=
  match s.live with
  | none => .done s []
  | some link =>
      match link.feeder.queue with
      | [] =>
          if link.feeder.phase = .ended then
            { result := .error (.linkLost link.label),
              slots := s.withLive none,
              updates := [Console.disconnectedFrom link.label] }
          else .done s []
      | queue =>
          let feeder := { link.feeder with queue := [] }
          let taken := (s.withLive (some { link with feeder })).takeAll queue
          .done taken.1 taken.2

def send (s : Slots) (command : String) : Reply :=
  let command := Text.trim command
  if command.isEmpty then .done s []
  else match s.replay, s.live with
    | some path, _ => .refused (.replayActive path) s
    | none, none => .refused .notConnected s
    | none, some link =>
        match link.outlet.send command with
        | (.error fault, outlet) =>
            .refused (.wire fault) (s.withLive (some { link with outlet }))
        | (.ok _, outlet) =>
            .done
              { s.withLive (some { link with outlet }) with
                history := s.history.appendShell (Console.echo command) }
              [.shell (Console.echo command)]

def save (s : Slots) (tree : Files.Tree) (conditions : SaveConditions)
    (now : Time.Stamp) : Reply :=
  match s.replay with
  | some path => .refused (.replayActive path) s
  | none =>
      match (saveCapture tree conditions s.history s.settings.captureDir s.settings.captureStem
          now).1 with
      | .error fault => .refused (.log fault) s
      | .ok _ => .done s []

def replaying (s : Slots) (path : String) (capture : Capture) : Slots :=
  { s with
    history := capture.toHistory.appendShell s.history.shell,
    replay := some path }

/-- Load a capture.  The slot of the link is emptied first if it is taken, which
might be refused. -/
def load (s : Slots) (path : String) (content : Except Fault ByteArray)
    (parting : Feeder.Parting) : Reply :=
  match s.replay with
  | some current => .refused (.replayActive current) s
  | none =>
      match Capture.ofRead path content with
      | .error fault => .refused (.log fault) s
      | .ok capture =>
          let released := if s.live.isSome then s.disconnect parting else .done s []
          match released.result with
          | .error _ => released
          | .ok () =>
              let loaded := released.slots.replaying path capture
              .done loaded
                (released.updates ++ loaded.bare.redraw ++ [Console.loadedNotice path])

def closeReplay (s : Slots) : Reply :=
  match s.replay with
  | none => .refused .notInReplay s
  | some _ =>
      .done { s with history := .empty, replay := none }
        [.clearLog, .clearShell, .status "Exited replay mode"]

/-- A change of the selection looks at neither slot. -/
def selected (s : Slots) (changed : Console × List Update) : Reply :=
  .done { s with selection := changed.1.selection } changed.2

def ask (s : Slots) : Request → Reply
  | .attach label opened split started => s.attach label opened split started
  | .operation (.connect label outlet) => s.attach label (.ok ()) (.ok outlet) (.ok ())
  | .operation (.openLink tree path settings outlet) =>
      s.attach path ((openAt tree path settings).map fun _ => ()) (.ok outlet) (.ok ())
  | .operation (.disconnect parting) => s.disconnect parting
  | .operation .pump => s.pump
  | .operation (.send command) => s.send command
  | .operation (.save tree conditions now) => s.save tree conditions now
  | .operation (.load path content parting) => s.load path content parting
  | .operation .closeReplay => s.closeReplay
  | .operation (.toggleCategory category) => s.selected (s.bare.toggleCategory category)
  | .operation (.toggleSubsystem subsystem) => s.selected (s.bare.toggleSubsystem subsystem)
  | .operation (.setAllSubsystems enabled) => s.selected (s.bare.setAllSubsystems enabled)
  | .operation (.select selection) => s.selected (s.bare.select selection)
  | .operation .redraw => s.selected (s.bare, s.bare.redraw)
  | .operation (.feeder change) =>
      .done (s.withLive (s.live.map fun link => { link with feeder := change link.feeder })) []
  | .operation (.outlet change) =>
      .done (s.withLive (s.live.map fun link => { link with outlet := change link.outlet })) []

/-- The slots after requests made one after the other. -/
def reached (s : Slots) (requests : List Request) : Slots :=
  requests.foldl (fun s request => (s.ask request).slots) s

/-! ### The slots of a console -/

theorem exclusive_ofConsole (c : Console) : (ofConsole c).Exclusive := by
  unfold Exclusive ofConsole Console.replayPath?
  cases c.attachment <;> simp

theorem mode_ofConsole (c : Console) : (ofConsole c).mode = c.mode := by
  unfold mode ofConsole Console.mode Console.replayPath?
  cases c.attachment <;> rfl

@[simp]
theorem settings_ofConsole (c : Console) : (ofConsole c).settings = c.settings := rfl

@[simp]
theorem history_ofConsole (c : Console) : (ofConsole c).history = c.history := rfl

/-- Taking deliveries changes the history and nothing else. -/
theorem takeAll_eq_history (c : Console) (taken : List Delivery) :
    (c.takeAll taken).1 = { c with history := (c.takeAll taken).1.history } := by
  induction taken generalizing c with
  | nil => rfl
  | cons delivery later ih =>
      rw [Console.takeAll_cons, ih]
      match delivery with
      | .record (.frame content) => rfl
      | .record (.line content) => rfl
      | .record .strayEnd => rfl
      | .readFailed fault => rfl

section OfConsole

variable {c : Console} {link : LiveLink} {path : String}

theorem live_ofConsole (hlink : c.attachment = .live link) : (ofConsole c).live = some link := by
  rw [ofConsole, hlink]

theorem live_ofConsole_of_replay (hlink : c.attachment = .replay path) :
    (ofConsole c).live = none := by
  rw [ofConsole, hlink]

theorem ofConsole_of_nothing (hlink : c.attachment = .nothing) :
    (ofConsole c).live = none ∧ (ofConsole c).replay = none := by
  rw [ofConsole, Console.replayPath?, hlink]
  exact ⟨rfl, rfl⟩

theorem replay_ofConsole (hlink : c.attachment = .replay path) :
    (ofConsole c).replay = some path := by
  rw [ofConsole, Console.replayPath?, hlink]

theorem replay_ofConsole_of_live (hlink : c.attachment = .live link) :
    (ofConsole c).replay = none := by
  rw [ofConsole, Console.replayPath?, hlink]

/-- While the slot of the link is taken, it can be emptied or filled again. -/
theorem withLive_ofConsole (hlink : c.attachment = .live link) (live : Option LiveLink) :
    (ofConsole c).withLive live =
      ofConsole { c with attachment := live.elim .nothing .live } := by
  rw [withLive, replay_ofConsole_of_live hlink]
  cases live <;> rfl

/-- With both slots empty, the one for a capture can be filled. -/
theorem replaying_ofConsole (hnothing : c.attachment = .nothing) (capture : Capture) :
    (ofConsole c).replaying path capture = ofConsole (c.replaying path capture) := by
  rw [replaying, (ofConsole_of_nothing hnothing).1]
  rfl

/-- Deliveries are taken whatever is in the slots. -/
theorem takeAll_ofConsole (c : Console) (attachment : Attachment) (taken : List Delivery) :
    (ofConsole { c with attachment }).takeAll taken =
      (ofConsole { (c.takeAll taken).1 with attachment }, (c.takeAll taken).2) := by
  have hbare : (ofConsole { c with attachment }).bare = { c with attachment := .nothing } := rfl
  rw [takeAll, hbare, Console.takeAll_attachment]
  conv => rhs; rw [takeAll_eq_history]
  rfl

end OfConsole

/-! ### The same answers from both -/

variable (c : Console)

theorem attach_ofConsole (label : String) (opened : Except OpenFault Unit)
    (split : Except Fault Outlet) (started : Except Fault Unit) :
    (ofConsole c).attach label opened split started =
      .ofOutcome (c.attach label opened split started) := by
  obtain ⟨settings, history, selection, attachment⟩ := c
  cases attachment with
  | nothing =>
      match opened, split, started with
      | .error fault, _, _ => rfl
      | .ok (), .error fault, _ => rfl
      | .ok (), .ok outlet, .error fault => rfl
      | .ok (), .ok outlet, .ok () => rfl
  | live link => rfl
  | replay path => rfl

theorem disconnect_ofConsole (parting : Feeder.Parting) :
    (ofConsole c).disconnect parting = .ofOutcome (c.disconnect parting) := by
  cases hlink : c.attachment with
  | nothing =>
      simp only [disconnect, (ofConsole_of_nothing hlink).1, Console.disconnect, hlink]
      rfl
  | replay path =>
      simp only [disconnect, live_ofConsole_of_replay hlink, Console.disconnect, hlink]
      rfl
  | live link =>
      have hfeeder : c.feeder? = some link.feeder := by rw [Console.feeder?, hlink]
      rw [Console.disconnect_live hlink]
      simp only [disconnect, live_ofConsole hlink, withLive_ofConsole hlink, takeAll_ofConsole,
        Console.stopsInTime, Console.queuedAfter, hfeeder, Option.elim_some]
      rfl

theorem pump_ofConsole : (ofConsole c).pump = .ofOutcome (c.ask (.operation .pump)) := by
  simp only [Console.ask, Console.answer, Console.perform]
  cases hlink : c.attachment with
  | nothing =>
      simp only [pump, (ofConsole_of_nothing hlink).1, Console.pump, hlink]
      rfl
  | replay path =>
      simp only [pump, live_ofConsole_of_replay hlink, Console.pump, hlink]
      rfl
  | live link =>
      cases hqueue : link.feeder.queue with
      | nil =>
          by_cases hphase : link.feeder.phase = .ended
          · simp only [pump, live_ofConsole hlink, hqueue, hphase, if_true,
              withLive_ofConsole hlink, Console.pump_lost hlink hqueue hphase]
            rfl
          · simp only [pump, live_ofConsole hlink, hqueue, hphase, if_false, Console.pump, hlink]
            rfl
      | cons delivery later =>
          have hgoing : link.feeder.queue ≠ [] ∨ link.feeder.phase ≠ .ended := by simp [hqueue]
          obtain ⟨hconsole, hupdates⟩ := Console.pump_live hlink hgoing
          simp only [hconsole, hupdates, Console.result_pump_live hlink hgoing, pump,
            live_ofConsole hlink, hqueue, withLive_ofConsole hlink, takeAll_ofConsole]
          rfl

theorem send_ofConsole (command : String) :
    (ofConsole c).send command = .ofOutcome (c.ask (.operation (.send command))) := by
  simp only [Console.ask, Console.answer, Console.perform]
  cases hblank : (Text.trim command).isEmpty with
  | true =>
      simp only [send, hblank, if_true, c.send_of_blank hblank]
      rfl
  | false =>
      cases hlink : c.attachment with
      | nothing =>
          simp only [send, hblank, ofConsole_of_nothing hlink,
            Console.send_of_nothing hblank hlink]
          rfl
      | replay path =>
          simp only [send, hblank, replay_ofConsole hlink, Console.send_of_replay hblank hlink]
          rfl
      | live link =>
          rcases hwire : link.outlet.send (Text.trim command) with ⟨fault | count, outlet⟩
          · simp only [send, hblank, replay_ofConsole_of_live hlink, live_ofConsole hlink, hwire,
              Console.send_of_failed hblank hlink hwire, withLive_ofConsole hlink,
              Console.mapOutlet, hlink]
            rfl
          · simp only [send, hblank, replay_ofConsole_of_live hlink, live_ofConsole hlink, hwire,
              Console.send_of_sent hblank hlink hwire, withLive_ofConsole hlink]
            rfl

theorem save_ofConsole (tree : Files.Tree) (conditions : SaveConditions)
    (now : Time.Stamp) :
    (ofConsole c).save tree conditions now =
      .ofOutcome (c.ask (.operation (.save tree conditions now))) := by
  simp only [Console.ask, Console.answer, Console.perform]
  cases hpath : c.replayPath? with
  | some current =>
      have hlink := Console.attachment_of_replayPath? hpath
      simp only [save, replay_ofConsole hlink, Console.save, hlink]
      rfl
  | none =>
      have hreplay : (ofConsole c).replay = none := hpath
      simp only [save, hreplay, history_ofConsole, settings_ofConsole, Console.save_of_free hpath]
      cases (saveCapture tree conditions c.history c.settings.captureDir c.settings.captureStem
        now).1 <;> rfl

theorem release_ofConsole (parting : Feeder.Parting) :
    (if (ofConsole c).live.isSome then (ofConsole c).disconnect parting
      else .done (ofConsole c) []) = .ofOutcome (c.release parting) := by
  rw [disconnect_ofConsole]
  obtain ⟨settings, history, selection, attachment⟩ := c
  cases attachment <;> rfl

theorem load_ofConsole (path : String) (content : Except Fault ByteArray)
    (parting : Feeder.Parting) :
    (ofConsole c).load path content parting =
      .ofOutcome (c.ask (.operation (.load path content parting))) := by
  simp only [Console.ask, Console.answer, Console.perform]
  cases hpath : c.replayPath? with
  | some current =>
      have hlink := Console.attachment_of_replayPath? hpath
      simp only [load, replay_ofConsole hlink, Console.load, hlink]
      rfl
  | none =>
      have hreplay : (ofConsole c).replay = none := hpath
      simp only [load, hreplay, Console.load_of_free hpath]
      cases hread : Capture.ofRead path content with
      | error fault => rfl
      | ok capture =>
          obtain ⟨hresult, hnothing⟩ := Console.release_of_free hpath parting
          simp only [release_ofConsole, Reply.ofOutcome, hresult,
            replaying_ofConsole hnothing]
          rfl

theorem closeReplay_ofConsole : (ofConsole c).closeReplay = .ofOutcome c.closeReplay := by
  cases hlink : c.attachment with
  | nothing =>
      simp only [closeReplay, ofConsole_of_nothing hlink, Console.closeReplay, hlink]
      rfl
  | live link =>
      simp only [closeReplay, replay_ofConsole_of_live hlink, Console.closeReplay, hlink]
      rfl
  | replay path =>
      simp only [closeReplay, replay_ofConsole hlink, Console.closeReplay, hlink]
      rw [Reply.done, Reply.ofOutcome, ofConsole, hlink]
      rfl

theorem ask_ofConsole (request : Request) :
    (ofConsole c).ask request = .ofOutcome (c.ask request) := by
  match request with
  | .attach label opened split started => exact attach_ofConsole c label opened split started
  | .operation operation =>
      cases operation with
      | connect label outlet =>
          have hattach := attach_ofConsole c label (.ok ()) (.ok outlet) (.ok ())
          rwa [← Console.connect_eq_attach] at hattach
      | openLink tree path settings outlet =>
          have hattach := attach_ofConsole c path ((openAt tree path settings).map fun _ => ())
            (.ok outlet) (.ok ())
          rwa [← Console.openLink_eq_attach] at hattach
      | disconnect parting => exact disconnect_ofConsole c parting
      | pump => exact pump_ofConsole c
      | send command => exact send_ofConsole c command
      | save tree conditions now => exact save_ofConsole c tree conditions now
      | load path content parting => exact load_ofConsole c path content parting
      | closeReplay => exact closeReplay_ofConsole c
      | toggleCategory category => rfl
      | toggleSubsystem subsystem => rfl
      | setAllSubsystems enabled => rfl
      | select selection => rfl
      | redraw => rfl
      | feeder change =>
          obtain ⟨settings, history, selection, attachment⟩ := c
          cases attachment <;> rfl
      | outlet change =>
          obtain ⟨settings, history, selection, attachment⟩ := c
          cases attachment <;> rfl

/-- Two slots that follow a console keep to it. -/
theorem reached_ofConsole (requests : List Request) :
    (ofConsole c).reached requests = ofConsole (c.reached requests) := by
  induction requests generalizing c with
  | nil => rfl
  | cons request later ih =>
      have hasked := congrArg Reply.slots (ask_ofConsole c request)
      change ((ofConsole c).ask request).slots.reached later = _
      rw [hasked]
      exact ih (c.ask request).console

end Slots

end SerialConsole.Session
