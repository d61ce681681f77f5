import SerialConsole.Proofs.Session.Slots

/-!
# How the mode of a session changes

A session is disconnected, live or replaying.  Five requests take it from one
mode to another, each from where it is allowed and only if it succeeds, but for
a pump, which ends the live mode when it finds the link lost.  All others leave
the mode as it is, and what a mode does not allow is refused with the link or
the capture that is in the way.
-/

namespace SerialConsole.Session

open Link Log

namespace Request

/-- Whether a request, so answered, is one that changes the mode. -/
def turns : Request → Except SessionFault Unit → Bool
  | .operation .pump, .error (.linkLost _) => true
  | .operation (.disconnect _), .ok () | .operation (.load _ _ _), .ok ()
  | .operation .closeReplay, .ok () => true
  | request, .ok () => request.attaches
  | _, .error _ => false

/-- Whether a request is not available while a capture is replayed.  A blank
command is: it is ignored. -/
def isBarred : Request → Bool
  | .operation (.send command) => !(Text.trim command).isEmpty
  | .operation (.save _ _ _) | .operation (.load _ _ _) => true
  | request => request.attaches

theorem turns_error {request : Request} (hpump : request ≠ .operation .pump)
    (fault : SessionFault) : request.turns (.error fault) = false := by
  cases request with
  | attach label opened split started => rfl
  | operation operation => cases operation <;> first | rfl | exact absurd rfl hpump

theorem turns_of_selects {operation : Operation} (hselects : operation.selects = true) :
    (Request.operation operation).turns (.ok ()) = false := by
  cases operation <;> first | contradiction | rfl

theorem turns_of_isForeign {operation : Operation} (hforeign : operation.isForeign = true) :
    (Request.operation operation).turns (.ok ()) = false := by
  cases operation <;> first | contradiction | rfl

end Request

/-- The mode before a request, its answer, and the mode after it. -/
inductive Turn : Request → Except SessionFault Unit → Mode → Mode → Prop where
  | attached {request : Request} (hattaches : request.attaches = true) :
      Turn request (.ok ()) .disconnected .live
  | parted (parting : Feeder.Parting) :
      Turn (.operation (.disconnect parting)) (.ok ()) .live .disconnected
  | lost (label : String) :
      Turn (.operation .pump) (.error (.linkLost label)) .live .disconnected
  | loaded (path : String) (content : Except Fault ByteArray) (parting : Feeder.Parting)
      {mode : Mode} (hmode : mode ≠ .replay) :
      Turn (.operation (.load path content parting)) (.ok ()) mode .replay
  | closed : Turn (.operation .closeReplay) (.ok ()) .replay .disconnected
  | stays {request : Request} {result : Except SessionFault Unit}
      (hstays : request.turns result = false) (mode : Mode) : Turn request result mode mode

namespace Console

variable (c : Console)

theorem mode_mapOutlet (change : Outlet → Outlet) : (c.mapOutlet change).mode = c.mode := by
  obtain ⟨settings, history, selection, attachment⟩ := c
  cases attachment <;> rfl

theorem mode_mapFeeder (change : Feeder → Feeder) : (c.mapFeeder change).mode = c.mode := by
  obtain ⟨settings, history, selection, attachment⟩ := c
  cases attachment <;> rfl

/-- What a request comes to changes the mode in one of five ways or not at all. -/
theorem turn_ask (request : Request) :
    Turn request (c.ask request).result c.mode (c.ask request).console.mode := by
  have heffect := c.effect_ask request
  generalize c.ask request = outcome at heffect ⊢
  cases heffect with
  | refused request hpump fault => exact .stays (Request.turns_error hpump fault) c.mode
  | failed command fault change =>
      rw [Outcome.refused, c.mode_mapOutlet]
      exact .stays rfl c.mode
  | attached request hattaches hnothing link =>
      rw [mode_of_nothing hnothing]
      exact .attached hattaches
  | parted parting link hlink =>
      rw [mode_of_live hlink]
      exact .parted parting
  | pumped link hlink =>
      rw [mode_of_live hlink]
      exact .stays rfl .live
  | lost link hlink hqueued =>
      rw [mode_of_live hlink]
      exact .lost link.label
  | unlinked hlink => exact .stays rfl c.mode
  | ignored command hblank => exact .stays rfl c.mode
  | sent command link hlink outlet hsent =>
      rw [mode_of_live hlink]
      exact .stays rfl .live
  | saved tree conditions now => exact .stays rfl c.mode
  | loaded path content parting capture hfree hread =>
      refine .loaded path content parting fun hmode => ?_
      obtain ⟨current, hcurrent⟩ := mode_eq_replay_iff.mp hmode
      rw [hfree] at hcurrent
      cases hcurrent
  | closed path hpath =>
      rw [mode_of_replay hpath]
      exact .closed
  | selected operation hselects selection updates =>
      exact .stays (Request.turns_of_selects hselects) c.mode
  | worked operation hforeign feeder outlet =>
      have hmode : ((c.mapFeeder feeder).mapOutlet outlet).mode = c.mode := by
        rw [mode_mapOutlet, mode_mapFeeder]
      rw [Outcome.done, hmode]
      exact .stays (Request.turns_of_isForeign hforeign) c.mode

/-! ### What a mode does not allow -/

theorem exists_attach {request : Request} (hattaches : request.attaches = true) :
    ∃ label opened split started, c.ask request = c.attach label opened split started := by
  cases request with
  | attach label opened split started => exact ⟨label, opened, split, started, rfl⟩
  | operation operation =>
      cases operation with
      | connect label outlet => exact ⟨_, _, _, _, c.connect_eq_attach label outlet⟩
      | openLink tree path settings outlet =>
          exact ⟨_, _, _, _, c.openLink_eq_attach tree path settings outlet⟩
      | _ => cases hattaches

/-- Nothing is attached over what is there. -/
theorem result_of_attaches {request : Request} (hattaches : request.attaches = true)
    {fault : SessionFault} (hcheck : c.checkFree = .error fault) :
    (c.ask request).result = .error fault := by
  obtain ⟨label, opened, split, started, hask⟩ := c.exists_attach hattaches
  rw [hask]
  simp only [attach, hcheck]
  rfl

end Console

/-- What a console allows in its mode. -/
structure KeepsToMode (c : Console) : Prop where
  turn : ∀ request, Turn request (c.ask request).result c.mode (c.ask request).console.mode
  /-- A link can be let go whether or not its feeder stops in time. -/
  parts : c.mode = .live → ∀ parting, (c.disconnect parting).result = .ok ()
  closes : c.mode = .replay → c.closeReplay.result = .ok ()
  /-- A second link is never attached over the first. -/
  occupied : ∀ request label, request.attaches = true → c.linkLabel? = some label →
    (c.ask request).result = .error (.alreadyConnected label)
  barred : ∀ request path, request.isBarred = true → c.replayPath? = some path →
    (c.ask request).result = .error (.replayActive path)
  /-- A capture is loaded over a link as it is once the link has been let go. -/
  releases : c.mode = .live → ∀ path content parting capture,
    Capture.ofRead path content = .ok capture →
      c.load path content parting =
        { (c.disconnect parting).console.load path content parting with
          updates := (c.disconnect parting).updates ++
            ((c.disconnect parting).console.load path content parting).updates }

namespace Console

theorem keepsToMode (c : Console) : KeepsToMode c where
  turn request := c.turn_ask request
  parts hmode parting := by
    obtain ⟨link, hlink⟩ := exists_live hmode
    rw [disconnect_live hlink]
    rfl
  closes hmode := by
    obtain ⟨path, hpath⟩ := mode_eq_replay_iff.mp hmode
    simp only [closeReplay, attachment_of_replayPath? hpath]
    rfl
  occupied request label hattaches hlabel := by
    apply c.result_of_attaches hattaches
    obtain ⟨link, hlink, rfl⟩ := attachment_of_linkLabel? hlabel
    rw [checkFree, hlink]
  barred request path hbarred hpath := by
    have hlink := attachment_of_replayPath? hpath
    have hattach : request.attaches = true →
        (c.ask request).result = .error (.replayActive path) := fun hattaches =>
      c.result_of_attaches hattaches (by rw [checkFree, hlink])
    cases request with
    | attach label opened split started => exact hattach rfl
    | operation operation =>
        cases operation with
        | send command =>
            have hblank : (Text.trim command).isEmpty = false := by
              simpa [Request.isBarred] using hbarred
            simp only [ask, answer, send_of_replay hblank hlink]
            rfl
        | save tree conditions now =>
            simp only [ask, answer, save, hlink]
            rfl
        | load other content parting =>
            simp only [ask, answer, load, hlink]
            rfl
        | _ => exact hattach hbarred
  releases hmode path content parting capture hread := by
    obtain ⟨link, hlink⟩ := exists_live hmode
    have hnothing : (c.disconnect parting).console.attachment = .nothing := by
      rw [disconnect_live hlink]
      rfl
    have hfree : (c.disconnect parting).console.replayPath? = none := by
      rw [replayPath?, hnothing]
    rw [load_of_free (replayPath?_of_live hlink), load_of_free hfree, hread,
      release_of_live hlink, release_of_nothing hnothing]
    simp only [Outcome.done, List.nil_append, List.append_assoc]

end Console

/-- A session never holds a link and a capture at once, although it has a slot
for each, and its mode changes as a request is answered: attaching a link,
letting it go, finding it lost, loading a capture and closing it are the only
ways from one mode to another. -/
theorem mode_changes_only_by_turns (settings : Settings) (requests : List Request) :
    ((Slots.new settings).reached requests).Exclusive ∧
      (Slots.new settings).reached requests =
        .ofConsole ((Console.new settings).reached requests) ∧
      ((Slots.new settings).reached requests).mode =
        ((Console.new settings).reached requests).mode ∧
      KeepsToMode ((Console.new settings).reached requests) := by
  have hslots : (Slots.new settings).reached requests =
      .ofConsole ((Console.new settings).reached requests) :=
    Slots.reached_ofConsole (Console.new settings) requests
  rw [hslots]
  exact ⟨Slots.exclusive_ofConsole _, rfl, Slots.mode_ofConsole _, Console.keepsToMode _⟩

end SerialConsole.Session
