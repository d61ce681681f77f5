import SerialConsole.Monitor.Respond
import SerialConsole.Proofs.Session.Requests

/-!
# Failures leave no trace

A request that fails has done nothing: whatever was wrong was found before the
session changed, and what a failed command may have left on its link is all
there is of it.  A line at the monitor that cannot be read, or whose request
fails, comes to one error shown and nothing else.
-/

namespace SerialConsole.Session

/-- Two consoles that only the outlet of their link can tell apart. -/
structure Untouched (c d : Console) : Prop where
  settings : d.settings = c.settings
  history : d.history = c.history
  selection : d.selection = c.selection
  mode : d.mode = c.mode
  label : d.linkLabel? = c.linkLabel?
  path : d.replayPath? = c.replayPath?
  /-- The feeder is where it was, with all that it has queued. -/
  feeder : d.feeder? = c.feeder?

namespace Untouched

variable (c : Console)

theorem refl : Untouched c c :=
  ⟨rfl, rfl, rfl, rfl, rfl, rfl, rfl⟩

theorem mapOutlet (change : Link.Outlet → Link.Outlet) : Untouched c (c.mapOutlet change) := by
  obtain ⟨settings, history, selection, attachment⟩ := c
  cases attachment <;> exact ⟨rfl, rfl, rfl, rfl, rfl, rfl, rfl⟩

end Untouched

namespace Console

variable (c : Console) {request : Request} {fault : SessionFault}

/-- A lost link is the one fault that is not a refusal, and a command the one
request that may have been at work on the link before it was refused. -/
theorem refused_of_error (hpump : request ≠ .operation .pump)
    (hfault : (c.ask request).result = .error fault) :
    (c.ask request).updates = [] ∧
      ((c.ask request).console = c ∨ ∃ command change, request = .operation (.send command) ∧
        (c.ask request).console = c.mapOutlet change) := by
  have heffect := c.effect_ask request
  generalize c.ask request = outcome at heffect hfault ⊢
  cases heffect with
  | refused request hpump fault => exact ⟨rfl, .inl rfl⟩
  | failed command fault change => exact ⟨rfl, .inr ⟨command, change, rfl, rfl⟩⟩
  | lost link hlink hqueued => exact absurd rfl hpump
  | _ => cases hfault

theorem untouched_of_error (hpump : request ≠ .operation .pump)
    (hfault : (c.ask request).result = .error fault) :
    Untouched c (c.ask request).console := by
  obtain ⟨-, hsame | ⟨command, change, -, hchanged⟩⟩ := c.refused_of_error hpump hfault
  · rw [hsame]
    exact .refl c
  · rw [hchanged]
    exact .mapOutlet c change

theorem console_of_error (hpump : request ≠ .operation .pump)
    (hsend : ∀ command, request ≠ .operation (.send command))
    (hfault : (c.ask request).result = .error fault) : (c.ask request).console = c := by
  obtain ⟨-, hsame | ⟨command, change, hrequest, -⟩⟩ := c.refused_of_error hpump hfault
  · exact hsame
  · exact absurd hrequest (hsend command)

end Console

end SerialConsole.Session

namespace SerialConsole.Monitor

open Session

/-- What a line asks of the session; to quit is not asked of it. -/
def Surroundings.request? (around : Surroundings) (tree : Files.Tree) (target : Target) :
    Line → Option Request
  | .command command => some (.operation (.send command))
  | .directive .save => some (.operation (.save tree around.saving around.now))
  | .directive (.filterCategory category) => some (.operation (.toggleCategory category))
  | .directive (.filterSubsystem subsystem) => some (.operation (.toggleSubsystem subsystem))
  | .directive (.allSubsystems shown) => some (.operation (.setAllSubsystems shown))
  | .directive (.load path) => some (.operation (.load path (tree.read path) around.parting))
  | .directive .close => some (.operation .closeReplay)
  | .directive .connect =>
      some (.operation (.openLink tree target.path target.settings around.outlet))
  | .directive .disconnect => some (.operation (.disconnect around.parting))
  | .directive .quit => none

section Respond

variable {c : Console} {tree : Files.Tree} {around : Surroundings} {target : Target}
variable {line : String}

/-- A response as it follows from a request: the session answers, and a fault is
shown after all else. -/
structure Carried (c : Console) (request : Request) (response : Response) : Prop where
  console : response.console = (c.ask request).console
  fault : ∀ fault, (c.ask request).result = .error fault →
    response.updates = (c.ask request).updates ++ [.error fault.message]
  quit : response.quit = false

theorem error_of_map {α β : Type} {change : α → β} {result : Except SessionFault α}
    {fault : SessionFault} (hmapped : result.map change = .error fault) :
    result = .error fault := by
  cases result with
  | ok value => cases hmapped
  | error other =>
      cases hmapped
      rfl

theorem Carried.ofOutcome {α : Type} {request : Request} (outcome : Outcome α)
    {result : Except SessionFault Unit}
    (hask : c.ask request =
      { result, console := outcome.console, updates := outcome.updates })
    (hresult : ∀ fault, result = .error fault → outcome.result = .error fault)
    (tree : Files.Tree) (closing : List Update) :
    Carried c request (.ofOutcome tree outcome closing) where
  console := by
    rw [hask]
    rfl
  fault fault hfault := by
    rw [hask] at hfault ⊢
    simp only [Response.ofOutcome, hresult fault hfault]
  quit := rfl

/-- A change of the selection cannot fail. -/
theorem Carried.ofUpdates {operation : Operation} (hanswer : c.answer operation = .ok ())
    (tree : Files.Tree) :
    Carried c (.operation operation) (.ofUpdates tree (c.perform operation)) where
  console := rfl
  fault fault hfault := by
    rw [Console.ask, hanswer] at hfault
    cases hfault
  quit := rfl

theorem Carried.save (c : Console) (tree : Files.Tree) (around : Surroundings)
    (target : Target) :
    Carried c (.operation (.save tree around.saving around.now))
      (obey c tree around target .save) where
  console := rfl
  fault fault hfault := by
    simp only [obey, error_of_map hfault]
    rfl
  quit := rfl

/-- A line that can be read is carried out by asking the session. -/
theorem carried_respond {parsed : Line} {request : Request}
    (hparse : Line.parse line = .ok parsed)
    (hrequest : around.request? tree target parsed = some request) :
    Carried c request (respond c tree around target line) := by
  rw [respond, hparse]
  cases parsed with
  | command command =>
      cases hrequest
      exact .ofOutcome (c.send command) (c.ask_send command) (fun _ => error_of_map) tree []
  | directive directive =>
      cases directive with
      | save =>
          cases hrequest
          exact .save c tree around target
      | load path =>
          cases hrequest
          exact .ofOutcome (c.load path (tree.read path) around.parting)
            (c.ask_load path (tree.read path) around.parting) (fun _ => error_of_map) tree []
      | close =>
          cases hrequest
          exact .ofOutcome c.closeReplay rfl (fun _ => id) tree []
      | connect =>
          cases hrequest
          exact .ofOutcome (c.openLink tree target.path target.settings around.outlet) rfl
            (fun _ => id) tree [connectedTo target.path]
      | disconnect =>
          cases hrequest
          exact .ofOutcome (c.disconnect around.parting) rfl (fun _ => id) tree []
      | quit => cases hrequest
      | _ =>
          cases hrequest
          exact .ofUpdates rfl tree

theorem request?_eq_none_iff {parsed : Line} :
    around.request? tree target parsed = none ↔ parsed = .directive .quit := by
  cases parsed with
  | command command => simp [Surroundings.request?]
  | directive directive => cases directive <;> simp [Surroundings.request?]

theorem ne_pump_of_request? {parsed : Line} {request : Request}
    (hrequest : around.request? tree target parsed = some request) :
    request ≠ .operation .pump := by
  rintro rfl
  cases parsed with
  | command command => cases hrequest
  | directive directive => cases directive <;> cases hrequest

theorem quit_respond : (respond c tree around target line).quit = true ↔
    Line.parse line = .ok (.directive .quit) := by
  cases hparse : Line.parse line with
  | error fault =>
      rw [respond, hparse]
      exact ⟨nofun, nofun⟩
  | ok parsed =>
      cases hrequest : around.request? tree target parsed with
      | some request =>
          have hquit := (carried_respond (c := c) hparse hrequest).quit
          constructor
          · intro hquits
            rw [hquit] at hquits
            cases hquits
          · intro hparsed
            rw [request?_eq_none_iff.mpr (Except.ok.inj hparsed)] at hrequest
            cases hrequest
      | none =>
          obtain rfl := request?_eq_none_iff.mp hrequest
          rw [respond, hparse]
          exact ⟨fun _ => rfl, fun _ => rfl⟩

/-- What is shown for a line that fails. -/
inductive FailsWith (c : Console) (tree : Files.Tree) (around : Surroundings) (target : Target)
    (line : String) : String → Prop where
  | unread (fault : LineFault) (hparse : Line.parse line = .error fault) :
      FailsWith c tree around target line fault.message
  | failed (parsed : Line) (request : Request) (fault : SessionFault)
      (hparse : Line.parse line = .ok parsed)
      (hrequest : around.request? tree target parsed = some request)
      (hfault : (c.ask request).result = .error fault) :
      FailsWith c tree around target line fault.message

theorem FailsWith.respond {message : String}
    (hfails : FailsWith c tree around target line message) :
    Untouched c (respond c tree around target line).console ∧
      (respond c tree around target line).updates = [.error message] ∧
      (respond c tree around target line).quit = false := by
  cases hfails with
  | unread fault hparse =>
      rw [Monitor.respond, hparse]
      exact ⟨.refl c, rfl, rfl⟩
  | failed parsed request fault hparse hrequest hfault =>
      have hcarried := carried_respond (c := c) hparse hrequest
      have hpump := ne_pump_of_request? hrequest
      have huntouched := c.untouched_of_error hpump hfault
      refine ⟨hcarried.console ▸ huntouched, ?_, hcarried.quit⟩
      rw [hcarried.fault fault hfault, (c.refused_of_error hpump hfault).1]
      rfl

end Respond

/-- What a console makes of all that fails. -/
structure LeavesNoTrace (c : Console) : Prop where
  asked : ∀ request fault, request ≠ .operation .pump → (c.ask request).result = .error fault →
    Untouched c (c.ask request).console ∧ (c.ask request).updates = []
  /-- What is left on the link by a failed command is the only difference. -/
  same : ∀ request fault, request ≠ .operation .pump →
    (∀ command, request ≠ .operation (.send command)) →
      (c.ask request).result = .error fault → (c.ask request).console = c
  typed : ∀ tree around target line message, FailsWith c tree around target line message →
    Untouched c (respond c tree around target line).console ∧
      (respond c tree around target line).updates = [.error message] ∧
      (respond c tree around target line).quit = false
  quits : ∀ tree around target line, (respond c tree around target line).quit = true ↔
    Line.parse line = .ok (.directive .quit)

/-- Whatever the session is in and whatever goes wrong, a request that fails
shows nothing and leaves all as it was, what is queued included.  A line that
fails shows its error and nothing else, and the monitor goes on: only the
directive to quit ends it. -/
theorem failures_leave_no_trace (c : Console) : LeavesNoTrace c where
  asked _ _ hpump hfault :=
    ⟨c.untouched_of_error hpump hfault, (c.refused_of_error hpump hfault).1⟩
  same _ _ hpump hsend hfault := c.console_of_error hpump hsend hfault
  typed _ _ _ _ _ hfails := hfails.respond
  quits _ _ _ _ := quit_respond

/-- Connecting once more does not take what is queued on the link there is. -/
theorem second_connect_leaves_queue :
    let c := ((Console.new {}).connect "dev" Link.Outlet.open_).console.mapFeeder
      fun f => { f with queue := [.record .strayEnd] }
    let around : Surroundings :=
      { now := ⟨2024, 3, 9, 14, 5, 7, by decide, by decide, by decide⟩,
        saving := .undisturbed, parting := .prompt, outlet := .open_ }
    let response := respond c .empty around ⟨"dev", {}⟩ " :connect "
    response.updates = [.error "already connected to dev"] ∧
      response.console.queued = [.record .strayEnd] ∧ response.console.mode = .live := by
  intro c around response
  have hfails : FailsWith c .empty around ⟨"dev", {}⟩ " :connect "
      (SessionFault.alreadyConnected "dev").message :=
    .failed (.directive .connect) _ _ rfl rfl rfl
  obtain ⟨huntouched, hupdates, -⟩ := (failures_leave_no_trace c).typed _ _ _ _ _ hfails
  exact ⟨hupdates, by rw [Console.queued, huntouched.feeder]; rfl, huntouched.mode⟩

end SerialConsole.Monitor
