import SerialConsole.Link.Outlet
import SerialConsole.Proofs.Wire.Commands

/-!
# The calls behind a send

A send is a row of writes and flushes.  Each write offers all that has not been
accepted yet, and a flush comes only when nothing is left.  The row goes on past
every call that has accepted something or is simply tried again; the first call
that does neither is its last, and decides how the send ends.
-/

namespace SerialConsole.Link

open Wire

/-- A write or a flush of an outlet, and how it turned out. -/
inductive Call where
  | write (offered : List Byte) (outcome : Except Fault Nat)
  | flush (outcome : Except Fault Unit)

namespace Call

/-- What the call has put on the wire. -/
def accepted : Call → List Byte
  | write offered (.ok count) => offered.take count
  | write _ (.error _) | flush _ => []

/-- Whether another call comes after this one. -/
def goesOn : Call → Bool
  | write _ (.ok count) => count != 0
  | write _ (.error fault) | flush (.error fault) => fault.isTransient
  | flush (.ok ()) => false

/-- How a send ends whose last call this is. -/
def verdict : Call → Except WireFault Unit
  | write _ (.ok _) => .error .closedWhileWriting
  | write _ (.error fault) | flush (.error fault) => .error (.failed fault)
  | flush (.ok ()) => .ok ()

theorem accepted_of_not_goesOn {call : Call} (hlast : call.goesOn = false) :
    call.accepted = [] := by
  cases call with
  | flush outcome => rfl
  | write offered outcome =>
      cases outcome with
      | error fault => rfl
      | ok count =>
          have hnone : count = 0 := bne_eq_false_iff_eq.mp hlast
          rw [accepted, hnone, List.take_zero]

end Call

def acceptedIn (calls : List Call) : List Byte :=
  calls.flatMap Call.accepted

/-- These calls, one after the other, take the first outlet to the second. -/
inductive Outlet.Made : Outlet → List Call → Outlet → Prop where
  | none (outlet : Outlet) : Made outlet [] outlet
  | write {outlet next last : Outlet} {offered : List Byte} {outcome : Except Fault Nat}
      {calls : List Call} (hwrite : outlet.write offered = (outcome, next))
      (hlater : Made next calls last) : Made outlet (.write offered outcome :: calls) last
  | flush {outlet next last : Outlet} {outcome : Except Fault Unit} {calls : List Call}
      (hflush : outlet.tryFlush = (outcome, next)) (hlater : Made next calls last) :
      Made outlet (.flush outcome :: calls) last

/-- Calls that send these bytes: `left` is what they leave over. -/
inductive Offers : (bytes : List Byte) → List Call → (left : List Byte) → Prop where
  | done (bytes : List Byte) : Offers bytes [] bytes
  | write {offered rest left : List Byte} {outcome : Except Fault Nat} {calls : List Call}
      (hoffered : offered ≠ []) (hrest : offered = (Call.write offered outcome).accepted ++ rest)
      (hlater : Offers rest calls left) : Offers offered (.write offered outcome :: calls) left
  | flush {left : List Byte} {outcome : Except Fault Unit} {calls : List Call}
      (hlater : Offers [] calls left) : Offers [] (.flush outcome :: calls) left

/-- Calls that send these bytes and go on, and the one that ends them. -/
structure Decided (bytes : List Byte) (before : List Call) (last : Call) (left : List Byte) :
    Prop where
  offers : Offers bytes (before ++ [last]) left
  goesOn : ∀ call ∈ before, call.goesOn = true
  decides : last.goesOn = false

/-! ### What calls do to an outlet -/

namespace Outlet

variable {outlet after : Outlet} {bytes : List Byte}

theorem wire_write_ok {accepted : Nat} (hwrite : outlet.write bytes = (.ok accepted, after)) :
    after.wire = outlet.wire ++ bytes.take accepted := by
  unfold write at hwrite
  split at hwrite
  · cases hwrite
  · rename_i limit rest hwrites
    cases hwrite
    rw [← List.take_eq_take_min]
  · split at hwrite
    · cases hwrite
    · cases hwrite
      rw [List.take_length]

theorem wire_write_error {fault : Fault} (hwrite : outlet.write bytes = (.error fault, after)) :
    after.wire = outlet.wire := by
  unfold write at hwrite
  split at hwrite
  · cases hwrite
    rfl
  · cases hwrite
  · split at hwrite
    · cases hwrite
      rfl
    · cases hwrite

theorem wire_write {outcome : Except Fault Nat} (hwrite : outlet.write bytes = (outcome, after)) :
    after.wire = outlet.wire ++ (Call.write bytes outcome).accepted := by
  cases outcome with
  | ok accepted => exact wire_write_ok hwrite
  | error fault => rw [wire_write_error hwrite, Call.accepted, List.append_nil]

theorem wire_tryFlush {outcome : Except Fault Unit} (hflush : outlet.tryFlush = (outcome, after)) :
    after.wire = outlet.wire := by
  unfold tryFlush at hflush
  split at hflush
  all_goals
    cases hflush
    rfl

theorem calls_write {outcome : Except Fault Nat} (hwrite : outlet.write bytes = (outcome, after)) :
    after.calls = outlet.calls + 1 := by
  unfold write at hwrite
  split at hwrite
  · cases hwrite
    rfl
  · cases hwrite
    rfl
  · split at hwrite
    all_goals
      cases hwrite
      rfl

theorem calls_tryFlush {outcome : Except Fault Unit}
    (hflush : outlet.tryFlush = (outcome, after)) : after.calls = outlet.calls + 1 := by
  unfold tryFlush at hflush
  split at hflush
  all_goals
    cases hflush
    rfl

theorem accepted_le {accepted : Nat} (hwrite : outlet.write bytes = (.ok accepted, after)) :
    accepted ≤ bytes.length := by
  unfold write at hwrite
  split at hwrite
  · cases hwrite
  · cases hwrite
    exact Nat.min_le_right _ _
  · split at hwrite
    · cases hwrite
    · cases hwrite
      exact Nat.le_refl bytes.length

namespace Made

variable {calls later : List Call} {next : Outlet}

theorem append (hmade : outlet.Made calls next) (hlater : next.Made later after) :
    outlet.Made (calls ++ later) after := by
  induction hmade with
  | none outlet => exact hlater
  | write hwrite _ ih => exact .write hwrite (ih hlater)
  | flush hflush _ ih => exact .flush hflush (ih hlater)

theorem exists_between (hmade : outlet.Made (calls ++ later) after) :
    ∃ next, outlet.Made calls next ∧ next.Made later after := by
  induction calls generalizing outlet with
  | nil => exact ⟨outlet, .none outlet, hmade⟩
  | cons call calls ih =>
      rw [List.cons_append] at hmade
      cases hmade with
      | write hwrite hnext =>
          obtain ⟨next, hhere, hthere⟩ := ih hnext
          exact ⟨next, .write hwrite hhere, hthere⟩
      | flush hflush hnext =>
          obtain ⟨next, hhere, hthere⟩ := ih hnext
          exact ⟨next, .flush hflush hhere, hthere⟩

theorem wire (hmade : outlet.Made calls after) : after.wire = outlet.wire ++ acceptedIn calls := by
  induction hmade with
  | none outlet => exact (List.append_nil outlet.wire).symm
  | @write outlet next last offered outcome calls hwrite _ ih =>
      calc
        last.wire = next.wire ++ acceptedIn calls := ih
        _ = outlet.wire ++ (Call.write offered outcome).accepted ++ acceptedIn calls := by
          rw [wire_write hwrite]
        _ = outlet.wire ++ acceptedIn (.write offered outcome :: calls) :=
          List.append_assoc outlet.wire _ _
  | @flush outlet next last outcome calls hflush _ ih =>
      calc
        last.wire = next.wire ++ acceptedIn calls := ih
        _ = outlet.wire ++ acceptedIn (.flush outcome :: calls) := by
          rw [wire_tryFlush hflush]
          rfl

theorem calls_eq (hmade : outlet.Made calls after) :
    after.calls = outlet.calls + calls.length := by
  induction hmade with
  | none outlet => rfl
  | write hwrite _ ih =>
      rw [ih, calls_write hwrite, List.length_cons]
      omega
  | flush hflush _ ih =>
      rw [ih, calls_tryFlush hflush, List.length_cons]
      omega

end Made

end Outlet

/-! ### What calls offer -/

namespace Offers

variable {bytes left : List Byte} {before later : List Call}

theorem eq_append {calls : List Call} (hoffers : Offers bytes calls left) :
    bytes = acceptedIn calls ++ left := by
  induction hoffers with
  | done bytes => rfl
  | @write offered rest left outcome calls hoffered hrest _ ih =>
      calc
        offered = (Call.write offered outcome).accepted ++ rest := hrest
        _ = (Call.write offered outcome).accepted ++ (acceptedIn calls ++ left) := by rw [← ih]
        _ = acceptedIn (.write offered outcome :: calls) ++ left :=
          (List.append_assoc _ (acceptedIn calls) left).symm
  | flush _ ih => exact ih

theorem append {rest : List Byte} (hbefore : Offers bytes before rest)
    (hlater : Offers rest later left) : Offers bytes (before ++ later) left := by
  induction hbefore with
  | done bytes => exact hlater
  | write hoffered hrest _ ih => exact .write hoffered hrest (ih hlater)
  | flush _ ih => exact .flush (ih hlater)

theorem exists_between (hoffers : Offers bytes (before ++ later) left) :
    ∃ rest, Offers bytes before rest ∧ Offers rest later left := by
  induction before generalizing bytes with
  | nil => exact ⟨bytes, .done bytes, hoffers⟩
  | cons call before ih =>
      rw [List.cons_append] at hoffers
      cases hoffers with
      | write hoffered hrest hnext =>
          obtain ⟨rest, hhere, hthere⟩ := ih hnext
          exact ⟨rest, .write hoffered hrest hhere, hthere⟩
      | flush hnext =>
          obtain ⟨rest, hhere, hthere⟩ := ih hnext
          exact ⟨rest, .flush hhere, hthere⟩

/-- Every write offers what the calls before it have left, and that is something. -/
theorem offered {offered : List Byte} {outcome : Except Fault Nat}
    (hoffers : Offers bytes (before ++ .write offered outcome :: later) left) :
    acceptedIn before ++ offered = bytes ∧ offered ≠ [] := by
  obtain ⟨rest, hbefore, hnext⟩ := hoffers.exists_between
  cases hnext with
  | write hoffered _ _ => exact ⟨hbefore.eq_append.symm, hoffered⟩

/-- A flush comes when all has been accepted. -/
theorem flushed {outcome : Except Fault Unit}
    (hoffers : Offers bytes (before ++ .flush outcome :: later) left) :
    acceptedIn before = bytes := by
  obtain ⟨rest, hbefore, hnext⟩ := hoffers.exists_between
  cases hnext with
  | flush _ => rw [hbefore.eq_append, List.append_nil]

end Offers

/-! ### The loops -/

namespace Outlet

variable {outlet after : Outlet} {bytes : List Byte}

theorem writeAll_nil (outlet : Outlet) : outlet.writeAll [] = (.ok (), outlet) := by
  rw [writeAll, dif_pos rfl]

theorem writeAll_of_accepted {accepted : Nat} (hbytes : bytes ≠ [])
    (hwrite : outlet.write bytes = (.ok accepted, after)) :
    outlet.writeAll bytes =
      if accepted = 0 then (.error .closedWhileWriting, after)
      else after.writeAll (bytes.drop accepted) := by
  rw [writeAll, dif_neg hbytes]
  split
  · rename_i hthis
    cases hwrite.symm.trans hthis
    rfl
  · rename_i hthis
    cases hwrite.symm.trans hthis

theorem writeAll_of_failed {fault : Fault} (hbytes : bytes ≠ [])
    (hwrite : outlet.write bytes = (.error fault, after)) :
    outlet.writeAll bytes =
      if fault.isTransient then after.writeAll bytes else (.error (.failed fault), after) := by
  rw [writeAll, dif_neg hbytes]
  split
  · rename_i hthis
    cases hwrite.symm.trans hthis
  · rename_i hthis
    cases hwrite.symm.trans hthis
    rfl

theorem flush_of_done (hflush : outlet.tryFlush = (.ok (), after)) :
    outlet.flush = (.ok (), after) := by
  rw [flush]
  split
  · rename_i hthis
    cases hflush.symm.trans hthis
    rfl
  · rename_i hthis
    cases hflush.symm.trans hthis

theorem flush_of_failed {fault : Fault} (hflush : outlet.tryFlush = (.error fault, after)) :
    outlet.flush =
      if fault.isTransient then after.flush else (.error (.failed fault), after) := by
  rw [flush]
  split
  · rename_i hthis
    cases hflush.symm.trans hthis
  · rename_i hthis
    cases hflush.symm.trans hthis
    rfl

end Outlet

/-- All that a write loop can come to. -/
inductive Writing (outlet : Outlet) (bytes : List Byte) :
    Except WireFault Unit × Outlet → Prop where
  | whole (calls : List Call) (after : Outlet) (hmade : outlet.Made calls after)
      (hoffers : Offers bytes calls []) (hgoesOn : ∀ call ∈ calls, call.goesOn = true) :
      Writing outlet bytes (.ok (), after)
  /-- A write has failed, or was accepted with no bytes. -/
  | cut (before : List Call) (left : List Byte) (outcome : Except Fault Nat) (after : Outlet)
      (hmade : outlet.Made (before ++ [.write left outcome]) after)
      (hdecided : Decided bytes before (.write left outcome) left) :
      Writing outlet bytes ((Call.write left outcome).verdict, after)

theorem Decided.cons {bytes rest left : List Byte} {outcome : Except Fault Nat}
    {before : List Call} {last : Call} (hbytes : bytes ≠ [])
    (hrest : bytes = (Call.write bytes outcome).accepted ++ rest)
    (hgoesOn : (Call.write bytes outcome).goesOn = true) (hlater : Decided rest before last left) :
    Decided bytes (.write bytes outcome :: before) last left where
  offers := .write hbytes hrest hlater.offers
  goesOn := List.forall_mem_cons.mpr ⟨hgoesOn, hlater.goesOn⟩
  decides := hlater.decides

theorem Writing.cons {outlet next : Outlet} {bytes rest : List Byte} {outcome : Except Fault Nat}
    {ended : Except WireFault Unit × Outlet} (hbytes : bytes ≠ [])
    (hwrite : outlet.write bytes = (outcome, next))
    (hrest : bytes = (Call.write bytes outcome).accepted ++ rest)
    (hgoesOn : (Call.write bytes outcome).goesOn = true) (hlater : Writing next rest ended) :
    Writing outlet bytes ended := by
  cases hlater with
  | whole calls after hmade hoffers hgoes =>
      exact .whole (.write bytes outcome :: calls) after (.write hwrite hmade)
        (.write hbytes hrest hoffers) (List.forall_mem_cons.mpr ⟨hgoesOn, hgoes⟩)
  | cut before left later after hmade hdecided =>
      exact .cut (.write bytes outcome :: before) left later after (.write hwrite hmade)
        (hdecided.cons hbytes hrest hgoesOn)

/-- A call that does not go on is the last. -/
theorem Decided.eq_last {bytes left : List Byte} {before : List Call} {last call : Call}
    (hdecided : Decided bytes before last left) (hcall : call ∈ before ++ [last])
    (hends : call.goesOn = false) : call = last := by
  rcases List.mem_append.mp hcall with hbefore | hlast
  · rw [hdecided.goesOn call hbefore] at hends
    cases hends
  · exact List.mem_singleton.mp hlast

theorem Decided.acceptedIn_eq {bytes left : List Byte} {before : List Call} {last : Call}
    (hdecided : Decided bytes before last left) :
    acceptedIn (before ++ [last]) = acceptedIn before := by
  calc
    acceptedIn (before ++ [last]) = acceptedIn before ++ last.accepted := by
      rw [acceptedIn, List.flatMap_append, List.flatMap_singleton, acceptedIn]
    _ = acceptedIn before := by
      rw [Call.accepted_of_not_goesOn hdecided.decides, List.append_nil]

namespace Outlet

theorem writing_writeAll (outlet : Outlet) (bytes : List Byte) :
    Writing outlet bytes (outlet.writeAll bytes) := by
  fun_induction writeAll outlet bytes with
  | case1 outlet => exact .whole [] outlet (.none outlet) (.done []) (List.forall_mem_nil _)
  | case2 outlet bytes hbytes after hwrite =>
      refine .cut [] bytes (.ok 0) after (.write hwrite (.none after)) ?_
      exact
        { offers := .write hbytes rfl (.done bytes)
          goesOn := List.forall_mem_nil _
          decides := rfl }
  | case3 outlet bytes hbytes accepted after hwrite hsome ih =>
      have hrest : bytes = (Call.write bytes (.ok accepted)).accepted ++ bytes.drop accepted :=
        (List.take_append_drop accepted bytes).symm
      exact ih.cons hbytes hwrite hrest (bne_iff_ne.mpr hsome)
  | case4 outlet bytes hbytes fault after hwrite htransient ih =>
      exact ih.cons hbytes hwrite rfl htransient
  | case5 outlet bytes hbytes fault after hwrite htransient =>
      refine .cut [] bytes (.error fault) after (.write hwrite (.none after)) ?_
      exact
        { offers := .write hbytes rfl (.done bytes)
          goesOn := List.forall_mem_nil _
          decides := Bool.eq_false_iff.mpr htransient }

theorem exists_calls_flush (outlet : Outlet) :
    ∃ before outcome, outlet.Made (before ++ [.flush outcome]) outlet.flush.2 ∧
      Decided [] before (.flush outcome) [] ∧
      outlet.flush.1 = (Call.flush outcome).verdict := by
  fun_induction flush outlet with
  | case1 outlet after hflush =>
      refine ⟨[], .ok (), .flush hflush (.none after), ?_, rfl⟩
      exact
        { offers := .flush (.done [])
          goesOn := List.forall_mem_nil _
          decides := rfl }
  | case2 outlet fault after hflush htransient ih =>
      obtain ⟨before, outcome, hmade, hdecided, hresult⟩ := ih
      refine ⟨.flush (.error fault) :: before, outcome, .flush hflush hmade, ?_, hresult⟩
      exact
        { offers := .flush hdecided.offers
          goesOn := List.forall_mem_cons.mpr ⟨htransient, hdecided.goesOn⟩
          decides := hdecided.decides }
  | case3 outlet fault after hflush htransient =>
      refine ⟨[], .error fault, .flush hflush (.none after), ?_, rfl⟩
      exact
        { offers := .flush (.done [])
          goesOn := List.forall_mem_nil _
          decides := Bool.eq_false_iff.mpr htransient }

/-- The calls made for a command, and how the last of them decides the send. -/
theorem exists_calls_send (outlet : Outlet) {command : String}
    (hencoded : encodeCommand command = .ok (commandLine command)) :
    ∃ before last left, outlet.Made (before ++ [last]) (outlet.send command).2 ∧
      Decided (commandLine command) before last left ∧
      (outlet.send command).1 = last.verdict.map fun _ => (commandLine command).length := by
  have hwriting := outlet.writing_writeAll (commandLine command)
  simp only [send, hencoded]
  generalize outlet.writeAll (commandLine command) = written at hwriting ⊢
  cases hwriting with
  | cut before left outcome after hmade hdecided =>
      refine ⟨before, .write left outcome, left, ?_, hdecided, ?_⟩
      · cases outcome <;> exact hmade
      · cases outcome <;> rfl
  | whole calls after hmade hoffers hgoesOn =>
      obtain ⟨before, outcome, hflushes, hdecided, hresult⟩ := after.exists_calls_flush
      refine ⟨calls ++ before, .flush outcome, [], ?_, ?_, ?_⟩
      · dsimp only
        rw [List.append_assoc]
        generalize after.flush = flushed at hflushes ⊢
        obtain ⟨result, last⟩ := flushed
        cases result <;> exact hmade.append hflushes
      · exact
          { offers := by
              rw [List.append_assoc]
              exact hoffers.append hdecided.offers
            goesOn := List.forall_mem_append.mpr ⟨hgoesOn, hdecided.goesOn⟩
            decides := hdecided.decides }
      · rw [← hresult]
        dsimp only
        generalize after.flush = flushed
        obtain ⟨result, last⟩ := flushed
        cases result <;> rfl

/-! ### How many calls there can be -/

/-- A write after which the loop goes on uses up an outcome, or has put all on the
wire. -/
theorem length_writes_of_goesOn {outlet next : Outlet} {bytes : List Byte}
    {outcome : Except Fault Nat} (hwrite : outlet.write bytes = (outcome, next))
    (hgoesOn : (Call.write bytes outcome).goesOn = true) :
    next.flushes = outlet.flushes ∧
      (next.writes.length + 1 = outlet.writes.length ∨
        next.writes.length = outlet.writes.length ∧
          (Call.write bytes outcome).accepted = bytes) := by
  unfold write at hwrite
  split at hwrite
  · rename_i fault rest hwrites
    cases hwrite
    exact ⟨rfl, .inl (by rw [hwrites]; rfl)⟩
  · rename_i limit rest hwrites
    cases hwrite
    exact ⟨rfl, .inl (by rw [hwrites]; rfl)⟩
  · split at hwrite
    · cases hwrite
      cases hgoesOn
    · cases hwrite
      exact ⟨rfl, .inr ⟨rfl, List.take_length⟩⟩

theorem length_flushes_of_goesOn {outlet next : Outlet} {outcome : Except Fault Unit}
    (hflush : outlet.tryFlush = (outcome, next)) (hgoesOn : (Call.flush outcome).goesOn = true) :
    next.writes = outlet.writes ∧ next.flushes.length + 1 = outlet.flushes.length := by
  unfold tryFlush at hflush
  split at hflush
  · cases hflush
    cases hgoesOn
  · cases hflush
    cases hgoesOn
  · rename_i fault rest hflushes
    cases hflush
    exact ⟨rfl, by rw [hflushes]; rfl⟩

/-- Calls that go on use up the outlet's outcomes, but for one write that all is
accepted of. -/
theorem Made.length_le {outlet after : Outlet} {calls : List Call} {bytes left : List Byte}
    (hmade : outlet.Made calls after) (hoffers : Offers bytes calls left)
    (hgoesOn : ∀ call ∈ calls, call.goesOn = true) :
    calls.length + after.writes.length + after.flushes.length ≤
      outlet.writes.length + outlet.flushes.length + min 1 bytes.length := by
  induction hmade generalizing bytes with
  | none outlet =>
      rw [List.length_nil]
      omega
  | write hwrite _ ih =>
      obtain ⟨hhere, hthere⟩ := List.forall_mem_cons.mp hgoesOn
      cases hoffers with
      | @write _ rest _ _ _ hoffered hrest hnext =>
          have hlater := ih hnext hthere
          have hpositive := List.length_pos_iff.mpr hoffered
          obtain ⟨hflushes, hused | ⟨hkept, hall⟩⟩ := length_writes_of_goesOn hwrite hhere
          · rw [hflushes] at hlater
            rw [List.length_cons]
            omega
          · have hnone : rest = [] := by
              rw [hall] at hrest
              exact List.append_right_eq_self.mp hrest.symm
            rw [hflushes, hnone, List.length_nil] at hlater
            rw [List.length_cons]
            omega
  | flush hflush _ ih =>
      obtain ⟨hhere, hthere⟩ := List.forall_mem_cons.mp hgoesOn
      cases hoffers with
      | flush hnext =>
          have hlater := ih hnext hthere
          obtain ⟨hwrites, hused⟩ := length_flushes_of_goesOn hflush hhere
          rw [hwrites] at hlater
          rw [List.length_cons]
          omega

end Outlet

end SerialConsole.Link
