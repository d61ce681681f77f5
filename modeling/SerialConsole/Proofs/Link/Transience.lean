import SerialConsole.Proofs.Link.Calls
import SerialConsole.Proofs.Link.SentLines

/-!
# Transient faults leave no trace

A transient fault has its write or flush made again, with the same bytes.  So
what commands come to depends only on the outcomes that are not transient, and
on none of what is on the wire already: outlets that are alike in this send
commands with the same results, and each send adds the same to the wire.
-/

namespace SerialConsole.Link

open Wire

/-- Whether a write that turns out like this is not just made again. -/
def WriteOutcome.lasts : WriteOutcome → Bool
  | accept _ => true
  | fail fault => !fault.isTransient

def flushLasts : Option Fault → Bool
  | none => true
  | some fault => !fault.isTransient

namespace Outlet

/-- How the next writes turn out, but for transient faults. -/
def lastingWrites (outlet : Outlet) : List WriteOutcome :=
  outlet.writes.filter WriteOutcome.lasts

def lastingFlushes (outlet : Outlet) : List (Option Fault) :=
  outlet.flushes.filter flushLasts

/-- The same is still to come, transient faults apart. -/
structure Alike (outlet other : Outlet) : Prop where
  writes : outlet.lastingWrites = other.lastingWrites
  flushes : outlet.lastingFlushes = other.lastingFlushes
  broken : outlet.broken = other.broken

/-- The second outlet is what the first would be without transient faults. -/
structure Steadied (outlet steady : Outlet) : Prop where
  writes : steady.writes = outlet.lastingWrites
  flushes : steady.flushes = outlet.lastingFlushes
  broken : steady.broken = outlet.broken

/-- Two outlets have come to the same end, and added the same to the wire. -/
structure EndsAlike {α : Type} (outlet steady : Outlet)
    (ended steadyEnded : Except WireFault α × Outlet) : Prop where
  result : steadyEnded.1 = ended.1
  steadied : Steadied ended.2 steadyEnded.2
  accepted : ∃ bytes, ended.2.wire = outlet.wire ++ bytes ∧
    steadyEnded.2.wire = steady.wire ++ bytes

theorem Alike.exists_steady {outlet other : Outlet} (halike : Alike outlet other) :
    ∃ steady, Steadied outlet steady ∧ Steadied other steady :=
  ⟨{ outlet with writes := outlet.lastingWrites, flushes := outlet.lastingFlushes },
    { writes := rfl, flushes := rfl, broken := rfl },
    { writes := halike.writes, flushes := halike.flushes, broken := halike.broken }⟩

namespace Steadied

variable {outlet after steady : Outlet} {bytes : List Byte} {fault : Fault}

/-! ### One call -/

theorem write_transient (hsteady : Steadied outlet steady)
    (hwrite : outlet.write bytes = (.error fault, after)) (htransient : fault.isTransient = true) :
    Steadied after steady := by
  unfold write at hwrite
  split at hwrite
  · rename_i rest hwrites
    cases hwrite
    have hdropped : ¬(WriteOutcome.fail fault).lasts = true := by
      rw [WriteOutcome.lasts, htransient]
      decide
    have hlasting : outlet.lastingWrites = rest.filter WriteOutcome.lasts := by
      rw [lastingWrites, hwrites, List.filter_cons_of_neg hdropped]
    exact ⟨hsteady.writes.trans hlasting, hsteady.flushes, hsteady.broken⟩
  · cases hwrite
  · split at hwrite
    · cases hwrite
      cases htransient
    · cases hwrite

theorem exists_write {outcome : Except Fault Nat} (hsteady : Steadied outlet steady)
    (hwrite : outlet.write bytes = (outcome, after))
    (hlasting : ∀ fault, outcome = .error fault → fault.isTransient = false) :
    ∃ next, steady.write bytes = (outcome, next) ∧ Steadied after next := by
  have hwrites := hsteady.writes
  unfold write at hwrite
  split at hwrite
  · rename_i fault rest houtcomes
    cases hwrite
    have hkept : (WriteOutcome.fail fault).lasts = true := by
      rw [WriteOutcome.lasts, hlasting fault rfl]
      rfl
    rw [lastingWrites, houtcomes, List.filter_cons_of_pos hkept] at hwrites
    refine ⟨{ steady.counted with writes := rest.filter WriteOutcome.lasts }, ?_, ?_⟩
    · simp only [Outlet.write, hwrites]
    · exact ⟨rfl, hsteady.flushes, hsteady.broken⟩
  · rename_i limit rest houtcomes
    cases hwrite
    rw [lastingWrites, houtcomes, List.filter_cons_of_pos rfl] at hwrites
    refine ⟨{ steady.counted with
      writes := rest.filter WriteOutcome.lasts
      wire := steady.wire ++ bytes.take limit }, ?_, ?_⟩
    · simp only [Outlet.write, hwrites]
    · exact ⟨rfl, hsteady.flushes, hsteady.broken⟩
  · rename_i houtcomes
    rw [lastingWrites, houtcomes, List.filter_nil] at hwrites
    split at hwrite
    · rename_i hbroken
      cases hwrite
      refine ⟨steady.counted, ?_, ?_⟩
      · simp only [Outlet.write, hwrites, hsteady.broken, hbroken, if_true]
      · exact ⟨hsteady.writes, hsteady.flushes, hsteady.broken⟩
    · rename_i hbroken
      cases hwrite
      refine ⟨{ steady.counted with wire := steady.wire ++ bytes }, ?_, ?_⟩
      · simp only [Outlet.write, hwrites, hsteady.broken, hbroken, Bool.false_eq_true, if_false]
      · exact ⟨hsteady.writes, hsteady.flushes, hsteady.broken⟩

theorem tryFlush_transient (hsteady : Steadied outlet steady)
    (hflush : outlet.tryFlush = (.error fault, after)) (htransient : fault.isTransient = true) :
    Steadied after steady := by
  unfold tryFlush at hflush
  split at hflush
  · cases hflush
  · cases hflush
  · rename_i rest hflushes
    cases hflush
    have hdropped : ¬flushLasts (some fault) = true := by
      rw [flushLasts, htransient]
      decide
    have hlasting : outlet.lastingFlushes = rest.filter flushLasts := by
      rw [lastingFlushes, hflushes, List.filter_cons_of_neg hdropped]
    exact ⟨hsteady.writes, hsteady.flushes.trans hlasting, hsteady.broken⟩

theorem exists_tryFlush {outcome : Except Fault Unit} (hsteady : Steadied outlet steady)
    (hflush : outlet.tryFlush = (outcome, after))
    (hlasting : ∀ fault, outcome = .error fault → fault.isTransient = false) :
    ∃ next, steady.tryFlush = (outcome, next) ∧ Steadied after next := by
  have hflushes := hsteady.flushes
  unfold tryFlush at hflush
  split at hflush
  · rename_i houtcomes
    cases hflush
    rw [lastingFlushes, houtcomes, List.filter_nil] at hflushes
    refine ⟨steady.counted, ?_, ?_⟩
    · simp only [Outlet.tryFlush, hflushes]
    · exact ⟨hsteady.writes, hsteady.flushes, hsteady.broken⟩
  · rename_i rest houtcomes
    cases hflush
    rw [lastingFlushes, houtcomes, List.filter_cons_of_pos rfl] at hflushes
    refine ⟨{ steady.counted with flushes := rest.filter flushLasts }, ?_, ?_⟩
    · simp only [Outlet.tryFlush, hflushes]
    · exact ⟨hsteady.writes, rfl, hsteady.broken⟩
  · rename_i fault rest houtcomes
    cases hflush
    have hkept : flushLasts (some fault) = true := by
      rw [flushLasts, hlasting fault rfl]
      rfl
    rw [lastingFlushes, houtcomes, List.filter_cons_of_pos hkept] at hflushes
    refine ⟨{ steady.counted with flushes := rest.filter flushLasts }, ?_, ?_⟩
    · simp only [Outlet.tryFlush, hflushes]
    · exact ⟨hsteady.writes, rfl, hsteady.broken⟩

end Steadied

/-! ### Whole sends -/

namespace EndsAlike

variable {outlet next last steady steadyNext steadyLast : Outlet}

theorem stay {α : Type} (hsteady : Steadied outlet steady) (result : Except WireFault α) :
    EndsAlike outlet steady (result, outlet) (result, steady) where
  result := rfl
  steadied := hsteady
  accepted := ⟨[], (List.append_nil _).symm, (List.append_nil _).symm⟩

/-- What comes first adds the same to the wire, and so does what follows. -/
theorem after {α : Type} {ended steadyEnded : Except WireFault α × Outlet} {bytes : List Byte}
    (hlater : EndsAlike next steadyNext ended steadyEnded)
    (hwire : next.wire = outlet.wire ++ bytes)
    (hsteadyWire : steadyNext.wire = steady.wire ++ bytes) :
    EndsAlike outlet steady ended steadyEnded where
  result := hlater.result
  steadied := hlater.steadied
  accepted := by
    obtain ⟨later, hended, hsteadyEnded⟩ := hlater.accepted
    refine ⟨bytes ++ later, ?_, ?_⟩
    · rw [hended, hwire, List.append_assoc]
    · rw [hsteadyEnded, hsteadyWire, List.append_assoc]

theorem flushed {α : Type} {ended steadyEnded : Except WireFault α × Outlet}
    (hlater : EndsAlike next steadyNext ended steadyEnded) (hwire : next.wire = outlet.wire)
    (hsteadyWire : steadyNext.wire = steady.wire) : EndsAlike outlet steady ended steadyEnded := by
  apply hlater.after
  · rw [hwire, List.append_nil]
  · rw [hsteadyWire, List.append_nil]

end EndsAlike

theorem endsAlike_writeAll {outlet steady : Outlet} (hsteady : Steadied outlet steady)
    (bytes : List Byte) :
    EndsAlike outlet steady (outlet.writeAll bytes) (steady.writeAll bytes) := by
  fun_induction writeAll outlet bytes generalizing steady with
  | case1 outlet =>
      rw [writeAll_nil]
      exact .stay hsteady (.ok ())
  | case2 outlet bytes hbytes after hwrite =>
      obtain ⟨next, hnext, hafter⟩ := hsteady.exists_write hwrite (by rintro fault ⟨⟩)
      rw [writeAll_of_accepted hbytes hnext, if_pos rfl]
      exact (EndsAlike.stay hafter _).after (wire_write hwrite) (wire_write hnext)
  | case3 outlet bytes hbytes accepted after hwrite hsome ih =>
      obtain ⟨next, hnext, hafter⟩ := hsteady.exists_write hwrite (by rintro fault ⟨⟩)
      rw [writeAll_of_accepted hbytes hnext, if_neg hsome]
      exact (ih hafter).after (wire_write hwrite) (wire_write hnext)
  | case4 outlet bytes hbytes fault after hwrite htransient ih =>
      have hafter := hsteady.write_transient hwrite htransient
      apply (ih hafter).after
      · exact wire_write hwrite
      · exact (List.append_nil steady.wire).symm
  | case5 outlet bytes hbytes fault after hwrite htransient =>
      obtain ⟨next, hnext, hafter⟩ := hsteady.exists_write hwrite (by
        rintro _ ⟨⟩
        exact Bool.eq_false_iff.mpr htransient)
      rw [writeAll_of_failed hbytes hnext, if_neg htransient]
      exact (EndsAlike.stay hafter _).after (wire_write hwrite) (wire_write hnext)

theorem endsAlike_flush {outlet steady : Outlet} (hsteady : Steadied outlet steady) :
    EndsAlike outlet steady outlet.flush steady.flush := by
  fun_induction flush outlet generalizing steady with
  | case1 outlet after hflush =>
      obtain ⟨next, hnext, hafter⟩ := hsteady.exists_tryFlush hflush (by rintro fault ⟨⟩)
      rw [flush_of_done hnext]
      exact (EndsAlike.stay hafter _).flushed (wire_tryFlush hflush) (wire_tryFlush hnext)
  | case2 outlet fault after hflush htransient ih =>
      have hafter := hsteady.tryFlush_transient hflush htransient
      exact (ih hafter).flushed (wire_tryFlush hflush) rfl
  | case3 outlet fault after hflush htransient =>
      obtain ⟨next, hnext, hafter⟩ := hsteady.exists_tryFlush hflush (by
        rintro _ ⟨⟩
        exact Bool.eq_false_iff.mpr htransient)
      rw [flush_of_failed hnext, if_neg htransient]
      exact (EndsAlike.stay hafter _).flushed (wire_tryFlush hflush) (wire_tryFlush hnext)

theorem endsAlike_send {outlet steady : Outlet} (hsteady : Steadied outlet steady)
    (command : String) :
    EndsAlike outlet steady (outlet.send command) (steady.send command) := by
  cases hencoded : encodeCommand command with
  | error offset =>
      simp only [send, hencoded]
      exact .stay hsteady _
  | ok bytes =>
      have hwritten := endsAlike_writeAll hsteady bytes
      simp only [send, hencoded]
      generalize outlet.writeAll bytes = written at hwritten ⊢
      generalize steady.writeAll bytes = steadyWritten at hwritten ⊢
      obtain ⟨result, after⟩ := written
      obtain ⟨steadyResult, next⟩ := steadyWritten
      obtain rfl : steadyResult = result := hwritten.result
      obtain ⟨accepted, hwire, hsteadyWire⟩ := hwritten.accepted
      cases steadyResult with
      | error fault => exact (EndsAlike.stay hwritten.steadied _).after hwire hsteadyWire
      | ok done =>
          have hflushed := (endsAlike_flush hwritten.steadied).after hwire hsteadyWire
          dsimp only
          generalize after.flush = flushed at hflushed ⊢
          generalize next.flush = steadyFlushed at hflushed ⊢
          obtain ⟨result, last⟩ := flushed
          obtain ⟨steadyResult, steadyLast⟩ := steadyFlushed
          obtain rfl : steadyResult = result := hflushed.result
          cases steadyResult with
          | error fault => exact ⟨rfl, hflushed.steadied, hflushed.accepted⟩
          | ok done => exact ⟨rfl, hflushed.steadied, hflushed.accepted⟩

theorem Steadied.attempts {outlet steady : Outlet} (hsteady : Steadied outlet steady)
    (commands : List String) :
    (steady.attempts commands).1 = (outlet.attempts commands).1 := by
  induction commands generalizing outlet steady with
  | nil => rfl
  | cons command later ih =>
      have hends := endsAlike_send hsteady command
      generalize hsend : outlet.send command = ended at hends
      generalize hsteadySend : steady.send command = steadyEnded at hends
      obtain ⟨result, after⟩ := ended
      obtain ⟨steadyResult, next⟩ := steadyEnded
      obtain rfl : steadyResult = result := hends.result
      obtain ⟨accepted, hwire, hsteadyWire⟩ := hends.accepted
      have hlater := ih hends.steadied
      simp only [Outlet.attempts, attempt_eq hsend hwire, attempt_eq hsteadySend hsteadyWire,
        hlater]

/-- What commands come to depends on nothing but the lasting outcomes ahead. -/
theorem Alike.attempts {outlet other : Outlet} (halike : Alike outlet other)
    (commands : List String) :
    (outlet.attempts commands).1 = (other.attempts commands).1 := by
  obtain ⟨steady, hsteady, hother⟩ := halike.exists_steady
  rw [← hsteady.attempts commands, hother.attempts commands]

end Outlet

end SerialConsole.Link
