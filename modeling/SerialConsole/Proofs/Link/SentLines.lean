import Mathlib.Data.List.Basic
import SerialConsole.Proofs.Link.Sending
import SerialConsole.Proofs.Wire.LineForms

/-!
# Lines of sent commands

A command that has been sent is on the wire whole, with CR LF behind it, but it
need not start a line: what failed attempts have left since the last whole
command stands before it on the same line.  This is all that can join a
command; cut at CR LF, the wire has one line for every whole command.
-/

namespace SerialConsole.Link

open Wire

/-- One attempt to send: how it ended, and what it has put on the wire. -/
structure Attempt where
  command : String
  result : Except WireFault Nat
  accepted : List Byte
  deriving DecidableEq

namespace Outlet

def attempt (outlet : Outlet) (command : String) : Attempt × Outlet :=
  let (result, after) := outlet.send command
  ({ command, result, accepted := after.wire.drop outlet.wire.length }, after)

/-- Commands sent one after the other, whether or not those before were sent. -/
def attempts (outlet : Outlet) : List String → List Attempt × Outlet
  | [] => ([], outlet)
  | command :: later =>
      let (first, after) := outlet.attempt command
      let (others, last) := after.attempts later
      (first :: others, last)

end Outlet

namespace Attempt

/-- The command and its CR LF were accepted to the last byte. -/
def Whole (a : Attempt) : Prop :=
  a.accepted = commandLine a.command

instance (a : Attempt) : Decidable a.Whole :=
  inferInstanceAs (Decidable (_ = _))

/-- What an attempt has put on the wire is a front part of its line, and all of
it if the command was sent. -/
structure Sound (a : Attempt) : Prop where
  front : a.accepted <+: commandLine a.command
  sent : ∀ count, a.result = .ok count → a.Whole ∧ count = (commandLine a.command).length

end Attempt

/-- Everything that attempts have put on the wire. -/
def acceptedBy (attempts : List Attempt) : List Byte :=
  attempts.flatMap Attempt.accepted

/-- The lines that attempts make, and the bytes left over, if `left` was left
over before.  A whole command ends the line that it stands on. -/
def linesMade (left : List Byte) : List Attempt → List (List Byte) × List Byte
  | [] => ([], left)
  | attempt :: later =>
      if attempt.Whole then
        let (lines, rest) := linesMade [] later
        ((left ++ attempt.accepted) :: lines, rest)
      else linesMade (left ++ attempt.accepted) later

/-- What the attempts since the last whole command have put on the wire. -/
def leftover (attempts : List Attempt) : List Byte :=
  (linesMade [] attempts).2

/-- What comes next starts a line: nothing is on the wire, or CR LF ends it. -/
def AtLineStart (wire : List Byte) : Prop :=
  wire = [] ∨ terminator <:+ wire

/-! ### Attempts -/

theorem attempt_eq {outlet after : Outlet} {command : String} {result : Except WireFault Nat}
    {accepted : List Byte} (hsend : outlet.send command = (result, after))
    (hwire : after.wire = outlet.wire ++ accepted) :
    outlet.attempt command = ({ command, result, accepted }, after) := by
  simp only [Outlet.attempt, hsend, hwire, List.drop_left]

/-- What one attempt comes to, with what it has added to the wire. -/
theorem exists_attempt (outlet : Outlet) (command : String) :
    ∃ attempt after, outlet.attempt command = (attempt, after) ∧ attempt.command = command ∧
      attempt.Sound ∧ after.wire = outlet.wire ++ attempt.accepted := by
  have hsending := outlet.sending_send command
  generalize hsend : outlet.send command = ended at hsending
  cases hsending with
  | refused offset hencoded =>
      have hwire : outlet.wire = outlet.wire ++ [] := (List.append_nil outlet.wire).symm
      exact ⟨_, _, attempt_eq hsend hwire, rfl, ⟨List.nil_prefix, nofun⟩, hwire⟩
  | short fault after accepted left hline hleft hwire =>
      exact ⟨_, _, attempt_eq hsend hwire, rfl,
        ⟨hline ▸ List.prefix_append accepted left, nofun⟩, hwire⟩
  | unflushed fault after hwire =>
      exact ⟨_, _, attempt_eq hsend hwire, rfl, ⟨List.prefix_rfl, nofun⟩, hwire⟩
  | sent after hwire =>
      refine ⟨_, _, attempt_eq hsend hwire, rfl, ⟨List.prefix_rfl, ?_⟩, hwire⟩
      intro count hcount
      exact ⟨rfl, (Except.ok.inj hcount).symm⟩

theorem sound_attempts (outlet : Outlet) (commands : List String) :
    (∀ attempt ∈ (outlet.attempts commands).1, attempt.Sound) ∧
      (outlet.attempts commands).1.map Attempt.command = commands ∧
      (outlet.attempts commands).2.wire =
        outlet.wire ++ acceptedBy (outlet.attempts commands).1 := by
  induction commands generalizing outlet with
  | nil => exact ⟨nofun, rfl, (List.append_nil outlet.wire).symm⟩
  | cons command later ih =>
      obtain ⟨attempt, after, hattempt, hcommand, hsound, hwire⟩ := exists_attempt outlet command
      obtain ⟨hsounds, hcommands, hlast⟩ := ih after
      simp only [Outlet.attempts, hattempt]
      refine ⟨List.forall_mem_cons.mpr ⟨hsound, hsounds⟩, ?_, ?_⟩
      · rw [List.map_cons, hcommand, hcommands]
      · rw [hlast, hwire, List.append_assoc]
        rfl

theorem acceptedBy_append (before later : List Attempt) :
    acceptedBy (before ++ later) = acceptedBy before ++ acceptedBy later :=
  List.flatMap_append

/-! ### Cutting at CR LF -/

theorem lf_notMem_of_front {a : Attempt} (hsound : a.Sound) (hshort : ¬a.Whole)
    (hfeed : '\n' ∉ a.command.toList) : lf ∉ a.accepted := by
  have hline : commandLine a.command = a.command.toUTF8.toList ++ [cr] ++ [lf] :=
    (List.append_assoc a.command.toUTF8.toList [cr] [lf]).symm
  have hfront := hsound.front
  rw [hline, List.prefix_concat_iff, ← hline] at hfront
  have hopen : lf ∉ a.command.toUTF8.toList ++ [cr] := by
    rw [List.mem_append, List.mem_singleton, not_or]
    exact ⟨lf_notMem_toUTF8 hfeed, by decide⟩
  exact fun hlf => hopen ((hfront.resolve_left hshort).subset hlf)

/-- Cut at CR LF, the wire is the lines that attempts make. -/
theorem cut_acceptedBy {attempts : List Attempt} (hsound : ∀ attempt ∈ attempts, attempt.Sound)
    (hfeed : ∀ attempt ∈ attempts, '\n' ∉ attempt.command.toList) (left : List Byte) :
    LineRule.strict.cut left (acceptedBy attempts) = linesMade left attempts := by
  induction attempts generalizing left with
  | nil => rfl
  | cons attempt later ih =>
      obtain ⟨hfirst, hothers⟩ := List.forall_mem_cons.mp hsound
      obtain ⟨hline, hlines⟩ := List.forall_mem_cons.mp hfeed
      have haccepted : acceptedBy (attempt :: later) = attempt.accepted ++ acceptedBy later := rfl
      by_cases hwhole : attempt.Whole
      · rw [linesMade, if_pos hwhole, haccepted, hwhole, commandLine,
          LineRule.cut_terminator (lf_notMem_toUTF8 hline), ih hothers hlines]
      · rw [linesMade, if_neg hwhole, haccepted,
          LineRule.cut_of_lf_notMem (lf_notMem_of_front hfirst hwhole hline), ih hothers hlines]

/-! ### Where a command stands on its line -/

theorem lf_notMem_linesMade {attempts : List Attempt}
    (hsound : ∀ attempt ∈ attempts, attempt.Sound)
    (hfeed : ∀ attempt ∈ attempts, '\n' ∉ attempt.command.toList) {left : List Byte}
    (hleft : lf ∉ left) : lf ∉ (linesMade left attempts).2 := by
  induction attempts generalizing left with
  | nil => exact hleft
  | cons attempt later ih =>
      obtain ⟨hfirst, hothers⟩ := List.forall_mem_cons.mp hsound
      obtain ⟨hline, hlines⟩ := List.forall_mem_cons.mp hfeed
      by_cases hwhole : attempt.Whole
      · rw [linesMade, if_pos hwhole]
        exact ih hothers hlines List.not_mem_nil
      · rw [linesMade, if_neg hwhole]
        refine ih hothers hlines ?_
        rw [List.mem_append, not_or]
        exact ⟨hleft, lf_notMem_of_front hfirst hwhole hline⟩

/-- Behind whole lines comes the start of a line. -/
theorem atLineStart_flatten_cut (bytes : List Byte) :
    AtLineStart (LineRule.strict.cut [] bytes).1.flatten := by
  obtain hnone | ⟨front, line, hlines⟩ := (LineRule.strict.cut [] bytes).1.eq_nil_or_concat
  · exact .inl (by rw [hnone]; rfl)
  · have hmem : line ∈ (LineRule.strict.cut [] bytes).1 := by
      rw [hlines]
      simp
    have hline := (LineRule.completes_of_mem_cut LineRule.strict.unfinished_nil line hmem).1
    refine .inr ?_
    rw [hlines, List.concat_eq_append, List.flatten_append, List.flatten_singleton]
    exact (LineRule.completes_strict_iff.mp hline).trans (List.suffix_append front.flatten line)

/-- Behind bytes without an LF no line starts. -/
theorem eq_nil_of_atLineStart_append {lines left : List Byte} (hleft : lf ∉ left)
    (hstart : AtLineStart (lines ++ left)) : left = [] := by
  obtain hnone | ⟨front, b, hlast⟩ := left.eq_nil_or_concat
  · exact hnone
  · exfalso
    rw [hlast, List.concat_eq_append, ← List.append_assoc] at hstart
    rcases hstart with hnothing | ⟨body, hbody⟩
    · exact List.append_ne_nil_of_right_ne_nil _ (List.cons_ne_nil b []) hnothing
    · have hb := congrArg List.getLast? hbody
      rw [List.getLast?_concat, List.getLast?_append] at hb
      cases hb
      exact hleft (by rw [hlast]; simp)

/-- What comes next starts a line exactly if nothing is left over. -/
theorem atLineStart_acceptedBy_iff {attempts : List Attempt}
    (hsound : ∀ attempt ∈ attempts, attempt.Sound)
    (hfeed : ∀ attempt ∈ attempts, '\n' ∉ attempt.command.toList) :
    AtLineStart (acceptedBy attempts) ↔ leftover attempts = [] := by
  have hcut := cut_acceptedBy hsound hfeed []
  have hwhole : (linesMade [] attempts).1.flatten ++ leftover attempts = acceptedBy attempts := by
    rw [leftover, ← hcut, LineRule.strict.flatten_cut, List.nil_append]
  constructor
  · intro hstart
    rw [← hwhole] at hstart
    exact eq_nil_of_atLineStart_append (lf_notMem_linesMade hsound hfeed List.not_mem_nil) hstart
  · intro hnone
    rw [hnone, List.append_nil] at hwhole
    rw [← hwhole, ← hcut]
    exact atLineStart_flatten_cut (acceptedBy attempts)

/-- Where the commands that were sent stand on the wire. -/
structure SentLines (attempts : List Attempt) (wire : List Byte) : Prop where
  /-- Cut at CR LF, the wire has one line for every whole command: the bytes left
  over since the last one, and the command. -/
  lines : LineRule.strict.cut [] wire = linesMade [] attempts
  /-- A command that was sent is on the wire whole, right behind what the
  attempts before it have put there. -/
  whole : ∀ before attempt later count, attempts = before ++ attempt :: later →
    attempt.result = .ok count →
    count = (commandLine attempt.command).length ∧
      wire = acceptedBy before ++ commandLine attempt.command ++ acceptedBy later
  /-- It starts a line, unless failed attempts have left bytes over. -/
  started : ∀ before attempt later count, attempts = before ++ attempt :: later →
    attempt.result = .ok count → (AtLineStart (acceptedBy before) ↔ leftover before = [])
  /-- Only failed attempts leave bytes over. -/
  failed : ∀ attempt ∈ attempts, ¬attempt.Whole → ∃ fault, attempt.result = .error fault

/-- However the link takes its bytes, a command that was sent starts a line of
the wire exactly if the failed attempts since the last whole command have put
nothing there; what they have put there stands before it on its line. -/
theorem sent_command_follows_leftover {outlet : Outlet} {commands : List String}
    (hstart : outlet.wire = []) (hfeed : ∀ command ∈ commands, '\n' ∉ command.toList) :
    SentLines (outlet.attempts commands).1 (outlet.attempts commands).2.wire := by
  obtain ⟨hsound, hcommands, hwire⟩ := sound_attempts outlet commands
  rw [hstart, List.nil_append] at hwire
  have hlines : ∀ attempt ∈ (outlet.attempts commands).1, '\n' ∉ attempt.command.toList := by
    intro attempt hattempt
    exact hfeed attempt.command (hcommands ▸ List.mem_map_of_mem hattempt)
  refine { lines := ?_, whole := ?_, started := ?_, failed := ?_ }
  · rw [hwire, cut_acceptedBy hsound hlines]
  · intro before attempt later count hattempts hresult
    have hmem : attempt ∈ (outlet.attempts commands).1 := by
      rw [hattempts]
      exact List.mem_append_right before List.mem_cons_self
    obtain ⟨hwhole, hcount⟩ := (hsound attempt hmem).sent count hresult
    refine ⟨hcount, ?_⟩
    rw [hwire, hattempts, acceptedBy_append, List.append_assoc, ← hwhole]
    rfl
  · intro before attempt later count hattempts hresult
    have hmem : ∀ earlier ∈ before, earlier ∈ (outlet.attempts commands).1 := by
      rw [hattempts]
      exact fun earlier => List.mem_append_left _
    exact atLineStart_acceptedBy_iff (fun earlier h => hsound earlier (hmem earlier h))
      (fun earlier h => hlines earlier (hmem earlier h))
  · intro attempt hattempt hshort
    cases hresult : attempt.result with
    | ok count => exact absurd ((hsound attempt hattempt).sent count hresult).1 hshort
    | error fault => exact ⟨fault, rfl⟩

/-- The link takes `ping` and two bytes of `reset`, and `help` comes after them. -/
theorem part_of_reset_precedes_help :
    (Outlet.scripted [.accept 6, .accept 2, .accept 0] []).wire = [] ∧
      (∀ command ∈ ["ping", "reset", "help"], '\n' ∉ command.toList) ∧
      SentLines
        ((Outlet.scripted [.accept 6, .accept 2, .accept 0] []).attempts
          ["ping", "reset", "help"]).1
        ((Outlet.scripted [.accept 6, .accept 2, .accept 0] []).attempts
          ["ping", "reset", "help"]).2.wire := by
  have hfeed : ∀ command ∈ ["ping", "reset", "help"], '\n' ∉ command.toList := by decide
  exact ⟨rfl, hfeed, sent_command_follows_leftover rfl hfeed⟩

/-- A command that was sent need not start a line, even if no command has a CR,
an LF or anything outside ASCII in it: two bytes of `reset` stand before `help`. -/
theorem not_every_sent_command_starts_line :
    ¬∀ (outlet : Outlet) (commands : List String), outlet.wire = [] →
      (∀ command ∈ commands, ∀ c ∈ command.toList, c.toNat < 0x80 ∧ c ≠ '\r' ∧ c ≠ '\n') →
      ∀ before attempt later count,
        (outlet.attempts commands).1 = before ++ attempt :: later →
        attempt.result = .ok count → AtLineStart (acceptedBy before) := by
  intro hclaim
  have hattempts : ((Outlet.scripted [.accept 2, .fail (.plain .brokenPipe)] []).attempts
      ["reset", "help"]).1 =
        [⟨"reset", .error (.failed (.plain .brokenPipe)), [0x72, 0x65]⟩] ++
          ⟨"help", .ok 6, [0x68, 0x65, 0x6C, 0x70, cr, lf]⟩ :: [] := by
    decide +kernel
  have hplain : ∀ command ∈ ["reset", "help"], ∀ c ∈ command.toList,
      c.toNat < 0x80 ∧ c ≠ '\r' ∧ c ≠ '\n' := by
    simp
  have hstarted := hclaim _ ["reset", "help"] rfl hplain _ _ _ _ hattempts rfl
  revert hstarted
  unfold AtLineStart
  decide

end SerialConsole.Link
