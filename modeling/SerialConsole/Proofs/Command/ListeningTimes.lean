import SerialConsole.Command.Send
import SerialConsole.Proofs.Time.Spans

/-!
# Times to listen, as they are written

The time to listen is the first thing that is looked at when a command is to be
sent.  It is read by the grammar of spans, and where that has no reading the
command is refused as misused, whatever it is and wherever it was to go.
-/

namespace SerialConsole.Command

open Session Time
open Text (Numeral trim)

/-- Nothing is opened, and nothing sent, for a time that cannot be read. -/
theorem sendCommand_of_not_written {request : SendRequest}
    (hlisten : ∀ span, ¬Written (trim request.listen).toList span) (console : Console)
    (tree : Files.Tree) (outlet : Link.Outlet) (now : Instant) :
    sendCommand request console tree outlet now =
      .error { exit := .usage, message := (Span.faultOf request.listen).message } := by
  rw [sendCommand, Span.parse_eq_error_iff.mpr hlisten]
  rfl

/-- A time to listen is a numeral for a number of 64 bits, directly followed by
its unit, blanks around the two aside.  Any other text is a misuse of the command.
Every number of 64 bits can be written in every unit, a larger one is refused in
each, and no text has two readings. -/
theorem times_to_listen_are_read_by_grammar :
    (∀ text span, Span.parse text = .ok span ↔ Written (trim text).toList span) ∧
    (∀ request console tree outlet now,
      (∀ span, ¬Written (trim request.listen).toList span) →
        sendCommand request console tree outlet now =
          .error { exit := .usage, message := (Span.faultOf request.listen).message }) ∧
    Exit.usage.code = 64 ∧
    (∀ (unit : SpanUnit) count, count < UInt64.size →
      Span.parse (toString count ++ String.ofList unit.chars) = .ok (unit.span count)) ∧
    (∀ text numeral count (unit : SpanUnit), Numeral numeral count → UInt64.size ≤ count →
      (trim text).toList = numeral ++ unit.chars →
        Span.parse text = .error (.malformed (trim text))) ∧
    ∀ numeral count other number, Numeral numeral count → Numeral other number →
      ∀ unit unit' : SpanUnit, numeral ++ unit.chars = other ++ unit'.chars →
        numeral = other ∧ count = number ∧ unit = unit' := by
  refine ⟨fun _ _ => Span.parse_eq_ok_iff, ?_, rfl, ?_, ?_, ?_⟩
  · intro request console tree outlet now hlisten
    exact sendCommand_of_not_written hlisten console tree outlet now
  · intro unit count hcount
    rw [Span.parse_toString_append, if_pos hcount]
  · intro text numeral count unit hnumeral hcount htext
    rw [Span.parse_of_numeral hnumeral htext, if_neg (Nat.not_lt.mpr hcount)]
  · intro numeral count other number hnumeral hother unit unit' hsame
    exact numeral_append_unit_inj hnumeral hother hsame

/-- The time to listen has a point in it. -/
def pointedQuery : SendRequest where
  path := "bridge.sock"
  settings := {}
  command := "q"
  listen := "1.5s"
  format := .raw

/-- A plus, leading zeros and blanks of any width are no obstacle to the last number
of 64 bits; the next one is refused, and so is one with a point. -/
theorem last_count_is_read_and_next_is_not :
    Span.parse "\u3000+0018446744073709551615ms\n" = .ok ⟨18446744073709551, 615000000⟩ ∧
      Span.parse "18446744073709551616s" = .error (.malformed "18446744073709551616s") ∧
      sendCommand pointedQuery (.new {}) .empty .open_ ⟨0, 0⟩ =
        .error { exit := .usage, message := "invalid duration value: 1.5s" } := by
  obtain ⟨hread, hrefused, -, -, hlarge, -⟩ := times_to_listen_are_read_by_grammar
  have hlast : Numeral "+0018446744073709551615".toList 18446744073709551615 :=
    .plus ⟨by decide, List.all_eq_true.mp (by decide)⟩
  have hnext : Numeral "18446744073709551616".toList 18446744073709551616 :=
    .bare ⟨by decide, List.all_eq_true.mp (by decide)⟩
  have hpoint : ∀ span, ¬Written (trim pointedQuery.listen).toList span := by
    intro span hwritten
    have hparse := (hread _ _).mpr hwritten
    have hfault : Span.parse pointedQuery.listen = .error (.malformed "1.5s") := rfl
    rw [hfault] at hparse
    cases hparse
  refine ⟨(hread _ _).mpr (.intro hlast (by decide) .milliseconds), ?_, ?_⟩
  · exact hlarge _ _ _ .seconds hnext (by decide) rfl
  · exact hrefused _ _ _ _ _ hpoint

end SerialConsole.Command
