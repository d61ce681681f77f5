import SerialConsole.Text.Decimal

/-!
# Decimal numerals

A number is read from a run of ASCII digits that may have one plus before it;
leading zeros do not matter, and no run is too long as long as its value fits.
Printing with a least number of digits loses nothing of a number, and a number
that fits the width is printed exactly that wide.
-/

namespace SerialConsole.Text

/-- One or more ASCII digits. -/
structure Digits (chars : List Char) : Prop where
  nonempty : chars ≠ []
  isDigit : ∀ c ∈ chars, c.isDigit = true

/-- What digits stand for, leading zeros or not. -/
def valueOf (digits : List Char) : Nat :=
  Nat.ofDigitChars 10 digits 0

/-- A text that is read as a number. -/
inductive Numeral : List Char → Nat → Prop where
  | bare {digits : List Char} (hdigits : Digits digits) : Numeral digits (valueOf digits)
  | plus {digits : List Char} (hdigits : Digits digits) : Numeral ('+' :: digits) (valueOf digits)

variable {chars digits : List Char} {bound value other width : Nat}

/-! ### Reading -/

theorem isDigit_iff {c : Char} : c.isDigit = true ↔ '0' ≤ c ∧ c ≤ '9' := by
  rw [Char.isDigit, Bool.and_eq_true, decide_eq_true_eq, decide_eq_true_eq]
  exact Iff.rfl

theorem map_digitValue?_eq_some_iff {c : Char} {before after : Nat} :
    (digitValue? c).map (10 * before + ·) = some after ↔
      c.isDigit = true ∧ 10 * before + (c.toNat - '0'.toNat) = after := by
  rw [digitValue?]
  by_cases hc : c.isDigit = true
  · rw [if_pos (isDigit_iff.mp hc), Option.map_some, Option.some_inj]
    exact (and_iff_right hc).symm
  · rw [if_neg (mt isDigit_iff.mpr hc)]
    constructor
    · rintro ⟨⟩
    · rintro ⟨hdigit, -⟩
      exact absurd hdigit hc

/-- Digit by digit, what has been read so far is ten times as much, and more. -/
theorem foldlM_digitValue?_eq_some_iff (digits : List Char) (start : Nat) :
    digits.foldlM (fun value c => (digitValue? c).map (10 * value + ·)) start = some value ↔
      (∀ c ∈ digits, c.isDigit = true) ∧ Nat.ofDigitChars 10 digits start = value := by
  induction digits generalizing start with
  | nil =>
      rw [List.foldlM_nil, Nat.ofDigitChars_nil]
      exact ⟨fun hsome => ⟨List.forall_mem_nil _, Option.some.inj hsome⟩,
        fun hread => congrArg some hread.2⟩
  | cons c digits ih =>
      rw [List.foldlM_cons, Nat.ofDigitChars_cons, List.forall_mem_cons]
      constructor
      · intro hread
        obtain ⟨next, hhere, hthere⟩ := Option.bind_eq_some_iff.mp hread
        obtain ⟨hc, rfl⟩ := map_digitValue?_eq_some_iff.mp hhere
        obtain ⟨hrest, hvalue⟩ := (ih _).mp hthere
        exact ⟨⟨hc, hrest⟩, hvalue⟩
      · rintro ⟨⟨hc, hrest⟩, hvalue⟩
        exact Option.bind_eq_some_iff.mpr
          ⟨_, map_digitValue?_eq_some_iff.mpr ⟨hc, rfl⟩, (ih _).mpr ⟨hrest, hvalue⟩⟩

theorem readDigits?_eq_some_iff :
    readDigits? digits = some value ↔ Digits digits ∧ valueOf digits = value := by
  cases digits with
  | nil =>
      constructor
      · rintro ⟨⟩
      · rintro ⟨hdigits, -⟩
        exact absurd rfl hdigits.nonempty
  | cons c rest =>
      rw [readDigits?, foldlM_digitValue?_eq_some_iff]
      · constructor
        · rintro ⟨hdigits, hvalue⟩
          exact ⟨⟨List.cons_ne_nil c rest, hdigits⟩, hvalue⟩
        · rintro ⟨hdigits, hvalue⟩
          exact ⟨hdigits.isDigit, hvalue⟩
      · exact List.cons_ne_nil c rest

theorem numeral_plus_iff :
    Numeral ('+' :: digits) value ↔ Digits digits ∧ valueOf digits = value := by
  constructor
  · intro hnumeral
    cases hnumeral with
    | bare hdigits => exact absurd (hdigits.isDigit '+' List.mem_cons_self) (by decide)
    | plus hdigits => exact ⟨hdigits, rfl⟩
  · rintro ⟨hdigits, rfl⟩
    exact .plus hdigits

theorem numeral_iff_of_not_plus (hplus : ∀ rest, chars ≠ '+' :: rest) :
    Numeral chars value ↔ Digits chars ∧ valueOf chars = value := by
  constructor
  · intro hnumeral
    cases hnumeral with
    | bare hdigits => exact ⟨hdigits, rfl⟩
    | plus hdigits => exact absurd rfl (hplus _)
  · rintro ⟨hdigits, rfl⟩
    exact .bare hdigits

/-- The numbers below a bound are read from their numerals and from nothing
else. -/
theorem readBelow?_eq_some_iff :
    readBelow? bound chars = some value ↔ Numeral chars value ∧ value < bound := by
  have hbelow : ∀ digits : List Char,
      ((readDigits? digits).bind fun value => if value < bound then some value else none) =
          some value ↔
        (Digits digits ∧ valueOf digits = value) ∧ value < bound := by
    intro digits
    rw [Option.bind_eq_some_iff, ← readDigits?_eq_some_iff]
    constructor
    · rintro ⟨read, hread, hsome⟩
      split at hsome
      · cases hsome
        exact ⟨hread, ‹_›⟩
      · cases hsome
    · rintro ⟨hread, hlt⟩
      exact ⟨value, hread, if_pos hlt⟩
  unfold readBelow?
  split
  · rw [numeral_plus_iff]
    exact hbelow _
  · rename_i hplus
    rw [numeral_iff_of_not_plus hplus]
    exact hbelow _

theorem Numeral.ne_nil (hvalue : Numeral chars value) : chars ≠ [] := by
  cases hvalue with
  | bare hdigits => exact hdigits.nonempty
  | plus hdigits => exact List.cons_ne_nil _ _

/-- A numeral stands for one number. -/
theorem Numeral.unique (hvalue : Numeral chars value) (hother : Numeral chars other) :
    value = other := by
  have hread : readBelow? (value + other + 1) chars = some value :=
    readBelow?_eq_some_iff.mpr ⟨hvalue, by omega⟩
  have hagain : readBelow? (value + other + 1) chars = some other :=
    readBelow?_eq_some_iff.mpr ⟨hother, by omega⟩
  exact Option.some.inj (hread.symm.trans hagain)

/-! ### Printing -/

theorem digits_toDigits (value : Nat) : Digits (Nat.toDigits 10 value) where
  nonempty := Nat.toDigits_ne_nil
  isDigit _ hc := Nat.isDigit_of_mem_toDigits (by decide) (by decide) hc

theorem numeral_toDigits (value : Nat) : Numeral (Nat.toDigits 10 value) value := by
  have hnumeral := Numeral.bare (digits_toDigits value)
  rwa [valueOf, Nat.ofDigitChars_ten_toDigits] at hnumeral

/-- However wide a number is printed, it can be read back. -/
theorem valueOf_paddedDigits (width value : Nat) : valueOf (paddedDigits width value) = value := by
  rw [valueOf, paddedDigits, Nat.ofDigitChars_append, Nat.ofDigitChars_replicate_zero, Nat.mul_zero,
    Nat.ofDigitChars_ten_toDigits]

theorem paddedDigits_injective (width : Nat) : Function.Injective (paddedDigits width) := by
  intro value other hdigits
  rw [← valueOf_paddedDigits width value, hdigits, valueOf_paddedDigits]

theorem length_paddedDigits (hfits : (Nat.toDigits 10 value).length ≤ width) :
    (paddedDigits width value).length = width := by
  rw [paddedDigits, List.length_append, List.length_replicate]
  omega

theorem length_paddedDigits_two (hvalue : value < 100) : (paddedDigits 2 value).length = 2 :=
  length_paddedDigits ((Nat.length_toDigits_le_iff (by decide) (by decide)).mpr hvalue)

/-- Two digits at the end of a text can be told from what is before them. -/
theorem append_paddedDigits_two_inj {front back : List Char} (hvalue : value < 100)
    (hother : other < 100) (hsame : front ++ paddedDigits 2 value = back ++ paddedDigits 2 other) :
    front = back ∧ value = other := by
  obtain ⟨hfront, hdigits⟩ := List.append_inj' hsame
    ((length_paddedDigits_two hvalue).trans (length_paddedDigits_two hother).symm)
  exact ⟨hfront, paddedDigits_injective 2 hdigits⟩

end SerialConsole.Text
