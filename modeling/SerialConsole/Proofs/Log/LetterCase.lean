import Mathlib.Data.List.Forall2
import SerialConsole.Text.Search

/-!
# Texts that differ in case

The letters `A` to `Z` have a small form, 32 code points further on, and no
other character has a case.  Two texts are the same up to case if they are as
long as each other and every character stands against itself or against the
other form of its letter.
-/

namespace SerialConsole.Text

/-- One of `A` to `Z`. -/
def IsCapital (c : Char) : Prop :=
  'A' ≤ c ∧ c ≤ 'Z'

/-- The same character, or the two forms of one letter. -/
def SameLetter (c d : Char) : Prop :=
  c = d ∨ IsCapital c ∧ d.toNat = c.toNat + 32 ∨ IsCapital d ∧ c.toNat = d.toNat + 32

/-- The same text in other cases. -/
def Recased (left right : List Char) : Prop :=
  List.Forall₂ SameLetter left right

variable {c d : Char} {left right : List Char}

instance : Decidable (IsCapital c) :=
  inferInstanceAs (Decidable (_ ∧ _))

theorem isCapital_iff : IsCapital c ↔ 65 ≤ c.toNat ∧ c.toNat ≤ 90 := Iff.rfl

theorem toNat_lowerAscii :
    (lowerAscii c).toNat = if IsCapital c then c.toNat + 32 else c.toNat := by
  by_cases hcapital : IsCapital c
  · have hvalid : (c.toNat + 32).isValidChar := by
      have hbounds := isCapital_iff.mp hcapital
      exact .inl (by omega)
    have hlower : lowerAscii c = Char.ofNat (c.toNat + 32) := if_pos hcapital
    rw [if_pos hcapital, hlower, Char.ofNat, dif_pos hvalid]
    rfl
  · have hlower : lowerAscii c = c := if_neg hcapital
    rw [if_neg hcapital, hlower]

/-- Two characters have the same small form exactly if they are the same letter. -/
theorem lowerAscii_eq_iff : lowerAscii c = lowerAscii d ↔ SameLetter c d := by
  rw [SameLetter, ← Char.toNat_inj, ← Char.toNat_inj, toNat_lowerAscii, toNat_lowerAscii]
  simp only [isCapital_iff]
  split <;> split <;> omega

theorem map_lowerAscii_eq_iff :
    left.map lowerAscii = right.map lowerAscii ↔ Recased left right := by
  rw [Recased, ← List.forall₂_eq_eq_eq, List.forall₂_map_left_iff, List.forall₂_map_right_iff]
  simp only [lowerAscii_eq_iff]

theorem sameUpToCase_iff : sameUpToCase left right = true ↔ Recased left right := by
  rw [sameUpToCase, beq_iff_eq, map_lowerAscii_eq_iff]

/-- What is no letter has one form only. -/
theorem SameLetter.eq_of_not_letter (hsame : SameLetter d c) (hcapital : ¬IsCapital c)
    (hsmall : c.toNat < 97 ∨ 122 < c.toNat) : d = c := by
  rcases hsame with heq | ⟨hd, hsame⟩ | ⟨hc, -⟩
  · exact heq
  · have hbounds := isCapital_iff.mp hd
    omega
  · exact absurd hc hcapital

/-- A character that has no other form is not brought in by another case. -/
theorem Recased.notMem (hcase : Recased left right) (honly : ∀ d, SameLetter d c → d = c)
    (hleft : c ∉ left) : c ∉ right := by
  intro hright
  have hsmall : lowerAscii c ∈ left.map lowerAscii := by
    rw [map_lowerAscii_eq_iff.mpr hcase]
    exact List.mem_map_of_mem hright
  obtain ⟨d, hd, hsame⟩ := List.mem_map.mp hsmall
  exact hleft (honly d (lowerAscii_eq_iff.mp hsame) ▸ hd)

/-- What a text contains in small letters, it contains in some case. -/
theorem infix_map_lowerAscii_iff {needle chars : List Char} :
    needle.map lowerAscii <:+: chars.map lowerAscii ↔ ∃ run, run <:+: chars ∧ Recased needle run := by
  simp only [List.infix_map_iff, map_lowerAscii_eq_iff]

end SerialConsole.Text
