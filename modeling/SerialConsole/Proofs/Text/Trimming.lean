import SerialConsole.Proofs.Text.Pieces
import SerialConsole.Text.Blank

/-!
# What trimming leaves

A text is blanks, a core with no blank at either end, and blanks again.  The
core is the same however the text is taken apart, and trimming gives it.  The
same holds if one kind of character is dropped in front and another at the end.
-/

namespace SerialConsole.Text

/-! ### Dropping characters at either end -/

section Ends

variable {p q : Char → Bool} {chars core after : List Char}

theorem trimEndWhile_append (hafter : ∀ c ∈ after, q c = true)
    (hcore : ∀ c ∈ core.getLast?, q c = false) : trimEndWhile q (core ++ after) = core := by
  have hfront : ∀ c ∈ after.reverse, q c = true := fun c hc => hafter c (List.mem_reverse.mp hc)
  have hhead : ∀ c ∈ core.reverse.head?, q c = false := by
    rw [List.head?_reverse]
    exact hcore
  rw [trimEndWhile, List.reverse_append, dropWhile_append_of_head hfront hhead,
    List.reverse_reverse]

theorem getLast?_trimEndWhile (q : Char → Bool) (chars : List Char) :
    ∀ c ∈ (trimEndWhile q chars).getLast?, q c = false := by
  rw [trimEndWhile, List.getLast?_reverse]
  exact head?_dropWhile_eq_false q chars.reverse

theorem exists_trimEndWhile_append (q : Char → Bool) (chars : List Char) :
    ∃ after, (∀ c ∈ after, q c = true) ∧ chars = trimEndWhile q chars ++ after := by
  refine ⟨(chars.reverse.takeWhile q).reverse, fun c hc => ?_, ?_⟩
  · exact List.all_eq_true.mp List.all_takeWhile c (List.mem_reverse.mp hc)
  · rw [trimEndWhile, ← List.reverse_append, List.takeWhile_append_dropWhile, List.reverse_reverse]

/-- Dropping characters of one kind in front and then of another at the end gives
the core of a text, which neither begins with the one nor ends in the other. -/
theorem trimEndWhile_dropWhile_eq_iff :
    trimEndWhile q (chars.dropWhile p) = core ↔
      (∀ c ∈ core.head?, p c = false) ∧ (∀ c ∈ core.getLast?, q c = false) ∧
        ∃ before after, (∀ c ∈ before, p c = true) ∧ (∀ c ∈ after, q c = true) ∧
          chars = before ++ core ++ after := by
  constructor
  · rintro rfl
    have hfront := List.takeWhile_append_dropWhile (p := p) (l := chars)
    obtain ⟨after, hafter, hrest⟩ := exists_trimEndWhile_append q (chars.dropWhile p)
    refine ⟨fun c hc => ?_, getLast?_trimEndWhile q _, chars.takeWhile p, after,
      List.all_eq_true.mp List.all_takeWhile, hafter, ?_⟩
    · refine head?_dropWhile_eq_false p chars c ?_
      rw [hrest, Option.mem_def, List.head?_append, Option.mem_def.mp hc]
      rfl
    · rw [List.append_assoc, ← hrest, hfront]
  · rintro ⟨hfirst, hlast, before, after, hbefore, hafter, rfl⟩
    cases core with
    | nil =>
        -- What is dropped in front may reach into what is dropped at the end.
        have hrest : ∀ c ∈ (before ++ [] ++ after).dropWhile p, q c = true := by
          rw [List.append_nil, List.dropWhile_append_of_pos hbefore]
          exact fun c hc => hafter c ((List.dropWhile_sublist p).subset hc)
        exact trimEndWhile_append hrest hlast
    | cons first rest =>
        have hhead : ∀ c ∈ (first :: rest ++ after).head?, p c = false := hfirst
        rw [List.append_assoc, dropWhile_append_of_head hbefore hhead,
          trimEndWhile_append hafter hlast]

end Ends

/-! ### Blanks -/

def Blanks (chars : List Char) : Prop :=
  ∀ c ∈ chars, isBlank c = true

instance (chars : List Char) : Decidable (Blanks chars) :=
  decidable_of_iff (chars.all isBlank = true) List.all_eq_true

/-- No blank stands at either end. -/
structure Trimmed (chars : List Char) : Prop where
  first : ∀ c ∈ chars.head?, isBlank c = false
  last : ∀ c ∈ chars.getLast?, isBlank c = false

variable {chars before core after : List Char}

theorem blanks_nil : Blanks [] :=
  List.forall_mem_nil _

theorem Blanks.append (hbefore : Blanks before) (hafter : Blanks after) :
    Blanks (before ++ after) :=
  List.forall_mem_append.mpr ⟨hbefore, hafter⟩

theorem trimmed_nil : Trimmed [] := by
  constructor
  · rintro c ⟨⟩
  · rintro c ⟨⟩

theorem isBlank_eq_false_of_any (hany : chars.any isBlank = false) :
    ∀ c ∈ chars, isBlank c = false := by
  intro c hc
  rw [Bool.eq_false_iff]
  exact List.any_eq_false.mp hany c hc

theorem trimmed_of_forall (hchars : ∀ c ∈ chars, isBlank c = false) : Trimmed chars where
  first c hc := hchars c (List.mem_of_mem_head? hc)
  last c hc := hchars c (List.mem_of_mem_getLast? hc)

theorem trimmed_of_any (hany : chars.any isBlank = false) : Trimmed chars :=
  trimmed_of_forall (isBlank_eq_false_of_any hany)

/-- What begins with no blank and ends as a trimmed text does is trimmed. -/
theorem Trimmed.cons_append {c : Char} (hcore : Trimmed core) (hc : isBlank c = false)
    (hnonempty : core ≠ []) (middle : List Char) : Trimmed (c :: middle ++ core) where
  first := by
    rintro d ⟨⟩
    exact hc
  last := by
    rw [List.getLast?_append, List.getLast?_eq_some_getLast hnonempty, Option.some_or,
      ← List.getLast?_eq_some_getLast]
    exact hcore.last

theorem trimChars_append_append (hbefore : Blanks before) (hcore : Trimmed core)
    (hafter : Blanks after) : trimChars (before ++ core ++ after) = core :=
  trimEndWhile_dropWhile_eq_iff.mpr
    ⟨hcore.first, hcore.last, before, after, hbefore, hafter, rfl⟩

/-- Trimming gives the core of a text. -/
theorem trimChars_eq_iff :
    trimChars chars = core ↔ Trimmed core ∧
      ∃ before after, Blanks before ∧ Blanks after ∧ chars = before ++ core ++ after := by
  rw [trimChars, trimEndWhile_dropWhile_eq_iff]
  constructor
  · rintro ⟨hfirst, hlast, hparts⟩
    exact ⟨⟨hfirst, hlast⟩, hparts⟩
  · rintro ⟨hcore, hparts⟩
    exact ⟨hcore.first, hcore.last, hparts⟩

theorem trimmed_trimChars (chars : List Char) : Trimmed (trimChars chars) :=
  (trimChars_eq_iff.mp rfl).1

theorem exists_blanks_trimChars (chars : List Char) :
    ∃ before after, Blanks before ∧ Blanks after ∧ chars = before ++ trimChars chars ++ after :=
  (trimChars_eq_iff.mp rfl).2

theorem Trimmed.trimChars_append (hcore : Trimmed core) (hafter : Blanks after) :
    trimChars (core ++ after) = core :=
  trimChars_eq_iff.mpr ⟨hcore, [], after, blanks_nil, hafter, rfl⟩

theorem Trimmed.trimChars_eq (hcore : Trimmed core) : trimChars core = core := by
  have htrim := hcore.trimChars_append blanks_nil
  rwa [List.append_nil] at htrim

theorem trimChars_eq_nil_iff : trimChars chars = [] ↔ Blanks chars := by
  constructor
  · intro hempty
    obtain ⟨before, after, hbefore, hafter, hchars⟩ := exists_blanks_trimChars chars
    rw [hchars, hempty]
    exact (hbefore.append blanks_nil).append hafter
  · intro hchars
    exact trimmed_nil.trimChars_append hchars

/-- A text is trimmed to nothing if it has nothing but blanks. -/
theorem isEmpty_trim (text : String) : (trim text).isEmpty = allBlank text := by
  rw [Bool.eq_iff_iff, String.isEmpty_iff, ← String.toList_eq_nil_iff, toList_trim,
    trimChars_eq_nil_iff, allBlank, List.all_eq_true, Blanks]

@[simp]
theorem trim_trim (text : String) : trim (trim text) = trim text := by
  rw [trim, toList_trim, (trimmed_trimChars text.toList).trimChars_eq, trim]

end SerialConsole.Text
