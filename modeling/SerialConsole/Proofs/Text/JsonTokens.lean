import SerialConsole.Text.Json
import SerialConsole.Proofs.Text.Numerals

/-!
# The tokens of a JSON text

A JSON text is read one character after the other: blanks lie between the
tokens, a string ends at the first quotation mark that is not escaped, and a
number ends where a character that is no digit follows.  Strings may be written
with any of the escapes there are but for surrogate pairs; truth values, signs,
fractions and exponents, which the console never writes, are refused.
-/

namespace SerialConsole.Text

inductive JsonToken where
  | openArray
  | closeArray
  | openObject
  | closeObject
  | comma
  | colon
  | null
  | number (value : Nat)
  | string (value : String)
  deriving DecidableEq, Repr

/-- The token that a single character is. -/
def JsonToken.mark? (c : Char) : Option JsonToken :=
  match c with
  | '[' => some .openArray
  | ']' => some .closeArray
  | '\x7b' => some .openObject
  | '\x7d' => some .closeObject
  | ',' => some .comma
  | ':' => some .colon
  | _ => none

/-- The blanks of JSON, which are fewer than those of the console. -/
def isJsonBlank (c : Char) : Bool :=
  c == ' ' || c == '\t' || c == '\n' || c == '\r'

/-- What the character after a backslash stands for. -/
def unescape? (c : Char) : Option Char :=
  match c with
  | '"' => some '"'
  | '\\' => some '\\'
  | '/' => some '/'
  | 'b' => some '\x08'
  | 'f' => some '\x0c'
  | 'n' => some '\n'
  | 'r' => some '\r'
  | 't' => some '\t'
  | _ => none

/-- The value of a hexadecimal digit of either case. -/
def hexValue? (c : Char) : Option Nat :=
  (List.range 16).find? fun value => hexDigit value == c.toLower

/-- The character of a code unit that is no half of a surrogate pair. -/
def charOfUnit? (unit : Nat) : Option Char :=
  if unit < 0xD800 ∨ 0xDFFF < unit then some (Char.ofNat unit) else none

/-- A token that has been read in part. -/
inductive PartialToken where
  | none
  /-- The digits so far stand for `value`. -/
  | number (value : Nat)
  /-- The letters that are still missing from `null`. -/
  | word (missing : List Char)
  | string (before : List Char)
  /-- A string, after a backslash. -/
  | escape (before : List Char)
  /-- A string, within the four digits of a code unit: after the next one,
  `missing` more are to come. -/
  | unit (before : List Char) (missing value : Nat)
  deriving DecidableEq, Repr

structure JsonScanner where
  tokens : List JsonToken
  current : PartialToken
  deriving DecidableEq, Repr

namespace JsonScanner

def between (tokens : List JsonToken) : JsonScanner where
  tokens := tokens
  current := .none

/-- Read the first character of a token, or a blank. -/
def start? (tokens : List JsonToken) (c : Char) : Option JsonScanner :=
  match JsonToken.mark? c with
  | some mark => some (between (tokens ++ [mark]))
  | none =>
      if isJsonBlank c then some (between tokens)
      else if c = '"' then some ⟨tokens, .string []⟩
      else if c = 'n' then some ⟨tokens, .word ['u', 'l', 'l']⟩
      else if c.isDigit then some ⟨tokens, .number (c.toNat - '0'.toNat)⟩
      else none

/-- Read a character. -/
def step? (scanner : JsonScanner) (c : Char) : Option JsonScanner :=
  match scanner.current with
  | .none => start? scanner.tokens c
  | .number value =>
      if c.isDigit then
        if value = 0 then none
        else some ⟨scanner.tokens, .number (10 * value + (c.toNat - '0'.toNat))⟩
      else start? (scanner.tokens ++ [.number value]) c
  | .word missing =>
      if missing.head? ≠ some c then none
      else if missing.tail = [] then some (between (scanner.tokens ++ [.null]))
      else some ⟨scanner.tokens, .word missing.tail⟩
  | .string before =>
      if c = '"' then some (between (scanner.tokens ++ [.string (String.ofList before)]))
      else if c = '\\' then some ⟨scanner.tokens, .escape before⟩
      else if c.toNat < 0x20 then none
      else some ⟨scanner.tokens, .string (before ++ [c])⟩
  | .escape before =>
      if c = 'u' then some ⟨scanner.tokens, .unit before 3 0⟩
      else (unescape? c).map fun meant => ⟨scanner.tokens, .string (before ++ [meant])⟩
  | .unit before missing value =>
      (hexValue? c).bind fun digit =>
        match missing with
        | 0 => (charOfUnit? (16 * value + digit)).map fun meant =>
            ⟨scanner.tokens, .string (before ++ [meant])⟩
        | missing + 1 => some ⟨scanner.tokens, .unit before missing (16 * value + digit)⟩

/-- The scanner when the token it reads ends here, as only a number can. -/
def settle (scanner : JsonScanner) : JsonScanner :=
  match scanner.current with
  | .number value => between (scanner.tokens ++ [.number value])
  | _ => scanner

end JsonScanner

/-- The tokens of a text. -/
def jsonTokens? (chars : List Char) : Option (List JsonToken) :=
  (chars.foldlM JsonScanner.step? (.between [])).bind fun scanner =>
    if scanner.settle.current = .none then some scanner.settle.tokens else none

/-- Characters that are read as tokens wherever a token can start. -/
def Spells (chars : List Char) (tokens : List JsonToken) : Prop :=
  ∀ before, (chars.foldlM JsonScanner.step? (.between before)).map JsonScanner.settle =
    some (.between (before ++ tokens))

open JsonScanner

variable {chars rest : List Char} {tokens later : List JsonToken} {c : Char}

theorem Spells.jsonTokens?_eq (hchars : Spells chars tokens) :
    jsonTokens? chars = some tokens := by
  obtain ⟨scanner, hscanner, hsettle⟩ := Option.map_eq_some_iff.mp (hchars [])
  rw [jsonTokens?, hscanner, Option.bind_some, hsettle]
  exact if_pos rfl

theorem foldlM_cons_of_step {scanner next : JsonScanner} (hstep : scanner.step? c = some next)
    (rest : List Char) : (c :: rest).foldlM step? scanner = rest.foldlM step? next := by
  rw [List.foldlM_cons, hstep]
  rfl

/-! ### Joining -/

theorem spells_nil : Spells [] [] := by
  intro before
  rw [List.append_nil]
  rfl

/-- What is no digit ends the number that stands before it. -/
theorem step?_settle (scanner : JsonScanner) (hc : c.isDigit = false) :
    scanner.settle.step? c = scanner.step? c := by
  obtain ⟨tokens, current⟩ := scanner
  cases current with
  | number value =>
      have hdigit : ¬ c.isDigit = true := Bool.eq_false_iff.mp hc
      exact (if_neg hdigit).symm
  | _ => rfl

/-- Tokens may stand side by side, as long as no digit comes next. -/
theorem Spells.append_cons (hchars : Spells chars tokens) (hc : c.isDigit = false)
    (hrest : Spells (c :: rest) later) : Spells (chars ++ c :: rest) (tokens ++ later) := by
  intro before
  obtain ⟨scanner, hscanner, hsettle⟩ := Option.map_eq_some_iff.mp (hchars before)
  have hnext : scanner.step? c = (between (before ++ tokens)).step? c := by
    rw [← hsettle, step?_settle scanner hc]
  rw [← List.append_assoc, ← hrest (before ++ tokens), List.foldlM_append, hscanner,
    List.foldlM_cons, ← hnext]
  rfl

theorem isDigit_eq_false_of_mark {mark : JsonToken} (hmark : JsonToken.mark? c = some mark) :
    c.isDigit = false := by
  unfold JsonToken.mark? at hmark
  split at hmark
  all_goals first
    | rfl
    | cases hmark

theorem spells_mark_cons {mark : JsonToken} (hmark : JsonToken.mark? c = some mark)
    (hrest : Spells rest later) : Spells (c :: rest) (mark :: later) := by
  intro before
  have hstep : (between before).step? c = some (between (before ++ [mark])) := by
    rw [step?, between, start?, hmark]
  rw [foldlM_cons_of_step hstep]
  exact (hrest _).trans (by rw [List.append_assoc, List.singleton_append])

/-- A mark ends what stands before it. -/
theorem Spells.append_mark {mark : JsonToken} (hchars : Spells chars tokens)
    (hmark : JsonToken.mark? c = some mark) (hrest : Spells rest later) :
    Spells (chars ++ c :: rest) (tokens ++ mark :: later) :=
  hchars.append_cons (isDigit_eq_false_of_mark hmark) (spells_mark_cons hmark hrest)

/-! ### Numbers -/

theorem step?_digit (before : List JsonToken) {value digit : Nat} (hvalue : value ≠ 0)
    (hdigit : digit < 10) :
    (JsonScanner.mk before (.number value)).step? digit.digitChar =
      some ⟨before, .number (10 * value + digit)⟩ := by
  have hc : digit.digitChar.isDigit = true := by
    rw [Nat.isDigit_digitChar]
    exact decide_eq_true hdigit
  refine (if_pos hc).trans ((if_neg hvalue).trans ?_)
  rw [show '0'.toNat = 48 from rfl, Nat.toNat_digitChar_sub_48_of_lt_ten hdigit]

theorem step?_first_digit (before : List JsonToken) {digit : Nat} (hdigit : digit < 10) :
    (between before).step? digit.digitChar = some ⟨before, .number digit⟩ := by
  have hother : ∀ d < 10, JsonToken.mark? (Nat.digitChar d) = none ∧
      isJsonBlank (Nat.digitChar d) = false ∧ Nat.digitChar d ≠ '"' ∧ Nat.digitChar d ≠ 'n' := by
    decide
  obtain ⟨hmark, hblank, hquote, hletter⟩ := hother digit hdigit
  have hc : digit.digitChar.isDigit = true := by
    rw [Nat.isDigit_digitChar]
    exact decide_eq_true hdigit
  rw [step?, between, start?, hmark]
  dsimp only
  rw [if_neg (Bool.eq_false_iff.mp hblank), if_neg hquote, if_neg hletter, if_pos hc,
    show '0'.toNat = 48 from rfl, Nat.toNat_digitChar_sub_48_of_lt_ten hdigit]

/-- The digits of a number are read from the first to the last; what stands
before a digit is never zero. -/
theorem foldlM_toDigits (before : List JsonToken) (value : Nat) :
    (Nat.toDigits 10 value).foldlM step? (between before) = some ⟨before, .number value⟩ := by
  induction value using Nat.strongRecOn with
  | ind value ih =>
    rcases Nat.lt_or_ge value 10 with hsmall | hlarge
    · rw [Nat.toDigits_of_lt_base hsmall]
      exact foldlM_cons_of_step (step?_first_digit before hsmall) []
    · have hhead : value / 10 ≠ 0 := by omega
      have hlast := step?_digit before hhead (Nat.mod_lt value (by decide : 10 > 0))
      rw [Nat.div_add_mod] at hlast
      rw [Nat.toDigits_of_base_le (by decide) hlarge, List.foldlM_append, ih _ (by omega)]
      exact foldlM_cons_of_step hlast []

theorem spells_number (value : Nat) : Spells (Nat.toDigits 10 value) [.number value] := by
  intro before
  rw [foldlM_toDigits]
  rfl

theorem spells_null : Spells ['n', 'u', 'l', 'l'] [.null] := by
  intro before
  rfl

/-! ### Strings -/

theorem hexValue?_hexDigit {value : Nat} (hvalue : value < 16) :
    hexValue? (hexDigit value) = some value := by
  have hall : ∀ v < 16, hexValue? (hexDigit v) = some v := by decide
  exact hall value hvalue

theorem hexValue?_hexDigit_mod (value : Nat) : hexValue? (hexDigit value) = some (value % 16) := by
  have hmod : hexDigit (value % 16) = hexDigit value := by rw [hexDigit, hexDigit, Nat.mod_mod]
  rw [← hmod, hexValue?_hexDigit (Nat.mod_lt value (by decide))]

theorem step?_hexDigit (tokens : List JsonToken) (before : List Char) (missing value digit : Nat) :
    (JsonScanner.mk tokens (.unit before (missing + 1) value)).step? (hexDigit digit) =
      some ⟨tokens, .unit before missing (16 * value + digit % 16)⟩ := by
  rw [step?]
  dsimp only
  rw [hexValue?_hexDigit_mod]
  rfl

theorem step?_last_hexDigit (tokens : List JsonToken) (before : List Char) (value digit : Nat) :
    (JsonScanner.mk tokens (.unit before 0 value)).step? (hexDigit digit) =
      (charOfUnit? (16 * value + digit % 16)).map fun meant =>
        ⟨tokens, .string (before ++ [meant])⟩ := by
  rw [step?]
  dsimp only
  rw [hexValue?_hexDigit_mod]
  rfl

theorem charOfUnit?_toNat (hc : c.toNat < 0x20) : charOfUnit? c.toNat = some c := by
  rw [charOfUnit?, if_pos (Or.inl (by omega)), Char.ofNat_toNat]

/-- Every character is read back from what it is written as. -/
theorem foldlM_escapeJsonChar (tokens : List JsonToken) (before : List Char) (c : Char) :
    (escapeJsonChar c).foldlM step? ⟨tokens, .string before⟩ =
      some ⟨tokens, .string (before ++ [c])⟩ := by
  unfold escapeJsonChar
  split
  -- The seven characters with an escape of their own.
  iterate 7 rfl
  rename_i hquote hbackslash _ _ _ _ _
  split
  · rename_i hcontrol
    have hvalue : 16 * (16 * 0 + c.toNat / 16 % 16) + c.toNat % 16 = c.toNat := by omega
    have hlast := step?_last_hexDigit tokens before (16 * 0 + c.toNat / 16 % 16) c.toNat
    rw [hvalue, charOfUnit?_toNat hcontrol] at hlast
    exact (foldlM_cons_of_step (step?_hexDigit tokens before 0 0 (c.toNat / 16)) _).trans
      (foldlM_cons_of_step hlast [])
  · rename_i hplain
    have hstep : (JsonScanner.mk tokens (.string before)).step? c =
        some ⟨tokens, .string (before ++ [c])⟩ :=
      (if_neg hquote).trans ((if_neg hbackslash).trans (if_neg hplain))
    exact foldlM_cons_of_step hstep []

theorem foldlM_flatMap_escapeJsonChar (tokens : List JsonToken) (before text : List Char) :
    (text.flatMap escapeJsonChar).foldlM step? ⟨tokens, .string before⟩ =
      some ⟨tokens, .string (before ++ text)⟩ := by
  induction text generalizing before with
  | nil =>
      rw [List.append_nil]
      rfl
  | cons c rest ih =>
      rw [List.flatMap_cons, List.foldlM_append, foldlM_escapeJsonChar]
      exact (ih (before ++ [c])).trans (by rw [List.append_assoc, List.singleton_append])

theorem foldlM_quoted (before : List JsonToken) (text : String) :
    (Json.quoted text).foldlM step? (between before) =
      some (between (before ++ [.string text])) := by
  have hopen : (between before).step? '"' = some ⟨before, .string []⟩ := rfl
  have hclose : (JsonScanner.mk before (.string text.toList)).step? '"' =
      some (between (before ++ [.string text])) :=
    congrArg (fun text => some (between (before ++ [JsonToken.string text]))) String.ofList_toList
  rw [Json.quoted, List.cons_append, foldlM_cons_of_step hopen, List.foldlM_append,
    foldlM_flatMap_escapeJsonChar, List.nil_append]
  exact foldlM_cons_of_step hclose []

theorem spells_quoted_append (text : String) (hrest : Spells rest later) :
    Spells (Json.quoted text ++ rest) (.string text :: later) := by
  intro before
  rw [List.foldlM_append, foldlM_quoted]
  exact (hrest _).trans (by rw [List.append_assoc, List.singleton_append])

end SerialConsole.Text
