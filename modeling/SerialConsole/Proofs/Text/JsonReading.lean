import SerialConsole.Proofs.Text.JsonTokens

/-!
# Reading JSON

What a JSON text says is read from its tokens with a stack of the arrays and
objects that are still open.  Every value is read back from the text it is
rendered as, so no two values are rendered alike, and no text of a value holds
a line feed.
-/

namespace SerialConsole.Text

namespace Json

/-- What holds for a value when it holds for all its parts holds for every
value. -/
@[induction_eliminator]
theorem induction {P : Json → Prop} (null : P .null) (number : ∀ value, P (.number value))
    (string : ∀ value, P (.string value))
    (array : ∀ items, (∀ item ∈ items, P item) → P (.array items))
    (object : ∀ fields, (∀ field ∈ fields, P field.2) → P (.object fields)) (value : Json) :
    P value :=
  @Json.rec P (fun items => ∀ item ∈ items, P item) (fun fields => ∀ field ∈ fields, P field.2)
    (fun field => P field.2) null number string array object
    (List.forall_mem_nil _) (fun _ _ hitem hitems => List.forall_mem_cons.mpr ⟨hitem, hitems⟩)
    (List.forall_mem_nil _) (fun _ _ hfield hfields => List.forall_mem_cons.mpr ⟨hfield, hfields⟩)
    (fun _ _ hvalue => hvalue) value

mutual

/-- The tokens a value is rendered with. -/
def tokens : Json → List JsonToken
  | .null => [.null]
  | .number value => [.number value]
  | .string value => [.string value]
  | .array items => .openArray :: itemTokens items
  | .object fields => .openObject :: fieldTokens fields

/-- The tokens of an array, behind its opening bracket. -/
def itemTokens : List Json → List JsonToken
  | [] => [.closeArray]
  | [item] => tokens item ++ [.closeArray]
  | item :: next :: rest => tokens item ++ .comma :: itemTokens (next :: rest)

/-- The tokens of an object, behind its opening brace. -/
def fieldTokens : List (String × Json) → List JsonToken
  | [] => [.closeObject]
  | [(name, value)] => .string name :: .colon :: (tokens value ++ [.closeObject])
  | (name, value) :: next :: rest =>
      .string name :: .colon :: (tokens value ++ .comma :: fieldTokens (next :: rest))

end

/-! ### From characters to tokens -/

theorem spells_itemChars {items : List Json}
    (hitems : ∀ item ∈ items, Spells item.chars item.tokens)
    {rest : List Char} {later : List JsonToken} (hrest : Spells rest later) :
    Spells (itemChars items ++ ']' :: rest) (itemTokens items ++ later) := by
  induction items with
  | nil => exact spells_mark_cons rfl hrest
  | cons item items ih =>
      obtain ⟨hitem, hafter⟩ := List.forall_mem_cons.mp hitems
      cases items with
      | nil =>
          rw [itemChars, itemTokens, List.append_assoc]
          exact hitem.append_mark rfl hrest
      | cons next items =>
          rw [itemChars, itemTokens, List.append_assoc, List.append_assoc]
          exact hitem.append_mark rfl (ih hafter)

theorem spells_fieldChars {fields : List (String × Json)}
    (hfields : ∀ field ∈ fields, Spells field.2.chars field.2.tokens)
    {rest : List Char} {later : List JsonToken} (hrest : Spells rest later) :
    Spells (fieldChars fields ++ '\x7d' :: rest) (fieldTokens fields ++ later) := by
  induction fields with
  | nil => exact spells_mark_cons rfl hrest
  | cons field fields ih =>
      obtain ⟨name, value⟩ := field
      obtain ⟨hvalue, hafter⟩ := List.forall_mem_cons.mp hfields
      cases fields with
      | nil =>
          simp only [fieldChars, fieldTokens, List.append_assoc, List.cons_append]
          exact spells_quoted_append name (spells_mark_cons rfl (hvalue.append_mark rfl hrest))
      | cons next fields =>
          simp only [fieldChars, fieldTokens, List.append_assoc, List.cons_append]
          exact spells_quoted_append name
            (spells_mark_cons rfl (hvalue.append_mark rfl (ih hafter)))

/-- The text of a value is read as the tokens of the value. -/
theorem spells_chars (value : Json) : Spells value.chars value.tokens := by
  induction value with
  | null => exact spells_null
  | number value => exact spells_number value
  | string value =>
      have hquoted := spells_quoted_append value spells_nil
      rwa [List.append_nil] at hquoted
  | array items hitems =>
      have hitemChars := spells_itemChars hitems spells_nil
      rw [List.append_nil] at hitemChars
      exact spells_mark_cons rfl hitemChars
  | object fields hfields =>
      have hfieldChars := spells_fieldChars hfields spells_nil
      rw [List.append_nil] at hfieldChars
      exact spells_mark_cons rfl hfieldChars

/-! ### From tokens to values -/

/-- What is open around a place in a text, with what it holds so far. -/
inductive Level where
  | items (before : List Json)
  | fields (before : List (String × Json)) (name : String)

/-- What comes next in a text. -/
inductive Reader where
  | atValue (around : List Level)
  /-- The first item of an array, or its end. -/
  | atFirstItem (around : List Level)
  /-- The name of the first field of an object, or its end. -/
  | atFirstName (around : List Level)
  | atName (before : List (String × Json)) (around : List Level)
  | atColon (before : List (String × Json)) (name : String) (around : List Level)
  /-- What follows a value that is complete. -/
  | afterValue (value : Json) (around : List Level)

namespace Reader

/-- Read the first token of a value. -/
def start? (around : List Level) (token : JsonToken) : Option Reader :=
  match token with
  | .null => some (.afterValue .null around)
  | .number value => some (.afterValue (.number value) around)
  | .string value => some (.afterValue (.string value) around)
  | .openArray => some (.atFirstItem around)
  | .openObject => some (.atFirstName around)
  | _ => none

/-- Read what follows a value. -/
def goOn? (value : Json) (around : List Level) (token : JsonToken) : Option Reader :=
  match around, token with
  | .items before :: around, .comma => some (.atValue (.items (before ++ [value]) :: around))
  | .items before :: around, .closeArray => some (.afterValue (.array (before ++ [value])) around)
  | .fields before name :: around, .comma => some (.atName (before ++ [(name, value)]) around)
  | .fields before name :: around, .closeObject =>
      some (.afterValue (.object (before ++ [(name, value)])) around)
  | _, _ => none

/-- Read a token. -/
def step? (reader : Reader) (token : JsonToken) : Option Reader :=
  match reader with
  | .atValue around => start? around token
  | .atFirstItem around =>
      if token = .closeArray then some (.afterValue (.array []) around)
      else start? (.items [] :: around) token
  | .atFirstName around =>
      match token with
      | .string name => some (.atColon [] name around)
      | .closeObject => some (.afterValue (.object []) around)
      | _ => none
  | .atName before around =>
      match token with
      | .string name => some (.atColon before name around)
      | _ => none
  | .atColon before name around =>
      if token = .colon then some (.atValue (.fields before name :: around)) else none
  | .afterValue value around => goOn? value around token

end Reader

/-- The value that tokens spell. -/
def ofTokens? (tokens : List JsonToken) : Option Json :=
  (tokens.foldlM Reader.step? (.atValue [])).bind fun reader =>
    match reader with
    | .afterValue value [] => some value
    | _ => none

/-- The value that a text spells. -/
def read? (text : String) : Option Json :=
  (jsonTokens? text.toList).bind ofTokens?

/-- The tokens of a value are read as the value, wherever one can stand. -/
def Readable (value : Json) : Prop :=
  ∀ around, value.tokens.foldlM Reader.step? (.atValue around) = some (.afterValue value around)

theorem foldlM_itemTokens {item : Json} {items : List Json}
    (hitems : ∀ part ∈ item :: items, Readable part) (before : List Json) (around : List Level) :
    (itemTokens (item :: items)).foldlM Reader.step? (.atValue (.items before :: around)) =
      some (.afterValue (.array (before ++ item :: items)) around) := by
  induction items generalizing item before with
  | nil =>
      rw [itemTokens, List.foldlM_append, hitems item List.mem_cons_self]
      rfl
  | cons next items ih =>
      obtain ⟨hitem, hafter⟩ := List.forall_mem_cons.mp hitems
      rw [itemTokens, List.foldlM_append, hitem, List.append_cons]
      exact ih hafter (before ++ [item])

theorem foldlM_name_colon (name : String) (later : List JsonToken)
    (before : List (String × Json)) (around : List Level) :
    (.string name :: .colon :: later).foldlM Reader.step? (.atName before around) =
      later.foldlM Reader.step? (.atValue (.fields before name :: around)) := rfl

theorem foldlM_fieldTokens {name : String} {value : Json} {fields : List (String × Json)}
    (hfields : ∀ field ∈ (name, value) :: fields, Readable field.2)
    (before : List (String × Json)) (around : List Level) :
    (fieldTokens ((name, value) :: fields)).foldlM Reader.step? (.atName before around) =
      some (.afterValue (.object (before ++ (name, value) :: fields)) around) := by
  induction fields generalizing name value before with
  | nil =>
      have hvalue := hfields _ List.mem_cons_self (.fields before name :: around)
      rw [fieldTokens, foldlM_name_colon, List.foldlM_append, hvalue]
      rfl
  | cons next fields ih =>
      obtain ⟨hvalue, hafter⟩ := List.forall_mem_cons.mp hfields
      rw [fieldTokens, foldlM_name_colon, List.foldlM_append, hvalue, List.append_cons]
      exact ih hafter (before ++ [(name, value)])

/-- No value starts with the end of an array. -/
theorem exists_tokens_eq_cons (value : Json) :
    ∃ first later, value.tokens = first :: later ∧ first ≠ .closeArray := by
  cases value with
  | null => exact ⟨.null, [], rfl, JsonToken.noConfusion⟩
  | number value => exact ⟨.number value, [], rfl, JsonToken.noConfusion⟩
  | string value => exact ⟨.string value, [], rfl, JsonToken.noConfusion⟩
  | array items => exact ⟨.openArray, itemTokens items, rfl, JsonToken.noConfusion⟩
  | object fields => exact ⟨.openObject, fieldTokens fields, rfl, JsonToken.noConfusion⟩

theorem foldlM_atFirstItem (item : Json) (items : List Json) (around : List Level) :
    (itemTokens (item :: items)).foldlM Reader.step? (.atFirstItem around) =
      (itemTokens (item :: items)).foldlM Reader.step? (.atValue (.items [] :: around)) := by
  obtain ⟨first, later, htokens, hfirst⟩ := exists_tokens_eq_cons item
  have hcons : ∃ others, itemTokens (item :: items) = first :: others := by
    cases items with
    | nil => exact ⟨later ++ [.closeArray], by rw [itemTokens, htokens, List.cons_append]⟩
    | cons next rest =>
      exact ⟨later ++ .comma :: itemTokens (next :: rest), by
        rw [itemTokens, htokens, List.cons_append]⟩
  obtain ⟨others, hothers⟩ := hcons
  have hstep : (Reader.atFirstItem around).step? first =
      (Reader.atValue (.items [] :: around)).step? first := if_neg hfirst
  rw [hothers, List.foldlM_cons, List.foldlM_cons, hstep]

theorem foldlM_atFirstName (field : String × Json) (fields : List (String × Json))
    (around : List Level) :
    (fieldTokens (field :: fields)).foldlM Reader.step? (.atFirstName around) =
      (fieldTokens (field :: fields)).foldlM Reader.step? (.atName [] around) := by
  cases fields <;> rfl

theorem readable (value : Json) : Readable value := by
  induction value with
  | null => exact fun around => rfl
  | number value => exact fun around => rfl
  | string value => exact fun around => rfl
  | array items hitems =>
      intro around
      rw [tokens]
      cases items with
      | nil => rfl
      | cons item items =>
          exact (foldlM_atFirstItem item items around).trans (foldlM_itemTokens hitems [] around)
  | object fields hfields =>
      intro around
      rw [tokens]
      cases fields with
      | nil => rfl
      | cons field fields =>
          exact (foldlM_atFirstName field fields around).trans
            (foldlM_fieldTokens hfields [] around)

theorem ofTokens?_tokens (value : Json) : ofTokens? value.tokens = some value := by
  rw [ofTokens?, readable]
  rfl

/-- Every value is read back from its text. -/
theorem read?_render (value : Json) : read? value.render = some value := by
  rw [read?, render, String.toList_ofList, (spells_chars value).jsonTokens?_eq]
  exact ofTokens?_tokens value

/-- Blanks and other ways to write a character make no difference. -/
example : read? " [ \"\\u0041\\/\" , null ]" = some (.array [.string "A/", .null]) := rfl

example : (read? "[1,]").isNone = true := by decide

/-! ### What a value holds -/

/-- The value of a field.  A name that stands twice names none. -/
def field? (name : String) : Json → Option Json
  | .object fields =>
      match fields.filter fun field => field.1 == name with
      | [field] => some field.2
      | _ => none
  | _ => none

def text? : Json → Option String
  | .string value => some value
  | _ => none

def natural? : Json → Option Nat
  | .number value => some value
  | _ => none

/-- What `null`, or a value that is not `null`, stands for. -/
def orNull? {α : Type} (read : Json → Option α) : Json → Option (Option α)
  | .null => some none
  | value => (read value).map some

/-! ### No control characters -/

theorem le_toNat_of_isDigit {c : Char} (hc : c.isDigit = true) : 0x20 ≤ c.toNat := by
  have hzero : '0'.toNat ≤ c.toNat := (isDigit_iff.mp hc).1
  exact Nat.le_trans (by decide) hzero

theorem le_toNat_hexDigit (value : Nat) : 0x20 ≤ (hexDigit value).toNat := by
  have hall : ∀ v < 16, 0x20 ≤ (Nat.digitChar v).toNat := by decide
  exact hall _ (Nat.mod_lt value (by decide))

theorem le_toNat_of_mem_escapeJsonChar {c d : Char} (hd : d ∈ escapeJsonChar c) :
    0x20 ≤ d.toNat := by
  unfold escapeJsonChar at hd
  split at hd
  iterate 7
    · simp only [List.mem_cons, List.not_mem_nil, or_false] at hd
      rcases hd with rfl | rfl
      all_goals decide
  · split at hd
    · simp only [List.mem_cons, List.not_mem_nil, or_false] at hd
      rcases hd with rfl | rfl | rfl | rfl | rfl | rfl
      iterate 4 decide
      all_goals exact le_toNat_hexDigit _
    · rw [List.mem_singleton.mp hd]
      exact Nat.le_of_not_lt ‹_›

theorem le_toNat_of_mem_quoted (text : String) : ∀ c ∈ quoted text, 0x20 ≤ c.toNat := by
  rw [quoted, List.cons_append, List.forall_mem_cons, List.forall_mem_append,
    List.forall_mem_singleton]
  refine ⟨by decide, fun c hc => ?_, by decide⟩
  obtain ⟨meant, -, hc⟩ := List.mem_flatMap.mp hc
  exact le_toNat_of_mem_escapeJsonChar hc

theorem le_toNat_of_mem_itemChars {items : List Json}
    (hitems : ∀ item ∈ items, ∀ c ∈ item.chars, 0x20 ≤ c.toNat) :
    ∀ c ∈ itemChars items, 0x20 ≤ c.toNat := by
  induction items with
  | nil => exact List.forall_mem_nil _
  | cons item items ih =>
      obtain ⟨hitem, hafter⟩ := List.forall_mem_cons.mp hitems
      cases items with
      | nil => exact hitem
      | cons next items =>
          rw [itemChars, List.forall_mem_append, List.forall_mem_cons]
          exact ⟨hitem, by decide, ih hafter⟩

theorem le_toNat_of_mem_fieldChars {fields : List (String × Json)}
    (hfields : ∀ field ∈ fields, ∀ c ∈ field.2.chars, 0x20 ≤ c.toNat) :
    ∀ c ∈ fieldChars fields, 0x20 ≤ c.toNat := by
  induction fields with
  | nil => exact List.forall_mem_nil _
  | cons field fields ih =>
      obtain ⟨name, value⟩ := field
      obtain ⟨hvalue, hafter⟩ := List.forall_mem_cons.mp hfields
      cases fields with
      | nil =>
          rw [fieldChars, List.forall_mem_append, List.forall_mem_cons]
          exact ⟨le_toNat_of_mem_quoted name, by decide, hvalue⟩
      | cons next fields =>
          rw [fieldChars, List.forall_mem_append, List.forall_mem_append, List.forall_mem_cons,
            List.forall_mem_cons]
          exact ⟨⟨le_toNat_of_mem_quoted name, by decide, hvalue⟩, by decide, ih hafter⟩

/-- The text of a value has no control character below U+0020, and so no line
feed. -/
theorem le_toNat_of_mem_chars (value : Json) : ∀ c ∈ value.chars, 0x20 ≤ c.toNat := by
  induction value with
  | null =>
      have hnull : ("null".toList.all fun c => decide (0x20 ≤ c.toNat)) = true := by decide
      exact fun c hc => of_decide_eq_true (List.all_eq_true.mp hnull c hc)
  | number value => exact fun c hc => le_toNat_of_isDigit ((digits_toDigits value).isDigit c hc)
  | string value => exact le_toNat_of_mem_quoted value
  | array items hitems =>
      rw [chars, List.cons_append, List.forall_mem_cons, List.forall_mem_append,
        List.forall_mem_singleton]
      exact ⟨by decide, le_toNat_of_mem_itemChars hitems, by decide⟩
  | object fields hfields =>
      rw [chars, List.cons_append, List.forall_mem_cons, List.forall_mem_append,
        List.forall_mem_singleton]
      exact ⟨by decide, le_toNat_of_mem_fieldChars hfields, by decide⟩

theorem lf_notMem_render (value : Json) : '\n' ∉ value.render.toList := by
  rw [render, String.toList_ofList]
  intro hlf
  exact absurd (le_toNat_of_mem_chars value '\n' hlf) (by decide)

end Json

end SerialConsole.Text
