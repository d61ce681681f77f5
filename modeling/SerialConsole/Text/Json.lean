/-!
# One-line JSON

The values the console prints, written without blanks and with the fields in
the order given.  In strings only the quotation mark, the backslash and the
control characters below U+0020 are escaped, so the text of a value holds no
line feed.
-/

namespace SerialConsole.Text

/-- A hexadecimal digit, lower case. -/
def hexDigit (value : Nat) : Char :=
  Nat.digitChar (value % 16)

/-- How one character is written inside a JSON string. -/
def escapeJsonChar (c : Char) : List Char :=
  match c with
  | '"' => ['\\', '"']
  | '\\' => ['\\', '\\']
  | '\n' => ['\\', 'n']
  | '\r' => ['\\', 'r']
  | '\t' => ['\\', 't']
  | '\x08' => ['\\', 'b']
  | '\x0c' => ['\\', 'f']
  | _ =>
      if c.toNat < 0x20 then
        ['\\', 'u', '0', '0', hexDigit (c.toNat / 16), hexDigit c.toNat]
      else [c]

/-- A JSON value. -/
inductive Json where
  | null
  | number (value : Nat)
  | string (value : String)
  | array (items : List Json)
  | object (fields : List (String × Json))

namespace Json

def quoted (text : String) : List Char :=
  '"' :: text.toList.flatMap escapeJsonChar ++ ['"']

mutual

def chars : Json → List Char
  | .null => "null".toList
  | .number value => Nat.toDigits 10 value
  | .string value => quoted value
  | .array items => '[' :: itemChars items ++ [']']
  | .object fields => '\x7b' :: fieldChars fields ++ ['\x7d']

def itemChars : List Json → List Char
  | [] => []
  | [item] => chars item
  | item :: next :: rest => chars item ++ ',' :: itemChars (next :: rest)

def fieldChars : List (String × Json) → List Char
  | [] => []
  | [(name, value)] => quoted name ++ ':' :: chars value
  | (name, value) :: next :: rest =>
      quoted name ++ ':' :: chars value ++ ',' :: fieldChars (next :: rest)

end

/-- The JSON text of a value. -/
def render (value : Json) : String :=
  String.ofList value.chars

end Json

end SerialConsole.Text
