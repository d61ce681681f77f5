import SerialConsole.Text.Marks
import SerialConsole.Text.Shapeless

/-!
# Text made visible

In one-line descriptions a text stands between quotation marks, with every
character escaped that would not show as itself.  In a path the apostrophe is
escaped as well.
-/

namespace SerialConsole.Text

/-- Whether a character shows as itself. -/
def isPrintable (c : Char) : Bool :=
  !(isShapeless c || isExtending c)

def inspectChar (c : Char) : List Char :=
  match c with
  | '\x00' => ['\\', '0']
  | '\t' => ['\\', 't']
  | '\r' => ['\\', 'r']
  | '\n' => ['\\', 'n']
  | '"' => ['\\', '"']
  | '\\' => ['\\', '\\']
  | _ =>
      if isPrintable c then [c]
      else ['\\', 'u', '\x7b'] ++ Nat.toDigits 16 c.toNat ++ ['\x7d']

/-- A text between quotation marks. -/
def inspect (text : String) : String :=
  String.ofList ('"' :: text.toList.flatMap inspectChar ++ ['"'])

def inspectPathChar (c : Char) : List Char :=
  if c = '\x27' then ['\\', '\x27'] else inspectChar c

/-- A path between quotation marks. -/
def inspectPath (path : String) : String :=
  String.ofList ('"' :: path.toList.flatMap inspectPathChar ++ ['"'])

end SerialConsole.Text
