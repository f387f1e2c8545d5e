import WebCapture.Text.Digits
import WebCapture.Unicode.Escaped

set_option autoImplicit false

/-! # Quoted text in messages

A message that repeats what it was given puts it between double quotes and writes what a reader
could not see, or could mistake for the end of the quotation, as an escape. Which characters these
are beyond ASCII is a table of its own (`Unicode/Escaped`).
-/

namespace WebCapture.Text

def quotedChar (c : Char) : List Char :=
  match c with
  | '\x00' => ['\\', '0']
  | '\t' => ['\\', 't']
  | '\n' => ['\\', 'n']
  | '\r' => ['\\', 'r']
  | '"' => ['\\', '"']
  | '\\' => ['\\', '\\']
  | _ =>
    if Unicode.isEscaped c then
      ['\\', 'u', '\x7b'] ++ hex c.toNat ++ ['\x7d']
    else [c]

/-- The text between double quotes, with escapes. -/
def quoted (s : String) : String :=
  String.ofList (['"'] ++ s.toList.flatMap quotedChar ++ ['"'])

end WebCapture.Text
