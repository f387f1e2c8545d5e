import WebCapture.Text.Quoted

set_option autoImplicit false

/-! # Writing JSON

Texts are written without blanks. Strings keep every character that need not be escaped: quotation
marks, backslashes and control characters are, and control characters without a letter of their
own are written by their number.
-/

namespace WebCapture.Json

def escapedChar (c : Char) : List Char :=
  match c with
  | '"' => ['\\', '"']
  | '\\' => ['\\', '\\']
  | '\x08' => ['\\', 'b']
  | '\t' => ['\\', 't']
  | '\n' => ['\\', 'n']
  | '\x0c' => ['\\', 'f']
  | '\r' => ['\\', 'r']
  | _ =>
    if c.toNat < 0x20 then
      let digits := Nat.toDigits 16 c.toNat
      ['\\', 'u'] ++ List.replicate (4 - digits.length) '0' ++ digits
    else [c]

def stringText (s : String) : List Char :=
  ['"'] ++ s.toList.flatMap escapedChar ++ ['"']

def separated : List (List Char) → List Char
  | [] => []
  | [piece] => piece
  | piece :: more => piece ++ [','] ++ separated more

def listText (items : List (List Char)) : List Char := ['['] ++ separated items ++ [']']

def objectText (members : List (String × List Char)) : List Char :=
  ['\x7b'] ++ separated (members.map fun (key, text) => stringText key ++ [':'] ++ text) ++
    ['\x7d']

def booleanText (b : Bool) : List Char := if b then "true".toList else "false".toList

end WebCapture.Json
