import WebCapture.Text.Blank
import WebCapture.Text.Utf8

set_option autoImplicit false

/-! # Files of addresses

Addresses can be given in a file, one on each line. Empty lines and lines that start with a number
sign are left out, and so are the blanks around an address. A file whose bytes are no text is not
read at all.
-/

namespace WebCapture.CommandLine

open Text.Utf8 (Bytes)

inductive FileError where
  | notFound
  | noText
  deriving DecidableEq, Repr

def FileError.message : FileError → String
  | .notFound => "No such file or directory (os error 2)"
  | .noText => "stream did not contain valid UTF-8"

/-- The text of a file, given its bytes if it is there. -/
def textOfFile (content : Option Bytes) : Except FileError String :=
  match content with
  | none => .error .notFound
  | some bytes =>
    match Text.Utf8.toString? bytes with
    | some text => .ok text
    | none => .error .noText

/-- The addresses in the text of a file. -/
def urlsIn (text : String) : List String :=
  ((text.toList.splitOn '\n').map (Text.trimBy Text.isBlank)).filter
      (fun line => line ≠ [] ∧ line.head? ≠ some '#')
    |>.map String.ofList

end WebCapture.CommandLine
