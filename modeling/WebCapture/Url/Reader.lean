import WebCapture.Url.Basic

set_option autoImplicit false

/-! # Reading addresses

`read` takes any text apart the way browsers do: blanks and controls around it do not count, nor
do tabs and line ends inside it, a backslash is as good as a slash, any number of slashes may
follow the scheme, and dot segments of the path are resolved.

Only addresses of web pages are kept in full. Of any other address the scheme is told, after a
check that its host and port could be read.

The file follows a text from front to back. The scheme goes up to the first colon; the authority
up to a slash, a question mark or a number sign, with the user in front of its last `@`; the host
up to a colon outside of brackets; then come the path, the query and the fragment. Reading fails
only in the scheme, the host and the port. What stands in the path, the query and the fragment is
never refused, but escaped.
-/

namespace WebCapture.Url

inductive Address where
  /-- A web page. `writtenPort` is the port as it is written, even if it is that of the
  scheme. -/
  | web (url : WebUrl) (writtenPort : Option Nat)
  /-- An address with another scheme. -/
  | other (scheme : List Char)
  deriving DecidableEq, Repr

/-! ## The ends and the scheme -/

/-- Whether a character does not count at the ends of an address. -/
def isOuter (c : Char) : Bool := c.toNat ≤ 0x20

/-- Whether a character does not count anywhere in an address. -/
def isSkipped (c : Char) : Bool := c == '\t' || c == '\n' || c == '\r'

def counted (cs : List Char) : List Char :=
  (Text.trimBy isOuter cs).filter (!isSkipped ·)

def isLetter (c : Char) : Bool := c.isAlpha

def isSchemeChar (c : Char) : Bool := c.isAlphanum || c == '+' || c == '-' || c == '.'

/-- The scheme, in lower case, and the text behind its colon. -/
def splitScheme? (cs : List Char) : Option (List Char × List Char) :=
  match cs with
  | [] => none
  | first :: _ =>
    if !isLetter first then none
    else match cs.dropWhile isSchemeChar with
      | ':' :: rest => some ((cs.takeWhile isSchemeChar).map HostName.lower, rest)
      | _ => none

/-! ## The authority -/

def isSlash (c : Char) : Bool := c == '/' || c == '\\'

def endsAuthority (c : Char) : Bool := isSlash c || c == '?' || c == '#'

/-- Whether a character ends the authority of an address in which a backslash is an ordinary
character. -/
def endsPlainAuthority (c : Char) : Bool := c == '/' || c == '?' || c == '#'

/-- An authority without the part up to its last `@`, and that part without the `@`. -/
def splitUser (authority : List Char) : Option (List Char) × List Char :=
  let behind := authority.reverse.takeWhile (· != '@')
  if behind.length = authority.length then (none, authority)
  else (some (authority.take (authority.length - behind.length - 1)), behind.reverse)

/-- The length of the host at the start of `cs`: it goes up to the first colon that is not
between brackets. -/
def hostLength (inBrackets : Bool) : List Char → Nat
  | [] => 0
  | c :: rest =>
    if c = ':' ∧ inBrackets = false then 0
    else hostLength (if c = '[' then true else if c = ']' then false else inBrackets) rest + 1

/-- The user name and password in front of a host: the first colon parts them. -/
def Credentials.read (cs : List Char) : Credentials :=
  ⟨escape userSet (cs.takeWhile (· != ':')), escape userSet ((cs.dropWhile (· != ':')).drop 1)⟩

def readPort (cs : List Char) : Except AddressError (Option Nat) :=
  if cs = [] then .ok none
  else match Text.numberBelow? 65536 cs with
    | some port => .ok (some port)
    | none => .error .port

/-- Reads what follows a host up to the end of the authority. -/
def readPortText (cs : List Char) : Except AddressError (Option Nat) :=
  match cs with
  | ':' :: digits => readPort digits
  | _ => .ok none

/-! ## The path -/

def isSingleDot (segment : List Char) : Bool :=
  let s := segment.map HostName.lower
  s == ['.'] || s == ['%', '2', 'e']

def isDoubleDot (segment : List Char) : Bool :=
  let s := segment.map HostName.lower
  s == ['.', '.'] || s == ['.', '%', '2', 'e'] || s == ['%', '2', 'e', '.'] ||
    s == ['%', '2', 'e', '%', '2', 'e']

/-- Whether a segment looks like a drive, which no step upwards leaves. -/
def isDrive (segment : List Char) : Bool :=
  match segment with
  | [letter, mark] => isLetter letter && (mark == ':' || mark == '|')
  | _ => false

/-- The segments above the last one, unless that is a drive; the last one comes first. -/
def parent (done : List (List Char)) : List (List Char) :=
  match done with
  | [] => []
  | last :: above => if isDrive last then done else above

/-- Resolves dot segments: `done` are the segments so far, the last one first. A path that ends
in a dot segment ends in a slash. -/
def resolve (done : List (List Char)) : List (List Char) → List (List Char)
  | [] => done.reverse
  | [last] =>
    if isDoubleDot last then ([] :: parent done).reverse
    else if isSingleDot last then ([] :: done).reverse
    else (last :: done).reverse
  | segment :: more =>
    if isDoubleDot segment then resolve (parent done) more
    else if isSingleDot segment then resolve done more
    else resolve (segment :: done) more

def readPath (cs : List Char) : List (List Char) :=
  let cs := match cs with
    | c :: rest => if isSlash c then rest else c :: rest
    | [] => []
  resolve [] ((cs.splitOnP isSlash).map (escape pathSet))

/-! ## Whole addresses -/

/-- The query and the fragment, from the character that starts the first of them. -/
def readQueryAndFragment (cs : List Char) : Option (List Char) × Option (List Char) :=
  match cs with
  | '?' :: rest =>
    (some (escape querySet (rest.takeWhile (· != '#'))),
      match rest.dropWhile (· != '#') with
      | _ :: fragment => some (escape fragmentSet fragment)
      | [] => none)
  | '#' :: fragment => (none, some (escape fragmentSet fragment))
  | _ => (none, none)

def endsPath (c : Char) : Bool := c == '?' || c == '#'

/-- Reads the address of a web page behind its scheme. -/
def readWeb (scheme : Scheme) (cs : List Char) : Except AddressError Address := do
  let cs := cs.dropWhile isSlash
  let authority := cs.takeWhile (!endsAuthority ·)
  let rest := cs.dropWhile (!endsAuthority ·)
  let (user, hostPort) := splitUser authority
  let length := hostLength false hostPort
  if length = 0 then .error .emptyHost
  else
    let host ← Host.read (hostPort.take length)
    let written ← readPortText (hostPort.drop length)
    let (query, fragment) := readQueryAndFragment (rest.dropWhile (!endsPath ·))
    .ok (.web
      { scheme
        credentials := Credentials.read (user.getD [])
        host
        port := if written = some scheme.port then none else written
        path := readPath (rest.takeWhile (!endsPath ·))
        query
        fragment } written)

/-- Whether a scheme is read like that of a web page, though it is not one. -/
def isWebLike (scheme : List Char) : Bool :=
  scheme ∈ [['f', 't', 'p'], ['w', 's'], ['w', 's', 's']]

/-- Checks the authority of an address whose scheme gives it no meaning. -/
def checkPlainAuthority (cs : List Char) : Except AddressError Unit := do
  let authority := cs.takeWhile (!endsPlainAuthority ·)
  let rest := cs.dropWhile (!endsPlainAuthority ·)
  let (user, hostPort) := splitUser authority
  if user = some [] ∧ hostPort = [] ∧ rest ≠ [] then .error .emptyHost
  else
    let length := hostLength false hostPort
    Host.checkOpaque (hostPort.take length)
    if length = 0 ∧ hostPort ≠ [] then .error .emptyHost
    else
      let _ ← readPortText ((hostPort.drop length).takeWhile (· != '\\'))
      let credentials := Credentials.read (user.getD [])
      if length = 0 ∧ credentials ≠ Credentials.none then .error .emptyHost else .ok ()

/-- Checks the host of a file address. A drive in its place is no host. -/
def checkFileHost (cs : List Char) : Except AddressError Unit :=
  match cs with
  | a :: b :: rest =>
    if isSlash a && isSlash b then
      let host := rest.takeWhile (!endsAuthority ·)
      if host = [] || isDrive host then .ok () else (Host.read host).map fun _ => ()
    else .ok ()
  | _ => .ok ()

/-- Checks an address that is none of a web page. -/
def checkOther (scheme cs : List Char) : Except AddressError Unit :=
  if scheme = ['f', 'i', 'l', 'e'] then checkFileHost cs
  else if isWebLike scheme then (readWeb .http cs).map fun _ => ()
  else match cs with
    | '/' :: '/' :: rest => checkPlainAuthority rest
    | _ => .ok ()

def read (cs : List Char) : Except AddressError Address :=
  match splitScheme? (counted cs) with
  | none => .error .noScheme
  | some (name, rest) =>
    match Scheme.ofName? name with
    | some scheme => readWeb scheme rest
    | none => (checkOther name rest).map fun _ => .other name

end WebCapture.Url
