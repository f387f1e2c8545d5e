import WebCapture.Url.Reader

set_option autoImplicit false

/-! # Which addresses are admitted

The crawler runs inside a private network, so an address that leads to the machine itself, into
the network or to a port of a well-known service must not reach it. `vet` reads a submitted text,
refuses such addresses, drops credentials and gives the address the text under which it is stored,
the canonical text.

Everything but two things is judged by the address that was read. Whether the port of the scheme
was named can only be seen in the submitted text, since it does not show in the address, and so
can whether a path was submitted: the canonical text leaves a lone slash out where the submitted
text had none. For both, the text is searched as it is, and the search does not know all the
spellings that the reader of addresses knows.

What is refused is told to two kinds of readers, by `Refusal.message` to those who run the service
and by `Refusal.userMessage` to those who submit.
-/

namespace WebCapture.Url

inductive Refusal where
  | empty
  /-- The text cannot be read as an address. -/
  | unreadable (reason : String)
  | noScheme
  | scheme (name : List Char)
  | loopback
  | privateNetwork
  | wellKnownPort (port : Nat)
  deriving DecidableEq, Repr

/-- An admitted address: the address without credentials, and its canonical text. -/
structure CleanUrl where
  url : WebUrl
  canonical : List Char
  deriving DecidableEq, Repr

def CleanUrl.text (clean : CleanUrl) : String := String.ofList clean.canonical

/-! ## The text as it was submitted -/

/-- What follows the first `://` of a text. -/
def behindScheme? : List Char → Option (List Char)
  | [] => none
  | c :: rest =>
    if c = ':' then
      match rest with
      | '/' :: '/' :: behind => some behind
      | _ => behindScheme? rest
    else behindScheme? rest

/-- What follows the last character of `cs` that is `mark`. -/
def behindLast? (mark : Char) (cs : List Char) : Option (List Char) :=
  if mark ∈ cs then some (cs.reverse.takeWhile (· != mark)).reverse else none

/-- The text of the port in a submitted text. -/
def submittedPortText? (source : List Char) : Option (List Char) :=
  match behindScheme? source with
  | none => none
  | some behind =>
    let authority := behind.takeWhile (!endsAuthority ·)
    let hostPort := (behindLast? '@' authority).getD authority
    match behindLast? ']' hostPort with
    | some (':' :: port) => some port
    | some _ => none
    | none => behindLast? ':' hostPort

/-- The number that a port text denotes: digits, perhaps behind a plus sign. -/
def portNumber? (cs : List Char) : Option Nat :=
  Text.numberBelow? 65536 (Text.withoutPlus cs)

/-- The port that an address names. The port of the scheme does not show in the address, so it
is looked for in the submitted text. -/
def namedPort? (url : WebUrl) (source : List Char) : Option Nat :=
  match url.port with
  | some port => some port
  | none => (submittedPortText? source).bind portNumber?

/-- Whether a submitted text has a path of its own. -/
def hasPath (source : List Char) : Bool :=
  match behindScheme? source with
  | none => true
  | some behind =>
    match behind.find? endsAuthority with
    | some c => isSlash c
    | none => false

/-- The canonical text: without the slash that stands for a path that was not submitted. -/
def canonicalText (url : WebUrl) (source : List Char) : List Char :=
  if url.path = [[]] ∧ hasPath source = false then url.beforePath ++ url.afterPath else url.text

/-! ## What is refused -/

def checkIpv4 (address : Ipv4) : Except Refusal Unit :=
  if address.isLoopback then .error .loopback
  else if address.isPrivate then .error .privateNetwork
  else .ok ()

def checkHost : Host → Except Refusal Unit
  | .name text => if text = "localhost".toList then .error .loopback else .ok ()
  | .ipv4 address => checkIpv4 address
  | .ipv6 address =>
    match address.mapped? with
    | some mapped => checkIpv4 mapped
    | none =>
      if address.isLoopback then .error .loopback
      else if address.isPrivate then .error .privateNetwork
      else .ok ()

def checkPort (port : Option Nat) : Except Refusal Unit :=
  match port with
  | some port => if 1 ≤ port ∧ port < 1023 then .error (.wellKnownPort port) else .ok ()
  | none => .ok ()

/-- Reads a text that is not empty, with the text that it was read from: without `strict` a
missing scheme is taken to be `https`. -/
def readSubmitted (strict : Bool) (raw : List Char) :
    Except Refusal (Address × List Char) :=
  match read raw with
  | .ok address => .ok (address, raw)
  | .error .noScheme =>
    if strict then .error .noScheme
    else
      let source := "https://".toList ++ raw
      match read source with
      | .ok address => .ok (address, source)
      | .error e => .error (.unreadable e.message)
  | .error e => .error (.unreadable e.message)

/-- Admits or refuses an address that was read from `source`. -/
def admitAddress (address : Address) (source : List Char) : Except Refusal CleanUrl :=
  match address with
  | .other scheme => .error (.scheme scheme)
  | .web url _ =>
    let url := url.withoutCredentials
    match checkHost url.host with
    | .error e => .error e
    | .ok () =>
      match checkPort (namedPort? url source) with
      | .error e => .error e
      | .ok () => .ok ⟨url, canonicalText url source⟩

/-- Admits or refuses a submitted text. Its length is for the caller to limit. -/
def vet (raw : String) (strict : Bool) : Except Refusal CleanUrl :=
  let raw := Text.trimBy Text.isBlank raw.toList
  if raw = [] then .error .empty
  else
    match readSubmitted strict raw with
    | .error e => .error e
    | .ok (address, source) => admitAddress address source

/-! ## Messages -/

def Refusal.message : Refusal → String
  | .empty => "the URL is empty"
  | .unreadable reason => "the URL failed to parse: " ++ reason
  | .noScheme => "the URL has empty scheme"
  | .scheme name => "the URL has forbidden scheme: " ++ String.ofList name
  | .loopback => "the URL must not be a loopback address"
  | .privateNetwork => "the URL host must not be a private IP address"
  | .wellKnownPort port => "the URL port must not be in well-known range: " ++ toString port

/-- What the person who submitted the address is told. -/
def Refusal.userMessage : Refusal → String
  | .empty => "Please enter a web address."
  | .unreadable _ => "The web address could not be understood."
  | .noScheme => "The web address must start with http:// or https://."
  | .scheme _ => "Only http:// and https:// addresses can be archived."
  | .loopback => "Addresses pointing to this machine cannot be archived."
  | .privateNetwork => "Addresses in a private network cannot be archived."
  | .wellKnownPort _ => "Addresses using a reserved port (1-1022) cannot be archived."

end WebCapture.Url
