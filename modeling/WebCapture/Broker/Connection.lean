import WebCapture.Url.Reader

set_option autoImplicit false

/-! # Connecting to the broker

A broker goes by an address, whose scheme tells how it is reached: over the network by its host,
or through a file. The path of an address with a host is the number of a database.

Addresses are read here only as far as it takes to tell whether a connection can be tried at all.
What is wrong with one is a `ConnectionFault`; that nobody answers at the address is one more
fault, which does not come from its text.
-/

namespace WebCapture.Broker

/-- Why no connection comes about. -/
inductive ConnectionFault where
  /-- The address is not that of a broker. -/
  | address
  /-- The address has no host. -/
  | host
  /-- The broker is to be reached through encryption, which is not at hand. -/
  | encryption
  /-- The path of the address is no number. -/
  | database
  /-- Nobody answers at the address. -/
  | refused
  deriving DecidableEq, Repr

def ConnectionFault.message : ConnectionFault → String
  | .address => "Redis URL did not parse- InvalidClientConfig"
  | .host => "Missing hostname- InvalidClientConfig"
  | .encryption => "can't connect with TLS, the feature is not enabled- InvalidClientConfig"
  | .database => "Invalid database number- InvalidClientConfig"
  | .refused => "Connection refused (os error 111)"

/-- How a broker is reached. -/
inductive Route where
  | network
  | encrypted
  | file
  deriving DecidableEq, Repr

def Route.ofScheme? (scheme : List Char) : Option Route :=
  if scheme = "redis".toList then some .network
  else if scheme = "rediss".toList then some .encrypted
  else if scheme = "unix".toList ∨ scheme = "redis+unix".toList then some .file
  else none

/-- The host and the path of an address, from the text behind its scheme. -/
def hostAndPath (cs : List Char) : List Char × List Char :=
  let behindSlashes := match cs with
    | '/' :: '/' :: rest => rest
    | _ => []
  let authority := behindSlashes.takeWhile (!Url.endsPlainAuthority ·)
  let hostPort := (Url.splitUser authority).2
  (hostPort.take (Url.hostLength false hostPort),
    (behindSlashes.drop authority.length).takeWhile (!Url.endsPath ·))

/-- Whether a text is the number of a database: a number of 64 bits with a sign. -/
def isDatabase (cs : List Char) : Bool :=
  match cs with
  | '-' :: digits => (Text.numberBelow? 0x8000000000000001 digits).isSome
  | digits => (Text.numberBelow? 0x8000000000000000 (Text.withoutPlus digits)).isSome

/-- Checks the host and the database of an address. -/
def checkNetwork (route : Route) (cs : List Char) : Except ConnectionFault Unit :=
  let (host, path) := hostAndPath cs
  let database := Text.trimBy (· == '/') path
  if host = [] then .error .host
  else if route = .encrypted then .error .encryption
  else if database = [] || isDatabase database then .ok ()
  else .error .database

def checkAddress (text : String) : Except ConnectionFault Unit :=
  match Url.read text.toList, Url.splitScheme? (Url.counted text.toList) with
  | .ok _, some (scheme, rest) =>
    match Route.ofScheme? scheme with
    | none => .error .address
    | some .file => .ok ()
    | some route => checkNetwork route rest
  | _, _ => .error .address

end WebCapture.Broker
