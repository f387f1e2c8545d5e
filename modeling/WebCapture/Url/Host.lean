import WebCapture.Url.Address
import WebCapture.Url.HostName
import WebCapture.Url.Percent

set_option autoImplicit false

/-! # Hosts

The host of an address is a name or a numeric address. `Host.read` reads one in any spelling and
`Host.text` writes it in the one form that is stored and sent. `AddressError` holds the reasons
for which an address cannot be read, here and in `Url/Reader`.

A name goes through `HostName.toAscii?`, and only its ASCII form is looked at for a number: a host
in full-width digits is a numeric address. An address whose scheme gives hosts no meaning keeps
them as they are written, and they are only checked.
-/

namespace WebCapture.Url

inductive AddressError where
  | noScheme
  | emptyHost
  | name
  | port
  | ipv4
  | ipv6
  | opaqueHost
  deriving DecidableEq, Repr

def AddressError.message : AddressError → String
  | .noScheme => "relative URL without a base"
  | .emptyHost => "empty host"
  | .name => "invalid international domain name"
  | .port => "invalid port number"
  | .ipv4 => "invalid IPv4 address"
  | .ipv6 => "invalid IPv6 address"
  | .opaqueHost => "invalid domain character"

inductive Host where
  | name (text : List Char)
  | ipv4 (address : Ipv4)
  | ipv6 (address : Ipv6)
  deriving DecidableEq, Repr

/-- The form in which a host is stored and sent. -/
def Host.text : Host → List Char
  | .name text => text
  | .ipv4 address => address.text
  | .ipv6 address => ['['] ++ address.text ++ [']']

/-- A numeric address in brackets, from the text behind the opening one. -/
def Host.readBracketed (cs : List Char) : Except AddressError Host :=
  if cs.getLast? = some ']' then
    match Ipv6.read? cs.dropLast with
    | some address => .ok (.ipv6 address)
    | none => .error .ipv6
  else .error .ipv6

/-- A host whose name is brought into its ASCII form. A name whose last label is a number is a
numeric address or nothing. -/
def Host.readName (cs : List Char) : Except AddressError Host :=
  match HostName.toAscii? cs with
  | none => .error .name
  | some [] => .error .emptyHost
  | some ascii =>
    if endsInNumber ascii then
      match Ipv4.read? ascii with
      | some address => .ok (.ipv4 address)
      | none => .error .ipv4
    else .ok (.name ascii)

/-- Reads a host. Escapes in a name are resolved first. -/
def Host.read (cs : List Char) : Except AddressError Host :=
  match cs with
  | '[' :: rest => Host.readBracketed rest
  | _ =>
    match Text.Utf8.decode? (unescape cs) with
    | some decoded => Host.readName decoded
    | none => .error .name

/-- Whether a character ends a host that is kept as it is written, or may not stand in it. -/
def isOpaqueForbidden (c : Char) : Bool :=
  c ∈ ['\x00', '\t', '\n', '\r', ' ', '#', '/', ':', '<', '>', '?', '@', '[', '\\', ']', '^', '|']

/-- Checks a host that is kept as it is written, in an address whose scheme gives it no meaning. -/
def Host.checkOpaque (cs : List Char) : Except AddressError Unit :=
  match cs with
  | '[' :: rest => (Host.readBracketed rest).map fun _ => ()
  | _ => if cs.any isOpaqueForbidden then .error .opaqueHost else .ok ()

end WebCapture.Url
