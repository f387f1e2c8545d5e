import WebCapture.Url.Address

set_option autoImplicit false

/-! # Addresses to listen on

An address to listen on is the number of a host and a port, such as `127.0.0.1:9000` or
`[::1]:9000`. Names are not looked up.

An address of eight pieces stands in brackets, and may name the zone in which it is meant. Of the
spellings of an address the strict one is read: four octets in decimal, without leading zeros.
-/

namespace WebCapture.CommandLine

open Url (Ipv4 Ipv6)

inductive HostNumber where
  | ipv4 (address : Ipv4)
  /-- With the number of the zone in which the address is meant; 0 if it goes without. -/
  | ipv6 (address : Ipv6) (zone : Nat)
  deriving DecidableEq, Repr

structure SocketAddress where
  host : HostNumber
  port : Nat
  deriving DecidableEq, Repr

namespace SocketAddress

/-! ## Writing -/

/-- The text of an address of eight pieces; the last two are dotted if it stands for an address
of four octets. -/
def ipv6Text (address : Ipv6) : List Char :=
  match address.mapped? with
  | some mapped => "::ffff:".toList ++ mapped.text
  | none => address.text

def text (address : SocketAddress) : String :=
  let host := match address.host with
    | .ipv4 ip => ip.text
    | .ipv6 ip zone =>
      let zone := if zone = 0 then [] else '%' :: Text.decimal zone
      ['['] ++ ipv6Text ip ++ zone ++ [']']
  String.ofList (host ++ [':'] ++ Text.decimal address.port)

/-! ## Reading -/

/-- Reads four octets. -/
def readIpv4? (cs : List Char) : Option Ipv4 :=
  match (cs.splitOn '.').mapM Url.octet? with
  | some octets => if octets.length = 4 then Ipv4.ofParts? octets else none
  | none => none

/-- Reads what stands between brackets: eight pieces, and perhaps a zone. -/
def readIpv6? (cs : List Char) : Option HostNumber :=
  match Ipv6.read? (cs.takeWhile (· != '%')), cs.dropWhile (· != '%') with
  | some ip, [] => some (.ipv6 ip 0)
  | some ip, _ :: zone => (Text.numberBelow? 0x100000000 zone).map (.ipv6 ip)
  | none, _ => none

def readPort? (host : HostNumber) : List Char → Option SocketAddress
  | ':' :: port => (Text.numberBelow? 0x10000 port).map fun port => ⟨host, port⟩
  | _ => none

def read? (text : String) : Option SocketAddress :=
  match text.toList with
  | '[' :: cs =>
    match readIpv6? (cs.takeWhile (· != ']')) with
    | some host => readPort? host ((cs.dropWhile (· != ']')).drop 1)
    | none => none
  | cs =>
    match readIpv4? (cs.takeWhile (· != ':')) with
    | some ip => readPort? (.ipv4 ip) (cs.dropWhile (· != ':'))
    | none => none

end SocketAddress

end WebCapture.CommandLine
