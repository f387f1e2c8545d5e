import WebCapture.Url.Host

set_option autoImplicit false

/-! # Web addresses

`WebUrl` is an address of a web page, taken apart. Its `text` is the form in which an address is
stored and handed on; `Url/Reader` reads it back.

The parts of an address hold what is written, with escapes: two addresses that differ in an escape
are different. The host alone is kept by what it means. Each part is written by a function of its
own that brings the mark in front of it, or nothing if the part is missing.
-/

namespace WebCapture.Url

inductive Scheme where
  | http
  | https
  deriving DecidableEq, Repr

def Scheme.name : Scheme → List Char
  | .http => ['h', 't', 't', 'p']
  | .https => ['h', 't', 't', 'p', 's']

/-- The port of a scheme, which an address need not name. -/
def Scheme.port : Scheme → Nat
  | .http => 80
  | .https => 443

def Scheme.ofName? (name : List Char) : Option Scheme :=
  if name = Scheme.http.name then some .http
  else if name = Scheme.https.name then some .https
  else none

/-- The name and password in front of a host. -/
structure Credentials where
  user : List Char
  password : List Char
  deriving DecidableEq, Repr

def Credentials.none : Credentials := ⟨[], []⟩

/-- The address of a web page. The port is only present if it is not that of the scheme; the
path is a list of segments, each with a slash before it. -/
structure WebUrl where
  scheme : Scheme
  credentials : Credentials
  host : Host
  port : Option Nat
  path : List (List Char)
  query : Option (List Char)
  fragment : Option (List Char)
  deriving DecidableEq, Repr

namespace WebUrl

def credentialsText (c : Credentials) : List Char :=
  if c.user = [] ∧ c.password = [] then []
  else c.user ++ (if c.password = [] then [] else ':' :: c.password) ++ ['@']

def portText : Option Nat → List Char
  | none => []
  | some port => ':' :: Text.decimal port

def pathText (path : List (List Char)) : List Char := path.flatMap ('/' :: ·)

def queryText : Option (List Char) → List Char
  | none => []
  | some query => '?' :: query

def fragmentText : Option (List Char) → List Char
  | none => []
  | some fragment => '#' :: fragment

def beforePath (url : WebUrl) : List Char :=
  url.scheme.name ++ [':', '/', '/'] ++ credentialsText url.credentials ++ url.host.text ++
    portText url.port

def afterPath (url : WebUrl) : List Char := queryText url.query ++ fragmentText url.fragment

/-- The form in which an address is stored and handed on. -/
def text (url : WebUrl) : List Char := url.beforePath ++ pathText url.path ++ url.afterPath

def withoutCredentials (url : WebUrl) : WebUrl := { url with credentials := .none }

end WebUrl

end WebCapture.Url
