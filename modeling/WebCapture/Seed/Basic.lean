import WebCapture.Seed.Archive
import WebCapture.Seed.Lifecycle

set_option autoImplicit false

/-! # Seeds and groups

A seed is a submitted address that is followed through its lifecycle; a group holds the seeds that
were submitted together. Both go by shadow ids, which cannot be guessed and are all that leaves
the service.

The address of a seed never changes. A seed has archive details only as a success
(`Seed.isConsistent`), and a success may be without them for a while: they are written in a step
of their own. The stores keep to both.
-/

namespace WebCapture

/-- The public handle of a seed or group. -/
abbrev ShadowId := String

namespace ShadowId

/-- The characters of generated handles, one for every five bits. -/
def letters : List Char := "ABCDEFGHIJKLMNOPQRSTUVWXYZ234567".toList

def size : Nat := 26

def ofNumbers (numbers : List Nat) : ShadowId :=
  String.ofList ((numbers.take size).map fun n => letters.getD (n % 32) 'A')

def isWellFormed (id : ShadowId) : Bool :=
  id.toList.length == size && id.toList.all (letters.contains ·)

end ShadowId

/-- A submitted address in its lifecycle. -/
structure Seed where
  /-- The canonical text of the address. -/
  url : String
  /-- Whether the seed may be listed and searched for. -/
  isPublic : Bool
  state : Seed.State
  /-- Where the capture can be replayed. -/
  archive : Option Seed.Archive
  id : ShadowId
  deriving DecidableEq, Repr

namespace Seed

def ofUrl (url : String) (id : ShadowId) : Seed := ⟨url, true, .notEnqueued, none, id⟩

/-- Archive details belong to successful seeds only. -/
def isConsistent (seed : Seed) : Bool := seed.archive.isNone || seed.state == .doneSuccess

end Seed

/-- Seeds that were submitted together. -/
structure SeedGroup where
  seeds : List Seed
  id : ShadowId
  deriving DecidableEq, Repr

end WebCapture
