import WebCapture.Simulation.World

set_option autoImplicit false

/-! # Names for generated handles

The handles that a world gives out are told by names that count them, such as
`SEED0000000000000000000001`. Names are as long as handles, so that one can be put wherever the
other stands, in lines with columns as well. A name stands for a handle from the moment at which
the handle is given out; before that it is a text like any other.
-/

namespace WebCapture.Simulation.Naming

/-- A name: a word and a number, which is counted from 0. -/
def nameOf (word : String) (n : Nat) : String :=
  word ++ Time.padded (ShadowId.size - word.length) (n + 1)

abbrev Replacements : Type := List (List Char × List Char)

def naming (world : World) : Replacements :=
  let named (id name : String) : List Char × List Char := (id.toList, name.toList)
  ((List.range world.seedIds).map fun n => named (seedId n) (nameOf "SEED" n)) ++
    (List.range world.groupIds).map fun n => named (groupId n) (nameOf "GROUP" n)

/-- Replaces texts wherever they stand; the first `skip` characters belong to a text that has
been replaced already. -/
def replaceChars (table : Replacements) (skip : Nat) : List Char → List Char
  | [] => []
  | c :: more =>
    if 0 < skip then replaceChars table (skip - 1) more
    else
      match table.find? fun (old, _) => old.isPrefixOf (c :: more) with
      | some (old, new) => new ++ replaceChars table (old.length - 1) more
      | none => c :: replaceChars table 0 more

def withNames (world : World) (text : String) : String :=
  String.ofList (replaceChars (naming world) 0 text.toList)

def withHandles (world : World) (text : String) : String :=
  String.ofList (replaceChars ((naming world).map Prod.swap) 0 text.toList)

end WebCapture.Simulation.Naming
