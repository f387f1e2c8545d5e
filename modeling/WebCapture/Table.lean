set_option autoImplicit false

/-! # Tables

A table maps keys to values and remembers the order in which the keys were first written. It is a
list of pairs in which a key comes up once, as long as it is made with `put`; the look-up takes
the first pair of a key.

Nothing but the order is observable besides the look-up, so most proofs about tables need only
what `find?` says about a table that was changed (`find?_put`, `find?_remove`).
-/

namespace WebCapture

/-- A map from keys to values, in the order of the first writing. -/
abbrev Table (κ ν : Type) : Type := List (κ × ν)

namespace Table

variable {κ ν : Type} [DecidableEq κ]

def find? (table : Table κ ν) (key : κ) : Option ν :=
  match table with
  | [] => none
  | (k, v) :: more => if k = key then some v else find? more key

def has (table : Table κ ν) (key : κ) : Bool := (table.find? key).isSome

/-- Gives a key a value: in its place if it has one, otherwise at the end. -/
def put (table : Table κ ν) (key : κ) (value : ν) : Table κ ν :=
  match table with
  | [] => [(key, value)]
  | (k, v) :: more => if k = key then (k, value) :: more else (k, v) :: put more key value

def remove (table : Table κ ν) (key : κ) : Table κ ν :=
  match table with
  | [] => []
  | (k, v) :: more => if k = key then remove more key else (k, v) :: remove more key

def putAll (table : Table κ ν) (entries : List (κ × ν)) : Table κ ν :=
  entries.foldl (fun table entry => table.put entry.1 entry.2) table

@[simp] theorem find?_put (table : Table κ ν) (key key' : κ) (value : ν) :
    (table.put key value).find? key' = if key = key' then some value else table.find? key' := by
  induction table with
  | nil => simp [put, find?]
  | cons entry more ih =>
    obtain ⟨k, v⟩ := entry
    by_cases hk : k = key
    · subst hk
      by_cases h : k = key' <;> simp [put, find?, h]
    · by_cases h : k = key'
      · subst h
        simp [put, find?, hk, Ne.symm hk]
      · simp [put, find?, hk, h, ih]

@[simp] theorem find?_remove (table : Table κ ν) (key key' : κ) :
    (table.remove key).find? key' = if key = key' then none else table.find? key' := by
  induction table with
  | nil => simp [remove, find?]
  | cons entry more ih =>
    obtain ⟨k, v⟩ := entry
    by_cases hk : k = key
    · subst hk
      by_cases h : k = key'
      · subst h
        simpa [remove] using ih
      · simp [remove, find?, h, ih]
    · by_cases h : k = key'
      · subst h
        simp [remove, find?, hk, Ne.symm hk]
      · simp [remove, find?, hk, h, ih]

end Table

end WebCapture
