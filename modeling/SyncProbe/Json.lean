import SyncProbe.Number.Shortest

/-!
# JSON values

`Json` is a JSON value. The members of an object stand in a list, in the order in which they are
written. `Json.ofMembers` puts members that were read into the order of their names, with one member
for each name.

A number is an integer where it is written as one and fits in 64 bits, and a double otherwise.
-/

namespace SyncProbe

/-- A JSON number. -/
inductive JsonNumber where
  | integer (value : Int)
  | double (value : Binary64)
deriving DecidableEq, Repr

/-- A JSON value. -/
inductive Json where
  | null
  | bool (value : Bool)
  | number (value : JsonNumber)
  | string (value : String)
  | array (elements : List Json)
  | object (members : List (String × Json))
deriving Repr

namespace Json

/-- A natural number as a value. -/
def nat (n : Nat) : Json :=
  number (.integer n)

/-- Adds a member in the order of names. A member of the same name is replaced. -/
def insertMember (name : String) (value : Json) : List (String × Json) → List (String × Json)
  | [] => [(name, value)]
  | (other, held) :: rest =>
    if name = other then (name, value) :: rest
    else if name < other then (name, value) :: (other, held) :: rest
    else (other, held) :: insertMember name value rest

/-- An object of members in the order in which they were read. The last member of a name counts. -/
def ofMembers (members : List (String × Json)) : Json :=
  object (members.foldl (fun sorted (name, value) => insertMember name value sorted) [])

end Json

end SyncProbe
