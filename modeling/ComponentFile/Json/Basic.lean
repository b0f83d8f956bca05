import ComponentFile.Number.Decimal

/-!
# JSON values

Settings and source maps are JSON values.  An integer in the 64-bit range is kept exactly; every
other number is a decimal fraction.

* `Json` — values; the members of an object are in order and have distinct names when they come
  from `Json.ofMembers`.
* `Json.merged` — a value in which no object has two members of one name.
-/

namespace ComponentFile

/-- A JSON value. -/
inductive Json where
  | null
  | bool (value : Bool)
  | int (value : Int)
  | decimal (value : Decimal)
  | str (value : String)
  | arr (items : List Json)
  | obj (members : List (String × Json))
deriving Repr

namespace Json

instance : Inhabited Json := ⟨null⟩

/-- Sets the value of a member, in its old place if there is one. -/
def setMember (members : List (String × Json)) (name : String) (value : Json) :
    List (String × Json) :=
  match members with
  | [] => [(name, value)]
  | (other, old) :: rest =>
    if other = name then (name, value) :: rest else (other, old) :: setMember rest name value

/-- The object in which the last of several members of one name counts. -/
def ofMembers (members : List (String × Json)) : Json :=
  obj (members.foldl (fun done (name, value) => setMember done name value) [])

mutual

/-- The value in which, of several members of one name, the last one counts. -/
def merged : Json → Json
  | arr items => arr (mergedItems items)
  | obj members => ofMembers (mergedMembers members)
  | value => value

/-- The items of an array, each merged. -/
def mergedItems : List Json → List Json
  | [] => []
  | item :: rest => item.merged :: mergedItems rest

/-- The members of an object, the value of each merged. -/
def mergedMembers : List (String × Json) → List (String × Json)
  | [] => []
  | (name, value) :: rest => (name, value.merged) :: mergedMembers rest

end

/-- The value of a member; other values have no members. -/
def member? : Json → String → Option Json
  | obj members, name => members.lookup name
  | _, _ => none

/-- The members of an object. -/
def members : Json → List (String × Json)
  | obj members => members
  | _ => []

/-- The text of a string. -/
def str? : Json → Option String
  | str value => some value
  | _ => none

/-- The value of a truth value. -/
def bool? : Json → Option Bool
  | bool value => some value
  | _ => none

/-- The value of an integer that is not negative. -/
def nat? : Json → Option Nat
  | int (.ofNat value) => some value
  | _ => none

/-- The items of an array. -/
def items : Json → List Json
  | arr items => items
  | _ => []

/-- A value, or `null` if there is none. -/
def ofOption : Option Json → Json
  | some value => value
  | none => null

end Json

end ComponentFile
