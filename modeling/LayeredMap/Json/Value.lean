import LayeredMap.Decimal.Numeral

/-!
# Data values

The values a document can hold. The members of an object are in the order in
which they are written.
-/
namespace LayeredMap

inductive Json where
  | null
  | bool (b : Bool)
  | number (n : Number)
  | string (s : String)
  | array (items : List Json)
  | object (members : List (String × Json))
  deriving Inhabited, BEq

namespace Json

def nat (n : Nat) : Json := .number (.integer n)

def real (x : Float) : Json := .number (.real x)

/-- An absent value is written as null. -/
def option {α : Type} (f : α → Json) : Option α → Json
  | some a => f a
  | none => null

/-- Puts a member in its place by name; a name that is there already takes the new value. -/
def insertMember (k : String) (v : Json) : List (String × Json) → List (String × Json)
  | [] => [(k, v)]
  | (k', v') :: rest =>
    if k = k' then (k, v) :: rest
    else if k < k' then (k, v) :: (k', v') :: rest
    else (k', v') :: insertMember k v rest

/-- An object with its members sorted by name, the last of several with one name counting. -/
def sortedObject (members : List (String × Json)) : Json :=
  .object (members.foldl (fun acc (k, v) => insertMember k v acc) [])

end Json
end LayeredMap
