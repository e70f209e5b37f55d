import LayeredMap.Text.Blank
import LayeredMap.Text.Hex

/-!
# Layer identities

An identity is 128 bits, written as 32 hexadecimal digits in five groups. It
says which layer an event is about; distinct layer objects may share one.
-/
namespace LayeredMap

structure LayerId where
  bits : BitVec 128
  deriving DecidableEq

namespace LayerId

/-- Different numbers below 2¹²⁸ give different identities. -/
def numbered (n : Nat) : LayerId := ⟨.ofNat 128 n⟩

def groups : List Nat := [8, 4, 4, 4, 12]

/-- Cuts a row of digits into groups of the given widths. -/
def split : List Nat → List Char → List (List Char)
  | [], _ => []
  | w :: ws, cs => cs.take w :: split ws (cs.drop w)

def toText (i : LayerId) : String :=
  String.intercalate "-" ((split groups (Text.hex 32 i.bits.toNat)).map String.ofList)

/-- Digits in groups, each group but the first after a hyphen. -/
def ofGroups? : List Nat → List Char → Option (List Char)
  | [], cs => if cs.isEmpty then some [] else none
  | [w], cs => if cs.length = w then some cs else none
  | w :: ws, cs =>
    match cs.drop w with
    | '-' :: rest => (ofGroups? ws rest).map (cs.take w ++ ·)
    | _ => none

/-- Reads 32 digits, alone or in groups; the grouped form also in braces or after `urn:uuid:`, in
letters of either case. -/
def ofText? (s : String) : Option LayerId :=
  let cs := s.toList
  let grouped (cs : List Char) : Option (List Char) :=
    if cs.length = 36 then ofGroups? groups cs else none
  let digits? : Option (List Char) :=
    if cs.length = 32 then some cs
    else
      match grouped cs with
      | some ds => some ds
      | none =>
        if cs.head? = some '{' ∧ cs.getLast? = some '}' then grouped (cs.drop 1).dropLast
        else if Text.sameLetters (String.ofList (cs.take 9)) "urn:uuid:" then grouped (cs.drop 9)
        else none
  digits?.bind fun ds => (Text.unhex? ds).map numbered

end LayerId

end LayeredMap
