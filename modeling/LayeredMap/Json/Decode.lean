import LayeredMap.Json.Doc

/-!
# Decoding records

A record is written as an object, whose members may come in any order and
among unknown ones, or as an array of its fields in their order. Decoding
reports the first fault met in the order of the text: a member given twice at
its second name, a bad value at the value. A field left out is noticed at the
end, the first one in the order of the record counting.
-/
namespace LayeredMap

inductive Malformed where
  | invalidJson
  | invalidType
  | invalidLength
  | unknownVariant
  | missingField (name : String)
  | duplicateField (name : String)
  deriving DecidableEq

def Malformed.message : Malformed → String
  | invalidJson => "invalid json"
  | invalidType => "invalid type"
  | invalidLength => "invalid length"
  | unknownVariant => "unknown variant"
  | missingField name => "missing field `" ++ name ++ "`"
  | duplicateField name => "duplicate field `" ++ name ++ "`"

abbrev Decoded (α : Type) := Except Malformed α

namespace Doc

/-- The fault of a document that stands where another kind is wanted. -/
def misfit : Doc → Malformed
  | broken | number none | string none => .invalidJson
  | _ => .invalidType

def asString : Doc → Decoded String
  | string (some s) => .ok s
  | d => .error d.misfit

def asBool : Doc → Decoded Bool
  | bool b => .ok b
  | d => .error d.misfit

/-- Whole numbers serve as doubles. -/
def asFloat : Doc → Decoded Float
  | number (some n) => .ok n.toFloat
  | d => .error d.misfit

def asNull : Doc → Decoded Unit
  | null => .ok ()
  | d => .error d.misfit

def asOption {α : Type} (decode : Doc → Decoded α) : Doc → Decoded (Option α)
  | null => .ok none
  | d => (decode d).map some

def asList {α : Type} (decode : Doc → Decoded α) : Doc → Decoded (List α)
  | array items closed => do
    let vs ← items.mapM decode
    if closed then .ok vs else .error .invalidJson
  | d => .error d.misfit

end Doc

/-- What it means that a field is left out. -/
inductive Absence where
  | refused
  | allowedInObject
  | allowed
  deriving DecidableEq

structure Field where
  name : String
  absence : Absence
  check : Doc → Decoded Unit

namespace Field

def of {α : Type} (absence : Absence) (name : String) (decode : Doc → Decoded α) : Field :=
  { name, absence, check := fun d => (decode d).map fun _ => () }

/-- Must be there. -/
def required {α : Type} (name : String) (decode : Doc → Decoded α) : Field :=
  .of .refused name decode

/-- May be null, and in an object left out. -/
def optional {α : Type} (name : String) (decode : Doc → Decoded α) : Field :=
  .of .allowedInObject name (Doc.asOption decode)

/-- May be left out. -/
def defaulted {α : Type} (name : String) (decode : Doc → Decoded α) : Field :=
  .of .allowed name decode

end Field

/-- The documents found for the fields of a record. -/
abbrev Found := List (String × Doc)

namespace Found

variable {α : Type}

/-- A field that must have been found. -/
def required (found : Found) (name : String) (decode : Doc → Decoded α) : Decoded α :=
  match found.lookup name with
  | some d => decode d
  | none => .error (.missingField name)

def defaulted (found : Found) (name : String) (decode : Doc → Decoded α) (absent : α) :
    Decoded α :=
  match found.lookup name with
  | some d => decode d
  | none => .ok absent

def optional (found : Found) (name : String) (decode : Doc → Decoded α) : Decoded (Option α) :=
  found.defaulted name (Doc.asOption decode) none

end Found

namespace Doc

def findMembers (fields : List Field) (found : Found) : List (Doc × Doc) → Decoded Found
  | [] => .ok found
  | (string (some k), d) :: ms =>
    match fields.find? (·.name == k) with
    | none => if d.sound then findMembers fields found ms else .error .invalidJson
    | some f =>
      if (found.lookup k).isSome then .error (.duplicateField k)
      else do
        f.check d
        findMembers fields (found ++ [(k, d)]) ms
  | _ => .error .invalidJson

def findItems (closed : Bool) (found : Found) : List Field → List Doc → Decoded Found
  | [], [] => if closed then .ok found else .error .invalidJson
  | [], _ :: _ => .error .invalidJson
  | f :: fs, [] =>
    if !closed then .error .invalidJson
    else if f.absence = .allowed then findItems closed found fs []
    else .error .invalidLength
  | f :: fs, d :: ds => do
    f.check d
    findItems closed (found ++ [(f.name, d)]) fs ds

/-- The documents of a record's fields, each of them checked. -/
def record (fields : List Field) : Doc → Decoded Found
  | object members closed => do
    let found ← findMembers fields [] members
    if !closed then .error .invalidJson
    else
      match fields.find? fun f => f.absence = .refused ∧ (found.lookup f.name).isNone with
      | some f => .error (.missingField f.name)
      | none => .ok found
  | array items closed => findItems closed [] fields items
  | d => .error d.misfit

/-- A whole text that holds one value. -/
def decodeText {α : Type} (decode : Doc → Decoded α) (s : String) : Decoded α := do
  let (d, ended) := ofText s
  let v ← decode d
  if ended then .ok v else .error .invalidJson

end Doc
end LayeredMap
