import LayeredMap.Instant.Text
import LayeredMap.Json.Decode
import LayeredMap.Layer.Change

/-!
# Layer events in documents

A change is an object with its label under `kind` and, where there is one, the
aspect it touches under `reason`. The two may come in either order. If the
aspect comes first it is set aside until the label is known; a value set aside
has to be readable throughout and must not nest too deeply.
-/
namespace LayeredMap

/-- A member of a variant without data: either the bare label, or an object with the label as its
only name and null as its value. Anything else breaks the form. -/
def Doc.asLabel {α : Type} (ofLabel? : String → Option α) : Doc → Decoded α
  | .string (some s) => named s
  | .object ((.string (some s), v) :: rest) closed => do
    let a ← named s
    v.asNull
    if rest.isEmpty && closed then .ok a else .error .invalidJson
  | _ => .error .invalidJson
where
  named (s : String) : Decoded α :=
    match ofLabel? s with
    | some a => .ok a
    | none => .error .unknownVariant

namespace LayerId

def toJson (i : LayerId) : Json := .string i.toText

def decode (d : Doc) : Decoded LayerId := do
  match ofText? (← d.asString) with
  | some i => .ok i
  | none => .error .invalidJson

end LayerId

namespace Aspect

def toJson (r : Aspect) : Json := .string r.label

def decode (d : Doc) : Decoded Aspect := d.asLabel ofLabel?

/-- As `decode`, of a value that was set aside. -/
def decodeAside (d : Doc) : Decoded Aspect :=
  match d with
  | .string (some s) => Doc.asLabel.named ofLabel? s
  | .object [(k, v)] _ => do
    let r ← Doc.asLabel.named ofLabel? (← k.asString)
    match v with
    | .null | .object [] _ => .ok r
    | _ => .error .invalidType
  | .object _ _ => .error .invalidJson
  | _ => .error .invalidType

end Aspect

namespace LayerChange

/-- The kinds of change, those with an aspect still waiting for it. -/
inductive Kind where
  | plain (change : LayerChange)
  | touching
  deriving DecidableEq

def Kind.ofLabel? (s : String) : Option Kind :=
  match [shown, hidden, selected, deselected].find? (·.label == s) with
  | some c => some (.plain c)
  | none => if s = "changed" then some .touching else none

def toJson (c : LayerChange) : Json :=
  .object
    (("kind", .string c.label) :: (c.aspect?.map fun a => ("reason", a.toJson)).toList)

/-- The change, once its kind and what stands under `reason` are known. -/
def complete (k : Kind) (aspect : Doc) (decode : Doc → Decoded Aspect) :
    Decoded LayerChange :=
  match k with
  | .plain c => aspect.asNull.map fun _ => c
  | .touching => (decode aspect).map .changed

inductive Part where
  | kind
  | aspect

/-- Skips unknown members up to the next part. -/
def nextPart (closed : Bool) :
    List (Doc × Doc) → Decoded (Option (Part × Doc × List (Doc × Doc)))
  | [] => if closed then .ok none else .error .invalidJson
  | (.string (some k), d) :: ms =>
    if k = "kind" then .ok (some (.kind, d, ms))
    else if k = "reason" then .ok (some (.aspect, d, ms))
    else if d.sound then nextPart closed ms
    else .error .invalidJson
  | _ => .error .invalidJson

def nothingLeft (closed : Bool) (ms : List (Doc × Doc)) (c : LayerChange) :
    Decoded LayerChange := do
  match ← nextPart closed ms with
  | none => .ok c
  | some (.kind, _) => .error (.duplicateField "kind")
  | some (.aspect, _) => .error (.duplicateField "reason")

def decodeMembers (level : Nat) (closed : Bool) (ms : List (Doc × Doc)) :
    Decoded LayerChange := do
  match ← nextPart closed ms with
  | none => .error (.missingField "kind")
  | some (.kind, d, ms) =>
    let k ← d.asLabel Kind.ofLabel?
    match ← nextPart closed ms with
    | none =>
      match k with
      | .plain c => .ok c
      | .touching => .error (.missingField "reason")
    | some (.kind, _) => .error (.duplicateField "kind")
    | some (.aspect, d, ms) =>
      nothingLeft closed ms (← complete k d Aspect.decode)
  | some (.aspect, aside, ms) =>
    if aside.value?.isNone || Doc.nestingLimit ≤ level + aside.depth then .error .invalidJson
    else
      match ← nextPart closed ms with
      | none => .error (.missingField "kind")
      | some (.aspect, _) => .error (.duplicateField "reason")
      | some (.kind, d, ms) =>
        let k ← d.asLabel Kind.ofLabel?
        nothingLeft closed ms (← complete k aside Aspect.decodeAside)

/-- In an array the label is followed by the aspect, or by null. -/
def decodeItems (closed : Bool) : List Doc → Decoded LayerChange
  | [] => .error (if closed then .invalidLength else .invalidJson)
  | d :: rest => do
    match Kind.ofLabel? (← d.asString) with
    | none => .error .unknownVariant
    | some k =>
      match rest with
      | [] => .error (if closed then .invalidLength else .invalidJson)
      | d :: rest =>
        let c ← complete k d Aspect.decode
        if rest.isEmpty && closed then .ok c else .error .invalidJson

/-- `level` counts the object of the change and those around it. -/
def decodeAt (level : Nat) : Doc → Decoded LayerChange
  | .object ms closed => decodeMembers level closed ms
  | .array items closed => decodeItems closed items
  | d => .error d.misfit

def decode : Doc → Decoded LayerChange := decodeAt 1

end LayerChange

namespace Instant

def toJson (t : Instant) : Json := .string t.toText

def decode (d : Doc) : Decoded Instant := do
  match ofText? (← d.asString) with
  | some t => .ok t
  | none => .error .invalidJson

end Instant

/-- A layer's event and when it happened. -/
structure TimedLayerEvent where
  event : LayerEvent
  time : Instant
  deriving DecidableEq

namespace TimedLayerEvent

def toJson (e : TimedLayerEvent) : Json :=
  .object [("layer_id", e.event.layer.toJson), ("kind", e.event.change.toJson),
    ("timestamp", e.time.toJson)]

def decode (d : Doc) : Decoded TimedLayerEvent := do
  let found ← d.record
    [.required "layer_id" LayerId.decode, .required "kind" (LayerChange.decodeAt 2),
      .required "timestamp" Instant.decode]
  return {
    event := {
      layer := ← found.required "layer_id" LayerId.decode
      change := ← found.required "kind" (LayerChange.decodeAt 2) }
    time := ← found.required "timestamp" Instant.decode }

end TimedLayerEvent
end LayeredMap
