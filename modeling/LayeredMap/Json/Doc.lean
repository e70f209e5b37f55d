import LayeredMap.Json.Token
import LayeredMap.Json.Value

/-!
# Documents as far as they go

A document is read into a tree even if its text breaks off: the tree then
holds what stood before the break, `broken` marks the place, and nothing is
closed behind it. A decoder that walks the tree in order thus meets a fault of
the text and a fault of the data in the order in which they are written.

The name of a member is itself a document, since something else may stand in
its place; the object ends there.
-/
namespace LayeredMap

inductive Doc where
  | null
  | bool (b : Bool)
  | number (n : Option Number)
  | string (s : Option String)
  | array (items : List Doc) (closed : Bool)
  | object (members : List (Doc × Doc)) (closed : Bool)
  | broken
  deriving Inhabited, BEq

namespace Doc

mutual
/-- The document at the start of a row of tokens, and the tokens behind it. -/
def read : (fuel : Nat) → List Token → Doc × List Token
  | 0, _ => (.broken, [])
  | fuel + 1, ts =>
    match ts with
    | .null :: ts => (.null, ts)
    | .bool b :: ts => (.bool b, ts)
    | .number n :: ts => (.number n, ts)
    | .string s :: ts => (.string s, ts)
    | .openArray :: .closeArray :: ts => (.array [] true, ts)
    | .openArray :: ts =>
      let (items, closed, ts) := readItems fuel ts
      (.array items closed, ts)
    | .openObject :: .closeObject :: ts => (.object [] true, ts)
    | .openObject :: ts =>
      let (members, closed, ts) := readMembers fuel ts
      (.object members closed, ts)
    | _ => (.broken, [])

def readItems : (fuel : Nat) → List Token → List Doc × Bool × List Token
  | 0, _ => ([], false, [])
  | fuel + 1, ts =>
    let (v, ts) := read fuel ts
    match ts with
    | .comma :: ts =>
      let (vs, closed, ts) := readItems fuel ts
      (v :: vs, closed, ts)
    | .closeArray :: ts => ([v], true, ts)
    | _ => ([v], false, [])

def readMembers : (fuel : Nat) → List Token → List (Doc × Doc) × Bool × List Token
  | 0, _ => ([], false, [])
  | fuel + 1, ts =>
    match ts with
    | .string k :: .colon :: ts =>
      let (v, ts) := read fuel ts
      match ts with
      | .comma :: ts =>
        let (ms, closed, ts) := readMembers fuel ts
        ((.string k, v) :: ms, closed, ts)
      | .closeObject :: ts => ([(.string k, v)], true, ts)
      | _ => ([(.string k, v)], false, [])
    | _ => ([((read fuel ts).1, .broken)], false, [])
end

/-- The document that a text starts with, and whether the text ends there. Every token takes at
most two steps of depth. -/
def ofText (s : String) : Doc × Bool :=
  let ts := Token.all s.toList
  let (d, rest) := read (2 * ts.length + 2) ts
  (d, rest.isEmpty)

mutual
/-- Well formed throughout, so that it can be skipped. -/
def sound : Doc → Bool
  | null | bool _ | number _ | string _ => true
  | array items closed => soundItems items && closed
  | object members closed => soundMembers members && closed
  | broken => false

def soundItems : List Doc → Bool
  | [] => true
  | d :: ds => sound d && soundItems ds

def soundMembers : List (Doc × Doc) → Bool
  | [] => true
  | (string _, d) :: ms => sound d && soundMembers ms
  | _ => false
end

mutual
/-- The data value, if the document is well formed and all in it can be read. -/
def value? : Doc → Option Json
  | null => some .null
  | bool b => some (.bool b)
  | number n => n.map .number
  | string s => s.map .string
  | array items true => (values? items).map .array
  | object members true => (memberValues? members).map Json.sortedObject
  | _ => none

def values? : List Doc → Option (List Json)
  | [] => some []
  | d :: ds =>
    match value? d, values? ds with
    | some v, some vs => some (v :: vs)
    | _, _ => none

def memberValues? : List (Doc × Doc) → Option (List (String × Json))
  | [] => some []
  | (string (some k), d) :: ms =>
    match value? d, memberValues? ms with
    | some v, some vs => some ((k, v) :: vs)
    | _, _ => none
  | _ => none
end

mutual
/-- The number of levels of arrays and objects. -/
def depth : Doc → Nat
  | array items _ => depthItems items + 1
  | object members _ => depthMembers members + 1
  | _ => 0

def depthItems : List Doc → Nat
  | [] => 0
  | d :: ds => max (depth d) (depthItems ds)

def depthMembers : List (Doc × Doc) → Nat
  | [] => 0
  | (_, d) :: ms => max (depth d) (depthMembers ms)
end

/-- What is kept as a data value may have fewer levels than this, counted from the outside. -/
def nestingLimit : Nat := 128

end Doc

/-- The data value that a text writes. -/
def Json.ofText? (s : String) : Option Json :=
  match Doc.ofText s with
  | (d, true) => if d.depth < Doc.nestingLimit then d.value? else none
  | _ => none

end LayeredMap
