import LayeredMap.Layer.Change
import LayeredMap.MaxBounds

/-!
# Layers

A fixed layer has a title and bounds that its owner sets; a foreign one is
known only by what it reports. Both keep a list of subscribers without
repetition. A foreign layer may be sticky and never let a subscriber go.
Disposal is counted; the first one takes a fixed layer out of use.
-/
namespace LayeredMap

/-- Somebody who can be told of events. -/
structure ListenerRef where
  number : Nat
  deriving DecidableEq

/-- A sheet. -/
structure SheetRef where
  number : Nat
  deriving DecidableEq

/-- Who hears of a layer's changes: a listener, or one of the relays of a sheet. -/
inductive Subscriber where
  | listener (l : ListenerRef)
  | relay (sheet : SheetRef) (number : Nat)
  deriving DecidableEq

structure FixedBody where
  title : String
  bounds : Option (Footprint Float) := none
  unavailable : Option String := none
  disposed : Bool := false

structure ForeignBody where
  report : BoundsReport Float
  sticky : Bool := false

inductive Body where
  | fixed (b : FixedBody)
  | foreign (b : ForeignBody)

/-- A layer but for its switches. -/
structure Layer where
  id : LayerId
  body : Body
  subscribers : List Subscriber := []
  disposals : Nat := 0

namespace Layer

/-- A layer that nothing is known of. -/
def blank : Layer := { id := .numbered 0, body := .foreign { report := .unknown } }

def title (l : Layer) : Option String :=
  match l.body with
  | .fixed b => some b.title
  | .foreign _ => none

def isDisposed (l : Layer) : Bool :=
  match l.body with
  | .fixed b => b.disposed
  | .foreign _ => false

def report (l : Layer) : BoundsReport Float :=
  match l.body with
  | .foreign b => b.report
  | .fixed b =>
    if b.disposed then .failed (.disposed l.id)
    else
      match b.unavailable with
      | some reason => .failed (.sourceUnavailable l.id reason)
      | none =>
        match b.bounds with
        | some f => .known f
        | none => .unknown

def survey (l : Layer) : Survey Float := { layer := l.id, report := l.report }

def subscribe (l : Layer) (s : Subscriber) : Layer :=
  if s ∈ l.subscribers then l else { l with subscribers := l.subscribers ++ [s] }

def isSticky (l : Layer) : Bool :=
  match l.body with
  | .fixed _ => false
  | .foreign b => b.sticky

def unsubscribe (l : Layer) (s : Subscriber) : Layer :=
  if l.isSticky then l else { l with subscribers := l.subscribers.filter (· ≠ s) }

/-- The layer afterwards, and whether it went out of use. -/
def dispose (l : Layer) : Layer × Bool :=
  let l := { l with disposals := l.disposals + 1 }
  match l.body with
  | .foreign _ => (l, false)
  | .fixed b =>
    if b.disposed then (l, false)
    else ({ l with body := .fixed { b with disposed := true }, subscribers := [] }, true)

/-- Changes what the owner of a fixed layer sets. -/
def modifyFixed (l : Layer) (f : FixedBody → FixedBody) : Layer :=
  match l.body with
  | .fixed b => { l with body := .fixed (f b) }
  | .foreign _ => l

end Layer

/-- The switches of a layer. -/
structure Flags where
  visible : Bool := true
  selected : Bool := false
  deriving DecidableEq

namespace Flags

/-- The switches afterwards, and the change if there is one. -/
def setVisible (f : Flags) (on : Bool) : Flags × Option LayerChange :=
  if f.visible = on then (f, none)
  else ({ f with visible := on }, some (if on then .shown else .hidden))

def setSelected (f : Flags) (on : Bool) : Flags × Option LayerChange :=
  if f.selected = on then (f, none)
  else ({ f with selected := on }, some (if on then .selected else .deselected))

end Flags
end LayeredMap
