import LayeredMap.Layer.Basic
import LayeredMap.Roster
import LayeredMap.Sheet.Event

/-!
# Sheets

A sheet holds a stack of layers, a title, user data, a viewport and a roster
of listeners for each kind of event. While somebody listens to the stack, one
relay of the sheet is subscribed to every member; a relay that is given up is
never taken again, so relays are numbered.

An operation sees the sheet alone. It yields a result, the sheet afterwards
and, in order, what is to be done with layers and listeners. The sheet is
settled before any of it is done.
-/
namespace LayeredMap

/-- Named values, at most one for each name. -/
structure UserData where
  entries : List (String × Json) := []

namespace UserData

def get? (d : UserData) (k : String) : Option Json := d.entries.lookup k

def insert (d : UserData) (k : String) (v : Json) : UserData :=
  { entries := Json.insertMember k v d.entries }

def erase (d : UserData) (k : String) : UserData :=
  { entries := d.entries.filter (·.1 != k) }

end UserData

structure Sheet where
  stack : Stack := {}
  stackListeners : Roster ListenerRef := {}
  propertyListeners : Roster ListenerRef := {}
  viewportListeners : Roster ListenerRef := {}
  relay : Option Nat := none
  relaysMade : Nat := 0
  title : Option String := none
  userData : Option UserData := none
  viewport : Option Viewport := none
  disposed : Bool := false

inductive Action where
  | subscribe (layer : LayerHandle) (relay : Nat)
  | unsubscribe (layer : LayerHandle) (relay : Nat)
  | dispose (layer : LayerHandle)
  | note (n : Notice)
  | publish (roster : Roster ListenerRef) (event : Event)

structure Step (ρ : Type) where
  result : ρ
  sheet : Sheet
  actions : List Action := []

namespace Step

variable {ρ : Type}

/-- Nothing happens. -/
def still (s : Sheet) (result : ρ) : Step ρ := { result, sheet := s }

def map {σ : Type} (f : ρ → σ) (step : Step ρ) : Step σ := { step with result := f step.result }

end Step

namespace Sheet

def ofSettings (title : Option String) (crs : Option Crs) : Sheet :=
  { title, viewport := crs.map Viewport.ofCrs }

/-! ## Queries -/

def layers (s : Sheet) : List LayerHandle := s.stack.layers

def layerCount (s : Sheet) : Nat := s.stack.size

def isListening (s : Sheet) : Bool := s.relay.isSome

def currentViewport (s : Sheet) : Viewport := s.viewport.getD {}

def effectiveCrs (s : Sheet) : Option Crs := s.viewport.bind Viewport.effectiveCrs

def data? (s : Sheet) (k : String) : Option Json := s.userData.bind (·.get? k)

def dataEntries (s : Sheet) : List (String × Json) := (s.userData.getD {}).entries

/-! ## Parts of operations -/

/-- A disposed sheet refuses every change. -/
def whenLive {ρ : Type} (s : Sheet) (step : Step (Except Failure ρ)) : Step (Except Failure ρ) :=
  if s.disposed then .still s (.error .disposed) else step

/-- What to do with a layer that comes in. -/
def entering (s : Sheet) (l : LayerHandle) : List Action :=
  match s.relay with
  | some r => [.subscribe l r]
  | none => []

/-- What to do with a layer that goes out. -/
def leaving (s : Sheet) (l : LayerHandle) : List Action :=
  match s.relay with
  | some r => [.unsubscribe l r, .dispose l]
  | none => [.dispose l]

def publishStack (s : Sheet) (e : StackEvent) : Action := .publish s.stackListeners (.stack e)

def publishProperty (s : Sheet) (e : PropertyEvent) : Action :=
  .publish s.propertyListeners (.property e)

def publishViewport (s : Sheet) (e : ViewportEvent) : Action :=
  .publish s.viewportListeners (.viewport e)

end Sheet
end LayeredMap
