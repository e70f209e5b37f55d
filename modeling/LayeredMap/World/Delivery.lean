import LayeredMap.World.Scene

/-!
# Delivery

A sheet tells each of its listeners in turn and puts on record which of them
failed. A layer tells its subscribers in turn too, but the first failure ends
the round and reaches the caller. A relay looks up where the layer is in the
stack of its sheet when the event arrives.

What a listener pokes may cause further events, which are delivered before the
listener returns. How a poke is carried out is a parameter here, and tied at
the end with a limit on the nesting; beyond the limit pokes have no effect.
-/
namespace LayeredMap

/-- Moves the stage, and may fail with an error. -/
abbrev Attempt := Stage → Stage × Option String

/-- One attempt after the other, up to the first that fails. -/
def attemptAll {α : Type} (attempt : α → Attempt) : List α → Attempt
  | [], st => (st, none)
  | a :: as, st =>
    match attempt a st with
    | (st, none) => attemptAll attempt as st
    | (st, some error) => (st, some error)

namespace Scene

variable (sc : Scene) (nested : Poke → Attempt)

/-- A listener is called. -/
def call (e : Event) (l : ListenerRef) : Attempt := fun st =>
  let conduct := sc.conducts l
  let count := st.calls l + 1
  let st := { st with calls := put st.calls l count }
  let st := st.record (.delivery
    { listener := l, event := e, sighting := conduct.observes.map sc.sight })
  match attemptAll nested conduct.pokes st with
  | (st, some error) => (st, some error)
  | (st, none) => (st, if conduct.fails.includes count then some conduct.error else none)

/-- Everyone on a roster is called. -/
def notify (roster : Roster ListenerRef) (e : Event) (st : Stage) : Stage :=
  (roster.notify (sc.call nested e)
    (fun position error st => st.note (.listenerFailed e.label position error)) st).1

/-- A relay passes an event on to those who listen to the stack. -/
def forward (r : SheetRef) (e : LayerEvent) (st : Stage) : Stage :=
  if sc.isOpen r then
    let s := sc.sheets r
    match s.stack.indexOf? e.layer with
    | none => st.note (.strangerIgnored e.layer)
    | some i =>
      match s.stack.get? i with
      | none => st
      | some l => sc.notify nested s.stackListeners (.stack (.changed l i e)) st
  else st

def tell (e : LayerEvent) : Subscriber → Attempt
  | .listener l => sc.call nested (.layer e) l
  | .relay r _ => fun st => (sc.forward nested r e st, none)

/-- A layer object tells its subscribers of an event. -/
def fire (object : Nat) (e : LayerEvent) : Attempt :=
  attemptAll (sc.tell nested e) (sc.layers object).subscribers

/-- Sets switches of a layer, which tells of it if they moved. -/
def switch (object : Nat) (set : Flags → Flags × Option LayerChange) : Attempt := fun st =>
  let (flags, change) := set (st.flags object)
  let st := { st with flags := put st.flags object flags }
  match change with
  | none => (st, none)
  | some change => sc.fire nested object { layer := (sc.layers object).id, change } st

end Scene

namespace Scene

/-- A poke with pokes nested to the given depth. -/
def pokeWithin (sc : Scene) : (depth : Nat) → Poke → Attempt
  | 0, _ => fun st => (st, none)
  | depth + 1, p =>
    attemptAll (switch sc (pokeWithin sc depth) p.object) <|
      (p.visible.map fun on f => Flags.setVisible f on).toList
        ++ (p.selected.map fun on f => Flags.setSelected f on).toList

/-- How deeply pokes may be nested. -/
def nestingLimit : Nat := 1048576

def poke (sc : Scene) : Poke → Attempt := sc.pokeWithin nestingLimit

end Scene
end LayeredMap
