/-!
# Rosters

The listeners to one kind of event, each at most once, in the order in which
they were added. Storage is held only while someone is listed. A delivery goes
to everyone; one who fails is counted, reported and does not keep the event
from the others.
-/
namespace LayeredMap

structure Roster (α : Type) where
  slots : Option (List α) := none
  deriving DecidableEq

namespace Roster

variable {α : Type}

def toList (r : Roster α) : List α := r.slots.getD []

def size (r : Roster α) : Nat := r.toList.length

def isEmpty (r : Roster α) : Bool := r.toList.isEmpty

def isAllocated (r : Roster α) : Bool := r.slots.isSome

def clear (_ : Roster α) : Roster α := {}

/-- A delivery yields the error of a listener that failed. -/
def deliverAll {σ : Type} (deliver : α → σ → σ × Option String)
    (report : (position : Nat) → (error : String) → σ → σ) :
    (position : Nat) → List α → σ → σ × Nat
  | _, [], s => (s, 0)
  | i, l :: ls, s =>
    match deliver l s with
    | (s, none) => deliverAll deliver report (i + 1) ls s
    | (s, some error) =>
      let (s, failures) := deliverAll deliver report (i + 1) ls (report i error s)
      (s, failures + 1)

/-- Delivers to everyone in order and counts the failures. -/
def notify {σ : Type} (r : Roster α) (deliver : α → σ → σ × Option String)
    (report : (position : Nat) → (error : String) → σ → σ) (s : σ) : σ × Nat :=
  deliverAll deliver report 0 r.toList s

def describe (r : Roster α) : String :=
  "ListenerSet \x7b len: " ++ toString r.size ++ ", allocated: " ++ toString r.isAllocated
    ++ " \x7d"

variable [DecidableEq α]

def contains (r : Roster α) (l : α) : Bool := r.toList.contains l

/-- Says whether the listener is new. -/
def add (r : Roster α) (l : α) : Bool × Roster α :=
  if r.contains l then (false, r) else (true, { slots := some (r.toList ++ [l]) })

/-- Says whether the listener was listed. -/
def remove (r : Roster α) (l : α) : Bool × Roster α :=
  if r.contains l then
    let rest := r.toList.filter (· ≠ l)
    (true, { slots := if rest.isEmpty then none else some rest })
  else (false, r)

end Roster
end LayeredMap
