import LayeredMap.Layer.Id

/-!
# Stacks of layers

Layers from bottom to top, no two with one identity. Operations that cannot be
carried out leave the stack as it is and say so.
-/
namespace LayeredMap

/-- A layer object and its identity. Two objects may share an identity. -/
structure LayerHandle where
  object : Nat
  id : LayerId
  deriving DecidableEq

structure Stack where
  layers : List LayerHandle := []
  deriving DecidableEq

namespace Stack

def size (s : Stack) : Nat := s.layers.length

def isEmpty (s : Stack) : Bool := s.layers.isEmpty

def indexOf? (s : Stack) (id : LayerId) : Option Nat := s.layers.findIdx? (·.id == id)

def contains (s : Stack) (id : LayerId) : Bool := (s.indexOf? id).isSome

def get? (s : Stack) (i : Nat) : Option LayerHandle := s.layers[i]?

/-- Puts a layer on top, and tells its index. -/
def push (s : Stack) (l : LayerHandle) : Option Nat × Stack :=
  if s.contains l.id then (none, s) else (some s.size, { layers := s.layers ++ [l] })

def insert (s : Stack) (i : Nat) (l : LayerHandle) : Bool × Stack :=
  if s.size < i || s.contains l.id then (false, s)
  else (true, { layers := s.layers.insertIdx i l })

def removeAt (s : Stack) (i : Nat) : Option LayerHandle × Stack :=
  match s.get? i with
  | some l => (some l, { layers := s.layers.eraseIdx i })
  | none => (none, s)

/-- Asks about each layer once, from the bottom up. -/
def retainList {σ : Type} (keep : LayerHandle → σ → Bool × σ) :
    List LayerHandle → σ → List LayerHandle × σ
  | [], st => ([], st)
  | l :: ls, st =>
    let (kept, st) := keep l st
    let (ls, st) := retainList keep ls st
    (if kept then l :: ls else ls, st)

/-- Keeps the layers that are asked for, where the asking may have a state. -/
def retainWith {σ : Type} (s : Stack) (keep : LayerHandle → σ → Bool × σ) (st : σ) : Stack × σ :=
  let (layers, st) := retainList keep s.layers st
  ({ layers }, st)

def retain (s : Stack) (keep : LayerHandle → Bool) : Stack :=
  (s.retainWith (fun l (_ : Unit) => (keep l, ())) ()).1

def swap (s : Stack) (a b : Nat) : Bool × Stack :=
  match s.get? a, s.get? b with
  | some l, some m => (true, { layers := (s.layers.set a m).set b l })
  | _, _ => (false, s)

def drain (s : Stack) : List LayerHandle × Stack := (s.layers, {})

theorem retainList_pure (keep : LayerHandle → Bool) (ls : List LayerHandle) :
    (retainList (fun l (_ : Unit) => (keep l, ())) ls ()).1 = ls.filter keep := by
  induction ls with
  | nil => rfl
  | cons l ls ih =>
    by_cases h : keep l = true <;> simp [retainList, h, ih]

@[simp] theorem layers_retain (s : Stack) (keep : LayerHandle → Bool) :
    (s.retain keep).layers = s.layers.filter keep := by
  simp [retain, retainWith, retainList_pure]

/-- The indices of the layers that fit a test, in order. -/
def positions (s : Stack) (p : LayerHandle → Bool) : List Nat :=
  (s.layers.zipIdx.filter fun (l, _) => p l).map (·.2)

end Stack
end LayeredMap
