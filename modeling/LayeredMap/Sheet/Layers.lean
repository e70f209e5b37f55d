import LayeredMap.Sheet.Basic

/-!
# Operations on the stack of a sheet

Every operation that changes the stack publishes one event, after the change.
An index out of range is refused before a repeated identity is noticed, and
of two such indices the first is named. Exchanging a position with itself
does nothing; clearing publishes even if there was nothing to clear.
-/
namespace LayeredMap.Sheet

def add (s : Sheet) (l : LayerHandle) : Step (Except Failure Bool) :=
  s.whenLive <|
    match s.stack.push l with
    | (none, _) => .still s (.ok false)
    | (some i, stack) =>
      { result := .ok true
        sheet := { s with stack }
        actions := s.entering l
          ++ [.note (.layerAdded l.id i), s.publishStack (.added (some l) (.single i))] }

def insert (s : Sheet) (i : Nat) (l : LayerHandle) : Step (Except Failure Bool) :=
  s.whenLive <|
    if s.layerCount < i then .still s (.error (.indexOutOfBounds i s.layerCount))
    else
      match s.stack.insert i l with
      | (false, _) => .still s (.ok false)
      | (true, stack) =>
        { result := .ok true
          sheet := { s with stack }
          actions := s.entering l
            ++ [.note (.layerInserted l.id i), s.publishStack (.added (some l) (.single i))] }

/-- Pushes layers one after the other; tells which of them were new. -/
def pushAll : Stack → List LayerHandle → Stack × List LayerHandle
  | stack, [] => (stack, [])
  | stack, l :: ls =>
    match stack.push l with
    | (none, _) => pushAll stack ls
    | (some _, stack) =>
      let (stack, added) := pushAll stack ls
      (stack, l :: added)

def addAll (s : Sheet) (ls : List LayerHandle) : Step (Except Failure Nat) :=
  s.whenLive <|
    let (stack, added) := pushAll s.stack ls
    if added.isEmpty then .still s (.ok 0)
    else
      let first := s.layerCount
      let last := first + added.length - 1
      { result := .ok added.length
        sheet := { s with stack }
        actions := added.flatMap s.entering
          ++ [.note (.layersAdded added.length first last),
            s.publishStack (.added none (.span first last))] }

/-- What follows when a layer has left its index. -/
def removed (s : Sheet) (l : LayerHandle) (i : Nat) : List Action :=
  s.leaving l
    ++ [.note (.layerRemoved l.id i), s.publishStack (.removed (some l) (.single i))]

def remove (s : Sheet) (id : LayerId) : Step (Except Failure Bool) :=
  s.whenLive <|
    match s.stack.indexOf? id with
    | none => .still s (.ok false)
    | some i =>
      match s.stack.removeAt i with
      | (none, _) => .still s (.ok false)
      | (some l, stack) =>
        { result := .ok true, sheet := { s with stack }, actions := s.removed l i }

def removeAt (s : Sheet) (i : Nat) : Step (Except Failure LayerHandle) :=
  s.whenLive <|
    match s.stack.removeAt i with
    | (none, _) => .still s (.error (.indexOutOfBounds i s.layerCount))
    | (some l, stack) =>
      { result := .ok l, sheet := { s with stack }, actions := s.removed l i }

/-- Removes the layers that fit a test, from the bottom up. -/
def removeIf (s : Sheet) (doomed : LayerHandle → Bool) : Step (Except Failure Nat) :=
  s.whenLive <|
    let positions := s.stack.positions doomed
    match positions.head?, positions.getLast? with
    | some first, some last =>
      { result := .ok positions.length
        sheet := { s with stack := s.stack.retain (!doomed ·) }
        actions := (s.layers.filter doomed).flatMap s.leaving
          ++ [.note (.layersRemoved positions.length first last),
            s.publishStack (.removed none (.span first last))] }
    | _, _ => .still s (.ok 0)

def removeAll (s : Sheet) (ids : List LayerId) : Step (Except Failure Nat) :=
  s.removeIf fun l => ids.contains l.id

def retain (s : Sheet) (ids : List LayerId) : Step (Except Failure Nat) :=
  s.removeIf fun l => !ids.contains l.id

def swap (s : Sheet) (a b : Nat) : Step (Except Failure Unit) :=
  s.whenLive <|
    match [a, b].find? (s.layerCount ≤ ·) with
    | some i => .still s (.error (.indexOutOfBounds i s.layerCount))
    | none =>
      if a = b then .still s (.ok ())
      else
        let (_, stack) := s.stack.swap a b
        let later := max a b
        match stack.get? later with
        | none => { result := .ok (), sheet := { s with stack } }
        | some l =>
          { result := .ok ()
            sheet := { s with stack }
            actions :=
              [.note (.layersSwapped l.id (min a b) later), s.publishStack (.moved l later)] }

def allLeaving (s : Sheet) : List Action := s.layers.flatMap s.leaving

def clear (s : Sheet) : Step (Except Failure Unit) :=
  s.whenLive
    { result := .ok ()
      sheet := { s with stack := s.stack.drain.2 }
      actions := s.allLeaving
        ++ [.note (.layersCleared s.layerCount), s.publishStack (.removed none .all)] }

end LayeredMap.Sheet
