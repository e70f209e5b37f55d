import LayeredMap.Sheet.Basic

/-!
# Title, user data and viewport of a sheet

A write to the title or to one entry publishes an event with the value before
and after it, also if they are equal; one that touches the user data as a
whole publishes an event without values. The viewport is compared first: an
event is published for each part that differs, the area before the system.
Since NaN differs from itself, an area with NaN in it differs from itself too.
-/
namespace LayeredMap.Sheet

def titleProperty : String := "title"

def userDataProperty : String := "userData"

def setTitle (s : Sheet) (title : String) : Step (Except Failure Unit) :=
  s.whenLive
    { result := .ok ()
      sheet := { s with title := some title }
      actions := [s.publishProperty
        { property := titleProperty, old := s.title.map .string, new := some (.string title) }] }

def putData (s : Sheet) (k : String) (v : Json) : Step (Except Failure (Option Json)) :=
  s.whenLive
    { result := .ok (s.data? k)
      sheet := { s with userData := some ((s.userData.getD {}).insert k v) }
      actions := [s.publishProperty { property := k, old := s.data? k, new := some v }] }

def removeData (s : Sheet) (k : String) : Step (Except Failure (Option Json)) :=
  s.whenLive <|
    match s.data? k with
    | none => .still s (.ok none)
    | some old =>
      { result := .ok (some old)
        sheet := { s with userData := s.userData.map (·.erase k) }
        actions := [s.publishProperty { property := k, old := some old, new := none }] }

def publishUserData (s : Sheet) : Action :=
  s.publishProperty { property := userDataProperty, old := none, new := none }

def extendData (s : Sheet) (entries : List (String × Json)) : Step (Except Failure Unit) :=
  s.whenLive
    { result := .ok ()
      sheet := { s with
        userData := some (entries.foldl (fun d (k, v) => d.insert k v) (s.userData.getD {})) }
      actions := [s.publishUserData] }

def clearData (s : Sheet) : Step (Except Failure Unit) :=
  s.whenLive
    { result := .ok ()
      sheet := { s with userData := s.userData.map fun _ => {} }
      actions := [s.publishUserData] }

/-- The parts of the viewport that differ. -/
def changedParts (old new : Viewport) : List ViewportPart :=
  (if old.bounds != new.bounds then [.bounds] else [])
    ++ (if old.crs ≠ new.crs then [.crs] else [])

def updateViewport (s : Sheet) (update : Viewport → Viewport) : Step (Except Failure Unit) :=
  s.whenLive <|
    let old := s.currentViewport
    let new := update old
    if new == old then .still s (.ok ())
    else
      { result := .ok ()
        sheet := { s with viewport := some new }
        actions := (changedParts old new).map fun part => s.publishViewport { part, old, new } }

def setViewport (s : Sheet) (v : Viewport) : Step (Except Failure Unit) :=
  s.updateViewport fun _ => v

def setCrs (s : Sheet) (crs : Option Crs) : Step (Except Failure Unit) :=
  s.updateViewport ({ · with crs })

def setBounds (s : Sheet) (bounds : Option (Footprint Float)) : Step (Except Failure Unit) :=
  s.updateViewport ({ · with bounds })

end LayeredMap.Sheet
