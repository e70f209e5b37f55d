import LayeredMap.Sheet.Layers

/-!
# The end of a sheet

Disposal releases the members, forgets everything and tells those who listened
to the stack, if there was a member. A sheet that is dropped without it
releases its members all the same and puts that on record.
-/
namespace LayeredMap.Sheet

def dispose (s : Sheet) : Step Unit :=
  if s.disposed then .still s ()
  else
    { result := ()
      sheet := { relaysMade := s.relaysMade, disposed := true }
      actions := s.allLeaving ++ .note (.sheetDisposed s.layerCount)
        :: if s.layerCount = 0 then [] else [s.publishStack (.removed none .all)] }

def drop (s : Sheet) : Step Unit :=
  if s.disposed || s.stack.isEmpty then .still s ()
  else
    { result := ()
      sheet := { s with stack := {} }
      actions := .note (.sheetDropped s.layerCount) :: s.allLeaving }

end LayeredMap.Sheet
