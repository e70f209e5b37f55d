import LayeredMap.Layer.Basic
import LayeredMap.Text.Quoted

/-!
# Layers described

A line about a fixed layer for a person who looks for a fault: its identity,
title and switches, and whether it is disposed. The title is quoted.
-/
namespace LayeredMap

def Layer.describe (l : Layer) (name : LayerId → String) (f : Flags) : String :=
  let title := match l.title with
    | some t => "Some(" ++ Text.quoted t ++ ")"
    | none => "None"
  let flag (label : String) (b : Bool) : String := ", " ++ label ++ ": " ++ toString b
  "StaticLayer \x7b id: LayerId(" ++ name l.id ++ "), title: " ++ title
    ++ flag "visible" f.visible ++ flag "selected" f.selected ++ flag "disposed" l.isDisposed
    ++ ", .. \x7d"

end LayeredMap
