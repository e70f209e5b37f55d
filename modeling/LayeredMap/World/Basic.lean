import LayeredMap.Sheet.Disposal
import LayeredMap.Sheet.Listeners
import LayeredMap.Sheet.Properties
import LayeredMap.World.Delivery

/-!
# Worlds

A scene and a stage together. An operation on a sheet first settles the sheet
and then carries out its actions in order; an operation on a layer changes the
layer first and then lets it tell its subscribers.
-/
namespace LayeredMap

structure World where
  scene : Scene
  stage : Stage
  sheetsMade : Nat := 0

namespace World

/-- Layers with their switches, listeners with their conduct, and no sheet yet. Objects and
listeners are numbered from 0 in the order given. -/
def opening (layers : List (Layer × Flags)) (conducts : List Conduct) : World :=
  { scene :=
      { sheets := fun _ => {}
        reprojectors := fun _ => ({} : TransformTable Float).reprojector
        layers := fun i => (layers[i]?.map (·.1)).getD .blank
        conducts := fun l => conducts[l.number]?.getD {}
        handles := [] }
    stage := { flags := fun i => (layers[i]?.map (·.2)).getD {} } }

def sheet (w : World) (r : SheetRef) : Sheet := w.scene.sheets r

def layer (w : World) (object : Nat) : Layer := w.scene.layers object

def setSheet (w : World) (r : SheetRef) (s : Sheet) : World :=
  { w with scene := { w.scene with sheets := put w.scene.sheets r s } }

def setLayer (w : World) (object : Nat) (l : Layer) : World :=
  { w with scene := { w.scene with layers := put w.scene.layers object l } }

def note (w : World) (n : Notice) : World := { w with stage := w.stage.note n }

/-- Lets the stage move while the scene holds still. -/
def attempt (w : World) (a : Scene → Attempt) : World × Option String :=
  let (stage, error) := a w.scene w.stage
  ({ w with stage }, error)

/-! ## Layers -/

def disposeLayer (w : World) (object : Nat) : World :=
  let (l, ended) := (w.layer object).dispose
  let w := w.setLayer object l
  if ended then w.note (.layerDisposed l.id) else w

def subscribe (w : World) (object : Nat) (s : Subscriber) : World :=
  w.setLayer object ((w.layer object).subscribe s)

def unsubscribe (w : World) (object : Nat) (s : Subscriber) : World :=
  w.setLayer object ((w.layer object).unsubscribe s)

/-- A layer tells its subscribers of an event. -/
def fire (w : World) (object : Nat) (e : LayerEvent) : World × Option String :=
  w.attempt fun sc => sc.fire sc.poke object e

def setVisible (w : World) (object : Nat) (on : Bool) : World × Option String :=
  w.attempt fun sc => sc.switch sc.poke object (·.setVisible on)

def setSelected (w : World) (object : Nat) (on : Bool) : World × Option String :=
  w.attempt fun sc => sc.switch sc.poke object (·.setSelected on)

def change (w : World) (object : Nat) (aspect : Aspect) (f : FixedBody → FixedBody) :
    World × Option String :=
  let l := (w.layer object).modifyFixed f
  (w.setLayer object l).fire object { layer := l.id, change := .changed aspect }

def setLayerBounds (w : World) (object : Nat) (bounds : Option (Footprint Float)) :
    World × Option String :=
  w.change object .bounds ({ · with bounds })

def setLayerTitle (w : World) (object : Nat) (title : String) : World × Option String :=
  w.change object .metadata ({ · with title })

/-- Nobody is told that a source went away or came back. -/
def setUnavailable (w : World) (object : Nat) (reason : Option String) : World :=
  w.setLayer object ((w.layer object).modifyFixed ({ · with unavailable := reason }))

/-! ## Sheets -/

def act (r : SheetRef) (w : World) : Action → World
  | .subscribe l n => w.subscribe l.object (.relay r n)
  | .unsubscribe l n => w.unsubscribe l.object (.relay r n)
  | .dispose l => w.disposeLayer l.object
  | .note n => w.note n
  | .publish roster e => { w with stage := w.scene.notify w.scene.poke roster e w.stage }

/-- Carries out an operation on a sheet. -/
def perform {ρ : Type} (w : World) (r : SheetRef) (op : Sheet → Step ρ) : World × ρ :=
  let step := op (w.sheet r)
  (step.actions.foldl (act r) (w.setSheet r step.sheet), step.result)

/-- The union of what the members of a sheet report. -/
def maxBoundsIn (w : World) (r : SheetRef) (preferred : Option Crs) :
    World × Option (Footprint Float) :=
  let surveys := (w.sheet r).layers.map fun l => (w.layer l.object).survey
  let (bounds, notices) := maxBounds (w.scene.reprojectors r) preferred surveys
  (notices.foldl note w, bounds)

/-- In the system of the sheet, if it has one. -/
def maxBoundsOf (w : World) (r : SheetRef) : World × Option (Footprint Float) :=
  w.maxBoundsIn r (w.sheet r).effectiveCrs

/-! ## Names of sheets -/

/-- A sheet whose last name was taken away ends. -/
def settle (w : World) (r : SheetRef) : World :=
  if w.scene.isOpen r then w else (w.perform r Sheet.drop).1

/-- Takes a name away; says whether it was bound. -/
def unbind (w : World) (name : String) : World × Bool :=
  match w.scene.sheetNamed? name with
  | none => (w, false)
  | some r =>
    let handles := w.scene.handles.filter (·.1 ≠ name)
    ({ w with scene := { w.scene with handles } }.settle r, true)

/-- Binds a name to a sheet, in place of what it was bound to. -/
def bind (w : World) (name : String) (r : SheetRef) : World :=
  let handles := (name, r) :: w.scene.handles.filter (·.1 ≠ name)
  let w' := { w with scene := { w.scene with handles } }
  match w.scene.sheetNamed? name with
  | none => w'
  | some old => w'.settle old

/-- Makes a sheet under a name. -/
def create (w : World) (name : String) (s : Sheet) (reprojector : Reprojector Float) :
    World × SheetRef :=
  let r : SheetRef := ⟨w.sheetsMade⟩
  let w := w.setSheet r s
  let reprojectors := put w.scene.reprojectors r reprojector
  let w := { w with scene := { w.scene with reprojectors }, sheetsMade := w.sheetsMade + 1 }
  (w.bind name r, r)

end World
end LayeredMap
