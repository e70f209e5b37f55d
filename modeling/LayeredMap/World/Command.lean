import LayeredMap.World.Basic

/-!
# Commands

Whatever can be done to a world, as data: a run is a list of commands. Every
command has a reply. Looking at a world is no command, but measuring is one,
since it puts on record which layers had nothing to say.
-/
namespace LayeredMap

inductive Reply where
  | done
  | flag (b : Bool)
  | count (n : Nat)
  | layer (l : LayerHandle)
  | value (v : Option Json)
  | bounds (f : Option (Footprint Float))
  | refused (e : Failure)
  | crashed (error : String)
  | noSheet

def Reply.ofResult {α : Type} (f : α → Reply) : Except Failure α → Reply
  | .ok a => f a
  | .error e => refused e

/-- What can be done to a sheet. -/
inductive SheetCommand where
  | add (l : LayerHandle)
  | insert (i : Nat) (l : LayerHandle)
  | addAll (ls : List LayerHandle)
  | remove (id : LayerId)
  | removeAt (i : Nat)
  | removeAll (ids : List LayerId)
  | retain (ids : List LayerId)
  | swap (a b : Nat)
  | clear
  | dispose
  | listenToStack (l : ListenerRef)
  | unlistenToStack (l : ListenerRef)
  | listenToProperties (l : ListenerRef)
  | unlistenToProperties (l : ListenerRef)
  | listenToViewport (l : ListenerRef)
  | unlistenToViewport (l : ListenerRef)
  | setTitle (title : String)
  | putData (k : String) (v : Json)
  | removeData (k : String)
  | extendData (entries : List (String × Json))
  | clearData
  | setViewport (v : Viewport)
  | setCrs (crs : Option Crs)
  | setBounds (bounds : Option (Footprint Float))

def SheetCommand.step (s : Sheet) : SheetCommand → Step Reply
  | add l => (s.add l).map (.ofResult .flag)
  | insert i l => (s.insert i l).map (.ofResult .flag)
  | addAll ls => (s.addAll ls).map (.ofResult .count)
  | remove id => (s.remove id).map (.ofResult .flag)
  | removeAt i => (s.removeAt i).map (.ofResult .layer)
  | removeAll ids => (s.removeAll ids).map (.ofResult .count)
  | retain ids => (s.retain ids).map (.ofResult .count)
  | swap a b => (s.swap a b).map (.ofResult fun _ => .done)
  | clear => s.clear.map (.ofResult fun _ => .done)
  | dispose => s.dispose.map fun _ => .done
  | listenToStack l => (s.listenToStack l).map .flag
  | unlistenToStack l => (s.unlistenToStack l).map .flag
  | listenToProperties l => (s.listenToProperties l).map .flag
  | unlistenToProperties l => (s.unlistenToProperties l).map .flag
  | listenToViewport l => (s.listenToViewport l).map .flag
  | unlistenToViewport l => (s.unlistenToViewport l).map .flag
  | setTitle title => (s.setTitle title).map (.ofResult fun _ => .done)
  | putData k v => (s.putData k v).map (.ofResult .value)
  | removeData k => (s.removeData k).map (.ofResult .value)
  | extendData entries => (s.extendData entries).map (.ofResult fun _ => .done)
  | clearData => s.clearData.map (.ofResult fun _ => .done)
  | setViewport v => (s.setViewport v).map (.ofResult fun _ => .done)
  | setCrs crs => (s.setCrs crs).map (.ofResult fun _ => .done)
  | setBounds bounds => (s.setBounds bounds).map (.ofResult fun _ => .done)

/-- What can be done to a layer object. -/
inductive LayerCommand where
  | setVisible (on : Bool)
  | setSelected (on : Bool)
  | setBounds (bounds : Option (Footprint Float))
  | setTitle (title : String)
  | setUnavailable (reason : Option String)
  | subscribe (l : ListenerRef)
  | unsubscribe (l : ListenerRef)
  | dispose
  | fire (e : LayerEvent)

inductive Command where
  | create (name : String) (title : Option String) (crs : Option Crs)
      (reprojector : Reprojector Float)
  | share (name another : String)
  | release (name : String)
  | sheet (name : String) (c : SheetCommand)
  | maxBounds (name : String)
  | maxBoundsIn (name : String) (preferred : Option Crs)
  | layer (object : Nat) (c : LayerCommand)

namespace World

/-- The reply of something that may fail with the error of a listener. -/
def replied : World × Option String → World × Reply
  | (w, none) => (w, .done)
  | (w, some error) => (w, .crashed error)

def executeLayer (w : World) (object : Nat) : LayerCommand → World × Reply
  | .setVisible on => replied (w.setVisible object on)
  | .setSelected on => replied (w.setSelected object on)
  | .setBounds bounds => replied (w.setLayerBounds object bounds)
  | .setTitle title => replied (w.setLayerTitle object title)
  | .setUnavailable reason => (w.setUnavailable object reason, .done)
  | .subscribe l => (w.subscribe object (.listener l), .done)
  | .unsubscribe l => (w.unsubscribe object (.listener l), .done)
  | .dispose => (w.disposeLayer object, .done)
  | .fire e => replied (w.fire object e)

/-- Does something with the sheet of a name, if there is one. -/
def withSheet (w : World) (name : String) (f : SheetRef → World × Reply) : World × Reply :=
  match w.scene.sheetNamed? name with
  | some r => f r
  | none => (w, .noSheet)

def execute (w : World) : Command → World × Reply
  | .create name title crs reprojector =>
    ((w.create name (.ofSettings title crs) reprojector).1, .done)
  | .share name another => w.withSheet name fun r => (w.bind another r, .done)
  | .release name =>
    let (w, bound) := w.unbind name
    (w, .flag bound)
  | .sheet name c => w.withSheet name fun r => w.perform r fun s => c.step s
  | .maxBounds name => w.withSheet name fun r =>
    let (w, f) := w.maxBoundsOf r
    (w, .bounds f)
  | .maxBoundsIn name preferred => w.withSheet name fun r =>
    let (w, f) := w.maxBoundsIn r preferred
    (w, .bounds f)
  | .layer object c => w.executeLayer object c

def run (w : World) (cs : List Command) : World := cs.foldl (fun w c => (w.execute c).1) w

/-- The same world with nothing on record. -/
def afresh (w : World) : World := { w with stage := { w.stage with trace := [] } }

end World

end LayeredMap
