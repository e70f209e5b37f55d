import LayeredMap.Sheet.Basic

/-!
# Scenes and stages

The scene is what holds still while an event is delivered: the sheets, the
layers, how listeners behave, and the names under which sheets are held. A
sheet lives while a name is bound to it. The stage is what a delivery moves:
the switches of layers, how often each listener was called, and the record of
deliveries and notices.
-/
namespace LayeredMap

/-- A table with one entry changed. -/
def put {α β : Type} [DecidableEq α] (f : α → β) (a : α) (b : β) : α → β :=
  fun x => if x = a then b else f x

@[simp] theorem put_self {α β : Type} [DecidableEq α] (f : α → β) (a : α) (b : β) :
    put f a b a = b := by
  simp [put]

@[simp] theorem put_of_ne {α β : Type} [DecidableEq α] (f : α → β) {a x : α} (b : β)
    (h : x ≠ a) : put f a b x = f x := by
  simp [put, h]

/-- Switches that a listener sets on a layer when it is called. -/
structure Poke where
  object : Nat
  visible : Option Bool := none
  selected : Option Bool := none
  deriving DecidableEq

/-- The calls, counted from 1, at which a listener fails. -/
inductive FailurePlan where
  | never
  | always
  | at (calls : List Nat)
  deriving DecidableEq

def FailurePlan.includes (p : FailurePlan) (call : Nat) : Bool :=
  match p with
  | never => false
  | always => true
  | .at calls => calls.contains call

/-- How a listener behaves: it may look at the sheet of some name, then poke layers, then fail. -/
structure Conduct where
  observes : Option String := none
  pokes : List Poke := []
  fails : FailurePlan := .never
  error : String := ""
  deriving DecidableEq

/-- What a listener sees of a sheet. -/
structure Sighting where
  layers : List LayerHandle
  title : Option String
  listening : Bool
  disposed : Bool
  crs : Option Crs
  deriving DecidableEq

def Sheet.sighting (s : Sheet) : Sighting :=
  { layers := s.layers, title := s.title, listening := s.isListening, disposed := s.disposed
    crs := s.effectiveCrs }

structure Scene where
  sheets : SheetRef → Sheet
  reprojectors : SheetRef → Reprojector Float
  layers : Nat → Layer
  conducts : ListenerRef → Conduct
  handles : List (String × SheetRef)

namespace Scene

def sheetNamed? (sc : Scene) (name : String) : Option SheetRef := sc.handles.lookup name

def isOpen (sc : Scene) (r : SheetRef) : Bool := sc.handles.any (·.2 == r)

def sight (sc : Scene) (name : String) : Option Sighting :=
  (sc.sheetNamed? name).map fun r => (sc.sheets r).sighting

end Scene

/-- An event as a listener got it. The last part is absent if it does not look at a sheet, and
holds nothing if there was none. -/
structure Delivery where
  listener : ListenerRef
  event : Event
  sighting : Option (Option Sighting)

inductive Entry where
  | delivery (d : Delivery)
  | notice (n : Notice)

def Entry.delivery? : Entry → Option Delivery
  | delivery d => some d
  | notice _ => none

def Entry.notice? : Entry → Option Notice
  | notice n => some n
  | delivery _ => none

/-- The newest entry of the record is in front. -/
structure Stage where
  flags : Nat → Flags
  calls : ListenerRef → Nat := fun _ => 0
  trace : List Entry := []

namespace Stage

def record (st : Stage) (e : Entry) : Stage := { st with trace := e :: st.trace }

def note (st : Stage) (n : Notice) : Stage := st.record (.notice n)

/-- In the order in which they were made. -/
def deliveries (st : Stage) : List Delivery := (st.trace.filterMap Entry.delivery?).reverse

/-- In the order in which they were given. -/
def notices (st : Stage) : List Notice := (st.trace.filterMap Entry.notice?).reverse

@[simp] theorem deliveries_record (st : Stage) (e : Entry) :
    (st.record e).deliveries = st.deliveries ++ e.delivery?.toList := by
  cases e <;> simp [record, deliveries, Entry.delivery?, List.filterMap_cons]

end Stage
end LayeredMap
