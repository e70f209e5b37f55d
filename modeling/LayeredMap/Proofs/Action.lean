import LayeredMap.Proofs.Delivery
import LayeredMap.World.Command

/-!
# What actions do

The actions of a step leave the sheets, the names and the conduct of listeners
as they are: only layers and the stage move. Each layer sees the actions that
name its object, and each event that is published reaches its roster. Commands
on a layer are simpler still: one layer changes and the rest is echoes.
-/

namespace LayeredMap

theorem put_eq_self {α β : Type} [DecidableEq α] (f : α → β) (a : α) : put f a (f a) = f := by
  funext x
  by_cases same : x = a
  · rw [same, put_self]
  · rw [put_of_ne _ _ same]

/-- What an action of a sheet does to the layer of an object. -/
def Layer.receive (r : SheetRef) (object : Nat) (l : Layer) : Action → Layer
  | .subscribe h n => if h.object = object then l.subscribe (.relay r n) else l
  | .unsubscribe h n => if h.object = object then l.unsubscribe (.relay r n) else l
  | .dispose h => if h.object = object then l.dispose.1 else l
  | .note _ => l
  | .publish _ _ => l

/-- The deliveries that an action makes by itself. -/
def Action.told (sc : Scene) : Action → List Delivery
  | .publish roster e => roster.toList.map (sc.told e)
  | _ => []

/-- The scene with other layers in it. -/
def Scene.withLayers (sc : Scene) (layers : Nat → Layer) : Scene := { sc with layers }

theorem Scene.ignores_withLayers {sc : Scene} {p : Delivery → Bool} (layers : Nat → Layer) :
    (sc.withLayers layers).Ignores p ↔ sc.Ignores p := by
  constructor
  · intro h d hd
    cases hd with
    | direct l e => exact h _ (.direct l e)
    | passedOn r e i m l held index member listens =>
      exact h _ (.passedOn r e i m l held index member listens)
  · intro h d hd
    cases hd with
    | direct l e => exact h _ (.direct l e)
    | passedOn r e i m l held index member listens =>
      exact h _ (.passedOn r e i m l held index member listens)

namespace World

variable (w : World) (r : SheetRef) (object : Nat)

theorem layer_setLayer (l : Layer) (i : Nat) :
    (w.setLayer object l).layer i = if i = object then l else w.layer i := rfl

theorem disposeLayer_eq :
    w.disposeLayer object = w.setLayer object (w.layer object).dispose.1 ∨
      ∃ n, w.disposeLayer object = (w.setLayer object (w.layer object).dispose.1).note n := by
  cases h : (w.layer object).dispose with
  | mk l ended =>
    cases ended with
    | true => exact Or.inr ⟨.layerDisposed l.id, by simp [disposeLayer, h]⟩
    | false => exact Or.inl (by simp [disposeLayer, h])

theorem layer_disposeLayer (i : Nat) : (w.disposeLayer object).layer i =
    if i = object then (w.layer object).dispose.1 else w.layer i := by
  rcases disposeLayer_eq w object with h | ⟨n, h⟩ <;> rw [h] <;> rfl

theorem scene_act (a : Action) : (act r w a).scene = w.scene.withLayers (act r w a).scene.layers := by
  cases a with
  | dispose h => rcases disposeLayer_eq w h.object with eq | ⟨n, eq⟩ <;> rw [act, eq] <;> rfl
  | _ => rfl

theorem sheetsMade_act (a : Action) : (act r w a).sheetsMade = w.sheetsMade := by
  cases a with
  | dispose h => rcases disposeLayer_eq w h.object with eq | ⟨n, eq⟩ <;> rw [act, eq] <;> rfl
  | _ => rfl

theorem layer_act (a : Action) : (act r w a).layer object = (w.layer object).receive r object a := by
  cases a with
  | subscribe h n =>
    by_cases heq : h.object = object
    · simp [act, subscribe, Layer.receive, layer_setLayer, heq]
    · simp [act, subscribe, Layer.receive, layer_setLayer, heq, Ne.symm heq]
  | unsubscribe h n =>
    by_cases heq : h.object = object
    · simp [act, unsubscribe, Layer.receive, layer_setLayer, heq]
    · simp [act, unsubscribe, Layer.receive, layer_setLayer, heq, Ne.symm heq]
  | dispose h =>
    by_cases heq : h.object = object
    · simp [act, Layer.receive, layer_disposeLayer, heq]
    · simp [act, Layer.receive, layer_disposeLayer, heq, Ne.symm heq]
  | note n => rfl
  | publish roster e => rfl

theorem act_adds {p : Delivery → Bool} (hp : w.scene.Ignores p) (a : Action) :
    Stage.Adds p w.stage (act r w a).stage ((a.told w.scene).filter p) := by
  cases a with
  | subscribe h n => exact .refl p w.stage
  | unsubscribe h n => exact .refl p w.stage
  | dispose h =>
    rcases disposeLayer_eq w h.object with eq | ⟨n, eq⟩
    · rw [act, eq]
      exact .refl p w.stage
    · rw [act, eq]
      exact Stage.adds_note p w.stage n
  | note n => exact Stage.adds_note p w.stage n
  | publish roster e => exact Scene.notify_adds (Scene.poke_silent hp) roster e w.stage

variable (actions : List Action)

theorem scene_foldl_act : (actions.foldl (act r) w).scene =
    w.scene.withLayers (actions.foldl (act r) w).scene.layers := by
  induction actions generalizing w with
  | nil => rfl
  | cons a rest ih =>
    have first := scene_act w r a
    have later := ih (act r w a)
    rw [first] at later
    exact later

theorem sheetsMade_foldl_act : (actions.foldl (act r) w).sheetsMade = w.sheetsMade := by
  induction actions generalizing w with
  | nil => rfl
  | cons a rest ih => exact (ih (act r w a)).trans (sheetsMade_act w r a)

theorem layer_foldl_act :
    (actions.foldl (act r) w).layer object =
      actions.foldl (Layer.receive r object) (w.layer object) := by
  induction actions generalizing w with
  | nil => rfl
  | cons a rest ih => rw [List.foldl_cons, ih, layer_act, List.foldl_cons]

/-- Echoes apart, the deliveries are those that the actions make by themselves. -/
theorem foldl_act_adds {p : Delivery → Bool} (hp : w.scene.Ignores p) :
    Stage.Adds p w.stage (actions.foldl (act r) w).stage
      ((actions.flatMap (Action.told w.scene)).filter p) := by
  induction actions generalizing w with
  | nil => exact .refl p w.stage
  | cons a rest ih =>
    have same := scene_act w r a
    have ignored : (act r w a).scene.Ignores p := by
      rw [same]
      exact (Scene.ignores_withLayers _).mpr hp
    have told : rest.flatMap (Action.told (act r w a).scene) =
        rest.flatMap (Action.told w.scene) := by
      rw [same]
      rfl
    have later := ih (act r w a) ignored
    rw [told] at later
    rw [List.flatMap_cons, List.filter_append]
    exact (act_adds w r hp a).trans later

/-! ## Performances -/

variable {ρ : Type} (op : Sheet → Step ρ)

theorem scene_perform : (w.perform r op).1.scene =
    (w.setSheet r (op (w.sheet r)).sheet).scene.withLayers (w.perform r op).1.scene.layers :=
  scene_foldl_act _ r _

theorem sheet_perform (r' : SheetRef) : (w.perform r op).1.sheet r' =
    if r' = r then (op (w.sheet r)).sheet else w.sheet r' := by
  rw [sheet, scene_perform]
  rfl

theorem sheetsMade_perform : (w.perform r op).1.sheetsMade = w.sheetsMade :=
  sheetsMade_foldl_act _ r _

theorem handles_perform : (w.perform r op).1.scene.handles = w.scene.handles := by
  rw [scene_perform]
  rfl

theorem conducts_perform : (w.perform r op).1.scene.conducts = w.scene.conducts := by
  rw [scene_perform]
  rfl

theorem layer_perform : (w.perform r op).1.layer object =
    (op (w.sheet r)).actions.foldl (Layer.receive r object) (w.layer object) :=
  layer_foldl_act _ r object _

theorem perform_adds {p : Delivery → Bool} (hp : (w.perform r op).1.scene.Ignores p) :
    Stage.Adds p w.stage (w.perform r op).1.stage
      (((op (w.sheet r)).actions.flatMap (Action.told (w.perform r op).1.scene)).filter p) := by
  have same := scene_perform w r op
  rw [same, Scene.ignores_withLayers] at hp
  rw [same]
  exact foldl_act_adds (w.setSheet r (op (w.sheet r)).sheet) r (op (w.sheet r)).actions hp

end World

/-! ## Commands on a layer -/

/-- What a command on a layer does to it. -/
def Layer.obey (l : Layer) : LayerCommand → Layer
  | .setVisible _ | .setSelected _ | .fire _ => l
  | .setBounds bounds => l.modifyFixed ({ · with bounds })
  | .setTitle title => l.modifyFixed ({ · with title })
  | .setUnavailable reason => l.modifyFixed ({ · with unavailable := reason })
  | .subscribe x => l.subscribe (.listener x)
  | .unsubscribe x => l.unsubscribe (.listener x)
  | .dispose => l.dispose.1

namespace World

variable (w : World) (object : Nat)

theorem replied_fst (x : World × Option String) : (replied x).1 = x.1 := by
  obtain ⟨w, error⟩ := x
  cases error <;> rfl

theorem setLayer_layer : w.setLayer object (w.layer object) = w := by
  have same : put w.scene.layers object (w.layer object) = w.scene.layers := put_eq_self _ object
  rw [setLayer, same]

theorem attempt_eq (a : Scene → Attempt) (h : ∀ p, w.scene.Ignores p → Silent p (a w.scene)) :
    ∃ stage, (w.attempt a).1 = { w with stage } ∧
      ∀ p, w.scene.Ignores p → Stage.Adds p w.stage stage [] :=
  ⟨(a w.scene w.stage).1, rfl, fun p hp => h p hp w.stage⟩

theorem change_eq (aspect : Aspect) (f : FixedBody → FixedBody) : ∃ stage,
    (w.change object aspect f).1 = { w.setLayer object ((w.layer object).modifyFixed f) with stage } ∧
      ∀ p, w.scene.Ignores p → Stage.Adds p w.stage stage [] := by
  refine ⟨_, rfl, ?_⟩
  intro p hp
  let l := (w.layer object).modifyFixed f
  have ignored : (w.setLayer object l).scene.Ignores p :=
    (Scene.ignores_withLayers (put w.scene.layers object l)).mpr hp
  exact Scene.fire_silent ignored (Scene.poke_silent ignored) object _ w.stage

/-- The layer obeys, and the rest is echoes. -/
theorem executeLayer_eq (c : LayerCommand) : ∃ stage,
    (w.executeLayer object c).1 = { w.setLayer object ((w.layer object).obey c) with stage } ∧
      ∀ p, w.scene.Ignores p → Stage.Adds p w.stage stage [] := by
  cases c with
  | setVisible on =>
    rw [executeLayer, replied_fst, Layer.obey, setLayer_layer]
    exact attempt_eq w _ fun p hp => Scene.switch_silent hp (Scene.poke_silent hp) object _
  | setSelected on =>
    rw [executeLayer, replied_fst, Layer.obey, setLayer_layer]
    exact attempt_eq w _ fun p hp => Scene.switch_silent hp (Scene.poke_silent hp) object _
  | fire e =>
    rw [executeLayer, replied_fst, Layer.obey, setLayer_layer]
    exact attempt_eq w _ fun p hp => Scene.fire_silent hp (Scene.poke_silent hp) object e
  | setBounds bounds =>
    rw [executeLayer, replied_fst]
    exact change_eq w object .bounds ({ · with bounds })
  | setTitle title =>
    rw [executeLayer, replied_fst]
    exact change_eq w object .metadata ({ · with title })
  | setUnavailable reason => exact ⟨w.stage, rfl, fun p _ => .refl p w.stage⟩
  | subscribe l => exact ⟨w.stage, rfl, fun p _ => .refl p w.stage⟩
  | unsubscribe l => exact ⟨w.stage, rfl, fun p _ => .refl p w.stage⟩
  | dispose =>
    rw [executeLayer]
    rcases disposeLayer_eq w object with eq | ⟨n, eq⟩
    · rw [eq]
      exact ⟨w.stage, rfl, fun p _ => .refl p w.stage⟩
    · rw [eq]
      exact ⟨w.stage.note n, rfl, fun p _ => Stage.adds_note p w.stage n⟩

end World
end LayeredMap
