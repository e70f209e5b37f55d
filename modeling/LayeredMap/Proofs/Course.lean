import LayeredMap.Proofs.Names
import LayeredMap.Proofs.Transition

/-!
# What a command comes to

In a sound world every command comes to one of two things. Either one sheet
takes a step and its actions are carried out, or no sheet takes one and at most
a single layer obeys. The sheet that acts is the one that the name in the
command stands for.
-/

namespace LayeredMap

/-- What the sheet that acts on a command is offered. -/
def Command.offer : Command → Offer
  | .sheet _ c => c.offer
  | _ => { last := true }

/-- What a command does to the layer of an object other than through a sheet. -/
def Layer.suffer (object : Nat) (l : Layer) : Command → Layer
  | .layer i c => if object = i then l.obey c else l
  | _ => l

theorem last_offer (c : SheetCommand) : c.offer.last = false := by
  cases c <;> rfl

namespace World

/-- The sheet that a command is about. -/
def actor (w : World) : Command → Option SheetRef
  | .create name .. | .share _ name | .release name | .sheet name _ => w.scene.sheetNamed? name
  | _ => none

structure Sound (w : World) : Prop where
  sheets : ∀ r, (w.sheet r).Sound
  bound : ∀ x ∈ w.scene.handles, x.2.number < w.sheetsMade
  /-- Sheets that are not made yet are blank. -/
  unborn : ∀ r, w.sheetsMade ≤ r.number → Sheet.Alike {} (w.sheet r)

/-- A sheet takes a step. -/
structure Acts (w w' : World) (c : Command) (r : SheetRef) (actions : List Action) : Prop where
  actor : w.actor c = some r
  transition : Sheet.Transition c.offer (w.sheet r) (w'.sheet r) actions
  others : ∀ r', r' ≠ r → (w.sheet r').Alike (w'.sheet r')
  layers : ∀ i, w'.layer i = actions.foldl (Layer.receive r i) (w.layer i)
  adds : ∀ p, w'.scene.Ignores p →
    Stage.Adds p w.stage w'.stage ((actions.flatMap (Action.told w'.scene)).filter p)
  /-- Either an operation is carried out on the sheet or the sheet has lost its last name. -/
  cause : c.offer.last = false ∨ w'.scene.isOpen r = false
  closing : w'.scene.isOpen r = false → (w'.sheet r).layers = []

/-- No sheet takes a step. -/
structure Rests (w w' : World) (c : Command) : Prop where
  sheets : ∀ r, (w.sheet r).Alike (w'.sheet r)
  layers : ∀ i, w'.layer i = (w.layer i).suffer i c
  adds : ∀ p, w'.scene.Ignores p → Stage.Adds p w.stage w'.stage []
  held : ∀ r, w.actor c = some r → w'.scene.isOpen r = true

theorem layers_drop {s : Sheet} (h : s.Sound) : s.drop.sheet.layers = [] := by
  rw [Sheet.drop]
  split
  · rename_i vacant
    rcases Bool.or_eq_true_iff.mp vacant with ended | empty
    · exact (h.ended ended).1
    · exact List.isEmpty_iff.mp empty
  · rfl

variable {w w' w₁ : World} {c : Command} {r : SheetRef}

theorem suffer_of_actor (h : w.actor c = some r) (i : Nat) (l : Layer) : l.suffer i c = l := by
  cases c with
  | layer object c => exact absurd h (Option.some_ne_none r).symm
  | _ => rfl

theorem isOpen_of_actor (h : w.actor c = some r) : w.scene.isOpen r = true := by
  cases c with
  | create name title crs reprojector => exact isOpen_of_sheetNamed? w h
  | share name another => exact isOpen_of_sheetNamed? w h
  | release name => exact isOpen_of_sheetNamed? w h
  | sheet name c => exact isOpen_of_sheetNamed? w h
  | _ => exact absurd h (Option.some_ne_none r).symm

/-- A performance, where names may have changed before it. -/
theorem acts_perform {ρ : Type} {op : Sheet → Step ρ} (actor : w.actor c = some r)
    (own : w₁.sheet r = w.sheet r) (sheets : ∀ r', (w.sheet r').Alike (w₁.sheet r'))
    (layers : w₁.scene.layers = w.scene.layers) (stage : w₁.stage = w.stage)
    (step : Sheet.Transition c.offer (w.sheet r) (op (w.sheet r)).sheet (op (w.sheet r)).actions)
    (cause : c.offer.last = false ∨ w₁.scene.isOpen r = false)
    (closing : w₁.scene.isOpen r = false → (op (w.sheet r)).sheet.layers = []) :
    Acts w (w₁.perform r op).1 c r (op (w.sheet r)).actions := by
  have mine : (w₁.perform r op).1.sheet r = (op (w.sheet r)).sheet := by
    rw [sheet_perform, if_pos rfl, own]
  have open_alike : (w₁.perform r op).1.scene.isOpen r = w₁.scene.isOpen r := by
    rw [Scene.isOpen, handles_perform]
    rfl
  refine ⟨actor, ?_, ?_, ?_, ?_, ?_, ?_⟩
  · rw [mine]
    exact step
  · intro r' other
    rw [sheet_perform, if_neg other]
    exact sheets r'
  · intro i
    rw [layer_perform, own, layer, layers]
    rfl
  · intro p hp
    rw [← own, ← stage]
    exact perform_adds w₁ r op hp
  · rw [open_alike]
    exact cause
  · rw [open_alike, mine]
    exact closing

theorem rests_of_open (actor : ∀ r', w.actor c = some r' → w₁.scene.isOpen r' = true)
    (idle : ∀ i l, Layer.suffer i l c = l) (sheets : ∀ r', (w.sheet r').Alike (w₁.sheet r'))
    (layers : w₁.scene.layers = w.scene.layers) (stage : w₁.stage = w.stage) : Rests w w₁ c := by
  refine ⟨sheets, ?_, ?_, actor⟩
  · intro i
    rw [idle, layer, layers]
    rfl
  · intro p _
    rw [stage]
    exact .refl p w.stage

theorem rests_self (idle : ∀ i l, Layer.suffer i l c = l) : Rests w w c :=
  rests_of_open (fun _ => isOpen_of_actor) idle (fun r => .refl (w.sheet r)) rfl rfl

/-- Names have changed, and the sheet that may have lost its last one is settled. -/
theorem settle_course (sound : (w.sheet r).Sound) (last : c.offer.last = true)
    (actor : w.actor c = some r)
    (own : w₁.sheet r = w.sheet r) (sheets : ∀ r', (w.sheet r').Alike (w₁.sheet r'))
    (layers : w₁.scene.layers = w.scene.layers) (stage : w₁.stage = w.stage) :
    (∃ actions, Acts w (w₁.settle r) c r actions) ∨ Rests w (w₁.settle r) c := by
  rw [settle]
  by_cases held : w₁.scene.isOpen r = true
  · rw [if_pos held]
    refine Or.inr (rests_of_open ?_ (suffer_of_actor actor) sheets layers stage)
    intro r' hr'
    rw [Option.some.inj (hr'.symm.trans actor)]
    exact held
  · rw [if_neg held]
    exact Or.inl ⟨_, acts_perform actor own sheets layers stage
      (Sheet.transition_drop (w.sheet r) last) (Or.inr (Bool.eq_false_iff.mpr held))
      fun _ => layers_drop sound⟩

theorem bind_course (sound : w.Sound) {name : String} {target : SheetRef}
    (last : c.offer.last = true)
    (actor : w.actor c = w.scene.sheetNamed? name) (idle : ∀ i l, Layer.suffer i l c = l)
    (named : w₁.scene.sheetNamed? name = w.scene.sheetNamed? name)
    (own : ∀ r', w.scene.sheetNamed? name = some r' → w₁.sheet r' = w.sheet r')
    (sheets : ∀ r', (w.sheet r').Alike (w₁.sheet r')) (layers : w₁.scene.layers = w.scene.layers)
    (stage : w₁.stage = w.stage) :
    (∃ r actions, Acts w (w₁.bind name target) c r actions) ∨
      Rests w (w₁.bind name target) c := by
  rw [bind, named]
  cases bound : w.scene.sheetNamed? name with
  | none =>
    refine Or.inr (rests_of_open ?_ idle sheets layers stage)
    intro r' hr'
    rw [actor, bound] at hr'
    exact absurd hr' (Option.some_ne_none r').symm
  | some old =>
    let handles := (name, target) :: w₁.scene.handles.filter (·.1 ≠ name)
    let renamed : World := { w₁ with scene := { w₁.scene with handles } }
    have settled : (∃ actions, Acts w (renamed.settle old) c old actions) ∨
        Rests w (renamed.settle old) c :=
      settle_course (sound.sheets old) last (actor.trans bound) (own old bound) sheets layers stage
    exact settled.imp (fun acts => ⟨old, acts⟩) id

theorem scene_notes (w : World) (ns : List Notice) : (ns.foldl note w).scene = w.scene := by
  induction ns generalizing w with
  | nil => rfl
  | cons n ns ih => exact ih (w.note n)

theorem notes_adds (p : Delivery → Bool) (w : World) (ns : List Notice) :
    Stage.Adds p w.stage (ns.foldl note w).stage [] := by
  induction ns generalizing w with
  | nil => exact .refl p w.stage
  | cons n ns ih => exact (Stage.adds_note p w.stage n).trans (ih (w.note n))

theorem rests_notes (actor : w.actor c = none) (idle : ∀ i l, Layer.suffer i l c = l)
    (ns : List Notice) : Rests w (ns.foldl note w) c := by
  have same : (ns.foldl note w).scene = w.scene := scene_notes w ns
  refine ⟨?_, ?_, fun p _ => notes_adds p w ns, ?_⟩
  · intro r
    show (w.sheet r).Alike ((ns.foldl note w).scene.sheets r)
    rw [same]
    exact .refl (w.sheet r)
  · intro i
    rw [idle, layer, same]
    rfl
  · intro r hr
    rw [actor] at hr
    exact absurd hr (Option.some_ne_none r).symm

theorem course_create (sound : w.Sound) (name : String) (title : Option String) (crs : Option Crs)
    (reprojector : Reprojector Float) (hc : c = .create name title crs reprojector) :
    (∃ r actions, Acts w (w.execute c).1 c r actions) ∨ Rests w (w.execute c).1 c := by
  subst hc
  rw [execute, create]
  refine bind_course sound rfl rfl (fun _ _ => rfl) rfl ?_ ?_ rfl rfl
  · intro r bound
    have born := sound.bound _ (mem_of_sheetNamed? w bound)
    exact put_of_ne _ _ fun same => by simp [same] at born
  · intro r
    show (w.sheet r).Alike (put w.scene.sheets ⟨w.sheetsMade⟩ (.ofSettings title crs) r)
    by_cases new : r = ⟨w.sheetsMade⟩
    · rw [new, put_self]
      have blank := sound.unborn ⟨w.sheetsMade⟩ (Nat.le_refl _)
      exact blank.symm.trans ⟨rfl, rfl, rfl, rfl, rfl⟩
    · rw [put_of_ne _ _ new]
      exact .refl (w.sheet r)

theorem course_layer (w : World) (object : Nat) (c : LayerCommand) :
    Rests w (w.execute (.layer object c)).1 (.layer object c) := by
  obtain ⟨stage, eq, adds⟩ := executeLayer_eq w object c
  rw [execute, eq]
  refine ⟨fun r => .refl (w.sheet r), ?_, ?_, ?_⟩
  · intro i
    show (w.setLayer object ((w.layer object).obey c)).layer i = _
    rw [layer_setLayer, Layer.suffer]
    by_cases same : i = object
    · rw [if_pos same, if_pos same, same]
    · rw [if_neg same, if_neg same]
  · intro p hp
    exact adds p ((Scene.ignores_withLayers _).mp hp)
  · intro r hr
    exact absurd hr (Option.some_ne_none r).symm

/-- What a command can come to. -/
theorem execute_course (sound : w.Sound) (c : Command) :
    (∃ r actions, Acts w (w.execute c).1 c r actions) ∨ Rests w (w.execute c).1 c := by
  cases c with
  | create name title crs reprojector => exact course_create sound name title crs reprojector rfl
  | share name another =>
    rw [execute, withSheet]
    cases w.scene.sheetNamed? name with
    | none => exact Or.inr (rests_self fun _ _ => rfl)
    | some target =>
      exact bind_course sound rfl rfl (fun _ _ => rfl) rfl (fun _ _ => rfl)
        (fun r => .refl (w.sheet r)) rfl rfl
  | release name =>
    rw [execute, unbind]
    cases bound : w.scene.sheetNamed? name with
    | none => exact Or.inr (rests_self fun _ _ => rfl)
    | some r =>
      let handles := w.scene.handles.filter (·.1 ≠ name)
      let renamed : World := { w with scene := { w.scene with handles } }
      have settled : (∃ actions, Acts w (renamed.settle r) (.release name) r actions) ∨
          Rests w (renamed.settle r) (.release name) :=
        settle_course (sound.sheets r) rfl bound rfl (fun r' => .refl (w.sheet r')) rfl rfl
      exact settled.imp (fun acts => ⟨r, acts⟩) id
  | sheet name c =>
    rw [execute, withSheet]
    cases bound : w.scene.sheetNamed? name with
    | none => exact Or.inr (rests_self fun _ _ => rfl)
    | some r =>
      have held := isOpen_of_sheetNamed? w bound
      refine Or.inl ⟨r, _, acts_perform bound rfl (fun r' => .refl (w.sheet r')) rfl rfl
        (Sheet.transition_step (sound.sheets r) c) (Or.inl (last_offer c)) fun closed => ?_⟩
      rw [held] at closed
      exact absurd closed.symm Bool.false_ne_true
  | maxBounds name =>
    rw [execute, withSheet]
    cases w.scene.sheetNamed? name with
    | none => exact Or.inr (rests_notes rfl (fun _ _ => rfl) [])
    | some r => exact Or.inr (rests_notes rfl (fun _ _ => rfl) _)
  | maxBoundsIn name preferred =>
    rw [execute, withSheet]
    cases w.scene.sheetNamed? name with
    | none => exact Or.inr (rests_notes rfl (fun _ _ => rfl) [])
    | some r => exact Or.inr (rests_notes rfl (fun _ _ => rfl) _)
  | layer object c => exact Or.inr (course_layer w object c)

end World
end LayeredMap
