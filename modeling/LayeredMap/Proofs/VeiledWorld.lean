import LayeredMap.Proofs.VeiledScene

/-!
# Worlds behind a veil

Two worlds match if their scenes and their stages do. A command by which a
hidden listener comes or goes leaves a world that matches the one before. Every
other command, carried out in two worlds that match, leads to worlds that match
and gets the same reply, provided that layers ring alike in the worlds it leads
to.
-/

namespace LayeredMap

variable {hidden : ListenerRef → Bool}

/-! ## Layers -/

namespace Layer

variable {l l' l'' : Layer} {r : SheetRef} {i : Nat}

theorem Alike.refl (l : Layer) : l.Alike l := ⟨rfl, rfl, rfl⟩

theorem Alike.symm (h : l.Alike l') : l'.Alike l := ⟨h.id.symm, h.body.symm, h.disposals.symm⟩

theorem Alike.trans (h : l.Alike l') (h' : l'.Alike l'') : l.Alike l'' :=
  ⟨h'.id.trans h.id, h'.body.trans h.body, h'.disposals.trans h.disposals⟩

theorem alike_subscribe (l : Layer) (s : Subscriber) : l.Alike (l.subscribe s) := by
  rw [subscribe]
  split <;> exact ⟨rfl, rfl, rfl⟩

theorem alike_unsubscribe (l : Layer) (s : Subscriber) : l.Alike (l.unsubscribe s) := by
  rw [unsubscribe]
  split <;> exact ⟨rfl, rfl, rfl⟩

theorem Alike.dispose (h : l.Alike l') : l.dispose.1.Alike l'.dispose.1 := by
  have counted : l'.disposals + 1 = l.disposals + 1 := congrArg (· + 1) h.disposals
  rw [Layer.dispose, Layer.dispose]
  simp only [h.body]
  split
  · exact ⟨h.id, rfl, counted⟩
  · split
    · exact ⟨h.id, rfl, counted⟩
    · exact ⟨h.id, rfl, counted⟩

theorem Alike.modifyFixed (h : l.Alike l') (f : FixedBody → FixedBody) :
    (l.modifyFixed f).Alike (l'.modifyFixed f) := by
  rw [Layer.modifyFixed, Layer.modifyFixed, h.body]
  split
  · exact ⟨h.id, rfl, h.disposals⟩
  · exact h

theorem Alike.obey (h : l.Alike l') (c : LayerCommand) : (l.obey c).Alike (l'.obey c) := by
  cases c with
  | setVisible on | setSelected on | fire e => exact h
  | setBounds bounds | setTitle title | setUnavailable reason => exact h.modifyFixed _
  | subscribe x => exact ((l.alike_subscribe _).symm.trans h).trans (l'.alike_subscribe _)
  | unsubscribe x => exact ((l.alike_unsubscribe _).symm.trans h).trans (l'.alike_unsubscribe _)
  | dispose => exact h.dispose

theorem Alike.survey (h : l.Alike l') : l'.survey = l.survey := by
  rw [Layer.survey, Layer.survey, report, report, h.id, h.body]

/-- What a layer has of what shows of an action. -/
def undergo (i : Nat) (l : Layer) : LayerHandle ⊕ List ListenerRef × Event → Layer
  | .inl h => if h.object = i then l.dispose.1 else l
  | .inr _ => l

theorem Alike.undergo (h : l.Alike l') (g : LayerHandle ⊕ List ListenerRef × Event) :
    (l.undergo i g).Alike (l'.undergo i g) := by
  cases g with
  | inl m =>
    rw [Layer.undergo, Layer.undergo]
    split
    · exact h.dispose
    · exact h
  | inr heard => exact h

theorem Alike.foldl_undergo (h : l.Alike l')
    (gs : List (LayerHandle ⊕ List ListenerRef × Event)) :
    (gs.foldl (Layer.undergo i) l).Alike (gs.foldl (Layer.undergo i) l') := by
  induction gs generalizing l l' with
  | nil => exact h
  | cons g gs ih => exact ih (h.undergo g)

theorem alike_foldl_receive (actions : List Action) (l : Layer) :
    ((gists hidden actions).foldl (undergo i) l).Alike (actions.foldl (receive r i) l) := by
  induction actions generalizing l with
  | nil => exact .refl l
  | cons a rest ih =>
    have unseen {l' : Layer} (h : l.Alike l') (veiled : a.gist hidden = none)
        (received : l.receive r i a = l') :
        ((gists hidden (a :: rest)).foldl (undergo i) l).Alike ((a :: rest).foldl (receive r i) l) := by
      rw [gists, List.filterMap_cons_none veiled, List.foldl_cons, received]
      exact (h.foldl_undergo _).trans (ih l')
    cases a with
    | subscribe m n =>
      refine unseen ?_ rfl rfl
      rw [receive]
      split
      · exact l.alike_subscribe _
      · exact .refl l
    | unsubscribe m n =>
      refine unseen ?_ rfl rfl
      rw [receive]
      split
      · exact l.alike_unsubscribe _
      · exact .refl l
    | note n => exact unseen (.refl l) rfl rfl
    | dispose m => exact ih _
    | publish roster e => exact ih _

end Layer

/-! ## What shows is told -/

theorem map_publications (actions : List Action) :
    (publications actions).map (fun x => (x.1.shown hidden, x.2)) =
      (gists hidden actions).filterMap Sum.getRight? := by
  induction actions with
  | nil => rfl
  | cons a rest ih =>
    cases a with
    | publish roster e => exact congrArg ((roster.shown hidden, e) :: ·) ih
    | _ => exact ih

theorem publications_of_gists {actions : List Action} (unseen : gists hidden actions = []) :
    publications actions = [] := by
  have none_told : (publications actions).map (fun x => (x.1.shown hidden, x.2)) = [] := by
    rw [map_publications, unseen]
    rfl
  exact List.map_eq_nil_iff.mp none_told

namespace Scene.Matches

variable {sc sc' sc'' : Scene} (h : sc.Matches hidden sc')
include h

theorem symm : sc'.Matches hidden sc where
  sheets r := (h.sheets r).symm
  reprojectors := h.reprojectors.symm
  handles := h.handles.symm
  layers i := (h.layers i).symm
  observes l := (h.observes l).symm
  pokes l := (h.pokes l).symm
  idle l hides := (h.pokes l).trans (h.idle l hides)

theorem trans (h' : sc'.Matches hidden sc'') : sc.Matches hidden sc'' where
  sheets r := (h.sheets r).trans (h'.sheets r)
  reprojectors := h'.reprojectors.trans h.reprojectors
  handles := h'.handles.trans h.handles
  layers i := (h.layers i).trans (h'.layers i)
  observes l := (h'.observes l).trans (h.observes l)
  pokes l := (h'.pokes l).trans (h.pokes l)
  idle := h.idle

theorem withHandles (handles : List (String × SheetRef)) :
    Scene.Matches hidden { sc with handles } { sc' with handles } :=
  ⟨h.sheets, h.reprojectors, rfl, h.layers, h.observes, h.pokes, h.idle⟩

theorem withReprojectors (reprojectors : SheetRef → Reprojector Float) :
    Scene.Matches hidden { sc with reprojectors } { sc' with reprojectors } :=
  ⟨h.sheets, rfl, h.handles, h.layers, h.observes, h.pokes, h.idle⟩

theorem putSheet (r : SheetRef) {s s' : Sheet} (same : s.Matches hidden s') :
    Scene.Matches hidden { sc with sheets := put sc.sheets r s }
      { sc' with sheets := put sc'.sheets r s' } := by
  refine ⟨?_, h.reprojectors, h.handles, h.layers, h.observes, h.pokes, h.idle⟩
  intro r'
  by_cases here : r' = r
  · rw [here]
    simpa using same
  · simpa [here] using h.sheets r'

theorem withLayers {layers layers' : Nat → Layer} (alike : ∀ i, (layers i).Alike (layers' i)) :
    (sc.withLayers layers).Matches hidden (sc'.withLayers layers') :=
  ⟨h.sheets, h.reprojectors, h.handles, alike, h.observes, h.pokes, h.idle⟩

theorem sheetNamed? (name : String) : sc'.sheetNamed? name = sc.sheetNamed? name := by
  rw [Scene.sheetNamed?, Scene.sheetNamed?, h.handles]

end Scene.Matches

/-! ## Worlds -/

/-- A hidden listener comes or goes. -/
def Command.isVeiled (hidden : ListenerRef → Bool) : Command → Bool
  | .sheet _ c => c.isVeiled hidden
  | _ => false

namespace World

structure Matches (hidden : ListenerRef → Bool) (w w' : World) : Prop where
  scene : w.scene.Matches hidden w'.scene
  stage : w.stage.Matches hidden w'.stage
  sheetsMade : w'.sheetsMade = w.sheetsMade

variable {w w' w'' : World} {ρ : Type} {r : SheetRef} {op op' : Sheet → Step ρ}

theorem Matches.symm (h : w.Matches hidden w') : w'.Matches hidden w :=
  ⟨h.scene.symm, h.stage.symm, h.sheetsMade.symm⟩

theorem Matches.trans (h : w.Matches hidden w') (h' : w'.Matches hidden w'') :
    w.Matches hidden w'' :=
  ⟨h.scene.trans h'.scene, h.stage.trans h'.stage, h'.sheetsMade.trans h.sheetsMade⟩

/-! ### Scenes -/

/-- A relation of scenes that commands keep up: the same names are bound in both, and they stay
related whatever is bound, made, performed or done to a layer. -/
structure Congruence (ok : SheetCommand → Prop) (R : Scene → Scene → Prop) : Prop where
  handles : ∀ {sc sc'}, R sc sc' → sc'.handles = sc.handles
  rename : ∀ {sc sc'} handles, R sc sc' → R { sc with handles } { sc' with handles }
  make : ∀ {sc sc'} r s (reprojector : Reprojector Float), R sc sc' →
    R { sc with sheets := put sc.sheets r s, reprojectors := put sc.reprojectors r reprojector }
      { sc' with sheets := put sc'.sheets r s, reprojectors := put sc'.reprojectors r reprojector }
  drop : ∀ {w w' : World} r, R w.scene w'.scene →
    R (w.perform r Sheet.drop).1.scene (w'.perform r Sheet.drop).1.scene
  step : ∀ {w w' : World} {c : SheetCommand} r, ok c → R w.scene w'.scene →
    R (w.perform r fun s => c.step s).1.scene (w'.perform r fun s => c.step s).1.scene
  obey : ∀ {sc sc'} i c, R sc sc' →
    R (sc.withLayers (put sc.layers i ((sc.layers i).obey c)))
      (sc'.withLayers (put sc'.layers i ((sc'.layers i).obey c)))

namespace Congruence

variable {ok : SheetCommand → Prop} {R : Scene → Scene → Prop} (congruence : Congruence ok R)
include congruence

theorem sheetNamed? (h : R w.scene w'.scene) (name : String) :
    w'.scene.sheetNamed? name = w.scene.sheetNamed? name := by
  rw [Scene.sheetNamed?, Scene.sheetNamed?, congruence.handles h]

theorem settle (h : R w.scene w'.scene) (r : SheetRef) :
    R (w.settle r).scene (w'.settle r).scene := by
  have same : w'.scene.isOpen r = w.scene.isOpen r := by
    rw [Scene.isOpen, Scene.isOpen, congruence.handles h]
  rw [World.settle, World.settle, same]
  split
  · exact h
  · exact congruence.drop r h

theorem bind (h : R w.scene w'.scene) (name : String) (r : SheetRef) :
    R (w.bind name r).scene (w'.bind name r).scene := by
  have renamed := congruence.rename ((name, r) :: w.scene.handles.filter (·.1 ≠ name)) h
  rw [World.bind, World.bind, congruence.sheetNamed? h, congruence.handles h]
  cases w.scene.sheetNamed? name with
  | none => exact renamed
  | some old => exact congruence.settle renamed old

theorem unbind (h : R w.scene w'.scene) (name : String) :
    R (w.unbind name).1.scene (w'.unbind name).1.scene := by
  have renamed := congruence.rename (w.scene.handles.filter (·.1 ≠ name)) h
  rw [World.unbind, World.unbind, congruence.sheetNamed? h, congruence.handles h]
  cases w.scene.sheetNamed? name with
  | none => exact h
  | some r => exact congruence.settle renamed r

theorem create (h : R w.scene w'.scene) (made : w'.sheetsMade = w.sheetsMade) (name : String)
    (s : Sheet) (reprojector : Reprojector Float) :
    R (w.create name s reprojector).1.scene (w'.create name s reprojector).1.scene := by
  have new := congruence.make ⟨w.sheetsMade⟩ s reprojector h
  rw [World.create, World.create, made]
  exact congruence.bind new name ⟨w.sheetsMade⟩

theorem executeLayer (h : R w.scene w'.scene) (i : Nat) (c : LayerCommand) :
    R (w.executeLayer i c).1.scene (w'.executeLayer i c).1.scene := by
  obtain ⟨stage, eq, -⟩ := executeLayer_eq w i c
  obtain ⟨stage', eq', -⟩ := executeLayer_eq w' i c
  rw [eq, eq']
  exact congruence.obey i c h

theorem execute (h : R w.scene w'.scene) (made : w'.sheetsMade = w.sheetsMade) {c : Command}
    (fine : ∀ name op, c = .sheet name op → ok op) :
    R (w.execute c).1.scene (w'.execute c).1.scene := by
  have named (name : String) := congruence.sheetNamed? h name
  cases c with
  | create name title crs reprojector => exact congruence.create h made name _ reprojector
  | share name another =>
    rw [World.execute, World.execute, withSheet, withSheet, named]
    cases w.scene.sheetNamed? name with
    | none => exact h
    | some r => exact congruence.bind h another r
  | release name => exact congruence.unbind h name
  | sheet name op =>
    rw [World.execute, World.execute, withSheet, withSheet, named]
    cases w.scene.sheetNamed? name with
    | none => exact h
    | some r => exact congruence.step r (fine name op rfl) h
  | maxBounds name | maxBoundsIn name preferred =>
    rw [World.execute, World.execute, withSheet, withSheet, named]
    cases w.scene.sheetNamed? name with
    | none => exact h
    | some r =>
      show R (List.foldl note w _).scene (List.foldl note w' _).scene
      rw [scene_notes, scene_notes]
      exact h
  | layer i c => exact congruence.executeLayer h i c

end Congruence

theorem scene_perform_matches (op op' : Sheet → Step ρ) (h : w.scene.Matches hidden w'.scene)
    (step : (op (w.sheet r)).Matches hidden (op' (w'.sheet r))) :
    (w.perform r op).1.scene.Matches hidden (w'.perform r op').1.scene := by
  have mine := scene_perform w r op
  have other := scene_perform w' r op'
  rw [mine, other]
  refine (h.putSheet r step.sheet).withLayers fun i => ?_
  have received : ((gists hidden (op (w.sheet r)).actions).foldl (Layer.undergo i) (w.layer i)).Alike
      ((w.perform r op).1.layer i) := by
    rw [layer_perform]
    exact Layer.alike_foldl_receive _ _
  have received' : ((gists hidden (op (w.sheet r)).actions).foldl (Layer.undergo i) (w'.layer i)).Alike
      ((w'.perform r op').1.layer i) := by
    rw [layer_perform, ← step.actions]
    exact Layer.alike_foldl_receive _ _
  exact (received.symm.trans (Layer.Alike.foldl_undergo (h.layers i) _)).trans received'

theorem congruence_matches :
    Congruence (fun c => c.isVeiled hidden = false) (Scene.Matches hidden) where
  handles h := h.handles
  rename handles h := h.withHandles handles
  make r s reprojector h := by
    rw [h.reprojectors]
    exact (h.putSheet r (.refl s)).withReprojectors _
  drop r h := scene_perform_matches _ _ h (h.sheets r).drop
  step r seen h := scene_perform_matches _ _ h ((h.sheets r).step seen)
  obey i c h := by
    refine h.withLayers fun j => ?_
    by_cases here : j = i
    · rw [here, put_self, put_self]
      exact (h.layers i).obey c
    · rw [put_of_ne _ _ here, put_of_ne _ _ here]
      exact h.layers j

theorem scene_execute_matches (h : w.Matches hidden w') {c : Command}
    (seen : c.isVeiled hidden = false) :
    (w.execute c).1.scene.Matches hidden (w'.execute c).1.scene :=
  congruence_matches.execute h.scene h.sheetsMade fun _ _ same => by rwa [same] at seen

/-! ### Stages and replies -/

theorem perform_matches (h : w.Matches hidden w')
    (step : (op (w.sheet r)).Matches hidden (op' (w'.sheet r)))
    (orderly : Orderly (op (w.sheet r)).actions) (orderly' : Orderly (op' (w'.sheet r)).actions)
    (chimes : Scene.Chimes hidden (w.perform r op).1.scene (w'.perform r op').1.scene) :
    (w.perform r op).1.stage.Matches hidden (w'.perform r op').1.stage := by
  have scenes := scene_perform_matches op op' h.scene step
  have heard : (publications (op' (w'.sheet r)).actions).map (fun x => (x.1.shown hidden, x.2)) =
      (publications (op (w.sheet r)).actions).map fun x => (x.1.shown hidden, x.2) := by
    rw [map_publications, map_publications, step.actions]
  exact scenes.speaks chimes heard h.stage (perform_speaks w r orderly) (perform_speaks w' r orderly')

theorem fires_of_alike {l l' : Layer} (h : l.Alike l') (f : Flags) (c : LayerCommand) :
    c.fires l' f = c.fires l f := by
  cases c <;> simp only [LayerCommand.fires, h.id]

theorem replied_of_calm {x : World × Option String} (calm : x.2 = none) : replied x = (x.1, .done) := by
  obtain ⟨w, error⟩ := x
  subst calm
  rfl

theorem change_matches (h : w.Matches hidden w') {i : Nat} {c : LayerCommand}
    (change : c.isChange = true)
    (chimes : Scene.Chimes hidden (w.execute (.layer i c)).1.scene (w'.execute (.layer i c)).1.scene) :
    (w.execute (.layer i c)).1.stage.Matches hidden (w'.execute (.layer i c)).1.stage ∧
      (w'.execute (.layer i c)).2 = (w.execute (.layer i c)).2 := by
  have scenes := scene_execute_matches h (c := .layer i c) rfl
  have moved : (w.changed i c).stage.Matches hidden (w'.changed i c).stage := by
    rw [changed, changed, h.stage.flags]
    exact h.stage.withFlags _
  have alike : (w.layer i).Alike (w'.layer i) := h.scene.layers i
  have same : c.fires (w'.layer i) (w'.stage.flags i) = c.fires (w.layer i) (w.stage.flags i) := by
    rw [h.stage.flags, fires_of_alike alike]
  cases fired : c.fires (w.layer i) (w.stage.flags i) with
  | none =>
    have mine : w.execute (.layer i c) = (w.changed i c, .done) := by
      rw [execute_change change, fired]
    have other : w'.execute (.layer i c) = (w'.changed i c, .done) := by
      rw [execute_change change, same, fired]
    rw [mine, other]
    exact ⟨moved, rfl⟩
  | some e =>
    have mine : w.execute (.layer i c) = replied ((w.changed i c).fire i e) := by
      rw [execute_change change, fired]
    have other : w'.execute (.layer i c) = replied ((w'.changed i c).fire i e) := by
      rw [execute_change change, same, fired]
    rw [mine, other, replied_fst, replied_fst] at scenes chimes
    obtain ⟨calm, calm', after⟩ :
        ((w.changed i c).fire i e).2 = none ∧ ((w'.changed i c).fire i e).2 = none ∧
          ((w.changed i c).fire i e).1.stage.Matches hidden ((w'.changed i c).fire i e).1.stage :=
      chimes _ _ (scenes.poke chimes) i e _ _ moved
    rw [mine, other, replied_of_calm calm, replied_of_calm calm']
    exact ⟨after, rfl⟩

theorem layer_matches (h : w.Matches hidden w') (i : Nat) (c : LayerCommand)
    (chimes : Scene.Chimes hidden (w.execute (.layer i c)).1.scene (w'.execute (.layer i c)).1.scene) :
    (w.execute (.layer i c)).1.stage.Matches hidden (w'.execute (.layer i c)).1.stage ∧
      (w'.execute (.layer i c)).2 = (w.execute (.layer i c)).2 := by
  cases c with
  | subscribe l | unsubscribe l => exact ⟨h.stage, rfl⟩
  | dispose =>
    have still (w : World) : w.stage.Still (w.disposeLayer i).stage := by
      rcases disposeLayer_eq w i with eq | ⟨n, eq⟩
      · rw [eq]
        exact .refl w.stage
      · rw [eq]
        exact Stage.still_note w.stage n
    exact ⟨h.stage.still (still w) (still w'), rfl⟩
  | _ => exact change_matches h rfl chimes

theorem maxBoundsIn_matches (h : w.scene.Matches hidden w'.scene) (r : SheetRef)
    (preferred : Option Crs) : (w'.maxBoundsIn r preferred).2 = (w.maxBoundsIn r preferred).2 := by
  have members : (w'.sheet r).layers = (w.sheet r).layers := (h.sheets r).layers
  have surveys : (w'.sheet r).layers.map (fun l => (w'.layer l.object).survey) =
      (w.sheet r).layers.map fun l => (w.layer l.object).survey := by
    rw [members]
    exact List.map_congr_left fun l _ => (h.layers l.object).survey
  show (maxBounds (w'.scene.reprojectors r) preferred _).1 =
    (maxBounds (w.scene.reprojectors r) preferred _).1
  rw [surveys, h.reprojectors]

/-- What is done in sight does the same to both worlds and gets the same reply. -/
theorem execute_matches (h : w.Matches hidden w') (sound : w.Sound) (sound' : w'.Sound) {c : Command}
    (seen : c.isVeiled hidden = false)
    (chimes : Scene.Chimes hidden (w.execute c).1.scene (w'.execute c).1.scene) :
    (w.execute c).1.Matches hidden (w'.execute c).1 ∧ (w'.execute c).2 = (w.execute c).2 := by
  have made : (w'.execute c).1.sheetsMade = (w.execute c).1.sheetsMade := by
    rw [(cast_execute w' c).sheetsMade, (cast_execute w c).sheetsMade, h.sheetsMade]
  have named (name : String) := h.scene.sheetNamed? name
  -- The scenes are known to match, so only stages and replies are left.
  suffices rest : (w.execute c).1.stage.Matches hidden (w'.execute c).1.stage ∧
      (w'.execute c).2 = (w.execute c).2 from
    ⟨⟨scene_execute_matches h seen, rest.1, made⟩, rest.2⟩
  cases c with
  | create name title crs reprojector =>
    exact ⟨h.stage.still (still_bind _ _ _ rfl) (still_bind _ _ _ rfl), rfl⟩
  | share name another =>
    rw [execute, execute, withSheet, withSheet, named]
    cases w.scene.sheetNamed? name with
    | none => exact ⟨h.stage, rfl⟩
    | some r => exact ⟨h.stage.still (still_bind _ _ _ rfl) (still_bind _ _ _ rfl), rfl⟩
  | release name =>
    rw [execute, execute, unbind, unbind, named]
    cases w.scene.sheetNamed? name with
    | none => exact ⟨h.stage, rfl⟩
    | some r => exact ⟨h.stage.still (still_settle _ r rfl) (still_settle _ r rfl), rfl⟩
  | sheet name op =>
    rw [execute, execute, withSheet, withSheet, named] at chimes ⊢
    cases bound : w.scene.sheetNamed? name with
    | none => exact ⟨h.stage, rfl⟩
    | some r =>
      rw [bound] at chimes
      have step := (h.scene.sheets r).step seen
      have orderly := (Sheet.transition_step (sound.sheets r) op).orderly
      have orderly' := (Sheet.transition_step (sound'.sheets r) op).orderly
      exact ⟨perform_matches h step orderly orderly' chimes, step.result⟩
  | maxBounds name =>
    rw [execute, execute, withSheet, withSheet, named]
    cases w.scene.sheetNamed? name with
    | none => exact ⟨h.stage, rfl⟩
    | some r =>
      have crs : (w'.sheet r).effectiveCrs = (w.sheet r).effectiveCrs :=
        congrArg (Option.bind · Viewport.effectiveCrs) (h.scene.sheets r).viewport
      have measured : (w'.maxBoundsOf r).2 = (w.maxBoundsOf r).2 := by
        rw [maxBoundsOf, maxBoundsOf, crs]
        exact maxBoundsIn_matches h.scene r _
      exact ⟨h.stage.still (still_notes w _) (still_notes w' _), congrArg Reply.bounds measured⟩
  | maxBoundsIn name preferred =>
    rw [execute, execute, withSheet, withSheet, named]
    cases w.scene.sheetNamed? name with
    | none => exact ⟨h.stage, rfl⟩
    | some r =>
      have measured := maxBoundsIn_matches h.scene r preferred
      exact ⟨h.stage.still (still_notes w _) (still_notes w' _), congrArg Reply.bounds measured⟩
  | layer i c => exact layer_matches h i c chimes

theorem perform_still (w : World) (r : SheetRef) (result : ρ) :
    (w.perform r (.still · result)).1 = w := by
  have same : put w.scene.sheets r (w.sheet r) = w.scene.sheets := put_eq_self _ r
  show w.setSheet r (w.sheet r) = w
  rw [setSheet, same]

/-- What is done behind the veil leaves a world that matches. -/
theorem execute_matches_of_veiled (idle : ∀ l, hidden l = true → (w.scene.conducts l).pokes = [])
    {c : Command} (veiled : c.isVeiled hidden = true) : w.Matches hidden (w.execute c).1 := by
  have here : w.scene.Matches hidden w.scene := .refl idle
  cases c with
  | sheet name op =>
    rw [execute, withSheet]
    cases w.scene.sheetNamed? name with
    | none => exact ⟨here, .refl w.stage, rfl⟩
    | some r =>
      obtain ⟨same, unseen⟩ := (w.sheet r).matches_step_of_veiled veiled
      have step : (Step.still (w.sheet r) (op.step (w.sheet r)).result).Matches hidden
          (op.step (w.sheet r)) := ⟨rfl, same, unseen⟩
      have scenes := scene_perform_matches (.still · _) (fun s => op.step s) here step
      rw [perform_still] at scenes
      have still : w.stage.Still (w.perform r fun s => op.step s).1.stage :=
        still_perform w r (publications_of_gists unseen)
      exact ⟨scenes, still.matched, sheetsMade_perform w r _⟩
  | _ => exact absurd veiled Bool.false_ne_true

end World
end LayeredMap
