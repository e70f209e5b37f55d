import LayeredMap.Proofs.Custody
import LayeredMap.Proofs.Source

/-!
# What a layer that changes makes a sheet tell

A layer tells its subscribers of a change. Those that listen to it themselves
are told of the event of the layer; a relay looks the layer up and tells those
who listen to the stack of its sheet. A layer in custody has one relay among
its subscribers while it is a member and none while it is not, so its sheet
tells of each change once, with the index that the layer has then. Whatever
layers do, a sheet never names another layer than the one at that index.
-/

namespace LayeredMap

/-- No switch has moved, and these deliveries were put on record. -/
structure Stage.Gains (st : Stage) (added : List Delivery) (st' : Stage) : Prop where
  flags : st'.flags = st.flags
  deliveries : st'.deliveries = st.deliveries ++ added

theorem Stage.Still.gains {st st' : Stage} (still : st.Still st') : st.Gains [] st' :=
  ⟨still.flags, still.deliveries.trans (List.append_nil _).symm⟩

theorem Stage.Gains.trans {st st₁ st' : Stage} {added added' : List Delivery}
    (h : st.Gains added st₁) (h' : st₁.Gains added' st') : st.Gains (added ++ added') st' where
  flags := h'.flags.trans h.flags
  deliveries := by rw [h'.deliveries, h.deliveries, List.append_assoc]

theorem attemptAll_of_calm {α : Type} {attempt : α → Attempt} {a : α} {st : Stage}
    (calm : (attempt a st).2 = none) (as : List α) :
    attemptAll attempt (a :: as) st = attemptAll attempt as (attempt a st).1 := by
  rw [attemptAll]
  cases called : attempt a st with
  | mk st₁ error =>
    rw [called] at calm
    subst calm
    rfl

namespace Scene

variable {sc : Scene} {e : LayerEvent} {st st₁ st' : Stage}

theorem Speaks.append {told told' : List (Roster ListenerRef × Event)} (h : sc.Speaks told st st₁)
    (h' : sc.Speaks told' st₁ st') : sc.Speaks (told ++ told') st st' := by
  induction h with
  | done still => exact h'.of_still still
  | tell still _ ih => exact .tell still (ih h')

theorem speaks_one (roster : Roster ListenerRef) (e : Event) (st : Stage) :
    sc.Speaks [(roster, e)] st (sc.notify sc.poke roster e st) :=
  .tell (.refl st) (.done (.refl _))

/-! ## A round of a layer -/

/-- A listener that is told by the layer itself. -/
def direct (e : LayerEvent) (l : ListenerRef) : Roster ListenerRef × Event :=
  ({ slots := some [l] }, .layer e)

/-- What one subscriber makes be told. -/
def audience (sc : Scene) (e : LayerEvent) : Subscriber → List (Roster ListenerRef × Event)
  | .listener l => [direct e l]
  | .relay r _ =>
    if sc.isOpen r then
      match (sc.sheets r).stack.indexOf? e.layer with
      | none => []
      | some i =>
        match (sc.sheets r).stack.get? i with
        | none => []
        | some m => [((sc.sheets r).stackListeners, .stack (.changed m i e))]
    else []

/-- The listener never lets an event of a layer fail. -/
def Steady (sc : Scene) (e : LayerEvent) (l : ListenerRef) : Prop :=
  ∀ st, (sc.call sc.poke (.layer e) l st).2 = none

theorem steady_of_onlooker {l : ListenerRef} (pokes : (sc.conducts l).pokes = [])
    (fails : (sc.conducts l).fails = .never) (e : LayerEvent) : sc.Steady e l := by
  intro st
  rw [call, pokes, fails]
  rfl

theorem forward_speaks (r : SheetRef) (k : Nat) (e : LayerEvent) (st : Stage) :
    sc.Speaks (sc.audience e (.relay r k)) st (sc.forward sc.poke r e st) := by
  rw [audience, forward]
  by_cases held : sc.isOpen r = true
  · rw [if_pos held, if_pos held]
    cases hi : (sc.sheets r).stack.indexOf? e.layer with
    | none =>
      simp only [hi]
      exact .done (Stage.still_note st _)
    | some i =>
      cases hm : (sc.sheets r).stack.get? i with
      | none =>
        simp only [hi, hm]
        exact .done (.refl st)
      | some m =>
        simp only [hi, hm]
        exact speaks_one _ _ st
  · rw [if_neg held, if_neg held]
    exact .done (.refl st)

theorem call_speaks (e : LayerEvent) (l : ListenerRef) (st : Stage) :
    sc.Speaks [direct e l] st (sc.call sc.poke (.layer e) l st).1 := by
  obtain ⟨st₁, still, rest⟩ := sc.deliverAll_cons sc.poke (.layer e) 0 l [] st
  have told : sc.notify sc.poke { slots := some [l] } (.layer e) st = st₁ := rest
  refine .tell (.refl st) (.done ?_)
  rw [told]
  exact ⟨still.flags.symm, still.calls.symm, still.deliveries.symm⟩

/-- Whether or not the subscriber fails. -/
theorem tell_speaks (e : LayerEvent) (s : Subscriber) (st : Stage) :
    sc.Speaks (sc.audience e s) st (sc.tell sc.poke e s st).1 := by
  cases s with
  | relay r k => exact forward_speaks r k e st
  | listener l => exact call_speaks e l st

theorem attemptAll_speaks (subs : List Subscriber)
    (steady : ∀ l, .listener l ∈ subs → sc.Steady e l) (st : Stage) :
    sc.Speaks (subs.flatMap (sc.audience e)) st (attemptAll (sc.tell sc.poke e) subs st).1 := by
  induction subs generalizing st with
  | nil => exact .done (.refl st)
  | cons s subs ih =>
    have later := ih fun l hl => steady l (List.mem_cons_of_mem s hl)
    have calm : (sc.tell sc.poke e s st).2 = none := by
      cases s with
      | relay r k => rfl
      | listener l => exact steady l List.mem_cons_self st
    rw [attemptAll_of_calm calm, List.flatMap_cons]
    exact (tell_speaks e s st).append (later _)

theorem flatMap_audience_listener (ls : List ListenerRef) :
    (ls.map Subscriber.listener).flatMap (sc.audience e) = ls.map (direct e) := by
  rw [List.flatMap_map, List.map_eq_flatMap]
  rfl

/-- A round that no sheet hears of. -/
theorem fire_speaks_of_no_relay {i : Nat} (unbound : ∀ r, (sc.layers i).relaysOf r = [])
    (steady : ∀ l ∈ (sc.layers i).directs, sc.Steady e l) (st : Stage) :
    sc.Speaks ((sc.layers i).directs.map (direct e)) st (sc.fire sc.poke i e st).1 := by
  have subscribers := Layer.subscribers_of_no_relay unbound
  rw [fire, subscribers, ← flatMap_audience_listener]
  refine attemptAll_speaks _ (fun l hl => ?_) st
  obtain ⟨m, hm, same⟩ := List.mem_map.mp hl
  exact Subscriber.listener.inj same ▸ steady m hm

/-- A round that one sheet hears of. -/
theorem fire_speaks_of_one_relay {i : Nat} {r : SheetRef} {k : Nat}
    (own : (sc.layers i).relaysOf r = [k])
    (others : ∀ r', r' ≠ r → (sc.layers i).relaysOf r' = [])
    (steady : ∀ l ∈ (sc.layers i).directs, sc.Steady e l) (st : Stage) :
    ∃ before after, before ++ after = (sc.layers i).directs ∧
      sc.Speaks (before.map (direct e) ++ sc.audience e (.relay r k) ++ after.map (direct e)) st
        (sc.fire sc.poke i e st).1 := by
  obtain ⟨before, after, split, rest⟩ := Layer.subscribers_of_one_relay own others
  have calm : ∀ l, .listener l ∈ (sc.layers i).subscribers → sc.Steady e l := fun l hl =>
    steady l (List.mem_filterMap.mpr ⟨_, hl, rfl⟩)
  have speaks := attemptAll_speaks (sc.layers i).subscribers calm st
  refine ⟨before, after, rest, ?_⟩
  rw [← flatMap_audience_listener, ← flatMap_audience_listener, List.append_assoc,
    ← List.flatMap_cons, ← List.flatMap_append, ← split]
  exact speaks

theorem speaks_of_deserted {roster : Roster ListenerRef} (deserted : roster.toList = []) (e : Event)
    (st : Stage) : sc.Speaks [(roster, e)] st st := by
  have silent : sc.notify sc.poke roster e st = st := by
    rw [notify, Roster.notify, deserted]
    rfl
  have told : sc.Speaks [(roster, e)] st (sc.notify sc.poke roster e st) := speaks_one roster e st
  rwa [silent] at told

/-- Nobody who is told shows, hides or selects a layer in turn. -/
def Quiet (sc : Scene) (told : List (Roster ListenerRef × Event)) : Prop :=
  ∀ x ∈ told, ∀ l ∈ x.1.toList, (sc.conducts l).pokes = []

theorem gains_call {e : Event} {l : ListenerRef} (quiet : (sc.conducts l).pokes = []) (st : Stage) :
    st.Gains [sc.told e l] (sc.call sc.poke e l st).1 := by
  rw [call, quiet]
  exact ⟨rfl, Stage.deliveries_record _ _⟩

theorem gains_deliverAll {e : Event} (position : Nat) (ls : List ListenerRef)
    (quiet : ∀ l ∈ ls, (sc.conducts l).pokes = []) (st : Stage) :
    st.Gains (ls.map (sc.told e)) (Roster.deliverAll (sc.call sc.poke e)
      (fun i error st => st.note (.listenerFailed e.label i error)) position ls st).1 := by
  induction ls generalizing position st with
  | nil => exact (Stage.Still.refl st).gains
  | cons l ls ih =>
    have first := gains_call (e := e) (quiet l List.mem_cons_self) st
    obtain ⟨st₁, still, rest⟩ := sc.deliverAll_cons sc.poke e position l ls st
    rw [rest]
    have later := ih (position + 1) (fun m hm => quiet m (List.mem_cons_of_mem l hm)) st₁
    exact first.trans (still.gains.trans later)

/-- Then nothing but what is told is on record, and no switch has moved. -/
theorem Speaks.gains {told : List (Roster ListenerRef × Event)} (quiet : sc.Quiet told)
    (h : sc.Speaks told st st') :
    st.Gains (told.flatMap fun x => x.1.toList.map (sc.told x.2)) st' := by
  induction h with
  | done still => exact still.gains
  | @tell st st₁ st' roster e rest still _ ih =>
    have now : st₁.Gains (roster.toList.map (sc.told e)) (sc.notify sc.poke roster e st₁) :=
      gains_deliverAll 0 roster.toList (quiet _ List.mem_cons_self) st₁
    have later := ih fun x hx => quiet x (List.mem_cons_of_mem _ hx)
    rw [List.flatMap_cons]
    exact still.gains.trans (now.trans later)

/-- Its own listeners are told of an event of a layer, and somewhere in between others of what is
passed on; and if none of them changes a layer in turn, that is all that is on record. -/
def Round (sc : Scene) (e : LayerEvent) (directs : List ListenerRef)
    (passed : List (Roster ListenerRef × Event)) (st st' : Stage) : Prop :=
  ∃ before after, before ++ after = directs ∧
    let told := before.map (direct e) ++ passed ++ after.map (direct e)
    sc.Speaks told st st' ∧ (sc.Quiet told →
      st'.deliveries = st.deliveries ++ told.flatMap fun x => x.1.toList.map (sc.told x.2))

theorem Speaks.round {directs before after : List ListenerRef}
    {passed : List (Roster ListenerRef × Event)} (rest : before ++ after = directs)
    (h : sc.Speaks (before.map (direct e) ++ passed ++ after.map (direct e)) st st') :
    sc.Round e directs passed st st' :=
  ⟨before, after, rest, h, fun quiet => (h.gains quiet).deliveries⟩

end Scene

/-! ## Changes of a layer -/

/-- The command changes what a layer shows of itself. -/
def LayerCommand.isChange : LayerCommand → Bool
  | subscribe _ | unsubscribe _ | dispose => false
  | _ => true

/-- The event that the layer tells of, if there is one. -/
def LayerCommand.fires (l : Layer) (f : Flags) : LayerCommand → Option LayerEvent
  | setVisible on =>
    if f.visible = on then none else some { layer := l.id, change := if on then .shown else .hidden }
  | setSelected on =>
    if f.selected = on then none
    else some { layer := l.id, change := if on then .selected else .deselected }
  | setBounds _ => some { layer := l.id, change := .changed .bounds }
  | setTitle _ => some { layer := l.id, change := .changed .metadata }
  | fire e => some e
  | _ => none

def LayerCommand.switches (f : Flags) : LayerCommand → Flags
  | setVisible on => { f with visible := on }
  | setSelected on => { f with selected := on }
  | _ => f

namespace World

variable {w : World} {i : Nat} {c : LayerCommand}

/-- The layer has changed and nobody has been told yet. -/
def changed (w : World) (i : Nat) (c : LayerCommand) : World :=
  { w.setLayer i ((w.layer i).obey c) with
    stage := { w.stage with flags := put w.stage.flags i (c.switches (w.stage.flags i)) } }

theorem changed_of_idle (switches : c.switches (w.stage.flags i) = w.stage.flags i) :
    w.changed i c = w.setLayer i ((w.layer i).obey c) := by
  rw [changed, switches, put_eq_self]
  rfl

/-- Switches that move are told of. -/
theorem replied_switch {set : Flags → Flags × Option LayerChange} {change : Option LayerChange}
    (obeys : (w.layer i).obey c = w.layer i)
    (moves : set (w.stage.flags i) = (c.switches (w.stage.flags i), change))
    (fired : c.fires (w.layer i) (w.stage.flags i) =
      change.map fun change => { layer := (w.layer i).id, change }) :
    replied (w.attempt fun sc => sc.switch sc.poke i set) =
      match c.fires (w.layer i) (w.stage.flags i) with
      | none => (w.changed i c, .done)
      | some e => replied ((w.changed i c).fire i e) := by
  rw [fired, changed, obeys, setLayer_layer, attempt]
  simp only [Scene.switch, moves]
  cases change <;> rfl

theorem setVisible_eq (f : Flags) (on : Bool) : f.setVisible on =
    ({ f with visible := on },
      if f.visible = on then none else some (if on then .shown else .hidden)) := by
  rw [Flags.setVisible]
  by_cases same : f.visible = on
  · rw [if_pos same, if_pos same, ← same]
  · rw [if_neg same, if_neg same]

theorem setSelected_eq (f : Flags) (on : Bool) : f.setSelected on =
    ({ f with selected := on },
      if f.selected = on then none else some (if on then .selected else .deselected)) := by
  rw [Flags.setSelected]
  by_cases same : f.selected = on
  · rw [if_pos same, if_pos same, ← same]
  · rw [if_neg same, if_neg same]

/-- The layer changes first and then tells of it, if there is something to tell. -/
theorem execute_change (change : c.isChange = true) :
    w.execute (.layer i c) =
      match c.fires (w.layer i) (w.stage.flags i) with
      | none => (w.changed i c, .done)
      | some e => replied ((w.changed i c).fire i e) := by
  cases c with
  | setVisible on =>
    refine replied_switch rfl (setVisible_eq _ on) ?_
    rw [LayerCommand.fires]
    split <;> rfl
  | setSelected on =>
    refine replied_switch rfl (setSelected_eq _ on) ?_
    rw [LayerCommand.fires]
    split <;> rfl
  | fire e =>
    rw [changed_of_idle rfl, Layer.obey, setLayer_layer]
    rfl
  | setBounds bounds =>
    have kept := Layer.lasting_id.modifyFixed (w.layer i) ({ · with bounds })
    rw [changed_of_idle rfl, LayerCommand.fires, ← kept]
    rfl
  | setTitle title =>
    have kept := Layer.lasting_id.modifyFixed (w.layer i) ({ · with title })
    rw [changed_of_idle rfl, LayerCommand.fires, ← kept]
    rfl
  | setUnavailable reason =>
    rw [changed_of_idle rfl]
    rfl
  | subscribe | unsubscribe | dispose => exact absurd change Bool.false_ne_true

theorem subscribers_obey (change : c.isChange = true) (l : Layer) :
    (l.obey c).subscribers = l.subscribers := by
  have modified (f : FixedBody → FixedBody) : (l.modifyFixed f).subscribers = l.subscribers := by
    rw [Layer.modifyFixed]
    split <;> rfl
  cases c with
  | setVisible on | setSelected on | fire e => rfl
  | setBounds bounds | setTitle title | setUnavailable reason => exact modified _
  | subscribe | unsubscribe | dispose => exact absurd change Bool.false_ne_true

/-- What sheets pass on of an event of a layer: the one that it is on tells those who listen to the
stack, and names the index that the layer has there. -/
inductive Passes (w : World) (i : Nat) (e : LayerEvent) : List (Roster ListenerRef × Event) → Prop
  | member {r : SheetRef} {j : Nat} {m : LayerHandle} (held : w.scene.isOpen r = true)
      (there : (w.sheet r).stack.get? j = some m) (own : m.object = i) :
      Passes w i e [((w.sheet r).stackListeners, .stack (.changed m j e))]
  | stranger (absent : ∀ x ∈ w.scene.handles, i ∉ (w.sheet x.2).objects) : Passes w i e []

variable {e : LayerEvent} {passed : List (Roster ListenerRef × Event)} {sc : Scene}

theorem audience_relay (sound : w.Sound) (members : w.GenuineMembers) {r : SheetRef} {j : Nat}
    {m : LayerHandle} (held : w.scene.isOpen r = true)
    (there : (w.sheet r).stack.get? j = some m) (named : e.layer = (w.layer m.object).id) (k : Nat) :
    w.scene.audience e (.relay r k) =
      [((w.sheet r).stackListeners, .stack (.changed m j e))] := by
  have member : m ∈ (w.sheet r).layers := List.mem_of_getElem? there
  have found : (w.scene.sheets r).stack.indexOf? e.layer = some j := by
    refine (Stack.indexOf?_eq_some_iff (sound.sheets r).distinct).mpr ⟨m, there, ?_⟩
    rw [named]
    exact members r m member
  have here : (w.scene.sheets r).stack.get? j = some m := there
  rw [Scene.audience, if_pos held]
  simp only [found, here]
  rfl

/-- The round of a layer in custody. -/
theorem round_of_passes (h : w.Guarded (· = i)) (named : e.layer = (w.layer i).id)
    (passes : w.Passes i e passed) {layers : Nat → Layer}
    (same : (layers i).subscribers = (w.layer i).subscribers)
    (steady : ∀ l ∈ (w.layer i).directs, (w.scene.withLayers layers).Steady e l) (st : Stage) :
    let sc := w.scene.withLayers layers
    sc.Round e (w.layer i).directs passed st (sc.fire sc.poke i e st).1 := by
  intro sc
  have directs : (sc.layers i).directs = (w.layer i).directs :=
    congrArg (List.filterMap Subscriber.listener?) same
  have relays (r : SheetRef) : (sc.layers i).relaysOf r = (w.layer i).relaysOf r :=
    congrArg (List.filterMap (Subscriber.relayOf? r)) same
  rw [← directs] at steady ⊢
  -- Where no relay is bound, whatever is passed on reaches nobody.
  have unheard (unbound : ∀ r, (sc.layers i).relaysOf r = [])
      (silent : ∀ st, sc.Speaks passed st st) :
      sc.Round e (sc.layers i).directs passed st (sc.fire sc.poke i e st).1 := by
    have speaks := (Scene.fire_speaks_of_no_relay unbound steady st).append (silent _)
    refine Scene.Speaks.round (List.append_nil _) ?_
    rw [List.map_nil, List.append_nil]
    exact speaks
  cases passes with
  | stranger absent =>
    exact unheard (fun r => (relays r).trans (h.relaysOf_stranger rfl absent r))
      fun st => .done (.refl st)
  | @member r j m held there own =>
    have member : i ∈ (w.sheet r).objects := own ▸ List.mem_map_of_mem (List.mem_of_getElem? there)
    obtain ⟨mine, others⟩ := h.relaysOf_member rfl member
    have elsewhere (r' : SheetRef) (other : r' ≠ r) : (sc.layers i).relaysOf r' = [] :=
      (relays r').trans (others r' other)
    cases listening : (w.sheet r).relay with
    | none =>
      have deserted := (h.sound.sheets r).listening.mp listening
      refine unheard (fun r' => ?_) (Scene.speaks_of_deserted deserted _)
      by_cases here : r' = r
      · rw [here, relays, mine, listening]
        rfl
      · exact elsewhere r' here
    | some k =>
      have one : (sc.layers i).relaysOf r = [k] := by
        rw [relays, mine, listening]
        rfl
      have relayed : sc.audience e (.relay r k) =
          [((w.sheet r).stackListeners, .stack (.changed m j e))] :=
        audience_relay h.sound h.members held there (own ▸ named) k
      obtain ⟨before, after, rest, speaks⟩ := Scene.fire_speaks_of_one_relay one elsewhere steady st
      rw [relayed] at speaks
      exact speaks.round rest

end World

/-! ## Whatever layers do -/

namespace World

/-- The stage moved on, and all that was told meanwhile was told in the scene: what a sheet had to
announce, and echoes. -/
def Tells (sc : Scene) (st st' : Stage) : Prop :=
  ∃ heard, st'.deliveries = st.deliveries ++ heard ∧ ∀ d ∈ heard, sc.Echo d ∨ d.event.isEcho = false

/-- Whatever command is carried out, all that it makes anybody be told is told in the world that it
leaves. -/
theorem tells_execute {w : World} (sound : w.Sound) (c : Command) :
    Tells (w.execute c).1.scene w.stage (w.execute c).1.stage := by
  obtain ⟨heard, appended, told⟩ := toldBy_execute sound c
  refine ⟨heard, appended, fun d hd => ?_⟩
  rcases told d hd with ⟨e, l, rfl⟩ | ⟨r, -, told⟩
  · exact .inl (.direct l e)
  · cases told with
    | passedOn held index member listens => exact .inl (.passedOn r _ _ _ _ held index member listens)
    | @published op _ _ _ called due listens =>
      exact .inr (Sheet.outspoken_step (sound.sheets r) op _ due)

/-- A layer in custody changes: without an event nobody is told anything, otherwise there is one
round. -/
theorem change_round {w : World} {i : Nat} {c : LayerCommand} (h : w.Guarded (· = i))
    (change : c.isChange = true) :
    let w' := (w.execute (.layer i c)).1
    let st : Stage := { w.stage with flags := put w.stage.flags i (c.switches (w.stage.flags i)) }
    (c.fires (w.layer i) (w.stage.flags i) = none → w'.stage = st) ∧
      ∀ e, c.fires (w.layer i) (w.stage.flags i) = some e → e.layer = (w.layer i).id →
        (∀ l ∈ (w.layer i).directs, w'.scene.Steady e l) →
        ∀ passed, w.Passes i e passed → w'.scene.Round e (w.layer i).directs passed st w'.stage := by
  intro w' st
  have executed : w.execute (.layer i c) = _ := execute_change change
  constructor
  · intro silent
    rw [silent] at executed
    exact congrArg (fun x => x.1.stage) executed
  · intro e fired named steady passed passes
    rw [fired] at executed
    have told : w' = ((w.changed i c).fire i e).1 :=
      (congrArg Prod.fst executed).trans (replied_fst _)
    have same : (put w.scene.layers i ((w.layer i).obey c) i).subscribers =
        (w.layer i).subscribers := by
      rw [put_self, subscribers_obey change]
    rw [told] at steady ⊢
    exact round_of_passes h named passes same steady st

end World
end LayeredMap
