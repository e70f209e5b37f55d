import LayeredMap.Proofs.Transition
import LayeredMap.Proofs.Action

/-!
# Publication

Every step of a sheet sees to the layers first and publishes its events in the
end, when no layer is touched any more. So all that a listener is told by a
step he is told in the scene as the step leaves it, and whatever he looks at is
as it is afterwards.
-/

namespace LayeredMap

/-- Whom an action tells of what, if it publishes an event. -/
def Action.publication? : Action → Option (Roster ListenerRef × Event)
  | .publish roster e => some (roster, e)
  | _ => none

def publications (actions : List Action) : List (Roster ListenerRef × Event) :=
  actions.filterMap Action.publication?

def Action.sparesLayers : Action → Bool
  | .subscribe .. | .unsubscribe .. | .dispose _ => false
  | .note _ | .publish .. => true

/-- Layers are seen to before the first event is published. -/
def Orderly (actions : List Action) : Prop :=
  ∃ first rest, actions = first ++ rest ∧ publications first = [] ∧
    ∀ a ∈ rest, a.sparesLayers = true

theorem publications_append (as bs : List Action) :
    publications (as ++ bs) = publications as ++ publications bs :=
  List.filterMap_append

theorem publications_eq_nil {actions : List Action}
    (h : ∀ a ∈ actions, a.publication? = none) : publications actions = [] :=
  List.filterMap_eq_nil_iff.mpr h

/-- The event of a layer, or the one by which a sheet passes it on. -/
def Event.isEcho : Event → Bool
  | .layer _ | .stack (.changed ..) => true
  | _ => false

theorem Scene.ignores_echoes (sc : Scene) : sc.Ignores fun d => !d.event.isEcho := by
  intro d hd
  cases hd <;> rfl

namespace Stage

/-- Nothing has happened but that notices were given. -/
structure Still (st st' : Stage) : Prop where
  flags : st'.flags = st.flags
  calls : st'.calls = st.calls
  deliveries : st'.deliveries = st.deliveries

variable {st st₁ st₂ : Stage}

theorem Still.refl (st : Stage) : st.Still st := ⟨rfl, rfl, rfl⟩

theorem Still.trans (h : st.Still st₁) (h' : st₁.Still st₂) : st.Still st₂ :=
  ⟨h'.flags.trans h.flags, h'.calls.trans h.calls, h'.deliveries.trans h.deliveries⟩

theorem still_note (st : Stage) (n : Notice) : st.Still (st.note n) :=
  ⟨rfl, rfl, by simp [note, Entry.delivery?]⟩

end Stage

namespace Scene

/-- A delivery goes on after the first call, noting at most that it failed. -/
theorem deliverAll_cons (sc : Scene) (nested : Poke → Attempt) (e : Event) (position : Nat)
    (l : ListenerRef) (ls : List ListenerRef) (st : Stage) :
    let report := fun i error (st : Stage) => st.note (.listenerFailed e.label i error)
    ∃ st₁, (sc.call nested e l st).1.Still st₁ ∧
      (Roster.deliverAll (sc.call nested e) report position (l :: ls) st).1 =
        (Roster.deliverAll (sc.call nested e) report (position + 1) ls st₁).1 := by
  intro report
  rw [Roster.deliverAll]
  cases sc.call nested e l st with
  | mk st₁ error =>
    cases error with
    | none => exact ⟨st₁, .refl st₁, rfl⟩
    | some error => exact ⟨_, Stage.still_note st₁ (.listenerFailed e.label position error), rfl⟩

/-- The events are published in the scene one after the other. Notices may come in between. -/
inductive Speaks (sc : Scene) : List (Roster ListenerRef × Event) → Stage → Stage → Prop
  | done {st st' : Stage} (still : st.Still st') : Speaks sc [] st st'
  | tell {st st₁ st' : Stage} {roster : Roster ListenerRef} {e : Event}
      {rest : List (Roster ListenerRef × Event)} (still : st.Still st₁)
      (later : Speaks sc rest (sc.notify sc.poke roster e st₁) st') :
      Speaks sc ((roster, e) :: rest) st st'

variable {sc : Scene} {st st₁ st' : Stage} {told : List (Roster ListenerRef × Event)}

theorem Speaks.of_still (still : st.Still st₁) (h : sc.Speaks told st₁ st') :
    sc.Speaks told st st' := by
  cases h with
  | done later => exact .done (still.trans later)
  | tell later rest => exact .tell (still.trans later) rest

/-- Echoes apart, everyone on the roster of an event is told of it once, in order. -/
theorem Speaks.adds {p : Delivery → Bool} (hp : sc.Ignores p) (h : sc.Speaks told st st') :
    Stage.Adds p st st' ((told.flatMap fun x => x.1.toList.map (sc.told x.2)).filter p) := by
  induction h with
  | done still => exact .of_deliveries_eq still.deliveries
  | @tell st st₁ st' roster e rest still later ih =>
    have before : Stage.Adds p st st₁ [] := .of_deliveries_eq still.deliveries
    have now : Stage.Adds p st₁ (sc.notify sc.poke roster e st₁)
        ((roster.toList.map (sc.told e)).filter p) := notify_adds (poke_silent hp) roster e st₁
    rw [List.flatMap_cons, List.filter_append]
    exact (before.trans now).trans ih

/-- Whoever is called is told in this scene. -/
theorem Speaks.heard (h : sc.Speaks told st st') :
    ∃ heard, st'.deliveries = st.deliveries ++ heard ∧ ∀ d ∈ heard, ∃ e l, d = sc.told e l := by
  classical
  -- The test that nothing told in the scene passes.
  let foreign : Delivery → Bool := fun d => decide ¬ ∃ e l, d = sc.told e l
  have ignored : sc.Ignores foreign := by
    intro d hd
    cases hd with
    | direct l e => simp [foreign]
    | passedOn r e i m l held index member listens => simp [foreign]
  obtain ⟨heard, appended, foreigners⟩ := h.adds ignored
  have none_told :
      ((told.flatMap fun x => x.1.toList.map (sc.told x.2)).filter foreign) = [] := by
    refine List.filter_eq_nil_iff.mpr fun d hd => ?_
    obtain ⟨x, -, hd⟩ := List.mem_flatMap.mp hd
    obtain ⟨l, -, rfl⟩ := List.mem_map.mp hd
    simp [foreign]
  rw [none_told] at foreigners
  refine ⟨heard, appended, fun d hd => ?_⟩
  by_contra apart
  exact List.filter_eq_nil_iff.mp foreigners d hd (decide_eq_true apart)

theorem Speaks.still (h : sc.Speaks [] st st') : st.Still st' := by
  cases h with
  | done still => exact still

end Scene

/-! ## Steps -/

namespace Sheet

variable {s s' : Sheet} {offer : Offer} {actions : List Action}

theorem publications_entering (ls : List LayerHandle) :
    publications (ls.flatMap s.entering) = [] := by
  refine publications_eq_nil fun a ha => ?_
  obtain ⟨l, k, rfl⟩ := mem_entering ha
  rfl

theorem publications_leaving (ls : List LayerHandle) :
    publications (ls.flatMap s.leaving) = [] := by
  refine publications_eq_nil fun a ha => ?_
  rcases mem_leaving ha with ⟨l, k, rfl⟩ | ⟨l, rfl⟩ <;> rfl

theorem publications_map (ls : List LayerHandle) {f : LayerHandle → Action}
    (mute : ∀ l, (f l).publication? = none) : publications (ls.map f) = [] := by
  refine publications_eq_nil fun a ha => ?_
  obtain ⟨l, -, rfl⟩ := List.mem_map.mp ha
  exact mute l

theorem Transition.orderly (t : Transition offer s s' actions) : Orderly actions := by
  have told {n : Notice} {e : StackEvent} :
      ∀ a ∈ [Action.note n, s.publishStack e], a.sparesLayers = true := by
    intro a ha
    rcases List.mem_cons.mp ha with rfl | ha
    · rfl
    · rw [List.mem_singleton.mp ha]
      rfl
  have noted {n : Notice} : ∀ a ∈ [Action.note n], a.sparesLayers = true := by
    intro a ha
    rw [List.mem_singleton.mp ha]
    rfl
  cases t with
  | aside _ unheard =>
    refine ⟨[], actions, rfl, rfl, fun a ha => ?_⟩
    cases unheard a ha <;> rfl
  | gain => exact ⟨_, _, rfl, publications_entering _, told⟩
  | lose => exact ⟨_, _, rfl, publications_leaving _, told⟩
  | finish _ n =>
    refine ⟨_, _, rfl, publications_leaving s.layers, ?_⟩
    by_cases vacant : s.layerCount = 0
    · rw [if_pos vacant]
      exact noted
    · rw [if_neg vacant]
      exact told
  | abandon _ n =>
    refine ⟨.note n :: s.allLeaving, [], (List.append_nil _).symm, ?_, by simp⟩
    exact publications_leaving s.layers
  | relist => exact ⟨[], [], rfl, rfl, by simp⟩
  | start => exact ⟨_, _, rfl, publications_map _ fun _ => rfl, noted⟩
  | stop => exact ⟨_, _, rfl, publications_map _ fun _ => rfl, noted⟩

end Sheet

namespace World

variable (w : World) (r : SheetRef)

theorem scene_act_of_spares {a : Action} (h : a.sparesLayers = true) :
    (act r w a).scene = w.scene := by
  cases a with
  | note n => rfl
  | publish roster e => rfl
  | subscribe | unsubscribe | dispose => exact absurd h.symm Bool.false_ne_true.symm

theorem still_act {a : Action} (h : a.publication? = none) : w.stage.Still (act r w a).stage := by
  cases a with
  | dispose l =>
    rcases disposeLayer_eq w l.object with eq | ⟨n, eq⟩
    · rw [act, eq]
      exact .refl w.stage
    · rw [act, eq]
      exact Stage.still_note w.stage n
  | note n => exact Stage.still_note w.stage n
  | subscribe | unsubscribe => exact .refl w.stage
  | publish roster e => exact absurd h (Option.some_ne_none _)

theorem still_foldl_act {actions : List Action} (h : publications actions = []) :
    w.stage.Still (actions.foldl (act r) w).stage := by
  induction actions generalizing w with
  | nil => exact .refl w.stage
  | cons a rest ih =>
    have mute := List.filterMap_eq_nil_iff.mp h
    have first := still_act w r (mute a List.mem_cons_self)
    have later := ih (act r w a) (publications_eq_nil fun b hb => mute b (List.mem_cons_of_mem a hb))
    exact first.trans later

/-- Once no layer is touched any more the scene holds still. -/
theorem foldl_act_speaks {actions : List Action} (h : ∀ a ∈ actions, a.sparesLayers = true) :
    (actions.foldl (act r) w).scene = w.scene ∧
      w.scene.Speaks (publications actions) w.stage (actions.foldl (act r) w).stage := by
  induction actions generalizing w with
  | nil => exact ⟨rfl, .done (.refl w.stage)⟩
  | cons a rest ih =>
    have same := scene_act_of_spares w r (h a List.mem_cons_self)
    obtain ⟨kept, speaks⟩ := ih (act r w a) fun b hb => h b (List.mem_cons_of_mem a hb)
    rw [same] at kept speaks
    refine ⟨kept, ?_⟩
    cases a with
    | publish roster e => exact .tell (.refl w.stage) speaks
    | note n => exact speaks.of_still (Stage.still_note w.stage n)
    | subscribe | unsubscribe | dispose =>
      exact absurd (h _ List.mem_cons_self).symm Bool.false_ne_true.symm

/-- What a step publishes is told in the scene that the step leaves. -/
theorem perform_speaks {ρ : Type} {op : Sheet → Step ρ} (orderly : Orderly (op (w.sheet r)).actions) :
    (w.perform r op).1.scene.Speaks (publications (op (w.sheet r)).actions) w.stage
      (w.perform r op).1.stage := by
  obtain ⟨first, rest, split, quiet, spares⟩ := orderly
  have still : w.stage.Still (first.foldl (act r) (w.setSheet r (op (w.sheet r)).sheet)).stage :=
    still_foldl_act (w.setSheet r (op (w.sheet r)).sheet) r quiet
  obtain ⟨kept, speaks⟩ :=
    foldl_act_speaks (first.foldl (act r) (w.setSheet r (op (w.sheet r)).sheet)) r spares
  simp only [perform]
  rw [split, publications_append, quiet, List.nil_append, List.foldl_append, kept]
  exact speaks.of_still still

end World
end LayeredMap
