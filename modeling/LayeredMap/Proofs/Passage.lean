import LayeredMap.Proofs.VeiledScene

/-!
# What holds from before a call to after it

While listeners are called the stage moves by small moves: a call is counted, a
notice given, a delivery put on record, a layer switched. A relation between
stages that all of these keep up, but for deliveries of one layer to one
listener and for the switches of some layers, is kept up by whoever is called,
as long as nobody he sets off switches one of those layers. And if none of them
ever fails, his call does not fail.
-/

namespace LayeredMap

/-- The change that the listener is told of by a layer of this identity itself. -/
def Delivery.heard? (l : ListenerRef) (id : LayerId) (d : Delivery) : Option LayerChange :=
  match d.event with
  | .layer e => if d.listener = l ∧ e.layer = id then some e.change else none
  | _ => none

/-- What the listener was told by layers of this identity themselves. -/
def Stage.heard (st : Stage) (l : ListenerRef) (id : LayerId) : List LayerChange :=
  st.deliveries.filterMap (Delivery.heard? l id)

theorem Stage.heard_note (st : Stage) (n : Notice) (l : ListenerRef) (id : LayerId) :
    (st.note n).heard l id = st.heard l id :=
  congrArg (List.filterMap (Delivery.heard? l id)) (still_note st n).deliveries

/-- The small moves keep the relation up, where the layers may be switched that are free. -/
structure Passive (l : ListenerRef) (id : LayerId) (free : Nat → Prop)
    (R : Stage → Stage → Prop) : Prop where
  trans : ∀ {st st₁ st' : Stage}, R st st₁ → R st₁ st' → R st st'
  quiet : ∀ {st st' : Stage}, st'.flags = st.flags → st'.heard l id = st.heard l id → R st st'
  switched : ∀ (st : Stage) (j : Nat) (f : Flags), free j →
    R st { st with flags := put st.flags j f }

/-- The relation holds from before the attempt to after it. -/
def Keeps (R : Stage → Stage → Prop) (a : Attempt) : Prop := ∀ st, R st (a st).1

/-- The attempt never fails. -/
def Succeeds (a : Attempt) : Prop := ∀ st, (a st).2 = none

variable {l : ListenerRef} {id : LayerId} {free : Nat → Prop} {R : Stage → Stage → Prop}

section Attempts

variable {α : Type} {attempt : α → Attempt} {as : List α}

/-- From after the first attempt on, whether or not it failed. -/
theorem attemptAll_cons_keeps (h : Passive l id free R) (rest : Keeps R (attemptAll attempt as))
    (a : α) (st : Stage) : R (attempt a st).1 (attemptAll attempt (a :: as) st).1 := by
  rw [attemptAll]
  cases made : attempt a st with
  | mk st₁ error =>
    cases error with
    | some error => exact h.quiet rfl rfl
    | none => exact rest st₁

theorem attemptAll_keeps (h : Passive l id free R) (each : ∀ a ∈ as, Keeps R (attempt a)) :
    Keeps R (attemptAll attempt as) := by
  induction as with
  | nil => exact fun st => h.quiet rfl rfl
  | cons a as ih =>
    intro st
    have rest := ih fun b hb => each b (List.mem_cons_of_mem a hb)
    exact h.trans (each a List.mem_cons_self st) (attemptAll_cons_keeps h rest a st)

theorem attemptAll_succeeds (each : ∀ a ∈ as, Succeeds (attempt a)) :
    Succeeds (attemptAll attempt as) := by
  induction as with
  | nil => exact fun st => rfl
  | cons a as ih =>
    intro st
    rw [attemptAll_of_calm (each a List.mem_cons_self st)]
    exact ih (fun b hb => each b (List.mem_cons_of_mem a hb)) _

theorem attemptAll_append (each : ∀ a ∈ as, Succeeds (attempt a)) (bs : List α) (st : Stage) :
    attemptAll attempt (as ++ bs) st = attemptAll attempt bs (attemptAll attempt as st).1 := by
  induction as generalizing st with
  | nil => rfl
  | cons a as ih =>
    have calm := each a List.mem_cons_self st
    rw [List.cons_append, attemptAll_of_calm calm, attemptAll_of_calm calm]
    exact ih (fun b hb => each b (List.mem_cons_of_mem a hb)) _

end Attempts

namespace Scene

variable {sc : Scene} {nested : Poke → Attempt}

/-- Who is called if this subscriber is told. -/
def Reaches (sc : Scene) : Subscriber → ListenerRef → Prop
  | .listener l, m => m = l
  | .relay r _, m => m ∈ (sc.sheets r).stackListeners.toList

/-! ## Who is told -/

theorem call_fst (sc : Scene) (nested : Poke → Attempt) (e : Event) (m : ListenerRef) (st : Stage) :
    (sc.call nested e m st).1 =
      (attemptAll nested (sc.conducts m).pokes (sc.met e m st)).1 := by
  cases poked : attemptAll nested (sc.conducts m).pokes (sc.met e m st) with
  | mk st₁ error =>
    simp only [met, told] at poked
    cases error <;> simp only [call, poked]

theorem heard_met (sc : Scene) (e : Event) (m : ListenerRef) (st : Stage) :
    (sc.met e m st).heard l id = st.heard l id ++ ((sc.told e m).heard? l id).toList := by
  have appended : (sc.met e m st).deliveries = st.deliveries ++ [sc.told e m] :=
    Stage.deliveries_record _ _
  rw [Stage.heard, appended, List.filterMap_append, List.filterMap_cons, List.filterMap_nil]
  cases (sc.told e m).heard? l id <;> rfl

theorem call_keeps (h : Passive l id free R) {e : Event} {m : ListenerRef}
    (apart : (sc.told e m).heard? l id = none)
    (pokes : ∀ q ∈ (sc.conducts m).pokes, Keeps R (nested q)) : Keeps R (sc.call nested e m) := by
  intro st
  have met : R st (sc.met e m st) := by
    refine h.quiet rfl ?_
    rw [heard_met, apart]
    exact List.append_nil _
  rw [call_fst]
  exact h.trans met (attemptAll_keeps h pokes _)

theorem notify_keeps (h : Passive l id free R) {e : Event} (indirect : e.isDirect = false)
    {roster : Roster ListenerRef}
    (pokes : ∀ m ∈ roster.toList, ∀ q ∈ (sc.conducts m).pokes, Keeps R (nested q)) (st : Stage) :
    R st (sc.notify nested roster e st) := by
  have apart (m : ListenerRef) : (sc.told e m).heard? l id = none := by
    cases e with
    | layer e => exact absurd indirect.symm Bool.false_ne_true
    | _ => rfl
  rw [notify, Roster.notify]
  generalize roster.toList = ls at pokes
  generalize 0 = position
  induction ls generalizing position st with
  | nil => exact h.quiet rfl rfl
  | cons m ls ih =>
    obtain ⟨st₁, still, rest⟩ := sc.deliverAll_cons nested e position m ls st
    have called := call_keeps h (apart m) (pokes m List.mem_cons_self) st
    have noted : R (sc.call nested e m st).1 st₁ := h.quiet still.flags
      (congrArg (List.filterMap (Delivery.heard? l id)) still.deliveries)
    rw [rest]
    exact h.trans (h.trans called noted)
      (ih st₁ (fun n hn => pokes n (List.mem_cons_of_mem m hn)) (position + 1))

theorem forward_keeps (h : Passive l id free R) {r : SheetRef} (e : LayerEvent)
    (pokes : ∀ m ∈ (sc.sheets r).stackListeners.toList,
      ∀ q ∈ (sc.conducts m).pokes, Keeps R (nested q)) (st : Stage) :
    R st (sc.forward nested r e st) := by
  rw [forward]
  split
  · cases hi : (sc.sheets r).stack.indexOf? e.layer with
    | none =>
      simp only [hi]
      exact h.quiet rfl (Stage.heard_note st _ l id)
    | some i =>
      cases hm : (sc.sheets r).stack.get? i with
      | none =>
        simp only [hi, hm]
        exact h.quiet rfl rfl
      | some m =>
        simp only [hi, hm]
        exact notify_keeps h rfl pokes st
  · exact h.quiet rfl rfl

theorem tell_keeps (h : Passive l id free R) {e : LayerEvent} {s : Subscriber}
    (apart : s = .listener l → e.layer ≠ id)
    (pokes : ∀ m, sc.Reaches s m → ∀ q ∈ (sc.conducts m).pokes, Keeps R (nested q)) :
    Keeps R (sc.tell nested e s) := by
  cases s with
  | relay r n => exact forward_keeps h e pokes
  | listener m =>
    refine call_keeps h ?_ (pokes m rfl)
    refine if_neg fun own => ?_
    exact apart (congrArg Subscriber.listener own.1) own.2

/-! ## Layers -/

theorem fire_keeps (h : Passive l id free R) {j : Nat} {e : LayerEvent}
    (apart : .listener l ∈ (sc.layers j).subscribers → e.layer ≠ id)
    (pokes : ∀ s ∈ (sc.layers j).subscribers, ∀ m, sc.Reaches s m →
      ∀ q ∈ (sc.conducts m).pokes, Keeps R (nested q)) : Keeps R (sc.fire nested j e) :=
  attemptAll_keeps h fun s hs => tell_keeps h (fun own => apart (own ▸ hs)) (pokes s hs)

theorem switch_keeps (h : Passive l id free R) {j : Nat} (unbound : free j)
    (apart : .listener l ∈ (sc.layers j).subscribers → (sc.layers j).id ≠ id)
    (pokes : ∀ s ∈ (sc.layers j).subscribers, ∀ m, sc.Reaches s m →
      ∀ q ∈ (sc.conducts m).pokes, Keeps R (nested q)) (set : Flags → Flags × Option LayerChange) :
    Keeps R (sc.switch nested j set) := by
  intro st
  have moved := h.switched st j (set (st.flags j)).1 unbound
  rw [switch]
  cases told : (set (st.flags j)).2 with
  | none =>
    simp only [told]
    exact moved
  | some change =>
    simp only [told]
    exact h.trans moved (fire_keeps h apart pokes _)

/-- The poke is of a layer that is free, and sets off listeners of this kind only. -/
structure Spares (sc : Scene) (free : Nat → Prop) (kind : ListenerRef → Prop) (q : Poke) : Prop where
  unbound : free q.object
  sets_off : ∀ s ∈ (sc.layers q.object).subscribers, ∀ m, sc.Reaches s m → kind m

variable {kind : ListenerRef → Prop}

/-- A kind of listeners that set off nobody but themselves. -/
theorem pokeWithin_keeps (h : Passive l id free R)
    (closed : ∀ m, kind m → ∀ q ∈ (sc.conducts m).pokes, sc.Spares free kind q)
    (apart : ∀ j, free j → .listener l ∈ (sc.layers j).subscribers → (sc.layers j).id ≠ id)
    (depth : Nat) {q : Poke} (spares : sc.Spares free kind q) : Keeps R (sc.pokeWithin depth q) := by
  induction depth generalizing q with
  | zero => exact fun st => h.quiet rfl rfl
  | succ depth ih =>
    refine attemptAll_keeps h fun set _ => ?_
    refine switch_keeps h spares.unbound (apart q.object spares.unbound) ?_ set
    exact fun s hs m reached q' hq' => ih (closed m (spares.sets_off s hs m reached) q' hq')

/-! ## Who never fails -/

/-- At some call the listener fails, or somebody who listens to a layer that he pokes. A relay is in
nobody's way: what is passed on fails on its own. -/
inductive Fallible (sc : Scene) : ListenerRef → Prop
  | fails {m : ListenerRef} {n : Nat} (planned : (sc.conducts m).fails.includes n = true) :
      Fallible sc m
  | setsOff {m m' : ListenerRef} {q : Poke} (poked : q ∈ (sc.conducts m).pokes)
      (listens : .listener m' ∈ (sc.layers q.object).subscribers) (there : Fallible sc m') :
      Fallible sc m

theorem call_succeeds {e : Event} {m : ListenerRef} (sure : ¬sc.Fallible m)
    (pokes : ∀ q ∈ (sc.conducts m).pokes, Succeeds (nested q)) : Succeeds (sc.call nested e m) := by
  intro st
  have steady : (sc.conducts m).fails.includes (st.calls m + 1) = false :=
    Bool.eq_false_iff.mpr fun planned => sure (.fails planned)
  rw [call_of_calm (attemptAll_succeeds pokes _), steady]
  rfl

theorem tell_succeeds {e : LayerEvent} {s : Subscriber}
    (sure : ∀ m, s = .listener m → ¬sc.Fallible m)
    (pokes : ∀ m, s = .listener m → ∀ q ∈ (sc.conducts m).pokes, Succeeds (nested q)) :
    Succeeds (sc.tell nested e s) := by
  cases s with
  | relay r n => exact fun st => rfl
  | listener m => exact call_succeeds (sure m rfl) (pokes m rfl)

theorem pokeWithin_succeeds (depth : Nat) {q : Poke}
    (sure : ∀ m, .listener m ∈ (sc.layers q.object).subscribers → ¬sc.Fallible m) :
    Succeeds (sc.pokeWithin depth q) := by
  induction depth generalizing q with
  | zero => exact fun st => rfl
  | succ depth ih =>
    refine attemptAll_succeeds fun set _ st => ?_
    rw [switch]
    cases told : (set (st.flags q.object)).2 with
    | none => simp only [told]
    | some change =>
      simp only [told]
      refine attemptAll_succeeds (fun s hs => tell_succeeds ?_ ?_) _
      · exact fun m own => sure m (own ▸ hs)
      · intro m own q' hq'
        exact ih fun m' hm' fallible => sure m (own ▸ hs) (.setsOff hq' hm' fallible)

end Scene
end LayeredMap
