import LayeredMap.World.Delivery

/-!
# What a delivery records

A listener that is called may poke layers, and layers that are poked call
listeners in turn. All deliveries of this second kind are echoes: the event of
a layer, or the event by which a sheet passes it on. So a test that no echo
passes sees a delivery to a roster as one entry for each listener, in order,
whatever the listeners poke and however many of them fail.
-/

namespace LayeredMap

namespace Stage

/-- The later stage has further deliveries on record, and those that pass the test are the given
ones. -/
def Adds (p : Delivery → Bool) (st st' : Stage) (ds : List Delivery) : Prop :=
  ∃ all, st'.deliveries = st.deliveries ++ all ∧ all.filter p = ds

variable {p : Delivery → Bool} {st st₁ st₂ : Stage} {ds es : List Delivery}

theorem Adds.refl (p : Delivery → Bool) (st : Stage) : Adds p st st [] :=
  ⟨[], by simp, rfl⟩

theorem Adds.trans (h : Adds p st st₁ ds) (h' : Adds p st₁ st₂ es) :
    Adds p st st₂ (ds ++ es) := by
  obtain ⟨all, heq, hds⟩ := h
  obtain ⟨all', heq', hes⟩ := h'
  exact ⟨all ++ all', by simp [heq, heq'], by simp [hds, hes]⟩

theorem Adds.of_deliveries_eq (h : st₁.deliveries = st.deliveries) : Adds p st st₁ [] :=
  ⟨[], by simp [h], rfl⟩

theorem adds_note (p : Delivery → Bool) (st : Stage) (n : Notice) : Adds p st (st.note n) [] :=
  .of_deliveries_eq (by simp [note, Entry.delivery?])

theorem adds_record (p : Delivery → Bool) (st : Stage) (d : Delivery) :
    Adds p st (st.record (.delivery d)) ([d].filter p) :=
  ⟨[d], by simp [Entry.delivery?], rfl⟩

end Stage

namespace Scene

/-- What is on record when a listener is told of an event. -/
def told (sc : Scene) (e : Event) (l : ListenerRef) : Delivery :=
  { listener := l, event := e, sighting := (sc.conducts l).observes.map sc.sight }

/-- A delivery that follows from a change of a layer. One that a sheet passes on names the member
of that identity at its index and goes to somebody who listens to the stack. -/
inductive Echo (sc : Scene) : Delivery → Prop
  | direct (l : ListenerRef) (e : LayerEvent) : Echo sc (sc.told (.layer e) l)
  | passedOn (r : SheetRef) (e : LayerEvent) (i : Nat) (m : LayerHandle) (l : ListenerRef)
      (held : sc.isOpen r = true) (index : (sc.sheets r).stack.indexOf? e.layer = some i)
      (member : (sc.sheets r).stack.get? i = some m)
      (listens : l ∈ (sc.sheets r).stackListeners.toList) :
      Echo sc (sc.told (.stack (.changed m i e)) l)

/-- No echo passes the test. -/
def Ignores (sc : Scene) (p : Delivery → Bool) : Prop := ∀ d, sc.Echo d → p d = false

end Scene

/-- The attempt adds nothing that passes the test. -/
def Silent (p : Delivery → Bool) (a : Attempt) : Prop := ∀ st, Stage.Adds p st (a st).1 []

theorem attemptAll_silent {α : Type} {p : Delivery → Bool} {attempt : α → Attempt} {as : List α}
    (h : ∀ a ∈ as, Silent p (attempt a)) : Silent p (attemptAll attempt as) := by
  induction as with
  | nil => exact fun st => .refl p st
  | cons a as ih =>
    intro st
    have first := h a List.mem_cons_self st
    rw [attemptAll]
    cases hr : attempt a st with
    | mk st₁ error =>
      rw [hr] at first
      cases error with
      | some error => exact first
      | none => exact first.trans (ih (fun b hb => h b (List.mem_cons_of_mem a hb)) st₁)

namespace Scene

variable {sc : Scene} {nested : Poke → Attempt} {p : Delivery → Bool}

/-- Nothing but the call itself can pass, if what the listener pokes stays silent. -/
theorem call_adds (hn : ∀ q, Silent p (nested q)) (e : Event) (l : ListenerRef) (st : Stage) :
    Stage.Adds p st (sc.call nested e l st).1 ([sc.told e l].filter p) := by
  let counted : Stage := { st with calls := put st.calls l (st.calls l + 1) }
  have recorded : Stage.Adds p st (counted.record (.delivery (sc.told e l)))
      ([sc.told e l].filter p) :=
    Stage.adds_record p counted (sc.told e l)
  have pokes : Silent p (attemptAll nested (sc.conducts l).pokes) :=
    attemptAll_silent fun q _ => hn q
  have poked := recorded.trans (pokes (counted.record (.delivery (sc.told e l))))
  rw [List.append_nil] at poked
  rw [call]
  split
  · rename_i h
    exact (congrArg Prod.fst h) ▸ poked
  · rename_i h
    exact (congrArg Prod.fst h) ▸ poked

theorem deliverAll_adds (hn : ∀ q, Silent p (nested q)) (e : Event) (position : Nat)
    (ls : List ListenerRef) (st : Stage) :
    Stage.Adds p st
      (Roster.deliverAll (sc.call nested e)
        (fun i error st => st.note (.listenerFailed e.label i error)) position ls st).1
      ((ls.map (sc.told e)).filter p) := by
  induction ls generalizing position st with
  | nil => exact .refl p st
  | cons l ls ih =>
    have first : Stage.Adds p st (sc.call nested e l st).1 ([sc.told e l].filter p) :=
      call_adds hn e l st
    have split : ((l :: ls).map (sc.told e)).filter p =
        [sc.told e l].filter p ++ (ls.map (sc.told e)).filter p := by
      rw [← List.filter_append, List.map_cons, List.singleton_append]
    rw [split, Roster.deliverAll]
    cases hr : sc.call nested e l st with
    | mk st₁ error =>
      rw [hr] at first
      cases error with
      | none => exact first.trans (ih (position + 1) st₁)
      | some error =>
        have noted := first.trans (Stage.adds_note p st₁ (.listenerFailed e.label position error))
        rw [List.append_nil] at noted
        exact noted.trans (ih (position + 1) _)

/-- Everyone on the roster is called once, in order. -/
theorem notify_adds (hn : ∀ q, Silent p (nested q)) (roster : Roster ListenerRef) (e : Event)
    (st : Stage) :
    Stage.Adds p st (sc.notify nested roster e st) ((roster.toList.map (sc.told e)).filter p) :=
  deliverAll_adds hn e 0 roster.toList st

theorem forward_silent (hp : sc.Ignores p) (hn : ∀ q, Silent p (nested q)) (r : SheetRef)
    (e : LayerEvent) (st : Stage) : Stage.Adds p st (sc.forward nested r e st) [] := by
  by_cases held : sc.isOpen r = true
  · cases hi : (sc.sheets r).stack.indexOf? e.layer with
    | none => simpa [forward, held, hi] using Stage.adds_note p st _
    | some i =>
      cases hm : (sc.sheets r).stack.get? i with
      | none => simpa [forward, held, hi, hm] using Stage.Adds.refl p st
      | some m =>
        let sent : Event := .stack (.changed m i e)
        have passed : Stage.Adds p st (sc.notify nested (sc.sheets r).stackListeners sent st)
            (((sc.sheets r).stackListeners.toList.map (sc.told sent)).filter p) :=
          notify_adds hn (sc.sheets r).stackListeners sent st
        have none_fits :
            ((sc.sheets r).stackListeners.toList.map (sc.told sent)).filter p = [] := by
          apply List.filter_eq_nil_iff.mpr
          intro d hd
          obtain ⟨l, hl, rfl⟩ := List.mem_map.mp hd
          rw [hp (sc.told sent l) (.passedOn r e i m l held hi hm hl)]
          exact Bool.false_ne_true
        rw [none_fits] at passed
        simpa [forward, held, hi, hm] using passed
  · simpa [forward, held] using Stage.Adds.refl p st

theorem tell_silent (hp : sc.Ignores p) (hn : ∀ q, Silent p (nested q)) (e : LayerEvent)
    (s : Subscriber) : Silent p (sc.tell nested e s) := by
  intro st
  cases s with
  | listener l =>
    have called : Stage.Adds p st (sc.call nested (.layer e) l st).1
        ([sc.told (.layer e) l].filter p) := call_adds hn (.layer e) l st
    rw [List.filter_cons_of_neg (by simp [hp _ (.direct l e)]), List.filter_nil] at called
    exact called
  | relay r n => exact forward_silent hp hn r e st

theorem fire_silent (hp : sc.Ignores p) (hn : ∀ q, Silent p (nested q)) (object : Nat)
    (e : LayerEvent) : Silent p (sc.fire nested object e) :=
  attemptAll_silent fun s _ => tell_silent hp hn e s

theorem switch_silent (hp : sc.Ignores p) (hn : ∀ q, Silent p (nested q)) (object : Nat)
    (set : Flags → Flags × Option LayerChange) : Silent p (sc.switch nested object set) := by
  intro st
  let moved : Stage := { st with flags := put st.flags object (set (st.flags object)).1 }
  have kept : Stage.Adds p st moved [] := .of_deliveries_eq rfl
  rw [switch]
  cases hc : (set (st.flags object)).2 with
  | none => simpa [hc] using kept
  | some change =>
    simpa [hc] using kept.trans (fire_silent hp hn object
      { layer := (sc.layers object).id, change } moved)

theorem pokeWithin_silent (hp : sc.Ignores p) (depth : Nat) (q : Poke) :
    Silent p (sc.pokeWithin depth q) := by
  induction depth generalizing q with
  | zero => exact fun st => .refl p st
  | succ depth ih =>
    exact attemptAll_silent fun set _ => switch_silent hp ih q.object set

theorem poke_silent (hp : sc.Ignores p) (q : Poke) : Silent p (sc.poke q) :=
  pokeWithin_silent hp nestingLimit q

end Scene
end LayeredMap
