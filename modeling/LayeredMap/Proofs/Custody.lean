import LayeredMap.Proofs.Subscription

/-!
# Layers in the custody of one sheet

Some layers are on one sheet at a time, let go when they are told to, and are
disposed of by nobody else while they are on it. Then of all the relays of all
sheets exactly the one of that sheet is subscribed to such a layer while it is
a member, and none while it is not. Which layers these are is a parameter: what
other layers do makes no difference to them.
-/

namespace LayeredMap.World

variable {which : Nat → Prop} {w : World} {c : Command}

/-- None of these layers is on two sheets that are held. -/
def Alone (which : Nat → Prop) (w : World) : Prop :=
  ∀ x ∈ w.scene.handles, ∀ y ∈ w.scene.handles, x.2 ≠ y.2 →
    ∀ i ∈ (w.sheet x.2).objects, which i → i ∉ (w.sheet y.2).objects

instance (which : Nat → Prop) [DecidablePred which] (w : World) : Decidable (w.Alone which) :=
  inferInstanceAs (Decidable (∀ x ∈ w.scene.handles, ∀ y ∈ w.scene.handles, x.2 ≠ y.2 →
    ∀ i ∈ (w.sheet x.2).objects, which i → i ∉ (w.sheet y.2).objects))

/-- Handles are genuine, nobody else disposes of such a layer while it is on a sheet that is held,
and it does not come on a second one. -/
structure Guards (which : Nat → Prop) (w : World) (c : Command) : Prop where
  genuine : w.Genuine c
  spared : ∀ x ∈ w.scene.handles, ∀ i ∈ (w.sheet x.2).objects, which i → endsLayer i c = false
  alone : (w.execute c).1.Alone which

instance (which : Nat → Prop) [DecidablePred which] (w : World) (c : Command) :
    Decidable (w.Guards which c) :=
  decidable_of_iff
    (w.Genuine c ∧
      (∀ x ∈ w.scene.handles, ∀ i ∈ (w.sheet x.2).objects, which i → endsLayer i c = false) ∧
      (w.execute c).1.Alone which)
    ⟨fun ⟨genuine, spared, alone⟩ => ⟨genuine, spared, alone⟩,
      fun ⟨genuine, spared, alone⟩ => ⟨genuine, spared, alone⟩⟩

structure Guarded (which : Nat → Prop) (w : World) : Prop where
  sound : w.Sound
  settled : w.Settled
  members : w.GenuineMembers
  alone : w.Alone which
  loose : ∀ i, which i → (w.layer i).isSticky = false
  due : ∀ i, which i → ∀ r, (w.layer i).relaysOf r = (w.sheet r).due i

/-- What a sheet has members for is held. -/
theorem Settled.held (settled : w.Settled) {r : SheetRef} {i : Nat}
    (member : i ∈ (w.sheet r).objects) : ∃ x ∈ w.scene.handles, x.2 = r := by
  by_contra closed
  have vacant := settled.closed r (Bool.eq_false_iff.mpr fun held => closed ((isOpen_iff w).mp held))
  rw [Sheet.objects, vacant] at member
  exact List.not_mem_nil member

theorem guarded_execute (h : w.Guarded which) (ok : w.Guards which c) :
    (w.execute c).1.Guarded which := by
  refine ⟨sound_execute h.sound c, settled_execute h.sound h.settled c,
    genuineMembers_execute h.sound ok.genuine h.members, ok.alone, ?_, ?_⟩
  · intro i own
    rw [lasting_execute Layer.lasting_isSticky h.sound]
    exact h.loose i own
  · intro i own r
    refine due_execute h.sound h.members (h.due i own r) (fun _ => h.loose i own) ?_ ?_
    · intro mine y hy other
      obtain ⟨x, hx, rfl⟩ := h.settled.held mine
      exact h.alone x hx y hy (Ne.symm other) i mine own
    · intro mine
      obtain ⟨x, hx, rfl⟩ := h.settled.held mine
      exact ok.spared x hx i mine own

theorem guarded_opening {layers : List (Layer × Flags)} (conducts : List Conduct)
    (loose : ∀ i, which i → ((opening layers conducts).layer i).isSticky = false)
    (fresh : ∀ i, which i → ∀ r, ((opening layers conducts).layer i).relaysOf r = []) :
    (opening layers conducts).Guarded which := by
  refine ⟨sound_opening layers conducts, settled_opening layers conducts,
    genuineMembers_opening layers conducts, ?_, loose, fresh⟩
  intro x hx
  exact absurd hx List.not_mem_nil

theorem guarded_run {layers : List (Layer × Flags)} {conducts : List Conduct}
    (loose : ∀ i, which i → ((opening layers conducts).layer i).isSticky = false)
    (fresh : ∀ i, which i → ∀ r, ((opening layers conducts).layer i).relaysOf r = [])
    (cs : List Command) (guards : Along (Guards which) (opening layers conducts) cs) :
    ((opening layers conducts).run cs).Guarded which :=
  run_keeps (Guarded which) (fun _ _ => guarded_execute) cs _ guards
    (guarded_opening conducts loose fresh)

namespace Guarded

variable {i : Nat} {r : SheetRef}

theorem relaysOf_member (h : w.Guarded which) (own : which i) (member : i ∈ (w.sheet r).objects) :
    (w.layer i).relaysOf r = (w.sheet r).relay.toList ∧
      ∀ r', r' ≠ r → (w.layer i).relaysOf r' = [] := by
  constructor
  · exact (h.due i own r).trans (if_pos member)
  · intro r' other
    refine (h.due i own r').trans (if_neg fun there => ?_)
    obtain ⟨x, hx, rfl⟩ := h.settled.held member
    obtain ⟨y, hy, rfl⟩ := h.settled.held there
    exact h.alone x hx y hy (Ne.symm other) i member own there

theorem relaysOf_stranger (h : w.Guarded which) (own : which i)
    (absent : ∀ x ∈ w.scene.handles, i ∉ (w.sheet x.2).objects) (r : SheetRef) :
    (w.layer i).relaysOf r = [] := by
  refine (h.due i own r).trans (if_neg fun there => ?_)
  obtain ⟨x, hx, rfl⟩ := h.settled.held there
  exact absent x hx there

end Guarded
end LayeredMap.World

namespace LayeredMap

/-! ## The rest are listeners -/

def Subscriber.listener? : Subscriber → Option ListenerRef
  | listener l => some l
  | relay .. => none

/-- Those who listen to the layer themselves. -/
def Layer.directs (l : Layer) : List ListenerRef := l.subscribers.filterMap Subscriber.listener?

theorem map_listener_of_no_relay {ss : List Subscriber} (h : ∀ r n, .relay r n ∉ ss) :
    (ss.filterMap Subscriber.listener?).map .listener = ss := by
  induction ss with
  | nil => rfl
  | cons s ss ih =>
    have later := ih fun r n there => h r n (List.mem_cons_of_mem s there)
    cases s with
    | listener l => exact congrArg (Subscriber.listener l :: ·) later
    | relay r n => exact absurd List.mem_cons_self (h r n)

namespace Layer

variable {l : Layer} {r : SheetRef} {k : Nat}

theorem subscribers_of_no_relay (h : ∀ r, l.relaysOf r = []) :
    l.subscribers = l.directs.map .listener := by
  refine (map_listener_of_no_relay fun r n there => ?_).symm
  rw [← mem_relaysOf, h r] at there
  exact List.not_mem_nil there

/-- One relay, and listeners before and after it. -/
theorem subscribers_of_one_relay (own : l.relaysOf r = [k]) (others : ∀ r', r' ≠ r → l.relaysOf r' = []) :
    ∃ before after, l.subscribers = before.map .listener ++ .relay r k :: after.map .listener ∧
      before ++ after = l.directs := by
  have there : .relay r k ∈ l.subscribers := mem_relaysOf.mp (by simp [own])
  have once : l.subscribers.count (.relay r k) = 1 := by
    rw [← count_relaysOf, own]
    exact List.count_singleton_self
  obtain ⟨xs, ys, split⟩ := List.append_of_mem there
  rw [split, List.count_append, List.count_cons_self] at once
  have only (r' : SheetRef) (n : Nat) (h : .relay r' n ∈ l.subscribers) : r' = r ∧ n = k := by
    have numbered := mem_relaysOf.mpr h
    by_cases same : r' = r
    · subst same
      rw [own] at numbered
      exact ⟨rfl, List.mem_singleton.mp numbered⟩
    · rw [others r' same] at numbered
      exact absurd numbered List.not_mem_nil
  have none_in (zs : List Subscriber) (sub : ∀ s ∈ zs, s ∈ l.subscribers)
      (zero : zs.count (.relay r k) = 0) : ∀ r' n, .relay r' n ∉ zs := by
    intro r' n h
    obtain ⟨rfl, rfl⟩ := only r' n (sub _ h)
    exact List.count_eq_zero.mp zero h
  have before := map_listener_of_no_relay
    (none_in xs (fun s hs => split ▸ List.mem_append_left _ hs) (by omega))
  have after := map_listener_of_no_relay
    (none_in ys (fun s hs => split ▸ List.mem_append_right xs (List.mem_cons_of_mem _ hs)) (by omega))
  refine ⟨xs.filterMap Subscriber.listener?, ys.filterMap Subscriber.listener?, ?_, ?_⟩
  · rw [before, after]
    exact split
  · rw [directs, split, List.filterMap_append]
    rfl

end Layer
end LayeredMap
