import LayeredMap.Proofs.Subscribers

/-!
# Who is subscribed to what

While somebody listens to the stack of a sheet, its relay is subscribed once to
each member and to nothing else; while nobody does, no relay of the sheet is
subscribed anywhere. This takes layers that let go when they are told to, that
are on no other sheet, and that nobody else disposes of while they are members.
-/

namespace LayeredMap

variable {r : SheetRef} {i : Nat} {l : Layer}

/-! ## Steps of the sheet -/

namespace Sheet

def objects (s : Sheet) : List Nat := s.layers.map (·.object)

/-- The relays of the sheet that ought to be subscribed to the layer of an object. -/
def due (s : Sheet) (object : Nat) : List Nat :=
  if object ∈ s.objects then s.relay.toList else []

variable {s s' : Sheet} {offer : Offer} {actions : List Action}

theorem due_eq_or (s : Sheet) (i : Nat) : s.due i = [] ∨ s.due i = s.relay.toList := by
  rw [due]
  split
  · exact Or.inr rfl
  · exact Or.inl rfl

theorem due_of_idle (h : s.relay = none) (i : Nat) : s.due i = [] := by
  rw [due, h]
  exact ite_self []

theorem due_vacated (s : Sheet) (i : Nat) : (if i ∈ s.objects then [] else s.due i) = [] := by
  by_cases there : i ∈ s.objects
  · exact if_pos there
  · rw [if_neg there]
    exact if_neg there

theorem entering_of_idle (h : s.relay = none) (ls : List LayerHandle) :
    ls.flatMap s.entering = [] := by
  apply List.flatMap_eq_nil_iff.mpr
  intro l _
  rw [entering, h]

theorem entering_of_listening {k : Nat} (h : s.relay = some k) (ls : List LayerHandle) :
    ls.flatMap s.entering = ls.map (Action.subscribe · k) := by
  rw [List.map_eq_flatMap]
  congr 1
  funext l
  rw [entering, h]

/-- A step leaves subscribed what ought to be. -/
theorem Transition.relaysOf (t : Transition offer s s' actions) (once : s.objects.Nodup)
    (bound : l.relaysOf r = s.due i) (loose : i ∈ s.objects ∨ i ∈ s'.objects → l.isSticky = false) :
    (actions.foldl (Layer.receive r i) l).relaysOf r = s'.due i := by
  have own : l.relaysOf r = [] ∨ l.relaysOf r = s.relay.toList := bound ▸ s.due_eq_or i
  have released : (s.allLeaving.foldl (Layer.receive r i) l).relaysOf r = [] := by
    refine (Layer.relaysOf_foldl_leaving s.layers fun there => ⟨own, loose (Or.inl there)⟩).trans ?_
    rw [bound]
    exact s.due_vacated i
  cases t with
  | aside alike unheard =>
    rw [Layer.foldl_aside unheard, bound, Sheet.due, Sheet.due, objects, objects, alike.layers_eq,
      alike.relay]
  | @gain stack ls n e _ _ grows _ _ =>
    have members : i ∈ stack.layers.map (·.object) ↔ i ∈ s.objects ∨ i ∈ ls.map (·.object) := by
      rw [(grows.map _).mem_iff, List.map_append, List.mem_append]
      rfl
    rw [List.foldl_append]
    rcases Option.eq_none_or_eq_some s.relay with idle | ⟨k, listening⟩
    · have idle' : ({ s with stack } : Sheet).relay = none := idle
      rw [entering_of_idle idle, due_of_idle idle']
      exact bound.trans (due_of_idle idle i)
    · have pliant : i ∈ ls.map (·.object) → l.Pliant r [k] := fun there =>
        ⟨by simpa [listening] using own, loose (Or.inr (members.mpr (Or.inr there)))⟩
      rw [entering_of_listening listening]
      refine (Layer.relaysOf_foldl_subscribe ls pliant).trans ?_
      rw [bound, Sheet.due, Sheet.due, listening]
      by_cases new : i ∈ ls.map (·.object)
      · rw [if_pos new]
        exact (if_pos (members.mpr (Or.inr new))).symm
      · have same : i ∈ s.objects ↔ i ∈ stack.layers.map (·.object) := by
          rw [members]
          exact ⟨Or.inl, fun there => there.resolve_right new⟩
        rw [if_neg new]
        exact if_congr same rfl rfl
  | @lose stack ls n e _ shrinks _ =>
    have members : i ∈ s.objects ↔ i ∈ ls.map (·.object) ∨ i ∈ stack.layers.map (·.object) := by
      rw [objects, (shrinks.map _).mem_iff, List.map_append, List.mem_append]
    have pliant : i ∈ ls.map (·.object) → l.Pliant r s.relay.toList := fun there =>
      ⟨own, loose (Or.inl (members.mpr (Or.inl there)))⟩
    rw [List.foldl_append]
    refine (Layer.relaysOf_foldl_leaving ls pliant).trans ?_
    rw [bound, Sheet.due, Sheet.due]
    by_cases old : i ∈ ls.map (·.object)
    · have gone : i ∉ stack.layers.map (·.object) := by
        rw [objects, (shrinks.map _).nodup_iff, List.map_append] at once
        exact fun there => List.disjoint_of_nodup_append once old there
      rw [if_pos old]
      exact (if_neg gone).symm
    · have same : i ∈ s.objects ↔ i ∈ stack.layers.map (·.object) := by
        rw [members]
        exact ⟨fun there => there.resolve_left old, Or.inr⟩
      rw [if_neg old]
      exact if_congr same rfl rfl
  | finish _ n =>
    have told (l : Layer) : (Action.note n :: if s.layerCount = 0 then [] else
        [s.publishStack (.removed none .all)]).foldl (Layer.receive r i) l = l := by
      split <;> rfl
    rw [List.foldl_append, told]
    exact released
  | abandon _ n => exact released
  | relist => exact bound
  | @start roster n _ idle _ _ =>
    have pliant : i ∈ s.objects → l.Pliant r [s.relaysMade] := fun there =>
      ⟨Or.inl (bound.trans (due_of_idle idle i)), loose (Or.inl there)⟩
    rw [List.foldl_append]
    refine (Layer.relaysOf_foldl_subscribe s.layers pliant).trans ?_
    rw [bound, due_of_idle idle]
    rfl
  | @stop roster k n listening _ _ =>
    have pliant : i ∈ s.objects → l.Pliant r [k] := fun there =>
      ⟨by simpa [listening] using own, loose (Or.inl there)⟩
    rw [List.foldl_append]
    refine (Layer.relaysOf_foldl_unsubscribe s.layers pliant).trans ?_
    rw [bound]
    exact (s.due_vacated i).trans (due_of_idle rfl i).symm

end Sheet

namespace World

variable {w : World} {c : Command}

/-- What a sheet relies on: genuine handles, layers that let go, no member of it on another sheet,
and nobody else who disposes of a member. -/
structure Exclusive (r : SheetRef) (w : World) (c : Command) : Prop where
  genuine : w.Genuine c
  loose : w.actor c = some r → ∀ l ∈ c.offer.layers, (w.layer l.object).isSticky = false
  apart : ∀ x ∈ w.scene.handles, x.2 ≠ r → ∀ i ∈ (w.sheet r).objects, i ∉ (w.sheet x.2).objects
  spared : ∀ i ∈ (w.sheet r).objects, endsLayer i c = false

instance (r : SheetRef) (w : World) (c : Command) : Decidable (w.Exclusive r c) :=
  decidable_of_iff
    (w.Genuine c ∧
      (w.actor c = some r → ∀ l ∈ c.offer.layers, (w.layer l.object).isSticky = false) ∧
      (∀ x ∈ w.scene.handles, x.2 ≠ r →
        ∀ i ∈ (w.sheet r).objects, i ∉ (w.sheet x.2).objects) ∧
      ∀ i ∈ (w.sheet r).objects, endsLayer i c = false)
    ⟨fun ⟨genuine, loose, apart, spared⟩ => ⟨genuine, loose, apart, spared⟩,
      fun ⟨genuine, loose, apart, spared⟩ => ⟨genuine, loose, apart, spared⟩⟩

structure Subscribed (r : SheetRef) (w : World) : Prop where
  sound : w.Sound
  genuine : w.GenuineMembers
  loose : ∀ i ∈ (w.sheet r).objects, (w.layer i).isSticky = false
  due : ∀ i, (w.layer i).relaysOf r = (w.sheet r).due i

theorem loose_execute (h : w.Subscribed r) (ok : w.Exclusive r c) :
    ∀ i ∈ ((w.execute c).1.sheet r).objects, (w.layer i).isSticky = false := by
  intro i hi
  rcases execute_course h.sound c with ⟨r₀, actions, acts⟩ | rests
  · by_cases same : r = r₀
    · subst same
      obtain ⟨l, hl, rfl⟩ := List.mem_map.mp hi
      rcases acts.transition.mem_layers hl with old | new
      · exact h.loose l.object (List.mem_map_of_mem old)
      · exact ok.loose acts.actor l new
    · rw [Sheet.objects, (acts.others r same).layers_eq] at hi
      exact h.loose i hi
  · rw [Sheet.objects, (rests.sheets r).layers_eq] at hi
    exact h.loose i hi

theorem due_of_alike {s s' : Sheet} (alike : s.Alike s') (i : Nat) : s'.due i = s.due i := by
  rw [Sheet.due, Sheet.due, Sheet.objects, Sheet.objects, alike.layers_eq, alike.relay]

/-- What another sheet disposes of was a member of it, so it was none of this sheet. -/
theorem relaysOf_of_other {r₀ : SheetRef} {w' : World} {actions : List Action} {i : Nat}
    (acts : w.Acts w' c r₀ actions) (other : r ≠ r₀)
    (due : (w.layer i).relaysOf r = (w.sheet r).due i)
    (apart : i ∈ (w.sheet r).objects → i ∉ (w.sheet r₀).objects) :
    (w'.layer i).relaysOf r = (w.layer i).relaysOf r := by
  rw [acts.layers]
  refine Layer.relaysOf_foldl_stranger (Ne.symm other) ?_
  by_cases elsewhere : i ∈ (w.sheet r₀).objects
  · have stranger : i ∉ (w.sheet r).objects := fun mine => apart mine elsewhere
    exact Or.inr (due.trans (if_neg stranger))
  · have absent : (w.sheet r₀).copies i = 0 := by
      apply List.countP_eq_zero.mpr
      intro l hl same
      exact elsewhere (beq_iff_eq.mp same ▸ List.mem_map_of_mem hl)
    rcases acts.transition.conserves (i := i) with ⟨none_disposed, -⟩ | lost
    · exact Or.inl none_disposed
    · exact Or.inl (by omega)

/-- A command leaves subscribed to a layer what ought to be. -/
theorem due_execute (sound : w.Sound) (members : w.GenuineMembers) {i : Nat}
    (due : (w.layer i).relaysOf r = (w.sheet r).due i)
    (loose : i ∈ (w.sheet r).objects ∨ i ∈ ((w.execute c).1.sheet r).objects →
      (w.layer i).isSticky = false)
    (apart : i ∈ (w.sheet r).objects → ∀ x ∈ w.scene.handles, x.2 ≠ r →
      i ∉ (w.sheet x.2).objects)
    (spared : i ∈ (w.sheet r).objects → endsLayer i c = false) :
    ((w.execute c).1.layer i).relaysOf r = ((w.execute c).1.sheet r).due i := by
  rcases execute_course sound c with ⟨r₀, actions, acts⟩ | rests
  · by_cases same : r = r₀
    · subst same
      rw [acts.layers]
      exact acts.transition.relaysOf (nodup_objects sound members r) due loose
    · have elsewhere : i ∈ (w.sheet r).objects → i ∉ (w.sheet r₀).objects := by
        intro mine
        obtain ⟨x, hx, rfl⟩ := (isOpen_iff w).mp (isOpen_of_actor acts.actor)
        exact apart mine x hx (Ne.symm same)
      rw [relaysOf_of_other acts same due elsewhere, due, due_of_alike (acts.others r same)]
  · rw [rests.layers, due_of_alike (rests.sheets r), ← due]
    refine Layer.relaysOf_suffer ?_
    by_cases member : i ∈ (w.sheet r).objects
    · exact Or.inl (spared member)
    · exact Or.inr (due.trans (if_neg member))

theorem execute_subscribed (h : w.Subscribed r) (ok : w.Exclusive r c) :
    (w.execute c).1.Subscribed r := by
  refine ⟨sound_execute h.sound c, genuineMembers_execute h.sound ok.genuine h.genuine, ?_, ?_⟩
  · intro i hi
    rw [lasting_execute Layer.lasting_isSticky h.sound]
    exact loose_execute h ok i hi
  · intro i
    exact due_execute h.sound h.genuine (h.due i)
      (fun member => member.elim (h.loose i) (loose_execute h ok i))
      (fun mine x hx other => ok.apart x hx other i mine) (ok.spared i)

theorem subscribed_opening {layers : List (Layer × Flags)} (conducts : List Conduct)
    (fresh : ∀ x ∈ layers, x.1.relaysOf r = []) : (opening layers conducts).Subscribed r := by
  refine ⟨sound_opening layers conducts, genuineMembers_opening layers conducts, ?_, ?_⟩
  · intro i hi
    exact absurd hi List.not_mem_nil
  · exact layer_opening (P := (·.relaysOf r = [])) rfl fresh conducts

/-- In a run from an opening where no layer knows a relay of the sheet: the sheet has a relay while
somebody listens to its stack, and then this relay is subscribed once to each member and no other
one is; otherwise none is; and none is subscribed to what is not a member. -/
theorem relay_subscribed_to_members (layers : List (Layer × Flags)) (conducts : List Conduct)
    (r : SheetRef) (fresh : ∀ x ∈ layers, x.1.relaysOf r = []) (cs : List Command)
    (exclusive : Along (Exclusive r) (opening layers conducts) cs) :
    let w := (opening layers conducts).run cs
    let s := w.sheet r
    (s.isListening = true ↔ s.stackListeners.toList ≠ []) ∧
      (∀ k, s.relay = some k → ∀ l ∈ s.layers,
        (w.layer l.object).subscribers.count (.relay r k) = 1 ∧
          ∀ n, n ≠ k → .relay r n ∉ (w.layer l.object).subscribers) ∧
      (s.isListening = false → ∀ l ∈ s.layers, ∀ n,
        .relay r n ∉ (w.layer l.object).subscribers) ∧
      ∀ i, (∀ l ∈ s.layers, l.object ≠ i) → ∀ n, .relay r n ∉ (w.layer i).subscribers := by
  intro w s
  have h : w.Subscribed r :=
    run_keeps (Subscribed r) (fun _ _ => execute_subscribed) cs _ exclusive
      (subscribed_opening conducts fresh)
  have due (i : Nat) : (w.layer i).relaysOf r = s.due i := h.due i
  refine ⟨?_, ?_, ?_, ?_⟩
  · rw [Sheet.isListening, Option.isSome_iff_ne_none]
    exact not_congr (h.sound.sheets r).listening
  · intro k hk l hl
    have there : l.object ∈ s.objects := List.mem_map_of_mem hl
    have one : (w.layer l.object).relaysOf r = [k] := by
      rw [due, Sheet.due, if_pos there, hk]
      rfl
    constructor
    · rw [← Layer.count_relaysOf, one]
      exact List.count_singleton_self
    · intro n other mem
      rw [← Layer.mem_relaysOf, one] at mem
      exact other (List.mem_singleton.mp mem)
  · intro silent l _ n mem
    have idle : s.relay = none := by simpa [Sheet.isListening] using silent
    rw [← Layer.mem_relaysOf, due, Sheet.due_of_idle idle] at mem
    exact List.not_mem_nil mem
  · intro i absent n mem
    have stranger : i ∉ s.objects := by
      intro there
      obtain ⟨l, hl, same⟩ := List.mem_map.mp there
      exact absent l hl same
    rw [← Layer.mem_relaysOf, due, Sheet.due, if_neg stranger] at mem
    exact List.not_mem_nil mem

/-- Listeners come and go while a layer is removed and added again and a twin is refused. -/
theorem relay_subscribed_to_members_readded :
    let l : LayerHandle := { object := 0, id := .numbered 0 }
    let twin : LayerHandle := { object := 1, id := .numbered 0 }
    let layers : List (Layer × Flags) := [(.blank, {}), (.blank, {})]
    let cs : List Command :=
      [.create "m" none none ({} : TransformTable Float).reprojector, .sheet "m" (.listenToStack ⟨0⟩),
        .sheet "m" (.addAll [l, l, twin]), .sheet "m" (.remove l.id), .sheet "m" (.add l),
        .sheet "m" (.unlistenToStack ⟨0⟩), .sheet "m" (.listenToStack ⟨1⟩)]
    let w : World := .opening layers []
    (∀ x ∈ layers, x.1.relaysOf ⟨0⟩ = []) ∧ Along (Exclusive ⟨0⟩) w cs ∧
      ((w.run cs).layer 0).subscribers.count (.relay ⟨0⟩ 1) = 1 ∧
      ∀ n, .relay ⟨0⟩ n ∉ ((w.run cs).layer 1).subscribers := by
  intro l twin layers cs w
  have fresh : ∀ x ∈ layers, x.1.relaysOf ⟨0⟩ = [] := by decide
  have exclusive : Along (Exclusive ⟨0⟩) w cs := by decide +kernel
  have listening : ((w.run cs).sheet ⟨0⟩).relay = some 1 := by decide +kernel
  have members : ((w.run cs).sheet ⟨0⟩).layers = [l] := by decide +kernel
  obtain ⟨-, subscribed, -, apart⟩ :=
    relay_subscribed_to_members layers [] ⟨0⟩ fresh cs exclusive
  refine ⟨fresh, exclusive, ?_, ?_⟩
  · exact (subscribed 1 listening l (members ▸ List.mem_singleton_self l)).1
  · refine apart 1 fun m hm => ?_
    have only : m ∈ ((w.run cs).sheet ⟨0⟩).layers := hm
    rw [members] at only
    rw [List.mem_singleton.mp only]
    exact Nat.zero_ne_one

end World
end LayeredMap
